import TrafficFabric.RepositoryReopens

set_option autoImplicit false

/- Appends that fail between appends that succeed. A failed append leaves the memory as it was, and
may leave bytes in the journal. -/
namespace TrafficFabric

open PlanRepository

/-- An append, and what fails in it. -/
structure Attempt where
  type : RecordType
  payload : List UInt8
  write : Option Nat := none
  sync : Bool := false

namespace Attempt

def faults (attempt : Attempt) : Faults := { write := attempt.write, sync := attempt.sync }

def request (attempt : Attempt) : RepositoryCall := .append attempt.type attempt.payload

theorem light (attempt : Attempt) : Mounted.Light attempt.faults := ⟨rfl, rfl, rfl⟩

end Attempt

namespace Mounted

variable {mounted : Mounted} {log : List DurableRecord} {attempt : Attempt}

def tried (mounted : Mounted) (attempt : Attempt) : Mounted :=
  mounted.call attempt.faults attempt.request

def Acknowledged (mounted : Mounted) (attempt : Attempt) : Prop :=
  (mounted.answer attempt.faults attempt.request).1 = .ok ()

/-- The append fails, and bytes of its record reach the journal. -/
def Spoils (mounted : Mounted) (attempt : Attempt) : Prop :=
  mounted.Accepts attempt.request ∧ attempt.faults.Leaves mounted.repository.options.fsync

/-- The append ends in a compaction, which writes the journal anew. -/
def Clears (mounted : Mounted) (attempt : Attempt) : Prop :=
  mounted.Accepts attempt.request ∧ attempt.faults.Works mounted.repository.options.fsync ∧
    mounted.repository.options.compactAfterRecords ≤ mounted.repository.recordsSinceCompaction + 1

/-- Some append has left bytes in the journal, and no compaction has run since. -/
def Soiled (mounted : Mounted) (attempts : List Attempt) : Prop :=
  ∃ earlier attempt later, attempts = earlier ++ attempt :: later ∧
    (earlier.foldl tried mounted).Spoils attempt ∧
    Runs.Along tried (fun state attempt => ¬ state.Clears attempt)
      ((earlier.foldl tried mounted).tried attempt) later

/-- No fence beyond the fence bound, and no snapshot beyond the size that can be read. -/
def Sound (mounted : Mounted) (attempt : Attempt) : Prop :=
  ¬ mounted.Crowded attempt.request ∧
    (mounted.Clears attempt → snapshotSize (mounted.held attempt.request) ≤ Frame.maxFileBytes)

theorem soiled_snoc (attempts : List Attempt) : Soiled mounted (attempts ++ [attempt]) ↔
    (attempts.foldl tried mounted).Spoils attempt ∨
      Soiled mounted attempts ∧ ¬ (attempts.foldl tried mounted).Clears attempt := by
  constructor
  · rintro ⟨earlier, spoiling, later, split, spoils, stays⟩
    rcases List.eq_nil_or_concat later with rfl | ⟨before, last, rfl⟩
    · obtain ⟨rfl, same⟩ := List.append_inj' split rfl
      cases same
      exact Or.inl spoils
    · rw [List.concat_eq_append, ← List.cons_append, ← List.append_assoc] at split
      obtain ⟨rfl, same⟩ := List.append_inj' split rfl
      cases same
      rw [List.concat_eq_append, Runs.along_append] at stays
      refine Or.inr ⟨⟨earlier, spoiling, before, rfl, spoils, stays.1⟩, ?_⟩
      rw [List.foldl_append]
      exact stays.2.1
  · rintro (spoils | ⟨⟨earlier, spoiling, later, rfl, spoils, stays⟩, kept⟩)
    · exact ⟨attempts, attempt, [], rfl, spoils, trivial⟩
    · refine ⟨earlier, spoiling, later ++ [attempt], by simp, spoils, ?_⟩
      rw [Runs.along_append]
      refine ⟨stays, ?_, trivial⟩
      rw [List.foldl_append] at kept
      exact kept

/-- Where the repository can take the record, an append in which nothing fails succeeds. -/
theorem acknowledged_of_works (steady : Steady mounted log) (accepts : mounted.Accepts attempt.request)
    (works : attempt.faults.Works mounted.repository.options.fsync)
    (roomy : ¬ mounted.Crowded attempt.request) : mounted.Acknowledged attempt := by
  obtain ⟨type, payload, asked, below, bounded⟩ := accepts
  cases asked
  have agrees := steady.linked.agrees
  change (mounted.repository.append attempt.faults attempt.type attempt.payload).1 = .ok ()
  rw [append_unbroken works attempt.light.compactLocked]
  refine append_succeeds agrees.alive agrees.isOpen below bounded ?_
  intro overflows
  exact roomy ⟨_, _, rfl, overflows⟩

theorem extended_nil {directory found : Directory} (extended : Extended directory [] found)
    (temporaries : found.temporaries = directory.temporaries) (synced : directory.unsynced = []) :
    found = directory := by
  refine Directory.eq_of_files ?_ temporaries ⟨extended.synced, synced⟩
  intro file
  by_cases same : file = .journal
  · subst same
    rw [extended.journal]
    simp
  · exact extended.others file same

/-- What one append keeps, whether it fails or not. -/
theorem tried_keeps (steady : Steady mounted log) (sound : mounted.Sound attempt) {soiled : Prop}
    (ready : ¬ soiled → ∃ covered first, Ready mounted.files log covered first) :
    ∃ held, Steady (mounted.tried attempt) held ∧ log <+: held ∧
      (mounted.Acknowledged attempt →
        held = log ++ [mounted.repository.nextRecord attempt.type attempt.payload]) ∧
      (¬ (mounted.Spoils attempt ∨ soiled ∧ ¬ mounted.Clears attempt) →
        ∃ covered first, Ready (mounted.tried attempt).files held covered first) := by
  obtain ⟨roomy, small⟩ := sound
  have answered : ∀ {status : Status}, (mounted.answer attempt.faults attempt.request).1 = status →
      (mounted.Acknowledged attempt ↔ status = .ok ()) := by
    intro status same
    unfold Acknowledged
    rw [same]
  have did := call_did steady.linked steady.settled attempt.light attempt.request roomy
  change Did mounted log attempt.faults attempt.request _ (mounted.tried attempt) at did
  generalize status : (mounted.answer attempt.faults attempt.request).1 = answer at did
  replace answered := answered status
  cases did with
  | failed reason bytes left same extended temporaries =>
      have refused : ¬ mounted.Acknowledged attempt := by
        rw [answered]
        exact nofun
      refine ⟨log,
        ⟨by rw [same]; exact steady.linked, settled_extended steady.settled extended temporaries⟩,
        List.prefix_rfl, fun acknowledged => absurd acknowledged refused, ?_⟩
      intro clean
      have fresh : ¬ mounted.Clears attempt := fun clears =>
        refused (acknowledged_of_works steady clears.1 clears.2.1 roomy)
      have empty : bytes = [] := left.resolve_right fun spoils => clean (Or.inl spoils)
      subst empty
      rw [show (mounted.tried attempt).files = mounted.files from extended_nil extended temporaries rfl]
      exact ready fun soiled => clean (Or.inr ⟨soiled, fresh⟩)
  | taken type payload asked works follows room early linked extended temporaries =>
      cases asked
      refine ⟨_, ⟨linked, settled_extended steady.settled extended temporaries⟩, List.prefix_append _ _,
        fun _ => rfl, ?_⟩
      intro clean
      have fresh : ¬ mounted.Clears attempt := fun clears => absurd clears.2.2 (not_le.2 early)
      obtain ⟨covered, first, ready⟩ := ready fun soiled => clean (Or.inr ⟨soiled, fresh⟩)
      exact ⟨covered, first, ready.extended follows room extended temporaries⟩
  | compacted held grown linked settled ends =>
      rcases grown with ⟨-, other⟩ | ⟨type, payload, asked, works, accepts, due, rfl⟩
      · cases other
      · cases asked
        have leaves := compact_leaves linked settled
        rw [← ends] at leaves
        refine ⟨_, ⟨leaves.linked, leaves.settled⟩, List.prefix_append _ _, fun _ => rfl, ?_⟩
        intro _
        have fits := small ⟨accepts, works, due⟩
        unfold Mounted.held at fits
        rw [steady.linked.agrees.records] at fits
        exact ⟨_, _, leaves.ready fits⟩

/-- Every run of appends, some of which fail. -/
theorem tried_run (opened : Opened mounted) {attempts : List Attempt}
    (sound : Runs.Along tried Sound mounted attempts) :
    ∃ log, Steady (attempts.foldl tried mounted) log ∧ (¬ Soiled mounted attempts →
      ∃ covered first, Ready (attempts.foldl tried mounted).files log covered first) := by
  obtain ⟨log, covered, first, steady, ready⟩ := opened.steady
  refine Runs.history (fun past state => ∃ log, Steady state log ∧ (¬ Soiled mounted past →
    ∃ covered first, Ready state.files log covered first))
    ⟨log, steady, fun _ => ⟨covered, first, ready⟩⟩ ?_ sound
  rintro past attempt ⟨log, steady, ready⟩ sound
  obtain ⟨held, onward, -, -, after⟩ := tried_keeps steady sound ready
  rw [soiled_snoc]
  exact ⟨held, onward, after⟩

/-- From a state on, the log only grows. -/
theorem tried_grows (steady : Steady mounted log) {attempts : List Attempt}
    (sound : Runs.Along tried Sound mounted attempts) :
    ∃ held, Steady (attempts.foldl tried mounted) held ∧ log <+: held := by
  refine Runs.invariant (fun state => ∃ held, Steady state held ∧ log <+: held) ?_
    ⟨log, steady, List.prefix_rfl⟩ sound
  rintro state attempt ⟨held, steady, grown⟩ sound
  have unknown : ¬ True → ∃ covered first, Ready state.files held covered first :=
    fun no => absurd trivial no
  obtain ⟨after, onward, longer, -⟩ := tried_keeps steady sound unknown
  exact ⟨after, onward, grown.trans longer⟩

/-- Whatever fails on the way, an append that returned success is found by the next open if no
bytes of a failed append lie in the journal then. -/
theorem acknowledged_recovered (opened : Opened mounted) {earlier later : List Attempt}
    {attempt : Attempt} (sound : Runs.Along tried Sound mounted (earlier ++ attempt :: later))
    (acknowledged : (earlier.foldl tried mounted).Acknowledged attempt)
    (clean : ¬ Soiled mounted (earlier ++ attempt :: later)) (options : RepositoryOptions) :
    ∃ repository actions,
      openRepository options ((earlier ++ attempt :: later).foldl tried mounted).files =
        .ok (repository, actions) ∧
      (earlier.foldl tried mounted).repository.nextRecord attempt.type attempt.payload ∈
        repository.records := by
  obtain ⟨log, steady, ready⟩ := tried_run opened sound
  obtain ⟨covered, first, ready⟩ := ready clean
  obtain ⟨repository, actions, answer, agrees, -⟩ := ready.opens options
  refine ⟨repository, actions, answer, ?_⟩
  rw [agrees.records, ← steady.linked.agrees.records]
  -- The record is in memory from its append on.
  obtain ⟨past, ahead⟩ := Runs.along_append.1 sound
  obtain ⟨before, steadyBefore, -⟩ := tried_run opened past
  have unknown : ¬ True → ∃ covered first, Ready (earlier.foldl tried mounted).files before covered first :=
    fun no => absurd trivial no
  obtain ⟨held, onward, -, grown, -⟩ := tried_keeps steadyBefore ahead.1 unknown
  obtain ⟨final, steadyFinal, kept⟩ := tried_grows onward ahead.2
  rw [List.foldl_append, List.foldl_cons, steadyFinal.linked.agrees.records]
  apply kept.subset
  rw [grown acknowledged]
  exact List.mem_append_right _ (List.mem_singleton_self _)

/-- A write that fails before a byte is out, and then one that succeeds. -/
theorem acknowledged_recovered_retry : ∃ repository actions,
    openRepository {} ([⟨.plan, [1], some 0, false⟩, ⟨.plan, [2], none, false⟩].foldl tried fresh).files =
      .ok (repository, actions) ∧
    fresh.repository.nextRecord .plan [2] ∈ repository.records := by
  have roomy : ∀ (state : Mounted) (payload : List UInt8), ¬ state.Crowded (.append .plan payload) := by
    rintro state payload ⟨type, payload', same, overflows⟩
    cases same
    exact overflows.1 rfl
  have early : ¬ fresh.repository.options.compactAfterRecords ≤
      fresh.repository.recordsSinceCompaction + 1 := by decide
  have sound : Runs.Along tried Sound fresh [⟨.plan, [1], some 0, false⟩, ⟨.plan, [2], none, false⟩] :=
    ⟨⟨roomy _ _, fun clears => absurd clears.2.2 early⟩,
      ⟨roomy _ _, fun clears => absurd clears.2.2 early⟩, trivial⟩
  have clean : ¬ Soiled fresh [⟨.plan, [1], some 0, false⟩, ⟨.plan, [2], none, false⟩] := by
    have split : [⟨.plan, [1], some 0, false⟩, ⟨.plan, [2], none, false⟩] =
        ([] ++ [⟨.plan, [1], some 0, false⟩]) ++ [(⟨.plan, [2], none, false⟩ : Attempt)] := rfl
    rw [split, soiled_snoc, soiled_snoc]
    rintro (⟨-, ⟨written, broken⟩ | ⟨-, broken⟩⟩ | ⟨⟨-, ⟨written, broken⟩ | ⟨whole, -⟩⟩ | ⟨soiled, -⟩, -⟩)
    · cases broken
    · cases broken
    · cases broken
    · cases whole
    · obtain ⟨earlier, attempt, later, empty, -⟩ := soiled
      simp at empty
  have acknowledged : ([⟨.plan, [1], some 0, false⟩].foldl tried fresh).Acknowledged
      ⟨.plan, [2], none, false⟩ :=
    rfl
  exact acknowledged_recovered fresh_opened sound acknowledged clean {}

/-! One byte too many. -/

/-- The magic at the front of every record. -/
theorem recordImage_front (record : DurableRecord) :
    ∃ rest, recordImage record = 0x54 :: 0x45 :: 0x46 :: 0x52 :: rest := by
  have magic : Writer.u32 Frame.recordMagic = [0x54, 0x45, 0x46, 0x52] := by decide
  have image : recordImage record ++ [] = _ := Frame.image_append []
  rw [recordHeader_append, magic, List.append_nil] at image
  exact ⟨_, image⟩

/-- A byte before a record hides it. -/
theorem journalFrame_shifted (record : DurableRecord) :
    journalFrame (0x54 :: recordImage record) = none := by
  have found : field (0x54 :: recordImage record) 0 4 = [0x54, 0x54, 0x45, 0x46] := by
    obtain ⟨rest, image⟩ := recordImage_front record
    rw [image]
    rfl
  have magic : Frame.magicOf (0x54 :: recordImage record) ≠ Frame.recordMagic := by
    unfold Frame.magicOf
    rw [found]
    decide
  unfold journalFrame
  rw [if_pos magic, ite_self]

/-- One byte of a record is written before the write fails; the next append returns success, and
the next open does not find its record. -/
theorem acknowledged_lost : ∃ attempts : List Attempt,
    attempts = [⟨.plan, [1], some 1, false⟩, ⟨.plan, [2], none, false⟩] ∧
      (fresh.tried ⟨.plan, [1], some 1, false⟩).Acknowledged ⟨.plan, [2], none, false⟩ ∧
      ∀ options, ∃ repository actions,
        openRepository options (attempts.foldl tried fresh).files = .ok (repository, actions) ∧
          repository.records = [] := by
  refine ⟨_, rfl, rfl, ?_⟩
  intro options
  obtain ⟨log, covered, first, steady, ready⟩ := fresh_opened.steady
  have start : log = [] := steady.linked.agrees.records.symm
  subst start
  let record := fresh.repository.nextRecord .plan [2]
  have written : (recordImage (fresh.repository.nextRecord .plan [1])).take 1 = [0x54] := by
    obtain ⟨rest, image⟩ := recordImage_front (fresh.repository.nextRecord .plan [1])
    rw [image]
    rfl
  have extended : Extended fresh.files (0x54 :: recordImage record)
      ([⟨.plan, [1], some 1, false⟩, ⟨.plan, [2], none, false⟩].foldl tried fresh).files := by
    have bytes : ([⟨.plan, [1], some 1, false⟩, ⟨.plan, [2], none, false⟩].foldl tried fresh).files.files
        .journal = (fresh.files.files .journal).map fun whole => whole ++
          ((recordImage (fresh.repository.nextRecord .plan [1])).take 1 ++ recordImage record) := by
      have torn : (fresh.tried ⟨.plan, [1], some 1, false⟩).files.files .journal =
          (fresh.files.files .journal).map fun whole =>
            whole ++ (recordImage (fresh.repository.nextRecord .plan [1])).take 1 :=
        (flushed_writing _).journal
      have whole : ((fresh.tried ⟨.plan, [1], some 1, false⟩).tried ⟨.plan, [2], none, false⟩).files.files
          .journal = ((fresh.tried ⟨.plan, [1], some 1, false⟩).files.files .journal).map fun whole =>
            whole ++ recordImage record := by
        have appending : Extended (fresh.tried ⟨.plan, [1], some 1, false⟩).files (recordImage record)
            ((fresh.tried ⟨.plan, [1], some 1, false⟩).directory.performAll
              (.writeJournal (recordImage record) :: fresh.repository.syncs)).flushed :=
          flushed_appending (recordImage record)
        exact appending.journal
      change ((fresh.tried ⟨.plan, [1], some 1, false⟩).tried ⟨.plan, [2], none, false⟩).files.files
        .journal = _
      rw [whole, torn, Option.map_map]
      congr 1
      funext bytes
      exact List.append_assoc _ _ _
    rw [written] at bytes
    refine ⟨bytes, ?_, rfl⟩
    intro file other
    cases file with
    | journal => exact absurd rfl other
    | manifest | snapshot => rfl
  have stored := ready.torn extended (journalFrame_shifted record)
  obtain ⟨repository, actions, answer, -, opens, -⟩ := stored.opens (Or.inr ready.continues) options
  exact ⟨repository, actions, answer, opens.agrees.records⟩

end Mounted

end TrafficFabric
