import TrafficFabric.RecordDecodes
import TrafficFabric.RepositoryRuns

set_option autoImplicit false

/- The hash chain of the log in memory over every run of calls, and what breaks it. -/
namespace TrafficFabric

open PlanRepository

/-- Each record points back to the one before it, the first to nothing, and the repository knows
the last. -/
structure HashChained (repository : PlanRepository) : Prop where
  links : repository.records.IsChain fun earlier later =>
    later.previousDigest = earlier.recordDigest ∧ later.sequence = earlier.sequence + 1
  head : ∀ record, repository.records.head? = some record → record.previousDigest = default
  last : ∀ record, repository.records.getLast? = some record →
    repository.lastSequence = record.sequence ∧ repository.lastRecordDigest = record.recordDigest
  empty : repository.records = [] → repository.lastSequence = 0 ∧ repository.lastRecordDigest = default

theorem Chained.isChain {start : Nat} {previous : Digest} {log : List DurableRecord}
    (chained : Chained start previous log) (count : start + log.length < 2 ^ 64) :
    log.IsChain fun earlier later =>
      later.previousDigest = earlier.recordDigest ∧ later.sequence = earlier.sequence + 1 := by
  induction log generalizing start previous with
  | nil => exact List.IsChain.nil
  | cons record rest ih =>
      obtain ⟨number, -, -, onward⟩ := chained
      rw [List.length_cons] at count
      have tail := ih onward (by omega)
      cases rest with
      | nil => exact List.IsChain.singleton record
      | cons next later =>
          obtain ⟨nextNumber, back, -, -⟩ := onward
          rw [List.length_cons] at count
          refine List.IsChain.cons_cons ⟨back, ?_⟩ tail
          apply UInt64.toNat.inj
          rw [UInt64.toNat_add, number, nextNumber]
          exact (Nat.mod_eq_of_lt (show start + 1 + 1 < 2 ^ 64 by omega)).symm

/-- The last record of a chain carries the number of records. -/
theorem Chained.last {log : List DurableRecord} {record : DurableRecord}
    (chained : Chained 0 default (log ++ [record])) : record.sequence.toNat = log.length + 1 := by
  rw [chained_append] at chained
  have number := chained.2.1
  omega

theorem PlanRepository.Linked.hashChained {repository : PlanRepository} {log : List DurableRecord}
    (linked : Linked repository log) : HashChained repository := by
  have records := linked.agrees.records
  refine ⟨?_, ?_, ?_, ?_⟩
  · rw [records]
    exact linked.chained.isChain (by have := linked.count; omega)
  · intro record head
    rw [records] at head
    cases log with
    | nil => cases head
    | cons first rest =>
        cases head
        exact linked.chained.2.1
  · intro record last
    rw [records] at last
    obtain ⟨earlier, rfl⟩ := List.getLast?_eq_some_iff.1 last
    refine ⟨?_, ?_⟩
    · apply UInt64.toNat.inj
      rw [linked.agrees.sequence, linked.chained.last, List.length_append]
      rfl
    · rw [linked.agrees.digest, tip_append]
      rfl
  · intro empty
    rw [records] at empty
    subst empty
    exact ⟨UInt64.toNat.inj linked.agrees.sequence, linked.agrees.digest⟩

namespace Mounted

variable {mounted : Mounted} {log : List DurableRecord}

/-- The log is chained in memory, and the directory has the files of an open repository. -/
structure Steady (mounted : Mounted) (log : List DurableRecord) : Prop where
  linked : Linked mounted.repository log
  settled : Settled mounted.files

theorem Opened.steady (opened : Opened mounted) :
    ∃ log covered first, Steady mounted log ∧ Ready mounted.files log covered first := by
  cases opened with
  | opened holds answer =>
      rename_i directory log options repository actions
      obtain ⟨found, done, answered, -, opens⟩ := holds.opens options
      rw [answer] at answered
      cases answered
      obtain ⟨covered, first, ready⟩ := opens.ready
      have flushed : (directory.performAll actions).flushed = directory.performAll actions :=
        Directory.flushed_synced ready.stored.synced
      refine ⟨log, covered, first, ⟨⟨opens.agrees, ready.stored.chained, ready.stored.count⟩, ?_⟩, ?_⟩
      · change Settled (directory.performAll actions).flushed
        rw [flushed]
        exact ready.settled
      · change Ready (directory.performAll actions).flushed log covered first
        rw [flushed]
        exact ready

/-- What a call does to the log. -/
theorem Did.steady {faults : Faults} {request : RepositoryCall} {status : Status} {after : Mounted}
    (did : Did mounted log faults request status after) (steady : Steady mounted log) :
    ∃ held, Steady after held := by
  cases did with
  | failed reason bytes left same extended temporaries =>
      refine ⟨log, ?_, settled_extended steady.settled extended temporaries⟩
      rw [same]
      exact steady.linked
  | taken type payload asked works follows room early linked extended temporaries =>
      exact ⟨_, linked, settled_extended steady.settled extended temporaries⟩
  | compacted held grown linked settled ends =>
      subst ends
      have rewritten := compact_leaves linked settled
      exact ⟨held, rewritten.linked, rewritten.settled⟩

theorem light_none : Light {} := ⟨rfl, rfl, rfl⟩

/-- An append that nothing stands in the way of takes its record up. -/
theorem step_grows {request : RepositoryCall} {type : RecordType} {payload : List UInt8}
    (steady : Steady mounted log) (asked : request.writes = some (type, payload))
    (answered : mounted.answer {} request = mounted.repository.append {} type payload)
    (below : log.length < mounted.repository.options.maxRecords.toNat)
    (bounded : payload.length ≤ Frame.maxRecordPayload)
    (fits : ¬ mounted.repository.Overflows (mounted.repository.nextRecord type payload)) :
    (mounted.answer {} request).1 = .ok () ∧
      Steady (mounted.step request) (log ++ [mounted.repository.nextRecord type payload]) ∧
      (mounted.step request).repository.options = mounted.repository.options := by
  have agrees := steady.linked.agrees
  have success : (mounted.answer {} request).1 = .ok () := by
    rw [answered]
    apply append_succeeds agrees.alive agrees.isOpen ?_ bounded fits
    rw [agrees.records]
    exact below
  have roomy : ¬ mounted.Crowded request := by
    rintro ⟨type', payload', same, overflows⟩
    rw [asked] at same
    cases same
    exact fits overflows
  have did := call_did steady.linked steady.settled light_none request roomy
  rw [success] at did
  have options : (mounted.step request).repository.options = mounted.repository.options := by
    change (mounted.answer {} request).2.1.options = _
    rw [answered]
    exact append_options {} type payload
  refine ⟨success, ?_, options⟩
  change Did mounted log {} request (.ok ()) (mounted.step request) at did
  cases did with
  | taken type' payload' same works follows room early linked extended temporaries =>
      rw [asked] at same
      cases same
      exact ⟨linked, settled_extended steady.settled extended temporaries⟩
  | compacted held grown linked settled ends =>
      rcases grown with ⟨-, rfl⟩ | ⟨type', payload', same, -, -, -, rfl⟩
      · cases asked
      · rw [asked] at same
        cases same
        rw [ends]
        exact ⟨(compact_leaves linked settled).linked, (compact_leaves linked settled).settled⟩

/-! A fence, and as many of them as there may be. -/

theorem fencesOf_append (first second : List DurableRecord) :
    fencesOf (first ++ second) = fencesOf first ++ fencesOf second := List.filterMap_append

theorem fencesOf_fence (repository : PlanRepository) {fence : FenceRecord} (readable : fence.Readable) :
    fencesOf [repository.nextRecord .fence (encodeFence fence)] = [fence] := by
  have read := decodeFence_encodeFence readable
  unfold fencesOf
  simp only [List.filterMap_cons, List.filterMap_nil, nextRecord, if_true, read, Except.toOption]

theorem answer_addFence {fence : FenceRecord} (readable : fence.Readable) (faults : Faults) :
    mounted.answer faults (.addFence fence) =
      mounted.repository.append faults .fence (encodeFence fence) := by
  unfold answer addFence
  simp only [readable.publisher, readable.boot, readable.incarnation, Bool.not_true, Bool.or_self,
    Bool.false_eq_true, if_false]

theorem addFence_grows (steady : Steady mounted log) {fence : FenceRecord} (readable : fence.Readable)
    (below : log.length < mounted.repository.options.maxRecords.toNat)
    (roomy : (fencesOf log).length < Limits.maxFences) :
    ∃ held, Steady (mounted.step (.addFence fence)) held ∧ held.length = log.length + 1 ∧
      (fencesOf held).length = (fencesOf log).length + 1 ∧
      (mounted.step (.addFence fence)).repository.options = mounted.repository.options := by
  obtain ⟨-, grown, options⟩ := step_grows steady rfl (answer_addFence readable {}) below
    (length_encodeFence readable) (by
      rintro ⟨-, full⟩
      rw [steady.linked.agrees.fences_eq] at full
      omega)
  refine ⟨_, grown, by simp, ?_, options⟩
  rw [fencesOf_append, fencesOf_fence mounted.repository readable, List.length_append]
  rfl

/-- The same fence, over and over. -/
theorem addFence_fills {fence : FenceRecord} (readable : fence.Readable) (count : Nat)
    (steady : Steady mounted log)
    (below : log.length + count ≤ mounted.repository.options.maxRecords.toNat)
    (roomy : (fencesOf log).length + count ≤ Limits.maxFences) :
    ∃ held, Steady ((List.replicate count (.addFence fence)).foldl step mounted) held ∧
      held.length = log.length + count ∧ (fencesOf held).length = (fencesOf log).length + count ∧
      ((List.replicate count (.addFence fence)).foldl step mounted).repository.options =
        mounted.repository.options := by
  induction count generalizing mounted log with
  | zero => exact ⟨log, steady, rfl, rfl, rfl⟩
  | succ count ih =>
      obtain ⟨next, onward, longer, more, same⟩ :=
        addFence_grows steady readable (by omega) (by omega)
      obtain ⟨held, final, length, fences, options⟩ := ih onward (by rw [same]; omega) (by omega)
      refine ⟨held, final, by omega, by omega, options.trans same⟩

/-- A fence beyond the bound moves the sequence on and leaves the records as they are. -/
theorem addFence_passes (steady : Steady mounted log) {fence : FenceRecord} (readable : fence.Readable)
    (below : log.length < mounted.repository.options.maxRecords.toNat)
    (full : Limits.maxFences ≤ (fencesOf log).length) :
    (mounted.step (.addFence fence)).repository =
      mounted.repository.passed (mounted.repository.nextRecord .fence (encodeFence fence)) := by
  have agrees := steady.linked.agrees
  have overflows : mounted.repository.Overflows
      (mounted.repository.nextRecord .fence (encodeFence fence)) := by
    refine ⟨?_, ?_⟩
    · rw [fencesOf_fence mounted.repository readable]
      exact List.cons_ne_nil _ _
    · rw [agrees.fences_eq]
      exact full
  change (mounted.answer {} (.addFence fence)).2.1 = _
  rw [answer_addFence readable, append_eq agrees.alive agrees.isOpen (by rw [agrees.records]; exact below)
    (length_encodeFence readable)]
  rcases acknowledge_cases {} (mounted.repository.nextRecord .fence (encodeFence fence)) with
    ⟨-, reason, answered⟩ | ⟨fits, -⟩
  · rw [answered]
  · exact absurd overflows fits

/-- No call of the run is a fence beyond the fence bound. -/
theorem steady_run (opened : Opened mounted) {calls : List RepositoryCall}
    (roomy : Runs.Along step (fun state request => ¬ state.Crowded request) mounted calls) :
    ∃ log, Steady (calls.foldl step mounted) log := by
  obtain ⟨log, -, -, steady, -⟩ := opened.steady
  refine Runs.invariant (fun state => ∃ log, Steady state log) ?_ ⟨log, steady⟩ roomy
  intro state request held roomy
  obtain ⟨log, steady⟩ := held
  exact (call_did steady.linked steady.settled light_none request roomy).steady steady

/-- In every run in which no fence is appended beyond the fence bound, the log in memory stays a
hash chain, and a compaction writes a snapshot that can be read back if it is not too large. -/
theorem calls_keep_hashChained (opened : Opened mounted) {calls : List RepositoryCall}
    (roomy : Runs.Along step (fun state request => ¬ state.Crowded request) mounted calls) :
    HashChained (calls.foldl step mounted).repository ∧
      (snapshotSize (calls.foldl step mounted).repository.records ≤ Frame.maxFileBytes →
        ∀ options, ∃ repository actions,
          openRepository options ((calls.foldl step mounted).step .compact).files =
            .ok (repository, actions) ∧
          repository.records = (calls.foldl step mounted).repository.records) := by
  obtain ⟨log, steady⟩ := steady_run opened roomy
  refine ⟨steady.linked.hashChained, ?_⟩
  intro small options
  rw [steady.linked.agrees.records] at small ⊢
  have ready := (compact_leaves steady.linked steady.settled).ready small
  obtain ⟨repository, actions, answer, agrees, -⟩ := ready.opens options
  exact ⟨repository, actions, answer, agrees.records⟩

/-- A record, and then a compaction, in a repository that was empty. -/
theorem calls_keep_hashChained_fresh :
    HashChained ([.append .plan [1, 2, 3], .compact].foldl step fresh).repository := by
  have plain : ∀ state : Mounted, ¬ state.Crowded (.append .plan [1, 2, 3]) := by
    rintro state ⟨type, payload, same, overflows⟩
    cases same
    exact overflows.1 rfl
  have empty : ∀ state : Mounted, ¬ state.Crowded .compact := by
    rintro state ⟨type, payload, same, -⟩
    cases same
  have roomy : Runs.Along step (fun state request => ¬ state.Crowded request) fresh
      [.append .plan [1, 2, 3], .compact] := ⟨plain _, empty _, trivial⟩
  exact (calls_keep_hashChained fresh_opened roomy).1

/-- A record behind a fence that was passed over does not follow the one before the fence. -/
theorem passed_breaks (steady : Steady mounted log) {fence : FenceRecord} (readable : fence.Readable)
    (below : log.length < mounted.repository.options.maxRecords.toNat)
    (full : Limits.maxFences ≤ (fencesOf log).length) :
    ¬ HashChained ((mounted.step (.addFence fence)).step (.append .audit [])).repository := by
  intro chained
  have agrees := steady.linked.agrees
  have passes := addFence_passes steady readable below full
  let passed := mounted.repository.passed (mounted.repository.nextRecord .fence (encodeFence fence))
  let record := passed.nextRecord .audit []
  have room : passed.records.length < passed.options.maxRecords.toNat := by
    change mounted.repository.records.length < _
    rw [agrees.records]
    exact below
  have alive : passed.closed = false := agrees.alive
  have isOpen : passed.journalOpen = true := agrees.isOpen
  have bounded : ([] : List UInt8).length ≤ Frame.maxRecordPayload := Nat.zero_le _
  have appended : passed.append {} .audit [] =
      ((passed.acknowledge {} record).1, (passed.acknowledge {} record).2.1, _) :=
    append_eq alive isOpen room bounded
  have grown : (passed.acknowledge {} record).2.1.records = mounted.repository.records ++ [record] := by
    rcases passed.acknowledge_cases {} record with ⟨overflows, -⟩ | ⟨-, answered⟩
    · exact absurd rfl overflows.1
    · rw [answered]
      split <;> rfl
  have records : ((mounted.step (.addFence fence)).step (.append .audit [])).repository.records =
      log ++ [record] := by
    change ((mounted.step (.addFence fence)).repository.append {} .audit []).2.1.records = log ++ [record]
    rw [passes, appended, grown, agrees.records]
  have nonempty : log ≠ [] := by
    rintro rfl
    exact absurd full (by decide)
  obtain ⟨earlier, last, rfl⟩ := List.eq_nil_or_concat log |>.resolve_left nonempty
  have links := chained.links
  rw [records, List.concat_eq_append, List.append_assoc] at links
  have consecutive := (List.isChain_append.1 links).2.1
  have number := (List.isChain_cons_cons.1 consecutive).1.2
  have known := (steady.linked.hashChained.last last (by rw [agrees.records]; simp)).1
  change mounted.repository.lastSequence + 1 + 1 = last.sequence + 1 at number
  rw [known] at number
  have values := congrArg UInt64.toNat number
  have bound := last.sequence.toNat_lt
  simp only [UInt64.toNat_add, UInt64.reduceToNat] at values
  omega

def sampleFence : FenceRecord :=
  { publisher := ⟨text "publisher-1", Or.inr (by decide +kernel)⟩
    boot := ⟨Vector.replicate 16 1⟩
    incarnation := Gen.first
    reason := text "replaced by a newer incarnation"
    tick := 7 }

theorem sampleFence_readable : sampleFence.Readable := by
  constructor <;> decide +kernel

/-- One fence more than there may be, and then any other record: the log in memory is no hash
chain any more. -/
theorem calls_break_hashChain : ∃ calls : List RepositoryCall,
    calls = List.replicate 4097 (.addFence sampleFence) ++ [.append .audit []] ∧
      ¬ HashChained (calls.foldl step fresh).repository := by
  refine ⟨_, rfl, ?_⟩
  obtain ⟨log, -, -, steady, -⟩ := fresh_opened.steady
  have start : log = [] := steady.linked.agrees.records.symm
  subst start
  obtain ⟨held, filled, length, fences, options⟩ :=
    addFence_fills sampleFence_readable 4096 steady (by decide) (by decide)
  have split : List.replicate 4097 (RepositoryCall.addFence sampleFence) =
      List.replicate 4096 (.addFence sampleFence) ++ [.addFence sampleFence] := List.replicate_succ'
  rw [split, List.append_assoc, List.foldl_append]
  refine passed_breaks filled sampleFence_readable ?_ ?_
  · rw [options, length]
    decide
  · rw [fences]
    decide

end Mounted

end TrafficFabric
