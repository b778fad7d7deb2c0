import TrafficFabric.RepositoryChain

set_option autoImplicit false

/- Whether the next open takes a repository back. The writer is bounded by record and by record
count, the reader of a snapshot by the size of the file. -/
namespace TrafficFabric

open PlanRepository

namespace Mounted

variable {mounted : Mounted} {log : List DurableRecord}

def Succeeds (mounted : Mounted) (request : RepositoryCall) : Prop :=
  (mounted.answer {} request).1 = .ok ()

/-- The call ends in a compaction. -/
def Rewrites (mounted : Mounted) (request : RepositoryCall) : Prop :=
  request = .compact ∨ request.writes.isSome ∧
    mounted.repository.options.compactAfterRecords ≤ mounted.repository.recordsSinceCompaction + 1

/-- The records held once the call has appended. -/
def held (mounted : Mounted) (request : RepositoryCall) : List DurableRecord :=
  mounted.repository.records ++
    (request.writes.map fun written => mounted.repository.nextRecord written.1 written.2).toList

/-- If the call compacts, its snapshot is one that can be read. -/
def Fits (mounted : Mounted) (request : RepositoryCall) : Prop :=
  mounted.Rewrites request → snapshotSize (mounted.held request) ≤ Frame.maxFileBytes

theorem Succeeds.roomy {request : RepositoryCall} (succeeds : mounted.Succeeds request) :
    ¬ mounted.Crowded request := by
  rintro ⟨type, payload, asked, overflows⟩
  unfold Succeeds at succeeds
  rcases answer_cases {} request with ⟨reason, refused⟩ | ⟨type', payload', same, appends⟩ | ⟨rfl, -⟩
  · rw [refused] at succeeds
    cases succeeds
  · rw [asked] at same
    cases same
    rw [appends] at succeeds
    have cases : Appended mounted.repository {} type payload _ := append_cases {} type payload
    generalize mounted.repository.append {} type payload = answer at cases succeeds
    cases cases with
    | refused | torn | unflushed | passed => cases succeeds
    | taken works below bounded fits => exact fits overflows
    | compacted works below bounded fits => exact fits overflows
  · cases asked

/-- The snapshot is too large to be read. -/
def Oversized (mounted : Mounted) (log : List DurableRecord) : Prop :=
  ∃ bytes, mounted.files.files .snapshot = some bytes ∧ Frame.maxFileBytes < bytes.length ∧
    bytes.length ≤ snapshotSize log

theorem snapshotSize_append (first second : List DurableRecord) :
    snapshotSize first ≤ snapshotSize (first ++ second) := by
  unfold snapshotSize
  rw [List.map_append, List.sum_append]
  omega

theorem oversized_refused {directory : Directory} {bytes : List UInt8}
    (present : directory.files .snapshot = some bytes) (large : Frame.maxFileBytes < bytes.length)
    (options : RepositoryOptions) (opened : PlanRepository × List DiskAction) :
    openRepository options directory ≠ .ok opened := by
  have refused : ∃ reason, openSnapshot directory = .error reason := by
    unfold openSnapshot loadSnapshot
    rw [present]
    simp only [large, if_true]
    exact ⟨_, rfl⟩
  obtain ⟨reason, refused⟩ := refused
  intro answer
  unfold openRepository at answer
  rw [refused] at answer
  cases manifest : openManifest directory with
  | error reason =>
      rw [manifest] at answer
      cases answer
  | ok actions =>
      rw [manifest] at answer
      cases answer

/-- What a call that returns success leaves behind, where the files could be read so far. -/
theorem succeeds_ready {request : RepositoryCall} (steady : Steady mounted log)
    (succeeds : mounted.Succeeds request) {covered first : Nat}
    (ready : Ready mounted.files log covered first) :
    ∃ held, Steady (mounted.step request) held ∧
      (mounted.Fits request ∧ (∃ covered first, Ready (mounted.step request).files held covered first) ∨
        ¬ mounted.Fits request ∧ Oversized (mounted.step request) held) := by
  have did := call_did steady.linked steady.settled light_none request succeeds.roomy
  rw [show (mounted.answer {} request).1 = .ok () from succeeds] at did
  change Did mounted log {} request (.ok ()) (mounted.step request) at did
  obtain ⟨after, afterSteady⟩ := did.steady steady
  cases did with
  | taken type payload asked works follows room early linked extended temporaries =>
      refine ⟨_, ⟨linked, settled_extended steady.settled extended temporaries⟩, Or.inl ⟨?_, ?_⟩⟩
      · rintro (rfl | ⟨-, due⟩)
        · cases asked
        · exact absurd due (not_le.2 early)
      · exact ⟨covered, first, ready.extended follows room extended temporaries⟩
  | compacted held grown linked settled ends =>
      have leaves := compact_leaves linked settled
      rw [← ends] at leaves
      have same : held = mounted.held request ∧ mounted.Rewrites request := by
        unfold Mounted.held
        rw [steady.linked.agrees.records]
        rcases grown with ⟨rfl, rfl⟩ | ⟨type, payload, asked, -, -, due, rfl⟩
        · exact ⟨(List.append_nil _).symm, Or.inl rfl⟩
        · rw [asked]
          exact ⟨rfl, Or.inr ⟨by rw [asked]; rfl, due⟩⟩
      refine ⟨held, ⟨leaves.linked, leaves.settled⟩, ?_⟩
      unfold Fits
      rw [← same.1]
      by_cases small : snapshotSize held ≤ Frame.maxFileBytes
      · exact Or.inl ⟨fun _ => small, _, _, leaves.ready small⟩
      · refine Or.inr ⟨fun fits => small (fits same.2), ?_⟩
        obtain ⟨bytes, present, length⟩ := leaves.snapshot
        exact ⟨bytes, present, by omega, by omega⟩

/-- A snapshot that is too large is only ever replaced by a larger one. -/
theorem succeeds_oversized {request : RepositoryCall} (steady : Steady mounted log)
    (succeeds : mounted.Succeeds request) (oversized : Oversized mounted log) :
    ∃ held, Steady (mounted.step request) held ∧ Oversized (mounted.step request) held := by
  have did := call_did steady.linked steady.settled light_none request succeeds.roomy
  rw [show (mounted.answer {} request).1 = .ok () from succeeds] at did
  change Did mounted log {} request (.ok ()) (mounted.step request) at did
  obtain ⟨bytes, present, large, below⟩ := oversized
  cases did with
  | taken type payload asked works follows room early linked extended temporaries =>
      have longer := snapshotSize_append log [mounted.repository.nextRecord type payload]
      refine ⟨_, ⟨linked, settled_extended steady.settled extended temporaries⟩, bytes, ?_, large,
        below.trans longer⟩
      rw [extended.others _ (by decide)]
      exact present
  | compacted held grown linked settled ends =>
      have leaves := compact_leaves linked settled
      rw [← ends] at leaves
      have longer : snapshotSize log ≤ snapshotSize held := by
        rcases grown with ⟨rfl, -⟩ | ⟨type, payload, -, -, -, -, rfl⟩
        · exact Nat.le_refl _
        · exact snapshotSize_append log _
      obtain ⟨bytes', present', length⟩ := leaves.snapshot
      exact ⟨held, ⟨leaves.linked, leaves.settled⟩, bytes', present', by omega, by omega⟩

/-- Every run of successful calls, looked at from its last call. -/
theorem succeeding_run (opened : Opened mounted) {calls : List RepositoryCall}
    (succeed : Runs.Along step Succeeds mounted calls) :
    ∃ log, Steady (calls.foldl step mounted) log ∧
      (Runs.Along step Fits mounted calls ∧
          (∃ covered first, Ready (calls.foldl step mounted).files log covered first) ∨
        ¬ Runs.Along step Fits mounted calls ∧ Oversized (calls.foldl step mounted) log) := by
  obtain ⟨log, covered, first, steady, ready⟩ := opened.steady
  refine Runs.history (fun past state => ∃ log, Steady state log ∧
      (Runs.Along step Fits mounted past ∧ (∃ covered first, Ready state.files log covered first) ∨
        ¬ Runs.Along step Fits mounted past ∧ Oversized state log))
    ⟨log, steady, Or.inl ⟨trivial, covered, first, ready⟩⟩ ?_ succeed
  intro past request held succeeds
  have split : Runs.Along step Fits mounted (past ++ [request]) ↔
      Runs.Along step Fits mounted past ∧ (past.foldl step mounted).Fits request := by
    rw [Runs.along_append]
    simp [Runs.Along]
  rw [split]
  obtain ⟨log, steady, ⟨fitted, covered, first, ready⟩ | ⟨unfit, oversized⟩⟩ := held
  · obtain ⟨after, onward, ⟨fits, readable⟩ | ⟨large, oversized⟩⟩ := succeeds_ready steady succeeds ready
    · exact ⟨after, onward, Or.inl ⟨⟨fitted, fits⟩, readable⟩⟩
    · exact ⟨after, onward, Or.inr ⟨fun both => large both.2, oversized⟩⟩
  · obtain ⟨after, onward, still⟩ := succeeds_oversized steady succeeds oversized
    exact ⟨after, onward, Or.inr ⟨fun both => unfit both.1, still⟩⟩

/-- After calls that all returned success the directory can be opened again exactly if every
compaction among them wrote a snapshot within the size a durable file may have. -/
theorem reopens_iff (opened : Opened mounted) {calls : List RepositoryCall}
    (succeed : Runs.Along step Succeeds mounted calls) (options : RepositoryOptions) :
    (∃ repository actions, openRepository options (calls.foldl step mounted).files =
        .ok (repository, actions)) ↔ Runs.Along step Fits mounted calls := by
  obtain ⟨log, steady, ⟨fitted, covered, first, ready⟩ | ⟨unfit, bytes, present, large, -⟩⟩ :=
    succeeding_run opened succeed
  · refine iff_of_true ?_ fitted
    obtain ⟨repository, actions, answer, -, -⟩ := ready.opens options
    exact ⟨repository, actions, answer⟩
  · refine iff_of_false ?_ unfit
    rintro ⟨repository, actions, answer⟩
    exact oversized_refused present large options _ answer

/-- A record and a compaction in a repository that was empty. -/
theorem reopens_iff_small : ∃ repository actions,
    openRepository {} ([.append .plan [1, 2, 3], .compact].foldl step fresh).files =
      .ok (repository, actions) := by
  have succeed : Runs.Along step Succeeds fresh [.append .plan [1, 2, 3], .compact] :=
    ⟨show (fresh.answer {} (.append .plan [1, 2, 3])).1 = .ok () from rfl, rfl, trivial⟩
  have early : ¬ fresh.Rewrites (.append .plan [1, 2, 3]) := by
    rintro (differs | ⟨-, due⟩)
    · cases differs
    · exact absurd due (by decide)
  have small : snapshotSize ((fresh.step (.append .plan [1, 2, 3])).held .compact) ≤
      Frame.maxFileBytes := by decide +kernel
  have fit : Runs.Along step Fits fresh [.append .plan [1, 2, 3], .compact] :=
    ⟨fun rewrites => absurd rewrites early, fun _ => small, trivial⟩
  exact (reopens_iff fresh_opened succeed {}).2 fit

/-! Records as large as a record may be. -/

/-- A record of the largest size that is taken up. -/
def largest : RepositoryCall := .append .audit (List.replicate Frame.maxRecordPayload 0)

theorem snapshotSize_snoc (records : List DurableRecord) (record : DurableRecord) :
    snapshotSize (records ++ [record]) = snapshotSize records + 88 + record.payload.length := by
  have sizes : Frame.recordHeaderSize = 56 ∧ Frame.digestSize = 32 := ⟨rfl, rfl⟩
  unfold snapshotSize
  rw [List.map_append, List.sum_append, List.map_singleton, List.sum_singleton, sizes.1, sizes.2]
  omega

theorem largest_grows (steady : Steady mounted log)
    (below : log.length < mounted.repository.options.maxRecords.toNat) :
    mounted.Succeeds largest ∧ ∃ held, Steady (mounted.step largest) held ∧
      held.length = log.length + 1 ∧
      snapshotSize held = snapshotSize log + 88 + Frame.maxRecordPayload ∧
      (mounted.step largest).repository.options = mounted.repository.options := by
  unfold largest
  generalize filling : List.replicate Frame.maxRecordPayload (0 : UInt8) = payload
  have width : payload.length = Frame.maxRecordPayload := by
    rw [← filling]
    exact List.length_replicate
  have plain : ¬ mounted.repository.Overflows (mounted.repository.nextRecord .audit payload) :=
    fun overflows => overflows.1 rfl
  have asked : (RepositoryCall.append .audit payload).writes = some (.audit, payload) := rfl
  obtain ⟨success, grown, options⟩ := step_grows steady asked rfl below (le_of_eq width) plain
  refine ⟨success, _, grown, by simp, ?_, options⟩
  rw [snapshotSize_snoc, ← width]
  rfl

theorem largest_fills (count : Nat) (steady : Steady mounted log)
    (below : log.length + count ≤ mounted.repository.options.maxRecords.toNat) :
    Runs.Along step Succeeds mounted (List.replicate count largest) ∧
      ∃ held, Steady ((List.replicate count largest).foldl step mounted) held ∧
        snapshotSize held = snapshotSize log + count * (88 + Frame.maxRecordPayload) := by
  induction count generalizing mounted log with
  | zero => exact ⟨trivial, log, steady, by omega⟩
  | succ count ih =>
      obtain ⟨success, next, onward, longer, larger, options⟩ := largest_grows steady (by omega)
      obtain ⟨succeed, held, final, size⟩ := ih onward (by rw [options]; omega)
      refine ⟨⟨success, succeed⟩, held, final, ?_⟩
      rw [size, larger, Nat.succ_mul]
      omega

/-- Under the default options, thirty-two records of the largest size and then a compaction: all
calls return success, and the directory cannot be opened any more. -/
theorem largest_records_never_reopen : ∃ calls : List RepositoryCall,
    calls = List.replicate 32 largest ++ [.compact] ∧ fresh.repository.options = {} ∧
      Runs.Along step Succeeds fresh calls ∧ ∀ options repository actions,
        openRepository options (calls.foldl step fresh).files ≠ .ok (repository, actions) := by
  refine ⟨_, rfl, rfl, ?_⟩
  obtain ⟨log, -, -, steady, -⟩ := fresh_opened.steady
  have start : log = [] := steady.linked.agrees.records.symm
  subst start
  obtain ⟨succeed, held, filled, size⟩ := largest_fills 32 steady (by decide)
  have compacts : ((List.replicate 32 largest).foldl step fresh).Succeeds .compact := by
    change (PlanRepository.compact _ {}).1 = .ok ()
    unfold PlanRepository.compact
    rw [filled.linked.agrees.alive]
    rfl
  rw [Runs.along_append, List.foldl_append]
  refine ⟨⟨succeed, compacts, trivial⟩, ?_⟩
  intro options repository actions
  obtain ⟨bytes, present, length⟩ := (compact_leaves filled.linked filled.settled).snapshot
  refine oversized_refused present ?_ options _
  rw [length, size]
  decide

end Mounted

end TrafficFabric
