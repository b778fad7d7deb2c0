import TrafficFabric.RepositorySession

set_option autoImplicit false

/- A repository on its directory. What an append can do, said once, with the file operations that
may fail in it. -/
namespace TrafficFabric

/-- Neither the write nor the flush of a record fails. -/
def Faults.Works (faults : Faults) (fsync : Bool) : Prop :=
  faults.write = none ∧ (fsync && faults.sync) = false

namespace PlanRepository

/-- The synchronisation of an append, where it is asked for. -/
def syncs (repository : PlanRepository) : List DiskAction :=
  if repository.options.fsync then [.syncJournal] else []

/-- The repository after a fence that was written and then refused: the sequence has moved on, the
record list has not. -/
def passed (repository : PlanRepository) (record : DurableRecord) : PlanRepository :=
  { repository with
    lastSequence := record.sequence
    lastRecordDigest := record.recordDigest
    recordsSinceCompaction := repository.recordsSinceCompaction + 1 }

/-- The record is a fence, and there are as many fences as there may be. -/
def Overflows (repository : PlanRepository) (record : DurableRecord) : Prop :=
  fencesOf [record] ≠ [] ∧ Limits.maxFences ≤ repository.fences.length

/-- Everything an append can do. -/
inductive Appended (repository : PlanRepository) (faults : Faults) (type : RecordType)
    (payload : List UInt8) : Call → Prop
  | refused (reason : Error) : Appended repository faults type payload (.error reason, repository, [])
  | torn (reason : Error) (written : Nat) (broken : faults.write = some written)
      (below : repository.records.length < repository.options.maxRecords.toNat)
      (bounded : payload.length ≤ Frame.maxRecordPayload) :
      Appended repository faults type payload
        (.error reason, repository,
          [.writeJournal ((recordImage (repository.nextRecord type payload)).take written)])
  | unflushed (reason : Error) (whole : faults.write = none)
      (broken : (repository.options.fsync && faults.sync) = true)
      (below : repository.records.length < repository.options.maxRecords.toNat)
      (bounded : payload.length ≤ Frame.maxRecordPayload) :
      Appended repository faults type payload
        (.error reason, repository, [.writeJournal (recordImage (repository.nextRecord type payload))])
  | passed (reason : Error) (bounded : payload.length ≤ Frame.maxRecordPayload)
      (overflows : repository.Overflows (repository.nextRecord type payload)) :
      Appended repository faults type payload
        (.error reason, repository.passed (repository.nextRecord type payload),
          .writeJournal (recordImage (repository.nextRecord type payload)) :: repository.syncs)
  | taken (works : faults.Works repository.options.fsync)
      (below : repository.records.length < repository.options.maxRecords.toNat)
      (bounded : payload.length ≤ Frame.maxRecordPayload)
      (fits : ¬ repository.Overflows (repository.nextRecord type payload))
      (early : repository.recordsSinceCompaction + 1 < repository.options.compactAfterRecords) :
      Appended repository faults type payload
        (.ok (), repository.taken (repository.nextRecord type payload),
          .writeJournal (recordImage (repository.nextRecord type payload)) :: repository.syncs)
  | compacted (works : faults.Works repository.options.fsync)
      (below : repository.records.length < repository.options.maxRecords.toNat)
      (bounded : payload.length ≤ Frame.maxRecordPayload)
      (fits : ¬ repository.Overflows (repository.nextRecord type payload))
      (due : repository.options.compactAfterRecords ≤ repository.recordsSinceCompaction + 1) :
      Appended repository faults type payload
        (((repository.taken (repository.nextRecord type payload)).compactLocked faults).1,
          ((repository.taken (repository.nextRecord type payload)).compactLocked faults).2.1,
          .writeJournal (recordImage (repository.nextRecord type payload)) :: repository.syncs ++
            ((repository.taken (repository.nextRecord type payload)).compactLocked faults).2.2)

variable {repository : PlanRepository}

theorem overflows_iff (record : DurableRecord) :
    repository.Overflows record ↔ repository.fences.length <
      (noticed repository.coordinatorEpochValue repository.fences record).2.length ∧
        Limits.maxFences ≤ repository.fences.length := by
  unfold Overflows
  rw [noticed_eq, List.length_append]
  have longer : fencesOf [record] ≠ [] ↔
      repository.fences.length < repository.fences.length + (fencesOf [record]).length := by
    rw [← List.length_pos_iff]
    omega
  rw [longer]

/-- What happens once the record is in the file. -/
theorem acknowledge_cases (faults : Faults) (record : DurableRecord) :
    (repository.Overflows record ∧ ∃ reason, repository.acknowledge faults record =
      (.error reason, repository.passed record, [])) ∨
    ¬ repository.Overflows record ∧ repository.acknowledge faults record =
      if repository.options.compactAfterRecords ≤ repository.recordsSinceCompaction + 1 then
        (repository.taken record).compactLocked faults
      else (.ok (), repository.taken record, []) := by
  unfold acknowledge
  simp only
  by_cases overflows : repository.Overflows record
  · rw [if_pos ((overflows_iff record).1 overflows)]
    exact Or.inl ⟨overflows, _, rfl⟩
  · rw [if_neg (fun both => overflows ((overflows_iff record).2 both))]
    exact Or.inr ⟨overflows, rfl⟩

theorem append_cases (faults : Faults) (type : RecordType) (payload : List UInt8) :
    Appended repository faults type payload (repository.append faults type payload) := by
  unfold append
  split
  · exact Appended.refused _
  split
  · exact Appended.refused _
  split
  · exact Appended.refused _
  rename_i alive room oversized
  have below := not_le.1 room
  have bounded := not_lt.1 oversized
  simp only
  split
  · exact Appended.refused _
  cases broken : faults.write with
  | some written => exact Appended.torn _ written broken below bounded
  | none =>
      simp only
      split
      · rename_i unsynced
        exact Appended.unflushed _ broken unsynced below bounded
      · rename_i synced
        have works : faults.Works repository.options.fsync := ⟨broken, Bool.not_eq_true _ ▸ synced⟩
        rcases acknowledge_cases faults (repository.nextRecord type payload) with
          ⟨overflows, reason, answered⟩ | ⟨fits, answered⟩
        · rw [answered]
          simp only [List.append_nil]
          exact Appended.passed reason bounded overflows
        · by_cases due : repository.options.compactAfterRecords ≤ repository.recordsSinceCompaction + 1
          · rw [if_pos due] at answered
            rw [answered]
            exact Appended.compacted works below bounded fits due
          · rw [if_neg due] at answered
            rw [answered]
            simp only [List.append_nil]
            exact Appended.taken works below bounded fits (not_le.1 due)

theorem compactLocked_options (faults : Faults) :
    (repository.compactLocked faults).2.1.options = repository.options := by
  unfold compactLocked
  simp only
  split
  · rfl
  · split
    · rfl
    · split <;> rfl

theorem append_options (faults : Faults) (type : RecordType) (payload : List UInt8) :
    (repository.append faults type payload).2.1.options = repository.options := by
  have cases : Appended repository faults type payload _ := append_cases faults type payload
  generalize repository.append faults type payload = answer at cases ⊢
  cases cases with
  | refused | torn | unflushed | passed | taken => rfl
  | compacted => exact compactLocked_options faults

/-- An append that nothing stands in the way of. -/
theorem append_eq (alive : repository.closed = false) (opened : repository.journalOpen = true)
    {type : RecordType} {payload : List UInt8}
    (below : repository.records.length < repository.options.maxRecords.toNat)
    (bounded : payload.length ≤ Frame.maxRecordPayload) :
    repository.append {} type payload =
      ((repository.acknowledge {} (repository.nextRecord type payload)).1,
        (repository.acknowledge {} (repository.nextRecord type payload)).2.1,
        .writeJournal (recordImage (repository.nextRecord type payload)) :: repository.syncs ++
          (repository.acknowledge {} (repository.nextRecord type payload)).2.2) := by
  unfold append
  rw [alive, if_neg Bool.false_ne_true, if_neg (not_le.2 below), if_neg (not_lt.2 bounded)]
  simp only [opened, Bool.not_true, Bool.false_eq_true, if_false, Bool.and_false]
  rfl

/-- Faults that do not come to bear. -/
theorem append_unbroken {faults : Faults} (works : faults.Works repository.options.fsync)
    (compacts : ∀ held : PlanRepository, held.compactLocked faults = held.compactLocked {})
    (type : RecordType) (payload : List UInt8) :
    repository.append faults type payload = repository.append {} type payload := by
  unfold append acknowledge
  simp only [works.1, works.2, compacts, Bool.and_false]

theorem append_succeeds (alive : repository.closed = false) (opened : repository.journalOpen = true)
    {type : RecordType} {payload : List UInt8}
    (below : repository.records.length < repository.options.maxRecords.toNat)
    (bounded : payload.length ≤ Frame.maxRecordPayload)
    (fits : ¬ repository.Overflows (repository.nextRecord type payload)) :
    (repository.append {} type payload).1 = .ok () := by
  rw [append_eq alive opened below bounded]
  rcases acknowledge_cases {} (repository.nextRecord type payload) with ⟨overflows, -⟩ | ⟨-, answered⟩
  · exact absurd overflows fits
  · rw [answered]
    split <;> rfl

end PlanRepository

/-! The files as the next open finds them when nothing is lost. -/

namespace Directory

/-- Every byte that was written is in the file. -/
def flushed (directory : Directory) : Directory := directory.cut directory.unsynced

variable {directory : Directory}

theorem flushed_other {file : FileName} (other : file ≠ .journal) :
    directory.flushed.files file = directory.files file := if_neg other

theorem flushed_synced (synced : directory.unsynced = []) : directory.flushed = directory :=
  cut_synced synced List.prefix_rfl

/-- Two directories with the same files, temporaries and nothing to synchronise are the same. -/
theorem eq_of_files {first second : Directory} (files : ∀ file, first.files file = second.files file)
    (temporaries : first.temporaries = second.temporaries)
    (synced : first.unsynced = [] ∧ second.unsynced = []) : first = second := by
  obtain ⟨firstFiles, firstTemporaries, firstUnsynced⟩ := first
  obtain ⟨secondFiles, secondTemporaries, secondUnsynced⟩ := second
  simp only at temporaries synced
  have same : firstFiles = secondFiles := funext files
  rw [same, temporaries, synced.1, synced.2]

theorem flushed_sync : (directory.perform .syncJournal).flushed = directory.flushed := by
  refine eq_of_files ?_ rfl ⟨rfl, rfl⟩
  intro file
  by_cases same : file = .journal
  · subst same
    change ((directory.files .journal).map fun bytes => bytes ++ directory.unsynced).map
      (fun bytes => bytes ++ []) = (directory.files .journal).map fun bytes => bytes ++ directory.unsynced
    cases directory.files .journal with
    | none => rfl
    | some bytes => exact congrArg some (List.append_nil _)
  · rw [flushed_other same, flushed_other same]
    exact if_neg same

theorem flushed_syncs (repository : PlanRepository) :
    (directory.performAll repository.syncs).flushed = directory.flushed := by
  unfold PlanRepository.syncs
  split
  · exact flushed_sync
  · rfl

theorem flushed_replaced (file : FileName) (bytes : List UInt8) :
    (directory.replaced file bytes).flushed = directory.flushed.replaced file bytes := by
  cases file with
  | manifest | snapshot =>
      refine eq_of_files ?_ rfl ⟨rfl, rfl⟩
      intro other
      cases other <;> rfl
  | journal =>
      refine eq_of_files ?_ rfl ⟨rfl, rfl⟩
      intro other
      cases other with
      | manifest | snapshot => rfl
      | journal =>
          change some (bytes ++ []) = some bytes
          rw [List.append_nil]

end Directory

namespace PlanRepository

variable {directory : Directory} {repository : PlanRepository} {log : List DurableRecord}
  {covered first : Nat}

theorem flushed_writing (bytes : List UInt8) :
    Extended directory.flushed bytes (directory.perform (.writeJournal bytes)).flushed := by
  have others : ∀ file, file ≠ .journal →
      (directory.perform (.writeJournal bytes)).flushed.files file = directory.flushed.files file := by
    intro file other
    rw [Directory.flushed_other other, Directory.flushed_other other]
    rfl
  refine ⟨?_, others, rfl⟩
  change (directory.files .journal).map (fun whole => whole ++ (directory.unsynced ++ bytes)) =
    ((directory.files .journal).map fun whole => whole ++ directory.unsynced).map fun whole =>
      whole ++ bytes
  cases directory.files .journal with
  | none => rfl
  | some whole => exact congrArg some (List.append_assoc _ _ _).symm

/-- What an append writes before a compaction. -/
theorem flushed_appending (bytes : List UInt8) :
    Extended directory.flushed bytes
      (directory.performAll (.writeJournal bytes :: repository.syncs)).flushed := by
  have split : directory.performAll (.writeJournal bytes :: repository.syncs) =
      (directory.perform (.writeJournal bytes)).performAll repository.syncs := rfl
  rw [split, Directory.flushed_syncs]
  exact flushed_writing bytes

/-! Memory and files. -/

/-- The repository in memory holds a chained log. -/
structure Linked (repository : PlanRepository) (log : List DurableRecord) : Prop where
  agrees : Agrees repository log
  chained : Chained 0 default log
  count : log.length < 2 ^ 64

theorem Linked.follows (linked : Linked repository log) {type : RecordType} {payload : List UInt8}
    (below : repository.records.length < repository.options.maxRecords.toNat)
    (bounded : payload.length ≤ Frame.maxRecordPayload) :
    Follows log (repository.nextRecord type payload) ∧ log.length + 1 < 2 ^ 64 := by
  have bound := repository.options.maxRecords.toNat_lt
  rw [linked.agrees.records] at below
  have room : log.length + 1 < 2 ^ 64 := by omega
  exact ⟨nextRecord_follows linked.agrees room bounded, room⟩

theorem Linked.taken (linked : Linked repository log) {record : DurableRecord}
    (follows : Follows log record) (room : log.length + 1 < 2 ^ 64) :
    Linked (repository.taken record) (log ++ [record]) := by
  refine ⟨taken_agrees linked.agrees follows, ?_, ?_⟩
  · rw [chained_append]
    refine ⟨linked.chained, ?_, follows.back, follows.framed, trivial⟩
    rw [follows.number, Nat.zero_add]
  · rw [List.length_append]
    exact room

/-- A compaction keeps the log in memory. -/
theorem Linked.compacted (linked : Linked repository log) :
    (repository.compactLocked {}).1 = .ok () ∧ Linked (repository.compactLocked {}).2.1 log ∧
      (repository.compactLocked {}).2.1.options = repository.options ∧
      (repository.compactLocked {}).2.2 =
        writeAtomic .snapshot (snapshotImage repository.lastSequence log) ++
          writeAtomic .journal (makeJournalHeader (repository.lastSequence + 1)) := by
  refine ⟨rfl, ⟨{ linked.agrees with isOpen := rfl }, linked.chained, linked.count⟩, rfl, ?_⟩
  rw [← linked.agrees.records]
  rfl

/-- What a compaction leaves in the files, whatever was in the journal before. -/
theorem Linked.compacted_ready (linked : Linked repository log) (settled : Settled directory.flushed)
    (small : (snapshotImage repository.lastSequence log).length ≤ Frame.maxFileBytes) :
    Ready (directory.performAll (repository.compactLocked {}).2.2).flushed log log.length log.length := by
  let image := snapshotImage repository.lastSequence log
  let header := makeJournalHeader (repository.lastSequence + 1)
  have final : (directory.performAll (repository.compactLocked {}).2.2).flushed =
      (directory.flushed.replaced .snapshot image).replaced .journal header := by
    rw [linked.compacted.2.2.2, Directory.performAll_append, ← Directory.flushed_replaced,
      ← Directory.flushed_replaced]
    rfl
  have journal : ((directory.flushed.replaced .snapshot image).replaced .journal header).files .journal =
      some header := Directory.replaced_same
  rw [final]
  refine ⟨?_, rfl, ?_, ?_, ?_⟩
  · exact
      { chained := linked.chained
        count := linked.count
        covers := Nat.le_refl _
        starts := Nat.le_refl _
        manifest := by
          rw [Directory.replaced_other (by decide), Directory.replaced_other (by decide)]
          exact Or.inr settled.manifest
        snapshot := by
          refine Or.inr ⟨repository.lastSequence, linked.agrees.sequence, ?_, ?_⟩
          · rw [Directory.replaced_other (by decide), Directory.replaced_same, List.take_length]
          · rw [List.take_length]
            exact small
        journal := by
          refine Or.inr ⟨repository.lastSequence + 1, ?_⟩
          rw [journal, List.drop_length, List.flatMap_nil, List.append_nil, List.append_nil]
        ends := rfl
        synced := Directory.replaced_unsynced (Directory.replaced_unsynced rfl) }
  · exact Directory.replaced_temporaries (Directory.replaced_temporaries settled.temporaries)
  · rw [Directory.replaced_other (by decide), Directory.replaced_other (by decide)]
    exact settled.manifest
  · rw [journal]
    rfl

/-- One more record at the end of a journal with nothing behind its last record. -/
theorem Ready.extended (ready : Ready directory log covered first) {found : Directory}
    {record : DurableRecord} (follows : Follows log record) (room : log.length + 1 < 2 ^ 64)
    (extended : Extended directory (recordImage record) found)
    (temporaries : found.temporaries = directory.temporaries) :
    Ready found (log ++ [record]) covered first := by
  refine ⟨ready.appended follows room extended, ready.continues_append record, ?_, ?_, ?_⟩
  · exact temporaries.trans ready.settled.temporaries
  · rw [extended.others _ (by decide)]
    exact ready.settled.manifest
  · rw [extended.journal, Option.isSome_map]
    exact ready.settled.journal

end PlanRepository

end TrafficFabric
