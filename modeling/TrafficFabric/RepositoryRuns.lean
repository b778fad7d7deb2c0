import TrafficFabric.Lib.Runs
import TrafficFabric.RepositoryCalls

set_option autoImplicit false

/- Runs of calls on an open repository, with appends that fail among them, and what the next open
finds. -/
namespace TrafficFabric

open PlanRepository

inductive RepositoryCall
  | append (type : RecordType) (payload : List UInt8)
  | addFence (fence : FenceRecord)
  | setCoordinatorEpoch (epoch : UInt64) (record : CoordinatorEpochRecord)
  | compact
deriving DecidableEq

/-- What the call hands to `append`. -/
def RepositoryCall.writes : RepositoryCall → Option (RecordType × List UInt8)
  | .append type payload => some (type, payload)
  | .addFence fence => some (.fence, encodeFence fence)
  | .setCoordinatorEpoch epoch record =>
      some (.coordinatorEpoch, encodeCoordinatorEpoch { record with epoch := epoch })
  | .compact => none

/-- The append fails, and bytes of its record have reached the journal. -/
def Faults.Leaves (faults : Faults) (fsync : Bool) : Prop :=
  (∃ written, faults.write = some (written + 1)) ∨
    faults.write = none ∧ (fsync && faults.sync) = true

/-- An open repository and its directory. -/
structure Mounted where
  repository : PlanRepository
  directory : Directory

namespace Mounted

def answer (mounted : Mounted) (faults : Faults) : RepositoryCall → Call
  | .append type payload => mounted.repository.append faults type payload
  | .addFence fence => mounted.repository.addFence faults fence
  | .setCoordinatorEpoch epoch record => mounted.repository.setCoordinatorEpoch faults epoch record
  | .compact => mounted.repository.compact faults

def call (mounted : Mounted) (faults : Faults) (request : RepositoryCall) : Mounted :=
  { repository := (mounted.answer faults request).2.1
    directory := mounted.directory.performAll (mounted.answer faults request).2.2 }

/-- A call in which no file operation fails. -/
def step (mounted : Mounted) (request : RepositoryCall) : Mounted := mounted.call {} request

/-- The repository was opened on a directory that holds a log, as every directory does that calls
and crashes have left behind. -/
inductive Opened : Mounted → Prop
  | opened {directory : Directory} {log : List DurableRecord} {options : RepositoryOptions}
      {repository : PlanRepository} {actions : List DiskAction} (holds : Holds directory log)
      (answer : openRepository options directory = .ok (repository, actions)) :
      Opened ⟨repository, directory.performAll actions⟩

/-- The first open of an empty directory. -/
def fresh : Mounted :=
  { repository := { journalOpen := true }
    directory := ({} : Directory).performAll (discards ++ writeAtomic .manifest makeManifest ++
      writeAtomic .journal (makeJournalHeader 1)) }

theorem fresh_opened :
    Opened fresh := Opened.opened Session.holds_empty (show openRepository {} {} = _ from rfl)

/-- The call would be a fence beyond the fence bound. -/
def Crowded (mounted : Mounted) (request : RepositoryCall) : Prop :=
  ∃ type payload, request.writes = some (type, payload) ∧
    mounted.repository.Overflows (mounted.repository.nextRecord type payload)

variable {mounted : Mounted} {log : List DurableRecord}

/-- A call is refused, appends, or compacts. -/
theorem answer_cases (faults : Faults) (request : RepositoryCall) :
    (∃ reason, mounted.answer faults request = (.error reason, mounted.repository, [])) ∨
    (∃ type payload, request.writes = some (type, payload) ∧
      mounted.answer faults request = mounted.repository.append faults type payload) ∨
    request = .compact ∧ mounted.answer faults request = mounted.repository.compactLocked faults := by
  cases request with
  | append type payload => exact Or.inr (Or.inl ⟨type, payload, rfl, rfl⟩)
  | addFence fence =>
      simp only [answer, addFence]
      split
      · exact Or.inl ⟨_, rfl⟩
      · exact Or.inr (Or.inl ⟨_, _, rfl, rfl⟩)
  | setCoordinatorEpoch epoch record =>
      simp only [answer, setCoordinatorEpoch]
      split
      · exact Or.inl ⟨_, rfl⟩
      · exact Or.inr (Or.inl ⟨_, _, rfl, rfl⟩)
  | compact =>
      simp only [answer, compact]
      split
      · exact Or.inl ⟨_, rfl⟩
      · exact Or.inr (Or.inr ⟨trivial, rfl⟩)

/-- The files between two calls, as an open would find them. -/
def files (mounted : Mounted) : Directory := mounted.directory.flushed

/-- There is room for the record, and it is not too large. -/
def Accepts (mounted : Mounted) (request : RepositoryCall) : Prop :=
  ∃ type payload, request.writes = some (type, payload) ∧
    mounted.repository.records.length < mounted.repository.options.maxRecords.toNat ∧
    payload.length ≤ Frame.maxRecordPayload

/-- Everything a call can do that is no fence beyond the bound, where at most the write and the
flush of the record fail. -/
inductive Did (mounted : Mounted) (log : List DurableRecord) (faults : Faults)
    (request : RepositoryCall) : Status → Mounted → Prop
  | failed {after : Mounted} (reason : Error) (bytes : List UInt8)
      (left : bytes = [] ∨ mounted.Accepts request ∧
        faults.Leaves mounted.repository.options.fsync)
      (same : after.repository = mounted.repository)
      (extended : Extended mounted.files bytes after.files)
      (temporaries : after.files.temporaries = mounted.files.temporaries) :
      Did mounted log faults request (.error reason) after
  | taken {after : Mounted} (type : RecordType) (payload : List UInt8)
      (asked : request.writes = some (type, payload))
      (works : faults.Works mounted.repository.options.fsync)
      (follows : Follows log (mounted.repository.nextRecord type payload))
      (room : log.length + 1 < 2 ^ 64)
      (early : mounted.repository.recordsSinceCompaction + 1 <
        mounted.repository.options.compactAfterRecords)
      (linked : Linked after.repository (log ++ [mounted.repository.nextRecord type payload]))
      (extended : Extended mounted.files (recordImage (mounted.repository.nextRecord type payload))
        after.files)
      (temporaries : after.files.temporaries = mounted.files.temporaries) :
      Did mounted log faults request (.ok ()) after
  | compacted {after middle : Mounted} (held : List DurableRecord)
      (grown : held = log ∧ request = .compact ∨ ∃ type payload, request.writes = some (type, payload) ∧
        faults.Works mounted.repository.options.fsync ∧ mounted.Accepts request ∧
        mounted.repository.options.compactAfterRecords ≤ mounted.repository.recordsSinceCompaction + 1 ∧
        held = log ++ [mounted.repository.nextRecord type payload])
      (linked : Linked middle.repository held) (settled : Settled middle.files)
      (ends : after = middle.call {} .compact) :
      Did mounted log faults request (.ok ()) after

/-- At most the write and the flush of the record fail. -/
structure Light (faults : Faults) : Prop where
  snapshot : faults.replaceSnapshot = false
  journal : faults.resetJournal = false
  reopened : faults.reopenJournal = false

theorem Light.compactLocked {faults : Faults} (light : Light faults) (repository : PlanRepository) :
    repository.compactLocked faults = repository.compactLocked {} := by
  unfold PlanRepository.compactLocked
  rw [light.snapshot, light.journal, light.reopened]

theorem call_compact (mounted : Mounted) (alive : mounted.repository.closed = false) :
    mounted.call {} .compact =
      { repository := (mounted.repository.compactLocked {}).2.1
        directory := mounted.directory.performAll (mounted.repository.compactLocked {}).2.2 } := by
  unfold call answer PlanRepository.compact
  rw [alive]
  rfl

theorem settled_extended {directory found : Directory} {bytes : List UInt8} (settled : Settled directory)
    (extended : Extended directory bytes found) (temporaries : found.temporaries = directory.temporaries) :
    Settled found := by
  refine ⟨temporaries.trans settled.temporaries, ?_, ?_⟩
  · rw [extended.others _ (by decide)]
    exact settled.manifest
  · rw [extended.journal, Option.isSome_map]
    exact settled.journal

/-- A call that touches no file. -/
theorem extended_idle : Extended mounted.files [] mounted.files := by
  refine ⟨?_, fun _ _ => rfl, rfl⟩
  simp

theorem append_did (linked : Linked mounted.repository log) (settled : Settled mounted.files)
    {faults : Faults} (light : Light faults) {request : RepositoryCall} {type : RecordType}
    {payload : List UInt8} (asked : request.writes = some (type, payload))
    (roomy : ¬ mounted.repository.Overflows (mounted.repository.nextRecord type payload)) :
    Did mounted log faults request (mounted.repository.append faults type payload).1
      { repository := (mounted.repository.append faults type payload).2.1
        directory :=
          mounted.directory.performAll (mounted.repository.append faults type payload).2.2 } := by
  have cases : Appended mounted.repository faults type payload _ := append_cases faults type payload
  generalize mounted.repository.append faults type payload = answer at cases ⊢
  let record := mounted.repository.nextRecord type payload
  have writing : Extended mounted.files (recordImage record) (mounted.directory.performAll
      (.writeJournal (recordImage record) :: mounted.repository.syncs)).flushed := flushed_appending _
  have untouched : ∀ image, (mounted.directory.performAll (.writeJournal image ::
      mounted.repository.syncs)).flushed.temporaries = mounted.files.temporaries := by
    intro image
    unfold syncs
    split <;> rfl
  cases cases with
  | refused reason => exact Did.failed reason [] (Or.inl rfl) rfl extended_idle rfl
  | torn reason written broken below bounded =>
      refine Did.failed reason _ ?_ rfl (flushed_writing _) rfl
      cases written with
      | zero => exact Or.inl rfl
      | succ written =>
          exact Or.inr ⟨⟨type, payload, asked, below, bounded⟩, Or.inl ⟨written, broken⟩⟩
  | unflushed reason whole broken below bounded =>
      refine Did.failed reason _ ?_ rfl (flushed_writing _) rfl
      exact Or.inr ⟨⟨type, payload, asked, below, bounded⟩, Or.inr ⟨whole, broken⟩⟩
  | passed reason bounded overflows => exact absurd overflows roomy
  | taken works below bounded fits early =>
      have next : Follows log record ∧ _ := linked.follows below bounded
      obtain ⟨follows, room⟩ := next
      exact Did.taken type payload asked works follows room early (linked.taken follows room) writing
        (untouched _)
  | compacted works below bounded fits due =>
      have next : Follows log record ∧ _ := linked.follows below bounded
      obtain ⟨follows, room⟩ := next
      have held := linked.taken follows room
      let middle : Mounted :=
        { repository := mounted.repository.taken record
          directory := mounted.directory.performAll (.writeJournal (recordImage record) ::
            mounted.repository.syncs) }
      have compacts := call_compact middle held.agrees.alive
      have ready : Settled middle.files := settled_extended settled writing (untouched _)
      rw [light.compactLocked, Directory.performAll_append]
      have accepts : mounted.Accepts request := ⟨type, payload, asked, below, bounded⟩
      exact Did.compacted _ (Or.inr ⟨type, payload, asked, works, accepts, due, rfl⟩) held ready
        compacts.symm

/-- What a call can do. -/
theorem call_did (linked : Linked mounted.repository log) (settled : Settled mounted.files)
    {faults : Faults} (light : Light faults) (request : RepositoryCall)
    (roomy : ¬ mounted.Crowded request) :
    Did mounted log faults request (mounted.answer faults request).1 (mounted.call faults request) := by
  unfold call
  rcases answer_cases faults request with ⟨reason, refused⟩ | ⟨type, payload, asked, appends⟩ |
    ⟨rfl, compacts⟩
  · rw [refused]
    exact Did.failed reason [] (Or.inl rfl) rfl extended_idle rfl
  · rw [appends]
    exact append_did linked settled light asked fun overflows => roomy ⟨type, payload, asked, overflows⟩
  · rw [compacts, light.compactLocked]
    exact Did.compacted log (Or.inl ⟨rfl, rfl⟩) linked settled
      (call_compact mounted linked.agrees.alive).symm

/-! Compaction, and the size of what it writes. -/

/-- The size of the snapshot of the records. -/
def snapshotSize (records : List DurableRecord) : Nat :=
  Frame.snapshotHeaderSize + Frame.digestSize +
    (records.map fun record => Frame.recordHeaderSize + record.payload.length + Frame.digestSize).sum

theorem length_snapshotImage (sequence : UInt64) (records : List DurableRecord) :
    (snapshotImage sequence records).length = snapshotSize records := by
  have payload : (records.flatMap recordImage).length = (records.map fun record =>
      Frame.recordHeaderSize + record.payload.length + Frame.digestSize).sum := by
    rw [List.length_flatMap]
    congr 1
    apply List.map_congr_left
    intro record _
    exact length_recordImage record
  have split : (snapshotImage sequence records).length =
      (snapshotHeader sequence (records.flatMap recordImage)).length +
        (records.flatMap recordImage).length + Frame.digestSize := by
    change (snapshotHeader sequence (records.flatMap recordImage) ++ records.flatMap recordImage ++
      Writer.digest _).length = _
    rw [List.length_append, List.length_append, length_digest]
    rfl
  rw [split, length_snapshotHeader, payload]
  unfold snapshotSize
  omega

/-- What a compaction leaves behind. -/
structure Compacted (after : Mounted) (held : List DurableRecord) : Prop where
  linked : Linked after.repository held
  settled : Settled after.files
  snapshot : ∃ bytes, after.files.files .snapshot = some bytes ∧ bytes.length = snapshotSize held
  ready : snapshotSize held ≤ Frame.maxFileBytes →
    Ready after.files held held.length held.length

theorem compact_leaves {held : List DurableRecord} (linked : Linked mounted.repository held)
    (settled : Settled mounted.files) : Compacted (mounted.call {} .compact) held := by
  obtain ⟨-, afterLinked, -, actions⟩ := linked.compacted
  have final : ((mounted.directory.performAll (mounted.repository.compactLocked {}).2.2).flushed) =
      (mounted.files.replaced .snapshot (snapshotImage mounted.repository.lastSequence held)).replaced
        .journal (makeJournalHeader (mounted.repository.lastSequence + 1)) := by
    rw [actions, Directory.performAll_append, files, ← Directory.flushed_replaced,
      ← Directory.flushed_replaced]
    rfl
  rw [call_compact mounted linked.agrees.alive]
  refine ⟨afterLinked, ?_, ⟨_, ?_, length_snapshotImage mounted.repository.lastSequence held⟩, ?_⟩
  · unfold files
    rw [final]
    refine ⟨?_, ?_, ?_⟩
    · exact Directory.replaced_temporaries (Directory.replaced_temporaries settled.temporaries)
    · rw [Directory.replaced_other (by decide), Directory.replaced_other (by decide)]
      exact settled.manifest
    · rw [Directory.replaced_same]
      rfl
  · unfold files
    rw [final, Directory.replaced_other (by decide), Directory.replaced_same]
  · intro small
    apply linked.compacted_ready settled
    rw [length_snapshotImage]
    exact small

end Mounted

end TrafficFabric
