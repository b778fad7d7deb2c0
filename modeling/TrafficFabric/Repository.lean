import TrafficFabric.Record

set_option autoImplicit false

/- The durable repository: what it keeps in memory, and what it does to the files of its
directory, in program order. -/
namespace TrafficFabric

/-! The directory. -/

inductive FileName
  | manifest | snapshot | journal
deriving DecidableEq, Repr

/-- The files by name and their temporaries. `unsynced` are bytes written to the journal that
a crash may still lose. -/
structure Directory where
  files : FileName → Option (List UInt8) := fun _ => none
  temporaries : FileName → Option (List UInt8) := fun _ => none
  unsynced : List UInt8 := []

inductive DiskAction
  | removeTemporary (file : FileName)
  | writeTemporary (file : FileName) (bytes : List UInt8)
  | replace (file : FileName)
  | writeJournal (bytes : List UInt8)
  | syncJournal
  | truncateJournal (size : Nat)
deriving DecidableEq, Repr

namespace Directory

def setFile (directory : Directory) (file : FileName) (bytes : Option (List UInt8)) : Directory :=
  { directory with files := fun other => if other = file then bytes else directory.files other }

def setTemporary (directory : Directory) (file : FileName) (bytes : Option (List UInt8)) : Directory :=
  { directory with
    temporaries := fun other => if other = file then bytes else directory.temporaries other }

/-- An action that returned success. -/
def perform (directory : Directory) : DiskAction → Directory
  | .removeTemporary file => directory.setTemporary file none
  | .writeTemporary file bytes => directory.setTemporary file (some bytes)
  | .replace file =>
      let moved := directory.setFile file (directory.temporaries file)
      let moved := moved.setTemporary file none
      if file = .journal then { moved with unsynced := [] } else moved
  | .writeJournal bytes => { directory with unsynced := directory.unsynced ++ bytes }
  | .syncJournal =>
      { directory.setFile .journal
          ((directory.files .journal).map fun bytes => bytes ++ directory.unsynced) with
        unsynced := [] }
  | .truncateJournal size =>
      directory.setFile .journal ((directory.files .journal).map fun bytes => bytes.take size)

def performAll (directory : Directory) (actions : List DiskAction) : Directory :=
  actions.foldl perform directory

/-- The process stops before some action, or half way through writing a temporary; every
other action happens or does not. -/
inductive Stops : Directory → List DiskAction → Directory → Prop
  | here (directory : Directory) (actions : List DiskAction) : Stops directory actions directory
  | writing (directory : Directory) (file : FileName) (bytes part : List UInt8)
      (rest : List DiskAction) (torn : part <+: bytes) :
      Stops directory (.writeTemporary file bytes :: rest) (directory.setTemporary file (some part))
  | later {directory found : Directory} {action : DiskAction} {rest : List DiskAction}
      (stops : Stops (directory.perform action) rest found) : Stops directory (action :: rest) found

/-- What is left of the journal: the bytes not yet synchronised are cut anywhere. -/
def cut (directory : Directory) (kept : List UInt8) : Directory :=
  { directory.setFile .journal ((directory.files .journal).map fun bytes => bytes ++ kept) with
    unsynced := [] }

/-- The directory found after a crash at any point of a sequence of actions. -/
def Crashed (directory : Directory) (actions : List DiskAction) (found : Directory) : Prop :=
  ∃ stopped kept, Stops directory actions stopped ∧ kept <+: stopped.unsynced ∧
    found = stopped.cut kept

end Directory

/-! The repository in memory. -/

structure RepositoryOptions where
  maxRecords : UInt64 := Limits.maxJournalRecords.toUInt64
  fsync : Bool := true
  compactAfterRecords : Nat := 4096
deriving DecidableEq

structure RecoveryReport where
  manifestPresent : Bool := false
  snapshotLoaded : Bool := false
  snapshotSequence : UInt64 := 0
  recordsRecovered : Nat := 0
  journalBytesTruncated : Nat := 0
  coordinatorEpoch : UInt64 := 0
deriving DecidableEq

structure PlanRepository where
  options : RepositoryOptions := {}
  journalOpen : Bool := false
  records : List DurableRecord := []
  fences : List FenceRecord := []
  recovery : RecoveryReport := {}
  lastSequence : UInt64 := 0
  snapshotSequence : UInt64 := 0
  coordinatorEpochValue : UInt64 := 0
  lastRecordDigest : Digest := default
  recordsSinceCompaction : Nat := 0
  closed : Bool := false
deriving DecidableEq

/-- Which of the file operations of a call fail. A failed write may leave some bytes behind. -/
structure Faults where
  write : Option Nat := none
  sync : Bool := false
  replaceSnapshot : Bool := false
  resetJournal : Bool := false
  reopenJournal : Bool := false

namespace PlanRepository

/-- The answer of a call, the repository it leaves behind, and what it did to the files. -/
abbrev Call := Status × PlanRepository × List DiskAction

def writeAtomic (file : FileName) (bytes : List UInt8) : List DiskAction :=
  [.writeTemporary file bytes, .replace file]

/-- The journal is closed before its reset, so a reset that fails leaves no open journal. -/
def compactLocked (repository : PlanRepository) (faults : Faults) : Call :=
  let snapshot := writeAtomic .snapshot (snapshotImage repository.lastSequence repository.records)
  let journal := writeAtomic .journal (makeJournalHeader (repository.lastSequence + 1))
  if faults.replaceSnapshot then
    (fail .ioFailure (text "cannot replace the durable snapshot"), repository, [])
  else if faults.resetJournal then
    (fail .ioFailure (text "cannot reset the durable journal"),
      { repository with journalOpen := false }, snapshot)
  else if faults.reopenJournal then
    (fail .ioFailure (text "cannot reopen the durable journal after compaction"),
      { repository with journalOpen := false }, snapshot ++ journal)
  else
    (.ok (), { repository with journalOpen := true, recordsSinceCompaction := 0 }, snapshot ++ journal)

def compact (repository : PlanRepository) (faults : Faults) : Call :=
  if repository.closed then (fail .shutdown (text "the durable repository is closed"), repository, [])
  else repository.compactLocked faults

/-- The record the next append writes. -/
def nextRecord (repository : PlanRepository) (type : RecordType) (payload : List UInt8) :
    DurableRecord :=
  let record : DurableRecord :=
    { type := type
      sequence := repository.lastSequence + 1
      previousDigest := repository.lastRecordDigest
      payload := payload }
  { record with recordDigest := frameDigest record }

/-- The epoch and the fences after one more record; the fence bound is not looked at here. -/
def noticed (epoch : UInt64) (fences : List FenceRecord) (record : DurableRecord) :
    UInt64 × List FenceRecord :=
  if record.type = .coordinatorEpoch then
    match decodeCoordinatorEpoch record.payload with
    | .ok decoded => (max epoch decoded.epoch, fences)
    | .error _ => (epoch, fences)
  else if record.type = .fence then
    match decodeFence record.payload with
    | .ok fence => (epoch, fences ++ [fence])
    | .error _ => (epoch, fences)
  else (epoch, fences)

/-- The part of `append` after the record is on the disk. Compaction is part of the call. -/
def acknowledge (repository : PlanRepository) (faults : Faults) (record : DurableRecord) : Call :=
  let repository := { repository with
    lastSequence := record.sequence
    lastRecordDigest := record.recordDigest
    recordsSinceCompaction := repository.recordsSinceCompaction + 1 }
  let noticed := noticed repository.coordinatorEpochValue repository.fences record
  if repository.fences.length < noticed.2.length ∧ Limits.maxFences ≤ repository.fences.length then
    (fail .limitExceeded (text "the durable fence bound has been reached"), repository, [])
  else
    let repository := { repository with
      coordinatorEpochValue := noticed.1
      fences := noticed.2
      records := repository.records ++ [record] }
    if repository.options.compactAfterRecords ≤ repository.recordsSinceCompaction then
      repository.compactLocked faults
    else (.ok (), repository, [])

def append (repository : PlanRepository) (faults : Faults) (type : RecordType)
    (payload : List UInt8) : Call :=
  if repository.closed then (fail .shutdown (text "the durable repository is closed"), repository, [])
  else if repository.options.maxRecords.toNat ≤ repository.records.length then
    (fail .limitExceeded (text "the durable record bound has been reached"), repository, [])
  else if Frame.maxRecordPayload < payload.length then
    (fail .oversizedInput (text "the record payload exceeds the supported bound"), repository, [])
  else
    let record := repository.nextRecord type payload
    let image := recordImage record
    if !repository.journalOpen then
      (fail .ioFailure (text "the durable journal write failed"), repository, [])
    else
      match faults.write with
      | some written =>
          (fail .ioFailure (text "the durable journal write failed"), repository,
            [.writeJournal (image.take written)])
      | none =>
          if repository.options.fsync && faults.sync then
            (fail .ioFailure (text "the durable journal could not be synchronised"), repository,
              [.writeJournal image])
          else
            let synced := if repository.options.fsync then [.syncJournal] else []
            let (status, repository, actions) := repository.acknowledge faults record
            (status, repository, .writeJournal image :: synced ++ actions)

def addFence (repository : PlanRepository) (faults : Faults) (fence : FenceRecord) : Call :=
  if !fence.publisher.valid || !fence.boot.valid || !fence.incarnation.valid then
    (fail .invalidArgument (text "the fence record is incomplete"), repository, [])
  else repository.append faults .fence (encodeFence fence)

def setCoordinatorEpoch (repository : PlanRepository) (faults : Faults) (epoch : UInt64)
    (record : CoordinatorEpochRecord) : Call :=
  if epoch = 0 then
    (fail .invalidGeneration (text "the coordinator epoch must be positive"), repository, [])
  else
    repository.append faults .coordinatorEpoch (encodeCoordinatorEpoch { record with epoch := epoch })

def close (repository : PlanRepository) : PlanRepository :=
  { repository with journalOpen := false, closed := true }

/-! Opening. -/

def integrity {α : Type} (detail : String) : Result α := fail .integrityFailure (text detail)

/-- The loop over the records of a snapshot. The fuel bounds the number of records. -/
def readSnapshotRecords : Nat → List UInt8 → Digest → Result (List DurableRecord × Digest)
  | 0, _, previous => .ok ([], previous)
  | fuel + 1, bytes, previous =>
      if bytes.isEmpty then .ok ([], previous)
      else if bytes.length < Frame.recordHeaderSize + Frame.digestSize then
        integrity "the durable snapshot contains a torn record"
      else if Frame.magicOf bytes ≠ Frame.recordMagic then
        integrity "the durable snapshot record magic does not match"
      else if bytes.length < Frame.totalOf bytes then
        integrity "the durable snapshot record length is inconsistent"
      else if Frame.storedOf bytes ≠ Frame.computedOf bytes then
        integrity "a durable snapshot record digest does not match"
      else if Frame.previousOf bytes ≠ previous then
        integrity "the durable snapshot hash chain is broken"
      else
        match readSnapshotRecords fuel (bytes.drop (Frame.totalOf bytes)) (Frame.storedOf bytes) with
        | .error reason => .error reason
        | .ok (records, last) => .ok (Frame.recordOf bytes :: records, last)

/-- What a snapshot holds. -/
structure LoadedSnapshot where
  sequence : UInt64
  records : List DurableRecord
  last : Digest

def loadSnapshot (bytes : List UInt8) : Result LoadedSnapshot :=
  let room := bytes.length - Frame.snapshotHeaderSize - Frame.digestSize
  let length := (Reader.word64 (field bytes 24 8)).toNat
  let payload := field bytes Frame.snapshotHeaderSize length
  if Frame.maxFileBytes < bytes.length then
    fail .ioFailure (text "durable file exceeds the supported size bound")
  else if bytes.length < Frame.snapshotHeaderSize + Frame.digestSize then
    integrity "the durable snapshot is truncated"
  else if Frame.magicOf bytes ≠ Frame.snapshotMagic then
    integrity "the durable snapshot magic does not match"
  else if Frame.versionOf bytes ≠ durableFormatVersion then
    fail .unsupportedVersion (text "the durable snapshot format version is unsupported")
  else if room < length then integrity "the durable snapshot payload length is inconsistent"
  else if crc32c payload ≠ Reader.word32 (field bytes 32 4) then
    integrity "the durable snapshot payload checksum does not match"
  else if Reader.digestOf (field bytes (Frame.snapshotHeaderSize + length) Frame.digestSize) ≠
      Sha256.hash (field bytes 0 (Frame.snapshotHeaderSize + length)) then
    integrity "the durable snapshot digest does not match"
  else
    match readSnapshotRecords (payload.length + 1) payload default with
    | .error reason => .error reason
    | .ok (records, last) => .ok ⟨Reader.word64 (field bytes 8 8), records, last⟩

def parseJournalHeader (header : List UInt8) : Status :=
  let refused := fun detail => integrity ("the durable journal header is invalid: " ++ detail)
  if header.length ≠ Frame.journalHeaderSize then refused "journal header is truncated"
  else if Frame.magicOf header ≠ Frame.journalMagic then refused "journal magic does not match"
  else if Frame.versionOf header ≠ durableFormatVersion then
    refused "unsupported journal format version"
  else if crc32c (field header 0 24) ≠ Reader.word32 (field header 24 4) then
    refused "journal header checksum does not match"
  else .ok ()

/-- The checks of a journal frame that do not look at its place in the chain. -/
def journalFrame (bytes : List UInt8) : Option DurableRecord :=
  if bytes.length < Frame.recordHeaderSize + Frame.digestSize then none
  else if Frame.magicOf bytes ≠ Frame.recordMagic then none
  else if Frame.versionOf bytes ≠ durableFormatVersion then none
  else if Frame.typeOf bytes < RecordType.plan.code ∨ RecordType.audit.code < Frame.typeOf bytes then none
  else if Frame.maxRecordPayload < Frame.lengthOf bytes then none
  else if bytes.length < Frame.totalOf bytes then none
  else if crc32c (Frame.payloadOf bytes) ≠ Frame.crcOf bytes then none
  else if Frame.storedOf bytes ≠ Frame.computedOf bytes then none
  else some (Frame.recordOf bytes)

/-- What the replay loop carries. -/
structure Replay where
  records : List DurableRecord
  lastSequence : UInt64
  lastRecordDigest : Digest
  previous : Digest
  validOffset : Nat

/-- The replay of the journal. Records the snapshot covers are verified and skipped; the
first frame that does not fit stops it. -/
def replayJournal (snapshotSequence : UInt64) : Nat → List UInt8 → Replay → Replay
  | 0, _, state => state
  | fuel + 1, bytes, state =>
      match journalFrame bytes with
      | none => state
      | some record =>
          if record.previousDigest ≠ state.previous then state
          else if record.sequence ≤ snapshotSequence then
            replayJournal snapshotSequence fuel (bytes.drop (Frame.totalOf bytes))
              { state with
                previous := record.recordDigest
                validOffset := state.validOffset + Frame.totalOf bytes }
          else if record.sequence ≠ state.lastSequence + 1 then state
          else
            replayJournal snapshotSequence fuel (bytes.drop (Frame.totalOf bytes))
              { records := state.records ++ [record]
                lastSequence := record.sequence
                lastRecordDigest := record.recordDigest
                previous := record.recordDigest
                validOffset := state.validOffset + Frame.totalOf bytes }

def checkManifest (manifest : List UInt8) : Status :=
  if Frame.maxFileBytes < manifest.length then
    fail .ioFailure (text "durable file exceeds the supported size bound")
  else if manifest.length ≠ Frame.manifestSize then integrity "the durable manifest is malformed"
  else if Frame.magicOf manifest ≠ Frame.manifestMagic then
    integrity "the durable manifest magic does not match"
  else if Frame.versionOf manifest ≠ durableFormatVersion then
    fail .unsupportedVersion (text "the durable manifest format version is unsupported")
  else .ok ()

/-- The manifest is checked, or created. -/
def openManifest (directory : Directory) : Result (List DiskAction) :=
  match directory.files .manifest with
  | none => .ok (writeAtomic .manifest makeManifest)
  | some manifest => do
      checkManifest manifest
      pure []

def openSnapshot (directory : Directory) : Result LoadedSnapshot :=
  match directory.files .snapshot with
  | none => .ok ⟨0, [], default⟩
  | some bytes => loadSnapshot bytes

/-- The journal is replayed and cut behind its last valid record, or created. -/
def openJournal (directory : Directory) (snapshot : LoadedSnapshot) :
    Result (Replay × Nat × List DiskAction) :=
  let start : Replay :=
    { records := snapshot.records
      lastSequence := snapshot.sequence
      lastRecordDigest := snapshot.last
      previous := (snapshot.records.getLast?.map DurableRecord.recordDigest).getD default
      validOffset := Frame.journalHeaderSize }
  match directory.files .journal with
  | none => .ok (start, 0, writeAtomic .journal (makeJournalHeader (snapshot.sequence + 1)))
  | some journal =>
      if journal.length < Frame.journalHeaderSize then
        integrity "the durable journal header is truncated"
      else do
        parseJournalHeader (journal.take Frame.journalHeaderSize)
        let replayed := replayJournal snapshot.sequence journal.length
          (journal.drop Frame.journalHeaderSize) start
        if replayed.validOffset < journal.length then
          pure (replayed, journal.length - replayed.validOffset, [.truncateJournal replayed.validOffset])
        else pure (replayed, 0, [])

/-- `PlanRepository::open`. -/
def openRepository (options : RepositoryOptions) (directory : Directory) :
    Result (PlanRepository × List DiskAction) := do
  let discarded : List DiskAction :=
    [.removeTemporary .snapshot, .removeTemporary .journal, .removeTemporary .manifest]
  let manifest ← openManifest directory
  let snapshot ← openSnapshot directory
  let (replayed, truncated, journal) ← openJournal directory snapshot
  let noticed := replayed.records.foldl
    (fun found record => noticed found.1 found.2 record) ((0 : UInt64), ([] : List FenceRecord))
  pure ({ options := { options with compactAfterRecords := max options.compactAfterRecords 1 }
          journalOpen := true
          records := replayed.records
          fences := noticed.2
          recovery :=
            { manifestPresent := (directory.files .manifest).isSome
              snapshotLoaded := (directory.files .snapshot).isSome
              snapshotSequence := snapshot.sequence
              recordsRecovered := replayed.records.length
              journalBytesTruncated := truncated
              coordinatorEpoch := noticed.1 }
          lastSequence := replayed.lastSequence
          snapshotSequence := snapshot.sequence
          coordinatorEpochValue := noticed.1
          lastRecordDigest := replayed.lastRecordDigest
          recordsSinceCompaction := replayed.records.length },
        discarded ++ manifest ++ journal)

end PlanRepository

end TrafficFabric
