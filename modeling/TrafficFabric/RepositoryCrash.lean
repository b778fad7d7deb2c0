import TrafficFabric.RepositoryOpen

set_option autoImplicit false

/- Appending and compacting keep the log in the files at every point, and so does any session
of calls and crashes. -/
namespace TrafficFabric

namespace PlanRepository

/-- The fences among records, in order. -/
def fencesOf (records : List DurableRecord) : List FenceRecord :=
  records.filterMap fun record =>
    if record.type = .fence then (decodeFence record.payload).toOption else none

/-- The coordinator epochs among records, in order. -/
def epochsOf (records : List DurableRecord) : List UInt64 :=
  records.filterMap fun record =>
    if record.type = .coordinatorEpoch then
      (decodeCoordinatorEpoch record.payload).toOption.map CoordinatorEpochRecord.epoch
    else none

def highestEpoch (records : List DurableRecord) : UInt64 := (epochsOf records).foldl max 0

theorem noticed_eq (epoch : UInt64) (fences : List FenceRecord) (record : DurableRecord) :
    noticed epoch fences record = ((epochsOf [record]).foldl max epoch, fences ++ fencesOf [record]) := by
  unfold noticed epochsOf fencesOf
  by_cases epochs : record.type = .coordinatorEpoch
  · have other : record.type ≠ .fence := by rw [epochs]; decide
    cases decoded : decodeCoordinatorEpoch record.payload <;>
      simp [epochs, decoded, Except.toOption]
  · by_cases fence : record.type = .fence
    · cases decoded : decodeFence record.payload <;> simp [fence, decoded, Except.toOption]
    · simp [epochs, fence]

theorem foldl_noticed (records : List DurableRecord) (epoch : UInt64) (fences : List FenceRecord) :
    records.foldl (fun found record => noticed found.1 found.2 record) (epoch, fences) =
      ((epochsOf records).foldl max epoch, fences ++ fencesOf records) := by
  induction records generalizing epoch fences with
  | nil => simp [epochsOf, fencesOf]
  | cons record rest ih =>
      have split : record :: rest = [record] ++ rest := rfl
      have epochs : epochsOf (record :: rest) = epochsOf [record] ++ epochsOf rest := by
        rw [split, epochsOf, List.filterMap_append]
        rfl
      have fenced : fencesOf (record :: rest) = fencesOf [record] ++ fencesOf rest := by
        rw [split, fencesOf, List.filterMap_append]
        rfl
      rw [List.foldl_cons, noticed_eq, ih, epochs, fenced, List.foldl_append, List.append_assoc]

theorem Agrees.epoch_eq {repository : PlanRepository} {log : List DurableRecord}
    (agrees : Agrees repository log) : repository.coordinatorEpochValue = highestEpoch log := by
  have both := agrees.noticed
  rw [foldl_noticed] at both
  exact congrArg Prod.fst both

theorem Agrees.fences_eq {repository : PlanRepository} {log : List DurableRecord}
    (agrees : Agrees repository log) : repository.fences = fencesOf log := by
  have both := agrees.noticed
  rw [foldl_noticed, List.nil_append] at both
  exact congrArg Prod.snd both

variable {directory : Directory} {log : List DurableRecord} {covered first : Nat}
  {repository : PlanRepository}

/-! Compaction. -/

/-- The snapshot covers the whole log and the journal may still be the old one. -/
theorem Stored.snapshotted {torn : List UInt8} (stored : Stored directory log covered first torn)
    {sequence : UInt64} (number : sequence.toNat = log.length)
    (small : (snapshotImage sequence log).length ≤ Frame.maxFileBytes) :
    Stored (directory.replaced .snapshot (snapshotImage sequence log)) log log.length first torn :=
  { stored with
    covers := Nat.le_refl _
    starts := stored.starts.trans stored.covers
    manifest := by
      rw [Directory.replaced_other (by decide)]
      exact stored.manifest
    snapshot := Or.inr ⟨sequence, number, by rw [Directory.replaced_same, List.take_length],
      by rw [List.take_length]; exact small⟩
    journal := by
      rw [Directory.replaced_other (by decide)]
      exact stored.journal
    synced := Directory.replaced_unsynced stored.synced }

/-- The two replacements of a compaction. -/
theorem compactLocked_keeps (agrees : Agrees repository log) (ready : Ready directory log covered first)
    (small : (snapshotImage repository.lastSequence log).length ≤ Frame.maxFileBytes) :
    ∃ after actions, repository.compactLocked {} = (.ok (), after, actions) ∧ Agrees after log ∧
      after.options = repository.options ∧
      Ready (directory.performAll actions) log log.length log.length ∧
      ∀ found, Directory.Stops directory actions found → Holds found log ∧ found.unsynced = [] := by
  let snapshot := writeAtomic .snapshot (snapshotImage repository.lastSequence repository.records)
  let journal := writeAtomic .journal (makeJournalHeader (repository.lastSequence + 1))
  have covering := ready.stored.snapshotted agrees.sequence small
  let middle := directory.replaced .snapshot (snapshotImage repository.lastSequence log)
  have reset : Stored (middle.replaced .journal (makeJournalHeader (repository.lastSequence + 1)))
      log log.length log.length [] :=
    covering.journalled (Nat.le_refl _) (fun _ other => Directory.replaced_other other)
      (by rw [Directory.replaced_same, List.drop_length, List.flatMap_nil, List.append_nil])
      (Directory.replaced_unsynced covering.synced)
  have final : directory.performAll (snapshot ++ journal) =
      middle.replaced .journal (makeJournalHeader (repository.lastSequence + 1)) := by
    rw [Directory.performAll_append]
    unfold snapshot
    rw [agrees.records]
    rfl
  refine ⟨_, snapshot ++ journal, rfl, ?_, rfl, ?_, ?_⟩
  · exact { agrees with isOpen := rfl }
  · rw [final]
    refine ⟨reset, rfl, ?_, ?_, ?_⟩
    · exact Directory.replaced_temporaries (Directory.replaced_temporaries ready.settled.temporaries)
    · rw [Directory.replaced_other (by decide), Directory.replaced_other (by decide)]
      exact ready.settled.manifest
    · rw [Directory.replaced_same]
      rfl
  · intro found stops
    unfold snapshot at stops
    rw [agrees.records] at stops
    rcases stops.split with before | after
    · rcases before.writeAtomic with same | rfl
      · exact ⟨⟨covered, first, [], ready.stored.sameFiles same, Or.inr ready.continues⟩,
          same.unsynced.trans ready.stored.synced⟩
      · exact ⟨⟨log.length, first, [], covering, Or.inl rfl⟩, covering.synced⟩
    · rcases after.writeAtomic with same | rfl
      · exact ⟨⟨log.length, first, [], covering.sameFiles same, Or.inl rfl⟩,
          same.unsynced.trans covering.synced⟩
      · exact ⟨⟨log.length, log.length, [], reset, Or.inl rfl⟩, reset.synced⟩

/-! Appending. -/

/-- The record continues the log. -/
structure Follows (log : List DurableRecord) (record : DurableRecord) : Prop where
  number : record.sequence.toNat = log.length + 1
  back : record.previousDigest = tip default log
  framed : Framed record

theorem nextRecord_follows (agrees : Agrees repository log) {type : RecordType} {payload : List UInt8}
    (room : log.length + 1 < 2 ^ 64) (bounded : payload.length ≤ Frame.maxRecordPayload) :
    Follows log (repository.nextRecord type payload) := by
  refine ⟨?_, agrees.digest, bounded, ?_⟩
  · change (repository.lastSequence + 1).toNat = log.length + 1
    rw [UInt64.toNat_add, agrees.sequence]
    exact Nat.mod_eq_of_lt room
  · unfold nextRecord frameDigest recordHeader
    rfl

/-- The journal with more bytes behind its last record. -/
theorem Ready.journal_append (ready : Ready directory log covered first) {found : Directory}
    {bytes : List UInt8}
    (journal : found.files .journal = (directory.files .journal).map fun whole => whole ++ bytes) :
    ∃ start : UInt64, found.files .journal =
      some (makeJournalHeader start ++ ((log.drop first).flatMap recordImage ++ bytes)) := by
  rcases ready.stored.journal with ⟨absent, -, -⟩ | ⟨start, present⟩
  · have some := ready.settled.journal
    rw [absent] at some
    cases some
  · refine ⟨start, ?_⟩
    rw [journal, present, List.append_nil, Option.map_some, List.append_assoc]

/-- The journal is extended; nothing else is touched. -/
structure Extended (directory : Directory) (bytes : List UInt8) (found : Directory) : Prop where
  journal : found.files .journal = (directory.files .journal).map fun whole => whole ++ bytes
  others : ∀ file, file ≠ .journal → found.files file = directory.files file
  synced : found.unsynced = []

theorem Ready.torn (ready : Ready directory log covered first) {found : Directory} {bytes : List UInt8}
    (extended : Extended directory bytes found) (none : journalFrame bytes = none) :
    Stored found log covered first bytes :=
  { ready.stored with
    manifest := by
      rw [extended.others _ (by decide)]
      exact ready.stored.manifest
    snapshot := by
      rw [extended.others _ (by decide)]
      exact ready.stored.snapshot
    journal := Or.inr (ready.journal_append extended.journal)
    ends := none
    synced := extended.synced }

theorem Ready.appended (ready : Ready directory log covered first) {found : Directory}
    {record : DurableRecord} (follows : Follows log record) (room : log.length + 1 < 2 ^ 64)
    (extended : Extended directory (recordImage record) found) :
    Stored found (log ++ [record]) covered first [] := by
  have covers := ready.stored.covers
  have starts := ready.stored.starts
  have kept : (log ++ [record]).take covered = log.take covered := List.take_append_of_le_length covers
  have later : (log ++ [record]).drop first = log.drop first ++ [record] :=
    List.drop_append_of_le_length (starts.trans covers)
  obtain ⟨start, journal⟩ := ready.journal_append extended.journal
  exact
    { chained := by
        rw [chained_append]
        refine ⟨ready.stored.chained, ?_, follows.back, follows.framed, trivial⟩
        rw [follows.number, Nat.zero_add]
      count := by
        rw [List.length_append]
        exact room
      covers := by
        rw [List.length_append]
        omega
      starts := starts
      manifest := by
        rw [extended.others _ (by decide)]
        exact ready.stored.manifest
      snapshot := by
        rw [extended.others _ (by decide), kept]
        exact ready.stored.snapshot
      journal := by
        refine Or.inr ⟨start, ?_⟩
        rw [journal, later, List.flatMap_append, List.append_nil, List.flatMap_singleton]
      ends := rfl
      synced := extended.synced }

theorem Ready.continues_append (ready : Ready directory log covered first) (record : DurableRecord) :
    Continues (log ++ [record]) covered first := by
  have covers := ready.stored.covers
  unfold Continues
  rw [List.take_append_of_le_length covers,
    List.take_append_of_le_length (ready.stored.starts.trans covers)]
  exact ready.continues

/-- The journal is written and synchronised. -/
def synced (directory : Directory) (image : List UInt8) : Directory :=
  (directory.perform (.writeJournal image)).perform .syncJournal

theorem synced_extended (clean : directory.unsynced = []) (image : List UInt8) :
    Extended directory image (synced directory image) := by
  refine ⟨?_, fun _ other => if_neg other, rfl⟩
  change (directory.files .journal).map (fun bytes => bytes ++ (directory.unsynced ++ image)) = _
  rw [clean, List.nil_append]

/-- A crash while the record is written leaves the log, or the log with the record. -/
theorem Ready.crashed_writing (ready : Ready directory log covered first) {record : DurableRecord}
    (follows : Follows log record) (room : log.length + 1 < 2 ^ 64) {kept : List UInt8}
    (part : kept <+: (directory.perform (.writeJournal (recordImage record))).unsynced) :
    Holds ((directory.perform (.writeJournal (recordImage record))).cut kept) log ∨
      Holds ((directory.perform (.writeJournal (recordImage record))).cut kept) (log ++ [record]) := by
  have extended : Extended directory kept
      ((directory.perform (.writeJournal (recordImage record))).cut kept) :=
    ⟨rfl, fun _ other => if_neg other, rfl⟩
  change kept <+: directory.unsynced ++ recordImage record at part
  rw [ready.stored.synced, List.nil_append] at part
  by_cases short : kept.length < (recordImage record).length
  · have none := journalFrame_torn follows.framed part short
    exact Or.inl ⟨covered, first, kept, ready.torn extended none, Or.inr ready.continues⟩
  · have whole : kept = recordImage record := List.IsPrefix.eq_of_length_le part (not_lt.1 short)
    subst whole
    exact Or.inr ⟨covered, first, [], ready.appended follows room extended,
      Or.inr (ready.continues_append record)⟩

theorem Ready.crashed_appending (ready : Ready directory log covered first) {record : DurableRecord}
    (follows : Follows log record) (room : log.length + 1 < 2 ^ 64) {rest : List DiskAction}
    {found : Directory}
    (behind : ∀ stopped, Directory.Stops (synced directory (recordImage record)) rest stopped →
      Holds stopped (log ++ [record]) ∧ stopped.unsynced = [])
    (crashed : Directory.Crashed directory
      (.writeJournal (recordImage record) :: .syncJournal :: rest) found) :
    Holds found log ∨ Holds found (log ++ [record]) := by
  obtain ⟨stopped, kept, stops, part, rfl⟩ := crashed
  cases stops with
  | here =>
      rw [Directory.cut_synced ready.stored.synced part]
      exact Or.inl ready.holds
  | later stops =>
      cases stops with
      | here => exact ready.crashed_writing follows room part
      | later stops =>
          obtain ⟨holds, clean⟩ := behind stopped stops
          rw [Directory.cut_synced clean part]
          exact Or.inr holds

/-- The repository with one more record. -/
def taken (repository : PlanRepository) (record : DurableRecord) : PlanRepository :=
  { repository with
    lastSequence := record.sequence
    lastRecordDigest := record.recordDigest
    recordsSinceCompaction := repository.recordsSinceCompaction + 1
    coordinatorEpochValue := (noticed repository.coordinatorEpochValue repository.fences record).1
    fences := (noticed repository.coordinatorEpochValue repository.fences record).2
    records := repository.records ++ [record] }

theorem taken_agrees (agrees : Agrees repository log) {record : DurableRecord}
    (follows : Follows log record) : Agrees (repository.taken record) (log ++ [record]) :=
  { records := by
      change repository.records ++ [record] = log ++ [record]
      rw [agrees.records]
    sequence := by
      rw [List.length_append]
      exact follows.number
    digest := by
      rw [tip_append]
      rfl
    isOpen := agrees.isOpen
    alive := agrees.alive
    noticed := by
      rw [List.foldl_append, ← agrees.noticed]
      rfl }

/-- With room for the fence, the record is taken up, and compaction may follow. -/
theorem acknowledge_eq (agrees : Agrees repository log) (faults : Faults) {record : DurableRecord}
    (fenced : (fencesOf (log ++ [record])).length ≤ Limits.maxFences) :
    repository.acknowledge faults record =
      if repository.options.compactAfterRecords ≤ repository.recordsSinceCompaction + 1 then
        (repository.taken record).compactLocked faults
      else (.ok (), repository.taken record, []) := by
  have room : ¬ (repository.fences.length <
      (noticed repository.coordinatorEpochValue repository.fences record).2.length ∧
        Limits.maxFences ≤ repository.fences.length) := by
    rintro ⟨longer, full⟩
    have split : fencesOf (log ++ [record]) = fencesOf log ++ fencesOf [record] := List.filterMap_append
    rw [noticed_eq, List.length_append] at longer
    rw [split, List.length_append, ← agrees.fences_eq] at fenced
    omega
  unfold acknowledge
  simp only
  rw [if_neg room]
  rfl

theorem append_keeps (agrees : Agrees repository log) (ready : Ready directory log covered first)
    (fsync : repository.options.fsync = true) {type : RecordType} {payload : List UInt8}
    (fenced : (fencesOf (log ++ [repository.nextRecord type payload])).length ≤ Limits.maxFences)
    (small : ∀ bytes, .writeTemporary .snapshot bytes ∈ (repository.append {} type payload).2.2 →
      bytes.length ≤ Frame.maxFileBytes) :
    (∃ reason, repository.append {} type payload = (.error reason, repository, [])) ∨
    ∃ after actions, repository.append {} type payload = (.ok (), after, actions) ∧
      Agrees after (log ++ [repository.nextRecord type payload]) ∧ after.options = repository.options ∧
      (∃ covered first, Ready (directory.performAll actions)
        (log ++ [repository.nextRecord type payload]) covered first) ∧
      ∀ found, Directory.Crashed directory actions found →
        Holds found log ∨ Holds found (log ++ [repository.nextRecord type payload]) := by
  generalize next : repository.nextRecord type payload = record at fenced ⊢
  unfold append at small ⊢
  rw [agrees.alive, if_neg Bool.false_ne_true] at small ⊢
  by_cases full : repository.options.maxRecords.toNat ≤ repository.records.length
  · rw [if_pos full]
    exact Or.inl ⟨_, rfl⟩
  rw [if_neg full] at small ⊢
  by_cases oversized : Frame.maxRecordPayload < payload.length
  · rw [if_pos oversized]
    exact Or.inl ⟨_, rfl⟩
  rw [if_neg oversized] at small ⊢
  have room : log.length + 1 < 2 ^ 64 := by
    have bound := repository.options.maxRecords.toNat_lt
    rw [← agrees.records]
    omega
  have follows : Follows log record := by
    rw [← next]
    exact nextRecord_follows agrees room (not_lt.1 oversized)
  have takenAgrees := taken_agrees agrees follows
  have extended := synced_extended ready.stored.synced (recordImage record)
  have appended := ready.appended follows room extended
  have onward : Ready (synced directory (recordImage record)) (log ++ [record]) covered first :=
    ⟨appended, ready.continues_append record, ready.settled.temporaries,
      (extended.others _ (by decide)).trans ready.settled.manifest, by
        rw [extended.journal, Option.isSome_map]
        exact ready.settled.journal⟩
  simp only [agrees.isOpen, fsync, next, Bool.not_true, Bool.and_false, if_false, if_true,
    acknowledge_eq agrees {} fenced, Bool.false_eq_true] at small ⊢
  right
  by_cases compacts : repository.options.compactAfterRecords ≤ repository.recordsSinceCompaction + 1
  · rw [if_pos compacts] at small ⊢
    obtain ⟨after, actions, run, afterAgrees, options, afterReady, stops⟩ :=
      compactLocked_keeps takenAgrees onward (by
        apply small
        unfold compactLocked
        rw [takenAgrees.records]
        simp [writeAtomic])
    rw [run]
    refine ⟨after, _, rfl, afterAgrees, options, ⟨_, _, afterReady⟩, ?_⟩
    intro found crashed
    exact ready.crashed_appending follows room stops crashed
  · rw [if_neg compacts] at small ⊢
    refine ⟨_, _, rfl, takenAgrees, rfl, ⟨covered, first, onward⟩, ?_⟩
    intro found crashed
    refine ready.crashed_appending follows room ?_ crashed
    intro stopped stops
    cases stops with
    | here => exact ⟨onward.holds, onward.stored.synced⟩

end PlanRepository

end TrafficFabric
