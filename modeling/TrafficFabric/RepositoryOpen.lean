import TrafficFabric.RepositoryDisk
import TrafficFabric.RepositoryFrames

set_option autoImplicit false

/- What opening finds in a directory that holds a log. -/
namespace TrafficFabric

namespace PlanRepository

/-- The files hold the log: the snapshot its first `covered` records, the journal the records
from `first` on and then bytes that are no frame. -/
structure Stored (directory : Directory) (log : List DurableRecord) (covered first : Nat)
    (torn : List UInt8) : Prop where
  chained : Chained 0 default log
  count : log.length < 2 ^ 64
  covers : covered ≤ log.length
  starts : first ≤ covered
  manifest : directory.files .manifest = none ∨ directory.files .manifest = some makeManifest
  snapshot : directory.files .snapshot = none ∧ covered = 0 ∨
    ∃ sequence : UInt64, sequence.toNat = covered ∧
      directory.files .snapshot = some (snapshotImage sequence (log.take covered)) ∧
      (snapshotImage sequence (log.take covered)).length ≤ Frame.maxFileBytes
  journal : directory.files .journal = none ∧ log = [] ∧ torn = [] ∨
    ∃ start : UInt64, directory.files .journal =
      some (makeJournalHeader start ++ ((log.drop first).flatMap recordImage ++ torn))
  ends : journalFrame torn = none
  synced : directory.unsynced = []

/-- The first record of the journal continues the chain of the snapshot. -/
def Continues (log : List DurableRecord) (covered first : Nat) : Prop :=
  tip default (log.take first) = tip default (log.take covered)

/-- The repository in memory agrees with the log. -/
structure Agrees (repository : PlanRepository) (log : List DurableRecord) : Prop where
  records : repository.records = log
  sequence : repository.lastSequence.toNat = log.length
  digest : repository.lastRecordDigest = tip default log
  isOpen : repository.journalOpen = true
  alive : repository.closed = false
  noticed : (repository.coordinatorEpochValue, repository.fences) =
    log.foldl (fun found record => noticed found.1 found.2 record) (0, [])

/-- No temporary, and the two files every open leaves behind. -/
structure Settled (directory : Directory) : Prop where
  temporaries : directory.temporaries = fun _ => none
  manifest : directory.files .manifest = some makeManifest
  journal : (directory.files .journal).isSome

variable {directory : Directory} {log : List DurableRecord} {covered first : Nat} {torn : List UInt8}

namespace Stored

theorem chained_take (stored : Stored directory log covered first torn) (count : Nat) :
    Chained 0 default (log.take count) := by
  have whole := stored.chained
  rw [← List.take_append_drop count log, chained_append] at whole
  exact whole.1

theorem chained_drop (stored : Stored directory log covered first torn) {count : Nat}
    (inside : count ≤ log.length) : Chained count (tip default (log.take count)) (log.drop count) := by
  have whole := stored.chained
  rw [← List.take_append_drop count log, chained_append, List.length_take_of_le inside,
    Nat.zero_add] at whole
  exact whole.2

theorem openManifest_ok (stored : Stored directory log covered first torn) :
    ∃ actions, openManifest directory = .ok actions ∧
      (directory.files .manifest = none ∧ actions = writeAtomic .manifest makeManifest ∨
        directory.files .manifest = some makeManifest ∧ actions = []) := by
  unfold openManifest
  rcases stored.manifest with absent | present
  · rw [absent]
    exact ⟨_, rfl, Or.inl ⟨rfl, rfl⟩⟩
  · rw [present]
    refine ⟨[], ?_, Or.inr ⟨rfl, rfl⟩⟩
    simp only [checkManifest_makeManifest]
    rfl

theorem openSnapshot_ok (stored : Stored directory log covered first torn) :
    ∃ sequence : UInt64, sequence.toNat = covered ∧ openSnapshot directory =
      .ok ⟨sequence, log.take covered, tip default (log.take covered)⟩ := by
  unfold openSnapshot
  rcases stored.snapshot with ⟨absent, rfl⟩ | ⟨sequence, number, present, fits⟩
  · rw [absent]
    exact ⟨0, rfl, rfl⟩
  · rw [present]
    exact ⟨sequence, number, loadSnapshot_image (stored.chained_take covered) fits⟩

end Stored

/-- Where the replay starts. -/
def replayStart (snapshot : LoadedSnapshot) : Replay :=
  { records := snapshot.records
    lastSequence := snapshot.sequence
    lastRecordDigest := snapshot.last
    previous := (snapshot.records.getLast?.map DurableRecord.recordDigest).getD default
    validOffset := Frame.journalHeaderSize }

/-- The replay behind a snapshot the journal continues: it finds the whole log. -/
theorem Stored.replay_continues (stored : Stored directory log covered first torn)
    (continues : Continues log covered first) {sequence : UInt64} (number : sequence.toNat = covered)
    {fuel : Nat} (enough : (log.drop first).length ≤ fuel) :
    ∃ after, replayJournal sequence fuel ((log.drop first).flatMap recordImage ++ torn)
        (replayStart ⟨sequence, log.take covered, tip default (log.take covered)⟩) = after ∧
      after.records = log ∧ after.lastSequence.toNat = log.length ∧
      after.lastRecordDigest = tip default log ∧
      after.validOffset = Frame.journalHeaderSize + ((log.drop first).flatMap recordImage).length := by
  have covers := stored.covers
  have starts := stored.starts
  rw [List.length_drop] at enough
  -- The journal is cut at the end of the snapshot: a part to skip and a part to take up.
  have cut : log.drop first = (log.drop first).take (covered - first) ++ log.drop covered := by
    have later : log.drop covered = (log.drop first).drop (covered - first) := by
      rw [List.drop_drop]
      congr 1
      omega
    rw [later, List.take_append_drop]
  have whole := stored.chained_drop (starts.trans covers)
  rw [cut, chained_append, continues] at whole
  have width : ((log.drop first).take (covered - first)).length = covered - first := by
    rw [List.length_take, List.length_drop]
    omega
  have joined : log.take covered = log.take first ++ (log.drop first).take (covered - first) := by
    rw [← List.take_add]
    congr 1
    omega
  have reached : tip (tip default (log.take covered)) ((log.drop first).take (covered - first)) =
      tip default (log.take covered) := by
    calc tip (tip default (log.take covered)) ((log.drop first).take (covered - first))
        = tip (tip default (log.take first)) ((log.drop first).take (covered - first)) := by
          rw [continues]
      _ = tip default (log.take covered) := by rw [← tip_append, ← joined]
  let start := replayStart ⟨sequence, log.take covered, tip default (log.take covered)⟩
  let middle : Replay := { start with
    previous := tip start.previous ((log.drop first).take (covered - first))
    validOffset := start.validOffset +
      (((log.drop first).take (covered - first)).flatMap recordImage).length }
  have skipped : replayJournal sequence fuel
      (((log.drop first).take (covered - first)).flatMap recordImage ++
        ((log.drop covered).flatMap recordImage ++ torn)) start =
      replayJournal sequence (fuel - ((log.drop first).take (covered - first)).length)
        ((log.drop covered).flatMap recordImage ++ torn) middle :=
    replayJournal_skip _ _ first fuel start whole.1 (by omega) (by omega)
  have onward : Chained covered middle.previous (log.drop covered) := by
    have chain := stored.chained_drop covers
    rw [← reached] at chain
    exact chain
  obtain ⟨after, run, records, last, digest, -, offset⟩ :=
    replayJournal_push (log.drop covered) torn covered (fuel - (covered - first)) middle onward
      (le_of_eq number) number (by rw [List.length_drop]; have := stored.count; omega)
      (by rw [List.length_drop]; omega)
  refine ⟨after, ?_, ?_, ?_, ?_, ?_⟩
  · rw [cut, List.flatMap_append, List.append_assoc]
    refine skipped.trans ?_
    rw [width]
    exact run.trans (replayJournal_stop stored.ends _ after)
  · rw [records]
    exact List.take_append_drop covered log
  · rw [last, List.length_drop]
    omega
  · rw [digest]
    change tip (tip default (log.take covered)) (log.drop covered) = tip default log
    rw [← tip_append, List.take_append_drop]
  · rw [offset]
    change Frame.journalHeaderSize + _ + _ = _
    rw [Nat.add_assoc, ← List.length_append, ← List.flatMap_append, ← cut]

/-- The replay behind a snapshot of the whole log that the journal does not continue, as a
crash between the two replacements of a compaction leaves it: nothing is taken up. -/
theorem Stored.replay_apart (stored : Stored directory log covered first torn)
    (all : covered = log.length) (apart : ¬ Continues log covered first) (sequence : UInt64)
    (fuel : Nat) (state : Replay) (previous : state.previous = tip default (log.take covered)) :
    replayJournal sequence fuel ((log.drop first).flatMap recordImage ++ torn) state = state := by
  have chain := stored.chained_drop (stored.starts.trans stored.covers)
  cases remaining : log.drop first with
  | nil =>
      have same : first = covered := by
        have length := congrArg List.length remaining
        rw [List.length_drop, List.length_nil] at length
        have starts := stored.starts
        omega
      exact absurd (by rw [Continues, same]) apart
  | cons record rest =>
      rw [remaining] at chain
      obtain ⟨-, back, framed, -⟩ := chain
      rw [List.flatMap_cons, List.append_assoc]
      apply replayJournal_apart framed
      rw [back, previous]
      exact apart

/-- What opening does to the journal so that it holds exactly the image. -/
inductive Trims (directory : Directory) (image : List UInt8) : List DiskAction → Prop
  | created (absent : directory.files .journal = none) :
      Trims directory image (writeAtomic .journal image)
  | kept (present : directory.files .journal = some image) : Trims directory image []
  | cut (whole : List UInt8) (size : Nat) (present : directory.files .journal = some whole)
      (front : whole.take size = image) : Trims directory image [.truncateJournal size]

theorem Stored.openJournal_ok (stored : Stored directory log covered first torn)
    (aligned : covered = log.length ∨ Continues log covered first) {sequence : UInt64}
    (number : sequence.toNat = covered) :
    ∃ replayed truncated actions kept, ∃ start : UInt64,
      openJournal directory ⟨sequence, log.take covered, tip default (log.take covered)⟩ =
        .ok (replayed, truncated, actions) ∧
      replayed.records = log ∧ replayed.lastSequence.toNat = log.length ∧
      replayed.lastRecordDigest = tip default log ∧ kept ≤ covered ∧ Continues log covered kept ∧
      Trims directory (makeJournalHeader start ++ (log.drop kept).flatMap recordImage) actions ∧
      (torn = [] → Continues log covered first → (directory.files .journal).isSome → actions = []) := by
  rcases stored.journal with ⟨absent, rfl, rfl⟩ | ⟨start, present⟩
  · -- No journal yet, so no record either.
    have none : covered = 0 := Nat.le_zero.1 stored.covers
    subst none
    refine ⟨_, _, _, 0, sequence + 1, by unfold openJournal; rw [absent], rfl, number, rfl, Nat.le_refl 0,
      rfl, ?_, ?_⟩
    · have whole : makeJournalHeader (sequence + 1) ++ ([].drop 0).flatMap recordImage =
          makeJournalHeader (sequence + 1) := List.append_nil _
      rw [whole]
      exact Trims.created absent
    · intro _ _ some
      rw [absent] at some
      cases some
  · let journal := makeJournalHeader start ++ ((log.drop first).flatMap recordImage ++ torn)
    have header : (makeJournalHeader start).length = Frame.journalHeaderSize :=
      length_makeJournalHeader start
    have front : journal.take Frame.journalHeaderSize = makeJournalHeader start := List.take_left' header
    have back : journal.drop Frame.journalHeaderSize = (log.drop first).flatMap recordImage ++ torn :=
      List.drop_left' header
    have long : ¬ journal.length < Frame.journalHeaderSize := by
      rw [List.length_append, header]
      omega
    have opened : ∀ replayed, replayJournal sequence journal.length
        ((log.drop first).flatMap recordImage ++ torn)
        (replayStart ⟨sequence, log.take covered, tip default (log.take covered)⟩) = replayed →
        openJournal directory ⟨sequence, log.take covered, tip default (log.take covered)⟩ =
          if replayed.validOffset < journal.length then
            .ok (replayed, journal.length - replayed.validOffset, [.truncateJournal replayed.validOffset])
          else .ok (replayed, 0, []) := by
      intro replayed run
      subst run
      unfold openJournal
      rw [present]
      simp only
      rw [if_neg long, front, parseJournalHeader_make, back]
      rfl
    have enough : (log.drop first).length ≤ journal.length := by
      rw [List.length_append, List.length_append]
      have images := length_le_flatMap_image (log.drop first)
      omega
    by_cases continues : Continues log covered first
    · obtain ⟨replayed, run, records, last, digest, offset⟩ :=
        stored.replay_continues continues number enough
      have answer := opened replayed run
      have width : journal.length = replayed.validOffset + torn.length := by
        rw [offset, List.length_append, List.length_append, header, Nat.add_assoc]
      by_cases rest : torn = []
      · subst rest
        rw [if_neg (by rw [width, List.length_nil]; omega)] at answer
        refine ⟨replayed, 0, [], first, start, answer, records, last, digest, stored.starts, continues, ?_,
          fun _ _ _ => rfl⟩
        apply Trims.kept
        rw [present, List.append_nil]
      · have longer : 0 < torn.length := List.length_pos_iff.2 rest
        rw [if_pos (by omega)] at answer
        refine ⟨replayed, _, _, first, start, answer, records, last, digest, stored.starts, continues, ?_,
          fun empty => absurd empty rest⟩
        apply Trims.cut journal replayed.validOffset present
        have front : journal = (makeJournalHeader start ++ (log.drop first).flatMap recordImage) ++ torn :=
          (List.append_assoc _ _ _).symm
        rw [front]
        apply List.take_left'
        rw [offset, List.length_append, header]
    · -- The whole journal is older than the snapshot: it is cut behind its header.
      have all : covered = log.length := aligned.resolve_right continues
      have run := stored.replay_apart all continues sequence journal.length
        (replayStart ⟨sequence, log.take covered, tip default (log.take covered)⟩) rfl
      have answer := opened _ run
      have some : 0 < ((log.drop first).flatMap recordImage).length := by
        have images := length_le_flatMap_image (log.drop first)
        have differs : first ≠ covered := fun same => continues (by rw [Continues, same])
        have starts := stored.starts
        rw [List.length_drop] at images
        omega
      have width : journal.length = Frame.journalHeaderSize +
          (((log.drop first).flatMap recordImage).length + torn.length) := by
        rw [List.length_append, List.length_append, header]
      rw [if_pos (by
        change Frame.journalHeaderSize < journal.length
        omega)] at answer
      refine ⟨_, _, _, covered, start, answer, ?_, ?_, ?_, Nat.le_refl covered, rfl, ?_,
        fun _ next => absurd next continues⟩
      · change log.take covered = log
        rw [all, List.take_length]
      · exact number.trans all
      · change tip default (log.take covered) = tip default log
        rw [all, List.take_length]
      · apply Trims.cut journal Frame.journalHeaderSize present
        rw [front, all, List.drop_length]
        exact (List.append_nil _).symm

/-! The directory that opening leaves behind, and every directory on the way. -/

theorem Stored.sameFiles {found : Directory} (stored : Stored directory log covered first torn)
    (same : Directory.SameFiles directory found) : Stored found log covered first torn :=
  { stored with
    manifest := by rw [same.files]; exact stored.manifest
    snapshot := by rw [same.files]; exact stored.snapshot
    journal := by rw [same.files]; exact stored.journal
    synced := by rw [same.unsynced]; exact stored.synced }

theorem Stored.manifested (stored : Stored directory log covered first torn) :
    Stored (directory.replaced .manifest makeManifest) log covered first torn :=
  { stored with
    manifest := Or.inr Directory.replaced_same
    snapshot := by
      rw [Directory.replaced_other (by decide)]
      exact stored.snapshot
    journal := by
      rw [Directory.replaced_other (by decide)]
      exact stored.journal
    synced := Directory.replaced_unsynced stored.synced }

/-- The files hold the log once the journal is exactly the records from `kept` on. -/
theorem Stored.journalled {found : Directory} {kept : Nat} {start : UInt64}
    (stored : Stored directory log covered first torn) (below : kept ≤ covered)
    (others : ∀ file, file ≠ .journal → found.files file = directory.files file)
    (journal : found.files .journal =
      some (makeJournalHeader start ++ (log.drop kept).flatMap recordImage))
    (synced : found.unsynced = []) : Stored found log covered kept [] :=
  { stored with
    starts := below
    manifest := by
      rw [others _ (by decide)]
      exact stored.manifest
    snapshot := by
      rw [others _ (by decide)]
      exact stored.snapshot
    journal := Or.inr ⟨start, by rw [journal, List.append_nil]⟩
    ends := rfl
    synced := synced }

namespace Trims

variable {image : List UInt8} {actions : List DiskAction} {found : Directory}

theorem of_eq (same : found.files .journal = directory.files .journal)
    (trims : Trims directory image actions) : Trims found image actions := by
  cases trims with
  | created absent => exact Trims.created (same.trans absent)
  | kept present => exact Trims.kept (same.trans present)
  | cut whole size present front => exact Trims.cut whole size (same.trans present) front

theorem journal (trims : Trims directory image actions) :
    (directory.performAll actions).files .journal = some image := by
  cases trims with
  | created absent => exact Directory.replaced_same
  | kept present => exact present
  | cut whole size present front =>
      change (directory.files .journal).map (fun bytes => bytes.take size) = some image
      rw [present, ← front]
      rfl

theorem others (trims : Trims directory image actions) {file : FileName} (other : file ≠ .journal) :
    (directory.performAll actions).files file = directory.files file := by
  cases trims with
  | created absent => exact Directory.replaced_other other
  | kept present => rfl
  | cut whole size present front => exact if_neg other

theorem unsynced (trims : Trims directory image actions) (synced : directory.unsynced = []) :
    (directory.performAll actions).unsynced = [] := by
  cases trims with
  | created absent => rfl
  | kept present => exact synced
  | cut whole size present front => exact synced

theorem temporaries (trims : Trims directory image actions)
    (none : directory.temporaries = fun _ => none) :
    (directory.performAll actions).temporaries = fun _ => Option.none := by
  cases trims with
  | created absent => exact Directory.replaced_temporaries none
  | kept present => exact none
  | cut whole size present front => exact none

/-- A stop on the way leaves the journal as it was or as it will be. -/
theorem stops (trims : Trims directory image actions) (stops : Directory.Stops directory actions found) :
    Directory.SameFiles directory found ∨ found = directory.performAll actions := by
  cases trims with
  | created absent => exact stops.writeAtomic
  | kept present =>
      cases stops with
      | here => exact Or.inr rfl
  | cut whole size present front =>
      rcases stops.single (fun _ _ differs => by cases differs) with same | done
      · exact Or.inl (same ▸ Directory.SameFiles.refl directory)
      · exact Or.inr done

end Trims

/-! Opening as a whole. -/

/-- The files hold the log, whatever was in flight. -/
def Holds (directory : Directory) (log : List DurableRecord) : Prop :=
  ∃ covered first torn, Stored directory log covered first torn ∧
    (covered = log.length ∨ Continues log covered first)

/-- The directory of an open repository: nothing torn, nothing temporary. -/
structure Ready (directory : Directory) (log : List DurableRecord) (covered first : Nat) : Prop where
  stored : Stored directory log covered first []
  continues : Continues log covered first
  settled : Settled directory

theorem Ready.holds (ready : Ready directory log covered first) : Holds directory log :=
  ⟨covered, first, [], ready.stored, Or.inr ready.continues⟩

/-- What opening removes before it looks at a file. -/
def discards : List DiskAction :=
  [.removeTemporary .snapshot, .removeTemporary .journal, .removeTemporary .manifest]

theorem discards_sameFiles (directory : Directory) :
    Directory.SameFiles directory (directory.performAll discards) := ⟨rfl, rfl⟩

theorem discards_temporaries (directory : Directory) :
    (directory.performAll discards).temporaries = fun _ => none := by
  funext file
  cases file <;> rfl

theorem performAll_discards (none : directory.temporaries = fun _ => none) :
    directory.performAll discards = directory := by
  have cleared := discards_temporaries directory
  obtain ⟨files, temporaries, unsynced⟩ := directory
  change temporaries = _ at none
  subst none
  exact congrArg (fun temporaries => Directory.mk files temporaries unsynced) cleared

theorem Stops_discards {found : Directory} (stops : Directory.Stops directory discards found) :
    Directory.SameFiles directory found := by
  apply stops.discarding
  intro action member
  simp only [discards, List.mem_cons, List.not_mem_nil, or_false] at member
  rcases member with rfl | rfl | rfl
  · exact ⟨_, rfl⟩
  · exact ⟨_, rfl⟩
  · exact ⟨_, rfl⟩

/-- What opening a directory that holds a log does: the log is found, and the directory holds
it at every point on the way. -/
structure Opens (directory : Directory) (log : List DurableRecord) (repository : PlanRepository)
    (actions : List DiskAction) : Prop where
  agrees : Agrees repository log
  ready : ∃ covered first, Ready (directory.performAll actions) log covered first
  holds : ∀ found, Directory.Stops directory actions found → Holds found log ∧ found.unsynced = []

theorem Stored.opens (stored : Stored directory log covered first torn)
    (aligned : covered = log.length ∨ Continues log covered first) (options : RepositoryOptions) :
    ∃ repository actions, openRepository options directory = .ok (repository, actions) ∧
      repository.options.fsync = options.fsync ∧ Opens directory log repository actions ∧
      (torn = [] → Continues log covered first → Settled directory →
        directory.performAll actions = directory) := by
  obtain ⟨manifest, checked, manifested⟩ := stored.openManifest_ok
  obtain ⟨sequence, number, loaded⟩ := stored.openSnapshot_ok
  obtain ⟨replayed, truncated, journal, kept, start, opened, records, last, digest, below, continues,
    trims, untouched⟩ := stored.openJournal_ok aligned number
  obtain ⟨repository, answer, fsync, agrees⟩ : ∃ repository, openRepository options directory =
      .ok (repository, discards ++ manifest ++ journal) ∧ repository.options.fsync = options.fsync ∧
        Agrees repository log := by
    apply Exists.intro
    refine ⟨?_, ?_, ?_⟩
    · unfold openRepository
      rw [checked, loaded]
      simp only [bind, Except.bind]
      rw [opened]
      rfl
    · rfl
    · exact
        { records := records
          sequence := last
          digest := digest
          isOpen := rfl
          alive := rfl
          noticed := by rw [← records] }
  let cleaned := directory.performAll discards
  let middle := cleaned.performAll manifest
  have cleanedStored : Stored cleaned log covered first torn :=
    stored.sameFiles (discards_sameFiles directory)
  have middleStored : Stored middle log covered first torn := by
    rcases manifested with ⟨-, rfl⟩ | ⟨-, rfl⟩
    · exact cleanedStored.manifested
    · exact cleanedStored
  have middleTemporaries : middle.temporaries = fun _ => none := by
    rcases manifested with ⟨-, rfl⟩ | ⟨-, rfl⟩
    · exact Directory.replaced_temporaries (discards_temporaries directory)
    · exact discards_temporaries directory
  have middleManifest : middle.files .manifest = some makeManifest := by
    rcases manifested with ⟨-, rfl⟩ | ⟨present, rfl⟩
    · exact Directory.replaced_same
    · exact present
  have middleJournal : middle.files .journal = directory.files .journal := by
    rcases manifested with ⟨-, rfl⟩ | ⟨-, rfl⟩
    · exact Directory.replaced_other (by decide)
    · rfl
  have middleTrims := trims.of_eq middleJournal
  have final : directory.performAll (discards ++ manifest ++ journal) = middle.performAll journal := by
    rw [Directory.performAll_append, Directory.performAll_append]
  have finalStored : Stored (middle.performAll journal) log covered kept [] :=
    middleStored.journalled below (fun _ other => middleTrims.others other) middleTrims.journal
      (middleTrims.unsynced middleStored.synced)
  refine ⟨repository, discards ++ manifest ++ journal, answer, fsync, ⟨agrees, ?_, ?_⟩, ?_⟩
  · rw [final]
    refine ⟨covered, kept, finalStored, continues, middleTrims.temporaries middleTemporaries, ?_, ?_⟩
    · rw [middleTrims.others (by decide)]
      exact middleManifest
    · rw [middleTrims.journal]
      rfl
  · -- Every stop on the way.
    intro found stops
    rcases stops.split with before | within
    · rcases before.split with early | writing
      · have same := Stops_discards early
        exact ⟨⟨covered, first, torn, stored.sameFiles same, aligned⟩, same.unsynced.trans stored.synced⟩
      · rcases manifested with ⟨-, rfl⟩ | ⟨-, rfl⟩
        · rcases writing.writeAtomic with same | rfl
          · exact ⟨⟨covered, first, torn, cleanedStored.sameFiles same, aligned⟩,
              same.unsynced.trans cleanedStored.synced⟩
          · exact ⟨⟨covered, first, torn, cleanedStored.manifested, aligned⟩,
              cleanedStored.manifested.synced⟩
        · cases writing with
          | here => exact ⟨⟨covered, first, torn, cleanedStored, aligned⟩, cleanedStored.synced⟩
    · rw [Directory.performAll_append] at within
      rcases middleTrims.stops within with same | rfl
      · exact ⟨⟨covered, first, torn, middleStored.sameFiles same, aligned⟩,
          same.unsynced.trans middleStored.synced⟩
      · exact ⟨⟨covered, kept, [], finalStored, Or.inr continues⟩, finalStored.synced⟩
  · intro whole next settled
    have still : journal = [] := untouched whole next settled.journal
    have present : manifest = [] := by
      rcases manifested with ⟨absent, -⟩ | ⟨-, none⟩
      · rw [settled.manifest] at absent
        cases absent
      · exact none
    rw [still, present, List.append_nil, List.append_nil]
    exact performAll_discards settled.temporaries

theorem Holds.opens (holds : Holds directory log) (options : RepositoryOptions) :
    ∃ repository actions, openRepository options directory = .ok (repository, actions) ∧
      repository.options.fsync = options.fsync ∧ Opens directory log repository actions := by
  obtain ⟨covered, first, torn, stored, aligned⟩ := holds
  obtain ⟨repository, actions, opened, fsync, opens, -⟩ := stored.opens aligned options
  exact ⟨repository, actions, opened, fsync, opens⟩

/-- Opening a directory again that an open left behind touches nothing. -/
theorem Ready.opens (ready : Ready directory log covered first) (options : RepositoryOptions) :
    ∃ repository actions, openRepository options directory = .ok (repository, actions) ∧
      Agrees repository log ∧ directory.performAll actions = directory := by
  obtain ⟨repository, actions, opened, -, opens, untouched⟩ :=
    ready.stored.opens (Or.inr ready.continues) options
  exact ⟨repository, actions, opened, opens.agrees, untouched rfl ready.continues ready.settled⟩

end PlanRepository

end TrafficFabric
