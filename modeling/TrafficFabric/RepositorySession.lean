import TrafficFabric.RepositoryCrash

set_option autoImplicit false

/- Sessions: calls on a repository directory, and crashes at any point of a call. -/
namespace TrafficFabric

open PlanRepository

inductive Request
  | openAt (options : RepositoryOptions)
  | append (type : RecordType) (payload : List UInt8)
  | compact

/-- A directory and its user: the handle, the records acknowledged so far, and the record that
was being appended when the process last stopped. -/
structure Session where
  directory : Directory := {}
  repository : Option PlanRepository := none
  acknowledged : List DurableRecord := []
  inFlight : Option DurableRecord := none

namespace Session

/-- What the call does to the files. -/
def actions (session : Session) (request : Request) : List DiskAction :=
  match request, session.repository with
  | .openAt options, _ =>
      match openRepository options session.directory with
      | .ok (_, actions) => actions
      | .error _ => []
  | .append type payload, some repository => (repository.append {} type payload).2.2
  | .compact, some repository => (repository.compact {}).2.2
  | _, none => []

/-- The record the call is about to write. -/
def writes (session : Session) (request : Request) : Option DurableRecord :=
  match request, session.repository with
  | .append type payload, some repository => some (repository.nextRecord type payload)
  | _, _ => session.inFlight

/-- A call that returns. An append is acknowledged by its success; a record that was in flight
counts as acknowledged once an open has reported it. -/
def call (session : Session) (request : Request) : Session :=
  let directory := session.directory.performAll (session.actions request)
  match request, session.repository with
  | .openAt options, _ =>
      match openRepository options session.directory with
      | .ok (repository, _) =>
          { directory := directory
            repository := some repository
            acknowledged := session.acknowledged ++
              repository.records.drop session.acknowledged.length }
      | .error _ => session
  | .append type payload, some repository =>
      { session with
        directory := directory
        repository := some (repository.append {} type payload).2.1
        acknowledged := match (repository.append {} type payload).1 with
          | .ok _ => session.acknowledged ++ [repository.nextRecord type payload]
          | .error _ => session.acknowledged }
  | .compact, some repository =>
      { session with
        directory := directory
        repository := some (repository.compact {}).2.1 }
  | _, none => session

/-- The process stops during a call. -/
def crash (session : Session) (request : Request) (found : Directory) : Session :=
  { directory := found
    acknowledged := session.acknowledged
    inFlight := session.writes request }

/-- Synchronisation is on, fences stay within their bound, and a snapshot within the size that
can be read back. -/
structure Admissible (session : Session) (request : Request) : Prop where
  fsync : ∀ options, request = .openAt options → options.fsync = true
  fences : (fencesOf (session.acknowledged ++ (session.writes request).toList)).length ≤ Limits.maxFences
  snapshots : ∀ bytes, .writeTemporary .snapshot bytes ∈ session.actions request →
    bytes.length ≤ Frame.maxFileBytes

/-- The sessions that calls and crashes lead to, from an empty directory. -/
inductive Reached : Session → Prop
  | start : Reached {}
  | call {session : Session} {request : Request} (reached : Reached session)
      (admissible : Admissible session request) : Reached (session.call request)
  | crash {session : Session} {request : Request} {found : Directory} (reached : Reached session)
      (admissible : Admissible session request)
      (crashed : Directory.Crashed session.directory (session.actions request) found) :
      Reached (session.crash request found)

/-- The directory of a stopped session holds what was acknowledged, and at most the record in
flight besides. -/
def Stopped (session : Session) (directory : Directory) (inFlight : Option DurableRecord) : Prop :=
  Holds directory session.acknowledged ∨
    ∃ record, inFlight = some record ∧ Holds directory (session.acknowledged ++ [record])

/-- What every session keeps. -/
inductive Kept (session : Session) : Prop
  | stopped (down : session.repository = none)
      (holds : Stopped session session.directory session.inFlight)
  | running (repository : PlanRepository) (covered first : Nat)
      (up : session.repository = some repository) (agrees : Agrees repository session.acknowledged)
      (fsync : repository.options.fsync = true)
      (ready : Ready session.directory session.acknowledged covered first)

theorem Stopped.opens {session : Session} {directory : Directory} {inFlight : Option DurableRecord}
    (stopped : Stopped session directory inFlight) (options : RepositoryOptions) :
    ∃ log repository actions, (log = session.acknowledged ∨
        ∃ record, inFlight = some record ∧ log = session.acknowledged ++ [record]) ∧
      openRepository options directory = .ok (repository, actions) ∧
      repository.options.fsync = options.fsync ∧ Opens directory log repository actions := by
  rcases stopped with holds | ⟨record, flying, holds⟩
  · obtain ⟨repository, actions, opens⟩ := holds.opens options
    exact ⟨_, repository, actions, Or.inl rfl, opens⟩
  · obtain ⟨repository, actions, opens⟩ := holds.opens options
    exact ⟨_, repository, actions, Or.inr ⟨record, flying, rfl⟩, opens⟩

/-- Whatever state a session is in, its directory can be opened. -/
theorem Kept.holds {session : Session} (kept : Kept session) :
    Stopped session session.directory session.inFlight := by
  cases kept with
  | stopped down holds => exact holds
  | running repository covered first up agrees fsync ready => exact Or.inl ready.holds

theorem Stopped.synced {session : Session} {directory : Directory} {inFlight : Option DurableRecord}
    (stopped : Stopped session directory inFlight) : directory.unsynced = [] := by
  rcases stopped with ⟨_, _, _, stored, _⟩ | ⟨_, _, _, _, _, stored, _⟩
  · exact stored.synced
  · exact stored.synced

/-- A crash of a call that does nothing to the files. -/
theorem crashed_nil {directory found : Directory} (synced : directory.unsynced = [])
    (crashed : Directory.Crashed directory [] found) : found = directory := by
  obtain ⟨stopped, part, stops, prefixed, rfl⟩ := crashed
  cases stops with
  | here => exact Directory.cut_synced synced prefixed

variable {session : Session}

/-- An append while the repository is open, finished or not. -/
theorem append_running {repository : PlanRepository} {covered first : Nat} {type : RecordType}
    {payload : List UInt8} (up : session.repository = some repository)
    (agrees : Agrees repository session.acknowledged) (fsync : repository.options.fsync = true)
    (ready : Ready session.directory session.acknowledged covered first)
    (admissible : Admissible session (.append type payload)) :
    Kept (session.call (.append type payload)) ∧
      ∀ found, Directory.Crashed session.directory (session.actions (.append type payload)) found →
        Stopped session found (some (repository.nextRecord type payload)) := by
  have fenced := admissible.fences
  have small := admissible.snapshots
  simp only [writes, up, Option.toList_some] at fenced
  simp only [actions, up] at small ⊢
  rcases append_keeps agrees ready fsync fenced small with
    ⟨reason, refused⟩ | ⟨after, actions, done, afterAgrees, options,
      ⟨covered', first', afterReady⟩, crashes⟩
  · rw [refused]
    refine ⟨?_, ?_⟩
    · have called : session.call (.append type payload) = session := by
        simp only [call, Session.actions, up, refused]
        cases session
        simp only at up
        rw [up]
        rfl
      rw [called]
      exact Kept.running repository covered first up agrees fsync ready
    · intro found crashed
      rw [crashed_nil ready.stored.synced crashed]
      exact Or.inl ready.holds
  · rw [done]
    refine ⟨?_, ?_⟩
    · simp only [call, Session.actions, up, done]
      exact Kept.running after covered' first' rfl afterAgrees (by rw [options]; exact fsync) afterReady
    · intro found crashed
      rcases crashes found crashed with holds | holds
      · exact Or.inl holds
      · exact Or.inr ⟨_, rfl, holds⟩

theorem compact_running {repository : PlanRepository} {covered first : Nat}
    (up : session.repository = some repository)
    (agrees : Agrees repository session.acknowledged) (fsync : repository.options.fsync = true)
    (ready : Ready session.directory session.acknowledged covered first)
    (admissible : Admissible session .compact) :
    Kept (session.call .compact) ∧
      ∀ found, Directory.Crashed session.directory (session.actions .compact) found →
        Holds found session.acknowledged := by
  have small := admissible.snapshots
  have compacts : repository.compact {} = repository.compactLocked {} := by
    unfold compact
    rw [agrees.alive, if_neg Bool.false_ne_true]
  simp only [actions, up, compacts] at small ⊢
  obtain ⟨after, actions, run, afterAgrees, options, afterReady, stops⟩ :=
    compactLocked_keeps agrees ready (by
      apply small
      unfold compactLocked
      rw [agrees.records]
      simp [writeAtomic])
  rw [run]
  refine ⟨?_, ?_⟩
  · simp only [call, Session.actions, up, compacts, run]
    exact Kept.running after _ _ rfl afterAgrees (by rw [options]; exact fsync) afterReady
  · intro found crashed
    obtain ⟨stopped, part, stopping, prefixed, rfl⟩ := crashed
    obtain ⟨holds, clean⟩ := stops stopped stopping
    rw [Directory.cut_synced clean prefixed]
    exact holds

/-- An open, finished or not. -/
theorem open_kept (kept : Kept session) {options : RepositoryOptions}
    (admissible : Admissible session (.openAt options)) :
    Kept (session.call (.openAt options)) ∧
      ∀ found, Directory.Crashed session.directory (session.actions (.openAt options)) found →
        Stopped session found session.inFlight := by
  obtain ⟨log, repository, actions, expected, opened, fsync, opens⟩ := kept.holds.opens options
  obtain ⟨covered, first, ready⟩ := opens.ready
  simp only [call, Session.actions, opened]
  refine ⟨?_, ?_⟩
  · have grown : session.acknowledged ++ repository.records.drop session.acknowledged.length = log := by
      rw [opens.agrees.records]
      rcases expected with rfl | ⟨record, -, rfl⟩
      · rw [List.drop_length, List.append_nil]
      · rw [List.drop_left' rfl]
    exact Kept.running repository covered first rfl (by rw [grown]; exact opens.agrees)
      (fsync.trans (admissible.fsync options rfl)) (by rw [grown]; exact ready)
  · intro found crashed
    obtain ⟨stopped, part, stopping, prefixed, rfl⟩ := crashed
    obtain ⟨holds, clean⟩ := opens.holds stopped stopping
    rw [Directory.cut_synced clean prefixed]
    rcases expected with rfl | ⟨record, flying, rfl⟩
    · exact Or.inl holds
    · exact Or.inr ⟨record, flying, holds⟩

theorem Kept.call (kept : Kept session) {request : Request} (admissible : Admissible session request) :
    Kept (session.call request) := by
  cases request with
  | openAt options => exact (open_kept kept admissible).1
  | append type payload =>
      cases kept with
      | stopped down holds =>
          have idle : session.call (.append type payload) = session := by simp only [Session.call, down]
          rw [idle]
          exact Kept.stopped down holds
      | running repository covered first up agrees fsync ready =>
          exact (append_running up agrees fsync ready admissible).1
  | compact =>
      cases kept with
      | stopped down holds =>
          have idle : session.call .compact = session := by simp only [Session.call, down]
          rw [idle]
          exact Kept.stopped down holds
      | running repository covered first up agrees fsync ready =>
          exact (compact_running up agrees fsync ready admissible).1

theorem Kept.crash (kept : Kept session) {request : Request} {found : Directory}
    (admissible : Admissible session request)
    (crashed : Directory.Crashed session.directory (session.actions request) found) :
    Kept (session.crash request found) := by
  refine Kept.stopped rfl ?_
  change Stopped session found (session.writes request)
  cases request with
  | openAt options => exact (open_kept kept admissible).2 found crashed
  | append type payload =>
      cases kept with
      | stopped down holds =>
          simp only [actions, writes, down] at crashed ⊢
          rw [crashed_nil holds.synced crashed]
          exact holds
      | running repository covered first up agrees fsync ready =>
          simp only [writes, up]
          exact (append_running up agrees fsync ready admissible).2 found crashed
  | compact =>
      cases kept with
      | stopped down holds =>
          simp only [actions, writes, down] at crashed ⊢
          rw [crashed_nil holds.synced crashed]
          exact holds
      | running repository covered first up agrees fsync ready =>
          exact Or.inl ((compact_running up agrees fsync ready admissible).2 found crashed)

/-- Nothing is in an empty directory. -/
theorem holds_empty : Holds {} [] := by
  refine ⟨0, 0, [], ?_, Or.inr rfl⟩
  exact
    { chained := trivial
      count := by decide
      covers := Nat.le_refl 0
      starts := Nat.le_refl 0
      manifest := Or.inl rfl
      snapshot := Or.inl ⟨rfl, rfl⟩
      journal := Or.inl ⟨rfl, rfl, rfl⟩
      ends := rfl
      synced := rfl }

theorem start_kept : Kept {} := Kept.stopped rfl (Or.inl holds_empty)

theorem Reached.kept (reached : Reached session) : Kept session := by
  induction reached with
  | start => exact start_kept
  | call _ admissible ih => exact ih.call admissible
  | crash _ admissible crashed ih => exact ih.crash admissible crashed

/-- After any calls and crashes, opening succeeds and finds the acknowledged records, with at
most the record in flight behind them; the journal ends with its last whole record, and opening
once more changes nothing. -/
theorem open_recovers_acknowledged (reached : Reached session) (options : RepositoryOptions) :
    ∃ repository actions, openRepository options session.directory = .ok (repository, actions) ∧
      (repository.records = session.acknowledged ∨ ∃ record, session.inFlight = some record ∧
        repository.records = session.acknowledged ++ [record]) ∧
      repository.fences = fencesOf repository.records ∧
      repository.coordinatorEpochValue = highestEpoch repository.records ∧
      (∃ first, ∃ start : UInt64, (session.directory.performAll actions).files .journal =
        some (makeJournalHeader start ++ (repository.records.drop first).flatMap recordImage)) ∧
      (session.directory.performAll actions).unsynced = [] ∧
      (session.directory.performAll actions).temporaries = (fun _ => none) ∧
      ∀ options', ∃ again actions',
        openRepository options' (session.directory.performAll actions) = .ok (again, actions') ∧
          again.records = repository.records ∧ again.fences = repository.fences ∧
          again.coordinatorEpochValue = repository.coordinatorEpochValue ∧
          again.lastSequence = repository.lastSequence ∧
          again.lastRecordDigest = repository.lastRecordDigest ∧
          (session.directory.performAll actions).performAll actions' =
            session.directory.performAll actions := by
  obtain ⟨log, repository, actions, expected, opened, -, opens⟩ := reached.kept.holds.opens options
  obtain ⟨covered, first, ready⟩ := opens.ready
  have agrees := opens.agrees
  refine ⟨repository, actions, opened, ?_, ?_, ?_, ?_, ready.stored.synced, ready.settled.temporaries, ?_⟩
  · rw [agrees.records]
    exact expected
  · rw [agrees.fences_eq, agrees.records]
  · rw [agrees.epoch_eq, agrees.records]
  · rw [agrees.records]
    rcases ready.stored.journal with ⟨absent, -, -⟩ | ⟨start, present⟩
    · have some := ready.settled.journal
      rw [absent] at some
      cases some
    · refine ⟨first, start, ?_⟩
      rw [present, List.append_nil]
  · intro options'
    obtain ⟨again, actions', reopened, same, untouched⟩ := ready.opens options'
    refine ⟨again, actions', reopened, ?_, ?_, ?_, ?_, ?_, untouched⟩
    · rw [same.records, agrees.records]
    · rw [same.fences_eq, agrees.fences_eq]
    · rw [same.epoch_eq, agrees.epoch_eq]
    · apply UInt64.toNat.inj
      rw [same.sequence, agrees.sequence]
    · rw [same.digest, agrees.digest]

/-- The first open of an empty directory, and then a crash seven bytes into an append. -/
theorem open_recovers_acknowledged_torn :
    ∃ session : Session, Reached session ∧ session.repository = none ∧ session.inFlight.isSome ∧
      ∃ repository actions, openRepository {} session.directory = .ok (repository, actions) ∧
        (repository.records = session.acknowledged ∨ ∃ record, session.inFlight = some record ∧
          repository.records = session.acknowledged ++ [record]) := by
  let repository : PlanRepository := { journalOpen := true }
  let record := repository.nextRecord .plan [1, 2, 3]
  have answer : openRepository {} {} = .ok (repository, discards ++ writeAtomic .manifest makeManifest ++
      writeAtomic .journal (makeJournalHeader 1)) := rfl
  let opened := Session.call {} (.openAt {})
  have up : opened.repository = some repository := rfl
  have writing : opened.actions (.append .plan [1, 2, 3]) =
      [.writeJournal (recordImage record), .syncJournal] := by
    simp only [actions, up]
    rfl
  have first : Admissible {} (.openAt {}) := by
    refine ⟨?_, by decide, ?_⟩
    · intro options same
      cases same
      rfl
    · intro bytes member
      simp only [actions, answer] at member
      simp [discards, writeAtomic] at member
  have second : Admissible opened (.append .plan [1, 2, 3]) := by
    refine ⟨?_, ?_, ?_⟩
    · intro options same
      cases same
    · decide
    · intro bytes member
      rw [writing] at member
      simp at member
  have torn : Directory.Crashed opened.directory (opened.actions (.append .plan [1, 2, 3]))
      ((opened.directory.perform (.writeJournal (recordImage record))).cut
        ((recordImage record).take 7)) := by
    rw [writing]
    refine ⟨_, _, Directory.Stops.later (Directory.Stops.here _ _), ?_, rfl⟩
    have clean : opened.directory.unsynced = [] := rfl
    change (recordImage record).take 7 <+: opened.directory.unsynced ++ recordImage record
    rw [clean, List.nil_append]
    exact List.take_prefix 7 (recordImage record)
  have reached := Reached.crash (Reached.call Reached.start first) second torn
  obtain ⟨repository, actions, answer, records, -⟩ := open_recovers_acknowledged reached {}
  exact ⟨_, reached, rfl, rfl, repository, actions, answer, records⟩

end Session

end TrafficFabric
