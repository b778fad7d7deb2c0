import TrafficFabric.CoordinatorRuns
import TrafficFabric.EngineLog
import TrafficFabric.OwnSnapshots
import TrafficFabric.RecordDecodes
import TrafficFabric.RepositoryRuns

set_option autoImplicit false

/- A coordinator on a directory. Its repository is the session that has the directory open, so that what
the engine writes is what a later process finds. -/
namespace TrafficFabric

open PlanRepository

namespace PlanRepository

/-- A snapshot is written behind a record that is acknowledged, and has it. -/
theorem append_snapshots {repository : PlanRepository} {type : RecordType} {payload bytes : List UInt8}
    (written : .writeTemporary .snapshot bytes ∈ (repository.append {} type payload).2.2) :
    (repository.append {} type payload).1 = .ok () ∧
      ∃ sequence, bytes = snapshotImage sequence
        (repository.records ++ [repository.nextRecord type payload]) := by
  unfold append at written ⊢
  split at written
  · cases written
  rename_i alive
  split at written
  · cases written
  rename_i room
  split at written
  · cases written
  rename_i small
  dsimp only at written
  split at written
  · cases written
  rename_i opened
  rw [if_neg alive, if_neg room, if_neg small]
  dsimp only
  rw [if_neg opened]
  simp only [Bool.and_false, Bool.false_eq_true, if_false] at written ⊢
  have noted : .writeTemporary .snapshot bytes ∈
      (repository.acknowledge {} (repository.nextRecord type payload)).2.2 := by
    rw [List.mem_append, List.mem_cons] at written
    rcases written with (journal | synced) | noted
    · cases journal
    · split at synced
      · rw [List.mem_singleton] at synced
        cases synced
      · cases synced
    · exact noted
  unfold acknowledge at noted ⊢
  dsimp only at noted ⊢
  split at noted
  · cases noted
  rename_i bounded
  rw [if_neg bounded]
  split at noted
  · rename_i due
    rw [if_pos due]
    refine ⟨rfl, (repository.nextRecord type payload).sequence, ?_⟩
    change .writeTemporary .snapshot bytes ∈ writeAtomic .snapshot _ ++ writeAtomic .journal _ at noted
    simp only [writeAtomic, List.cons_append, List.nil_append, List.mem_cons, List.not_mem_nil, or_false,
      DiskAction.writeTemporary.injEq, reduceCtorEq, false_and, or_self, true_and] at noted
    exact noted
  · cases noted

end PlanRepository

theorem fencesOf_append (first second : List DurableRecord) :
    fencesOf (first ++ second) = fencesOf first ++ fencesOf second := List.filterMap_append

theorem mem_fencesOf_of_prefix {before after : List DurableRecord} (grown : before <+: after)
    {fence : FenceRecord}
    (member : fence ∈ fencesOf before) : fence ∈ fencesOf after := by
  obtain ⟨rest, rfl⟩ := grown
  rw [fencesOf_append]
  exact List.mem_append_left _ member

namespace Session

variable {session : Session} {type : RecordType} {payload : List UInt8}

/-- The records of the open repository. -/
def records (session : Session) : List DurableRecord :=
  (session.repository.map PlanRepository.records).getD []

/-- What an append answers. -/
def answers (session : Session) (type : RecordType) (payload : List UInt8) : Status :=
  match session.repository with
  | none => fail .shutdown (text "the durable repository is closed")
  | some repository => (repository.append {} type payload).1

/-- The repository is open and says what is in the directory. -/
def Running (session : Session) : Prop :=
  ∃ repository covered first, session.repository = some repository ∧
    Agrees repository session.acknowledged ∧
    repository.options.fsync = true ∧ Ready session.directory session.acknowledged covered first

/-- There is room for one more fence, and a snapshot of all records can be read back. -/
structure Roomy (session : Session) : Prop where
  fences : (fencesOf session.acknowledged).length < Limits.maxFences
  snapshot : Mounted.snapshotSize session.acknowledged ≤ Frame.maxFileBytes

theorem Roomy.before {later : Session} (roomy : Roomy later)
    (grown : session.acknowledged <+: later.acknowledged) : Roomy session := by
  obtain ⟨fences, snapshot⟩ := roomy
  obtain ⟨rest, same⟩ := grown
  rw [← same] at fences snapshot
  constructor
  · rw [fencesOf_append, List.length_append] at fences
    omega
  · unfold Mounted.snapshotSize at snapshot ⊢
    rw [List.map_append, List.sum_append] at snapshot
    omega

theorem Running.kept (running : Running session) : Kept session := by
  obtain ⟨repository, covered, first, up, agrees, fsync, ready⟩ := running
  exact Kept.running repository covered first up agrees fsync ready

theorem Kept.isRunning (kept : Kept session) (opened : session.repository.isSome = true) :
    Running session := by
  cases kept with
  | stopped down =>
      rw [down] at opened
      cases opened
  | running repository covered first up agrees fsync ready =>
      exact ⟨repository, covered, first, up, agrees, fsync, ready⟩

theorem append_opened (opened : session.repository.isSome = true) :
    (session.call (.append type payload)).repository.isSome = true := by
  obtain ⟨repository, up⟩ := Option.isSome_iff_exists.1 opened
  simp only [call, up]
  rfl

theorem append_grows : session.acknowledged <+: (session.call (.append type payload)).acknowledged := by
  cases up : session.repository with
  | none => simp only [call, up, List.prefix_rfl]
  | some repository =>
      simp only [call, up]
      cases (repository.append {} type payload).1 with
      | error reason => exact List.prefix_rfl
      | ok => exact List.prefix_append _ _

/-- An append that succeeds is acknowledged. -/
theorem append_acknowledged (success : session.answers type payload = .ok ()) :
    ∃ record, Journal.Says record type payload ∧
      (session.call (.append type payload)).acknowledged = session.acknowledged ++ [record] := by
  unfold answers at success
  cases up : session.repository with
  | none =>
      rw [up] at success
      cases success
  | some repository =>
      rw [up] at success
      refine ⟨repository.nextRecord type payload, ⟨rfl, rfl⟩, ?_⟩
      simp only [call, up]
      rw [show (repository.append {} type payload).1 = .ok () from success]

/-- Within the bounds every append is admissible. -/
theorem Running.admissible (running : Running session)
    (roomy : Roomy (session.call (.append type payload))) :
    Admissible session (.append type payload) := by
  obtain ⟨repository, covered, first, up, agrees, fsync, ready⟩ := running
  refine ⟨nofun, ?_, ?_⟩
  · have bounded := (roomy.before append_grows).fences
    have one : (fencesOf [repository.nextRecord type payload]).length ≤ 1 :=
      List.length_filterMap_le _ _
    simp only [writes, up, Option.toList_some]
    rw [fencesOf_append, List.length_append]
    omega
  · intro bytes member
    simp only [actions, up] at member
    obtain ⟨success, sequence, image⟩ := append_snapshots member
    have small := roomy.snapshot
    simp only [call, up] at small
    rw [success] at small
    rw [image, agrees.records, Mounted.length_snapshotImage]
    exact small

/-- Within the bounds every append leaves the repository running. -/
theorem Running.append (running : Running session) (roomy : Roomy (session.call (.append type payload))) :
    Running (session.call (.append type payload)) := by
  obtain ⟨repository, _, _, up, -⟩ := id running
  exact (running.kept.call (running.admissible roomy)).isRunning (append_opened (by rw [up]; rfl))

end Session

/-- The repository of an engine is an open session. -/
abbrev onDisk : Storage :=
  { Repository := Session
    append := fun session type payload =>
      (session.answers type payload, session.call (.append type payload))
    records := Session.records
    encodePlan := TrafficFabric.encodePlan
    decodePlan := TrafficFabric.decodePlan }

namespace Engine

open Session (Running Roomy)

def disk (engine : Engine onDisk) : Session := engine.repository.getD {}

/-- The directory is open, and stays readable as long as it is within the bounds. -/
structure Sits (engine : Engine onDisk) : Prop where
  steady : engine.Steady
  attached : ∃ session : Session, engine.repository = some session ∧ session.repository.isSome = true
  running : Roomy engine.disk → Running engine.disk

theorem disk_some {engine : Engine onDisk} {session : Session}
    (attached : engine.repository = some session) :
    engine.disk = session := by
  unfold disk
  rw [attached]
  rfl

theorem writeAll_onDisk {session : Session} (opened : session.repository.isSome = true)
    (written : List Plan)
    (running : Roomy session → Running session) :
    ∃ later : Session, (writeAll (some session : Option onDisk.Repository) written).2 = some later ∧
      later.repository.isSome = true ∧ session.acknowledged <+: later.acknowledged ∧
      (Roomy later → Running later) := by
  induction written generalizing session with
  | nil => exact ⟨session, by rw [writeAll_nil], opened, List.prefix_rfl, running⟩
  | cons plan rest ih =>
      let next := session.call (.append .plan (encodePlan plan))
      have kept : Roomy next → Running next := fun roomy =>
        (running (roomy.before Session.append_grows)).append roomy
      have appended : onDisk.append session .plan (onDisk.encodePlan plan) =
          (session.answers .plan (encodePlan plan), next) := rfl
      rw [writeAll_cons, appended]
      cases session.answers .plan (encodePlan plan) with
      | error reason => exact ⟨next, rfl, Session.append_opened opened, Session.append_grows, kept⟩
      | ok =>
          obtain ⟨later, found, still, grown, runs⟩ := ih (Session.append_opened opened) kept
          exact ⟨later, found, still, Session.append_grows.trans grown, runs⟩

theorem Sits.apply {engine : Engine onDisk} (sits : Sits engine) (operation : Operation onDisk)
    (writing : operation.Writing) : Sits (engine.apply operation) ∧
      engine.disk.acknowledged <+: (engine.apply operation).disk.acknowledged := by
  obtain ⟨session, attached, opened⟩ := sits.attached
  obtain ⟨written, writes⟩ := call_writes sits.steady.sound.keyed writing
  have running := sits.running
  have repository := writes.repository
  rw [disk_some attached] at running ⊢
  obtain ⟨later, found, still, grown, runs⟩ := writeAll_onDisk opened written running
  rw [attached, found, ← apply_eq_call] at repository
  rw [disk_some repository]
  exact ⟨⟨apply_steady sits.steady operation,
    ⟨later, repository, still⟩, by rw [disk_some repository]; exact runs⟩,
    grown⟩

end Engine

namespace Coordinator

open Engine (Sits disk_some)
open Session (Running Roomy)

/-- A fence that is persisted is in the directory. -/
theorem persistFence_onDisk {engine : Engine onDisk} (sits : Sits engine) (fence : FenceRecord) :
    Sits (persistFence engine fence).2 ∧
      engine.disk.acknowledged <+: (persistFence engine fence).2.disk.acknowledged ∧
      ((persistFence engine fence).1 = .ok () → fence.reason.length ≤ Limits.maxTextLength →
        fence ∈ fencesOf (persistFence engine fence).2.disk.acknowledged) := by
  obtain ⟨session, attached, opened⟩ := sits.attached
  have running := sits.running
  have steady : (persistFence engine fence).2.Steady := by
    obtain ⟨history, same⟩ := persistFence_history engine fence
    rw [same]
    exact sits.steady.run history
  rw [disk_some attached] at running ⊢
  unfold persistFence at steady ⊢
  simp only [attached] at steady ⊢
  split
  · refine ⟨⟨sits.steady,
      ⟨session, attached, opened⟩, by rw [disk_some attached]; exact running⟩, ?_, nofun⟩
    rw [disk_some attached]
  · rename_i complete
    rw [if_neg complete] at steady
    let next := session.call (.append .fence (encodeFence fence))
    have kept : Roomy next → Running next := fun roomy =>
      (running (roomy.before Session.append_grows)).append roomy
    refine ⟨⟨steady, ⟨next, rfl, Session.append_opened opened⟩, kept⟩, Session.append_grows, ?_⟩
    intro success short
    obtain ⟨record, made, grown⟩ := Session.append_acknowledged success
    have readable : fence.Readable := by
      simp only [Bool.or_eq_true, Bool.not_eq_true', not_or, Bool.not_eq_false] at complete
      exact ⟨complete.1.1, complete.1.2, complete.2, short⟩
    change fence ∈ fencesOf (session.call (.append .fence (encodeFence fence))).acknowledged
    rw [grown, fencesOf_append, List.mem_append]
    refine Or.inr ?_
    unfold fencesOf
    rw [List.filterMap_cons, List.filterMap_nil, if_pos made.1, made.2, decodeFence_encodeFence readable]
    exact List.mem_singleton_self fence

/-- Whatever the handlers do, the directory stays open and no record is taken away. -/
theorem perform_onDisk {coordinator : Coordinator onDisk} (sits : Sits coordinator.engine)
    (action : Action) :
    Sits (perform action coordinator).2.engine ∧
      coordinator.engine.disk.acknowledged <+: (perform action coordinator).2.engine.disk.acknowledged := by
  cases action with
  | stopping | epoch | incarnation | boot | isFenced | findRegistered | addFence | register | get | explain
  | incumbent | stop => exact ⟨sits, List.prefix_rfl⟩
  | persistFence fence =>
      obtain ⟨still, grown, -⟩ := persistFence_onDisk sits fence
      exact ⟨still, grown⟩
  | submitSnapshot snapshot => exact sits.apply (.submitSnapshot snapshot) trivial
  | declare request => exact sits.apply (.declare request) trivial
  | validate ref => exact sits.apply (.validate ref) trivial
  | solve ref => exact sits.apply (.solve ref) trivial
  | authorize ref => exact sits.apply (.authorize ref) trivial
  | commit ref intent => exact sits.apply (.commit ref intent) trivial
  | supersede incumbent replacement => exact sits.apply (.supersede incumbent replacement) trivial
  | retire ref => exact sits.apply (.retire ref) trivial

end Coordinator

end TrafficFabric
