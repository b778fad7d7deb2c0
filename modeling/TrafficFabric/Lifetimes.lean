import TrafficFabric.ProtocolRoundTrip
import TrafficFabric.RepositoryCalls
import TrafficFabric.SenderChecks

set_option autoImplicit false

/- The coordinators that follow one another on a directory: each is started on what the last one left,
serves in any order of its sections, and ends at any point of an append. -/
namespace TrafficFabric

open Interleaving (Pool Discipline)

/-- A byte of a word, the most significant first. -/
def bigEndian (word : UInt64) (place : Nat) : UInt8 := (word >>> UInt64.ofNat (8 * (7 - place))).toUInt8

/-- `derive_boot_id`: an identity that would be all zeroes gets a last byte. -/
def deriveBootId (high low : UInt64) : BootId :=
  let bytes := fun place : Fin 16 => if place.val < 8 then bigEndian high place
    else bigEndian low (place - 8)
  let derived : BootId := ⟨Vector.ofFn bytes⟩
  if derived.valid then derived else ⟨Vector.ofFn fun place => if place.val = 15 then 1 else bytes place⟩

theorem deriveBootId_valid (high low : UInt64) : (deriveBootId high low).valid = true := by
  unfold deriveBootId
  dsimp only
  split
  · assumption
  · unfold BootId.valid
    rw [List.any_eq_true]
    refine ⟨1, ?_, by decide⟩
    rw [Vector.mem_toList_iff, Vector.mem_ofFn]
    exact ⟨15, if_pos rfl⟩

namespace PlanRepository

theorem le_max (first second : UInt64) : first ≤ max first second ∧ second ≤ max first second := by
  change first ≤ (if first ≤ second then second else first) ∧
    second ≤ (if first ≤ second then second else first)
  split
  · exact ⟨‹_›, UInt64.le_refl second⟩
  · rename_i above
    exact ⟨UInt64.le_refl first, UInt64.le_of_lt (UInt64.not_le.1 above)⟩

theorem le_foldl_max (epochs : List UInt64) (start : UInt64) : start ≤ epochs.foldl max start := by
  induction epochs generalizing start with
  | nil => exact UInt64.le_refl start
  | cons epoch rest ih => exact UInt64.le_trans (le_max start epoch).1 (ih (max start epoch))

theorem highestEpoch_append (first second : List DurableRecord) :
    highestEpoch (first ++ second) = (epochsOf second).foldl max (highestEpoch first) := by
  unfold highestEpoch
  rw [show epochsOf (first ++ second) = epochsOf first ++ epochsOf second from List.filterMap_append,
    List.foldl_append]

theorem highestEpoch_mono {before after : List DurableRecord} (grown : before <+: after) :
    highestEpoch before ≤ highestEpoch after := by
  obtain ⟨rest, rfl⟩ := grown
  rw [highestEpoch_append]
  exact le_foldl_max _ _

theorem openManifest_spares {directory : Directory} {actions : List DiskAction} {bytes : List UInt8}
    (opened : openManifest directory = .ok actions) : .writeTemporary .snapshot bytes ∉ actions := by
  unfold openManifest at opened
  split at opened
  · cases opened
    simp [writeAtomic]
  · rename_i manifest _
    cases checked : checkManifest manifest with
    | error reason =>
        rw [checked] at opened
        cases opened
    | ok =>
        rw [checked] at opened
        cases opened
        exact List.not_mem_nil

theorem openJournal_spares {directory : Directory} {snapshot : LoadedSnapshot}
    {replayed : Replay × Nat × List DiskAction}
    {bytes : List UInt8} (opened : openJournal directory snapshot = .ok replayed) :
    .writeTemporary .snapshot bytes ∉ replayed.2.2 := by
  unfold openJournal at opened
  dsimp only at opened
  split at opened
  · cases opened
    simp [writeAtomic]
  rename_i journal _
  split at opened
  · cases opened
  cases parsed : parseJournalHeader (journal.take Frame.journalHeaderSize) with
  | error reason =>
      rw [parsed] at opened
      cases opened
  | ok header =>
      rw [parsed] at opened
      simp only [bind, Except.bind] at opened
      split at opened
      · cases opened
        simp
      · cases opened
        exact List.not_mem_nil

/-- An open writes no snapshot, and takes its options as they are but for the period of compaction. -/
theorem openRepository_made {options : RepositoryOptions} {directory : Directory}
    {repository : PlanRepository}
    {actions : List DiskAction} (opened : openRepository options directory = .ok (repository, actions)) :
    repository.options.maxRecords = options.maxRecords ∧
      ∀ bytes, .writeTemporary .snapshot bytes ∉ actions := by
  unfold openRepository at opened
  cases checked : openManifest directory with
  | error reason =>
      rw [checked] at opened
      cases opened
  | ok manifest =>
  cases loaded : openSnapshot directory with
  | error reason =>
      rw [checked, loaded] at opened
      cases opened
  | ok snapshot =>
  cases read : openJournal directory snapshot with
  | error reason =>
      simp only [checked, loaded, bind, Except.bind, read] at opened
      cases opened
  | ok replayed =>
  simp only [checked, loaded, bind, Except.bind, read] at opened
  cases opened
  refine ⟨rfl, fun bytes member => ?_⟩
  rcases List.mem_append.1 member with member | member
  · rcases List.mem_append.1 member with member | member
    · simp at member
    · exact openManifest_spares checked member
  · exact openJournal_spares read member

end PlanRepository

theorem Engine.recoverFromRepository_repository {storage : Storage} (engine : Engine storage) :
    engine.recoverFromRepository.2.repository = engine.repository := by
  unfold recoverFromRepository
  split
  · rfl
  · split <;> rfl

/-- A new engine recovers from whatever is attached to it. -/
theorem Engine.recovers {storage : Storage} (repository : storage.Repository) :
    ∃ engine : Engine storage, ((Engine.new {}).attachRepository repository).2.recoverFromRepository =
      (.ok (), engine) ∧ engine.repository = some repository :=
  ⟨(((Engine.new {}).attachRepository repository).2.recoverFromRepository).2, rfl,
    recoverFromRepository_repository _⟩

namespace Coordinator

open Engine (Sits disk_some)
open PlanRepository (epochsOf fencesOf highestEpoch highestEpoch_append highestEpoch_mono)
open Session (Roomy Running Kept)

/-! A start. -/

/-- What a start leaves in the directory, and what it has found there. -/
structure Begins (session : Session) (started : Coordinator onDisk) : Prop where
  sits : Sits started.engine
  grown : session.acknowledged <+: started.engine.disk.acknowledged
  above : highestEpoch session.acknowledged < started.epoch
  recorded : started.epoch ≤ highestEpoch started.engine.disk.acknowledged
  appended : ∃ payload, started.engine.disk = session.call (.append .coordinatorEpoch payload)
  plans : started.engine.plans =
    (Engine.collapse onDisk started.engine.disk.records).1.mapValues Engine.restored
  fences : Roomy started.engine.disk → started.fences = fencesOf started.engine.disk.acknowledged

theorem Running.records {session : Session} (running : Running session) :
    session.records = session.acknowledged := by
  obtain ⟨repository, covered, first, up, agrees, -, -⟩ := running
  unfold Session.records
  rw [up]
  exact agrees.records

theorem remembered_onDisk {session : Session} (running : Running session) :
    remembered onDisk session = (highestEpoch session.acknowledged, fencesOf session.acknowledged) := by
  unfold remembered
  rw [show onDisk.records session = session.acknowledged from Running.records running,
    PlanRepository.foldl_noticed,
    List.nil_append]
  rfl

theorem epochRecord_readable {boot : BootId} (valid : boot.valid = true) {epoch : UInt64}
    (positive : epoch ≠ 0) :
    (epochRecord boot epoch).Readable :=
  ⟨by show ((Id.parse (text "tef-coordinator")).getD default : CoordinatorId).valid = true; decide,
    by show Gen.first.valid = true; decide, valid, positive⟩

/-- An epoch is only higher than another if there is one. -/
theorem lt_add_one {epoch : UInt64} (short : epoch ≠ UInt64.ofNat (2 ^ 64 - 1)) : epoch < epoch + 1 := by
  rw [UInt64.lt_iff_toNat_lt, UInt64.toNat_add]
  have bound := epoch.toNat_lt
  have other : epoch.toNat ≠ 2 ^ 64 - 1 := fun same => short (UInt64.toNat_inj.1 same)
  rw [Nat.mod_eq_of_lt] <;> rw [show (1 : UInt64).toNat = 1 from rfl] <;> omega

theorem epochsOf_made {record : DurableRecord} {boot : BootId} {epoch : UInt64}
    (made : Journal.Says record .coordinatorEpoch (encodeCoordinatorEpoch (epochRecord boot epoch)))
    (valid : boot.valid = true) (positive : epoch ≠ 0) : epochsOf [record] = [epoch] := by
  unfold epochsOf
  rw [List.filterMap_cons, List.filterMap_nil, if_pos made.1, made.2,
    decodeCoordinatorEpoch_encode (epochRecord_readable valid positive)]
  rfl

theorem start_begins {session : Session} (running : Running session) {boot : BootId}
    (valid : boot.valid = true)
    {started : Coordinator onDisk}
    (starts : start (some session : Option onDisk.Repository) boot = .ok started) :
    Begins session started := by
  unfold start at starts
  simp only [remembered_onDisk running] at starts
  split at starts
  · cases starts
  rename_i short
  have above := lt_add_one short
  have positive : highestEpoch session.acknowledged + 1 ≠ 0 := by
    intro zero
    rw [zero] at above
    exact absurd above UInt64.not_lt_zero
  generalize highestEpoch session.acknowledged + 1 = epoch at starts above positive
  generalize encoded : encodeCoordinatorEpoch (epochRecord boot epoch) = payload at starts
  let next := session.call (.append .coordinatorEpoch payload)
  cases answered : session.answers .coordinatorEpoch payload with
  | error reason =>
      rw [answered] at starts
      cases starts
  | ok =>
      rw [answered] at starts
      dsimp only at starts
      split at starts
      · cases starts
      rename_i engine recovered
      cases starts
      obtain ⟨record, made, acknowledged⟩ := Session.append_acknowledged answered
      have opened : session.repository.isSome = true := by
        obtain ⟨repository, _, _, up, -⟩ := running
        rw [up]
        rfl
      have steady : engine.Steady := by
        rw [← show ((Engine.new {}).run [.attachRepository next, .recoverFromRepository]) = engine from
          congrArg Prod.snd recovered]
        exact (Engine.new_steady {}).run _
      have attached : engine.repository = some next := by
        have same :=
          ((Engine.new {} : Engine onDisk).attachRepository next).2.recoverFromRepository_repository
        rw [recovered] at same
        exact same
      refine ⟨⟨steady, ⟨next, attached, Session.append_opened opened⟩, ?_⟩, ?_, above, ?_,
        ⟨payload, disk_some attached⟩,
        ?_, ?_⟩
      · rw [disk_some attached]
        exact fun roomy => running.append roomy
      · rw [disk_some attached]
        exact Session.append_grows
      · rw [disk_some attached]
        change epoch ≤ highestEpoch (session.call (.append .coordinatorEpoch payload)).acknowledged
        rw [← encoded] at made
        rw [acknowledged, highestEpoch_append, epochsOf_made made valid positive]
        exact (PlanRepository.le_max _ _).2
      · rw [disk_some attached]
        show engine.plans = _
        rw [show engine =
          (((Engine.new {} : Engine onDisk).attachRepository next).2.recoverFromRepository).2 from
          (congrArg Prod.snd recovered).symm]
        rfl
      · rw [disk_some attached]
        intro roomy
        show (remembered onDisk next).2 = _
        rw [remembered_onDisk (running.append roomy)]

/-! A coordinator and its handlers. -/

/-- The fences in memory are in the directory. -/
def Recorded (coordinator : Coordinator onDisk) : Prop :=
  ∀ fence ∈ coordinator.fences, fence ∈ fencesOf coordinator.engine.disk.acknowledged

theorem Recorded.perform {Thread : Type} {tasks : Thread → Task} {old : List FenceRecord} {thread : Thread}
    {action : Action} {coordinator : Coordinator onDisk} (recorded : Recorded coordinator)
    (lawful : Lawful tasks old thread action coordinator) : Recorded (perform action coordinator).2 := by
  intro fence member
  refine mem_fencesOf_of_prefix (perform_onDisk lawful.sits action).2 ?_
  cases action with
  | addFence added =>
      rcases List.mem_append.1 member with held | same
      · exact recorded fence held
      · rw [List.mem_singleton.1 same]
        exact lawful.recorded added rfl
  | _ => exact recorded fence member

/-- A coordinator, the tasks of its threads and the order of their turns. -/
structure Life where
  started : Coordinator onDisk
  tasks : Nat → Task
  turns : List Nat

namespace Life

variable (toJson : Explanation → Text)

/-- The threads after some turns. -/
def after (life : Life) (turns : List Nat) :
    Pool (Coordinator onDisk) Action Answer (Option Response) Nat :=
  Pool.run perform ⟨life.started, fun thread => (life.tasks thread).program toJson⟩ turns

/-- In every order of the turns a handler for the boot changes nothing, and declines when it is done. -/
def TurnsAway (life : Life) (sender : Sender) : Prop :=
  ∀ turns thread, (life.tasks thread).sender = some sender →
    (∀ action next, (life.after toJson turns).threads thread = .call action next → ¬ action.Changes) ∧
      ∀ response, (life.after toJson turns).threads thread = .done (some response) → response.Declines

variable {life : Life} {old : List FenceRecord}

theorem after_stays {before turns : List Nat} (further : before <+: turns) :
    Stays ((life.after toJson before).state, ()) ((life.after toJson turns).state, ()) := by
  obtain ⟨rest, rfl⟩ := further
  unfold after
  rw [Pool.run_append]
  exact Pool.keeps (fun state => Stays (_, ()) (state, ()))
    (fun action state stays => stays.trans (perform_stays action (state, ()))) (Stays.refl _) rest

/-- The threads do their part wherever they have come to. -/
theorem behaving (seated : Seated old (life.started, ())) (turns : List Nat) :
    (lawful life.tasks old).Behaving (Done life.tasks old) (life.after toJson turns, ()) ∧
      Runs.Along (lawful life.tasks old).step (Discipline.Meeting (lawful life.tasks old).permitted)
        (life.after toJson [], ()) turns := by
  have start : (lawful life.tasks old).Behaving (Done life.tasks old) (life.after toJson [], ()) :=
    fun thread => program_lawful toJson seated
  obtain ⟨along, last⟩ := start.run (Runs.along_mono (fun _ _ _ _ _ _ => trivial) (Runs.along_true _ turns))
  have same := (lawful life.tasks old).run_fst (life.after toJson [], ()) turns
  refine ⟨?_, along⟩
  rw [show (life.after toJson turns, ()) = (lawful life.tasks old).run (life.after toJson [], ()) turns from
    Prod.ext same.symm rfl]
  exact last

theorem after_recorded (seated : Seated old (life.started, ())) (recorded : Recorded life.started)
    (turns : List Nat) : Recorded (life.after toJson turns).state := by
  have last := Runs.invariant (fun noted : Pool _ Action Answer _ Nat × Unit => Recorded noted.1.state) ?_
    (show Recorded (life.after toJson []).state from recorded) (behaving toJson seated turns).2
  · have same := (lawful life.tasks old).run_fst (life.after toJson [], ()) turns
    rw [show life.after toJson turns =
      ((lawful life.tasks old).run (life.after toJson [], ()) turns).1 from same.symm]
    exact last
  · intro noted turn recorded permitted
    cases left : noted.1.threads turn with
    | done value =>
        rw [Discipline.step_done left]
        exact recorded
    | call action next =>
        rw [Discipline.step_call left]
        exact recorded.perform (permitted action next left)

/-- Whoever is not welcome is turned away. -/
theorem turnsAway (seated : Seated old (life.started, ())) {sender : Sender}
    (unwelcome : ¬ Welcome old life.started.epoch sender) : life.TurnsAway toJson sender := by
  intro turns thread named
  have behaves := (behaving toJson seated turns).1 thread
  have epoch : (life.after toJson turns).state.epoch = life.started.epoch :=
    (after_stays toJson List.nil_prefix).epoch
  constructor
  · intro action next left changes
    rw [left] at behaves
    obtain ⟨permitted, -⟩ := behaves _ (Stays.refl _) trivial
    obtain ⟨other, same, welcome⟩ := permitted.welcome changes
    rw [named] at same
    cases same
    exact unwelcome (epoch ▸ welcome)
  · intro response left
    rw [left] at behaves
    rcases behaves _ (Stays.refl _) response rfl sender named with welcome | declines
    · exact absurd (epoch ▸ welcome) unwelcome
    · exact declines

end Life

/-! The lives on a directory. -/

/-- The lives so far, the latest first, and what they leave. -/
inductive Lives (toJson : Explanation → Text) : List Life → Session → Prop
  | fresh : Lives toJson [] {}
  | call {lives : List Life} {session : Session} {request : Request} (past : Lives toJson lives session)
      (admissible : Session.Admissible session request) : Lives toJson lives (session.call request)
  | crash {lives : List Life} {session : Session} {request : Request} {found : Directory}
      (past : Lives toJson lives session) (admissible : Session.Admissible session request)
      (crashed : Directory.Crashed session.directory (session.actions request) found) :
      Lives toJson lives (session.crash request found)
  | serve {lives : List Life} {session : Session} {life : Life} {high low : UInt64}
      (past : Lives toJson lives session) (opened : session.repository.isSome = true)
      (starts : start (some session : Option onDisk.Repository) (deriveBootId high low) = .ok life.started)
      (roomy : Roomy (life.after toJson life.turns).state.engine.disk) :
      Lives toJson (life :: lives) (life.after toJson life.turns).state.engine.disk

theorem call_grows (session : Session) (request : Request) :
    session.acknowledged <+: (session.call request).acknowledged := by
  cases request with
  | openAt options =>
      simp only [Session.call]
      split
      · exact List.prefix_append _ _
      · exact List.prefix_rfl
  | append type payload => exact Session.append_grows
  | compact =>
      cases up : session.repository <;> simp only [Session.call, up, List.prefix_rfl]

/-- What a life has left in the directory. -/
structure Left (toJson : Explanation → Text) (session : Session) (life : Life) : Prop where
  epoch : life.started.epoch ≤ highestEpoch session.acknowledged
  fences : ∀ turns, turns <+: life.turns → ∀ fence ∈ (life.after toJson turns).state.fences,
    fence ∈ fencesOf session.acknowledged

variable {toJson : Explanation → Text} {lives : List Life} {session : Session}

theorem Left.later {life : Life} {later : Session} (left : Left toJson session life)
    (grown : session.acknowledged <+: later.acknowledged) : Left toJson later life :=
  ⟨UInt64.le_trans left.epoch (highestEpoch_mono grown), fun turns within fence member =>
    mem_fencesOf_of_prefix grown (left.fences turns within fence member)⟩

/-- What a life begins with and ends with. -/
structure Served (toJson : Explanation → Text) (session : Session) (life : Life) : Prop where
  seated : Seated (fencesOf session.acknowledged) (life.started, ())
  above : highestEpoch session.acknowledged < life.started.epoch
  kept : Kept (life.after toJson life.turns).state.engine.disk
  grown : session.acknowledged <+: (life.after toJson life.turns).state.engine.disk.acknowledged
  left : Left toJson (life.after toJson life.turns).state.engine.disk life

theorem start_serves {life : Life} (kept : Kept session) (opened : session.repository.isSome = true)
    {boot : BootId} (valid : boot.valid = true)
    (starts : start (some session : Option onDisk.Repository) boot = .ok life.started)
    (roomy : Roomy (life.after toJson life.turns).state.engine.disk) : Served toJson session life := by
  have begins := start_begins (kept.isRunning opened) valid starts
  obtain ⟨sits, grown⟩ := (Life.after_stays toJson (List.nil_prefix (l := life.turns))).disk begins.sits
  have fences := begins.fences (roomy.before grown)
  have seated : Seated (fencesOf session.acknowledged) (life.started, ()) := by
    refine ⟨begins.sits, fun fence member => ?_⟩
    show fence ∈ life.started.fences
    rw [fences]
    exact mem_fencesOf_of_prefix begins.grown member
  have recorded : Recorded life.started := by
    intro fence member
    rw [← fences]
    exact member
  refine ⟨seated, begins.above, (sits.running roomy).kept, begins.grown.trans grown, ?_, ?_⟩
  · exact UInt64.le_trans begins.recorded (highestEpoch_mono grown)
  · intro turns within fence member
    have middle := ((Life.after_stays toJson (List.nil_prefix (l := turns))).disk begins.sits).1
    exact mem_fencesOf_of_prefix ((Life.after_stays toJson within).disk middle).2
      (Life.after_recorded toJson seated recorded turns fence member)

/-- What holds after every history of lives. -/
structure Past (toJson : Explanation → Text) (lives : List Life) (session : Session) : Prop where
  kept : Kept session
  left : ∀ life ∈ lives, Left toJson session life

theorem Past.later (past : Past toJson lives session) {later : Session} (kept : Kept later)
    (grown : session.acknowledged <+: later.acknowledged) : Past toJson lives later :=
  ⟨kept, fun life member => (past.left life member).later grown⟩

theorem Lives.past (past : Lives toJson lives session) : Past toJson lives session := by
  induction past with
  | fresh => exact ⟨Session.start_kept, fun _ member => absurd member List.not_mem_nil⟩
  | call _ admissible ih => exact ih.later (ih.kept.call admissible) (call_grows _ _)
  | crash _ admissible crashed ih => exact ih.later (ih.kept.crash admissible crashed) List.prefix_rfl
  | serve _ opened starts roomy ih =>
      have served := start_serves ih.kept opened (deriveBootId_valid _ _) starts roomy
      have earlier := ih.later served.kept served.grown
      refine ⟨served.kept, fun life member => ?_⟩
      rcases List.mem_cons.1 member with rfl | member
      · exact served.left
      · exact earlier.left life member

/-! Two lives. -/

/-- A few records of the usual size, with low epochs. -/
structure Few (records : List DurableRecord) (count : Nat) : Prop where
  few : records.length ≤ count
  small : ∀ record ∈ records, record.payload.length ≤ Frame.maxRecordPayload
  low : ∀ epoch ∈ epochsOf records, epoch.toNat ≤ count

theorem Few.snoc {records : List DurableRecord} {count : Nat} (few : Few records count)
    {record : DurableRecord}
    (small : record.payload.length ≤ Frame.maxRecordPayload)
    (low : ∀ epoch ∈ epochsOf [record], epoch.toNat ≤ count + 1) :
    Few (records ++ [record]) (count + 1) := by
  refine ⟨?_, ?_, ?_⟩
  · rw [List.length_append]
    exact Nat.succ_le_succ few.few
  · intro other member
    rcases List.mem_append.1 member with member | same
    · exact few.small other member
    · rw [List.mem_singleton.1 same]
      exact small
  · intro epoch member
    rw [show epochsOf (records ++ [record]) = epochsOf records ++ epochsOf [record] from
      List.filterMap_append] at member
    rcases List.mem_append.1 member with member | member
    · exact (few.low epoch member).trans (Nat.le_succ count)
    · exact low epoch member

theorem Few.roomy {count : Nat} (few : Few session.acknowledged count) (bound : count ≤ 8) :
    Roomy session := by
  have length := few.few
  constructor
  · have fences : (fencesOf session.acknowledged).length ≤ session.acknowledged.length :=
      List.length_filterMap_le _ _
    unfold Limits.maxFences
    omega
  · have sum := List.sum_le_card_nsmul
      (session.acknowledged.map fun record =>
        Frame.recordHeaderSize + record.payload.length + Frame.digestSize)
      (Frame.recordHeaderSize + Frame.maxRecordPayload + Frame.digestSize) (by
        intro size member
        obtain ⟨record, within, rfl⟩ := List.mem_map.1 member
        have small := few.small record within
        omega)
    rw [List.length_map] at sum
    change _ ≤ session.acknowledged.length * _ at sum
    have sizes : Frame.recordHeaderSize = 56 ∧ Frame.digestSize = 32 ∧ Frame.snapshotHeaderSize = 40 ∧
      Frame.maxRecordPayload = 16777216 ∧ Frame.maxFileBytes = 536870912 := ⟨rfl, rfl, rfl, rfl, rfl⟩
    have all : session.acknowledged.length *
      (Frame.recordHeaderSize + Frame.maxRecordPayload + Frame.digestSize) ≤
        8 * (Frame.recordHeaderSize + Frame.maxRecordPayload + Frame.digestSize) :=
          Nat.mul_le_mul_right _ (by omega)
    unfold Mounted.snapshotSize
    omega

theorem toNat_foldl_max {bound : Nat} {epochs : List UInt64} (low : ∀ epoch ∈ epochs, epoch.toNat ≤ bound)
    {start : UInt64} (begun : start.toNat ≤ bound) : (epochs.foldl max start).toNat ≤ bound := by
  induction epochs generalizing start with
  | nil => exact begun
  | cons epoch rest ih =>
      refine ih (fun other member => low other (List.mem_cons_of_mem _ member)) ?_
      change (if start ≤ epoch then epoch else start).toNat ≤ bound
      split
      · exact low epoch List.mem_cons_self
      · exact begun

theorem Few.highest {records : List DurableRecord} {count : Nat} (few : Few records count) :
    (highestEpoch records).toNat ≤ count := toNat_foldl_max few.low (Nat.zero_le count)

/-- A directory that was opened as usual, and has few records. -/
structure Brief (session : Session) (count : Nat) : Prop where
  running : Running session
  options : ∃ repository, session.repository = some repository ∧
    repository.options.maxRecords.toNat = 1000000
  few : Few session.acknowledged count

theorem Brief.appended {count : Nat} (brief : Brief session count) (bound : count < 8) {type : RecordType}
    {payload : List UInt8} (bounded : payload.length ≤ Frame.maxRecordPayload)
    (low : ∀ record, Journal.Says record type payload → ∀ epoch ∈ epochsOf [record],
      epoch.toNat ≤ count + 1) :
    session.answers type payload = .ok () ∧ Brief (session.call (.append type payload)) (count + 1) := by
  obtain ⟨repository, up, options⟩ := brief.options
  obtain ⟨same, covered, first, again, agrees, fsync, ready⟩ := brief.running
  rw [up] at again
  cases again
  have length := brief.few.few
  have answered : session.answers type payload = .ok () := by
    unfold Session.answers
    rw [up]
    refine PlanRepository.append_succeeds agrees.alive agrees.isOpen ?_ bounded ?_
    · rw [agrees.records, options]
      omega
    · rintro ⟨-, crowded⟩
      have fences : (fencesOf session.acknowledged).length ≤ session.acknowledged.length :=
        List.length_filterMap_le _ _
      rw [agrees.fences_eq] at crowded
      unfold Limits.maxFences at crowded
      omega
  obtain ⟨record, made, acknowledged⟩ := Session.append_acknowledged answered
  have few : Few (session.call (.append type payload)).acknowledged (count + 1) := by
    rw [acknowledged]
    exact brief.few.snoc (by rw [made.2]; exact bounded) (low record made)
  refine ⟨answered, brief.running.append (few.roomy bound),
    ⟨(repository.append {} type payload).2.1, ?_, ?_⟩, few⟩
  · simp only [Session.call, up]
  · rw [PlanRepository.append_options]
    exact options

/-- There is always room for one more start. -/
theorem Brief.starts {count : Nat} (brief : Brief session count) (bound : count < 8) {boot : BootId}
    (valid : boot.valid = true) :
    ∃ started, start (some session : Option onDisk.Repository) boot = .ok started ∧
      Brief started.engine.disk (count + 1) := by
  have highest := brief.few.highest
  have next : (highestEpoch session.acknowledged + 1).toNat =
      (highestEpoch session.acknowledged).toNat + 1 := by
    rw [UInt64.toNat_add, show (1 : UInt64).toNat = 1 from rfl, Nat.mod_eq_of_lt (by omega)]
  have short : highestEpoch session.acknowledged ≠ UInt64.ofNat (2 ^ 64 - 1) := by
    intro same
    rw [same] at highest
    change 2 ^ 64 - 1 ≤ count at highest
    omega
  have positive : highestEpoch session.acknowledged + 1 ≠ 0 := by
    intro zero
    rw [zero] at next
    exact absurd next (Nat.succ_ne_zero _).symm
  have low : ∀ record, Journal.Says record .coordinatorEpoch
      (encodeCoordinatorEpoch (epochRecord boot (highestEpoch session.acknowledged + 1))) →
      ∀ epoch ∈ epochsOf [record], epoch.toNat ≤ count + 1 := by
    intro record made epoch member
    rw [epochsOf_made made valid positive, List.mem_singleton] at member
    rw [member, next]
    exact Nat.succ_le_succ highest
  obtain ⟨answered, later⟩ := brief.appended bound (length_encodeCoordinatorEpoch _) low
  unfold start
  simp only [remembered_onDisk brief.running]
  rw [if_neg short]
  generalize encodeCoordinatorEpoch
    (epochRecord boot (highestEpoch session.acknowledged + 1)) = payload at *
  let opened : Session := session.call (.append .coordinatorEpoch payload)
  obtain ⟨engine, recovered, attached⟩ := @Engine.recovers onDisk opened
  rw [answered]
  dsimp only
  split
  · rename_i refused
    cases (congrArg Prod.fst recovered).symm.trans (congrArg Prod.fst refused)
  · rename_i found same
    have here : found = engine := (congrArg Prod.snd same).symm.trans (congrArg Prod.snd recovered)
    refine ⟨_, rfl, ?_⟩
    show Brief found.disk (count + 1)
    rw [here, disk_some attached]
    exact later

/-- A directory may be opened, and opened again. -/
theorem brief_opened {count : Nat} (kept : Kept session)
    (holds : PlanRepository.Holds session.directory session.acknowledged)
    (few : Few session.acknowledged count)
    (bound : count ≤ 8) :
    Session.Admissible session (.openAt {}) ∧ Brief (session.call (.openAt {})) count := by
  obtain ⟨found, actions, opened, -, opens⟩ := holds.opens {}
  have length := few.few
  have made := PlanRepository.openRepository_made opened
  have admissible : Session.Admissible session (.openAt {}) := by
    refine ⟨?_, ?_, ?_⟩
    · intro options same
      cases same
      rfl
    · have fences : (fencesOf (session.acknowledged ++ session.inFlight.toList)).length ≤
          (session.acknowledged ++ session.inFlight.toList).length := List.length_filterMap_le _ _
      have one : session.inFlight.toList.length ≤ 1 := by cases session.inFlight <;> simp
      rw [List.length_append] at fences
      show (fencesOf (session.acknowledged ++ session.inFlight.toList)).length ≤ Limits.maxFences
      unfold Limits.maxFences
      omega
    · intro bytes member
      simp only [Session.actions, opened] at member
      exact absurd member (made.2 bytes)
  have called : session.call (.openAt {}) =
      { directory := session.directory.performAll actions
        repository := some found
        acknowledged := session.acknowledged } := by
    simp only [Session.call, Session.actions, opened, opens.agrees.records,
      List.drop_length, List.append_nil]
  refine ⟨admissible, ?_, ⟨found, ?_, ?_⟩, ?_⟩
  · exact (kept.call admissible).isRunning (by rw [called]; rfl)
  · rw [called]
  · rw [made.1]
    rfl
  · rw [called]
    exact few

theorem Brief.reopened {count : Nat} (brief : Brief session count) (bound : count ≤ 8) :
    Session.Admissible session (.openAt {}) ∧ Brief (session.call (.openAt {})) count := by
  obtain ⟨repository, covered, first, -, -, -, ready⟩ := brief.running
  exact brief_opened brief.running.kept ready.holds brief.few bound

/-- A coordinator whose handlers have not had a turn yet when it ends. -/
theorem Brief.serves {count : Nat} (brief : Brief session count) (bound : count < 8)
    (past : Lives toJson lives session) (tasks : Nat → Task) : ∃ life : Life, life.tasks = tasks ∧
      Lives toJson (life :: lives) life.started.engine.disk ∧ Brief life.started.engine.disk (count + 1) ∧
        Begins session life.started := by
  obtain ⟨started, starts, later⟩ := brief.starts bound (deriveBootId_valid 1 1)
  obtain ⟨repository, covered, first, up, -⟩ := brief.running
  refine ⟨⟨started, tasks, []⟩, rfl, ?_, later, start_begins brief.running (deriveBootId_valid 1 1) starts⟩
  let life : Life := ⟨started, tasks, []⟩
  exact (Lives.serve past (by rw [up]; rfl) starts (later.few.roomy bound) : Lives toJson (life :: lives) _)

/-- A fence against the first boot of a publisher. -/
def firstFence : FenceRecord :=
  { publisher := named "planner"
    boot := deriveBootId 1 0
    incarnation := Gen.first
    reason := text "replaced by a newer publisher boot incarnation"
    tick := 1 }

theorem firstFence_readable : firstFence.Readable :=
  ⟨by decide, deriveBootId_valid 1 0, by decide, by decide⟩

/-- Two coordinators on a directory where a boot is fenced; it is closed and opened again in between. What
the second one is asked may be about the first. -/
theorem twoLives (toJson : Explanation → Text) (tasks : Life → Nat → Task) :
    ∃ (first second : Life) (session : Session), Lives toJson [second, first] session ∧
      second.tasks = tasks first ∧ first.started.fenced firstFence.publisher firstFence.boot = true := by
  have few : Few ({} : Session).acknowledged 0 := ⟨le_refl 0, nofun, nofun⟩
  obtain ⟨admissible, opened⟩ := brief_opened Session.start_kept Session.holds_empty few (by decide)
  have past : Lives toJson [] (({} : Session).call (.openAt {})) := .call .fresh admissible
  generalize ({} : Session).call (.openAt {}) = empty at opened past
  -- The fence is in the directory before the first of them starts.
  have low : ∀ record, Journal.Says record .fence (encodeFence firstFence) →
      ∀ epoch ∈ epochsOf [record], epoch.toNat ≤ 1 := by
    intro record made epoch member
    have other : epochsOf [record] = [] := by
      unfold epochsOf
      rw [List.filterMap_cons, List.filterMap_nil, if_neg (by rw [made.1]; decide)]
    rw [other] at member
    cases member
  obtain ⟨answered, fenced⟩ := opened.appended (by decide) (length_encodeFence firstFence_readable) low
  obtain ⟨record, made, acknowledged⟩ := Session.append_acknowledged answered
  have added :
      firstFence ∈ fencesOf (empty.call (.append .fence (encodeFence firstFence))).acknowledged := by
    rw [acknowledged, fencesOf_append, List.mem_append]
    refine Or.inr ?_
    unfold fencesOf
    rw [List.filterMap_cons, List.filterMap_nil, if_pos made.1, made.2,
      decodeFence_encodeFence firstFence_readable]
    exact List.mem_singleton_self firstFence
  have past := past.call (opened.running.admissible (fenced.few.roomy (by decide)))
  generalize empty.call (.append .fence (encodeFence firstFence)) = session at fenced past added
  obtain ⟨first, -, past, later, begins⟩ := fenced.serves (by decide) past fun _ => .stop
  obtain ⟨admissible, reopened⟩ := later.reopened (by decide)
  obtain ⟨second, asked, past, -, -⟩ := reopened.serves (by decide) (past.call admissible) (tasks first)
  refine ⟨first, second, _, past, asked, fenced_iff.2 ⟨firstFence, ?_, rfl, rfl⟩⟩
  rw [begins.fences (later.few.roomy (by decide))]
  exact mem_fencesOf_of_prefix begins.grown added

/-- A handler that keeps the turn answers its frame. -/
theorem Life.answers (toJson : Explanation → Text) {life : Life} {thread : Nat} {frame : Frame}
    (asked : life.tasks thread = .handle frame) : ∃ turns response,
      (life.after toJson turns).threads thread = .done (some response) := by
  have ready : (life.after toJson []).threads thread =
      dispatch toJson frame >>= fun response => pure (some response) := by
    show (life.tasks thread).program toJson = _
    rw [asked]
    rfl
  obtain ⟨turns, -, reached⟩ := Pool.advance perform (fun _ _ => True) (dispatch toJson frame) ready
  have last := congrArg (fun pool => pool.threads thread) reached
  dsimp only at last
  rw [Function.update_self] at last
  exact ⟨turns, _, last⟩

/-- A retirement in the name of a sender. -/
def retirementOf (sender : Sender) : RetireRequest :=
  { plannerRetirement with
    binding := { plannerBinding with
      coordinatorEpoch := sender.epoch
      publisher := sender.publisher
      publisherBoot := sender.boot } }

theorem senderOf_retirementOf {sender : Sender} (valid : sender.publisher.valid = true) :
    senderOf (makeFrame .retireRequest (retirementOf sender).encode) = some sender := by
  have readable : (retirementOf sender).Readable :=
    { binding :=
        { publisher := valid
          incarnation := rfl
          attempt := by
            show plannerBinding.attempt.valid = true
            decide +kernel
          attemptGeneration := rfl }
      plan := by
        show plannerRetirement.plan.valid = true
        decide +kernel }
  have decoded : decodeRetireRequest (retirementOf sender).encode = .ok (retirementOf sender) :=
    decodeWhole_of_yields (Wire.retireRequest_yields readable) _
  unfold senderOf bindingOf
  rw [show (makeFrame .retireRequest (retirementOf sender).encode).type =
    MessageType.retireRequest.code from rfl,
    MessageType.ofCode_code]
  show ((decodeRetireRequest (retirementOf sender).encode).toOption.map RetireRequest.binding).map
    _ = some sender
  rw [decoded]
  rfl

/-- A life whose first handler is asked for a retirement in the name of a sender that is turned away. -/
theorem Life.refuses (toJson : Explanation → Text) {life : Life} {sender : Sender}
    (valid : sender.publisher.valid = true) (away : life.TurnsAway toJson sender)
    (asked : life.tasks 0 = .handle (makeFrame .retireRequest (retirementOf sender).encode)) :
    (life.tasks 0).sender = some sender ∧ ∃ turns response,
      (life.after toJson turns).threads 0 = .done (some response) ∧ response.Declines := by
  have sent : (life.tasks 0).sender = some sender := by
    rw [asked]
    exact senderOf_retirementOf valid
  obtain ⟨turns, response, answered⟩ := Life.answers toJson asked
  exact ⟨sent, turns, response, answered, (away turns 0 sent).2 response answered⟩

/-! The lives of a directory. -/

/-- The coordinators that are started on a directory have ever higher epochs, whatever the handlers of one
have done when it ends, and wherever an append was cut short. A handler of a later one changes nothing for a
frame of an earlier one's epoch, and declines it. -/
theorem lives_epochs (past : Lives toJson lives session) :
    lives.Pairwise fun later earlier => earlier.started.epoch < later.started.epoch ∧
      ∀ sender : Sender, sender.epoch = earlier.started.epoch → later.TurnsAway toJson sender := by
  induction past with
  | fresh => exact List.Pairwise.nil
  | call _ _ ih | crash _ _ _ ih => exact ih
  | serve past opened starts roomy ih =>
      have served := start_serves past.past.kept opened (deriveBootId_valid _ _) starts roomy
      refine List.Pairwise.cons (fun earlier member => ?_) ih
      have lower := UInt64.lt_of_le_of_lt (past.past.left earlier member).epoch served.above
      refine ⟨lower, fun sender same => Life.turnsAway toJson served.seated fun welcome => ?_⟩
      rw [← same, welcome.epoch] at lower
      exact UInt64.lt_irrefl _ lower

/-- The second life is asked for a retirement under the epoch of the first, and declines it. -/
theorem lives_epochs_reopened : ∃ (first second : Life) (session : Session) (sender : Sender),
    Lives (fun _ => []) [second, first] session ∧ first.started.epoch < second.started.epoch ∧
      sender.epoch = first.started.epoch ∧ second.TurnsAway (fun _ => []) sender ∧
      (second.tasks 0).sender = some sender ∧ ∃ turns response,
        (second.after (fun _ => []) turns).threads 0 = .done (some response) ∧ response.Declines := by
  let sending := fun first : Life => (⟨first.started.epoch, named "planner", plannerBoot⟩ : Sender)
  obtain ⟨first, second, session, past, asked, -⟩ := twoLives (fun _ => []) fun first _ =>
    .handle (makeFrame .retireRequest (retirementOf (sending first)).encode)
  obtain ⟨above, stale⟩ := (List.pairwise_cons.1 (lives_epochs past)).1 first List.mem_cons_self
  have away := stale (sending first) rfl
  have valid : (sending first).publisher.valid = true := by
    show (named "planner" : PublisherId).valid = true
    decide
  exact ⟨first, second, session, sending first, past, above, rfl, away,
    Life.refuses _ valid away (congrFun asked 0)⟩

end Coordinator

end TrafficFabric
