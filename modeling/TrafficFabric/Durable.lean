import TrafficFabric.EngineEffects
import TrafficFabric.PlanRoundTrip
import TrafficFabric.Repository

set_option autoImplicit false

/- The storage of the engine is the plan repository. The file operations of an append may fail;
which of them do is part of the repository's environment. -/
namespace TrafficFabric

/-- The repository, the failures its next appends meet, and what its appends have answered. -/
structure Journal where
  repository : PlanRepository
  faults : List Faults := []
  outcomes : List Status := []

def Journal.append (journal : Journal) (type : RecordType) (payload : List UInt8) : Status × Journal :=
  let appended := journal.repository.append (journal.faults.headD {}) type payload
  (appended.1,
    { repository := appended.2.1
      faults := journal.faults.tail
      outcomes := journal.outcomes ++ [appended.1] })

abbrev durable : Storage :=
  { Repository := Journal
    append := Journal.append
    records := fun journal => journal.repository.records
    encodePlan := TrafficFabric.encodePlan
    decodePlan := TrafficFabric.decodePlan }

namespace PlanRepository

/-- A compaction never touches the record list. -/
theorem compactLocked_records (repository : PlanRepository) (faults : Faults) :
    (repository.compactLocked faults).2.1.records = repository.records := by
  unfold compactLocked
  simp only
  split
  · rfl
  · split
    · rfl
    · split <;> rfl

/-- What an append does to the record list, whatever fails. -/
theorem append_records (repository : PlanRepository) (faults : Faults) (type : RecordType)
    (payload : List UInt8) :
    (repository.append faults type payload).2.1.records = repository.records ∧
        (∃ reason, (repository.append faults type payload).1 = .error reason) ∨
      payload.length ≤ Frame.maxRecordPayload ∧
        (repository.append faults type payload).2.1.records =
          repository.records ++ [repository.nextRecord type payload] := by
  unfold append
  by_cases closed : repository.closed = true
  · rw [if_pos closed]
    exact Or.inl ⟨rfl, _, rfl⟩
  rw [if_neg closed]
  by_cases full : repository.options.maxRecords.toNat ≤ repository.records.length
  · rw [if_pos full]
    exact Or.inl ⟨rfl, _, rfl⟩
  rw [if_neg full]
  by_cases oversized : Frame.maxRecordPayload < payload.length
  · rw [if_pos oversized]
    exact Or.inl ⟨rfl, _, rfl⟩
  rw [if_neg oversized]
  simp only
  by_cases shut : (!repository.journalOpen) = true
  · rw [if_pos shut]
    exact Or.inl ⟨rfl, _, rfl⟩
  rw [if_neg shut]
  cases faults.write with
  | some written => exact Or.inl ⟨rfl, _, rfl⟩
  | none =>
      simp only
      by_cases unsynced : (repository.options.fsync && faults.sync) = true
      · rw [if_pos unsynced]
        exact Or.inl ⟨rfl, _, rfl⟩
      rw [if_neg unsynced]
      unfold acknowledge
      simp only
      split
      · exact Or.inl ⟨rfl, _, rfl⟩
      · right
        refine ⟨not_lt.1 oversized, ?_⟩
        split
        · rw [compactLocked_records]
        · rfl

/-- Where nothing fails, a plan record is acknowledged, with a compaction or without. -/
theorem acknowledge_plan (repository : PlanRepository) (record : DurableRecord)
    (plan : record.type = .plan) (opened : repository.journalOpen = true) :
    (repository.acknowledge {} record).1 = .ok () ∧
      (repository.acknowledge {} record).2.1.records = repository.records ++ [record] ∧
      (repository.acknowledge {} record).2.1.closed = repository.closed ∧
      (repository.acknowledge {} record).2.1.journalOpen = true ∧
      (repository.acknowledge {} record).2.1.options = repository.options := by
  have unnoticed : ∀ epoch fences, noticed epoch fences record = (epoch, fences) := by
    intro epoch fences
    unfold noticed
    rw [plan, if_neg (by decide), if_neg (by decide)]
  unfold acknowledge
  simp only [unnoticed, lt_irrefl, false_and, if_false]
  split
  · exact ⟨rfl, rfl, rfl, rfl, rfl⟩
  · exact ⟨rfl, rfl, rfl, opened, rfl⟩

end PlanRepository

namespace Journal

variable (journal : Journal) (type : RecordType) (payload : List UInt8)

/-- A record that says what was appended. -/
def Says (record : DurableRecord) (type : RecordType) (payload : List UInt8) : Prop :=
  record.type = type ∧ record.payload = payload

theorem append_ok (success : (journal.append type payload).1 = .ok ()) :
    ∃ record, Says record type payload ∧ payload.length ≤ Frame.maxRecordPayload ∧
      (journal.append type payload).2.repository.records = journal.repository.records ++ [record] := by
  rcases journal.repository.append_records (journal.faults.headD {}) type payload with
    ⟨-, reason, failed⟩ | ⟨bounded, grown⟩
  · exact absurd (failed.symm.trans success) nofun
  · exact ⟨journal.repository.nextRecord type payload, ⟨rfl, rfl⟩, bounded, grown⟩

theorem append_grows : ∃ records, (journal.append type payload).2.repository.records =
      journal.repository.records ++ records ∧ ∀ record ∈ records, Says record type payload := by
  rcases journal.repository.append_records (journal.faults.headD {}) type payload with
    ⟨same, -⟩ | ⟨-, grown⟩
  · exact ⟨[], same.trans (List.append_nil _).symm, nofun⟩
  · refine ⟨[journal.repository.nextRecord type payload], grown, ?_⟩
    intro record member
    rw [List.mem_singleton] at member
    subst member
    exact ⟨rfl, rfl⟩

/-- A repository with room for some more records, for which no failure is ahead. -/
structure Healthy (journal : Journal) (room : Nat) : Prop where
  opened : journal.repository.closed = false ∧ journal.repository.journalOpen = true
  quiet : journal.faults = []
  below : journal.repository.records.length + room ≤ journal.repository.options.maxRecords.toNat
  clean : ∀ answer ∈ journal.outcomes, answer = .ok ()

/-- A plan record that fits is appended. -/
theorem Healthy.append {room : Nat} (healthy : Healthy journal (room + 1))
    (fits : payload.length ≤ Frame.maxRecordPayload) :
    (journal.append .plan payload).1 = .ok () ∧ Healthy (journal.append .plan payload).2 room ∧
      (journal.append .plan payload).2.repository.options = journal.repository.options := by
  obtain ⟨⟨opened, journalOpen⟩, quiet, below, clean⟩ := healthy
  have full : ¬ journal.repository.options.maxRecords.toNat ≤ journal.repository.records.length := by
    omega
  have answered : journal.repository.append {} .plan payload =
      ((journal.repository.acknowledge {} (journal.repository.nextRecord .plan payload)).1,
        (journal.repository.acknowledge {} (journal.repository.nextRecord .plan payload)).2.1,
        (journal.repository.append {} .plan payload).2.2) := by
    unfold PlanRepository.append
    simp only [opened, journalOpen, Bool.false_eq_true, if_false, Bool.not_true, Bool.and_false]
    rw [if_neg full, if_neg (not_lt.2 fits)]
  obtain ⟨acknowledged, records, closed, stillOpen, options⟩ :=
    journal.repository.acknowledge_plan (journal.repository.nextRecord .plan payload) rfl journalOpen
  have whole : journal.append .plan payload =
      (.ok (),
        { repository :=
            (journal.repository.acknowledge {} (journal.repository.nextRecord .plan payload)).2.1
          faults := []
          outcomes := journal.outcomes ++ [.ok ()] }) := by
    unfold Journal.append
    rw [quiet]
    rw [show ([] : List Faults).headD {} = {} from rfl, answered, acknowledged]
    rfl
  rw [whole]
  refine ⟨rfl, ⟨⟨closed.trans opened, stillOpen⟩, rfl, ?_, ?_⟩, options⟩
  · rw [records, options, List.length_append, List.length_singleton]
    omega
  · intro answer member
    rcases List.mem_append.1 member with earlier | here
    · exact clean answer earlier
    · exact List.mem_singleton.1 here

/-- A repository that has reached its bound. -/
def Full (journal : Journal) : Prop :=
  journal.repository.options.maxRecords.toNat ≤ journal.repository.records.length

/-- Nothing is appended to it. -/
theorem Full.append (full : journal.Full) :
    (∃ reason, (journal.append type payload).1 = .error reason) ∧
      (journal.append type payload).2.repository.records = journal.repository.records ∧
      (journal.append type payload).2.Full := by
  unfold Full at full
  have refused : ∃ reason, journal.repository.append (journal.faults.headD {}) type payload =
      (.error reason, journal.repository, []) := by
    unfold PlanRepository.append
    simp only [full, if_true]
    split
    · exact ⟨_, rfl⟩
    · exact ⟨_, rfl⟩
  obtain ⟨reason, refused⟩ := refused
  unfold Journal.append Full
  rw [refused]
  exact ⟨⟨reason, rfl⟩, rfl, full⟩

end Journal

namespace Engine

/-- What the appends to the attached repository have answered. -/
def outcomes (engine : Engine durable) : List Status :=
  match engine.repository with
  | none => []
  | some journal => Journal.outcomes journal

/-- The records of the attached repository. -/
def log (engine : Engine durable) : List DurableRecord :=
  match engine.repository with
  | none => []
  | some journal => PlanRepository.records (Journal.repository journal)

end Engine

end TrafficFabric
