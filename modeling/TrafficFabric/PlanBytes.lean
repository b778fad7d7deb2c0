import TrafficFabric.Encoding
import TrafficFabric.PlanContent
import TrafficFabric.PlanImages

set_option autoImplicit false

/- Which accepted plan records are the ones the encoder writes. -/
namespace TrafficFabric

open Writer (u64_delimits)

namespace PlanCodec

open Reader (u64_finds)

/-- An identity of the lineage and the word behind it, as they stand in the record. -/
def lineageRef : Decoding (Text × UInt64) := do
  let name ← need (Reader.str Limits.maxNameLength) .malformedInput "lineage id is malformed"
  let word ← need Reader.u64 .truncatedInput "lineage generation is truncated"
  pure (name, word)

/-- The three of the record, behind its other sections. -/
def lineageRefs : Decoding (List (Text × UInt64)) := do
  let _ ← readPlanSections
  lineageRef.repeated 3

/-- Where the identity is absent the word behind it is zero. -/
def AbsentZero (payload : List UInt8) : Prop :=
  ∀ refs rest, lineageRefs payload = .ok (refs, rest) → ∀ ref ∈ refs, ref.1 = [] → ref.2 = 0

def SpareWords.refs (plan : Plan) (words : SpareWords) : List (Text × UInt64) :=
  [(plan.supersedes.id.str, words.supersedes), (plan.supersededBy.id.str, words.supersededBy),
    (plan.commit.str, words.commit)]

theorem lineageRef_yields {kind : IdKind} (id : Id kind) (word : UInt64) :
    Yields lineageRef (Writer.str id.str ++ Writer.u64 word) (id.str, word) :=
  (need_yields (name_finds id) _ _).bind (need_yields (u64_finds word) _ _).bind_pure

theorem lineageRefs_lineage (plan : Plan) (words : SpareWords) : ∃ rest,
    lineageRef.repeated 3 (lineageImage plan words) = .ok (words.refs plan, rest) := by
  have each : ∀ ref ∈ words.refs plan, Yields lineageRef (Writer.str ref.1 ++ Writer.u64 ref.2) ref := by
    intro ref member
    simp only [SpareWords.refs, List.mem_cons, List.not_mem_nil, or_false] at member
    rcases member with rfl | rfl | rfl
    · exact lineageRef_yields _ _
    · exact lineageRef_yields _ _
    · exact lineageRef_yields _ _
  have three := Yields.repeated (words.refs plan) each
  refine ⟨Writer.u64 plan.committedTick ++ Writer.u64 plan.declaredTick ++ Writer.u64 plan.proposedTick, ?_⟩
  have split : lineageImage plan words =
      (words.refs plan).flatMap (fun ref => Writer.str ref.1 ++ Writer.u64 ref.2) ++
        (Writer.u64 plan.committedTick ++ Writer.u64 plan.declaredTick ++
          Writer.u64 plan.proposedTick) := by
    simp only [lineageImage, SpareWords.refs, List.flatMap_cons, List.flatMap_nil, List.append_assoc,
      List.nil_append]
  rw [split]
  rw [List.map_id'] at three
  exact three _

/-- The word of an absent identity is the one that is not kept. -/
theorem kept_eq_iff {id : IdKind} {name : Id id} {kept word : UInt64}
    (kept_eq : kept = if name.valid then word else 0) : kept = word ↔ (name.str = [] → word = 0) := by
  rw [kept_eq]
  cases name with
  | mk value canonical =>
      cases value with
      | nil =>
          simp [Id.valid, Id.str, eq_comm]
      | cons first rest =>
          simp [Id.valid, Id.str]

/-- A record is as the encoder writes it when no word is lost. -/
theorem planLineage_eq_iff {plan : Plan} {words : SpareWords} (kept : Kept plan words) :
    Writer.planLineage plan = lineageImage plan words ↔ ∀ ref ∈ words.refs plan, ref.1 =
      [] → ref.2 = 0 := by
  have refs : (∀ ref ∈ words.refs plan, ref.1 = [] → ref.2 = 0) ↔
      plan.supersedes.generation.value = words.supersedes ∧
        plan.supersededBy.generation.value = words.supersededBy ∧
          plan.commitGeneration.value = words.commit := by
    rw [kept_eq_iff kept.1, kept_eq_iff kept.2.1, kept_eq_iff kept.2.2]
    simp [SpareWords.refs]
  rw [refs]
  constructor
  · intro same
    simp only [Writer.planLineage, Writer.ref, lineageImage, List.append_assoc] at same
    obtain ⟨first, later⟩ := u64_delimits.peel trivial trivial (List.append_cancel_left same)
    obtain ⟨second, last⟩ := u64_delimits.peel trivial trivial (List.append_cancel_left later)
    obtain ⟨third, -⟩ := u64_delimits.peel trivial trivial (List.append_cancel_left last)
    exact ⟨first, second, third⟩
  · rintro ⟨first, second, third⟩
    simp only [Writer.planLineage, Writer.ref, lineageImage, first, second, third, List.append_assoc]

/-- What a record that decodes is made of. -/
theorem sections_of_readPlan {payload : List UInt8} {plan : Plan}
    (read : readPlan payload = .ok (plan, [])) : ∃ before words,
      readPlanSections payload = .ok (before, lineageImage plan words) ∧
        payload = planSections plan ++ lineageImage plan words ∧ Kept plan words := by
  rw [readPlan_eq] at read
  change (readPlanSections payload >>= fun pair => readPlanLineage pair.1 pair.2) = .ok (plan, []) at read
  cases run : readPlanSections payload with
  | error reason =>
      rw [run] at read
      cases read
  | ok pair =>
      rw [run] at read
      obtain ⟨before, rest⟩ := pair
      obtain ⟨_, front, rfl⟩ := readPlanSections_rewrites payload before rest run
      obtain ⟨word, back, same, words, image, kept⟩ := readPlanLineage_consumes before rest plan [] read
      rw [List.append_nil, image] at back
      subst back
      refine ⟨before, words, rfl, ?_, kept⟩
      rw [front, same]

end PlanCodec

theorem readPlan_of_decodePlan {payload : List UInt8} {plan : Plan}
    (decoded : decodePlan payload = .ok plan) :
    PlanCodec.readPlan payload = .ok (plan, []) := by
  unfold decodePlan decodeWhole at decoded
  cases read : PlanCodec.readPlan payload with
  | error reason =>
      rw [read] at decoded
      cases decoded
  | ok pair =>
      obtain ⟨found, rest⟩ := pair
      rw [read] at decoded
      simp only [List.isEmpty_iff] at decoded
      split at decoded
      · rename_i nothing
        cases decoded
        rw [nothing]
      · cases decoded

open PlanCodec in
theorem encodePlan_decodePlan_iff {payload : List UInt8} {plan : Plan}
    (decoded : decodePlan payload = .ok plan) : encodePlan plan = payload ↔ AbsentZero payload := by
  obtain ⟨before, words, run, split, kept⟩ := sections_of_readPlan (readPlan_of_decodePlan decoded)
  obtain ⟨rest, three⟩ := lineageRefs_lineage plan words
  have refs : lineageRefs payload = .ok (words.refs plan, rest) := by
    rw [lineageRefs, Decoder.bind_ok run]
    exact three
  have absent : AbsentZero payload ↔ ∀ ref ∈ words.refs plan, ref.1 = [] → ref.2 = 0 := by
    constructor
    · exact fun zero => zero _ _ refs
    · intro zero found later read
      rw [refs] at read
      cases read
      exact zero
  have written : encodePlan plan = planSections plan ++ Writer.planLineage plan := rfl
  rw [absent, ← planLineage_eq_iff kept, written]
  constructor
  · intro same
    exact List.append_cancel_left (same.trans split)
  · intro same
    rw [same]
    exact split.symm

theorem encodePlan_decodePlan_stored : PlanCodec.AbsentZero (encodePlan storedPlan) ∧
    ∃ plan, decodePlan (encodePlan storedPlan) = .ok plan ∧ encodePlan plan = encodePlan storedPlan := by
  have zero : PlanCodec.AbsentZero (encodePlan storedPlan) := by
    have words : ∀ found ∈ (PlanCodec.lineageRefs (encodePlan storedPlan)).toOption,
        ∀ ref ∈ found.1, ref.1 = [] → ref.2 = 0 := by decide +kernel
    intro refs rest run
    exact words (refs, rest) (by rw [run]; rfl)
  have read := decodePlan_of_readable storedPlan_readable
  exact ⟨zero, _, read, (encodePlan_decodePlan_iff read).mpr zero⟩

/-- A generation of no plan. -/
def strayPlan : Plan := { storedPlan with supersedes := ⟨default, Gen.first⟩ }

theorem strayPlan_readable : strayPlan.Readable :=
  { storedPlan_readable with supersedes := nofun }

theorem stray_word_read : ∃ plan, decodePlan (encodePlan strayPlan) = .ok plan ∧
    encodePlan plan ≠ encodePlan strayPlan :=
  ⟨_, decodePlan_of_readable strayPlan_readable, by decide +kernel⟩

end TrafficFabric
