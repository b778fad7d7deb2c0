import TrafficFabric.PlanCodec

set_option autoImplicit false

/- Readers look no further than the end of what they read, so a payload that is accepted is
accepted whole: nothing shorter is, and nothing longer. -/
namespace TrafficFabric

/-- More bytes behind those that are read change nothing. -/
def Reader.Stable {α : Type} (read : Reader α) : Prop :=
  ∀ bytes value rest more, read bytes = some (value, rest) → read (bytes ++ more) =
    some (value, rest ++ more)

namespace Reader

theorem raw_stable (size : Nat) : Stable (raw size) := by
  intro bytes value rest more found
  unfold raw at found ⊢
  split at found
  · cases found
  · rename_i enough
    cases found
    have within : size ≤ bytes.length := not_lt.1 enough
    rw [if_neg (by rw [List.length_append]; omega), List.take_append_of_le_length within,
      List.drop_append_of_le_length within]

theorem mapped_stable {α β : Type} {read : Reader α} (stable : Stable read) (update : α → β) :
    Stable (mapped read update) := by
  intro bytes value rest more found
  unfold mapped at found ⊢
  rw [Option.map_eq_some_iff] at found
  obtain ⟨⟨inner, left⟩, run, same⟩ := found
  cases same
  rw [stable bytes inner left more run]
  rfl

theorem u8_stable : Stable u8 := mapped_stable (raw_stable 1) _

theorem u16_stable : Stable u16 := mapped_stable (raw_stable 2) _

theorem u32_stable : Stable u32 := mapped_stable (raw_stable 4) _

theorem u64_stable : Stable u64 := mapped_stable (raw_stable 8) _

theorem i64_stable : Stable i64 := mapped_stable u64_stable _

theorem digest_stable : Stable digest := mapped_stable (raw_stable 32) _

theorem boolean_stable : Stable boolean := by
  intro bytes value rest more found
  unfold boolean at found ⊢
  cases run : u8 bytes with
  | none =>
      rw [run] at found
      cases found
  | some pair =>
      rw [run] at found
      rw [u8_stable bytes pair.1 pair.2 more run]
      simp only at found ⊢
      split at found
      · cases found
      · rename_i canonical
        cases found
        rw [if_neg canonical]

/-- A length and then that many bytes, unless they are too many. -/
theorem str_stable (maxLength : Nat) : Stable (str maxLength) := by
  intro bytes value rest more found
  unfold str at found ⊢
  cases run : u32 bytes with
  | none =>
      rw [run] at found
      cases found
  | some pair =>
      rw [run] at found
      rw [u32_stable bytes pair.1 pair.2 more run]
      simp only at found ⊢
      split at found
      · cases found
      · rename_i short
        rw [if_neg short]
        exact raw_stable _ _ value rest more found

end Reader

open Reader (u8_stable u16_stable u32_stable u64_stable i64_stable boolean_stable digest_stable str_stable
  raw_stable)

theorem need_stable {α : Type} {read : Reader α} (stable : read.Stable) (code : ErrorCode)
    (detail : String) :
    Stable (need read code detail) := by
  intro bytes value rest more found
  unfold need at found ⊢
  cases run : read bytes with
  | none =>
      rw [run] at found
      cases found
  | some pair =>
      rw [run] at found
      cases found
      rw [stable bytes value rest more run]

theorem refuse_stable (condition : Bool) (code : ErrorCode) (detail : String) :
    Stable (refuse condition code detail) := Stable.ite (Stable.throw _) (Stable.pure ())

theorem parsed_stable {α : Type} (value : Option α) (code : ErrorCode) (detail : String) :
    Stable (parsed value code detail) := by
  cases value with
  | none => exact Stable.throw _
  | some value => exact Stable.pure value

/-! Whole payloads. -/

/-- The decoder takes the payload, nothing that is only a part of it, and nothing it is only a
part of. -/
structure Exact {α : Type} (decode : List UInt8 → Result α) (payload : List UInt8) : Prop where
  shorter : ∀ part more, payload = part ++ more → more ≠ [] → ∃ reason, decode part = .error reason
  longer : ∀ more, more ≠ [] → ∃ reason, decode (payload ++ more) = .error reason

theorem decodeWhole_eq_ok {α : Type} {decoder : Decoding α} {trailing : String} {payload : List UInt8}
    {value : α} : decodeWhole decoder trailing payload = .ok value ↔ decoder payload = .ok (value, []) := by
  unfold decodeWhole
  cases decoder payload with
  | error reason => exact ⟨nofun, nofun⟩
  | ok pair =>
      obtain ⟨found, rest⟩ := pair
      cases rest with
      | nil => simp
      | cons byte rest => simp [fail]

theorem decodeWhole_of_yields {α : Type} {decoder : Decoding α} {image : List UInt8} {value : α}
    (yields : Yields decoder image value) (trailing : String) :
    decodeWhole decoder trailing image = .ok value := by
  have found := yields []
  rw [List.append_nil] at found
  exact decodeWhole_eq_ok.2 found

/-- What is accepted is accepted exactly. -/
theorem decodeWhole_exact {α : Type} {decoder : Decoding α} (stable : Stable decoder) {trailing : String}
    {payload : List UInt8} {value : α} (accepted : decodeWhole decoder trailing payload = .ok value) :
    Exact (decodeWhole decoder trailing) payload := by
  have read := decodeWhole_eq_ok.1 accepted
  refine ⟨?_, ?_⟩
  · intro part more split longer
    rw [split] at read
    cases early : decodeWhole decoder trailing part with
    | error reason => exact ⟨reason, rfl⟩
    | ok other => exact absurd (decodeWhole_eq_ok.1 early) (stable.cut read longer other)
  · intro more longer
    unfold decodeWhole
    rw [stable.extended read more]
    simp only
    rw [if_neg (by simpa using longer)]
    exact ⟨_, rfl⟩

/-! The plan record. -/

namespace PlanCodec

theorem requiredId_stable {kind : IdKind} (malformed invalid : String) :
    Stable (requiredId malformed invalid : Decoding (Id kind)) :=
  (need_stable (str_stable _) _ _).bind fun _ => parsed_stable _ _ _

theorem optionalId_stable {kind : IdKind} (malformed invalid : String) :
    Stable (optionalId malformed invalid : Decoding (Id kind)) :=
  (need_stable (str_stable _) _ _).bind fun _ => Stable.ite (Stable.pure _) (parsed_stable _ _ _)

theorem requiredGen_stable {kind : GenKind} (truncated zero : String) :
    Stable (requiredGen truncated zero : Decoding (Gen kind)) :=
  (need_stable u64_stable _ _).bind fun _ => parsed_stable _ _ _

theorem optionalGen_stable {kind : GenKind} (present : Bool) (truncated zero : String) :
    Stable (optionalGen present truncated zero : Decoding (Gen kind)) :=
  (need_stable u64_stable _ _).bind fun _ => Stable.ite (parsed_stable _ _ _) (Stable.pure _)

theorem boundedText_stable (malformed : String) : Stable (boundedText malformed) :=
  need_stable (str_stable _) _ _

theorem authorityGen_stable {kind : GenKind} : Stable (authorityGen : Decoding (Gen kind)) :=
  (need_stable u64_stable _ _).bind fun _ => parsed_stable _ _ _

theorem authorityRef_stable {id : IdKind} {generation : GenKind} :
    Stable (authorityRef : Decoding (Ref id generation)) := by
  refine (need_stable (str_stable _) _ _).bind fun _ => (need_stable u64_stable _ _).bind fun _ => ?_
  exact (parsed_stable _ _ _).bind fun _ => (parsed_stable _ _ _).bind fun _ => Stable.pure _

theorem bounded_stable {α : Type} {element : Decoding α} (each : Stable element) (limit : Nat)
    (truncated oversized : String) : Stable (bounded limit truncated oversized element) := by
  refine (need_stable u32_stable _ _).bind fun count => (refuse_stable _ _ _).bind fun _ => ?_
  exact each.repeated count.toNat

theorem authorityDigest_stable : Stable authorityDigest := need_stable digest_stable _ _

theorem readAuthority_stable : Stable readAuthority := by
  unfold readAuthority
  repeat' first
    | exact authorityGen_stable
    | exact authorityRef_stable
    | exact authorityDigest_stable
    | exact Stable.pure _
    | refine Stable.bind ?_ fun _ => ?_

theorem i64_stable (detail : String) : Stable (need Reader.i64 .truncatedInput detail) :=
  need_stable Reader.i64_stable _ _

theorem readComponent_stable : Stable readComponent := by
  unfold readComponent
  refine (need_stable u16_stable _ _).bind fun _ => (parsed_stable _ _ _).bind fun _ => ?_
  repeat' first
    | exact i64_stable _
    | exact Stable.pure _
    | refine Stable.bind ?_ fun _ => ?_

theorem readAlternative_stable : Stable readAlternative := by
  unfold readAlternative
  refine (boundedText_stable _).bind fun _ => (boundedText_stable _).bind fun _ => ?_
  exact (i64_stable _).bind fun _ => Stable.pure _

theorem readConstraint_stable : Stable readConstraint := by
  unfold readConstraint
  refine (need_stable u16_stable _ _).bind fun _ => (parsed_stable _ _ _).bind fun _ => ?_
  repeat' first
    | exact boundedText_stable _
    | exact optionalId_stable _ _
    | exact i64_stable _
    | exact Stable.pure _
    | refine Stable.bind ?_ fun _ => ?_

theorem readFeasibility_stable : Stable readFeasibility := by
  unfold readFeasibility
  refine (boundedText_stable _).bind fun _ => (need_stable u16_stable _ _).bind fun _ => ?_
  refine (parsed_stable _ _ _).bind fun _ => ?_
  exact (bounded_stable readConstraint_stable _ _ _).bind fun _ => Stable.pure _

theorem readPathShare_stable : Stable readPathShare := by
  unfold readPathShare
  refine (requiredId_stable _ _).bind fun _ => (requiredGen_stable _ _).bind fun _ => ?_
  repeat' first
    | exact i64_stable _
    | exact need_stable boolean_stable _ _
    | exact Stable.pure _
    | refine Stable.bind ?_ fun _ => ?_

theorem readDemandAllocation_stable : Stable readDemandAllocation := by
  unfold readDemandAllocation
  refine (requiredId_stable _ _).bind fun _ => (requiredGen_stable _ _).bind fun _ => ?_
  repeat' first
    | exact i64_stable _
    | exact need_stable boolean_stable _ _
    | exact bounded_stable readPathShare_stable _ _ _
    | exact Stable.pure _
    | refine Stable.bind ?_ fun _ => ?_

theorem readResourceUtilization_stable : Stable readResourceUtilization := by
  unfold readResourceUtilization
  refine (requiredId_stable _ _).bind fun _ => (requiredGen_stable _ _).bind fun _ => ?_
  repeat' first
    | exact i64_stable _
    | exact need_stable boolean_stable _ _
    | exact Stable.pure _
    | refine Stable.bind ?_ fun _ => ?_

theorem readAllocation_stable : Stable readAllocation := by
  unfold readAllocation
  refine (bounded_stable readDemandAllocation_stable _ _ _).bind fun _ => ?_
  refine (bounded_stable readResourceUtilization_stable _ _ _).bind fun _ => ?_
  refine (i64_stable _).bind fun _ => (i64_stable _).bind fun _ => ?_
  exact (need_stable boolean_stable _ _).bind fun _ => Stable.pure _

theorem readChurn_stable : Stable readChurn := by
  unfold readChurn
  refine (need_stable u8_stable _ _).bind fun _ => (parsed_stable _ _ _).bind fun _ => ?_
  repeat' first
    | exact i64_stable _
    | exact need_stable u32_stable _ _
    | exact boundedText_stable _
    | exact Stable.pure _
    | refine Stable.bind ?_ fun _ => ?_

theorem readPlanBinding_stable : Stable readPlanBinding := by
  unfold readPlanBinding
  refine (need_stable u16_stable _ _).bind fun _ => (refuse_stable _ _ _).bind fun _ => ?_
  refine (requiredId_stable _ _).bind fun _ => (requiredGen_stable _ _).bind fun _ => ?_
  refine (need_stable u16_stable _ _).bind fun _ => (need_stable u16_stable _ _).bind fun _ => ?_
  refine (parsed_stable _ _ _).bind fun _ => (parsed_stable _ _ _).bind fun _ => ?_
  refine (requiredId_stable _ _).bind fun _ => (requiredGen_stable _ _).bind fun _ => ?_
  refine (requiredId_stable _ _).bind fun _ => (need_stable (raw_stable _) _ _).bind fun _ => ?_
  refine (refuse_stable _ _ _).bind fun _ => (requiredGen_stable _ _).bind fun _ => ?_
  exact readAuthority_stable.bind fun _ => (refuse_stable _ _ _).bind fun _ => Stable.pure _

theorem readPlanLineage_stable (plan : Plan) : Stable (readPlanLineage plan) := by
  unfold readPlanLineage
  repeat' first
    | exact optionalId_stable _ _
    | exact optionalGen_stable _ _ _
    | exact need_stable u64_stable _ _
    | exact Stable.pure _
    | refine Stable.bind ?_ fun _ => ?_

theorem readPlan_stable : Stable readPlan := by
  unfold readPlan
  refine readPlanBinding_stable.bind fun _ => ?_
  refine (bounded_stable readComponent_stable _ _ _).bind fun _ => ?_
  refine (bounded_stable readAlternative_stable _ _ _).bind fun _ => ?_
  refine readFeasibility_stable.bind fun _ => readAllocation_stable.bind fun _ => ?_
  refine readChurn_stable.bind fun _ => (i64_stable _).bind fun _ => ?_
  refine (optionalId_stable _ _).bind fun _ => (need_stable digest_stable _ _).bind fun _ => ?_
  exact readPlanLineage_stable _

end PlanCodec

end TrafficFabric
