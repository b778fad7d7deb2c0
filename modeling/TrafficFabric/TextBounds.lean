import TrafficFabric.Accepted
import TrafficFabric.Churn
import TrafficFabric.Authority
import Mathlib.Algebra.Order.BigOperators.Group.List
import Mathlib.Algebra.Order.Group.Nat

set_option autoImplicit false

/- How long the texts are that a plan carries. -/
namespace TrafficFabric

/-! The length of texts. -/

/-- The text has so many bytes at most. -/
def Within (limit : Nat) (value : Text) : Prop := value.length ≤ limit

theorem length_text (literal : String) : (text literal).length = literal.length := by
  unfold text
  rw [List.length_map]
  rfl

namespace Within

theorem literal (literal : String) : Within literal.length (text literal) := (length_text literal).le

/-- A long literal is measured by its characters. -/
theorem chars (chars : List Char) : Within chars.length (text (String.ofList chars)) :=
  (literal _).trans String.length_ofList.le

theorem name {kind : IdKind} (id : Id kind) : Within 96 id.str := id.length_le

theorem append {first second : Text} {left right : Nat} (before : Within left first)
    (behind : Within right second) : Within (left + right) (first ++ second) := by
  unfold Within at before behind ⊢
  rw [List.length_append]
  omega

theorem mono {value : Text} {small large : Nat} (within : Within small value) (wider : small ≤ large) :
    Within large value :=
  within.trans wider

theorem number {value : Int} {digits : Nat} (positive : 0 < digits) (small : value.natAbs < 10 ^ digits) :
    Within (digits + 1) (decimal value) := by
  unfold Within decimal
  rw [length_text]
  cases value with
  | ofNat amount =>
      have digitsOf := (Nat.length_repr_le_iff positive).2 small
      change amount.repr.length ≤ digits at digitsOf
      show amount.repr.length ≤ _
      omega
  | negSucc amount =>
      have digitsOf := (Nat.length_repr_le_iff positive).2 small
      have sign : "-".length = 1 := rfl
      change (amount + 1).repr.length ≤ digits at digitsOf
      show ("-" ++ (amount + 1).repr).length ≤ _
      rw [String.length_append]
      omega

end Within

theorem ErrorCode.within (code : ErrorCode) : Within 22 code.toText := by
  cases code <;> exact (Within.chars _).mono (by decide)

theorem Error.within {error : Error} {limit : Nat} (detail : Within limit error.detail) :
    Within (24 + limit) error.format :=
  ((error.code.within.append (Within.literal ": ")).append detail).mono
    (Nat.add_le_add_right (by decide) limit)

/-! The description of an authority. -/

namespace AuthorityDelta

/-- The bytes the field takes in a description, its separator included. -/
def cost (field : AuthorityField) : Nat := field.toText.length + 1

def costs (fields : List AuthorityField) : Nat := (fields.map cost).sum

def weight (delta : AuthorityDelta) : Nat :=
  costs delta.advanced + costs delta.regressed + costs delta.conflicting

theorem costs_append (fields : List AuthorityField) (field : AuthorityField) :
    costs (fields ++ [field]) = costs fields + cost field := by
  unfold costs
  rw [List.map_append, List.sum_append, List.map_singleton, List.sum_singleton]

/-- A comparison makes the description longer by so much at most. -/
def Adds (before : AuthorityDelta) (bytes : Nat) (after : AuthorityDelta) : Prop :=
  after.weight ≤ before.weight + bytes

theorem Adds.trans {first second third : AuthorityDelta} {left right : Nat}
    (before : Adds first left second)
    (behind : Adds second right third) : Adds first (left + right) third := by
  unfold Adds at before behind ⊢
  omega

theorem Adds.mono {before after : AuthorityDelta} {bytes limit : Nat} (adds : Adds before bytes after)
    (few : bytes ≤ limit) : Adds before limit after := by
  unfold Adds at adds ⊢
  omega

theorem compareGeneration_adds {kind : GenKind} (live bound : Gen kind) (field : AuthorityField)
    (delta : AuthorityDelta) : Adds delta (cost field) (compareGeneration live bound field delta) := by
  unfold Adds compareGeneration weight
  split
  · dsimp only
    rw [costs_append]
    omega
  · split
    · dsimp only
      rw [costs_append]
      omega
    · omega

theorem conflict_adds (field : AuthorityField) (delta : AuthorityDelta) :
    Adds delta (cost field) { delta with conflicting := delta.conflicting ++ [field] } := by
  unfold Adds weight
  dsimp only
  rw [costs_append]
  omega

theorem nothing_adds (bytes : Nat) (delta : AuthorityDelta) : Adds delta bytes delta :=
  Nat.le_add_right _ _

theorem compareRef_adds {id : IdKind} {generation : GenKind} (live bound : Ref id generation)
    (idField generationField : AuthorityField) (delta : AuthorityDelta) :
    Adds delta (cost idField + cost generationField)
      (compareRef live bound idField generationField delta) := by
  unfold compareRef
  split
  · exact nothing_adds _ delta
  · split
    · exact (conflict_adds idField delta).trans (nothing_adds _ _)
    · refine Adds.trans ?_ (compareGeneration_adds live.generation bound.generation generationField _)
      split
      · exact conflict_adds idField delta
      · exact nothing_adds _ delta

theorem compareDigest_adds (live bound : Digest) (field : AuthorityField) (delta : AuthorityDelta) :
    Adds delta (cost field) (compareDigest live bound field delta) := by
  unfold compareDigest
  split
  · exact nothing_adds _ delta
  · split
    · exact conflict_adds field delta
    · exact nothing_adds _ delta

/-- Every field is listed once at most. -/
theorem compareFields_weight (bound live : AuthorityVector) : (compareFields bound live).weight ≤ 456 := by
  have compared : Adds {} 456 (compareFields bound live) := by
    unfold compareFields
    dsimp only
    exact Adds.mono
      ((((((((((((((((compareGeneration_adds _ _ _ _).trans
        (compareGeneration_adds _ _ _ _)).trans
        (compareGeneration_adds _ _ _ _)).trans
        (compareGeneration_adds _ _ _ _)).trans
        (compareGeneration_adds _ _ _ _)).trans
        (compareRef_adds _ _ _ _ _)).trans
        (compareRef_adds _ _ _ _ _)).trans
        (compareRef_adds _ _ _ _ _)).trans
        (compareRef_adds _ _ _ _ _)).trans
        (compareRef_adds _ _ _ _ _)).trans
        (compareDigest_adds _ _ _ _)).trans
        (compareDigest_adds _ _ _ _)).trans
        (compareDigest_adds _ _ _ _)).trans
        (compareDigest_adds _ _ _ _)).trans
        (compareDigest_adds _ _ _ _)).trans
        (compareDigest_adds _ _ _ _)) (by decide +kernel)
  unfold Adds at compared
  have nothing : weight {} = 0 := rfl
  omega

theorem normalize_costs (fields : List AuthorityField) : costs (normalize fields) ≤ costs fields := by
  unfold normalize sortUnique costs
  have kept := ((List.destutter_sublist (fun first second : AuthorityField =>
    first.code.toNat ≠ second.code.toNat) (stableSort (fun field => field.code.toNat) fields)).map
      cost).sum_le_sum (fun _ _ => Nat.zero_le _)
  have sorted := ((stableSort_perm (fun field : AuthorityField => field.code.toNat) fields).map cost).sum_eq
  rw [sorted] at kept
  exact kept

end AuthorityDelta

theorem compareAuthority_weight (bound live : AuthorityVector) :
    (compareAuthority bound live).weight ≤ 456 := by
  have fields := AuthorityDelta.compareFields_weight bound live
  have advanced := AuthorityDelta.normalize_costs (compareFields bound live).advanced
  have regressed := AuthorityDelta.normalize_costs (compareFields bound live).regressed
  have conflicting := AuthorityDelta.normalize_costs (compareFields bound live).conflicting
  unfold AuthorityDelta.weight at fields
  unfold compareAuthority AuthorityDelta.weight
  dsimp only
  omega

namespace AuthorityDelta

/-- The separators stand between the fields. -/
theorem listed_length (fields : List AuthorityField) (some : fields ≠ []) :
    (List.intercalate (text ",") (fields.map AuthorityField.toText)).length + 1 = costs fields := by
  have comma : (text ",").length = 1 := rfl
  induction fields with
  | nil => exact absurd rfl some
  | cons field rest ih =>
      cases rest with
      | nil => simp [List.intercalate, costs, cost]
      | cons next others =>
          have later := ih (List.cons_ne_nil next others)
          rw [List.map_cons, List.map_cons, List.intercalate_cons_cons, List.length_append,
            List.length_append, comma]
          rw [List.map_cons] at later
          have split : costs (field :: next :: others) = cost field + costs (next :: others) := rfl
          have own : cost field = field.toText.length + 1 := rfl
          omega

theorem labelled_within {out label : Text} {before named : Nat} {fields : List AuthorityField}
    (written : Within before out) (short : Within named label) :
    Within (before + costs fields + named + 4) (labelled out label fields) := by
  unfold labelled
  split
  · exact written.mono (by omega)
  · rename_i some
    have listed := listed_length fields fun empty => some (by simp [empty])
    have separated : Within (before + 2) (if out.isEmpty then out else out ++ text "; ") := by
      split
      · exact written.mono (by omega)
      · exact (written.append (Within.literal "; ")).mono (Nat.add_le_add_left (by decide) before)
    have opened := (separated.append short).append (Within.literal "=[")
    have filled :=
      opened.append (le_refl (List.intercalate (text ",") (fields.map AuthorityField.toText)).length)
    refine (filled.append (Within.literal "]")).mono ?_
    have opening : "=[".length = 2 := rfl
    have closing : "]".length = 1 := rfl
    omega

theorem describe_within_of {delta : AuthorityDelta} {before : Nat}
    (advanced : Within before (labelled [] (text "advanced") delta.advanced)) :
    Within (before + costs delta.regressed + costs delta.conflicting + 28) (describe delta) := by
  have regressed : Within _ (labelled _ (text "regressed") delta.regressed) :=
    labelled_within advanced (Within.literal _)
  have conflicting : Within _ (labelled _ (text "conflicting") delta.conflicting) :=
    labelled_within regressed (Within.literal _)
  have first : "regressed".length = 9 := rfl
  have second : "conflicting".length = 11 := rfl
  unfold describe
  dsimp only
  split
  · exact (Within.literal "identical").mono (by have third : "identical".length = 9 := rfl; omega)
  · exact conflicting.mono (by omega)

theorem describe_within (delta : AuthorityDelta) : Within (delta.weight + 40) (describe delta) := by
  have label : "advanced".length = 8 := rfl
  have advanced : Within _ (labelled [] (text "advanced") delta.advanced) :=
    labelled_within (le_refl 0) (Within.literal _)
  refine (describe_within_of advanced).mono ?_
  unfold weight
  omega

/-- Without an advanced field there is one label less. -/
theorem describe_within_fresh {delta : AuthorityDelta} (fresh : delta.stale = false) :
    Within (delta.weight + 28) (describe delta) := by
  have none : delta.advanced = [] := by simpa [stale] using fresh
  have advanced : Within 0 (labelled [] (text "advanced") delta.advanced) := by
    rw [none]
    exact le_refl 0
  refine (describe_within_of advanced).mono ?_
  unfold weight
  omega

end AuthorityDelta

/-! The rationale of a churn report. -/

theorem natAbs_tdiv_le (value whole : Int) : (value.tdiv whole).natAbs ≤ value.natAbs := by
  rw [Int.natAbs_tdiv]
  exact Nat.div_le_self _ _

/-- A product that is checked is a number of the machine. -/
theorem thousandfold_small {part scaled : Int} (product : mulChecked part 1000 = some scaled) :
    scaled.natAbs < 10 ^ 19 := by
  have upper : (9223372036854775807 : Int).tdiv 1000 = 9223372036854775 := by decide
  have lower : (-9223372036854775808 : Int).tdiv 1000 = -9223372036854775 := by decide
  unfold mulChecked int64Max int64Min at product
  rw [upper, lower, if_neg (by decide : ¬ (1000 : Int) = -9223372036854775808),
    if_neg (by decide : ¬ (1000 : Int) = -1), if_pos (by decide : (0 : Int) < 1000),
    if_pos (by decide : (0 : Int) < 1000)] at product
  split at product
  · cases product
    decide
  · split at product
    · cases product
      decide
    · split at product
      · split at product
        · cases product
        · cases product
          omega
      · split at product
        · cases product
        · cases product
          omega

/-- A ratio is a number of the machine. -/
theorem permille_small (part whole : Int) : (permille part whole).natAbs < 10 ^ 19 := by
  unfold permille
  split
  · decide
  · cases product : mulChecked part 1000 with
    | none =>
        dsimp only
        split <;> decide
    | some scaled => exact lt_of_le_of_lt (natAbs_tdiv_le scaled whole) (thousandfold_small product)

theorem Within.intercalate {separator : Text} {items : List Text} {limit : Nat}
    (each : ∀ item ∈ items, Within limit item) :
    Within (items.length * (limit + separator.length)) (List.intercalate separator items) := by
  induction items with
  | nil => exact Nat.zero_le _
  | cons item rest ih =>
      have first := each item List.mem_cons_self
      have later := ih fun other member => each other (List.mem_cons_of_mem item member)
      cases rest with
      | nil =>
          unfold Within at first ⊢
          simp only [List.intercalate, List.intersperse, List.flatten_cons, List.flatten_nil,
            List.append_nil, List.length_cons, List.length_nil]
          omega
      | cons next others =>
          unfold Within at first later ⊢
          rw [List.intercalate_cons_cons, List.length_append, List.length_append, List.length_cons,
            Nat.succ_mul]
          omega

theorem counter_within (count : UInt32) : Within 11 (decimal count.toNat) := by
  have bound := count.toNat_lt
  exact Within.number (by decide) (by omega)

theorem churnFailures_length (policy : Policy) (report : ChurnReport) :
    (churnFailures policy report).length ≤ 4 := by
  have single : ∀ (condition : Prop) [Decidable condition] (failure : Text),
      (if condition then [failure] else []).length ≤ 1 := by
    intro condition _ failure
    split
    · exact le_refl 1
    · exact Nat.zero_le 1
  unfold churnFailures
  rw [List.length_append, List.length_append, List.length_append]
  exact Nat.add_le_add (Nat.add_le_add (Nat.add_le_add (single _ _) (single _ _)) (single _ _)) (single _ _)

theorem improvementOf_small (incumbentScore proposalScore : Int) :
    (improvementOf incumbentScore proposalScore).natAbs < 10 ^ 19 := by
  unfold improvementOf
  split
  · exact permille_small _ _
  · split <;> decide

section Comparing

variable {snapshot : FabricSnapshot} (accepted : Accepted snapshot)

include accepted

/-- Each gate that is not passed is told in a line. -/
theorem churnFailures_within {report : ChurnReport}
    (improvement : report.improvementPermille.natAbs < 10 ^ 19)
    (moved : report.movedPermille.natAbs < 10 ^ 19) (risk : report.operationalRiskPermille ≤ 1000) :
    ∀ failure ∈ churnFailures snapshot.policy report, Within 80 failure := by
  obtain ⟨threshold, bandwidth, operational, -⟩ := accepted.policy_range
  have four : ∀ value : Int, 0 ≤ value ∧ value ≤ 1000 → Within 5 (decimal value) :=
    fun value range => Within.number (by decide) (by omega)
  have long : ∀ value : Int, value.natAbs < 10 ^ 19 → Within 20 (decimal value) :=
    fun _ small => Within.number (by decide) small
  have unit : Within 9 (text " permille") := (Within.literal " permille").mono (by decide)
  intro failure member
  unfold churnFailures at member
  rw [List.mem_append, List.mem_append, List.mem_append] at member
  rcases member with ((below | carried) | affected) | risky
  · rw [List.mem_ite_nil_right, List.mem_singleton] at below
    rw [below.2]
    exact (((((Within.chars _).append (long _ improvement)).append (Within.chars _)).append
      (four _ threshold)).append unit).mono (by decide)
  · rw [List.mem_ite_nil_right, List.mem_singleton] at carried
    rw [carried.2]
    exact (((((Within.chars _).append (long _ moved)).append (Within.chars _)).append
      (four _ bandwidth)).append unit).mono (by decide)
  · rw [List.mem_ite_nil_right, List.mem_singleton] at affected
    rw [affected.2]
    exact ((((Within.chars _).append (counter_within _)).append (Within.chars _)).append
      (counter_within _)).mono (by decide)
  · rw [List.mem_ite_nil_right, List.mem_singleton] at risky
    rw [risky.2]
    have measured : 0 ≤ report.operationalRiskPermille ∧ report.operationalRiskPermille ≤ 1000 :=
      ⟨operational.1.trans risky.1.le, risk⟩
    exact (((((Within.chars _).append (four _ measured)).append (Within.chars _)).append
      (four _ operational)).append unit).mono (by decide)

/-- The rationale of a comparison fits, whatever is compared. -/
theorem compareChurn_within (incumbent proposal : Allocation) (incumbentScore proposalScore : Int) :
    Within 512 (compareChurn incumbent proposal snapshot snapshot.policy incumbentScore
      proposalScore).rationale := by
  unfold compareChurn
  dsimp only
  split
  · exact (Within.chars _).mono (by decide)
  · split
    · exact (Within.chars _).mono (by decide)
    · split
      · exact (Within.chars _).mono (by decide)
      · let report := measureChurn incumbent proposal snapshot snapshot.policy incumbentScore proposalScore
        have improvement : report.improvementPermille.natAbs < 10 ^ 19 := improvementOf_small _ _
        have each := churnFailures_within accepted improvement (permille_small _ _) (min_le_left _ _)
        have listed : Within 328 (List.intercalate (text "; ") (churnFailures snapshot.policy report)) := by
          refine (Within.intercalate each).mono ?_
          have separator : (text "; ").length = 2 := rfl
          have count := churnFailures_length snapshot.policy report
          rw [separator]
          omega
        exact ((Within.chars _).append listed).mono (by decide)

end Comparing

end TrafficFabric
