import TrafficFabric.Numeric
import Mathlib.Algebra.Order.Ring.Int

set_option autoImplicit false

/- The checked operations, with each plain operation they are made of. A plain operation whose result
leaves the machine type is undefined; a checked one never comes to it. -/
namespace TrafficFabric

/-- The exact result of an operation, where a 64-bit signed variable can hold it. -/
def fitted (exact : Int) : Option Int := if InInt64 exact then some exact else none

/-! The operations as the source computes them; the outer `none` is an undefined operation. -/

def plainAddChecked (a b : Int) : Option (Option Int) :=
  if 0 < b then do
    let limit ← fitted (int64Max - b)
    if limit < a then pure none else some <$> fitted (a + b)
  else if b < 0 then do
    let limit ← fitted (int64Min - b)
    if a < limit then pure none else some <$> fitted (a + b)
  else some <$> fitted (a + b)

def plainSubChecked (a b : Int) : Option (Option Int) :=
  if b = int64Min then if 0 ≤ a then pure none else some <$> fitted (a - b)
  else do
    let negated ← fitted (-b)
    plainAddChecked a negated

def plainMulChecked (a b : Int) : Option (Option Int) :=
  if a = 0 ∨ b = 0 then pure (some 0)
  else if a = -1 then if b = int64Min then pure none else some <$> fitted (-b)
  else if b = -1 then if a = int64Min then pure none else some <$> fitted (-a)
  else if 0 < a then
    if 0 < b then do
      let limit ← fitted (int64Max.tdiv b)
      if limit < a then pure none else some <$> fitted (a * b)
    else do
      let limit ← fitted (int64Min.tdiv a)
      if b < limit then pure none else some <$> fitted (a * b)
  else
    if 0 < b then do
      let limit ← fitted (int64Min.tdiv b)
      if a < limit then pure none else some <$> fitted (a * b)
    else do
      let limit ← fitted (int64Max.tdiv b)
      if a < limit then pure none else some <$> fitted (a * b)

def plainDivChecked (a b : Int) : Option (Option Int) :=
  if b = 0 then pure none
  else if a = int64Min ∧ b = -1 then pure none
  else some <$> fitted (a.tdiv b)

/-! Sums and differences. -/

theorem fitted_eq {exact : Int} (fits : InInt64 exact) : fitted exact = some exact := if_pos fits

theorem fitted_none {exact : Int} (outside : ¬ InInt64 exact) : fitted exact = none := if_neg outside

/-- A guard that catches exactly the results that do not fit keeps the operation behind it defined. -/
theorem guarded_eq {exact : Int} {caught : Prop} [Decidable caught] (catches : caught ↔ ¬ InInt64 exact) :
    (if caught then pure none else some <$> fitted exact : Option (Option Int)) = some (fitted exact) := by
  by_cases outside : caught
  · rw [if_pos outside, fitted_none (catches.1 outside)]
    rfl
  · have fits : InInt64 exact := not_not.1 fun out => outside (catches.2 out)
    rw [if_neg outside, fitted_eq fits]
    rfl

section Operands

variable {a b : Int} (left : InInt64 a) (right : InInt64 b)

include left right

theorem plainAddChecked_eq : plainAddChecked a b = some (fitted (a + b)) := by
  obtain ⟨lowA, highA⟩ := left
  obtain ⟨lowB, highB⟩ := right
  unfold int64Min int64Max at *
  unfold plainAddChecked
  by_cases positive : 0 < b
  · have limit : InInt64 (int64Max - b) := by
      unfold InInt64 int64Min int64Max
      omega
    rw [if_pos positive, fitted_eq limit]
    refine guarded_eq ?_
    unfold InInt64 int64Min int64Max
    omega
  rw [if_neg positive]
  by_cases negative : b < 0
  · have limit : InInt64 (int64Min - b) := by
      unfold InInt64 int64Min int64Max
      omega
    rw [if_pos negative, fitted_eq limit]
    refine guarded_eq ?_
    unfold InInt64 int64Min int64Max
    omega
  · have fits : InInt64 (a + b) := by
      unfold InInt64 int64Min int64Max
      omega
    rw [if_neg negative, fitted_eq fits]
    rfl

theorem plainSubChecked_eq : plainSubChecked a b = some (fitted (a - b)) := by
  unfold plainSubChecked
  by_cases least : b = int64Min
  · subst least
    rw [if_pos rfl]
    by_cases nonneg : 0 ≤ a
    · have outside : ¬ InInt64 (a - int64Min) := by
        unfold InInt64 int64Min int64Max
        omega
      rw [if_pos nonneg, fitted_none outside]
      rfl
    · have fits : InInt64 (a - int64Min) := by
        unfold InInt64 int64Min int64Max at *
        omega
      rw [if_neg nonneg, fitted_eq fits]
      rfl
  · have negated : InInt64 (-b) := by
      unfold InInt64 int64Min int64Max at *
      omega
    rw [if_neg least, fitted_eq negated]
    exact plainAddChecked_eq left negated

end Operands

/-! Quotients and products. -/

/-- A quotient fits, with the one exception of every two's complement division. -/
theorem tdiv_fits {dividend divisor : Int} (fits : InInt64 dividend)
    (regular : ¬ (dividend = int64Min ∧ divisor = -1)) : InInt64 (dividend.tdiv divisor) := by
  have shrinks := Int.natAbs_tdiv_le_natAbs dividend divisor
  unfold InInt64 int64Min int64Max at *
  by_cases least : dividend = -9223372036854775808
  · by_cases one : divisor = 1
    · rw [one, Int.tdiv_one]
      omega
    · have halved : (dividend.tdiv divisor).natAbs ≤ 4611686018427387904 := by
        rw [Int.natAbs_tdiv, least]
        rcases Nat.lt_or_ge divisor.natAbs 2 with small | large
        · have zero : divisor.natAbs = 0 := by omega
          rw [zero]
          decide
        · exact Nat.div_le_div_left large (by decide)
      omega
  · omega

/-- What a guard that compares with a quotient catches: the product is past the dividend. -/
theorem tdiv_lt_iff {dividend divisor : Int} (factor : Int) (nonneg : 0 ≤ dividend)
    (positive : 0 < divisor) :
    dividend.tdiv divisor < factor ↔ dividend < factor * divisor := by
  rw [Int.tdiv_eq_ediv_of_nonneg nonneg]
  exact Int.ediv_lt_iff_lt_mul positive

section Operands

variable {a b : Int} (left : InInt64 a) (right : InInt64 b)

include left right

theorem plainDivChecked_eq : plainDivChecked a b = some (if b = 0 then none else fitted (a.tdiv b)) := by
  unfold plainDivChecked
  by_cases zero : b = 0
  · rw [if_pos zero, if_pos zero]
    rfl
  rw [if_neg zero, if_neg zero]
  refine guarded_eq ?_
  constructor
  · rintro ⟨rfl, rfl⟩
    decide
  · intro outside
    by_contra regular
    exact outside (tdiv_fits left regular)

/-- Each quadrant has its own guard: the quotient that the second factor must not pass. -/
theorem plainMulChecked_eq : plainMulChecked a b = some (fitted (a * b)) := by
  have most : InInt64 int64Max := by decide
  have least : InInt64 int64Min := by decide
  have negated : int64Min = -(int64Max + 1) := rfl
  unfold plainMulChecked
  by_cases zero : a = 0 ∨ b = 0
  · have product : a * b = 0 := by
      rcases zero with rfl | rfl
      · exact Int.zero_mul b
      · exact Int.mul_zero a
    rw [if_pos zero, product]
    rfl
  rw [if_neg zero]
  obtain ⟨nonzeroA, nonzeroB⟩ := not_or.1 zero
  by_cases minusA : a = -1
  · rw [if_pos minusA, minusA, Int.neg_mul, Int.one_mul]
    refine guarded_eq ?_
    unfold InInt64 int64Min int64Max at *
    omega
  rw [if_neg minusA]
  by_cases minusB : b = -1
  · rw [if_pos minusB, minusB, Int.mul_neg, Int.mul_one]
    refine guarded_eq ?_
    unfold InInt64 int64Min int64Max at *
    omega
  rw [if_neg minusB]
  by_cases positiveA : 0 < a
  · rw [if_pos positiveA]
    by_cases positiveB : 0 < b
    · have grows : 0 < a * b := Int.mul_pos positiveA positiveB
      rw [if_pos positiveB, fitted_eq (tdiv_fits most (by simp [minusB]))]
      refine guarded_eq ?_
      rw [tdiv_lt_iff a (by decide) positiveB]
      unfold InInt64 int64Min int64Max
      omega
    · have falls : a * b < 0 := Int.mul_neg_of_pos_of_neg positiveA (by omega)
      have guard : b < int64Min.tdiv a ↔ a * b < int64Min := by
        have limit := tdiv_lt_iff (-b) (by decide : (0 : Int) ≤ int64Max + 1) positiveA
        rw [Int.neg_mul, Int.mul_comm b a] at limit
        rw [negated, Int.neg_tdiv]
        omega
      rw [if_neg positiveB, fitted_eq (tdiv_fits least (by simp [minusA]))]
      refine guarded_eq ?_
      rw [guard]
      unfold InInt64 int64Min int64Max
      omega
  · rw [if_neg positiveA]
    by_cases positiveB : 0 < b
    · have falls : a * b < 0 := Int.mul_neg_of_neg_of_pos (by omega) positiveB
      have guard : a < int64Min.tdiv b ↔ a * b < int64Min := by
        have limit := tdiv_lt_iff (-a) (by decide : (0 : Int) ≤ int64Max + 1) positiveB
        rw [Int.neg_mul] at limit
        rw [negated, Int.neg_tdiv]
        omega
      rw [if_pos positiveB, fitted_eq (tdiv_fits least (by simp [minusB]))]
      refine guarded_eq ?_
      rw [guard]
      unfold InInt64 int64Min int64Max
      omega
    · have grows : 0 < a * b := Int.mul_pos_of_neg_of_neg (by omega) (by omega)
      have guard : a < int64Max.tdiv b ↔ int64Max < a * b := by
        have limit := tdiv_lt_iff (-a) (by decide : (0 : Int) ≤ int64Max) (by omega : 0 < -b)
        rw [Int.neg_mul_neg, Int.tdiv_neg] at limit
        omega
      rw [if_neg positiveB, fitted_eq (tdiv_fits most (by simp [minusB]))]
      refine guarded_eq ?_
      rw [guard]
      unfold InInt64 int64Min int64Max
      omega

end Operands

/-! The operations of the model. They leave the limits out of account, which always fit. -/

theorem fitted_some {exact value : Int} (fits : fitted exact = some value) : value = exact := by
  unfold fitted at fits
  split at fits
  · exact (Option.some.inj fits).symm
  · cases fits

theorem some_fitted {exact : Int} {answer : Option Int} (computed : some <$> fitted exact = some answer) :
    answer = some exact := by
  cases fits : fitted exact with
  | none =>
      rw [fits] at computed
      cases computed
  | some value =>
      rw [fits] at computed
      rw [← fitted_some fits]
      exact (Option.some.inj computed).symm

theorem guarded_some {limit exact : Int} (caught : Int → Prop) [DecidablePred caught] {answer : Option Int}
    (computed : (do
      let limit ← fitted limit
      if caught limit then pure none else some <$> fitted exact : Option (Option Int)) = some answer) :
    answer = if caught limit then none else some exact := by
  cases fits : fitted limit with
  | none =>
      rw [fits] at computed
      cases computed
  | some value =>
      rw [fits] at computed
      obtain rfl := fitted_some fits
      change (if caught value then pure none else some <$> fitted exact : Option (Option Int)) = some answer
        at computed
      split at computed
      · rename_i yes
        rw [if_pos yes]
        exact (Option.some.inj computed).symm
      · rename_i no
        rw [if_neg no]
        exact some_fitted computed

theorem addChecked_of_plain {a b : Int} {answer : Option Int}
    (computed : plainAddChecked a b = some answer) :
    answer = addChecked a b := by
  unfold plainAddChecked at computed
  unfold addChecked
  by_cases positive : 0 < b
  · rw [if_pos positive] at computed
    rw [guarded_some (fun limit => limit < a) computed]
    simp [positive, Int.lt_asymm positive]
  rw [if_neg positive] at computed
  rw [if_neg fun both => positive both.1]
  by_cases negative : b < 0
  · rw [if_pos negative] at computed
    rw [guarded_some (fun limit => a < limit) computed]
    simp [negative]
  · rw [if_neg negative] at computed
    rw [if_neg fun both => negative both.1]
    exact some_fitted computed

theorem subChecked_of_plain {a b : Int} {answer : Option Int}
    (computed : plainSubChecked a b = some answer) :
    answer = subChecked a b := by
  unfold plainSubChecked at computed
  unfold subChecked
  by_cases least : b = int64Min
  · rw [if_pos least] at computed ⊢
    by_cases nonneg : 0 ≤ a
    · rw [if_pos nonneg] at computed ⊢
      exact (Option.some.inj computed).symm
    · rw [if_neg nonneg] at computed ⊢
      exact some_fitted computed
  · rw [if_neg least] at computed ⊢
    cases fits : fitted (-b) with
    | none =>
        rw [fits] at computed
        cases computed
    | some negated =>
        rw [fits] at computed
        rw [← fitted_some fits]
        exact addChecked_of_plain computed

theorem mulChecked_of_plain {a b : Int} {answer : Option Int}
    (computed : plainMulChecked a b = some answer) :
    answer = mulChecked a b := by
  unfold plainMulChecked at computed
  unfold mulChecked
  by_cases zero : a = 0 ∨ b = 0
  · rw [if_pos zero] at computed ⊢
    exact (Option.some.inj computed).symm
  rw [if_neg zero] at computed ⊢
  by_cases minusA : a = -1
  · rw [if_pos minusA] at computed ⊢
    by_cases least : b = int64Min
    · rw [if_pos least] at computed ⊢
      exact (Option.some.inj computed).symm
    · rw [if_neg least] at computed ⊢
      exact some_fitted computed
  rw [if_neg minusA] at computed ⊢
  by_cases minusB : b = -1
  · rw [if_pos minusB] at computed ⊢
    by_cases least : a = int64Min
    · rw [if_pos least] at computed ⊢
      exact (Option.some.inj computed).symm
    · rw [if_neg least] at computed ⊢
      exact some_fitted computed
  rw [if_neg minusB] at computed ⊢
  by_cases positiveA : 0 < a
  · rw [if_pos positiveA] at computed ⊢
    by_cases positiveB : 0 < b
    · rw [if_pos positiveB] at computed ⊢
      exact guarded_some (fun limit => limit < a) computed
    · rw [if_neg positiveB] at computed ⊢
      exact guarded_some (fun limit => b < limit) computed
  · rw [if_neg positiveA] at computed ⊢
    by_cases positiveB : 0 < b
    · rw [if_pos positiveB] at computed ⊢
      exact guarded_some (fun limit => a < limit) computed
    · rw [if_neg positiveB] at computed ⊢
      exact guarded_some (fun limit => a < limit) computed

theorem divChecked_of_plain {a b : Int} {answer : Option Int}
    (computed : plainDivChecked a b = some answer) :
    answer = divChecked a b := by
  unfold plainDivChecked at computed
  unfold divChecked
  by_cases zero : b = 0
  · rw [if_pos zero] at computed ⊢
    exact (Option.some.inj computed).symm
  rw [if_neg zero] at computed ⊢
  by_cases overflows : a = int64Min ∧ b = -1
  · rw [if_pos overflows] at computed ⊢
    exact (Option.some.inj computed).symm
  · rw [if_neg overflows] at computed ⊢
    exact some_fitted computed

/-! What they compute. -/

/-- The exact result, or the end of the machine type that it is past. -/
def clamped (exact : Int) : Int := max int64Min (min int64Max exact)

/-- The operation never comes to an undefined one, and answers the exact result if there is one that fits.
-/
structure Computes (plain : Option (Option Int)) (checked exact : Option Int) : Prop where
  defined : plain = some checked
  exact : checked = exact

/-- The checked operations are exact, and the saturating ones are clamped. -/
structure CheckedExactly (a b : Int) : Prop where
  add : Computes (plainAddChecked a b) (addChecked a b) (fitted (a + b))
  sub : Computes (plainSubChecked a b) (subChecked a b) (fitted (a - b))
  mul : Computes (plainMulChecked a b) (mulChecked a b) (fitted (a * b))
  div : Computes (plainDivChecked a b) (divChecked a b) (if b = 0 then none else fitted (a.tdiv b))
  satAdd : satAdd a b = clamped (a + b)
  satMul : satMul a b = clamped (a * b)

theorem Computes.of_plain {plain : Option (Option Int)} {checked exact : Option Int}
    (computed : plain = some exact) (same : exact = checked) : Computes plain checked exact :=
  ⟨computed.trans (congrArg some same), same.symm⟩

theorem checked_exactly {a b : Int} (left : InInt64 a) (right : InInt64 b) : CheckedExactly a b := by
  have add := plainAddChecked_eq left right
  have mul := plainMulChecked_eq left right
  have sub := plainSubChecked_eq left right
  have div := plainDivChecked_eq left right
  refine ⟨.of_plain add (addChecked_of_plain add), .of_plain sub (subChecked_of_plain sub),
    .of_plain mul (mulChecked_of_plain mul), .of_plain div (divChecked_of_plain div), ?_, ?_⟩
  · unfold TrafficFabric.satAdd clamped
    rw [← addChecked_of_plain add]
    by_cases fits : InInt64 (a + b)
    · rw [fitted_eq fits, min_eq_right fits.2, max_eq_right fits.1]
    · rw [fitted_none fits]
      unfold InInt64 int64Min int64Max at *
      dsimp only
      split <;> omega
  · unfold TrafficFabric.satMul clamped
    rw [← mulChecked_of_plain mul]
    by_cases fits : InInt64 (a * b)
    · rw [fitted_eq fits, min_eq_right fits.2, max_eq_right fits.1]
    · rw [fitted_none fits]
      have nonzero : a ≠ 0 ∧ b ≠ 0 := by
        constructor
        · rintro rfl
          rw [Int.zero_mul] at fits
          exact fits (by decide)
        · rintro rfl
          rw [Int.mul_zero] at fits
          exact fits (by decide)
      have sign : ((a < 0) ≠ (b < 0)) ↔ a * b < 0 := by
        rw [mul_neg_iff, ne_eq, eq_iff_iff]
        omega
      unfold InInt64 int64Min int64Max at *
      dsimp only
      simp only [sign]
      split <;> omega

/-- The two ends of the type multiply to a number far below it. -/
theorem checked_exactly_ends : CheckedExactly int64Min int64Max :=
  checked_exactly (by decide) (by decide)

end TrafficFabric
