import TrafficFabric.CheckedArithmetic
import Mathlib

set_option autoImplicit false

/- The exact rational of `numeric.hpp` and its comparison. Where a cross product overflows, the integer
parts are compared, and then the reciprocals of the remainders in reverse order. -/
namespace TrafficFabric

/-- `gcd_u64`. -/
def gcdU64 (a b : Nat) : Nat := if b = 0 then a else gcdU64 b (a % b)
termination_by b
decreasing_by exact Nat.mod_lt a (Nat.pos_of_ne_zero ‹b ≠ 0›)

theorem gcdU64_eq (a b : Nat) : gcdU64 a b = Nat.gcd a b := by
  induction a, b using gcdU64.induct with
  | case1 a => rw [gcdU64, if_pos rfl, Nat.gcd_zero_right]
  | case2 a b nonzero ih => rw [gcdU64, if_neg nonzero, ih, Nat.gcd_comm b, ← Nat.gcd_rec, Nat.gcd_comm]

structure Rational where
  numerator : Int := 0
  denominator : Int := 1
deriving DecidableEq

namespace Rational

/-- The division by the greatest common divisor. The magnitude of the numerator is read as unsigned, the
least one included. -/
def reduce (value : Rational) : Rational :=
  let g := gcdU64 value.numerator.natAbs value.denominator.natAbs
  if 1 < g then ⟨value.numerator.tdiv g, value.denominator.tdiv g⟩ else value

def normalize (value : Rational) : Rational :=
  if value.denominator = 0 then ⟨0, 1⟩
  else if value.denominator < 0 then
    if value.numerator = int64Min ∨ value.denominator = int64Min then ⟨0, 1⟩
    else reduce ⟨-value.numerator, -value.denominator⟩
  else reduce value

/-- The constructor. -/
def make (numerator denominator : Int) : Rational := normalize ⟨numerator, denominator⟩

/-- The proper fraction that is left, upside down; a remainder of zero counts as one. -/
def reciprocal (value : Rational) : Rational :=
  let remainder := make (value.numerator.tmod value.denominator) value.denominator
  make remainder.denominator (if remainder.numerator = 0 then 1 else remainder.numerator)

/-- What the order of the reciprocals says of the fractions. -/
def reversed (inner : Ordering) : Ordering := if inner = .eq then .eq else if inner = .lt then .gt else .lt

/-- `compare`, with a bound on the depth of its recursion. -/
def compareWithin : Nat → Rational → Rational → Option Ordering
  | 0, _, _ => none
  | fuel + 1, a, b =>
      match mulChecked a.numerator b.denominator, mulChecked b.numerator a.denominator with
      | some lhs, some rhs => some (cmp lhs rhs)
      | _, _ =>
          let qa := a.numerator.tdiv a.denominator
          let qb := b.numerator.tdiv b.denominator
          if qa ≠ qb then some (if qa < qb then .lt else .gt)
          else (compareWithin fuel (reciprocal a) (reciprocal b)).map reversed

/-! The normal form. -/

/-- What the constructor leaves of a fraction. -/
structure Normal (value : Rational) : Prop where
  positive : 0 < value.denominator
  reduced : Int.gcd value.numerator value.denominator = 1
  fits : InInt64 value.numerator
  bounded : value.denominator ≤ int64Max

theorem reduce_eq {value : Rational} (reduced : Int.gcd value.numerator value.denominator = 1) :
    reduce value = value := by
  unfold reduce
  rw [gcdU64_eq]
  exact if_neg (by rw [show Nat.gcd _ _ = 1 from reduced]; decide)

/-- A positive denominator and no common divisor: there is nothing to do. -/
theorem make_eq {numerator denominator : Int} (positive : 0 < denominator)
    (reduced : Int.gcd numerator denominator = 1) :
    make numerator denominator = ⟨numerator, denominator⟩ := by
  unfold make normalize
  rw [if_neg (show ¬ denominator = 0 by omega), if_neg (show ¬ denominator < 0 by omega)]
  exact reduce_eq reduced

/-- A negative denominator only turns both signs. -/
theorem make_neg {numerator denominator : Int} (negative : denominator < 0)
    (reduced : Int.gcd numerator denominator = 1) (negatable : numerator ≠ int64Min ∧
      denominator ≠ int64Min) :
    make numerator denominator = ⟨-numerator, -denominator⟩ := by
  unfold make normalize
  rw [if_neg (show ¬ denominator = 0 by omega), if_pos negative,
    if_neg (show ¬ (numerator = int64Min ∨ denominator = int64Min) from not_or.2 negatable)]
  exact reduce_eq (by rw [Int.gcd_neg, Int.neg_gcd]; exact reduced)

/-- What the division by the greatest common divisor leaves of a fraction. -/
theorem reduce_spec (numerator : Int) {denominator : Int} (positive : 0 < denominator) :
    ∃ factor : Int, 0 < factor ∧ numerator = (reduce ⟨numerator, denominator⟩).numerator * factor ∧
      denominator = (reduce ⟨numerator, denominator⟩).denominator * factor ∧
      Int.gcd (reduce ⟨numerator, denominator⟩).numerator
        (reduce ⟨numerator, denominator⟩).denominator = 1 := by
  have divides : 0 < Int.gcd numerator denominator := Int.gcd_pos_of_ne_zero_right numerator (by omega)
  by_cases common : 1 < Int.gcd numerator denominator
  · obtain ⟨n, d, coprime, left, right⟩ := Int.exists_gcd_one divides
    have nonzero : (Int.gcd numerator denominator : Int) ≠ 0 := by omega
    have reduced : reduce ⟨numerator, denominator⟩ = ⟨n, d⟩ := by
      unfold reduce
      rw [gcdU64_eq]
      have quotients : Rational.mk (numerator.tdiv (Int.gcd numerator denominator))
          (denominator.tdiv (Int.gcd numerator denominator)) = ⟨n, d⟩ := by
        rw [Int.tdiv_eq_of_eq_mul_left nonzero left, Int.tdiv_eq_of_eq_mul_left nonzero right]
      exact (if_pos common).trans quotients
    rw [reduced]
    exact ⟨Int.gcd numerator denominator, by omega, left, right, coprime⟩
  · have coprime : Int.gcd numerator denominator = 1 := by omega
    rw [reduce_eq coprime]
    exact ⟨1, by decide, (Int.mul_one numerator).symm, (Int.mul_one denominator).symm, coprime⟩

/-- The number that a fraction stands for. -/
def value (fraction : Rational) : ℚ := (fraction.numerator : ℚ) / fraction.denominator

/-- The constructor gives up on a negative denominator where either sign cannot be turned. -/
def Collapsed (numerator denominator : Int) : Prop :=
  denominator < 0 ∧ (numerator = int64Min ∨ denominator = int64Min)

instance (numerator denominator : Int) : Decidable (Collapsed numerator denominator) :=
  inferInstanceAs (Decidable (_ ∧ _))

theorem make_collapsed {numerator denominator : Int} (collapsed : Collapsed numerator denominator) :
    make numerator denominator = ⟨0, 1⟩ := by
  unfold make normalize
  rw [if_neg (show ¬ denominator = 0 from Int.ne_of_lt collapsed.1), if_pos collapsed.1]
  exact if_pos collapsed.2

theorem reduce_normal {numerator denominator : Int} (positive : 0 < denominator) (fits : InInt64 numerator)
    (bounded : denominator ≤ int64Max) : Normal (reduce ⟨numerator, denominator⟩) ∧
      (reduce ⟨numerator, denominator⟩).value = (numerator : ℚ) / denominator := by
  obtain ⟨factor, large, left, right, coprime⟩ := reduce_spec numerator positive
  generalize reduce ⟨numerator, denominator⟩ = reduced at *
  obtain ⟨n, d⟩ := reduced
  dsimp only at *
  subst left right
  have above : 0 < d := pos_of_mul_pos_left positive large.le
  have shrinks : d ≤ d * factor := le_mul_of_one_le_right above.le large
  have within : InInt64 n := by
    rcases Int.le_total 0 n with up | down
    · have shrinks : n ≤ n * factor := le_mul_of_one_le_right up large
      exact ⟨Int.le_trans (by decide) up, shrinks.trans fits.2⟩
    · have shrinks : n * factor ≤ n := mul_le_of_one_le_right down large
      exact ⟨fits.1.trans shrinks, Int.le_trans down (by decide)⟩
  refine ⟨⟨above, coprime, within, shrinks.trans bounded⟩, ?_⟩
  show (n : ℚ) / d = ((n * factor : Int) : ℚ) / ((d * factor : Int) : ℚ)
  rw [Int.cast_mul, Int.cast_mul, mul_div_mul_right _ _ (Int.cast_ne_zero.2 large.ne')]

/-- Elsewhere the constructor keeps the number and leaves the normal form. -/
theorem make_kept {numerator denominator : Int} (fitsN : InInt64 numerator) (fitsD : InInt64 denominator)
    (nonzero : denominator ≠ 0) (kept : ¬ Collapsed numerator denominator) :
    Normal (make numerator denominator) ∧
      (make numerator denominator).value = (numerator : ℚ) / denominator := by
  unfold make normalize
  rw [if_neg nonzero]
  by_cases negative : denominator < 0
  · have turned : ¬ (numerator = int64Min ∨ denominator = int64Min) := fun extreme =>
      kept ⟨negative, extreme⟩
    obtain ⟨movedN, movedD⟩ := not_or.1 turned
    have fits : InInt64 (-numerator) ∧ -denominator ≤ int64Max := by
      unfold InInt64 int64Min int64Max at *
      omega
    have spec := reduce_normal (show 0 < -denominator by omega) fits.1 fits.2
    rw [Int.cast_neg, Int.cast_neg, neg_div_neg_eq] at spec
    rw [if_pos negative, if_neg turned]
    exact spec
  · rw [if_neg negative]
    exact reduce_normal (by omega) fitsN fitsD.2

/-! One call. -/

/-- The order of two fractions with positive denominators, by their cross products. -/
def crossOrder (a b : Rational) :
    Ordering := cmp (a.numerator * b.denominator) (b.numerator * a.denominator)

theorem crossOrder_eq {a b : Rational} (left : 0 < a.denominator) (right : 0 < b.denominator) :
    crossOrder a b = cmp a.value b.value := by
  have positiveA : (0 : ℚ) < a.denominator := Int.cast_pos.2 left
  have positiveB : (0 : ℚ) < b.denominator := Int.cast_pos.2 right
  have below : a.value < b.value ↔ a.numerator * b.denominator < b.numerator * a.denominator := by
    unfold value
    rw [div_lt_div_iff₀ positiveA positiveB]
    exact_mod_cast Iff.rfl
  have above : b.value < a.value ↔ b.numerator * a.denominator < a.numerator * b.denominator := by
    unfold value
    rw [div_lt_div_iff₀ positiveB positiveA]
    exact_mod_cast Iff.rfl
  unfold crossOrder cmp cmpUsing
  simp only [below, above]

/-- Both cross products are representable. -/
def CrossFits (a b : Rational) : Prop :=
  InInt64 (a.numerator * b.denominator) ∧ InInt64 (b.numerator * a.denominator)

instance (a b : Rational) : Decidable (CrossFits a b) := inferInstanceAs (Decidable (_ ∧ _))

def quotient (fraction : Rational) : Int := fraction.numerator.tdiv fraction.denominator

def remainder (fraction : Rational) : Int := fraction.numerator.tmod fraction.denominator

theorem mulChecked_eq {a b : Int} (left : InInt64 a) (right : InInt64 b) :
    mulChecked a b = fitted (a * b) :=
  (mulChecked_of_plain (plainMulChecked_eq left right)).symm

theorem Normal.denominator_fits {fraction : Rational} (normal : Normal fraction) :
    InInt64 fraction.denominator :=
  ⟨Int.le_trans (by decide) normal.positive.le, normal.bounded⟩

theorem reversed_eq (inner : Ordering) : reversed inner = inner.swap := by cases inner <;> rfl

/-- The remainder is smaller than the denominator and on the side of the numerator. -/
structure Parts (fraction : Rational) : Prop where
  sum : fraction.denominator * fraction.quotient + fraction.remainder = fraction.numerator
  short : fraction.remainder < fraction.denominator ∧ -fraction.denominator < fraction.remainder
  above : 0 ≤ fraction.numerator → 0 ≤ fraction.quotient ∧ 0 ≤ fraction.remainder
  below : fraction.numerator ≤ 0 → fraction.quotient ≤ 0 ∧ fraction.remainder ≤ 0

theorem Normal.parts {fraction : Rational} (normal : Normal fraction) : Parts fraction := by
  obtain ⟨n, d⟩ := fraction
  have positive : 0 < d := normal.positive
  have opposite : (-n).tdiv d = -n.tdiv d ∧ (-n).tmod d = -n.tmod d := ⟨Int.neg_tdiv n d, Int.neg_tmod n d⟩
  have side (m : Int) (nonneg : 0 ≤ m) : 0 ≤ m.tdiv d ∧ 0 ≤ m.tmod d :=
    ⟨Int.tdiv_nonneg nonneg positive.le, Int.tmod_nonneg d nonneg⟩
  refine ⟨Int.mul_tdiv_add_tmod n d, ?_, side n, ?_⟩
  · have up := Int.tmod_lt_of_pos n positive
    have down := Int.tmod_lt_of_pos (-n) positive
    show n.tmod d < d ∧ -d < n.tmod d
    omega
  · intro nonpos
    have negated : 0 ≤ -n := neg_nonneg.2 nonpos
    have := side (-n) negated
    show n.tdiv d ≤ 0 ∧ n.tmod d ≤ 0
    omega

theorem Normal.remainder_coprime {fraction : Rational} (normal : Normal fraction) :
    Int.gcd fraction.remainder fraction.denominator = 1 := by
  rw [← normal.reduced]
  unfold Int.gcd remainder
  rw [Int.natAbs_tmod, ← Nat.gcd_rec, Nat.gcd_comm]

theorem Normal.reciprocal_eq {fraction : Rational} (normal : Normal fraction)
    (nonzero : fraction.remainder ≠ 0) :
    reciprocal fraction = if 0 < fraction.remainder then ⟨fraction.denominator, fraction.remainder⟩
      else ⟨-fraction.denominator, -fraction.remainder⟩ := by
  have parts := normal.parts
  have coprime := normal.remainder_coprime
  unfold reciprocal
  rw [show make (fraction.numerator.tmod fraction.denominator) fraction.denominator =
    ⟨fraction.remainder, fraction.denominator⟩ from make_eq normal.positive coprime]
  show make fraction.denominator (if fraction.remainder = 0 then 1 else fraction.remainder) = _
  rw [Int.gcd_comm] at coprime
  rw [if_neg nonzero]
  by_cases positive : 0 < fraction.remainder
  · rw [if_pos positive, make_eq positive coprime]
  · have negatable : fraction.denominator ≠ int64Min ∧ fraction.remainder ≠ int64Min := by
      have positive := normal.positive
      have bounded := normal.bounded
      have short := parts.short
      unfold int64Min int64Max at *
      omega
    rw [if_neg positive, make_neg (by omega) coprime negatable]

theorem Normal.reciprocal_normal {fraction : Rational} (normal : Normal fraction)
    (nonzero : fraction.remainder ≠ 0) : Normal (reciprocal fraction) := by
  have coprime := normal.remainder_coprime
  have bounded := normal.bounded
  have positive := normal.positive
  have short := normal.parts.short
  rw [Int.gcd_comm] at coprime
  rw [normal.reciprocal_eq nonzero]
  by_cases positive : 0 < fraction.remainder
  · rw [if_pos positive]
    refine ⟨positive, coprime, normal.denominator_fits, ?_⟩
    show fraction.remainder ≤ int64Max
    omega
  · rw [if_neg positive]
    refine ⟨?_, ?_, ?_, ?_⟩
    · show 0 < -fraction.remainder
      omega
    · show Int.gcd (-fraction.denominator) (-fraction.remainder) = 1
      rw [Int.gcd_neg, Int.neg_gcd]
      exact coprime
    · show InInt64 (-fraction.denominator)
      unfold InInt64 int64Min int64Max at *
      omega
    · show -fraction.remainder ≤ int64Max
      omega

theorem Normal.reciprocal_denominator {fraction : Rational} (normal : Normal fraction)
    (nonzero : fraction.remainder ≠ 0) : (reciprocal fraction).denominator = |fraction.remainder| := by
  rw [normal.reciprocal_eq nonzero]
  by_cases positive : 0 < fraction.remainder
  · rw [if_pos positive, abs_of_pos positive]
  · rw [if_neg positive, abs_of_nonpos (by omega)]

section Pair

variable {a b : Rational} (left : Normal a) (right : Normal b)

include left right

theorem compareWithin_succ (fuel : Nat) : compareWithin (fuel + 1) a b =
    if CrossFits a b then some (crossOrder a b)
    else if a.quotient ≠ b.quotient then some (if a.quotient < b.quotient then .lt else .gt)
    else (compareWithin fuel (reciprocal a) (reciprocal b)).map reversed := by
  rw [compareWithin, mulChecked_eq left.fits right.denominator_fits,
    mulChecked_eq right.fits left.denominator_fits]
  by_cases fits : CrossFits a b
  · rw [if_pos fits, fitted_eq fits.1, fitted_eq fits.2]
    rfl
  · rw [if_neg fits]
    rw [CrossFits, not_and_or] at fits
    unfold fitted
    rcases fits with outside | outside
    · rw [if_neg outside]
      rfl
    · rw [if_neg outside]
      split
      · contradiction
      · rfl

theorem cross_lt_of_quotient_lt (below : a.quotient < b.quotient) :
    a.numerator * b.denominator < b.numerator * a.denominator := by
  obtain ⟨sumA, shortA, aboveA, belowA⟩ := left.parts
  obtain ⟨sumB, shortB, aboveB, belowB⟩ := right.parts
  have positiveA := left.positive
  have positiveB := right.positive
  -- a larger quotient that is positive is below its own fraction; else the smaller one is negative, and
  -- above it
  rcases lt_or_ge 0 b.quotient with up | down
  · have least : b.denominator * b.quotient ≤ b.numerator := by
      have := aboveB (by by_contra; omega)
      omega
    have most : a.numerator < a.denominator * b.quotient := by nlinarith
    nlinarith
  · have most : a.numerator ≤ a.denominator * a.quotient := by
      have := belowA (by by_contra; omega)
      omega
    have least : b.denominator * a.quotient < b.numerator := by nlinarith
    nlinarith

/-- Where the integer parts differ they decide, whatever the signs are. -/
theorem compareWithin_quotients (fuel : Nat) (differ : a.quotient ≠ b.quotient) :
    compareWithin (fuel + 1) a b = some (crossOrder a b) := by
  rw [compareWithin_succ left right, if_pos differ]
  by_cases fits : CrossFits a b
  · rw [if_pos fits]
  · rw [if_neg fits]
    rcases lt_or_gt_of_ne differ with below | above
    · rw [if_pos below]
      exact congrArg some ((cmp_eq_lt_iff _ _).2 (cross_lt_of_quotient_lt left right below)).symm
    · rw [if_neg above.le.not_gt]
      exact congrArg some ((cmp_eq_gt_iff _ _).2 (cross_lt_of_quotient_lt right left above)).symm

/-- A whole number is compared by its cross products: they are no larger than the numerators. -/
theorem crossFits_of_whole (whole : a.remainder = 0) (same : a.quotient = b.quotient) : CrossFits a b := by
  have one : a.denominator = 1 := by
    have coprime := left.remainder_coprime
    have positive := left.positive
    rw [whole, Int.gcd_zero_left] at coprime
    omega
  obtain ⟨sumA, -, -, -⟩ := left.parts
  obtain ⟨sumB, -, aboveB, belowB⟩ := right.parts
  have fits := right.fits
  have number : a.numerator * b.denominator = b.numerator - b.remainder := by
    rw [← sumA, one, whole, same]
    linarith
  unfold CrossFits
  rw [number, one, Int.mul_one]
  refine ⟨?_, fits⟩
  unfold InInt64 int64Min int64Max at *
  rcases Int.le_total 0 b.numerator with up | down
  · have := aboveB up
    have : 0 ≤ b.denominator * b.quotient := mul_nonneg right.positive.le this.1
    omega
  · have := belowB down
    have : b.denominator * b.quotient ≤ 0 := mul_nonpos_of_nonneg_of_nonpos right.positive.le this.1
    omega

/-- Equal integer parts leave the order to the remainders. -/
theorem crossOrder_remainders (same : a.quotient = b.quotient) :
    crossOrder a b = cmp (a.remainder * b.denominator) (b.remainder * a.denominator) := by
  obtain ⟨sumA, -, -, -⟩ := left.parts
  obtain ⟨sumB, -, -, -⟩ := right.parts
  have shift : a.numerator * b.denominator - a.remainder * b.denominator =
      b.numerator * a.denominator - b.remainder * a.denominator := by
    rw [← sumA, ← sumB, same]
    ring
  have below : a.numerator * b.denominator < b.numerator * a.denominator ↔
      a.remainder * b.denominator < b.remainder * a.denominator := by omega
  have above : b.numerator * a.denominator < a.numerator * b.denominator ↔
      b.remainder * a.denominator < a.remainder * b.denominator := by omega
  unfold crossOrder cmp cmpUsing
  simp only [below, above]

/-- Of two remainders on one side the reciprocals stand in reverse order. -/
theorem crossOrder_reciprocals (same : a.quotient = b.quotient) (nonzeroA : a.remainder ≠ 0)
    (nonzeroB : b.remainder ≠ 0) (side : 0 < a.remainder ↔ 0 < b.remainder) :
    crossOrder a b = (crossOrder (reciprocal a) (reciprocal b)).swap := by
  rw [crossOrder_remainders left right same, crossOrder, cmp_swap, left.reciprocal_eq nonzeroA,
    right.reciprocal_eq nonzeroB]
  by_cases positive : 0 < a.remainder
  · rw [if_pos positive, if_pos (side.1 positive), Int.mul_comm a.remainder, Int.mul_comm b.remainder]
  · rw [if_neg positive, if_neg (mt side.2 positive), Int.neg_mul_neg, Int.neg_mul_neg,
      Int.mul_comm a.remainder, Int.mul_comm b.remainder]

end Pair

/-! The recursion. -/

/-- Neither fraction is on the other side of zero. -/
def SameSide (a b : Rational) : Prop :=
  (0 ≤ a.numerator ∧ 0 ≤ b.numerator) ∨ (a.numerator ≤ 0 ∧ b.numerator ≤ 0)

/-- What is left when the quotients do not decide: two remainders on one side, or proper fractions on
opposite sides. -/
theorem remainders_left {a b : Rational} (left : Normal a) (right : Normal b) (overflows : ¬ CrossFits a b)
    (same : a.quotient = b.quotient) : a.remainder ≠ 0 ∧ b.remainder ≠ 0 :=
  ⟨fun whole => overflows (crossFits_of_whole left right whole same),
    fun whole => overflows (And.symm (crossFits_of_whole right left whole same.symm))⟩

theorem SameSide.remainders {a b : Rational} (left : Normal a) (right : Normal b) (side : SameSide a b)
    (nonzeroA : a.remainder ≠ 0) (nonzeroB : b.remainder ≠ 0) : 0 < a.remainder ↔ 0 < b.remainder := by
  rcases side with ⟨upA, upB⟩ | ⟨downA, downB⟩
  · have := left.parts.above upA
    have := right.parts.above upB
    omega
  · have := left.parts.below downA
    have := right.parts.below downB
    omega

/-- On one side of zero the comparison is exact. The induction is on the depth: the remainder of the first
fraction is the denominator of the next call. -/
theorem compareWithin_sameSide {fuel : Nat} {a b : Rational} (left : Normal a) (right : Normal b)
    (side : SameSide a b) (deep : a.denominator < fuel) :
    compareWithin fuel a b = some (crossOrder a b) := by
  induction fuel generalizing a b with
  | zero =>
      have positive := left.positive
      omega
  | succ fuel ih =>
      by_cases differ : a.quotient ≠ b.quotient
      · exact compareWithin_quotients left right fuel differ
      have same : a.quotient = b.quotient := not_not.1 differ
      rw [compareWithin_succ left right, if_neg differ]
      by_cases fits : CrossFits a b
      · rw [if_pos fits]
      rw [if_neg fits]
      obtain ⟨nonzeroA, nonzeroB⟩ := remainders_left left right fits same
      have signs := side.remainders left right nonzeroA nonzeroB
      have short := left.parts.short
      have shorter : (reciprocal a).denominator < fuel := by
        rw [left.reciprocal_denominator nonzeroA, abs_lt]
        omega
      have nextSide : SameSide (reciprocal a) (reciprocal b) := by
        have positiveA := left.positive
        have positiveB := right.positive
        rw [left.reciprocal_eq nonzeroA, right.reciprocal_eq nonzeroB]
        by_cases positive : 0 < a.remainder
        · rw [if_pos positive, if_pos (signs.1 positive)]
          exact Or.inl ⟨positiveA.le, positiveB.le⟩
        · rw [if_neg positive, if_neg (mt signs.2 positive)]
          exact Or.inr ⟨neg_nonpos.2 positiveA.le, neg_nonpos.2 positiveB.le⟩
      rw [ih (left.reciprocal_normal nonzeroA) (right.reciprocal_normal nonzeroB) nextSide shorter,
        Option.map_some, reversed_eq, crossOrder_reciprocals left right same nonzeroA nonzeroB signs]

/-- Two proper fractions on opposite sides of zero whose cross products are not both representable. -/
def Opposed (a b : Rational) : Prop :=
  ((a.numerator < 0 ∧ 0 < b.numerator) ∨ (0 < a.numerator ∧ b.numerator < 0)) ∧
    a.numerator.natAbs < a.denominator.natAbs ∧ b.numerator.natAbs < b.denominator.natAbs ∧ ¬ CrossFits a b

instance (a b : Rational) : Decidable (Opposed a b) := inferInstanceAs (Decidable (_ ∧ _))

theorem Normal.proper {fraction : Rational} (normal : Normal fraction)
    (proper : fraction.numerator.natAbs < fraction.denominator.natAbs) :
    fraction.quotient = 0 ∧ fraction.remainder = fraction.numerator := by
  have zero : fraction.quotient = 0 := by
    apply Int.natAbs_eq_zero.1
    unfold quotient
    rw [Int.natAbs_tdiv]
    exact Nat.div_eq_of_lt proper
  have sum := normal.parts.sum
  rw [zero, Int.mul_zero, Int.zero_add] at sum
  exact ⟨zero, sum⟩

/-- The reciprocal of a proper fraction is at least one in magnitude. -/
theorem Normal.reciprocal_quotient {fraction : Rational} (normal : Normal fraction)
    (nonzero : fraction.remainder ≠ 0) : (0 < fraction.remainder → 0 < (reciprocal fraction).quotient) ∧
      (fraction.remainder < 0 → (reciprocal fraction).quotient < 0) := by
  obtain ⟨sum, short, above, below⟩ := (normal.reciprocal_normal nonzero).parts
  have larger := normal.parts.short
  have whole : (reciprocal fraction).quotient ≠ 0 := by
    intro zero
    rw [zero, Int.mul_zero, Int.zero_add] at sum
    rw [sum, normal.reciprocal_eq nonzero] at short
    by_cases positive : 0 < fraction.remainder
    · rw [if_pos positive] at short
      dsimp only at short
      omega
    · rw [if_neg positive] at short
      dsimp only at short
      omega
  have side := normal.positive
  constructor
  · intro positive
    have numerator : (reciprocal fraction).numerator = fraction.denominator := by
      rw [normal.reciprocal_eq nonzero, if_pos positive]
    have := above (by omega)
    omega
  · intro negative
    have numerator : (reciprocal fraction).numerator = -fraction.denominator := by
      rw [normal.reciprocal_eq nonzero, if_neg (show ¬ 0 < fraction.remainder by omega)]
    have := below (by omega)
    omega

theorem crossOrder_of_signs {a b : Rational} (left : Normal a) (right : Normal b)
    (negative : a.numerator < 0)
    (positive : 0 < b.numerator) : crossOrder a b = .lt := by
  have low : a.numerator * b.denominator < 0 := Int.mul_neg_of_neg_of_pos negative right.positive
  have high : 0 < b.numerator * a.denominator := Int.mul_pos positive left.positive
  exact (cmp_eq_lt_iff _ _).2 (low.trans high)

/-- Two calls settle opposite proper fractions: the reciprocals are told apart by their integer parts, in
the order of the fractions themselves, and the first call turns that order round. -/
theorem compareWithin_opposed {a b : Rational} (left : Normal a) (right : Normal b) (opposed : Opposed a b)
    (fuel : Nat) : compareWithin (fuel + 2) a b = some (crossOrder a b).swap := by
  obtain ⟨signs, properA, properB, overflows⟩ := opposed
  obtain ⟨zeroA, restA⟩ := left.proper properA
  obtain ⟨zeroB, restB⟩ := right.proper properB
  have nonzeroA : a.remainder ≠ 0 := by omega
  have nonzeroB : b.remainder ≠ 0 := by omega
  have normalA := left.reciprocal_normal nonzeroA
  have normalB := right.reciprocal_normal nonzeroB
  have sideA := left.reciprocal_quotient nonzeroA
  have sideB := right.reciprocal_quotient nonzeroB
  have kept : crossOrder (reciprocal a) (reciprocal b) = crossOrder a b := by
    rcases signs with ⟨negative, positive⟩ | ⟨positive, negative⟩
    · have below := cross_lt_of_quotient_lt normalA normalB (by omega)
      exact ((cmp_eq_lt_iff _ _).2 below).trans (crossOrder_of_signs left right negative positive).symm
    · have below := cross_lt_of_quotient_lt normalB normalA (by omega)
      have turned : crossOrder a b = .gt := by
        rw [crossOrder, ← cmp_swap]
        exact congrArg Ordering.swap (crossOrder_of_signs right left negative positive)
      exact ((cmp_eq_gt_iff _ _).2 below).trans turned.symm
  rw [compareWithin_succ left right, if_neg overflows, if_neg (not_not.2 (zeroA.trans zeroB.symm)),
    compareWithin_quotients normalA normalB fuel (by omega), Option.map_some, reversed_eq, kept]

/-- The comparison always ends, and its answer is the order of the two fractions unless they are opposed. -/
theorem compareWithin_spec {fuel : Nat} {a b : Rational} (left : Normal a) (right : Normal b)
    (deep : a.denominator < fuel) :
    compareWithin fuel a b = some (if Opposed a b then (crossOrder a b).swap else crossOrder a b) := by
  by_cases opposed : Opposed a b
  · have positive := left.positive
    obtain ⟨rest, enough⟩ : ∃ rest, fuel = rest + 2 := ⟨fuel - 2, by omega⟩
    rw [if_pos opposed, enough, compareWithin_opposed left right opposed]
  rw [if_neg opposed]
  by_cases side : SameSide a b
  · exact compareWithin_sameSide left right side deep
  have positive := left.positive
  obtain ⟨rest, enough⟩ : ∃ rest, fuel = rest + 1 := ⟨fuel - 1, by omega⟩
  rw [enough]
  by_cases differ : a.quotient ≠ b.quotient
  · exact compareWithin_quotients left right rest differ
  have fits : CrossFits a b := by
    by_contra overflows
    have partsA := left.parts
    have partsB := right.parts
    unfold SameSide at side
    have zero : a.quotient = 0 ∧ b.quotient = 0 := by
      have := partsA.above
      have := partsA.below
      have := partsB.above
      have := partsB.below
      omega
    have sumA := partsA.sum
    have sumB := partsB.sum
    rw [zero.1, Int.mul_zero, Int.zero_add] at sumA
    rw [zero.2, Int.mul_zero, Int.zero_add] at sumB
    have shortA := partsA.short
    have shortB := partsB.short
    exact opposed ⟨by omega, by omega, by omega, overflows⟩
  rw [compareWithin_succ left right, if_pos fits]

end Rational

open Rational

/-- The number that the constructor keeps of a fraction: zero where it gives up. -/
def keptNumber (numerator denominator : Int) : ℚ :=
  if Collapsed numerator denominator then 0 else (numerator : ℚ) / denominator

theorem make_spec {numerator denominator : Int} (fitsN : InInt64 numerator) (fitsD : InInt64 denominator)
    (nonzero : denominator ≠ 0) : Normal (make numerator denominator) ∧
      (make numerator denominator).value = keptNumber numerator denominator := by
  unfold keptNumber
  by_cases collapsed : Collapsed numerator denominator
  · rw [if_pos collapsed, make_collapsed collapsed]
    exact ⟨⟨by decide, by decide, by decide, by decide⟩, by norm_num [value]⟩
  · rw [if_neg collapsed]
    exact make_kept fitsN fitsD nonzero collapsed

theorem keptNumber_of_numerator {numerator denominator : Int}
    (nonzero : (make numerator denominator).numerator ≠ 0) :
    keptNumber numerator denominator = (numerator : ℚ) / denominator := by
  apply if_neg
  intro collapsed
  rw [make_collapsed collapsed] at nonzero
  exact nonzero rfl

theorem crossOrder_opposed {a b : Rational} (left : Normal a) (right : Normal b) (opposed : Opposed a b) :
    (crossOrder a b).swap ≠ crossOrder a b := by
  rcases opposed.1 with ⟨negative, positive⟩ | ⟨positive, negative⟩
  · rw [crossOrder_of_signs left right negative positive]
    decide
  · have turned : (crossOrder a b).swap = .lt :=
      (cmp_swap _ _).trans (crossOrder_of_signs right left negative positive)
    rw [turned]
    intro same
    rw [← same] at turned
    cases turned

/-- The comparison ends with the order of the two numbers exactly when the constructor keeps that order and
the two fractions are not opposed. -/
theorem compared_exactly_iff {n d m e : Int} (left : InInt64 n ∧ InInt64 d ∧ d ≠ 0)
    (right : InInt64 m ∧ InInt64 e ∧ e ≠ 0) :
    (∀ fuel : Nat, (make n d).denominator < fuel →
      compareWithin fuel (make n d) (make m e) = some (cmp ((n : ℚ) / d) ((m : ℚ) / e))) ↔
    ¬ Opposed (make n d) (make m e) ∧
      cmp (keptNumber n d) (keptNumber m e) = cmp ((n : ℚ) / d) ((m : ℚ) / e) := by
  obtain ⟨normalA, valueA⟩ := make_spec left.1 left.2.1 left.2.2
  obtain ⟨normalB, valueB⟩ := make_spec right.1 right.2.1 right.2.2
  have kept : crossOrder (make n d) (make m e) = cmp (keptNumber n d) (keptNumber m e) := by
    rw [crossOrder_eq normalA.positive normalB.positive, valueA, valueB]
  constructor
  · intro exact
    have positive := normalA.positive
    have answer := exact ((make n d).denominator.toNat + 1) (by omega)
    rw [compareWithin_spec normalA normalB (by omega)] at answer
    by_cases opposed : Opposed (make n d) (make m e)
    · exfalso
      have signs := opposed.1
      rw [if_pos opposed] at answer
      rw [keptNumber_of_numerator (by omega), keptNumber_of_numerator (by omega)] at kept
      exact crossOrder_opposed normalA normalB opposed ((Option.some.inj answer).trans kept.symm)
    · rw [if_neg opposed, kept] at answer
      exact ⟨opposed, Option.some.inj answer⟩
  · rintro ⟨opposed, same⟩ fuel deep
    rw [compareWithin_spec normalA normalB deep, if_neg opposed, kept, same]

/-- Cross products past the range, and fractions on one side of zero. -/
theorem compared_exactly_iff_large : ¬ CrossFits (make int64Max 2) (make (int64Max - 2) 3) ∧
    ∀ fuel : Nat, 2 < fuel → compareWithin fuel (make int64Max 2) (make (int64Max - 2) 3) =
      some (cmp ((int64Max : ℚ) / (2 : Int)) (((int64Max - 2 : Int) : ℚ) / (3 : Int))) := by
  have left : make int64Max 2 = ⟨int64Max, 2⟩ := make_eq (by decide) (by decide +kernel)
  have right : make (int64Max - 2) 3 = ⟨int64Max - 2, 3⟩ := make_eq (by decide) (by decide +kernel)
  have opposed : ¬ Opposed (make int64Max 2) (make (int64Max - 2) 3) := by
    rw [left, right]
    decide
  have kept : cmp (keptNumber int64Max 2) (keptNumber (int64Max - 2) 3) =
      cmp ((int64Max : ℚ) / (2 : Int)) (((int64Max - 2 : Int) : ℚ) / (3 : Int)) := by
    rw [keptNumber, keptNumber, if_neg (by decide), if_neg (by decide)]
  refine ⟨by rw [left, right]; decide, ?_⟩
  intro fuel deep
  refine (compared_exactly_iff (by decide) (by decide)).mpr ⟨opposed, kept⟩ fuel ?_
  rw [left]
  show (2 : Int) < fuel
  omega

/-- A negative fraction next to zero comes out greater than two thirds. -/
theorem small_negative_above_positive : InInt64 (-1) ∧ InInt64 int64Max ∧ InInt64 2 ∧ InInt64 3 ∧
    make (-1) int64Max = ⟨-1, int64Max⟩ ∧ make 2 3 = ⟨2, 3⟩ ∧
    (∀ fuel : Nat, compareWithin (fuel + 2) (make (-1) int64Max) (make 2 3) = some .gt) ∧
    cmp (((-1 : Int) : ℚ) / int64Max) ((2 : Int) / (3 : Int)) = .lt := by
  have left : make (-1) int64Max = ⟨-1, int64Max⟩ := make_eq (by decide) (by decide +kernel)
  have right : make 2 3 = ⟨2, 3⟩ := make_eq (by decide) (by decide +kernel)
  have normalA : Normal ⟨-1, int64Max⟩ := ⟨by decide, by decide +kernel, by decide, by decide⟩
  have normalB : Normal ⟨2, 3⟩ := ⟨by decide, by decide +kernel, by decide, by decide⟩
  refine ⟨by decide, by decide, by decide, by decide, left, right, ?_, ?_⟩
  · intro fuel
    rw [left, right, compareWithin_opposed normalA normalB (by decide) fuel,
      crossOrder_of_signs normalA normalB (by decide) (by decide)]
    rfl
  · rw [cmp_eq_lt_iff]
    norm_num [int64Max]

end TrafficFabric
