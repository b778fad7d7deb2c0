import Mathlib.Data.List.Basic
import Mathlib.Logic.Function.Iterate

set_option autoImplicit false

/- Reflected shift registers, of any width and with any polynomial. A register is fed one bit at a time,
from the low end; feeding no more bits than it is wide amounts to adding them all at once and then shifting.
-/
namespace ShiftRegister

variable {w : Nat} (polynomial : BitVec w)

/-- One shift: the bit that leaves the register adds the polynomial to it. -/
def step (register : BitVec w) : BitVec w :=
  register >>> 1 ^^^ if register.getLsbD 0 then polynomial else 0#w

/-- A bit at the low end of the register. -/
def entering (bit : Bool) : BitVec w := if bit then 1#w else 0#w

/-- The register after a string of bits. -/
def feed (register : BitVec w) (bits : List Bool) : BitVec w :=
  bits.foldl (fun register bit => step polynomial (register ^^^ entering bit)) register

/-- The bits side by side, the first at the low end. -/
def packed : List Bool → BitVec w
  | [] => 0#w
  | bit :: rest => entering bit ^^^ packed rest <<< 1

/-! Shifting. -/

theorem getLsbD_step (register : BitVec w) (i : Nat) : (step polynomial register).getLsbD i =
    (register.getLsbD (i + 1) ^^ (register.getLsbD 0 && polynomial.getLsbD i)) := by
  unfold step
  cases first : register.getLsbD 0 <;> simp [Nat.add_comm]

theorem step_xor (x y : BitVec w) :
    step polynomial (x ^^^ y) = step polynomial x ^^^ step polynomial y := by
  apply BitVec.eq_of_getLsbD_eq
  intro i _
  simp only [getLsbD_step, BitVec.getLsbD_xor]
  cases x.getLsbD 0 <;> cases y.getLsbD 0 <;> cases polynomial.getLsbD i <;> simp

theorem steps_xor (n : Nat) (x y : BitVec w) :
    (step polynomial)^[n] (x ^^^ y) = (step polynomial)^[n] x ^^^ (step polynomial)^[n] y := by
  induction n generalizing x y with
  | zero => rfl
  | succ n ih => rw [Function.iterate_succ_apply, step_xor, ih, ← Function.iterate_succ_apply,
      ← Function.iterate_succ_apply]

theorem step_of_low_clear {register : BitVec w} (clear : register.getLsbD 0 = false) :
    step polynomial register = register >>> 1 := by
  apply BitVec.eq_of_getLsbD_eq
  intro i _
  rw [getLsbD_step, clear, BitVec.getLsbD_ushiftRight, Nat.add_comm]
  simp

/-- Zeros at the low end leave without a trace. -/
theorem steps_of_low_clear {n : Nat} {register : BitVec w} (clear : ∀ i < n, register.getLsbD i = false) :
    (step polynomial)^[n] register = register >>> n := by
  induction n generalizing register with
  | zero => rfl
  | succ n ih =>
      have rest : ∀ i < n, (register >>> 1).getLsbD i = false := by
        intro i small
        rw [BitVec.getLsbD_ushiftRight]
        exact clear (1 + i) (by omega)
      rw [Function.iterate_succ_apply, step_of_low_clear polynomial (clear 0 (by omega)), ih rest,
        ← BitVec.shiftRight_add, Nat.add_comm]

/-- A shift loses nothing when the polynomial reaches the high end: the bit that left shows there. -/
theorem step_injective (reaches : polynomial.getLsbD (w - 1) = true) :
    Function.Injective (step polynomial) := by
  have kernel (x : BitVec w) (zero : step polynomial x = 0#w) : x = 0#w := by
    have bits (i : Nat) : (x.getLsbD (i + 1) ^^ (x.getLsbD 0 && polynomial.getLsbD i)) = false := by
      rw [← getLsbD_step, zero, BitVec.getLsbD_zero]
    have low : x.getLsbD 0 = false := by
      have high := bits (w - 1)
      rw [reaches, BitVec.getLsbD_of_ge x (w - 1 + 1) (by omega)] at high
      simpa using high
    apply BitVec.eq_of_getLsbD_eq
    intro i _
    rw [BitVec.getLsbD_zero]
    cases i with
    | zero => exact low
    | succ i => simpa [low] using bits i
  intro x y same
  have difference : step polynomial (x ^^^ y) = 0#w := by
    rw [step_xor, same, BitVec.xor_self]
  exact BitVec.xor_eq_zero_iff.1 (kernel _ difference)

/-! Feeding. -/

theorem getLsbD_entering (bit : Bool) (i : Nat) :
    (entering bit : BitVec w).getLsbD i = (decide (i < w) && decide (i = 0) && bit) := by
  unfold entering
  cases bit with
  | false => simp
  | true =>
      rw [if_pos rfl, BitVec.getLsbD_one, Bool.and_true]
      by_cases first : i = 0
      · rw [first]
      · simp [first]

theorem getLsbD_packed (bits : List Bool) (i : Nat) :
    (packed bits : BitVec w).getLsbD i = (decide (i < w) && bits.getD i false) := by
  induction bits generalizing i with
  | nil => simp [packed]
  | cons bit rest ih =>
      rw [packed, BitVec.getLsbD_xor, getLsbD_entering, BitVec.getLsbD_shiftLeft]
      cases i with
      | zero => simp
      | succ i =>
          by_cases inside : i + 1 < w
          · simp [ih, inside, Nat.lt_of_succ_lt inside, -BitVec.getLsbD_eq_getElem]
          · simp [inside]

theorem packed_injective {first second : List Bool} (length : first.length = second.length)
    (short : first.length ≤ w) (same : (packed first : BitVec w) = packed second) : first = second := by
  apply List.ext_getElem length
  intro i inFirst inSecond
  have bit := congrArg (fun register : BitVec w => register.getLsbD i) same
  have inside : i < w := by omega
  simpa only [getLsbD_packed, inside, decide_true, Bool.true_and, List.getD_eq_getElem?_getD,
    List.getElem?_eq_getElem inFirst, List.getElem?_eq_getElem inSecond, Option.getD_some] using bit

theorem feed_append (register : BitVec w) (first second : List Bool) :
    feed polynomial register (first ++ second) = feed polynomial (feed polynomial register first) second :=
  List.foldl_append

/-- What is fed to the register may as well be added to it beforehand. -/
theorem feed_eq_steps {bits : List Bool} (short : bits.length ≤ w) (register : BitVec w) :
    feed polynomial register bits = (step polynomial)^[bits.length] (register ^^^ packed bits) := by
  induction bits generalizing register with
  | nil => simp [feed, packed]
  | cons bit rest ih =>
      rw [List.length_cons] at short
      have kept : packed rest <<< 1 >>> 1 = (packed rest : BitVec w) := by
        apply BitVec.eq_of_getLsbD_eq
        intro i inside
        rw [BitVec.getLsbD_ushiftRight, BitVec.getLsbD_shiftLeft]
        by_cases last : 1 + i < w
        · simp [last]
        · have beyond : rest.length ≤ i := by omega
          simp only [getLsbD_packed, last, decide_false, Bool.false_and,
            List.getD_eq_getElem?_getD, List.getElem?_eq_none beyond, Option.getD_none, Bool.and_false]
      have clear : (packed rest <<< 1 : BitVec w).getLsbD 0 = false := by simp
      have later : packed rest = step polynomial (packed rest <<< 1) := by
        rw [step_of_low_clear polynomial clear, kept]
      show feed polynomial (step polynomial (register ^^^ entering bit)) rest = _
      rw [ih (by omega), later, ← step_xor, BitVec.xor_assoc, List.length_cons, Function.iterate_succ_apply]
      rfl

/-- No more bits than the register is wide can be told from what they leave behind. -/
theorem feed_bits_injective (reaches : polynomial.getLsbD (w - 1) = true) {first second : List Bool}
    (length : first.length = second.length) (short : first.length ≤ w) (register : BitVec w)
    (same : feed polynomial register first = feed polynomial register second) : first = second := by
  rw [feed_eq_steps polynomial short, feed_eq_steps polynomial (length ▸ short), ← length] at same
  have added := (step_injective polynomial reaches).iterate first.length same
  exact packed_injective length short ((BitVec.xor_right_inj _).1 added)

/-- Two registers that differ are still different after the same bits. -/
theorem feed_injective (reaches : polynomial.getLsbD (w - 1) = true) (bits : List Bool) :
    Function.Injective fun register => feed polynomial register bits := by
  induction bits with
  | nil => exact fun _ _ same => same
  | cons bit rest ih =>
      intro x y same
      have stepped := step_injective polynomial reaches (ih same)
      exact (BitVec.xor_left_inj _).1 stepped

/-- A burst is noticed: strings that differ, but only within as many bits as the register is wide, leave
different registers behind. -/
theorem feed_burst (reaches : polynomial.getLsbD (w - 1) = true) (register : BitVec w)
    {before first second after : List Bool} (length : first.length = second.length)
    (short : first.length ≤ w)
    (differ : first ≠ second) : feed polynomial register (before ++ first ++ after) ≠
      feed polynomial register (before ++ second ++ after) := by
  intro same
  rw [feed_append, feed_append, feed_append polynomial register (before ++ second), feed_append] at same
  exact differ
    (feed_bits_injective polynomial reaches length short _ (feed_injective polynomial reaches after same))

end ShiftRegister
