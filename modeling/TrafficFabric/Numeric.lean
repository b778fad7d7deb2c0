import TrafficFabric.Lib.Sums
import Mathlib.Data.Int.Init
import Mathlib.Order.MinMax

set_option autoImplicit false

/- Bandwidth is a 64-bit signed integer in the source. Here it is an `Int`, the
bounds of the machine type are explicit, and a value leaves them only where the
source could overflow as well. -/
namespace TrafficFabric

def int64Max : Int := 9223372036854775807

def int64Min : Int := -9223372036854775808

/-- The values a 64-bit signed variable can hold. -/
def InInt64 (value : Int) : Prop := int64Min ≤ value ∧ value ≤ int64Max

instance (value : Int) : Decidable (InInt64 value) := inferInstanceAs (Decidable (_ ∧ _))

theorem inInt64_one : InInt64 1 := by decide

def addChecked (a b : Int) : Option Int :=
  if 0 < b ∧ int64Max - b < a then none
  else if b < 0 ∧ a < int64Min - b then none
  else some (a + b)

def subChecked (a b : Int) : Option Int :=
  if b = int64Min then if 0 ≤ a then none else some (a - b)
  else addChecked a (-b)

def mulChecked (a b : Int) : Option Int :=
  if a = 0 ∨ b = 0 then some 0
  else if a = -1 then if b = int64Min then none else some (-b)
  else if b = -1 then if a = int64Min then none else some (-a)
  else if 0 < a then
    if 0 < b then if int64Max.tdiv b < a then none else some (a * b)
    else if b < int64Min.tdiv a then none else some (a * b)
  else
    if 0 < b then if a < int64Min.tdiv b then none else some (a * b)
    else if a < int64Max.tdiv b then none else some (a * b)

def divChecked (a b : Int) : Option Int :=
  if b = 0 then none
  else if a = int64Min ∧ b = -1 then none
  else some (a.tdiv b)

def satAdd (a b : Int) : Int :=
  match addChecked a b with
  | some sum => sum
  | none => if 0 < b then int64Max else int64Min

def satMul (a b : Int) : Int :=
  match mulChecked a b with
  | some product => product
  | none => if (a < 0) ≠ (b < 0) then int64Min else int64Max

/-- Fixed-point ratio used for reporting utilisation and moved bandwidth. -/
def permille (part whole : Int) : Int :=
  if whole ≤ 0 then 0
  else
    match mulChecked part 1000 with
    | none => if 0 < part then 1000 else 0
    | some scaled => scaled.tdiv whole

theorem addChecked_of_nonneg {a b : Int} (nonneg : 0 ≤ b) :
    addChecked a b = if int64Max < a + b ∧ 0 < b then none else some (a + b) := by
  unfold addChecked
  by_cases exceeds : int64Max < a + b ∧ 0 < b
  · rw [if_pos (by omega), if_pos exceeds]
  · rw [if_neg (by omega), if_neg (by omega), if_neg exceeds]

theorem satAdd_of_nonneg {a b : Int} (nonneg : 0 ≤ b) (bounded : a ≤ int64Max) :
    satAdd a b = min int64Max (a + b) := by
  unfold satAdd
  rw [addChecked_of_nonneg nonneg]
  by_cases exceeds : int64Max < a + b ∧ 0 < b
  · rw [if_pos exceeds, min_eq_left (by omega)]
    simp [exceeds.2]
  · rw [if_neg exceeds, min_eq_right (by omega)]

theorem satAdd_exact {a b : Int} (nonneg : 0 ≤ b) (fits : a + b ≤ int64Max) :
    satAdd a b = a + b := by
  rw [satAdd_of_nonneg nonneg (by omega), min_eq_right fits]

/-- A saturating sum of non-negative amounts is the exact sum clamped once. -/
theorem foldl_satAdd {α : Type} (amount : α → Int) (items : List α) (start : Int)
    (nonneg : ∀ item ∈ items, 0 ≤ amount item) (bounded : start ≤ int64Max) :
    items.foldl (fun total item => satAdd total (amount item)) start =
      min int64Max (start + (items.map amount).sum) := by
  induction items generalizing start with
  | nil => simpa using (min_eq_right bounded).symm
  | cons item rest ih =>
      have first : 0 ≤ amount item := nonneg item (by simp)
      have later : ∀ other ∈ rest, 0 ≤ amount other := fun other member =>
        nonneg other (List.mem_cons_of_mem _ member)
      have remaining := sum_map_nonneg amount rest later
      rw [List.foldl_cons, satAdd_of_nonneg first bounded,
        ih (min int64Max (start + amount item)) later (min_le_left _ _)]
      simp only [List.map_cons, List.sum_cons]
      omega

theorem mulChecked_of_nonneg {a b : Int} (left : 0 ≤ a) (right : 0 ≤ b)
    (fits : a * b ≤ int64Max) : mulChecked a b = some (a * b) := by
  unfold mulChecked
  by_cases zero : a = 0 ∨ b = 0
  · rw [if_pos zero]
    rcases zero with rfl | rfl <;> simp
  · have leftPositive : 0 < a := by omega
    have rightPositive : 0 < b := by omega
    rw [if_neg zero, if_neg (by omega), if_neg (by omega), if_pos leftPositive, if_pos rightPositive,
      if_neg]
    rw [Int.tdiv_eq_ediv_of_nonneg (by decide), not_lt]
    exact (Int.le_ediv_iff_mul_le rightPositive).mpr fits

end TrafficFabric
