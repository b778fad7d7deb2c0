import Mathlib.Data.List.Basic

set_option autoImplicit false

/- Images that mark their own end. Whatever bytes follow, the image of a value determines a
fact about the value and where the image stops, so images can be concatenated and still be
told apart. -/
namespace TrafficFabric

section PrefixCode

variable {α β γ δ : Type}

/-- Inside any longer word the image of a valid value determines `fact` and its own end. -/
def Delimits (valid : α → Prop) (image : α → List β) (fact : α → γ) : Prop :=
  ∀ first second rest tail, valid first → valid second →
    image first ++ rest = image second ++ tail → fact first = fact second ∧ rest = tail

variable {valid : α → Prop} {image : α → List β} {fact : α → γ}

namespace Delimits

theorem fact_eq (delimits : Delimits valid image fact) {first second : α} (left : valid first)
    (right : valid second) (same : image first = image second) : fact first = fact second :=
  (delimits first second [] [] left right (by rw [same])).1

theorem of_length (width : Nat) (fixed : ∀ value, (image value).length = width)
    (determines : ∀ first second, valid first → valid second → image first = image second →
      fact first = fact second) : Delimits valid image fact := by
  intro first second rest tail left right same
  obtain ⟨equal, ends⟩ := List.append_inj same ((fixed first).trans (fixed second).symm)
  exact ⟨determines first second left right equal, ends⟩

/-- Strips the first image off two equal words. -/
theorem peel (delimits : Delimits valid image fact) {first second : α} {rest tail : List β}
    (left : valid first) (right : valid second)
    (same : image first ++ rest = image second ++ tail) : fact first = fact second ∧ rest = tail :=
  delimits first second rest tail left right same

/-- The image of a field of a larger value. -/
theorem field (delimits : Delimits valid image fact) {whole : δ → Prop} (read : δ → α)
    (inside : ∀ value, whole value → valid (read value)) :
    Delimits whole (fun value => image (read value)) fun value => fact (read value) :=
  fun first second rest tail left right =>
    delimits (read first) (read second) rest tail (inside first left) (inside second right)

theorem determine (delimits : Delimits valid image fact) {other : α → δ}
    (determines : ∀ first second, fact first = fact second → other first = other second) :
    Delimits valid image other := by
  intro first second rest tail left right same
  obtain ⟨equal, ends⟩ := delimits first second rest tail left right same
  exact ⟨determines first second equal, ends⟩

theorem flatMap (delimits : Delimits valid image fact) (first second : List α) (rest tail : List β)
    (lengths : first.length = second.length) (left : ∀ value ∈ first, valid value)
    (right : ∀ value ∈ second, valid value)
    (same : first.flatMap image ++ rest = second.flatMap image ++ tail) :
    first.map fact = second.map fact ∧ rest = tail := by
  induction first generalizing second with
  | nil =>
      have empty : second = [] := List.length_eq_zero_iff.mp lengths.symm
      subst empty
      exact ⟨rfl, same⟩
  | cons head items ih =>
      cases second with
      | nil => cases lengths
      | cons other others =>
          rw [List.flatMap_cons, List.flatMap_cons, List.append_assoc, List.append_assoc] at same
          obtain ⟨heads, later⟩ := delimits head other _ _ (left head List.mem_cons_self)
            (right other List.mem_cons_self) same
          obtain ⟨facts, ends⟩ := ih others (by simpa using lengths)
            (fun value member => left value (List.mem_cons_of_mem _ member))
            (fun value member => right value (List.mem_cons_of_mem _ member)) later
          exact ⟨by rw [List.map_cons, List.map_cons, heads, facts], ends⟩

/-- A sequence whose length is written first. -/
theorem counted (delimits : Delimits valid image fact) {fits : Nat → Prop} {count : Nat → List β}
    (counts : Delimits fits count id) :
    Delimits (fun items : List α => fits items.length ∧ ∀ value ∈ items, valid value)
      (fun items => count items.length ++ items.flatMap image) (List.map fact) := by
  intro first second rest tail left right same
  rw [List.append_assoc, List.append_assoc] at same
  obtain ⟨lengths, later⟩ := counts first.length second.length _ _ left.1 right.1 same
  exact delimits.flatMap first second rest tail lengths left.2 right.2 later

/-- A value that may be absent, behind a tag that says whether it is. -/
theorem tagged (delimits : Delimits valid image fact) (absent present : List β)
    (apart : ∀ rest tail, absent ++ rest ≠ present ++ tail) :
    Delimits (fun value : Option α => ∀ inside ∈ value, valid inside)
      (fun value => value.elim absent fun inside => present ++ image inside) (Option.map fact) := by
  intro first second rest tail left right same
  cases first with
  | none =>
      cases second with
      | none => exact ⟨rfl, List.append_cancel_left same⟩
      | some value =>
          simp only [Option.elim_none, Option.elim_some, List.append_assoc] at same
          exact absurd same (apart _ _)
  | some value =>
      cases second with
      | none =>
          simp only [Option.elim_none, Option.elim_some, List.append_assoc] at same
          exact absurd same.symm (apart _ _)
      | some other =>
          simp only [Option.elim_some, List.append_assoc] at same
          obtain ⟨facts, ends⟩ := delimits value other rest tail (left value rfl) (right other rfl)
            (List.append_cancel_left same)
          exact ⟨congrArg some facts, ends⟩

end Delimits

end PrefixCode

end TrafficFabric
