import Mathlib.Logic.Function.Basic
import Mathlib.Logic.Relation

set_option autoImplicit false

/- Elements that take each other's place: a partial map to the element that was replaced and one to
the element that replaced it, each the inverse of the other. The elements form chains, and a chain
grows only at its newer end. -/
namespace TrafficFabric

variable {K : Type}

structure Succession (older newer : K → Option K) : Prop where
  inverse : ∀ later earlier, older later = some earlier ↔ newer earlier = some later
  grounded : ∃ rank : K → Nat, ∀ later earlier, older later = some earlier → rank earlier < rank later

namespace Succession

variable {older newer : K → Option K}

theorem empty : Succession (fun _ : K => none) (fun _ => none) :=
  ⟨fun _ _ => ⟨nofun, nofun⟩, fun _ => 0, nofun⟩

/-- No element comes before itself. -/
theorem acyclic (succession : Succession older newer) (element : K) :
    ¬ Relation.TransGen (fun later earlier => older later = some earlier) element element := by
  obtain ⟨rank, below⟩ := succession.grounded
  have falls : ∀ first last,
    Relation.TransGen (fun later earlier => older later = some earlier) first last →
      rank last < rank first := by
    intro first last path
    induction path with
    | single step => exact below _ _ step
    | tail _ step ih => exact Nat.lt_trans (below _ _ step) ih
  intro around
  exact Nat.lt_irrefl _ (falls element element around)

/-- One element replaces at most one, and is replaced by at most one. -/
theorem injective (succession : Succession older newer) {first second earlier : K}
    (left : older first = some earlier) (right : older second = some earlier) : first = second := by
  rw [succession.inverse] at left right
  exact Option.some.inj (left.symm.trans right)

/-- An element outside of all chains takes the place of one that is the newest of its chain. -/
theorem link [DecidableEq K] (succession : Succession older newer) {next previous : K}
    (fresh : older next = none ∧ newer next = none) (newest : newer previous = none)
    (other : next ≠ previous) :
    Succession (Function.update older next (some previous))
      (Function.update newer previous (some next)) := by
  obtain ⟨rank, below⟩ := succession.grounded
  have unused : ∀ later, older later ≠ some next := by
    intro later replaced
    rw [succession.inverse, fresh.2] at replaced
    cases replaced
  refine ⟨?_, Function.update rank next (rank previous + 1), ?_⟩
  · intro later earlier
    by_cases here : later = next
    · subst here
      rw [Function.update_self, Option.some.injEq]
      by_cases there : earlier = previous
      · subst there
        rw [Function.update_self]
        exact ⟨fun _ => rfl, fun _ => rfl⟩
      · rw [Function.update_of_ne there, ← succession.inverse, fresh.1]
        exact ⟨fun same => absurd same.symm there, nofun⟩
    · rw [Function.update_of_ne here]
      by_cases there : earlier = previous
      · subst there
        rw [Function.update_self, succession.inverse, newest, Option.some.injEq]
        exact ⟨nofun, fun same => absurd same.symm here⟩
      · rw [Function.update_of_ne there]
        exact succession.inverse later earlier
  · intro later earlier replaced
    by_cases here : later = next
    · subst here
      rw [Function.update_self, Option.some.injEq] at replaced
      subst replaced
      rw [Function.update_self, Function.update_of_ne other.symm]
      exact Nat.lt_succ_self _
    · rw [Function.update_of_ne here] at replaced
      have inside : earlier ≠ next := by
        rintro rfl
        exact unused later replaced
      rw [Function.update_of_ne here, Function.update_of_ne inside]
      exact below later earlier replaced

end Succession

end TrafficFabric
