import TrafficFabric.Construction

set_option autoImplicit false

/- What a call of the solver comes down to. An outcome is a refusal without an allocation or the plan of
a constructed problem, and the snapshot alone decides which. -/
namespace TrafficFabric

/-- The utilisation search runs. -/
def searchesCeiling (snapshot : FabricSnapshot) (derived : Derivation) : Bool :=
  !reservationConflict derived && hasTerm snapshot.objective.terms .minimizeMaxUtilization

/-- The ceiling the construction starts from; zero when the search finds none. -/
def startingCeiling (snapshot : FabricSnapshot) (derived : Derivation) : Int :=
  if searchesCeiling snapshot derived then
    tightestCeiling (makeProblem snapshot derived) Limits.maxMaxUtilizationProbes 1
      snapshot.policy.maxUtilizationPermille 0
  else snapshot.policy.maxUtilizationPermille

def SupportedWeights (snapshot : FabricSnapshot) : Prop :=
  ∀ term ∈ snapshot.objective.terms, 0 ≤ term.weight

/-- The solver gets as far as an allocation. -/
structure Constructs (snapshot : FabricSnapshot) (derived : Derivation) : Prop where
  weights : SupportedWeights snapshot
  ceiling : startingCeiling snapshot derived ≠ 0

theorem startingCeiling_range {snapshot : FabricSnapshot} (accepted : Accepted snapshot)
    (derived : Derivation) :
    0 ≤ startingCeiling snapshot derived ∧
      startingCeiling snapshot derived ≤ snapshot.policy.maxUtilizationPermille := by
  have cap := accepted.policy_cap
  have range := tightestCeiling_range (makeProblem snapshot derived) Limits.maxMaxUtilizationProbes 1
    snapshot.policy.maxUtilizationPermille 0
  unfold startingCeiling
  split
  · omega
  · omega

theorem supportedWeights_iff (snapshot : FabricSnapshot) : SupportedWeights snapshot ↔
    snapshot.objective.terms.find? (fun term => decide (term.weight < 0)) = none := by
  rw [List.find?_eq_none]
  simp [SupportedWeights]

section Outcomes

variable {snapshot : FabricSnapshot} {derived : Derivation} {options : SolveOptions}

theorem solve_eq_ok {outcome : SolveOutcome} (derives : derive snapshot = .ok derived)
    (solved : solve snapshot options = .ok outcome) :
    0 < options.maxIterations ∧ outcome = solveDerived snapshot derived options := by
  unfold solve at solved
  split at solved
  · cases solved
  · rw [derives] at solved
    exact ⟨by omega, (Except.ok.inj solved).symm⟩

/-- What cannot be derived is not solved. -/
theorem derives_of_solve {outcome : SolveOutcome} (solved : solve snapshot options = .ok outcome) :
    ∃ derived, derive snapshot = .ok derived := by
  cases derives : derive snapshot with
  | ok derived => exact ⟨derived, rfl⟩
  | error reason =>
      unfold solve at solved
      rw [derives] at solved
      split at solved
      · cases solved
      · cases solved

theorem solve_of_derives (derives : derive snapshot = .ok derived) (budget : 0 < options.maxIterations) :
    solve snapshot options = .ok (solveDerived snapshot derived options) := by
  unfold solve
  rw [if_neg (by omega), derives]

/-- A negative weight is refused before anything is looked at. -/
theorem solveDerived_unsupported (weights : ¬ SupportedWeights snapshot) (derived : Derivation)
    (options : SolveOptions) :
    (solveDerived snapshot derived options).status = .unsupportedObjective ∧
      (solveDerived snapshot derived options).allocation = default := by
  rw [supportedWeights_iff] at weights
  obtain ⟨term, found⟩ := Option.ne_none_iff_exists'.mp weights
  unfold solveDerived
  rw [found]
  exact ⟨rfl, rfl⟩

/-- With supported weights, all that can stop the solver is the utilisation search. -/
theorem solveDerived_supported (weights : SupportedWeights snapshot) (options : SolveOptions) :
    solveDerived snapshot derived options =
      if startingCeiling snapshot derived = 0 ∧ searchesCeiling snapshot derived = true then
        searchRefusal snapshot derived (makeProblem snapshot derived)
      else plan snapshot derived options (startingCeiling snapshot derived)
        (reservationConflict derived) := by
  unfold solveDerived
  rw [(supportedWeights_iff snapshot).mp weights]
  dsimp only
  change (if searchesCeiling snapshot derived = true then _ else _) = _
  unfold startingCeiling
  by_cases searched : searchesCeiling snapshot derived = true
  · simp only [searched, ↓reduceIte, and_true]
  · simp only [searched, ↓reduceIte, and_false, Bool.false_eq_true]

theorem searchRefusal_refused (snapshot : FabricSnapshot) (derived : Derivation) (problem : Problem) :
    (searchRefusal snapshot derived problem).allocation = default ∧
      ((searchRefusal snapshot derived problem).status = .infeasiblePolicy ∨
        (searchRefusal snapshot derived problem).status = .infeasibleCapacity) := by
  unfold searchRefusal refusal
  dsimp only
  split
  · exact ⟨rfl, Or.inl rfl⟩
  · exact ⟨rfl, Or.inr rfl⟩

theorem solveDerived_constructs (constructs : Constructs snapshot derived) (options : SolveOptions) :
    solveDerived snapshot derived options =
      plan snapshot derived options (startingCeiling snapshot derived) (reservationConflict derived) := by
  rw [solveDerived_supported constructs.weights, if_neg fun both => constructs.ceiling both.1]

/-- With supported weights only the search for a ceiling refuses. -/
theorem search_of_refuses (accepted : Accepted snapshot) (refuses : ¬ Constructs snapshot derived)
    (weights : SupportedWeights snapshot) (options : SolveOptions) : solveDerived snapshot derived options =
      searchRefusal snapshot derived (makeProblem snapshot derived) := by
  have zero : startingCeiling snapshot derived = 0 := by
    by_contra nonzero
    exact refuses ⟨weights, nonzero⟩
  have cap := accepted.policy_cap
  have searched : searchesCeiling snapshot derived = true := by
    by_contra unsearched
    unfold startingCeiling at zero
    rw [if_neg unsearched] at zero
    omega
  rw [solveDerived_supported weights, if_pos ⟨zero, searched⟩]

/-- A refusal carries no allocation and one of three statuses. -/
theorem solveDerived_refuses (accepted : Accepted snapshot) (refuses : ¬ Constructs snapshot derived)
    (options : SolveOptions) : (solveDerived snapshot derived options).allocation = default ∧
      ((solveDerived snapshot derived options).status = .unsupportedObjective ∨
        (solveDerived snapshot derived options).status = .infeasiblePolicy ∨
        (solveDerived snapshot derived options).status = .infeasibleCapacity) := by
  by_cases weights : SupportedWeights snapshot
  · rw [search_of_refuses accepted refuses weights]
    obtain ⟨allocation, status⟩ := searchRefusal_refused snapshot derived (makeProblem snapshot derived)
    exact ⟨allocation, Or.inr status⟩
  · obtain ⟨status, allocation⟩ := solveDerived_unsupported weights derived options
    exact ⟨allocation, Or.inl status⟩

theorem solveDerived_refuses_score (accepted : Accepted snapshot) (refuses : ¬ Constructs snapshot derived)
    (options : SolveOptions) : (solveDerived snapshot derived options).score = 0 := by
  by_cases weights : SupportedWeights snapshot
  · rw [search_of_refuses accepted refuses weights]
    unfold searchRefusal refusal
    dsimp only
    split <;> rfl
  · rw [supportedWeights_iff] at weights
    obtain ⟨term, found⟩ := Option.ne_none_iff_exists'.mp weights
    unfold solveDerived
    rw [found]

/-- A plan carries what is read off its constructed problem. -/
theorem plan_allocation (snapshot : FabricSnapshot) (derived : Derivation)
    (options : SolveOptions) (ceiling : Int)
    (conflict : Bool) : ∃ degraded, (plan snapshot derived options ceiling conflict).allocation =
      { buildAllocation options (constructed snapshot derived options ceiling) with
        degraded := degraded } :=
  ⟨_, rfl⟩

end Outcomes

theorem meshFabric_constructs : Constructs meshFabric (derivation meshFabric) :=
  ⟨by unfold SupportedWeights; decide +kernel, by decide +kernel⟩

theorem meshFabric_solved (options : SolveOptions) (budget : 0 < options.maxIterations) :
    solve meshFabric options = .ok (solveDerived meshFabric (derivation meshFabric) options) :=
  solve_of_derives meshFabric_derives budget

end TrafficFabric
