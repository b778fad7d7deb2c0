import TrafficFabric.DerivedDemand

set_option autoImplicit false

namespace TrafficFabric

/-- Where the bandwidth of an active reservation went. -/
inductive Disposition
  | displaced
  | obligation (demand : DemandId)
  | residual
deriving DecidableEq

/-- The disposition an accounting entry records. -/
def ReservationAccounting.recordedDisposition (entry : ReservationAccounting) : Disposition :=
  if entry.displaceable then .displaced
  else if entry.chargedTo.valid then .obligation entry.chargedTo
  else .residual

def AttachedToDemand (snapshot : FabricSnapshot) (reservation : Reservation) : Prop :=
  ∃ demand ∈ snapshot.demands,
    demand.id = reservation.owner ∨ reservation.id ∈ demand.reservationBindings

/-- What has to be true for a disposition to be a legitimate one. -/
def Justified (snapshot : FabricSnapshot) (derived : Derivation) (reservation : Reservation) :
    Disposition → Prop
  | .displaced => snapshot.policy.allowPreemption = true ∧
      (reservation.preemptibility = .preemptible ∨
        reservation.preemptibility = .preemptibleWithAuthority ∧
          AttachedToDemand snapshot reservation)
  | .obligation claimant => ∃! entry, entry ∈ derived.demands ∧ entry.demand = claimant ∧
      entry.active = true ∧ entry.reservationObligation ≤ entry.floor
  | .residual => ∀ resource ∈ reservation.resources,
      ∃ entry ∈ derived.residuals, entry.resource = resource

abbrev RecordedReservation := Reservation × ReservationAccounting

/-- The reservations beside the accounting entries `derive` recorded for them. -/
def recordedReservations (snapshot : FabricSnapshot) (derived : Derivation) :
    List RecordedReservation :=
  snapshot.reservations.reservations.zip derived.reservations

def RecordedReservation.residualShare (tick : UInt64) (resource : ResourceId)
    (recorded : RecordedReservation) : Int :=
  if recorded.1.effective.covers tick = true ∧ recorded.2.recordedDisposition = .residual ∧
      resource ∈ recorded.1.resources then recorded.1.bandwidth else 0

def RecordedReservation.obligationShare (tick : UInt64) (demand : DemandId)
    (recorded : RecordedReservation) : Int :=
  if recorded.1.effective.covers tick = true ∧
      recorded.2.recordedDisposition = .obligation demand then recorded.1.bandwidth else 0

/-- Every active reservation has one recorded, justified disposition, and the published
amounts are exactly the sums of the recorded charges. -/
structure ReservationsAccounted (snapshot : FabricSnapshot) (derived : Derivation) : Prop where
  once : derived.reservations.map ReservationAccounting.reservation =
    snapshot.reservations.reservations.map Reservation.id
  justified : ∀ recorded ∈ recordedReservations snapshot derived,
    recorded.1.effective.covers snapshot.evaluationTick = true →
      Justified snapshot derived recorded.1 recorded.2.recordedDisposition
  reserved : ∀ entry ∈ derived.residuals,
    ((recordedReservations snapshot derived).map
      (RecordedReservation.residualShare snapshot.evaluationTick entry.resource)).sum ≤ int64Max →
    entry.reserved = ((recordedReservations snapshot derived).map
      (RecordedReservation.residualShare snapshot.evaluationTick entry.resource)).sum
  obligation : ∀ entry ∈ derived.demands,
    ((recordedReservations snapshot derived).map
      (RecordedReservation.obligationShare snapshot.evaluationTick entry.demand)).sum ≤ int64Max →
    entry.reservationObligation = ((recordedReservations snapshot derived).map
      (RecordedReservation.obligationShare snapshot.evaluationTick entry.demand)).sum

/-! The claimant of a reservation. -/

theorem claim_find (owner : OrdMap ReservationId DemandId) (demand held : DemandId)
    (binding wanted : ReservationId) (found : (claim owner demand binding).find? wanted = some held) :
    wanted = binding ∧ held = demand ∨ owner.find? wanted = some held := by
  unfold claim at found
  cases present : owner.find? binding with
  | none =>
      simp only [present, OrdMap.find?_insert] at found
      split at found
      · rename_i same
        exact Or.inl ⟨same, (Option.some.inj found).symm⟩
      · exact Or.inr found
  | some old =>
      simp only [present] at found
      split at found
      · rw [OrdMap.find?_insert] at found
        split at found
        · rename_i same
          exact Or.inl ⟨same, (Option.some.inj found).symm⟩
        · exact Or.inr found
      · exact Or.inr found

theorem claim_bindings (bindings : List ReservationId) (owner : OrdMap ReservationId DemandId)
    (demand held : DemandId) (wanted : ReservationId)
    (found : (bindings.foldl (fun owner binding => claim owner demand binding) owner).find? wanted =
      some held) :
    wanted ∈ bindings ∧ held = demand ∨ owner.find? wanted = some held := by
  induction bindings generalizing owner with
  | nil => exact Or.inr found
  | cons binding rest ih =>
      rcases ih (claim owner demand binding) found with ⟨member, same⟩ | earlier
      · exact Or.inl ⟨List.mem_cons_of_mem _ member, same⟩
      · rcases claim_find owner demand held binding wanted earlier with ⟨rfl, same⟩ | old
        · exact Or.inl ⟨List.mem_cons_self, same⟩
        · exact Or.inr old

/-- The binding owner of a reservation is a demand that binds it. -/
theorem bindingOwner_sound (demands : List Demand) (wanted : ReservationId) (held : DemandId)
    (found : (bindingOwner demands).find? wanted = some held) :
    ∃ demand ∈ demands, demand.id = held ∧ wanted ∈ demand.reservationBindings := by
  have general : ∀ (items : List Demand) (owner : OrdMap ReservationId DemandId),
      (items.foldl (fun owner demand => demand.reservationBindings.foldl
        (fun owner binding => claim owner demand.id binding) owner) owner).find? wanted = some held →
      (∃ demand ∈ items, demand.id = held ∧ wanted ∈ demand.reservationBindings) ∨
        owner.find? wanted = some held := by
    intro items
    induction items with
    | nil => exact fun owner present => Or.inr present
    | cons demand rest ih =>
        intro owner present
        rcases ih _ present with ⟨other, member, facts⟩ | earlier
        · exact Or.inl ⟨other, List.mem_cons_of_mem _ member, facts⟩
        · rcases claim_bindings demand.reservationBindings owner demand.id held wanted earlier with
            ⟨bound, same⟩ | old
          · exact Or.inl ⟨demand, List.mem_cons_self, same.symm, bound⟩
          · exact Or.inr old
  rcases general demands OrdMap.empty found with present | absent
  · exact present
  · cases absent

theorem owned_iff (snapshot : FabricSnapshot) (reservation : Reservation) :
    owned snapshot reservation = true ↔
      reservation.owner.valid = true ∧ ∃ demand ∈ snapshot.demands, demand.id = reservation.owner := by
  simp [owned]

theorem displaceable_justified (snapshot : FabricSnapshot) (derived : Derivation)
    (reservation : Reservation) (moved : displaceable snapshot reservation = true) :
    Justified snapshot derived reservation .displaced := by
  simp only [displaceable, Bool.and_eq_true] at moved
  obtain ⟨allowed, permitted⟩ := moved
  refine ⟨allowed, ?_⟩
  cases preemptible : reservation.preemptibility with
  | notPreemptible => simp [policyPermitsPreemption, allowed, preemptible] at permitted
  | preemptible => exact Or.inl rfl
  | preemptibleWithAuthority =>
      refine Or.inr ⟨rfl, ?_⟩
      simp only [policyPermitsPreemption, allowed, preemptible, Bool.not_true, Bool.false_eq_true,
        ↓reduceIte, Bool.or_eq_true] at permitted
      rcases permitted with bound | mine
      · obtain ⟨held, found⟩ := Option.isSome_iff_exists.mp bound
        obtain ⟨demand, member, -, bindings⟩ := bindingOwner_sound _ _ _ found
        exact ⟨demand, member, Or.inr bindings⟩
      · obtain ⟨-, demand, member, same⟩ := (owned_iff snapshot reservation).mp mine
        exact ⟨demand, member, Or.inl same⟩

/-! What the published derivation records. -/

theorem recordedReservations_eq (snapshot : FabricSnapshot) :
    recordedReservations snapshot (derivation snapshot) =
      snapshot.reservations.reservations.map
        (fun reservation => (reservation, accountingOf snapshot reservation)) := by
  unfold recordedReservations derivation
  induction snapshot.reservations.reservations with
  | nil => rfl
  | cons reservation rest ih => simpa using ih

theorem recordedDisposition_accountingOf (snapshot : FabricSnapshot) (reservation : Reservation)
    (active : reservation.effective.covers snapshot.evaluationTick = true) :
    (accountingOf snapshot reservation).recordedDisposition =
      if displaceable snapshot reservation = true then .displaced
      else if (chargedTo snapshot reservation).valid = true then
        .obligation (chargedTo snapshot reservation)
      else .residual := by
  have absent : (default : DemandId).valid = false := rfl
  unfold accountingOf ReservationAccounting.recordedDisposition
  by_cases moved : displaceable snapshot reservation = true
  · simp [active, moved]
  · by_cases claimed : (chargedTo snapshot reservation).valid = true
    · simp [active, moved, claimed]
    · simp [active, moved, claimed, absent]

theorem residualShare_accountingOf (snapshot : FabricSnapshot) (resource : ResourceId)
    (reservation : Reservation) :
    RecordedReservation.residualShare snapshot.evaluationTick resource
      (reservation, accountingOf snapshot reservation) =
        resourceCharge snapshot resource reservation := by
  unfold RecordedReservation.residualShare resourceCharge
  by_cases active : reservation.effective.covers snapshot.evaluationTick = true
  · simp only [recordedDisposition_accountingOf snapshot reservation active, active, true_and]
    by_cases moved : displaceable snapshot reservation = true
    · simp [moved]
    · by_cases claimed : (chargedTo snapshot reservation).valid = true
      · simp [moved, claimed]
      · simp [moved, claimed]
  · simp [active]

theorem obligationShare_accountingOf (snapshot : FabricSnapshot) (demand : DemandId)
    (reservation : Reservation) :
    RecordedReservation.obligationShare snapshot.evaluationTick demand
      (reservation, accountingOf snapshot reservation) =
        demandCharge snapshot demand reservation := by
  unfold RecordedReservation.obligationShare demandCharge
  by_cases active : reservation.effective.covers snapshot.evaluationTick = true
  · simp only [recordedDisposition_accountingOf snapshot reservation active, active, true_and]
    by_cases moved : displaceable snapshot reservation = true
    · simp [moved]
    · by_cases claimed : (chargedTo snapshot reservation).valid = true
      · simp [moved, claimed]
      · simp [moved, claimed]
  · simp [active]

/-! When the accounting is complete. -/

/-- No reservation that has to be honoured is claimed by a demand outside its interval. -/
def ClaimantsActive (snapshot : FabricSnapshot) : Prop :=
  ∀ reservation ∈ snapshot.reservations.reservations,
    reservation.effective.covers snapshot.evaluationTick = true →
    displaceable snapshot reservation = false →
    (chargedTo snapshot reservation).valid = true →
    ∃ demand ∈ snapshot.demands, demand.id = chargedTo snapshot reservation ∧
      demand.effective.covers snapshot.evaluationTick = true

theorem demand_eq_of_id {snapshot : FabricSnapshot} (accepted : Accepted snapshot)
    {first second : Demand} (left : first ∈ snapshot.demands) (right : second ∈ snapshot.demands)
    (same : first.id = second.id) : first = second :=
  List.inj_on_of_nodup_map accepted.demand_checks.2 left right same

theorem obligation_justified_iff {snapshot : FabricSnapshot} (accepted : Accepted snapshot)
    (reservation : Reservation) (claimant : DemandId) :
    Justified snapshot (derivation snapshot) reservation (.obligation claimant) ↔
      ∃ demand ∈ snapshot.demands, demand.id = claimant ∧
        demand.effective.covers snapshot.evaluationTick = true := by
  constructor
  · rintro ⟨entry, ⟨member, same, active, -⟩, -⟩
    obtain ⟨demand, inside, rfl⟩ := List.mem_map.mp member
    rw [derivedDemand_demand] at same
    rw [derivedDemand_active] at active
    exact ⟨demand, inside, same, active⟩
  · rintro ⟨demand, inside, same, active⟩
    refine ⟨derivedDemand snapshot demand, ⟨List.mem_map.mpr ⟨demand, inside, rfl⟩, ?_, ?_, ?_⟩, ?_⟩
    · rw [derivedDemand_demand, same]
    · rw [derivedDemand_active, active]
    · rw [derivedDemand_reservationObligation, derivedDemand_floor]
      exact le_max_right _ _
    · rintro entry ⟨member, other, -, -⟩
      obtain ⟨rival, rivalInside, rfl⟩ := List.mem_map.mp member
      rw [derivedDemand_demand] at other
      rw [demand_eq_of_id accepted rivalInside inside (other.trans same.symm)]

theorem residual_justified {snapshot : FabricSnapshot} (accepted : Accepted snapshot)
    {reservation : Reservation} (member : reservation ∈ snapshot.reservations.reservations) :
    Justified snapshot (derivation snapshot) reservation .residual := by
  intro resource bound
  have known := accepted.reservation_resources_known member resource bound
  obtain ⟨source, inside, same⟩ := List.mem_map.mp known
  exact ⟨publishedResidual snapshot source, List.mem_map.mpr ⟨source, inside, rfl⟩, same⟩

/-- Reservation accounting is exact, and it is complete precisely when no honoured
reservation is claimed by a demand that is not active at the evaluation tick. -/
theorem reservationsAccounted_iff {snapshot : FabricSnapshot} {derived : Derivation}
    (accepted : Accepted snapshot) (success : derive snapshot = .ok derived) :
    ReservationsAccounted snapshot derived ↔ ClaimantsActive snapshot := by
  obtain ⟨-, rfl⟩ := (derive_eq_ok accepted derived).mp success
  constructor
  · intro accounted reservation member active kept claimed
    have recorded : (reservation, accountingOf snapshot reservation) ∈
        recordedReservations snapshot (derivation snapshot) := by
      rw [recordedReservations_eq]
      exact List.mem_map.mpr ⟨reservation, member, rfl⟩
    have justified := accounted.justified _ recorded active
    rw [recordedDisposition_accountingOf snapshot reservation active, if_neg (by simp [kept]),
      if_pos claimed] at justified
    exact (obligation_justified_iff accepted reservation _).mp justified
  · intro claimants
    refine ⟨?_, ?_, ?_, ?_⟩
    · simp only [derivation, List.map_map]
      refine List.map_congr_left ?_
      intro reservation _
      simp only [Function.comp_apply, accountingOf]
      split
      · rfl
      · split
        · rfl
        · split <;> rfl
    · intro recorded member active
      rw [recordedReservations_eq] at member
      obtain ⟨reservation, inside, rfl⟩ := List.mem_map.mp member
      rw [recordedDisposition_accountingOf snapshot reservation active]
      split
      · rename_i moved
        exact displaceable_justified snapshot _ reservation moved
      · rename_i kept
        split
        · rename_i claimed
          exact (obligation_justified_iff accepted reservation _).mpr
            (claimants reservation inside active (by simpa using kept) claimed)
        · exact residual_justified accepted inside
    · intro entry member fits
      obtain ⟨resource, -, rfl⟩ := List.mem_map.mp member
      simp only [recordedReservations_eq, List.map_map, Function.comp_def,
        residualShare_accountingOf] at fits ⊢
      exact min_eq_right fits
    · intro entry member fits
      obtain ⟨demand, -, rfl⟩ := List.mem_map.mp member
      simp only [recordedReservations_eq, List.map_map, Function.comp_def,
        obligationShare_accountingOf] at fits ⊢
      rw [derivedDemand_reservationObligation]
      rw [derivedDemand_demand] at fits ⊢
      exact min_eq_right fits

/-- A reservation of the link held for its demand. -/
def linkReservation : Reservation :=
  { id := named "reservation-1"
    generation := Gen.first
    provenance := linkProvenance
    resources := [named "link-1"]
    bandwidth := 60
    owner := named "demand-1" }

def reservedFabric : FabricSnapshot :=
  { linkFabric with
    reservations := { linkFabric.reservations with reservations := [linkReservation] } }

theorem reservationsAccounted_iff_reservedFabric :
    Accepted reservedFabric ∧ ∃ derived, derive reservedFabric = .ok derived ∧
      (ReservationsAccounted reservedFabric derived ↔ ClaimantsActive reservedFabric) := by
  have accepted : Accepted reservedFabric :=
    accepted_of_checks reservedFabric (by decide +kernel) (by decide +kernel)
  have success : derive reservedFabric = .ok (derivation reservedFabric) :=
    (derive_eq_ok accepted _).mpr ⟨by decide +kernel, rfl⟩
  exact ⟨accepted, _, success, reservationsAccounted_iff accepted success⟩

/-- The owner's interval ended before the evaluation tick; the reservation's did not. -/
def lapsedOwnerFabric : FabricSnapshot :=
  { reservedFabric with
    demands := [{ linkDemand with
      effective := { startTick := 1, endTick := 2, openEnded := false } }]
    evaluationTick := 5 }

theorem lapsedOwnerFabric_not_accounted :
    Accepted lapsedOwnerFabric ∧ ∃ derived, derive lapsedOwnerFabric = .ok derived ∧
      ¬ ReservationsAccounted lapsedOwnerFabric derived := by
  have accepted : Accepted lapsedOwnerFabric :=
    accepted_of_checks lapsedOwnerFabric (by decide +kernel) (by decide +kernel)
  have success : derive lapsedOwnerFabric = .ok (derivation lapsedOwnerFabric) :=
    (derive_eq_ok accepted _).mpr ⟨by decide +kernel, rfl⟩
  refine ⟨accepted, _, success, ?_⟩
  intro accounted
  have recorded : (linkReservation, accountingOf lapsedOwnerFabric linkReservation) ∈
      recordedReservations lapsedOwnerFabric (derivation lapsedOwnerFabric) := by
    rw [recordedReservations_eq]
    exact List.mem_map.mpr ⟨linkReservation, by simp [lapsedOwnerFabric, reservedFabric], rfl⟩
  have justified := accounted.justified _ recorded (by decide +kernel)
  have charged : (accountingOf lapsedOwnerFabric linkReservation).recordedDisposition =
      .obligation (named "demand-1") := by decide +kernel
  rw [charged] at justified
  obtain ⟨demand, member, -, active⟩ :=
    (obligation_justified_iff accepted linkReservation _).mp justified
  rw [show lapsedOwnerFabric.demands = [{ linkDemand with
    effective := { startTick := 1, endTick := 2, openEnded := false } }] from rfl,
    List.mem_singleton] at member
  subst member
  exact absurd active (by decide +kernel)

end TrafficFabric
