import TrafficFabric.Accepted
import TrafficFabric.Derived

set_option autoImplicit false

/- The reservation loop in closed form: what each reservation adds to every resource and
to every demand, and therefore what `derive` publishes. -/
namespace TrafficFabric

/-- What the reservation adds to the reserved amount of the resource. -/
def resourceCharge (snapshot : FabricSnapshot) (resource : ResourceId)
    (reservation : Reservation) : Int :=
  if reservation.effective.covers snapshot.evaluationTick = true ∧
      displaceable snapshot reservation = false ∧ (chargedTo snapshot reservation).valid = false ∧
      resource ∈ reservation.resources then reservation.bandwidth
  else 0

/-- What the reservation adds to the obligation of the demand. -/
def demandCharge (snapshot : FabricSnapshot) (demand : DemandId) (reservation : Reservation) : Int :=
  if reservation.effective.covers snapshot.evaluationTick = true ∧
      displaceable snapshot reservation = false ∧ (chargedTo snapshot reservation).valid = true ∧
      chargedTo snapshot reservation = demand then reservation.bandwidth
  else 0

def reservedTotal (snapshot : FabricSnapshot) (resource : ResourceId) : Int :=
  (snapshot.reservations.reservations.map (resourceCharge snapshot resource)).sum

def obligationTotal (snapshot : FabricSnapshot) (demand : DemandId) : Int :=
  (snapshot.reservations.reservations.map (demandCharge snapshot demand)).sum

/-- The accounting entry of one reservation. -/
def accountingOf (snapshot : FabricSnapshot) (reservation : Reservation) :
    ReservationAccounting :=
  let base : ReservationAccounting :=
    { reservation := reservation.id
      generation := reservation.generation
      bandwidth := reservation.bandwidth
      active := reservation.effective.covers snapshot.evaluationTick
      displaceable := displaceable snapshot reservation }
  if base.active = false then
    { base with disposition := text "inactive: reservation interval does not cover the evaluation tick" }
  else if base.displaceable then
    { base with
      disposition :=
        text "displaceable: policy allows preemption and the reserving authority marked it preemptible" }
  else if (chargedTo snapshot reservation).valid then
    { base with
      chargedTo := chargedTo snapshot reservation
      disposition := text "charged to demand " ++ (chargedTo snapshot reservation).str }
  else { base with disposition := text "reserved: charged to the resource residual" }

def reservationExclusions (snapshot : FabricSnapshot) (reservation : Reservation) : List Text :=
  if reservation.effective.covers snapshot.evaluationTick = false then
    [text "reservation " ++ reservation.id.str ++ text " is not effective at the evaluation tick"]
  else if displaceable snapshot reservation then
    [text "reservation " ++ reservation.id.str ++ text " is displaceable under the active policy"]
  else []

def addReserved (amount : Int) (entry : ResourceResidual) : ResourceResidual :=
  { entry with reserved := min int64Max (entry.reserved + amount) }

theorem chargeResources_spec (bandwidth : Int) (nonneg : 0 ≤ bandwidth) (resources : List ResourceId)
    (residuals : OrdMap ResourceId ResourceResidual) (distinct : resources.Nodup)
    (known : ∀ resource ∈ resources, (residuals.find? resource).isSome)
    (bounded : ∀ resource entry, residuals.find? resource = some entry →
      entry.reserved ≤ int64Max) :
    ∃ next, chargeResources bandwidth residuals resources = .ok next ∧
      ∀ resource, next.find? resource = (residuals.find? resource).map
        (addReserved (if resource ∈ resources then bandwidth else 0)) := by
  induction resources generalizing residuals with
  | nil =>
      refine ⟨residuals, rfl, ?_⟩
      intro resource
      cases found : residuals.find? resource with
      | none => rfl
      | some entry =>
          have bound := bounded resource entry found
          simp only [List.not_mem_nil, ↓reduceIte, Option.map_some, addReserved, Int.add_zero,
            min_eq_right bound]
  | cons first rest ih =>
      obtain ⟨fresh, tail⟩ := List.nodup_cons.mp distinct
      obtain ⟨entry, found⟩ := Option.isSome_iff_exists.mp (known first List.mem_cons_self)
      have bound := bounded first entry found
      -- The map after the first resource has been charged.
      let charged : ResourceResidual := { entry with reserved := satAdd entry.reserved bandwidth }
      have chargedEq : charged = addReserved bandwidth entry := by
        simp only [charged, addReserved, satAdd_of_nonneg nonneg bound]
      have lookup : ∀ resource, (residuals.insert first charged).find? resource =
          if resource = first then some charged else residuals.find? resource :=
        fun resource => OrdMap.find?_insert _ _ _ _
      obtain ⟨next, done, spec⟩ := ih (residuals.insert first charged) tail
        (by
          intro resource member
          rw [lookup]
          split
          · rfl
          · exact known resource (List.mem_cons_of_mem _ member))
        (by
          intro resource other present
          rw [lookup] at present
          split at present
          · cases present
            rw [chargedEq]
            exact min_le_left _ _
          · exact bounded resource other present)
      refine ⟨next, by simp only [chargeResources, found]; exact done, ?_⟩
      intro resource
      rw [spec, lookup]
      by_cases same : resource = first
      · subst same
        have chargedBound : charged.reserved ≤ int64Max := by
          rw [chargedEq]
          exact min_le_left _ _
        simp only [↓reduceIte, found, Option.map_some, fresh, List.mem_cons, true_or, ← chargedEq]
        simp only [addReserved, Int.add_zero, min_eq_right chargedBound]
      · simp only [same, ↓reduceIte, List.mem_cons, false_or]

/-- Every amount the loop carries fits the machine type. -/
structure Accounting.Bounded (accounting : Accounting) : Prop where
  reserved : ∀ resource entry, accounting.residuals.find? resource = some entry →
    entry.reserved ≤ int64Max
  obligation : ∀ demand, (accounting.obligation.find? demand).getD 0 ≤ int64Max

/-- What a run of the loop over the reservations adds to the accounting. -/
structure Accounted (snapshot : FabricSnapshot) (reservations : List Reservation)
    (before after : Accounting) : Prop where
  residuals : ∀ resource, after.residuals.find? resource = (before.residuals.find? resource).map
    (addReserved (reservations.map (resourceCharge snapshot resource)).sum)
  obligation : ∀ demand, (after.obligation.find? demand).getD 0 =
    min int64Max ((before.obligation.find? demand).getD 0 +
      (reservations.map (demandCharge snapshot demand)).sum)
  recorded : after.reservations = before.reservations ++ reservations.map (accountingOf snapshot)
  exclusions : after.policyExclusions =
    before.policyExclusions ++ reservations.flatMap (reservationExclusions snapshot)

theorem addReserved_zero {entry : ResourceResidual} (bounded : entry.reserved ≤ int64Max) :
    addReserved 0 entry = entry := by
  simp only [addReserved, Int.add_zero, min_eq_right bounded]

theorem map_addReserved_zero (residuals : OrdMap ResourceId ResourceResidual)
    (resource : ResourceId)
    (bounded : ∀ resource entry, residuals.find? resource = some entry →
      entry.reserved ≤ int64Max) :
    (residuals.find? resource).map (addReserved 0) = residuals.find? resource := by
  cases found : residuals.find? resource with
  | none => rfl
  | some entry => rw [Option.map_some, addReserved_zero (bounded resource entry found)]

/-- One pass of the reservation loop. -/
theorem accountReservation_spec (snapshot : FabricSnapshot) (accounting : Accounting)
    (reservation : Reservation) (bounded : accounting.Bounded) (nonneg : 0 ≤ reservation.bandwidth)
    (distinct : reservation.resources.Nodup)
    (known : ∀ resource ∈ reservation.resources, (accounting.residuals.find? resource).isSome) :
    ∃ next, accountReservation snapshot accounting reservation = .ok next ∧
      Accounted snapshot [reservation] accounting next := by
  have noObligation : ∀ demand, (accounting.obligation.find? demand).getD 0 =
      min int64Max ((accounting.obligation.find? demand).getD 0 + 0) := by
    intro demand
    rw [Int.add_zero, min_eq_right (bounded.obligation demand)]
  have noCharge := fun resource => (map_addReserved_zero _ resource bounded.reserved).symm
  unfold accountReservation
  by_cases active : reservation.effective.covers snapshot.evaluationTick = true
  · by_cases moved : displaceable snapshot reservation = true
    · simp only [active, moved, Bool.not_true, Bool.false_eq_true, ↓reduceIte]
      refine ⟨_, rfl, ⟨?_, ?_, ?_, ?_⟩⟩
      · intro resource
        simpa [resourceCharge, moved] using noCharge resource
      · intro demand
        simpa [demandCharge, moved] using noObligation demand
      · simp [accountingOf, active, moved]
      · simp [reservationExclusions, active, moved]
    · have kept : displaceable snapshot reservation = false := by simpa using moved
      by_cases claimed : (chargedTo snapshot reservation).valid = true
      · simp only [active, kept, claimed, Bool.not_true, Bool.false_eq_true, ↓reduceIte]
        refine ⟨_, rfl, ⟨?_, ?_, ?_, ?_⟩⟩
        · intro resource
          simpa [resourceCharge, claimed] using noCharge resource
        · intro demand
          have bound := bounded.obligation (chargedTo snapshot reservation)
          rw [OrdMap.find?_insert, satAdd_of_nonneg nonneg bound]
          by_cases same : demand = chargedTo snapshot reservation
          · subst same
            simp [demandCharge, active, kept, claimed]
          · have other : chargedTo snapshot reservation ≠ demand := Ne.symm same
            simpa [demandCharge, same, other] using noObligation demand
        · simp [accountingOf, active, kept, claimed]
        · simp [reservationExclusions, active, kept]
      · have unclaimed : (chargedTo snapshot reservation).valid = false := by simpa using claimed
        obtain ⟨residuals, charged, spec⟩ := chargeResources_spec reservation.bandwidth nonneg
          reservation.resources accounting.residuals distinct known bounded.reserved
        simp only [active, kept, unclaimed, Bool.not_true, Bool.false_eq_true, ↓reduceIte, charged]
        refine ⟨_, rfl, ⟨?_, ?_, ?_, ?_⟩⟩
        · intro resource
          have charge : ([reservation].map (resourceCharge snapshot resource)).sum =
              if resource ∈ reservation.resources then reservation.bandwidth else 0 := by
            simp [resourceCharge, active, kept, unclaimed]
          rw [charge]
          exact spec resource
        · intro demand
          simpa [demandCharge, unclaimed] using noObligation demand
        · simp [accountingOf, active, kept, unclaimed]
        · simp [reservationExclusions, active, kept]
  · have inactive : reservation.effective.covers snapshot.evaluationTick = false := by
      simpa using active
    simp only [inactive, Bool.not_false, ↓reduceIte]
    refine ⟨_, rfl, ⟨?_, ?_, ?_, ?_⟩⟩
    · intro resource
      simpa [resourceCharge, inactive] using noCharge resource
    · intro demand
      simpa [demandCharge, inactive] using noObligation demand
    · simp [accountingOf, inactive]
    · simp [reservationExclusions, inactive]

theorem resourceCharge_nonneg (snapshot : FabricSnapshot) (resource : ResourceId)
    {reservation : Reservation} (nonneg : 0 ≤ reservation.bandwidth) :
    0 ≤ resourceCharge snapshot resource reservation := by
  unfold resourceCharge
  split <;> omega

theorem demandCharge_nonneg (snapshot : FabricSnapshot) (demand : DemandId)
    {reservation : Reservation} (nonneg : 0 ≤ reservation.bandwidth) :
    0 ≤ demandCharge snapshot demand reservation := by
  unfold demandCharge
  split <;> omega

theorem Accounted.bounded {snapshot : FabricSnapshot} {reservations : List Reservation}
    {before after : Accounting} (accounted : Accounted snapshot reservations before after) :
    after.Bounded := by
  constructor
  · intro resource entry found
    rw [accounted.residuals] at found
    obtain ⟨old, -, rfl⟩ := Option.map_eq_some_iff.mp found
    exact min_le_left _ _
  · intro demand
    rw [accounted.obligation]
    exact min_le_left _ _

/-- Clamping after each reservation and clamping once at the end agree. -/
theorem Accounted.cons {snapshot : FabricSnapshot} {first : Reservation}
    {rest : List Reservation} {before middle after : Accounting}
    (nonneg : ∀ reservation ∈ rest, 0 ≤ reservation.bandwidth)
    (one : Accounted snapshot [first] before middle) (run : Accounted snapshot rest middle after) :
    Accounted snapshot (first :: rest) before after := by
  refine ⟨?_, ?_, ?_, ?_⟩
  · intro resource
    have later := sum_map_nonneg (resourceCharge snapshot resource) rest
      (fun reservation inside => resourceCharge_nonneg snapshot resource (nonneg reservation inside))
    rw [run.residuals, one.residuals, Option.map_map]
    congr 1
    funext entry
    simp only [Function.comp_apply, addReserved, List.map_cons, List.map_nil, List.sum_cons,
      List.sum_nil, ResourceResidual.mk.injEq, true_and, and_true]
    omega
  · intro demand
    have later := sum_map_nonneg (demandCharge snapshot demand) rest
      (fun reservation inside => demandCharge_nonneg snapshot demand (nonneg reservation inside))
    rw [run.obligation, one.obligation]
    simp only [List.map_cons, List.map_nil, List.sum_cons, List.sum_nil]
    omega
  · rw [run.recorded, one.recorded]
    simp
  · rw [run.exclusions, one.exclusions]
    simp

/-- The whole reservation loop never fails on known resources. -/
theorem accountReservations_spec (snapshot : FabricSnapshot) (reservations : List Reservation)
    (accounting : Accounting) (bounded : accounting.Bounded)
    (nonneg : ∀ reservation ∈ reservations, 0 ≤ reservation.bandwidth)
    (distinct : ∀ reservation ∈ reservations, reservation.resources.Nodup)
    (known : ∀ reservation ∈ reservations, ∀ resource ∈ reservation.resources,
      (accounting.residuals.find? resource).isSome) :
    ∃ next, accountReservations snapshot accounting reservations = .ok next ∧
      Accounted snapshot reservations accounting next := by
  induction reservations generalizing accounting with
  | nil =>
      refine ⟨accounting, rfl, ⟨?_, ?_, by simp, by simp⟩⟩
      · intro resource
        exact (map_addReserved_zero _ resource bounded.reserved).symm
      · intro demand
        simp [min_eq_right (bounded.obligation demand)]
  | cons reservation rest ih =>
      have later : ∀ other ∈ rest, 0 ≤ other.bandwidth := fun other member =>
        nonneg other (List.mem_cons_of_mem _ member)
      obtain ⟨middle, step, one⟩ := accountReservation_spec snapshot accounting reservation bounded
        (nonneg reservation List.mem_cons_self) (distinct reservation List.mem_cons_self)
        (known reservation List.mem_cons_self)
      obtain ⟨next, done, run⟩ := ih middle one.bounded later
        (fun other member => distinct other (List.mem_cons_of_mem _ member))
        (by
          intro other member resource bound
          rw [one.residuals, Option.isSome_map]
          exact known other (List.mem_cons_of_mem _ member) resource bound)
      refine ⟨next, ?_, one.cons later run⟩
      simp only [accountReservations, bind_eq_ok]
      exact ⟨middle, step, done⟩

/-! The published derivation. -/

/-- Residual of a resource once every reservation has been charged. -/
def chargedResidual (snapshot : FabricSnapshot) (resource : FabricResource) : ResourceResidual :=
  { baseResidual resource with
    reserved := min int64Max (reservedTotal snapshot resource.id) }

theorem zeroObligations_find (demands : List Demand) (demand : DemandId) :
    ((zeroObligations demands).find? demand).getD 0 = 0 := by
  have general : ∀ (items : List Demand) (start : OrdMap DemandId Int),
      (start.find? demand).getD 0 = 0 →
      ((items.foldl (fun obligation item => obligation.emplace item.id 0) start).find? demand).getD 0
        = 0 := by
    intro items
    induction items with
    | nil => exact fun start zero => zero
    | cons item rest ih =>
        intro start zero
        refine ih _ ?_
        rw [OrdMap.find?_emplace]
        split
        · rename_i same
          subst same
          simpa using zero
        · exact zero
  exact general demands OrdMap.empty rfl

theorem baseResiduals_find (snapshot : FabricSnapshot) (accepted : Accepted snapshot)
    (wanted : ResourceId) (entry : ResourceResidual) :
    (baseResiduals snapshot.capacity.resources).find? wanted = some entry ↔
      ∃ resource ∈ snapshot.capacity.resources, resource.id = wanted ∧
        baseResidual resource = entry :=
  OrdMap.find?_foldl_emplace FabricResource.id baseResidual _ accepted.resources_strict wanted entry

/-- The accounting that `derive` reaches before availability is computed. -/
theorem accountReservations_ok (snapshot : FabricSnapshot) (accepted : Accepted snapshot) :
    ∃ accounting, accountReservations snapshot (startAccounting snapshot)
        snapshot.reservations.reservations = .ok accounting ∧
      accounting.residuals.entries.map Prod.snd =
        snapshot.capacity.resources.map (chargedResidual snapshot) ∧
      (∀ demand, (accounting.obligation.find? demand).getD 0 =
        min int64Max (obligationTotal snapshot demand)) ∧
      accounting.reservations =
        snapshot.reservations.reservations.map (accountingOf snapshot) ∧
      accounting.policyExclusions =
        snapshot.reservations.reservations.flatMap (reservationExclusions snapshot) := by
  have positive : (0 : Int) ≤ int64Max := by decide
  have startBounded : (startAccounting snapshot).Bounded := by
    constructor
    · intro resource entry found
      obtain ⟨source, -, -, rfl⟩ := (baseResiduals_find snapshot accepted resource entry).mp found
      exact positive
    · intro demand
      rw [show (startAccounting snapshot).obligation = zeroObligations snapshot.demands from rfl,
        zeroObligations_find]
      exact positive
  obtain ⟨accounting, done, accounted⟩ := accountReservations_spec snapshot
    snapshot.reservations.reservations (startAccounting snapshot) startBounded
    (fun reservation member => (accepted.reservation_range member).1)
    (fun reservation member => (accepted.reservation_resources_strict member).imp ne_of_lt)
    (by
      intro reservation member resource bound
      have known := accepted.reservation_resources_known member resource bound
      obtain ⟨source, inside, same⟩ := List.mem_map.mp known
      have found := (baseResiduals_find snapshot accepted resource (baseResidual source)).mpr
        ⟨source, inside, same, rfl⟩
      exact Option.isSome_iff_exists.mpr ⟨_, found⟩)
  refine ⟨accounting, done, ?_, ?_, by simpa [startAccounting] using accounted.recorded,
    by simpa [startAccounting] using accounted.exclusions⟩
  · -- The loop changes values and never keys, so the order of the capacity snapshot stays.
    let updated : OrdMap ResourceId ResourceResidual :=
      ⟨snapshot.capacity.resources.map fun resource =>
          (resource.id, chargedResidual snapshot resource),
        List.pairwise_map.mpr accepted.resources_strict⟩
    have same : accounting.residuals = updated := by
      refine OrdMap.ext_find? ?_
      intro wanted
      rw [accounted.residuals]
      refine Option.ext ?_
      intro entry
      rw [Option.map_eq_some_iff, ← OrdMap.mem_entries_iff]
      simp only [startAccounting, baseResiduals_find snapshot accepted, updated, List.mem_map,
        Prod.mk.injEq]
      constructor
      · rintro ⟨_, ⟨resource, inside, rfl, rfl⟩, rfl⟩
        refine ⟨resource, inside, rfl, ?_⟩
        simp [chargedResidual, addReserved, baseResidual, reservedTotal]
      · rintro ⟨resource, inside, rfl, rfl⟩
        refine ⟨baseResidual resource, ⟨resource, inside, rfl, rfl⟩, ?_⟩
        simp [chargedResidual, addReserved, baseResidual, reservedTotal]
    rw [same]
    simp [updated, Function.comp_def]
  · intro demand
    rw [accounted.obligation]
    simp only [startAccounting, zeroObligations_find, Int.zero_add, obligationTotal]

/-! Availability in closed form. -/

def withAvailable (entry : ResourceResidual) : ResourceResidual :=
  { entry with available := max 0 (entry.usableCapacity - (entry.committedLoad + entry.reserved)) }

def commitmentOf (entry : ResourceResidual) : List BindingConstraint :=
  if entry.usableCapacity < entry.committedLoad + entry.reserved then
    [overCommitted entry (entry.committedLoad + entry.reserved)]
  else []

def accountingOverflows (entry : ResourceResidual) : Bool :=
  decide (int64Max < entry.committedLoad + entry.reserved)

def overflowError (resource : ResourceId) : Error :=
  ⟨.numericOverflow, text "resource " ++ resource.str ++ text " accounting overflows"⟩

theorem availabilityOf_eq (entry : ResourceResidual) (nonneg : 0 ≤ entry.reserved)
    (bounded : entry.committedLoad ≤ int64Max) :
    availabilityOf entry =
      if accountingOverflows entry then .error (overflowError entry.resource)
      else .ok (withAvailable entry, commitmentOf entry) := by
  unfold availabilityOf accountingOverflows
  rw [addChecked_of_nonneg nonneg]
  by_cases exceeds : int64Max < entry.committedLoad + entry.reserved
  · have positive : 0 < entry.reserved := by omega
    simp only [exceeds, positive, and_self, ↓reduceIte, decide_true]
    rfl
  · simp only [exceeds, false_and, ↓reduceIte, decide_false, Bool.false_eq_true]
    by_cases exceeded : entry.usableCapacity < entry.committedLoad + entry.reserved
    · rw [if_pos exceeded]
      simp only [withAvailable, commitmentOf, if_pos exceeded, Except.ok.injEq, Prod.mk.injEq,
        and_true, ResourceResidual.mk.injEq, true_and]
      omega
    · rw [if_neg exceeded]
      simp only [withAvailable, commitmentOf, if_neg exceeded, Except.ok.injEq, Prod.mk.injEq,
        and_true, ResourceResidual.mk.injEq, true_and]
      omega

/-- The first overflowing resource is reported; otherwise every resource is published. -/
theorem availability_eq (entries : List ResourceResidual)
    (nonneg : ∀ entry ∈ entries, 0 ≤ entry.reserved)
    (bounded : ∀ entry ∈ entries, entry.committedLoad ≤ int64Max) :
    availability entries =
      match entries.find? accountingOverflows with
      | some entry => .error (overflowError entry.resource)
      | none => .ok (entries.map withAvailable, entries.flatMap commitmentOf) := by
  induction entries with
  | nil => rfl
  | cons entry rest ih =>
      have later := ih (fun other member => nonneg other (List.mem_cons_of_mem _ member))
        (fun other member => bounded other (List.mem_cons_of_mem _ member))
      rw [availability, availabilityOf_eq entry (nonneg entry List.mem_cons_self)
        (bounded entry List.mem_cons_self), later, List.find?_cons]
      by_cases exceeds : accountingOverflows entry = true
      · simp [exceeds, bind, Except.bind]
      · have fits : accountingOverflows entry = false := by simpa using exceeds
        cases rest.find? accountingOverflows with
        | none => simp [fits, bind, Except.bind]
        | some other => simp [fits, bind, Except.bind]

def publishedResidual (snapshot : FabricSnapshot) (resource : FabricResource) : ResourceResidual :=
  withAvailable (chargedResidual snapshot resource)

/-- The demand's derivation from its own obligation alone. -/
def derivedDemand (snapshot : FabricSnapshot) (demand : Demand) : DemandDerivation :=
  deriveDemand snapshot (planningPaths snapshot)
    (OrdMap.empty.insert demand.id (min int64Max (obligationTotal snapshot demand.id))) demand

theorem deriveDemand_congr (snapshot : FabricSnapshot) (paths : List PathFacts)
    (left right : OrdMap DemandId Int) (demand : Demand)
    (same : (left.find? demand.id).getD 0 = (right.find? demand.id).getD 0) :
    deriveDemand snapshot paths left demand = deriveDemand snapshot paths right demand := by
  have basics : demandBasics snapshot left demand = demandBasics snapshot right demand := by
    simp only [demandBasics, same]
  simp only [deriveDemand, basics]

/-- Everything `derive` publishes when no resource's accounting overflows. -/
def derivation (snapshot : FabricSnapshot) : Derivation :=
  { demands := snapshot.demands.map (derivedDemand snapshot)
    residuals := snapshot.capacity.resources.map (publishedResidual snapshot)
    reservations := snapshot.reservations.reservations.map (accountingOf snapshot)
    constraints := stableSort BindingConstraint.key
      ((snapshot.capacity.resources.map (chargedResidual snapshot)).flatMap commitmentOf)
    policyExclusions := (stableSort id
      (snapshot.reservations.reservations.flatMap (reservationExclusions snapshot) ++
        snapshot.demands.flatMap (demandExclusions snapshot))).destutter (· ≠ ·)
    anyDemandActive := snapshot.demands.any fun demand =>
      demand.effective.covers snapshot.evaluationTick }

theorem reservedTotal_nonneg {snapshot : FabricSnapshot} (accepted : Accepted snapshot)
    (resource : ResourceId) : 0 ≤ reservedTotal snapshot resource := by
  apply sum_map_nonneg
  intro reservation inside
  exact resourceCharge_nonneg snapshot resource (accepted.reservation_range inside).1

theorem obligationTotal_nonneg {snapshot : FabricSnapshot} (accepted : Accepted snapshot)
    (demand : DemandId) : 0 ≤ obligationTotal snapshot demand := by
  apply sum_map_nonneg
  intro reservation inside
  exact demandCharge_nonneg snapshot demand (accepted.reservation_range inside).1

/-- The resource whose accounting overflows first, if any. -/
def overflowingResource (snapshot : FabricSnapshot) : Option ResourceResidual :=
  (snapshot.capacity.resources.map (chargedResidual snapshot)).find? accountingOverflows

theorem derive_eq {snapshot : FabricSnapshot} (accepted : Accepted snapshot) :
    derive snapshot =
      match overflowingResource snapshot with
      | some entry => .error (overflowError entry.resource)
      | none => .ok (derivation snapshot) := by
  obtain ⟨accounting, done, residuals, obligation, reservations, exclusions⟩ :=
    accountReservations_ok snapshot accepted
  have positive : (0 : Int) ≤ int64Max := by decide
  have nonneg : ∀ entry ∈ snapshot.capacity.resources.map (chargedResidual snapshot),
      0 ≤ entry.reserved := by
    intro entry member
    obtain ⟨resource, -, rfl⟩ := List.mem_map.mp member
    exact le_min positive (reservedTotal_nonneg accepted resource.id)
  have bounded : ∀ entry ∈ snapshot.capacity.resources.map (chargedResidual snapshot),
      entry.committedLoad ≤ int64Max := by
    intro entry member
    obtain ⟨resource, inside, rfl⟩ := List.mem_map.mp member
    have limit : Limits.maxBandwidth ≤ int64Max := by decide
    exact (accepted.resource_range inside).2.2.trans limit
  have demands : snapshot.demands.map (deriveDemand snapshot (planningPaths snapshot)
      accounting.obligation) = snapshot.demands.map (derivedDemand snapshot) := by
    refine List.map_congr_left ?_
    intro demand _
    refine deriveDemand_congr snapshot _ _ _ demand ?_
    rw [obligation, OrdMap.find?_insert_self]
    rfl
  unfold derive
  rw [done]
  simp only [bind, Except.bind]
  rw [residuals, availability_eq _ nonneg bounded]
  simp only [overflowingResource, demands]
  cases (snapshot.capacity.resources.map (chargedResidual snapshot)).find? accountingOverflows with
  | some entry => rfl
  | none =>
      simp only [derivation, reservations, exclusions, List.map_map]
      rfl

theorem derive_eq_ok {snapshot : FabricSnapshot} (accepted : Accepted snapshot)
    (result : Derivation) :
    derive snapshot = .ok result ↔
      overflowingResource snapshot = none ∧ derivation snapshot = result := by
  rw [derive_eq accepted]
  cases overflowingResource snapshot with
  | some entry => simp
  | none => simp

theorem meshFabric_derives : derive meshFabric = .ok (derivation meshFabric) :=
  (derive_eq_ok meshFabric_accepted _).mpr ⟨by decide +kernel, rfl⟩

end TrafficFabric
