import TrafficFabric.Accepted
import TrafficFabric.Authority
import TrafficFabric.Encoding

set_option autoImplicit false

/- What the digests of an authority vector commit to. The images the collection digests
hash mark their own end, so equal images are images of equal contents, up to the parts of a
provenance that are not written. -/
namespace TrafficFabric

/-! Contents. -/

/-- The part of a provenance the element images write. -/
def Provenance.written (provenance : Provenance) : Provenance := { provenance with detail := [] }

def Demand.written (demand : Demand) : Demand :=
  { demand with provenance := demand.provenance.written }

def CandidatePath.written (path : CandidatePath) : CandidatePath :=
  { path with provenance := path.provenance.written }

def FabricResource.written (resource : FabricResource) : FabricResource :=
  { resource with provenance := resource.provenance.written }

def Reservation.written (reservation : Reservation) : Reservation :=
  { reservation with provenance := reservation.provenance.written }

/-- Policies and objective profiles are written without the tick they were observed at. -/
def Policy.written (policy : Policy) : Policy :=
  { policy with provenance := { policy.provenance.written with observedTick := 0 } }

def ObjectiveProfile.written (profile : ObjectiveProfile) : ObjectiveProfile :=
  { profile with provenance := { profile.provenance.written with observedTick := 0 } }

/-! What fits the encoding. -/

structure Demand.Writable (demand : Demand) : Prop where
  minimum : InInt64 demand.minimumBandwidth
  desired : InInt64 demand.desiredBandwidth
  maximum : InInt64 demand.maximumBandwidth
  latency : ∀ bound ∈ demand.latencyBoundMicros, InInt64 bound
  cost : ∀ ceiling ∈ demand.pathCostCeiling, InInt64 ceiling
  allowed : FitsCount demand.allowedPaths.length
  forbidden : FitsCount demand.forbiddenPaths.length
  affinity : FitsCount demand.affinity.length
  antiAffinity : FitsCount demand.antiAffinity.length
  domains : FitsCount demand.requiredFailureDomains.length
  bindings : FitsCount demand.reservationBindings.length
  labels : FitsCount demand.labels.length ∧
    ∀ label ∈ demand.labels, FitsCount label.1.length ∧ FitsCount label.2.length

structure CandidatePath.Writable (path : CandidatePath) : Prop where
  resources : FitsCount path.resources.length
  domains : FitsCount path.failureDomains.length
  labels : FitsCount path.policyLabels.length ∧
    ∀ label ∈ path.policyLabels, FitsCount label.length
  cost : InInt64 path.cost
  latency : ∀ latency ∈ path.latencyMicros, InInt64 latency

structure FabricResource.Writable (resource : FabricResource) : Prop where
  usable : InInt64 resource.usableCapacity
  committed : InInt64 resource.committedLoad
  domains : FitsCount resource.failureDomains.length

structure Reservation.Writable (reservation : Reservation) : Prop where
  paths : FitsCount reservation.paths.length
  resources : FitsCount reservation.resources.length
  bandwidth : InInt64 reservation.bandwidth

structure Policy.Writable (policy : Policy) : Prop where
  utilization : InInt64 policy.maxUtilizationPermille
  improvement : InInt64 policy.churnImprovementThresholdPermille
  moved : InInt64 policy.churnMaxMovedBandwidthPermille
  risk : InInt64 policy.churnMaxOperationalRiskPermille
  tenants : FitsCount policy.allowedTenants.length
  serviceClasses : FitsCount policy.allowedServiceClasses.length

namespace Writer

/-! The images mark their own end: the fields are stripped off one by one. -/

theorem interval_delimits : Delimits (fun _ => True) interval id := by
  intro first second rest tail _ _ same
  simp only [interval, List.append_assoc] at same
  obtain ⟨start, same⟩ := u64_delimits.peel trivial trivial same
  obtain ⟨stop, same⟩ := u64_delimits.peel trivial trivial same
  obtain ⟨openEnded, same⟩ := boolean_delimits.peel trivial trivial same
  refine ⟨?_, same⟩
  cases first
  cases second
  simp_all

theorem labels_delimits : Delimits (fun items : List (Text × Text) => FitsCount items.length ∧
    ∀ label ∈ items, FitsCount label.1.length ∧ FitsCount label.2.length) labels id := by
  have entry : Delimits (fun label : Text × Text => FitsCount label.1.length ∧ FitsCount label.2.length)
      (fun label => str label.1 ++ str label.2) id := by
    intro first second rest tail left right same
    simp only [List.append_assoc] at same
    obtain ⟨key, same⟩ := str_delimits.peel left.1 right.1 same
    obtain ⟨value, same⟩ := str_delimits.peel left.2 right.2 same
    exact ⟨Prod.ext key value, same⟩
  apply (entry.counted count_delimits).determine
  intro first second same
  simpa using same

theorem evidence_delimits : Delimits (fun _ => True) evidence
    fun provenance => { provenance.written with observedTick := 0 } := by
  intro first second rest tail _ _ same
  simp only [evidence, List.append_assoc] at same
  obtain ⟨evidence, same⟩ := digest_delimits.peel trivial trivial same
  obtain ⟨source, same⟩ := id_delimits.peel trivial trivial same
  obtain ⟨generation, same⟩ := u64_delimits.peel trivial trivial same
  refine ⟨?_, same⟩
  simp_all [Provenance.written]

/-- The provenance of an element is written with the tick it was observed at. -/
theorem written_of_evidence {first second : Provenance}
    (evidence : ({ first.written with observedTick := 0 } : Provenance) =
      { second.written with observedTick := 0 })
    (tick : first.observedTick = second.observedTick) : first.written = second.written := by
  simp only [Provenance.written, Provenance.mk.injEq] at evidence ⊢
  exact ⟨evidence.1, evidence.2.1, tick, evidence.2.2.2⟩

theorem ref_of_parts {kind : IdKind} {generation : GenKind} {first second : Ref kind generation}
    (ident : first.id = second.id) (generations : first.generation = second.generation) :
    first = second := by
  cases first
  cases second
  simp_all

theorem preemptibility_delimits :
    Delimits (fun _ => True) (fun value : Preemptibility => u8 value.code) id := by
  apply (u8_delimits.field Preemptibility.code (fun _ _ => trivial)).determine
  intro first second same
  cases first <;> cases second <;> first | rfl | exact absurd same (by decide)

theorem scope_delimits :
    Delimits (fun _ => True) (fun value : EligibilityScope => u8 value.code) id := by
  apply (u8_delimits.field EligibilityScope.code (fun _ _ => trivial)).determine
  intro first second same
  cases first <;> cases second <;> first | rfl | exact absurd same (by decide)

theorem demand_delimits : Delimits Demand.Writable demand Demand.written := by
  intro first second rest tail left right same
  unfold demand at same
  simp only [List.append_assoc] at same
  obtain ⟨ident, same⟩ := id_delimits.peel trivial trivial same
  obtain ⟨generation, same⟩ := gen_delimits.peel trivial trivial same
  obtain ⟨tenant, same⟩ := id_delimits.peel trivial trivial same
  obtain ⟨serviceClass, same⟩ := id_delimits.peel trivial trivial same
  obtain ⟨minimum, same⟩ := i64_delimits.peel left.minimum right.minimum same
  obtain ⟨desired, same⟩ := i64_delimits.peel left.desired right.desired same
  obtain ⟨maximum, same⟩ := i64_delimits.peel left.maximum right.maximum same
  obtain ⟨priority, same⟩ := u8_delimits.peel trivial trivial same
  obtain ⟨latency, same⟩ := optional_delimits.peel left.latency right.latency same
  obtain ⟨cost, same⟩ := optional_delimits.peel left.cost right.cost same
  obtain ⟨setId, same⟩ := id_delimits.peel trivial trivial same
  obtain ⟨setGeneration, same⟩ := gen_delimits.peel trivial trivial same
  obtain ⟨allowed, same⟩ := ids_delimits.peel left.allowed right.allowed same
  obtain ⟨forbidden, same⟩ := ids_delimits.peel left.forbidden right.forbidden same
  obtain ⟨affinity, same⟩ := ids_delimits.peel left.affinity right.affinity same
  obtain ⟨antiAffinity, same⟩ := ids_delimits.peel left.antiAffinity right.antiAffinity same
  obtain ⟨domains, same⟩ := ids_delimits.peel left.domains right.domains same
  obtain ⟨distinct, same⟩ := u32_delimits.peel trivial trivial same
  obtain ⟨bindings, same⟩ := ids_delimits.peel left.bindings right.bindings same
  obtain ⟨effective, same⟩ := interval_delimits.peel trivial trivial same
  obtain ⟨preemptibility, same⟩ := preemptibility_delimits.peel trivial trivial same
  obtain ⟨labels, same⟩ := labels_delimits.peel left.labels right.labels same
  obtain ⟨evidence, same⟩ := evidence_delimits.peel trivial trivial same
  obtain ⟨tick, same⟩ := u64_delimits.peel trivial trivial same
  refine ⟨?_, same⟩
  simp only [Demand.written, Demand.mk.injEq]
  exact ⟨ident, generation, written_of_evidence evidence tick, tenant, serviceClass, minimum,
    desired, maximum, priority, latency, cost, ref_of_parts setId setGeneration, allowed, forbidden,
    affinity, antiAffinity, domains, distinct, bindings, effective, preemptibility, labels⟩

theorem path_delimits : Delimits CandidatePath.Writable path CandidatePath.written := by
  intro first second rest tail left right same
  unfold path at same
  simp only [List.append_assoc] at same
  obtain ⟨ident, same⟩ := id_delimits.peel trivial trivial same
  obtain ⟨generation, same⟩ := gen_delimits.peel trivial trivial same
  obtain ⟨authorityId, same⟩ := id_delimits.peel trivial trivial same
  obtain ⟨authorityGeneration, same⟩ := gen_delimits.peel trivial trivial same
  obtain ⟨setId, same⟩ := id_delimits.peel trivial trivial same
  obtain ⟨setGeneration, same⟩ := gen_delimits.peel trivial trivial same
  obtain ⟨resources, same⟩ := ids_delimits.peel left.resources right.resources same
  obtain ⟨domains, same⟩ := ids_delimits.peel left.domains right.domains same
  obtain ⟨labels, same⟩ := strings_delimits.peel left.labels right.labels same
  obtain ⟨cost, same⟩ := i64_delimits.peel left.cost right.cost same
  obtain ⟨latency, same⟩ := optional_delimits.peel left.latency right.latency same
  obtain ⟨scope, same⟩ := scope_delimits.peel trivial trivial same
  obtain ⟨tenant, same⟩ := id_delimits.peel trivial trivial same
  obtain ⟨serviceClass, same⟩ := id_delimits.peel trivial trivial same
  obtain ⟨evidence, same⟩ := evidence_delimits.peel trivial trivial same
  obtain ⟨tick, same⟩ := u64_delimits.peel trivial trivial same
  refine ⟨?_, same⟩
  simp only [CandidatePath.written, CandidatePath.mk.injEq]
  refine ⟨?_, written_of_evidence evidence tick⟩
  obtain ⟨facts, _⟩ := first
  obtain ⟨others, _⟩ := second
  cases facts
  cases others
  simp only [PathFacts.mk.injEq]
  exact ⟨ident, generation, ref_of_parts authorityId authorityGeneration,
    ref_of_parts setId setGeneration, resources, domains, labels, cost, latency, scope, tenant,
    serviceClass⟩

theorem resource_delimits : Delimits FabricResource.Writable resource FabricResource.written := by
  intro first second rest tail left right same
  unfold resource at same
  simp only [List.append_assoc] at same
  obtain ⟨ident, same⟩ := id_delimits.peel trivial trivial same
  obtain ⟨generation, same⟩ := gen_delimits.peel trivial trivial same
  obtain ⟨usable, same⟩ := i64_delimits.peel left.usable right.usable same
  obtain ⟨committed, same⟩ := i64_delimits.peel left.committed right.committed same
  obtain ⟨domains, same⟩ := ids_delimits.peel left.domains right.domains same
  obtain ⟨evidence, same⟩ := evidence_delimits.peel trivial trivial same
  obtain ⟨tick, same⟩ := u64_delimits.peel trivial trivial same
  refine ⟨?_, same⟩
  simp only [FabricResource.written, FabricResource.mk.injEq]
  exact ⟨ident, generation, written_of_evidence evidence tick, usable, committed, domains⟩

theorem reservation_delimits : Delimits Reservation.Writable reservation Reservation.written := by
  intro first second rest tail left right same
  unfold reservation at same
  simp only [List.append_assoc] at same
  obtain ⟨ident, same⟩ := id_delimits.peel trivial trivial same
  obtain ⟨generation, same⟩ := gen_delimits.peel trivial trivial same
  obtain ⟨paths, same⟩ := ids_delimits.peel left.paths right.paths same
  obtain ⟨resources, same⟩ := ids_delimits.peel left.resources right.resources same
  obtain ⟨bandwidth, same⟩ := i64_delimits.peel left.bandwidth right.bandwidth same
  obtain ⟨preemptibility, same⟩ := preemptibility_delimits.peel trivial trivial same
  obtain ⟨priority, same⟩ := u8_delimits.peel trivial trivial same
  obtain ⟨owner, same⟩ := id_delimits.peel trivial trivial same
  obtain ⟨effective, same⟩ := interval_delimits.peel trivial trivial same
  obtain ⟨evidence, same⟩ := evidence_delimits.peel trivial trivial same
  obtain ⟨tick, same⟩ := u64_delimits.peel trivial trivial same
  refine ⟨?_, same⟩
  simp only [Reservation.written, Reservation.mk.injEq]
  exact ⟨ident, generation, written_of_evidence evidence tick, paths, resources, bandwidth,
    preemptibility, priority, owner, effective⟩

theorem policy_delimits : Delimits Policy.Writable policy Policy.written := by
  intro first second rest tail left right same
  unfold policy at same
  simp only [List.append_assoc] at same
  obtain ⟨ident, same⟩ := id_delimits.peel trivial trivial same
  obtain ⟨generation, same⟩ := gen_delimits.peel trivial trivial same
  obtain ⟨preemption, same⟩ := boolean_delimits.peel trivial trivial same
  obtain ⟨minimums, same⟩ := boolean_delimits.peel trivial trivial same
  obtain ⟨degraded, same⟩ := boolean_delimits.peel trivial trivial same
  obtain ⟨diversity, same⟩ := boolean_delimits.peel trivial trivial same
  obtain ⟨utilization, same⟩ := i64_delimits.peel left.utilization right.utilization same
  obtain ⟨improvement, same⟩ := i64_delimits.peel left.improvement right.improvement same
  obtain ⟨moved, same⟩ := i64_delimits.peel left.moved right.moved same
  obtain ⟨risk, same⟩ := i64_delimits.peel left.risk right.risk same
  obtain ⟨affected, same⟩ := u32_delimits.peel trivial trivial same
  obtain ⟨paths, same⟩ := u32_delimits.peel trivial trivial same
  obtain ⟨tenants, same⟩ := ids_delimits.peel left.tenants right.tenants same
  obtain ⟨serviceClasses, same⟩ := ids_delimits.peel left.serviceClasses right.serviceClasses same
  obtain ⟨evidence, same⟩ := evidence_delimits.peel trivial trivial same
  refine ⟨?_, same⟩
  simp only [Policy.written, Policy.mk.injEq]
  exact ⟨ident, generation, evidence, preemption, minimums, degraded, diversity, utilization,
    improvement, moved, risk, affected, paths, tenants, serviceClasses⟩

theorem term_delimits : Delimits (fun _ => True)
    (fun term : ObjectiveWeight => u16 term.term.code ++ i64 term.weight) id := by
  intro first second rest tail _ _ same
  simp only [List.append_assoc] at same
  obtain ⟨code, same⟩ := u16_delimits.peel trivial trivial same
  obtain ⟨weight, same⟩ := i64_delimits.peel first.fits second.fits same
  refine ⟨?_, same⟩
  have term : first.term = second.term := by
    revert code
    cases first.term <;> cases second.term <;> decide
  cases first
  cases second
  simp_all

theorem terms_delimits : Delimits (fun items : List ObjectiveWeight => FitsCount items.length)
    (sequence fun term => u16 term.term.code ++ i64 term.weight) id := by
  intro first second rest tail left right same
  have facts := (term_delimits.counted count_delimits).peel ⟨left, fun _ _ => trivial⟩
    ⟨right, fun _ _ => trivial⟩ same
  simpa using facts

theorem objectiveProfile_delimits :
    Delimits (fun profile : ObjectiveProfile => FitsCount profile.terms.length) objectiveProfile
      ObjectiveProfile.written := by
  intro first second rest tail left right same
  unfold objectiveProfile at same
  simp only [List.append_assoc] at same
  obtain ⟨ident, same⟩ := id_delimits.peel trivial trivial same
  obtain ⟨generation, same⟩ := gen_delimits.peel trivial trivial same
  obtain ⟨terms, same⟩ := terms_delimits.peel left right same
  obtain ⟨evidence, same⟩ := evidence_delimits.peel trivial trivial same
  refine ⟨?_, same⟩
  simp only [ObjectiveProfile.written, ObjectiveProfile.mk.injEq]
  exact ⟨ident, generation, evidence, terms⟩

/-- Equal sequence images are images of sequences with equal facts. -/
theorem sequence_fact {α γ : Type} {valid : α → Prop} {image : α → List UInt8} {fact : α → γ}
    (delimits : Delimits valid image fact) {first second : List α} (left : ∀ item ∈ first, valid item)
    (right : ∀ item ∈ second, valid item) (leftFits : FitsCount first.length)
    (rightFits : FitsCount second.length)
    (same : sequence image first = sequence image second) : first.map fact = second.map fact :=
  (delimits.counted count_delimits).fact_eq ⟨leftFits, left⟩ ⟨rightFits, right⟩ same

end Writer

/-! Comparing valid vectors is comparing them field by field. -/

theorem normalize_eq_nil (fields : List AuthorityField) :
    AuthorityDelta.normalize fields = [] ↔ fields = [] := by
  unfold AuthorityDelta.normalize sortUnique
  rw [List.destutter_eq_nil]
  constructor
  · intro empty
    have perm := stableSort_perm (fun field : AuthorityField => field.code.toNat) fields
    rw [empty] at perm
    exact perm.nil_eq.symm
  · rintro rfl
    rfl

theorem identical_iff (bound live : AuthorityVector) :
    (compareAuthority bound live).identical = true ↔ compareFields bound live = {} := by
  unfold AuthorityDelta.identical compareAuthority
  simp only [Bool.and_eq_true, List.isEmpty_iff, normalize_eq_nil]
  cases compareFields bound live
  simp [and_assoc]

theorem compareGeneration_eq_empty {kind : GenKind} {live bound : Gen kind} (field : AuthorityField)
    (delta : AuthorityDelta) (liveValid : live.valid = true) (boundValid : bound.valid = true) :
    compareGeneration live bound field delta = {} ↔ delta = {} ∧ live = bound := by
  have apart : live = bound ↔ ¬ bound.value < live.value ∧ ¬ live.value < bound.value := by
    cases live
    cases bound
    simp only [Gen.mk.injEq, UInt64.lt_iff_toNat_lt, ← UInt64.toNat_inj]
    omega
  unfold compareGeneration advanced regressed
  rw [apart]
  simp only [liveValid, boundValid, Bool.true_and, decide_eq_true_eq]
  split
  · rename_i newer
    simp [newer]
  · split
    · rename_i older
      simp [older]
    · rename_i notNewer notOlder
      simp [notNewer, notOlder]

theorem compareRef_eq_empty {id : IdKind} {generation : GenKind} {live bound : Ref id generation}
    (idField generationField : AuthorityField) (delta : AuthorityDelta)
    (liveValid : live.valid = true) (boundValid : bound.valid = true) :
    compareRef live bound idField generationField delta = {} ↔ delta = {} ∧ live = bound := by
  have parts : live = bound ↔ live.id = bound.id ∧ live.generation = bound.generation := by
    cases live
    cases bound
    simp
  have liveParts := liveValid
  have boundParts := boundValid
  simp only [Ref.valid, Bool.and_eq_true] at liveParts boundParts
  unfold compareRef
  rw [liveValid, boundValid, parts]
  simp only [Bool.not_true, Bool.false_eq_true, ↓reduceIte]
  rw [compareGeneration_eq_empty _ _ liveParts.2 boundParts.2]
  by_cases same : live.id = bound.id
  · simp [same]
  · simp [same]

theorem Digest.eq_of_isZero {first second : Digest} (left : first.isZero = true)
    (right : second.isZero = true) : first = second := by
  have zeros : ∀ digest : Digest, digest.isZero = true →
      digest.bytes.toList = List.replicate 32 0 := by
    intro digest zero
    apply List.eq_replicate_iff.mpr
    refine ⟨by simp, ?_⟩
    intro byte listed
    simpa using List.all_eq_true.mp zero byte listed
  cases first
  cases second
  exact congrArg Digest.mk (Vector.toList_inj.mp ((zeros _ left).trans (zeros _ right).symm))

theorem compareDigest_eq_empty (live bound : Digest) (field : AuthorityField)
    (delta : AuthorityDelta) :
    compareDigest live bound field delta = {} ↔ delta = {} ∧ live = bound := by
  unfold compareDigest
  split
  · rename_i zero
    rw [Bool.and_eq_true] at zero
    simp [Digest.eq_of_isZero zero.2 zero.1]
  · by_cases same : live = bound
    · simp [same]
    · simp [same]

/-- Valid vectors compare as identical exactly when they are equal. -/
theorem compareAuthority_identical {bound live : AuthorityVector} (boundValid : bound.valid = true)
    (liveValid : live.valid = true) :
    (compareAuthority bound live).identical = true ↔ live = bound := by
  simp only [AuthorityVector.valid, Bool.and_eq_true] at boundValid liveValid
  obtain ⟨⟨⟨⟨⟨⟨⟨⟨⟨b0, b1⟩, b2⟩, b3⟩, b4⟩, b5⟩, b6⟩, b7⟩, b8⟩, b9⟩ := boundValid
  obtain ⟨⟨⟨⟨⟨⟨⟨⟨⟨l0, l1⟩, l2⟩, l3⟩, l4⟩, l5⟩, l6⟩, l7⟩, l8⟩, l9⟩ := liveValid
  rw [identical_iff]
  unfold compareFields
  dsimp only
  rw [compareDigest_eq_empty, compareDigest_eq_empty, compareDigest_eq_empty,
    compareDigest_eq_empty, compareDigest_eq_empty, compareDigest_eq_empty,
    compareRef_eq_empty _ _ _ l9 b9, compareRef_eq_empty _ _ _ l8 b8,
    compareRef_eq_empty _ _ _ l7 b7, compareRef_eq_empty _ _ _ l6 b6,
    compareRef_eq_empty _ _ _ l5 b5, compareGeneration_eq_empty _ _ l4 b4,
    compareGeneration_eq_empty _ _ l3 b3, compareGeneration_eq_empty _ _ l2 b2,
    compareGeneration_eq_empty _ _ l1 b1, compareGeneration_eq_empty _ _ l0 b0]
  cases live
  cases bound
  simp only [AuthorityVector.mk.injEq, true_and, and_assoc]

end TrafficFabric
