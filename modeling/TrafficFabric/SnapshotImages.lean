import TrafficFabric.AuthorityContent
import TrafficFabric.PlanDecodes
import TrafficFabric.SnapshotReads

set_option autoImplicit false

/- The images of snapshots: each marks its own end as long as its counts do, and how long an
image is says how long the lists inside it can be. -/
namespace TrafficFabric

open Writer (ids strings labels)

/-! What fits the counts of the writer. -/

def Provenance.Writable (provenance : Provenance) : Prop := FitsCount provenance.detail.length

structure CapacitySnapshot.Writable (capacity : CapacitySnapshot) : Prop where
  provenance : capacity.provenance.Writable
  count : FitsCount capacity.resources.length
  resources : ∀ resource ∈ capacity.resources, resource.Writable ∧ resource.provenance.Writable

structure ReservationSnapshot.Writable (reservations : ReservationSnapshot) : Prop where
  provenance : reservations.provenance.Writable
  count : FitsCount reservations.reservations.length
  reservations : ∀ reservation ∈ reservations.reservations,
    reservation.Writable ∧ reservation.provenance.Writable

structure ObjectiveProfile.Writable (profile : ObjectiveProfile) : Prop where
  provenance : profile.provenance.Writable
  terms : FitsCount profile.terms.length

structure FabricSnapshot.Writable (snapshot : FabricSnapshot) : Prop where
  provenance : snapshot.provenance.Writable
  capacity : snapshot.capacity.Writable
  reservations : snapshot.reservations.Writable
  policy : snapshot.policy.Writable ∧ snapshot.policy.provenance.Writable
  objective : snapshot.objective.Writable
  demandCount : FitsCount snapshot.demands.length
  demands : ∀ demand ∈ snapshot.demands, demand.Writable ∧ demand.provenance.Writable
  pathCount : FitsCount snapshot.paths.length
  paths : ∀ path ∈ snapshot.paths, path.Writable ∧ path.provenance.Writable

/-! What the reader takes fits. -/

theorem NamedWithin.fits {kind : IdKind} {limit : Nat} {ids : List (Id kind)}
    (named : NamedWithin limit ids)
    (small : limit < 2 ^ 32) : FitsCount ids.length := lt_of_le_of_lt named.1 small

theorem Provenance.Readable.writable {provenance : Provenance} (readable : provenance.Readable) :
    provenance.Writable := lt_of_le_of_lt readable.detail (by decide)

theorem Reservation.Readable.writable {reservation : Reservation} (readable : reservation.Readable) :
    reservation.Writable :=
  ⟨readable.paths.fits (by decide), readable.resources.fits (by decide), readable.bandwidth⟩

theorem CandidatePath.Readable.writable {path : CandidatePath} (readable : path.Readable) :
    path.Writable where
  resources := readable.resources.fits (by decide)
  domains := readable.domains.fits (by decide)
  labels := ⟨lt_of_le_of_lt readable.labels.1 (by decide), fun label member =>
    lt_of_le_of_lt (readable.labels.2 label member) (by decide)⟩
  cost := readable.cost
  latency := readable.latency

theorem Demand.Readable.writable {demand : Demand} (readable : demand.Readable) : demand.Writable :=
  { readable with
    allowed := readable.allowed.fits (by decide)
    forbidden := readable.forbidden.fits (by decide)
    affinity := readable.affinity.fits (by decide)
    antiAffinity := readable.antiAffinity.fits (by decide)
    domains := readable.domains.fits (by decide)
    bindings := readable.bindings.fits (by decide)
    labels := ⟨lt_of_le_of_lt readable.labels.1 (by decide), fun label member =>
      ⟨lt_of_le_of_lt (readable.labels.2 label member).1 (by decide),
        lt_of_le_of_lt (readable.labels.2 label member).2 (by decide)⟩⟩ }

theorem Policy.Readable.writable {policy : Policy} (readable : policy.Readable) : policy.Writable :=
  { readable with
    tenants := readable.tenants.fits (by decide)
    serviceClasses := readable.serviceClasses.fits (by decide) }

theorem FabricSnapshot.Readable.writable {snapshot : FabricSnapshot} (readable : snapshot.Readable) :
    snapshot.Writable where
  provenance := readable.header.provenance.writable
  capacity := ⟨readable.capacity.provenance.writable, lt_of_le_of_lt readable.capacity.count (by decide),
    fun resource member =>
      have inside := readable.capacity.resources resource member
      ⟨⟨inside.usable, inside.committed, inside.domains.fits (by decide)⟩, inside.provenance.writable⟩⟩
  reservations := ⟨readable.reservations.provenance.writable,
    lt_of_le_of_lt readable.reservations.count (by decide), fun reservation member =>
      have inside := readable.reservations.reservations reservation member
      ⟨inside.writable, inside.provenance.writable⟩⟩
  policy := ⟨readable.policy.writable, readable.policy.provenance.writable⟩
  objective := ⟨readable.objective.provenance.writable, lt_of_le_of_lt readable.objective.terms (by decide)⟩
  demandCount := lt_of_le_of_lt readable.demandCount (by decide)
  demands := fun demand member =>
    have inside := readable.demands demand member
    ⟨inside.writable, inside.provenance.writable⟩
  pathCount := lt_of_le_of_lt readable.pathCount (by decide)
  paths := fun path member =>
    have inside := readable.paths path member
    ⟨inside.writable, inside.provenance.writable⟩

namespace SnapshotCodec

/-! The images mark their own end. -/

open Writer (u8_delimits u16_delimits u32_delimits u64_delimits i64_delimits boolean_delimits str_delimits
  id_delimits gen_delimits digest_delimits ids_delimits strings_delimits optional_delimits interval_delimits
  labels_delimits preemptibility_delimits scope_delimits term_delimits ref_of_parts count_delimits)

theorem writeProvenance_delimits : Delimits Provenance.Writable writeProvenance id := by
  intro first second rest tail left right same
  unfold writeProvenance at same
  simp only [List.append_assoc] at same
  obtain ⟨source, same⟩ := id_delimits.peel trivial trivial same
  obtain ⟨generation, same⟩ := u64_delimits.peel trivial trivial same
  obtain ⟨tick, same⟩ := u64_delimits.peel trivial trivial same
  obtain ⟨evidence, same⟩ := digest_delimits.peel trivial trivial same
  obtain ⟨detail, same⟩ := str_delimits.peel left right same
  refine ⟨?_, same⟩
  cases first
  cases second
  simp only [id_eq, Provenance.mk.injEq]
  exact ⟨source, generation, tick, evidence, detail⟩

theorem writeResource_delimits : Delimits (fun resource : FabricResource =>
    resource.Writable ∧ resource.provenance.Writable) writeResource id := by
  intro first second rest tail left right same
  unfold writeResource at same
  simp only [List.append_assoc] at same
  obtain ⟨ident, same⟩ := id_delimits.peel trivial trivial same
  obtain ⟨generation, same⟩ := gen_delimits.peel trivial trivial same
  obtain ⟨usable, same⟩ := i64_delimits.peel left.1.usable right.1.usable same
  obtain ⟨committed, same⟩ := i64_delimits.peel left.1.committed right.1.committed same
  obtain ⟨domains, same⟩ := ids_delimits.peel left.1.domains right.1.domains same
  obtain ⟨provenance, same⟩ := writeProvenance_delimits.peel left.2 right.2 same
  refine ⟨?_, same⟩
  cases first
  cases second
  simp only [id_eq, FabricResource.mk.injEq]
  exact ⟨ident, generation, provenance, usable, committed, domains⟩

theorem writeReservation_delimits : Delimits (fun reservation : Reservation =>
    reservation.Writable ∧ reservation.provenance.Writable) writeReservation id := by
  intro first second rest tail left right same
  unfold writeReservation at same
  simp only [List.append_assoc] at same
  obtain ⟨ident, same⟩ := id_delimits.peel trivial trivial same
  obtain ⟨generation, same⟩ := gen_delimits.peel trivial trivial same
  obtain ⟨paths, same⟩ := ids_delimits.peel left.1.paths right.1.paths same
  obtain ⟨resources, same⟩ := ids_delimits.peel left.1.resources right.1.resources same
  obtain ⟨bandwidth, same⟩ := i64_delimits.peel left.1.bandwidth right.1.bandwidth same
  obtain ⟨preemptibility, same⟩ := preemptibility_delimits.peel trivial trivial same
  obtain ⟨priority, same⟩ := u8_delimits.peel trivial trivial same
  obtain ⟨owner, same⟩ := id_delimits.peel trivial trivial same
  obtain ⟨effective, same⟩ := interval_delimits.peel trivial trivial same
  obtain ⟨provenance, same⟩ := writeProvenance_delimits.peel left.2 right.2 same
  refine ⟨?_, same⟩
  cases first
  cases second
  simp only [id_eq, Reservation.mk.injEq]
  exact ⟨ident, generation, provenance, paths, resources, bandwidth, preemptibility,
    priority, owner, effective⟩

theorem writePath_delimits : Delimits (fun path : CandidatePath => path.Writable ∧ path.provenance.Writable)
    writePath id := by
  intro first second rest tail left right same
  unfold writePath at same
  simp only [List.append_assoc] at same
  obtain ⟨ident, same⟩ := id_delimits.peel trivial trivial same
  obtain ⟨generation, same⟩ := gen_delimits.peel trivial trivial same
  obtain ⟨authorityId, same⟩ := id_delimits.peel trivial trivial same
  obtain ⟨authorityGeneration, same⟩ := gen_delimits.peel trivial trivial same
  obtain ⟨setId, same⟩ := id_delimits.peel trivial trivial same
  obtain ⟨setGeneration, same⟩ := gen_delimits.peel trivial trivial same
  obtain ⟨resources, same⟩ := ids_delimits.peel left.1.resources right.1.resources same
  obtain ⟨domains, same⟩ := ids_delimits.peel left.1.domains right.1.domains same
  obtain ⟨labels, same⟩ := strings_delimits.peel left.1.labels right.1.labels same
  obtain ⟨cost, same⟩ := i64_delimits.peel left.1.cost right.1.cost same
  obtain ⟨latency, same⟩ := optional_delimits.peel left.1.latency right.1.latency same
  obtain ⟨scope, same⟩ := scope_delimits.peel trivial trivial same
  obtain ⟨tenant, same⟩ := id_delimits.peel trivial trivial same
  obtain ⟨serviceClass, same⟩ := id_delimits.peel trivial trivial same
  obtain ⟨provenance, same⟩ := writeProvenance_delimits.peel left.2 right.2 same
  refine ⟨?_, same⟩
  obtain ⟨facts, _⟩ := first
  obtain ⟨others, _⟩ := second
  cases facts
  cases others
  simp only [id_eq, CandidatePath.mk.injEq, PathFacts.mk.injEq]
  refine ⟨?_, provenance⟩
  exact ⟨ident, generation, ref_of_parts authorityId authorityGeneration, ref_of_parts setId setGeneration,
    resources, domains, labels, cost, latency, scope, tenant, serviceClass⟩

theorem writeDemand_delimits :
    Delimits (fun demand : Demand => demand.Writable ∧ demand.provenance.Writable)
    writeDemand id := by
  intro first second rest tail left right same
  unfold writeDemand at same
  simp only [List.append_assoc] at same
  obtain ⟨ident, same⟩ := id_delimits.peel trivial trivial same
  obtain ⟨generation, same⟩ := gen_delimits.peel trivial trivial same
  obtain ⟨provenance, same⟩ := writeProvenance_delimits.peel left.2 right.2 same
  obtain ⟨tenant, same⟩ := id_delimits.peel trivial trivial same
  obtain ⟨serviceClass, same⟩ := id_delimits.peel trivial trivial same
  obtain ⟨minimum, same⟩ := i64_delimits.peel left.1.minimum right.1.minimum same
  obtain ⟨desired, same⟩ := i64_delimits.peel left.1.desired right.1.desired same
  obtain ⟨maximum, same⟩ := i64_delimits.peel left.1.maximum right.1.maximum same
  obtain ⟨priority, same⟩ := u8_delimits.peel trivial trivial same
  obtain ⟨latency, same⟩ := optional_delimits.peel left.1.latency right.1.latency same
  obtain ⟨cost, same⟩ := optional_delimits.peel left.1.cost right.1.cost same
  obtain ⟨setId, same⟩ := id_delimits.peel trivial trivial same
  obtain ⟨setGeneration, same⟩ := gen_delimits.peel trivial trivial same
  obtain ⟨allowed, same⟩ := ids_delimits.peel left.1.allowed right.1.allowed same
  obtain ⟨forbidden, same⟩ := ids_delimits.peel left.1.forbidden right.1.forbidden same
  obtain ⟨affinity, same⟩ := ids_delimits.peel left.1.affinity right.1.affinity same
  obtain ⟨antiAffinity, same⟩ := ids_delimits.peel left.1.antiAffinity right.1.antiAffinity same
  obtain ⟨domains, same⟩ := ids_delimits.peel left.1.domains right.1.domains same
  obtain ⟨distinct, same⟩ := u32_delimits.peel trivial trivial same
  obtain ⟨bindings, same⟩ := ids_delimits.peel left.1.bindings right.1.bindings same
  obtain ⟨effective, same⟩ := interval_delimits.peel trivial trivial same
  obtain ⟨preemptibility, same⟩ := preemptibility_delimits.peel trivial trivial same
  obtain ⟨labels, same⟩ := labels_delimits.peel left.1.labels right.1.labels same
  refine ⟨?_, same⟩
  cases first
  cases second
  simp only [id_eq, Demand.mk.injEq]
  exact ⟨ident, generation, provenance, tenant, serviceClass, minimum, desired, maximum,
    priority, latency, cost,
    ref_of_parts setId setGeneration, allowed, forbidden, affinity, antiAffinity, domains,
      distinct, bindings,
    effective, preemptibility, labels⟩

theorem writePolicy_delimits :
    Delimits (fun policy : Policy => policy.Writable ∧ policy.provenance.Writable)
    writePolicy id := by
  intro first second rest tail left right same
  unfold writePolicy at same
  simp only [List.append_assoc] at same
  obtain ⟨ident, same⟩ := id_delimits.peel trivial trivial same
  obtain ⟨generation, same⟩ := gen_delimits.peel trivial trivial same
  obtain ⟨provenance, same⟩ := writeProvenance_delimits.peel left.2 right.2 same
  obtain ⟨preemption, same⟩ := boolean_delimits.peel trivial trivial same
  obtain ⟨minimums, same⟩ := boolean_delimits.peel trivial trivial same
  obtain ⟨degraded, same⟩ := boolean_delimits.peel trivial trivial same
  obtain ⟨diversity, same⟩ := boolean_delimits.peel trivial trivial same
  obtain ⟨utilization, same⟩ := i64_delimits.peel left.1.utilization right.1.utilization same
  obtain ⟨improvement, same⟩ := i64_delimits.peel left.1.improvement right.1.improvement same
  obtain ⟨moved, same⟩ := i64_delimits.peel left.1.moved right.1.moved same
  obtain ⟨risk, same⟩ := i64_delimits.peel left.1.risk right.1.risk same
  obtain ⟨affected, same⟩ := u32_delimits.peel trivial trivial same
  obtain ⟨paths, same⟩ := u32_delimits.peel trivial trivial same
  obtain ⟨tenants, same⟩ := ids_delimits.peel left.1.tenants right.1.tenants same
  obtain ⟨serviceClasses, same⟩ := ids_delimits.peel left.1.serviceClasses right.1.serviceClasses same
  refine ⟨?_, same⟩
  cases first
  cases second
  simp only [id_eq, Policy.mk.injEq]
  exact ⟨ident, generation, provenance, preemption, minimums, degraded, diversity, utilization, improvement,
    moved, risk, affected, paths, tenants, serviceClasses⟩

/-- A sequence of images that give their values back. -/
theorem sequence_delimits {α : Type} {valid : α → Prop} {image : α → List UInt8}
    (delimits : Delimits valid image id) :
    Delimits (fun items : List α => FitsCount items.length ∧ ∀ item ∈ items, valid item)
      (Writer.sequence image) id := by
  apply (delimits.counted count_delimits).determine
  intro first second same
  simpa using same

theorem writeObjective_delimits : Delimits ObjectiveProfile.Writable writeObjective id := by
  have terms : Delimits (fun items : List ObjectiveWeight => FitsCount items.length ∧ ∀ item ∈ items, True)
      (Writer.sequence writeTerm) id := sequence_delimits term_delimits
  intro first second rest tail left right same
  unfold writeObjective at same
  simp only [List.append_assoc] at same
  obtain ⟨ident, same⟩ := id_delimits.peel trivial trivial same
  obtain ⟨generation, same⟩ := gen_delimits.peel trivial trivial same
  obtain ⟨provenance, same⟩ := writeProvenance_delimits.peel left.provenance right.provenance same
  obtain ⟨terms, same⟩ := terms.peel ⟨left.terms, fun _ _ => trivial⟩ ⟨right.terms, fun _ _ => trivial⟩ same
  refine ⟨?_, same⟩
  cases first
  cases second
  simp only [id_eq, ObjectiveProfile.mk.injEq]
  exact ⟨ident, generation, provenance, terms⟩

theorem writeCapacity_delimits : Delimits CapacitySnapshot.Writable writeCapacity id := by
  intro first second rest tail left right same
  unfold writeCapacity at same
  simp only [List.append_assoc] at same
  obtain ⟨ident, same⟩ := id_delimits.peel trivial trivial same
  obtain ⟨generation, same⟩ := gen_delimits.peel trivial trivial same
  obtain ⟨epoch, same⟩ := gen_delimits.peel trivial trivial same
  obtain ⟨provenance, same⟩ := writeProvenance_delimits.peel left.provenance right.provenance same
  obtain ⟨resources, same⟩ := (sequence_delimits writeResource_delimits).peel ⟨left.count, left.resources⟩
    ⟨right.count, right.resources⟩ same
  refine ⟨?_, same⟩
  cases first
  cases second
  simp only [id_eq, CapacitySnapshot.mk.injEq]
  exact ⟨ident, generation, epoch, provenance, resources⟩

theorem writeReservations_delimits : Delimits ReservationSnapshot.Writable writeReservations id := by
  intro first second rest tail left right same
  unfold writeReservations at same
  simp only [List.append_assoc] at same
  obtain ⟨ident, same⟩ := id_delimits.peel trivial trivial same
  obtain ⟨generation, same⟩ := gen_delimits.peel trivial trivial same
  obtain ⟨epoch, same⟩ := gen_delimits.peel trivial trivial same
  obtain ⟨provenance, same⟩ := writeProvenance_delimits.peel left.provenance right.provenance same
  obtain ⟨reservations, same⟩ := (sequence_delimits writeReservation_delimits).peel
    ⟨left.count, left.reservations⟩ ⟨right.count, right.reservations⟩ same
  refine ⟨?_, same⟩
  cases first
  cases second
  simp only [id_eq, ReservationSnapshot.mk.injEq]
  exact ⟨ident, generation, epoch, provenance, reservations⟩

/-- Snapshots whose counts fit are told apart by what they are written as. -/
theorem encodeSnapshot_inj {first second : FabricSnapshot} (left : first.Writable) (right : second.Writable)
    (images : encodeSnapshot first = encodeSnapshot second) : first = second := by
  have same : encodeSnapshot first ++ [] = encodeSnapshot second ++ [] := by rw [images]
  unfold encodeSnapshot writeHeader Writer.ref at same
  simp only [List.append_assoc] at same
  obtain ⟨-, same⟩ := u16_delimits.peel trivial trivial same
  obtain ⟨epoch, same⟩ := gen_delimits.peel trivial trivial same
  obtain ⟨topology, same⟩ := gen_delimits.peel trivial trivial same
  obtain ⟨linkState, same⟩ := gen_delimits.peel trivial trivial same
  obtain ⟨pathAuthority, same⟩ := gen_delimits.peel trivial trivial same
  obtain ⟨failureDomain, same⟩ := gen_delimits.peel trivial trivial same
  obtain ⟨provenance, same⟩ := writeProvenance_delimits.peel left.provenance right.provenance same
  obtain ⟨capacity, same⟩ := writeCapacity_delimits.peel left.capacity right.capacity same
  obtain ⟨reservations, same⟩ := writeReservations_delimits.peel left.reservations right.reservations same
  obtain ⟨policy, same⟩ := writePolicy_delimits.peel left.policy right.policy same
  obtain ⟨objective, same⟩ := writeObjective_delimits.peel left.objective right.objective same
  obtain ⟨setId, same⟩ := id_delimits.peel trivial trivial same
  obtain ⟨setGeneration, same⟩ := gen_delimits.peel trivial trivial same
  obtain ⟨demands, same⟩ := (sequence_delimits writeDemand_delimits).peel ⟨left.demandCount, left.demands⟩
    ⟨right.demandCount, right.demands⟩ same
  obtain ⟨paths, same⟩ := (sequence_delimits writePath_delimits).peel ⟨left.pathCount, left.paths⟩
    ⟨right.pathCount, right.paths⟩ same
  obtain ⟨tick, -⟩ := u64_delimits.peel trivial trivial same
  cases first
  cases second
  rw [FabricSnapshot.mk.injEq]
  exact ⟨epoch, topology, linkState, pathAuthority, failureDomain, provenance, capacity,
    reservations, policy,
    objective, ref_of_parts setId setGeneration, demands, paths, tick⟩

/-! How long an image is. -/

theorem length_str (value : Text) : (Writer.str value).length = 4 + value.length := by
  unfold Writer.str
  rw [List.length_append]
  rfl

theorem length_sequence {α : Type} (image : α → List UInt8) (items : List α) :
    (Writer.sequence image items).length = 4 + (items.flatMap image).length := by
  unfold Writer.sequence
  rw [List.length_append]
  rfl

theorem length_flatMap_le {α : Type} {image : α → List UInt8} {items : List α} {most : Nat}
    (each : ∀ item ∈ items, (image item).length ≤ most) :
    (items.flatMap image).length ≤ items.length * most := by
  induction items with
  | nil => exact Nat.zero_le _
  | cons item rest ih =>
      have first := each item List.mem_cons_self
      have later := ih fun other member => each other (List.mem_cons_of_mem _ member)
      rw [List.flatMap_cons, List.length_append, List.length_cons, Nat.succ_mul]
      omega

theorem length_sequence_le {α : Type} (image : α → List UInt8) {items : List α} {limit most : Nat}
    (few : items.length ≤ limit) (each : ∀ item ∈ items, (image item).length ≤ most) :
    (Writer.sequence image items).length ≤ 4 + limit * most := by
  have all : (items.flatMap image).length ≤ items.length * most := length_flatMap_le each
  have scaled := Nat.mul_le_mul_right most few
  rw [length_sequence]
  omega

/-- An image of four bytes or more for each element. -/
theorem length_le_sequence {α : Type} {image : α → List UInt8} (each : ∀ item, 4 ≤ (image item).length)
    (items : List α) : 4 * items.length ≤ (Writer.sequence image items).length := by
  rw [length_sequence]
  induction items with
  | nil => exact Nat.zero_le _
  | cons item rest ih =>
      have first := each item
      rw [List.flatMap_cons, List.length_append, List.length_cons]
      omega

theorem length_mem_le_sequence {α : Type} (image : α → List UInt8) {items : List α} {item : α}
    (member : item ∈ items) : (image item).length ≤ (Writer.sequence image items).length := by
  rw [length_sequence]
  have inside : (image item).length ≤ (items.flatMap image).length :=
    (List.sublist_flatten_of_mem (List.mem_map_of_mem member)).length_le
  omega

theorem length_ids_le {kind : IdKind} {limit : Nat} {ids : List (Id kind)} (named : NamedWithin limit ids) :
    (Writer.ids ids).length ≤ 4 + limit * 100 :=
  length_sequence_le _ named.1 fun id _ => Writer.length_str_id id

theorem length_le_ids {kind : IdKind} (ids : List (Id kind)) : 4 * ids.length ≤ (Writer.ids ids).length :=
  length_le_sequence (fun id => by rw [length_str]; omega) ids

theorem length_optional_le (value : Option Int) : (Writer.optional Writer.i64 value).length ≤ 9 := by
  cases value with
  | none => exact Nat.le_add_left 1 8
  | some value => exact le_refl 9

theorem length_writeProvenance {provenance : Provenance} (readable : provenance.Readable) :
    (writeProvenance provenance).length ≤ 664 := by
  have source := Writer.length_str_id provenance.source
  have detail := readable.detail
  have wide : ∀ value : UInt64, (Writer.u64 value).length = 8 := fun _ => rfl
  unfold Limits.maxTextLength at detail
  have text := length_str provenance.detail
  unfold writeProvenance
  simp only [List.length_append, wide, Writer.length_digest]
  omega

theorem length_writeResource {resource : FabricResource} (readable : resource.Readable) :
    (writeResource resource).length ≤ 3000 := by
  have id := Writer.length_str_id resource.id
  have domains := length_ids_le readable.domains
  have provenance := length_writeProvenance readable.provenance
  have wide : ∀ value : UInt64, (Writer.u64 value).length = 8 := fun _ => rfl
  unfold Limits.maxDomainsPerPath at domains
  unfold writeResource
  simp only [List.length_append, wide, Writer.length_i64]
  omega

theorem length_writeReservation {reservation : Reservation} (readable : reservation.Readable) :
    (writeReservation reservation).length ≤ 40000 := by
  have id := Writer.length_str_id reservation.id
  have owner := Writer.length_str_id reservation.owner
  have paths := length_ids_le readable.paths
  have resources := length_ids_le readable.resources
  have provenance := length_writeProvenance readable.provenance
  have wide : ∀ value : UInt64, (Writer.u64 value).length = 8 := fun _ => rfl
  have byte : ∀ value : UInt8, (Writer.u8 value).length = 1 := fun _ => rfl
  have interval : (Writer.interval reservation.effective).length = 17 := rfl
  unfold Limits.maxConstraintRefs at paths
  unfold Limits.maxResourcesPerPath at resources
  unfold writeReservation
  simp only [List.length_append, wide, byte, interval, Writer.length_i64]
  omega

theorem length_writePath {path : CandidatePath} (readable : path.Readable) :
    (writePath path).length ≤ 100000 := by
  have id := Writer.length_str_id path.id
  have authority := Writer.length_str_id path.authority.id
  have candidateSet := Writer.length_str_id path.candidateSet.id
  have tenant := Writer.length_str_id path.scopeTenant
  have serviceClass := Writer.length_str_id path.scopeServiceClass
  have resources := length_ids_le readable.resources
  have domains := length_ids_le readable.domains
  have latency := length_optional_le path.latencyMicros
  have provenance := length_writeProvenance readable.provenance
  have labels : (Writer.strings path.policyLabels).length ≤ 4 + 128 * 516 := by
    have most : ∀ label ∈ path.policyLabels, (Writer.str label).length ≤ 516 := by
      intro label member
      have short := readable.labels.2 label member
      unfold Limits.maxTextLength at short
      rw [length_str]
      omega
    exact length_sequence_le _ readable.labels.1 most
  have wide : ∀ value : UInt64, (Writer.u64 value).length = 8 := fun _ => rfl
  have byte : ∀ value : UInt8, (Writer.u8 value).length = 1 := fun _ => rfl
  unfold Limits.maxResourcesPerPath at resources
  unfold Limits.maxDomainsPerPath at domains
  unfold writePath
  simp only [List.length_append, wide, byte, Writer.length_i64]
  omega

theorem length_writeDemand {demand : Demand} (readable : demand.Readable) :
    (writeDemand demand).length ≤ 200000 := by
  have id := Writer.length_str_id demand.id
  have tenant := Writer.length_str_id demand.tenant
  have serviceClass := Writer.length_str_id demand.serviceClass
  have candidateSet := Writer.length_str_id demand.candidateSet.id
  have provenance := length_writeProvenance readable.provenance
  have latency := length_optional_le demand.latencyBoundMicros
  have cost := length_optional_le demand.pathCostCeiling
  have allowed := length_ids_le readable.allowed
  have forbidden := length_ids_le readable.forbidden
  have affinity := length_ids_le readable.affinity
  have antiAffinity := length_ids_le readable.antiAffinity
  have domains := length_ids_le readable.domains
  have bindings := length_ids_le readable.bindings
  have interval : (Writer.interval demand.effective).length = 17 := rfl
  have labels : (Writer.labels demand.labels).length ≤ 4 + 256 * 616 := by
    have most : ∀ label ∈ demand.labels, (Writer.str label.1 ++ Writer.str label.2).length ≤ 616 := by
      intro label member
      have short := readable.labels.2 label member
      unfold Limits.maxNameLength Limits.maxTextLength at short
      rw [List.length_append, length_str, length_str]
      omega
    exact length_sequence_le _ readable.labels.1 most
  have wide : ∀ value : UInt64, (Writer.u64 value).length = 8 := fun _ => rfl
  have word : ∀ value : UInt32, (Writer.u32 value).length = 4 := fun _ => rfl
  have byte : ∀ value : UInt8, (Writer.u8 value).length = 1 := fun _ => rfl
  unfold Limits.maxConstraintRefs at allowed forbidden affinity antiAffinity bindings
  unfold Limits.maxDomainsPerPath at domains
  unfold writeDemand
  simp only [List.length_append, wide, word, byte, interval, Writer.length_i64]
  omega

theorem length_writePolicy {policy : Policy} (readable : policy.Readable) :
    (writePolicy policy).length ≤ 60000 := by
  have id := Writer.length_str_id policy.id
  have provenance := length_writeProvenance readable.provenance
  have tenants := length_ids_le readable.tenants
  have serviceClasses := length_ids_le readable.serviceClasses
  have wide : ∀ value : UInt64, (Writer.u64 value).length = 8 := fun _ => rfl
  have word : ∀ value : UInt32, (Writer.u32 value).length = 4 := fun _ => rfl
  have flag : ∀ value : Bool, (Writer.boolean value).length = 1 := fun _ => rfl
  unfold Limits.maxConstraintRefs at tenants serviceClasses
  unfold writePolicy
  simp only [List.length_append, wide, word, flag, Writer.length_i64]
  omega

theorem length_writeObjective {profile : ObjectiveProfile} (readable : profile.Readable) :
    (writeObjective profile).length ≤ 1000 := by
  have id := Writer.length_str_id profile.id
  have provenance := length_writeProvenance readable.provenance
  have terms : (Writer.sequence writeTerm profile.terms).length ≤ 4 + 16 * 10 := by
    have most : ∀ entry ∈ profile.terms, (writeTerm entry).length ≤ 10 := fun _ _ => le_refl 10
    exact length_sequence_le _ readable.terms most
  have wide : ∀ value : UInt64, (Writer.u64 value).length = 8 := fun _ => rfl
  unfold writeObjective
  simp only [List.length_append, wide]
  omega

/-- A snapshot within the bounds of the readers is shorter than the shortest encoding of a list
whose count does not fit. -/
theorem length_encodeSnapshot_lt {snapshot : FabricSnapshot} (readable : snapshot.Readable) :
    (encodeSnapshot snapshot).length < 2 ^ 34 := by
  have header := length_writeProvenance readable.header.provenance
  have capacityId := Writer.length_str_id snapshot.capacity.id
  have capacity := length_writeProvenance readable.capacity.provenance
  have resources := length_sequence_le writeResource readable.capacity.count fun resource member =>
    length_writeResource (readable.capacity.resources resource member)
  have reservationsId := Writer.length_str_id snapshot.reservations.id
  have reserved := length_writeProvenance readable.reservations.provenance
  have reservations := length_sequence_le writeReservation readable.reservations.count
    fun reservation member =>
      length_writeReservation (readable.reservations.reservations reservation member)
  have policy := length_writePolicy readable.policy
  have objective := length_writeObjective readable.objective
  have candidateSet := Writer.length_ref snapshot.candidateSet
  have demands := length_sequence_le writeDemand readable.demandCount fun demand member =>
    length_writeDemand (readable.demands demand member)
  have paths := length_sequence_le writePath readable.pathCount fun path member =>
    length_writePath (readable.paths path member)
  have wide : ∀ value : UInt64, (Writer.u64 value).length = 8 := fun _ => rfl
  have narrow : ∀ value : UInt16, (Writer.u16 value).length = 2 := fun _ => rfl
  unfold Limits.maxResources at resources
  unfold Limits.maxReservations at reservations
  unfold Limits.maxDemands at demands
  unfold Limits.maxTotalCandidatePaths at paths
  unfold encodeSnapshot writeHeader writeCapacity writeReservations
  simp only [List.length_append, wide, narrow]
  omega

end SnapshotCodec

end TrafficFabric
