import TrafficFabric.ReaderImages
import TrafficFabric.SnapshotCodec

set_option autoImplicit false

/- What the decoder of a snapshot reads: the images of the snapshots that keep its bounds, and
nothing else. -/
namespace TrafficFabric

/-! What the decoder asks of what is written. -/

/-- Identities that are set, and no more of them than the reader takes. -/
def NamedWithin {kind : IdKind} (limit : Nat) (ids : List (Id kind)) : Prop :=
  ids.length ≤ limit ∧ ∀ id ∈ ids, id.valid = true

structure Provenance.Readable (provenance : Provenance) : Prop where
  source : provenance.source.valid = true
  detail : provenance.detail.length ≤ Limits.maxTextLength

structure FabricResource.Readable (resource : FabricResource) : Prop where
  named : resource.id.valid = true
  numbered : resource.generation.valid = true
  usable : InInt64 resource.usableCapacity
  committed : InInt64 resource.committedLoad
  domains : NamedWithin Limits.maxDomainsPerPath resource.failureDomains
  provenance : resource.provenance.Readable

structure Reservation.Readable (reservation : Reservation) : Prop where
  named : reservation.id.valid = true
  numbered : reservation.generation.valid = true
  paths : NamedWithin Limits.maxConstraintRefs reservation.paths
  resources : NamedWithin Limits.maxResourcesPerPath reservation.resources
  bandwidth : InInt64 reservation.bandwidth
  provenance : reservation.provenance.Readable

structure CandidatePath.Readable (path : CandidatePath) : Prop where
  named : path.id.valid = true
  numbered : path.generation.valid = true
  authority : path.authority.valid = true
  candidateSet : path.candidateSet.valid = true
  resources : NamedWithin Limits.maxResourcesPerPath path.resources
  domains : NamedWithin Limits.maxDomainsPerPath path.failureDomains
  labels : path.policyLabels.length ≤ Limits.maxConstraintRefs * 2 ∧
    ∀ label ∈ path.policyLabels, label.length ≤ Limits.maxTextLength
  cost : InInt64 path.cost
  latency : ∀ latency ∈ path.latencyMicros, InInt64 latency
  provenance : path.provenance.Readable

structure Demand.Readable (demand : Demand) : Prop where
  named : demand.id.valid = true
  numbered : demand.generation.valid = true
  provenance : demand.provenance.Readable
  minimum : InInt64 demand.minimumBandwidth
  desired : InInt64 demand.desiredBandwidth
  maximum : InInt64 demand.maximumBandwidth
  latency : ∀ bound ∈ demand.latencyBoundMicros, InInt64 bound
  cost : ∀ ceiling ∈ demand.pathCostCeiling, InInt64 ceiling
  candidateSet : demand.candidateSet.valid = true
  allowed : NamedWithin Limits.maxConstraintRefs demand.allowedPaths
  forbidden : NamedWithin Limits.maxConstraintRefs demand.forbiddenPaths
  affinity : NamedWithin Limits.maxConstraintRefs demand.affinity
  antiAffinity : NamedWithin Limits.maxConstraintRefs demand.antiAffinity
  domains : NamedWithin Limits.maxDomainsPerPath demand.requiredFailureDomains
  bindings : NamedWithin Limits.maxConstraintRefs demand.reservationBindings
  labels : demand.labels.length ≤ Limits.maxConstraintRefs * 4 ∧ ∀ label ∈ demand.labels,
    label.1.length ≤ Limits.maxNameLength ∧ label.2.length ≤ Limits.maxTextLength

structure Policy.Readable (policy : Policy) : Prop where
  named : policy.id.valid = true
  numbered : policy.generation.valid = true
  provenance : policy.provenance.Readable
  utilization : InInt64 policy.maxUtilizationPermille
  improvement : InInt64 policy.churnImprovementThresholdPermille
  moved : InInt64 policy.churnMaxMovedBandwidthPermille
  risk : InInt64 policy.churnMaxOperationalRiskPermille
  tenants : NamedWithin (Limits.maxConstraintRefs * 4) policy.allowedTenants
  serviceClasses : NamedWithin (Limits.maxConstraintRefs * 4) policy.allowedServiceClasses

structure ObjectiveProfile.Readable (profile : ObjectiveProfile) : Prop where
  named : profile.id.valid = true
  numbered : profile.generation.valid = true
  provenance : profile.provenance.Readable
  terms : profile.terms.length ≤ 16

structure CapacitySnapshot.Readable (capacity : CapacitySnapshot) : Prop where
  named : capacity.id.valid = true
  numbered : capacity.generation.valid = true
  fabricEpoch : capacity.fabricEpoch.valid = true
  provenance : capacity.provenance.Readable
  count : capacity.resources.length ≤ Limits.maxResources
  resources : ∀ resource ∈ capacity.resources, resource.Readable

structure ReservationSnapshot.Readable (reservations : ReservationSnapshot) : Prop where
  named : reservations.id.valid = true
  numbered : reservations.generation.valid = true
  fabricEpoch : reservations.fabricEpoch.valid = true
  provenance : reservations.provenance.Readable
  count : reservations.reservations.length ≤ Limits.maxReservations
  reservations : ∀ reservation ∈ reservations.reservations, reservation.Readable

/-- The generations of the fabric are set, and where they come from. -/
structure FabricSnapshot.Headed (snapshot : FabricSnapshot) : Prop where
  fabricEpoch : snapshot.fabricEpoch.valid = true
  topology : snapshot.topologyGeneration.valid = true
  linkState : snapshot.linkStateGeneration.valid = true
  pathAuthority : snapshot.pathAuthorityGeneration.valid = true
  failureDomain : snapshot.failureDomainGeneration.valid = true
  provenance : snapshot.provenance.Readable

structure FabricSnapshot.Readable (snapshot : FabricSnapshot) : Prop where
  header : snapshot.Headed
  capacity : snapshot.capacity.Readable
  reservations : snapshot.reservations.Readable
  policy : snapshot.policy.Readable
  objective : snapshot.objective.Readable
  candidateSet : snapshot.candidateSet.valid = true
  demandCount : snapshot.demands.length ≤ Limits.maxDemands
  demands : ∀ demand ∈ snapshot.demands, demand.Readable
  pathCount : snapshot.paths.length ≤ Limits.maxTotalCandidatePaths
  paths : ∀ path ∈ snapshot.paths, path.Readable

namespace SnapshotCodec

open Reader (u8_finds u16_finds u32_finds u64_finds i64_finds boolean_finds str_finds digest_finds
  u8_spells u16_spells u32_spells u64_spells i64_spells boolean_spells str_spells digest_spells)
open PlanCodec (parse_str_some parse_value_some str_of_parse value_of_parse name_finds bounded_codec
  requiredId_codec requiredGen_codec ofCode_code)

/-! Fields. -/

theorem part_codec {α : Type} {read : Reader α} {image : α → List UInt8} {holds : α → Prop}
    (finds : ∀ value, holds value → Finds read (image value) value) (spells : read.Spells image holds) :
    Codec (part read) image holds := by
  refine ⟨?_, ?_⟩
  · intro value fact rest
    unfold part
    rw [finds value fact rest]
  · intro bytes value rest found
    unfold part at found
    cases run : read bytes with
    | none =>
        rw [run] at found
        cases found
    | some pair =>
        rw [run] at found
        cases found
        obtain ⟨split, fact⟩ := spells bytes value rest run
        exact ⟨image value, split, rfl, fact⟩

theorem u8_codec : Codec (part Reader.u8) Writer.u8 fun _ => True :=
  part_codec (fun value _ => u8_finds value) u8_spells

theorem u16_codec : Codec (part Reader.u16) Writer.u16 fun _ => True :=
  part_codec (fun value _ => u16_finds value) u16_spells

theorem u32_codec : Codec (part Reader.u32) Writer.u32 fun _ => True :=
  part_codec (fun value _ => u32_finds value) u32_spells

theorem u64_codec : Codec (part Reader.u64) Writer.u64 fun _ => True :=
  part_codec (fun value _ => u64_finds value) u64_spells

theorem boolean_codec : Codec (part Reader.boolean) Writer.boolean fun _ => True :=
  part_codec (fun value _ => boolean_finds value) boolean_spells

theorem digest_codec : Codec (part Reader.digest) Writer.digest fun _ => True :=
  part_codec (fun value _ => digest_finds value) digest_spells

theorem i64_codec : Codec (part Reader.i64) Writer.i64 InInt64 := by
  refine part_codec (fun value inside => ?_) i64_spells
  have finds := i64_finds value
  rwa [wrap64_eq inside] at finds

theorem str_codec {maxLength : Nat} (small : maxLength < 2 ^ 32) :
    Codec (part (Reader.str maxLength)) Writer.str fun value => value.length ≤ maxLength :=
  part_codec (fun _ short => str_finds (lt_of_le_of_lt short small) short) (str_spells maxLength)

theorem name_codec : Codec (part (Reader.str Limits.maxNameLength)) Writer.str
    fun value => value.length ≤ Limits.maxNameLength := str_codec (by decide)

theorem text_codec : Codec readText Writer.str fun value => value.length ≤ Limits.maxTextLength :=
  str_codec (by decide)

theorem accept_yields {α : Type} {attempt : Option α} {value : α} (found : attempt = some value) :
    Yields (accept attempt) [] value := by
  rw [found]
  exact Yields.pure value

theorem accept_consumes {α : Type} (attempt : Option α) :
    Consumes (accept attempt) fun value word => word = [] ∧ attempt = some value := by
  cases attempt with
  | none => exact Consumes.throw _
  | some value => exact Consumes.pure ⟨rfl, rfl⟩

theorem id_codec {kind : IdKind} :
    Codec (readId : Entry (Id kind)) (fun id => Writer.str id.str) fun id => id.valid = true := by
  refine ⟨fun id valid => ?_, ?_⟩
  · exact (name_codec.yields _ id.length_le).finish (accept_yields (parse_str_some valid))
  · refine name_codec.consumes.bind fun name _ ⟨spelled, _⟩ => ?_
    refine (accept_consumes _).mono fun id _ ⟨nothing, read⟩ => ?_
    obtain ⟨rfl, valid⟩ := str_of_parse read
    rw [spelled, nothing]
    exact ⟨List.append_nil _, valid⟩

theorem gen_codec {kind : GenKind} : Codec (readGen : Entry (Gen kind))
    (fun generation => Writer.u64 generation.value) fun generation => generation.valid = true := by
  refine ⟨fun generation valid => ?_, ?_⟩
  · exact (u64_codec.yields _ trivial).finish (accept_yields (parse_value_some valid))
  · refine u64_codec.consumes.bind fun value _ ⟨spelled, _⟩ => ?_
    refine (accept_consumes _).mono fun generation _ ⟨nothing, read⟩ => ?_
    obtain ⟨rfl, valid⟩ := value_of_parse read
    rw [spelled, nothing]
    exact ⟨List.append_nil _, valid⟩

theorem optionalId_codec {kind : IdKind} :
    Codec (readOptionalId : Entry (Id kind)) (fun id => Writer.str id.str) fun _ => True := by
  refine ⟨fun id _ => ?_, ?_⟩
  · refine (name_codec.yields id.str id.length_le).finish ?_
    by_cases empty : id.str.isEmpty = true
    · have absent : (default : Id kind) = id := Id.ext (List.isEmpty_iff.mp empty).symm
      rw [if_pos empty, absent]
      exact Yields.pure id
    · have valid : id.valid = true := by simpa [Id.valid, Id.str] using empty
      rw [if_neg empty]
      exact accept_yields (parse_str_some valid)
  · refine name_codec.consumes.bind fun name _ spelled => Consumes.ite (fun empty => ?_) fun _ => ?_
    · have nothing : name = [] := List.isEmpty_iff.1 empty
      refine Consumes.pure ⟨?_, trivial⟩
      rw [spelled.1, nothing]
      rfl
    · refine (accept_consumes _).mono fun id _ accepted => ?_
      obtain ⟨nothing, read⟩ := accepted
      obtain ⟨rfl, -⟩ := str_of_parse read
      rw [spelled.1, nothing]
      exact ⟨List.append_nil _, trivial⟩

theorem ref_codec {id : IdKind} {generation : GenKind} :
    Codec (readRef : Entry (Ref id generation)) Writer.ref fun ref => ref.valid = true := by
  refine ⟨fun ref valid => ?_, ?_⟩
  · rw [Ref.valid, Bool.and_eq_true] at valid
    exact (id_codec.yields _ valid.1).bind (gen_codec.yields _ valid.2).bind_pure
  · refine id_codec.consumes.bind fun name _ spelled => ?_
    refine gen_codec.consumes.bind fun value _ counted => Consumes.pure ⟨?_, ?_⟩
    · rw [spelled.1, counted.1, List.append_nil]
      rfl
    · rw [Ref.valid, spelled.2, counted.2]
      rfl

theorem counted_codec {α : Type} {element : Entry α} {image : α → List UInt8} {holds : α → Prop}
    {limit : Nat} (codec : Codec element image holds) (small : limit < 2 ^ 32) :
    Codec (readCounted limit element) (Writer.sequence image)
      fun items => items.length ≤ limit ∧ ∀ item ∈ items, holds item := by
  refine ⟨fun items facts => ?_, ?_⟩
  · have fits : FitsCount items.length := lt_of_le_of_lt facts.1 small
    have all := (codec.repeated items.length).yields items ⟨rfl, facts.2⟩
    rw [← Reader.toNat_count fits] at all
    refine (u32_codec.yields items.length.toUInt32 trivial).bind ?_
    rw [if_neg (by rw [Reader.toNat_count fits]; exact not_lt.2 facts.1)]
    exact all
  · refine u32_codec.consumes.bind fun count _ ⟨spelled, _⟩ =>
      Consumes.ite (fun _ => Consumes.throw _) fun few => ?_
    refine (codec.repeated count.toNat).consumes.mono fun items _ ⟨read, counted, facts⟩ => ?_
    have written : Writer.count items.length = Writer.u32 count := by
      unfold Writer.count
      rw [counted, Nat.toUInt32_eq, UInt32.ofNat_toNat]
    refine ⟨?_, ?_, facts⟩
    · rw [spelled, read, ← written]
      rfl
    · rw [counted]
      exact not_lt.1 few

theorem ids_codec {kind : IdKind} {limit : Nat} (small : limit < 2 ^ 32) :
    Codec (readIds limit : Entry (List (Id kind))) Writer.ids (NamedWithin limit) :=
  counted_codec id_codec small

theorem strings_codec {limit : Nat} (small : limit < 2 ^ 32) : Codec (readStrings limit) Writer.strings
    fun items => items.length ≤ limit ∧ ∀ item ∈ items, item.length ≤ Limits.maxTextLength :=
  counted_codec text_codec small

theorem label_codec : Codec readLabel (fun label => Writer.str label.1 ++ Writer.str label.2)
    fun label => label.1.length ≤ Limits.maxNameLength ∧ label.2.length ≤ Limits.maxTextLength := by
  refine ⟨fun label short => ?_, ?_⟩
  · exact (name_codec.yields _ short.1).bind (text_codec.yields _ short.2).bind_pure
  · refine name_codec.consumes.bind fun key _ ⟨spelled, short⟩ => ?_
    refine text_codec.consumes.bind fun value _ ⟨written, brief⟩ => Consumes.pure ⟨?_, short, brief⟩
    rw [spelled, written, List.append_nil]

theorem labels_codec : Codec readLabels Writer.labels fun labels =>
    labels.length ≤ Limits.maxConstraintRefs * 4 ∧ ∀ label ∈ labels,
      label.1.length ≤ Limits.maxNameLength ∧ label.2.length ≤ Limits.maxTextLength :=
  counted_codec label_codec (by decide)

theorem optional_codec : Codec readOptional (Writer.optional Writer.i64)
    fun value => ∀ inside ∈ value, InInt64 inside := by
  refine ⟨fun value inside => ?_, ?_⟩
  · cases value with
    | none => exact (boolean_codec.yields false trivial).finish (Yields.pure none)
    | some present =>
        exact (boolean_codec.yields true trivial).bind
          (i64_codec.yields present (inside present rfl)).bind_pure
  · refine boolean_codec.consumes.bind fun present _ ⟨spelled, _⟩ => ?_
    cases present with
    | false =>
        refine Consumes.pure ⟨?_, nofun⟩
        rw [spelled]
        rfl
    | true =>
        refine i64_codec.consumes.bind fun value _ ⟨written, inside⟩ => Consumes.pure ⟨?_, ?_⟩
        · rw [spelled, written, List.append_nil]
          rfl
        · rintro found ⟨⟩
          exact inside

theorem interval_codec : Codec readInterval Writer.interval fun _ => True := by
  refine ⟨fun interval _ => ?_, ?_⟩
  · unfold Writer.interval
    rw [List.append_assoc]
    refine (u64_codec.yields _ trivial).bind ?_
    exact (u64_codec.yields _ trivial).bind (boolean_codec.yields _ trivial).bind_pure
  · refine u64_codec.consumes.bind fun startTick _ ⟨first, _⟩ => ?_
    refine u64_codec.consumes.bind fun endTick _ ⟨second, _⟩ => ?_
    refine boolean_codec.consumes.bind fun openEnded _ ⟨third, _⟩ => Consumes.pure ⟨?_, trivial⟩
    rw [first, second, third, List.append_nil, ← List.append_assoc]
    rfl

/-- An enumeration is read through the list of its values. -/
theorem listed_codec {α κ : Type} [DecidableEq κ] {read : Reader κ} {image : κ → List UInt8}
    {values : List α} {code : α → κ} (codec : Codec (part read) image fun _ => True)
    (listed : ∀ value, ofCode values code (code value) = some value) :
    Codec (part read >>= fun raw => accept (ofCode values code raw)) (fun value => image (code value))
      fun _ => True := by
  refine ⟨fun value _ => (codec.yields _ trivial).finish (accept_yields (listed value)), ?_⟩
  refine codec.consumes.bind fun raw _ ⟨spelled, _⟩ => ?_
  refine (accept_consumes _).mono fun value _ ⟨nothing, found⟩ => ⟨?_, trivial⟩
  have coded : code value = raw := by simpa using List.find?_some found
  rw [spelled, nothing, coded, List.append_nil]

theorem preemptibility_codec :
    Codec readPreemptibility (fun value => Writer.u8 value.code) fun _ => True :=
  listed_codec u8_codec fun value => by cases value <;> rfl

theorem scope_codec : Codec readScope (fun value => Writer.u8 value.code) fun _ => True :=
  listed_codec u8_codec fun value => by cases value <;> rfl

/-! Entries. -/

theorem provenance_codec : Codec readProvenance writeProvenance Provenance.Readable := by
  refine ⟨fun provenance readable => ?_, ?_⟩
  · unfold writeProvenance
    simp only [List.append_assoc]
    refine (id_codec.yields _ readable.source).bind ?_
    refine (u64_codec.yields _ trivial).bind ?_
    refine (u64_codec.yields _ trivial).bind ?_
    refine (digest_codec.yields _ trivial).bind ?_
    exact (text_codec.yields _ readable.detail).bind_pure
  · refine id_codec.consumes.bind fun source _ ⟨first, named⟩ => ?_
    refine u64_codec.consumes.bind fun sourceGeneration _ ⟨second, _⟩ => ?_
    refine u64_codec.consumes.bind fun observedTick _ ⟨third, _⟩ => ?_
    refine digest_codec.consumes.bind fun evidenceDigest _ ⟨fourth, _⟩ => ?_
    refine text_codec.consumes.bind fun detail _ ⟨fifth, short⟩ => Consumes.pure ⟨?_, named, short⟩
    simp only [writeProvenance, first, second, third, fourth, fifth, List.append_assoc, List.append_nil]

theorem resource_codec : Codec readResource writeResource FabricResource.Readable := by
  refine ⟨fun resource readable => ?_, ?_⟩
  · unfold writeResource
    simp only [List.append_assoc]
    refine (id_codec.yields _ readable.named).bind ?_
    refine (gen_codec.yields _ readable.numbered).bind ?_
    refine (i64_codec.yields _ readable.usable).bind ?_
    refine (i64_codec.yields _ readable.committed).bind ?_
    refine ((ids_codec (by decide)).yields _ readable.domains).bind ?_
    exact (provenance_codec.yields _ readable.provenance).bind_pure
  · refine id_codec.consumes.bind fun id _ ⟨first, named⟩ => ?_
    refine gen_codec.consumes.bind fun generation _ ⟨second, numbered⟩ => ?_
    refine i64_codec.consumes.bind fun usableCapacity _ ⟨third, usable⟩ => ?_
    refine i64_codec.consumes.bind fun committedLoad _ ⟨fourth, committed⟩ => ?_
    refine (ids_codec (by decide)).consumes.bind fun failureDomains _ ⟨fifth, domains⟩ => ?_
    refine provenance_codec.consumes.bind fun provenance _ ⟨sixth, readable⟩ =>
      Consumes.pure ⟨?_, named, numbered, usable, committed, domains, readable⟩
    simp only [writeResource, first, second, third, fourth, fifth, sixth,
      List.append_assoc, List.append_nil]

theorem reservation_codec : Codec readReservation writeReservation Reservation.Readable := by
  refine ⟨fun reservation readable => ?_, ?_⟩
  · unfold writeReservation
    simp only [List.append_assoc]
    refine (id_codec.yields _ readable.named).bind ?_
    refine (gen_codec.yields _ readable.numbered).bind ?_
    refine ((ids_codec (by decide)).yields _ readable.paths).bind ?_
    refine ((ids_codec (by decide)).yields _ readable.resources).bind ?_
    refine (i64_codec.yields _ readable.bandwidth).bind ?_
    refine (preemptibility_codec.yields _ trivial).bind ?_
    refine (u8_codec.yields _ trivial).bind ?_
    refine (optionalId_codec.yields _ trivial).bind ?_
    refine (interval_codec.yields _ trivial).bind ?_
    exact (provenance_codec.yields _ readable.provenance).bind_pure
  · refine id_codec.consumes.bind fun id _ ⟨first, named⟩ => ?_
    refine gen_codec.consumes.bind fun generation _ ⟨second, numbered⟩ => ?_
    refine (ids_codec (by decide)).consumes.bind fun paths _ ⟨third, crossed⟩ => ?_
    refine (ids_codec (by decide)).consumes.bind fun resources _ ⟨fourth, used⟩ => ?_
    refine i64_codec.consumes.bind fun bandwidth _ ⟨fifth, width⟩ => ?_
    refine preemptibility_codec.consumes.bind fun preemptibility _ ⟨sixth, _⟩ => ?_
    refine u8_codec.consumes.bind fun priority _ ⟨seventh, _⟩ => ?_
    refine optionalId_codec.consumes.bind fun owner _ ⟨eighth, _⟩ => ?_
    refine interval_codec.consumes.bind fun effective _ ⟨ninth, _⟩ => ?_
    refine provenance_codec.consumes.bind fun provenance _ ⟨tenth, readable⟩ =>
      Consumes.pure ⟨?_, named, numbered, crossed, used, width, readable⟩
    simp only [writeReservation, first, second, third, fourth, fifth, sixth, seventh, eighth, ninth, tenth,
      List.append_assoc, List.append_nil]

theorem path_codec : Codec readPath writePath CandidatePath.Readable := by
  refine ⟨fun path readable => ?_, ?_⟩
  · have image : writePath path = Writer.str path.id.str ++ (Writer.u64 path.generation.value ++
        (Writer.ref path.authority ++ (Writer.ref path.candidateSet ++ (Writer.ids path.resources ++
        (Writer.ids path.failureDomains ++ (Writer.strings path.policyLabels ++ (Writer.i64 path.cost ++
        (Writer.optional Writer.i64 path.latencyMicros ++ (Writer.u8 path.scope.code ++
        (Writer.str path.scopeTenant.str ++ (Writer.str path.scopeServiceClass.str ++
        writeProvenance path.provenance))))))))))) := by
      simp only [writePath, Writer.ref, List.append_assoc]
    rw [image]
    refine (id_codec.yields _ readable.named).bind ?_
    refine (gen_codec.yields _ readable.numbered).bind ?_
    refine (ref_codec.yields _ readable.authority).bind ?_
    refine (ref_codec.yields _ readable.candidateSet).bind ?_
    refine ((ids_codec (by decide)).yields _ readable.resources).bind ?_
    refine ((ids_codec (by decide)).yields _ readable.domains).bind ?_
    refine ((strings_codec (by decide)).yields _ readable.labels).bind ?_
    refine (i64_codec.yields _ readable.cost).bind ?_
    refine (optional_codec.yields _ readable.latency).bind ?_
    refine (scope_codec.yields _ trivial).bind ?_
    refine (optionalId_codec.yields _ trivial).bind ?_
    refine (optionalId_codec.yields _ trivial).bind ?_
    exact (provenance_codec.yields _ readable.provenance).bind_pure
  · refine id_codec.consumes.bind fun id _ ⟨first, named⟩ => ?_
    refine gen_codec.consumes.bind fun generation _ ⟨second, numbered⟩ => ?_
    refine ref_codec.consumes.bind fun authority _ ⟨third, authorised⟩ => ?_
    refine ref_codec.consumes.bind fun candidateSet _ ⟨fourth, listed⟩ => ?_
    refine (ids_codec (by decide)).consumes.bind fun resources _ ⟨fifth, crossed⟩ => ?_
    refine (ids_codec (by decide)).consumes.bind fun failureDomains _ ⟨sixth, domains⟩ => ?_
    refine (strings_codec (by decide)).consumes.bind fun policyLabels _ ⟨seventh, labelled⟩ => ?_
    refine i64_codec.consumes.bind fun cost _ ⟨eighth, priced⟩ => ?_
    refine optional_codec.consumes.bind fun latencyMicros _ ⟨ninth, latency⟩ => ?_
    refine scope_codec.consumes.bind fun scope _ ⟨tenth, _⟩ => ?_
    refine optionalId_codec.consumes.bind fun scopeTenant _ ⟨eleventh, _⟩ => ?_
    refine optionalId_codec.consumes.bind fun scopeServiceClass _ ⟨twelfth, _⟩ => ?_
    refine provenance_codec.consumes.bind fun provenance _ ⟨last, readable⟩ => Consumes.pure ⟨?_,
      named, numbered, authorised, listed, crossed, domains, labelled, priced, latency, readable⟩
    simp only [writePath, Writer.ref, first, second, third, fourth, fifth, sixth, seventh, eighth, ninth,
      tenth, eleventh, twelfth, last, List.append_assoc, List.append_nil]

theorem demand_codec : Codec readDemand writeDemand Demand.Readable := by
  refine ⟨fun demand readable => ?_, ?_⟩
  · have set : Writer.ref demand.candidateSet =
        Writer.str demand.candidateSet.id.str ++ Writer.u64 demand.candidateSet.generation.value := rfl
    unfold writeDemand
    simp only [List.append_assoc]
    rw [← List.append_assoc (Writer.str demand.candidateSet.id.str), ← set]
    refine (id_codec.yields _ readable.named).bind ?_
    refine (gen_codec.yields _ readable.numbered).bind ?_
    refine (provenance_codec.yields _ readable.provenance).bind ?_
    refine (optionalId_codec.yields _ trivial).bind ?_
    refine (optionalId_codec.yields _ trivial).bind ?_
    refine (i64_codec.yields _ readable.minimum).bind ?_
    refine (i64_codec.yields _ readable.desired).bind ?_
    refine (i64_codec.yields _ readable.maximum).bind ?_
    refine (u8_codec.yields _ trivial).bind ?_
    refine (optional_codec.yields _ readable.latency).bind ?_
    refine (optional_codec.yields _ readable.cost).bind ?_
    refine (ref_codec.yields _ readable.candidateSet).bind ?_
    refine ((ids_codec (by decide)).yields _ readable.allowed).bind ?_
    refine ((ids_codec (by decide)).yields _ readable.forbidden).bind ?_
    refine ((ids_codec (by decide)).yields _ readable.affinity).bind ?_
    refine ((ids_codec (by decide)).yields _ readable.antiAffinity).bind ?_
    refine ((ids_codec (by decide)).yields _ readable.domains).bind ?_
    refine (u32_codec.yields _ trivial).bind ?_
    refine ((ids_codec (by decide)).yields _ readable.bindings).bind ?_
    refine (interval_codec.yields _ trivial).bind ?_
    refine (preemptibility_codec.yields _ trivial).bind ?_
    exact (labels_codec.yields _ readable.labels).bind_pure
  · refine id_codec.consumes.bind fun id _ ⟨w1, named⟩ => ?_
    refine gen_codec.consumes.bind fun generation _ ⟨w2, numbered⟩ => ?_
    refine provenance_codec.consumes.bind fun provenance _ ⟨w3, readable⟩ => ?_
    refine optionalId_codec.consumes.bind fun tenant _ ⟨w4, _⟩ => ?_
    refine optionalId_codec.consumes.bind fun serviceClass _ ⟨w5, _⟩ => ?_
    refine i64_codec.consumes.bind fun minimumBandwidth _ ⟨w6, minimum⟩ => ?_
    refine i64_codec.consumes.bind fun desiredBandwidth _ ⟨w7, desired⟩ => ?_
    refine i64_codec.consumes.bind fun maximumBandwidth _ ⟨w8, maximum⟩ => ?_
    refine u8_codec.consumes.bind fun priority _ ⟨w9, _⟩ => ?_
    refine optional_codec.consumes.bind fun latencyBoundMicros _ ⟨w10, latency⟩ => ?_
    refine optional_codec.consumes.bind fun pathCostCeiling _ ⟨w11, cost⟩ => ?_
    refine ref_codec.consumes.bind fun candidateSet _ ⟨w12, listed⟩ => ?_
    refine (ids_codec (by decide)).consumes.bind fun allowedPaths _ ⟨w13, allowed⟩ => ?_
    refine (ids_codec (by decide)).consumes.bind fun forbiddenPaths _ ⟨w14, forbidden⟩ => ?_
    refine (ids_codec (by decide)).consumes.bind fun affinity _ ⟨w15, together⟩ => ?_
    refine (ids_codec (by decide)).consumes.bind fun antiAffinity _ ⟨w16, apart⟩ => ?_
    refine (ids_codec (by decide)).consumes.bind fun requiredFailureDomains _ ⟨w17, domains⟩ => ?_
    refine u32_codec.consumes.bind fun minDistinctFailureDomains _ ⟨w18, _⟩ => ?_
    refine (ids_codec (by decide)).consumes.bind fun reservationBindings _ ⟨w19, bindings⟩ => ?_
    refine interval_codec.consumes.bind fun effective _ ⟨w20, _⟩ => ?_
    refine preemptibility_codec.consumes.bind fun preemptibility _ ⟨w21, _⟩ => ?_
    refine labels_codec.consumes.bind fun labels _ ⟨w22, labelled⟩ => Consumes.pure ⟨?_,
      named, numbered, readable, minimum, desired, maximum, latency, cost, listed, allowed, forbidden,
      together, apart, domains, bindings, labelled⟩
    rw [w1, w2, w3, w4, w5, w6, w7, w8, w9, w10, w11, w12, w13, w14, w15, w16, w17, w18, w19, w20, w21, w22]
    unfold writeDemand Writer.ref
    simp only [List.append_assoc, List.append_nil]

theorem policy_codec : Codec readPolicy writePolicy Policy.Readable := by
  refine ⟨fun policy readable => ?_, ?_⟩
  · unfold writePolicy
    simp only [List.append_assoc]
    refine (id_codec.yields _ readable.named).bind ?_
    refine (gen_codec.yields _ readable.numbered).bind ?_
    refine (provenance_codec.yields _ readable.provenance).bind ?_
    refine (boolean_codec.yields _ trivial).bind ?_
    refine (boolean_codec.yields _ trivial).bind ?_
    refine (boolean_codec.yields _ trivial).bind ?_
    refine (boolean_codec.yields _ trivial).bind ?_
    refine (i64_codec.yields _ readable.utilization).bind ?_
    refine (i64_codec.yields _ readable.improvement).bind ?_
    refine (i64_codec.yields _ readable.moved).bind ?_
    refine (i64_codec.yields _ readable.risk).bind ?_
    refine (u32_codec.yields _ trivial).bind ?_
    refine (u32_codec.yields _ trivial).bind ?_
    refine ((ids_codec (by decide)).yields _ readable.tenants).bind ?_
    exact ((ids_codec (by decide)).yields _ readable.serviceClasses).bind_pure
  · refine id_codec.consumes.bind fun id _ ⟨w1, named⟩ => ?_
    refine gen_codec.consumes.bind fun generation _ ⟨w2, numbered⟩ => ?_
    refine provenance_codec.consumes.bind fun provenance _ ⟨w3, readable⟩ => ?_
    refine boolean_codec.consumes.bind fun allowPreemption _ ⟨w4, _⟩ => ?_
    refine boolean_codec.consumes.bind fun requireMinimums _ ⟨w5, _⟩ => ?_
    refine boolean_codec.consumes.bind fun allowDegradedCommit _ ⟨w6, _⟩ => ?_
    refine boolean_codec.consumes.bind fun requireFailureDomainDiversity _ ⟨w7, _⟩ => ?_
    refine i64_codec.consumes.bind fun maxUtilizationPermille _ ⟨w8, utilization⟩ => ?_
    refine i64_codec.consumes.bind fun churnImprovementThresholdPermille _ ⟨w9, improvement⟩ => ?_
    refine i64_codec.consumes.bind fun churnMaxMovedBandwidthPermille _ ⟨w10, moved⟩ => ?_
    refine i64_codec.consumes.bind fun churnMaxOperationalRiskPermille _ ⟨w11, risk⟩ => ?_
    refine u32_codec.consumes.bind fun churnMaxAffectedDemands _ ⟨w12, _⟩ => ?_
    refine u32_codec.consumes.bind fun maxPathsPerDemand _ ⟨w13, _⟩ => ?_
    refine (ids_codec (by decide)).consumes.bind fun allowedTenants _ ⟨w14, tenants⟩ => ?_
    refine (ids_codec (by decide)).consumes.bind fun allowedServiceClasses _ ⟨w15, serviceClasses⟩ =>
      Consumes.pure ⟨?_, named, numbered, readable, utilization, improvement, moved, risk, tenants,
        serviceClasses⟩
    simp only [writePolicy, w1, w2, w3, w4, w5, w6, w7, w8, w9, w10, w11, w12, w13, w14, w15,
      List.append_assoc, List.append_nil]

theorem term_codec : Codec readTerm writeTerm fun _ => True := by
  have coded : ∀ term : ObjectiveTerm, ofCode ObjectiveTerm.all ObjectiveTerm.code term.code =
      some term := by
    intro term
    cases term <;> rfl
  refine ⟨fun entry _ => ?_, ?_⟩
  · refine (u16_codec.yields _ trivial).bind ((u64_codec.yields _ trivial).finish ?_)
    refine Yields.guarded (accept_yields (coded entry.term)) ?_
    have weight : Reader.signed (UInt64.ofInt entry.weight) = entry.weight := wrap64_eq entry.fits
    have same : (⟨entry.term, Reader.signed (UInt64.ofInt entry.weight), Reader.signed_fits _⟩ :
        ObjectiveWeight) = entry := by
      cases entry
      simpa using weight
    rw [same]
    exact Yields.pure entry
  · refine u16_codec.consumes.bind fun ordinal _ ⟨w1, _⟩ => ?_
    refine u64_codec.consumes.bind fun weight _ ⟨w2, _⟩ => ?_
    refine (accept_consumes _).bind fun term _ ⟨nothing, found⟩ => Consumes.pure ⟨?_, trivial⟩
    have code : term.code = ordinal := by simpa using List.find?_some found
    simp only [writeTerm, Writer.i64, Reader.ofInt_signed, w1, w2, nothing, code, List.append_nil]

theorem objective_codec : Codec readObjective writeObjective ObjectiveProfile.Readable := by
  refine ⟨fun profile readable => ?_, ?_⟩
  · unfold writeObjective
    simp only [List.append_assoc]
    refine (id_codec.yields _ readable.named).bind ?_
    refine (gen_codec.yields _ readable.numbered).bind ?_
    refine (provenance_codec.yields _ readable.provenance).bind ?_
    exact ((counted_codec term_codec (by decide)).yields _ ⟨readable.terms, fun _ _ => trivial⟩).bind_pure
  · refine id_codec.consumes.bind fun id _ ⟨w1, named⟩ => ?_
    refine gen_codec.consumes.bind fun generation _ ⟨w2, numbered⟩ => ?_
    refine provenance_codec.consumes.bind fun provenance _ ⟨w3, readable⟩ => ?_
    refine (counted_codec term_codec (by decide)).consumes.bind fun terms _ ⟨w4, few, _⟩ =>
      Consumes.pure ⟨?_, named, numbered, readable, few⟩
    simp only [writeObjective, w1, w2, w3, w4, List.append_assoc, List.append_nil]

/-! The snapshot. -/

theorem entry_codec {α : Type} {read : Entry α} {image : α → List UInt8} {holds : α → Prop}
    (codec : Codec read image holds) (detail : String) : Codec (entry read detail) image holds := by
  refine ⟨?_, ?_⟩
  · intro value fact rest
    unfold entry
    rw [codec.yields value fact rest]
  · intro bytes value rest found
    unfold entry at found
    cases run : read bytes with
    | error reason =>
        rw [run] at found
        cases found
    | ok pair =>
        rw [run] at found
        cases found
        exact codec.consumes bytes value rest run

theorem version_consumes (version : UInt16) :
    Consumes (refuse (version != durableFormatVersion) .unsupportedVersion
      "unsupported snapshot format version") fun _ word => word = [] ∧ version = durableFormatVersion :=
  (refuse_consumes _ _ _).mono fun _ _ ⟨nothing, same⟩ => ⟨nothing, by simpa using same⟩

theorem header_yields {snapshot : FabricSnapshot} (readable : snapshot.Headed) :
    Yields readHeader (writeHeader snapshot)
      { fabricEpoch := snapshot.fabricEpoch
        topologyGeneration := snapshot.topologyGeneration
        linkStateGeneration := snapshot.linkStateGeneration
        pathAuthorityGeneration := snapshot.pathAuthorityGeneration
        failureDomainGeneration := snapshot.failureDomainGeneration
        provenance := snapshot.provenance } := by
  unfold writeHeader
  simp only [List.append_assoc]
  refine (need_yields (u16_finds _) _ _).bind ?_
  refine Yields.guarded (refuse_yields (by decide) _ _) ?_
  refine ((requiredGen_codec _ _).yields _ readable.fabricEpoch).bind ?_
  refine ((requiredGen_codec _ _).yields _ readable.topology).bind ?_
  refine ((requiredGen_codec _ _).yields _ readable.linkState).bind ?_
  refine ((requiredGen_codec _ _).yields _ readable.pathAuthority).bind ?_
  refine ((requiredGen_codec _ _).yields _ readable.failureDomain).bind ?_
  exact ((entry_codec provenance_codec _).yields _ readable.provenance).bind_pure

theorem header_consumes :
    Consumes readHeader fun snapshot word => word = writeHeader snapshot ∧ snapshot.Headed := by
  have version := need_codec (fun value _ => u16_finds value) u16_spells .truncatedInput
    "snapshot version is truncated"
  refine version.consumes.bind fun version _ ⟨w1, _⟩ => ?_
  refine (version_consumes version).bind fun _ _ ⟨w2, supported⟩ => ?_
  refine (requiredGen_codec _ _).consumes.bind fun fabricEpoch _ ⟨w3, epoch⟩ => ?_
  refine (requiredGen_codec _ _).consumes.bind fun topologyGeneration _ ⟨w4, topology⟩ => ?_
  refine (requiredGen_codec _ _).consumes.bind fun linkStateGeneration _ ⟨w5, linkState⟩ => ?_
  refine (requiredGen_codec _ _).consumes.bind fun pathAuthorityGeneration _ ⟨w6, pathAuthority⟩ => ?_
  refine (requiredGen_codec _ _).consumes.bind fun failureDomainGeneration _ ⟨w7, failureDomain⟩ => ?_
  refine (entry_codec provenance_codec _).consumes.bind fun provenance _ ⟨w8, readable⟩ =>
    Consumes.pure ⟨?_, epoch, topology, linkState, pathAuthority, failureDomain, readable⟩
  rw [w1, w2, w3, w4, w5, w6, w7, w8, supported, List.append_nil, List.nil_append]
  unfold writeHeader
  simp only [List.append_assoc]

theorem capacity_codec : Codec readCapacity writeCapacity CapacitySnapshot.Readable := by
  refine ⟨fun capacity readable => ?_, ?_⟩
  · unfold writeCapacity
    simp only [List.append_assoc]
    refine ((requiredId_codec _ _).yields _ readable.named).bind ?_
    refine ((requiredGen_codec _ _).yields _ readable.numbered).bind ?_
    refine ((requiredGen_codec _ _).yields _ readable.fabricEpoch).bind ?_
    refine ((entry_codec provenance_codec _).yields _ readable.provenance).bind ?_
    exact ((bounded_codec (entry_codec resource_codec _) (by decide) _ _).yields _
      ⟨readable.count, readable.resources⟩).bind_pure
  · refine (requiredId_codec _ _).consumes.bind fun id _ ⟨w1, named⟩ => ?_
    refine (requiredGen_codec _ _).consumes.bind fun generation _ ⟨w2, numbered⟩ => ?_
    refine (requiredGen_codec _ _).consumes.bind fun fabricEpoch _ ⟨w3, epoch⟩ => ?_
    refine (entry_codec provenance_codec _).consumes.bind fun provenance _ ⟨w4, readable⟩ => ?_
    refine (bounded_codec (entry_codec resource_codec _) (by decide) _ _).consumes.bind
      fun resources _ ⟨w5, few, each⟩ =>
        Consumes.pure ⟨?_, named, numbered, epoch, readable, few, each⟩
    simp only [writeCapacity, w1, w2, w3, w4, w5, List.append_assoc, List.append_nil]

theorem reservations_codec : Codec readReservations writeReservations ReservationSnapshot.Readable := by
  refine ⟨fun reservations readable => ?_, ?_⟩
  · unfold writeReservations
    simp only [List.append_assoc]
    refine ((requiredId_codec _ _).yields _ readable.named).bind ?_
    refine ((requiredGen_codec _ _).yields _ readable.numbered).bind ?_
    refine ((requiredGen_codec _ _).yields _ readable.fabricEpoch).bind ?_
    refine ((entry_codec provenance_codec _).yields _ readable.provenance).bind ?_
    exact ((bounded_codec (entry_codec reservation_codec _) (by decide) _ _).yields _
      ⟨readable.count, readable.reservations⟩).bind_pure
  · refine (requiredId_codec _ _).consumes.bind fun id _ ⟨w1, named⟩ => ?_
    refine (requiredGen_codec _ _).consumes.bind fun generation _ ⟨w2, numbered⟩ => ?_
    refine (requiredGen_codec _ _).consumes.bind fun fabricEpoch _ ⟨w3, epoch⟩ => ?_
    refine (entry_codec provenance_codec _).consumes.bind fun provenance _ ⟨w4, readable⟩ => ?_
    refine (bounded_codec (entry_codec reservation_codec _) (by decide) _ _).consumes.bind
      fun reservations _ ⟨w5, few, each⟩ =>
        Consumes.pure ⟨?_, named, numbered, epoch, readable, few, each⟩
    simp only [writeReservations, w1, w2, w3, w4, w5, List.append_assoc, List.append_nil]

theorem snapshot_codec : Codec readSnapshot encodeSnapshot FabricSnapshot.Readable := by
  refine ⟨fun snapshot readable => ?_, ?_⟩
  · unfold encodeSnapshot
    simp only [List.append_assoc]
    refine (header_yields readable.header).bind ?_
    refine (capacity_codec.yields _ readable.capacity).bind ?_
    refine (reservations_codec.yields _ readable.reservations).bind ?_
    refine ((entry_codec policy_codec _).yields _ readable.policy).bind ?_
    refine ((entry_codec objective_codec _).yields _ readable.objective).bind ?_
    refine ((entry_codec ref_codec _).yields _ readable.candidateSet).bind ?_
    refine ((bounded_codec (entry_codec demand_codec _) (by decide) _ _).yields _
      ⟨readable.demandCount, readable.demands⟩).bind ?_
    refine ((bounded_codec (entry_codec path_codec _) (by decide) _ _).yields _
      ⟨readable.pathCount, readable.paths⟩).bind ?_
    exact (need_yields (u64_finds _) _ _).bind_pure
  · refine header_consumes.bind fun header _ ⟨w1, headed⟩ => ?_
    refine capacity_codec.consumes.bind fun capacity _ ⟨w2, sized⟩ => ?_
    refine reservations_codec.consumes.bind fun reservations _ ⟨w3, reserved⟩ => ?_
    refine (entry_codec policy_codec _).consumes.bind fun policy _ ⟨w4, ruled⟩ => ?_
    refine (entry_codec objective_codec _).consumes.bind fun objective _ ⟨w5, weighed⟩ => ?_
    refine (entry_codec ref_codec _).consumes.bind fun candidateSet _ ⟨w6, listed⟩ => ?_
    refine (bounded_codec (entry_codec demand_codec _) (by decide) _ _).consumes.bind
      fun demands _ ⟨w7, demandCount, demanded⟩ => ?_
    refine (bounded_codec (entry_codec path_codec _) (by decide) _ _).consumes.bind
      fun paths _ ⟨w8, pathCount, laid⟩ => ?_
    have tick := need_codec (fun value _ => u64_finds value) u64_spells .truncatedInput
      "evaluation tick is truncated"
    refine tick.consumes.bind fun evaluationTick _ ⟨w9, _⟩ => Consumes.pure ⟨?_, ?_⟩
    · have kept : writeHeader header = writeHeader
          { header with
            capacity := capacity
            reservations := reservations
            policy := policy
            objective := objective
            candidateSet := candidateSet
            demands := demands
            paths := paths
            evaluationTick := evaluationTick } := rfl
      simp only [encodeSnapshot, w1, w2, w3, w4, w5, w6, w7, w8, w9, kept,
        List.append_assoc, List.append_nil]
    · have still := headed
      exact ⟨⟨still.fabricEpoch, still.topology, still.linkState, still.pathAuthority, still.failureDomain,
        still.provenance⟩, sized, reserved, ruled, weighed, listed, demandCount, demanded, pathCount, laid⟩

end SnapshotCodec

end TrafficFabric
