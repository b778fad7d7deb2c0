import TrafficFabric.CanonicalForm
import TrafficFabric.SnapshotReads

set_option autoImplicit false

/- What a decoded snapshot is: canonical, structurally valid, and decoded again from its own
encoding. The payload it came from has no shorter and no longer one beside it. -/
namespace TrafficFabric

/-! Canonicalization keeps the bounds of the readers. -/

theorem NamedWithin.sortUnique {kind : IdKind} {limit : Nat} {ids : List (Id kind)}
    (named : NamedWithin limit ids) : NamedWithin limit (sortUnique id ids) :=
  ⟨(length_sortUnique_le id ids).trans named.1, fun item member => named.2 item
    (sortUnique_subset id ids member)⟩

theorem forall_stableSort {K α : Type} [LinearOrder K] (key : α → K) (update : α → α) {holds : α → Prop}
    {items : List α} (each : ∀ item ∈ items, holds (update item)) :
    ∀ item ∈ stableSort key (items.map update), holds item := by
  intro item member
  rw [mem_stableSort, List.mem_map] at member
  obtain ⟨source, listed, rfl⟩ := member
  exact each source listed

theorem canonicalizeResource_readable {resource : FabricResource} (readable : resource.Readable) :
    (canonicalizeResource resource).Readable :=
  { readable with domains := readable.domains.sortUnique }

theorem canonicalizeReservation_readable {reservation : Reservation} (readable : reservation.Readable) :
    (canonicalizeReservation reservation).Readable :=
  { readable with
    paths := readable.paths.sortUnique
    resources := readable.resources.sortUnique }

theorem canonicalizePath_readable {path : CandidatePath} (readable : path.Readable) :
    (canonicalizePath path).Readable :=
  { readable with
    resources := readable.resources.sortUnique
    domains := readable.domains.sortUnique
    labels := ⟨(length_sortUnique_le id _).trans readable.labels.1, fun label member =>
      readable.labels.2 label (sortUnique_subset id _ member)⟩ }

theorem canonicalizeDemand_readable {demand : Demand} (readable : demand.Readable) :
    (canonicalizeDemand demand).Readable :=
  { readable with
    allowed := readable.allowed.sortUnique
    forbidden := readable.forbidden.sortUnique
    affinity := readable.affinity.sortUnique
    antiAffinity := readable.antiAffinity.sortUnique
    domains := readable.domains.sortUnique
    bindings := readable.bindings.sortUnique
    labels := ⟨(length_sortUnique_le Prod.fst _).trans readable.labels.1, fun label member =>
      readable.labels.2 label (sortUnique_subset Prod.fst _ member)⟩ }

theorem canonicalize_readable {snapshot : FabricSnapshot} (readable : snapshot.Readable) :
    (canonicalize snapshot).Readable where
  header := { readable.header with }
  capacity :=
    { readable.capacity with
      count := le_of_eq_of_le ((length_stableSort _ _).trans (List.length_map _)) readable.capacity.count
      resources := forall_stableSort FabricResource.id canonicalizeResource fun resource member =>
        canonicalizeResource_readable (readable.capacity.resources resource member) }
  reservations :=
    { readable.reservations with
      count := le_of_eq_of_le ((length_stableSort _ _).trans (List.length_map _))
        readable.reservations.count
      reservations := forall_stableSort Reservation.id canonicalizeReservation fun reservation member =>
        canonicalizeReservation_readable (readable.reservations.reservations reservation member) }
  policy :=
    { readable.policy with
      tenants := readable.policy.tenants.sortUnique
      serviceClasses := readable.policy.serviceClasses.sortUnique }
  objective := readable.objective
  candidateSet := readable.candidateSet
  demandCount := le_of_eq_of_le ((length_stableSort _ _).trans (List.length_map _)) readable.demandCount
  demands := forall_stableSort Demand.id canonicalizeDemand fun demand member =>
    canonicalizeDemand_readable (readable.demands demand member)
  pathCount := le_of_eq_of_le ((length_stableSort _ _).trans (List.length_map _)) readable.pathCount
  paths := forall_stableSort (fun path : CandidatePath => path.id) canonicalizePath fun path member =>
    canonicalizePath_readable (readable.paths path member)

/-! Decoding. -/

/-- What is accepted was read from its image, validated and put in canonical form. -/
theorem decodeSnapshot_eq_ok {payload : List UInt8} {snapshot : FabricSnapshot} :
    decodeSnapshot payload = .ok snapshot ↔ ∃ raw : FabricSnapshot, payload = encodeSnapshot raw ∧
      raw.Readable ∧ validateStructure raw = .ok () ∧ canonicalize raw = snapshot := by
  have read : ∀ raw : FabricSnapshot, SnapshotCodec.readSnapshot payload = .ok (raw, []) ↔
      payload = encodeSnapshot raw ∧ raw.Readable := by
    intro raw
    constructor
    · intro read
      obtain ⟨word, split, rfl, readable⟩ := SnapshotCodec.snapshot_codec.consumes payload raw [] read
      exact ⟨split.trans (List.append_nil _), readable⟩
    · rintro ⟨rfl, readable⟩
      have yields := SnapshotCodec.snapshot_codec.yields raw readable []
      rwa [List.append_nil] at yields
  unfold decodeSnapshot
  simp only [bind_eq_ok, decodeWhole_eq_ok, read]
  constructor
  · rintro ⟨raw, ⟨image, readable⟩, ⟨⟩, valid, same⟩
    exact ⟨raw, image, readable, valid, Except.ok.inj same⟩
  · rintro ⟨raw, image, readable, valid, same⟩
    exact ⟨raw, ⟨image, readable⟩, (), valid, congrArg Except.ok same⟩

/-- A snapshot within the bounds of the readers comes back in canonical form. -/
theorem decodeSnapshot_of_readable {snapshot : FabricSnapshot} (readable : snapshot.Readable)
    (valid : validateStructure snapshot = .ok ()) :
    decodeSnapshot (encodeSnapshot snapshot) = .ok (canonicalize snapshot) :=
  decodeSnapshot_eq_ok.2 ⟨snapshot, rfl, readable, valid, rfl⟩

theorem decodeSnapshot_exact {payload : List UInt8} {snapshot : FabricSnapshot}
    (accepted : decodeSnapshot payload = .ok snapshot) : Exact decodeSnapshot payload := by
  have refused : ∀ other, (∃ reason, decodeWhole SnapshotCodec.readSnapshot
      "snapshot payload has trailing bytes" other = .error reason) →
      ∃ reason, decodeSnapshot other = .error reason := by
    rintro other ⟨reason, failed⟩
    refine ⟨reason, ?_⟩
    unfold decodeSnapshot
    rw [failed]
    rfl
  unfold decodeSnapshot at accepted
  rw [bind_eq_ok] at accepted
  obtain ⟨raw, whole, -⟩ := accepted
  have exact := decodeWhole_exact SnapshotCodec.snapshot_codec.stable whole
  exact ⟨fun part more split longer => refused part (exact.shorter part more split longer),
    fun more longer => refused _ (exact.longer more longer)⟩

/-- Every payload that is accepted is accepted exactly, and stands for a snapshot that is
canonical, valid and encoded without loss. -/
theorem decodeSnapshot_strict {payload : List UInt8} {snapshot : FabricSnapshot}
    (accepted : decodeSnapshot payload = .ok snapshot) :
    canonicalize snapshot = snapshot ∧ validateStructure snapshot = .ok () ∧
      decodeSnapshot (encodeSnapshot snapshot) = .ok snapshot ∧ Exact decodeSnapshot payload := by
  obtain ⟨raw, -, readable, valid, canonical⟩ := decodeSnapshot_eq_ok.1 accepted
  have fixed : canonicalize snapshot = snapshot := by rw [← canonical, canonicalize_idem]
  have structural : validateStructure snapshot = .ok () := by
    rw [← canonical]
    exact validateStructure_canonicalize valid
  have again : decodeSnapshot (encodeSnapshot snapshot) = .ok (canonicalize snapshot) := by
    apply decodeSnapshot_of_readable _ structural
    rw [← canonical]
    exact canonicalize_readable readable
  rw [fixed] at again
  exact ⟨fixed, structural, again, decodeSnapshot_exact accepted⟩

theorem decodeSnapshot_strict_linkFabric :
    decodeSnapshot (encodeSnapshot linkFabric) = .ok linkFabric ∧
      Exact decodeSnapshot (encodeSnapshot linkFabric) := by
  have accepted : decodeSnapshot (encodeSnapshot linkFabric) = .ok linkFabric := by decide +kernel
  exact ⟨accepted, (decodeSnapshot_strict accepted).2.2.2⟩

end TrafficFabric
