import TrafficFabric.Digest
import TrafficFabric.Lib.PrefixCode
import TrafficFabric.Numeric

set_option autoImplicit false

/- Every image of the canonical writer marks its own end, as long as the lengths it writes
fit the 32-bit counts. -/
namespace TrafficFabric

/-- The lengths a 32-bit count can tell apart. -/
def FitsCount (length : Nat) : Prop := length < 2 ^ 32

instance (length : Nat) : Decidable (FitsCount length) :=
  inferInstanceAs (Decidable (length < 2 ^ 32))

namespace Writer

theorem u8_delimits : Delimits (fun _ => True) u8 id := by
  apply Delimits.of_length 1 (fun _ => rfl)
  intro first second _ _ same
  exact (List.cons.inj same).1

theorem u16_delimits : Delimits (fun _ => True) u16 id := by
  apply Delimits.of_length 2 (fun _ => rfl)
  intro first second _ _ same
  simp only [u16, List.cons.injEq, and_true] at same
  obtain ⟨high, low⟩ := same
  have highNat := congrArg UInt8.toNat high
  have lowNat := congrArg UInt8.toNat low
  have left := first.toNat_lt
  have right := second.toNat_lt
  simp [Nat.shiftRight_eq_div_pow] at highNat lowNat
  apply UInt16.toNat.inj
  change first.toNat = second.toNat
  omega

theorem u32_delimits : Delimits (fun _ => True) u32 id := by
  apply Delimits.of_length 4 (fun _ => rfl)
  intro first second _ _ same
  simp only [u32, Sha256.bigEndian32, List.range, List.range.loop, List.map_cons, List.map_nil,
    List.cons.injEq, and_true] at same
  obtain ⟨b0, b1, b2, b3⟩ := same
  have left := first.toNat_lt
  have right := second.toNat_lt
  replace b0 := congrArg UInt8.toNat b0
  replace b1 := congrArg UInt8.toNat b1
  replace b2 := congrArg UInt8.toNat b2
  replace b3 := congrArg UInt8.toNat b3
  simp [Nat.shiftRight_eq_div_pow] at b0 b1 b2 b3
  apply UInt32.toNat.inj
  change first.toNat = second.toNat
  omega

theorem u64_delimits : Delimits (fun _ => True) u64 id := by
  apply Delimits.of_length 8 (fun _ => rfl)
  intro first second _ _ same
  simp only [u64, Sha256.bigEndian64, List.range, List.range.loop, List.map_cons, List.map_nil,
    List.cons.injEq, and_true] at same
  obtain ⟨b0, b1, b2, b3, b4, b5, b6, b7⟩ := same
  have left := first.toNat_lt
  have right := second.toNat_lt
  replace b0 := congrArg UInt8.toNat b0
  replace b1 := congrArg UInt8.toNat b1
  replace b2 := congrArg UInt8.toNat b2
  replace b3 := congrArg UInt8.toNat b3
  replace b4 := congrArg UInt8.toNat b4
  replace b5 := congrArg UInt8.toNat b5
  replace b6 := congrArg UInt8.toNat b6
  replace b7 := congrArg UInt8.toNat b7
  simp [Nat.shiftRight_eq_div_pow] at b0 b1 b2 b3 b4 b5 b6 b7
  apply UInt64.toNat.inj
  change first.toNat = second.toNat
  omega

/-- The residue modulo `2^64` tells the values of the machine type apart. -/
theorem i64_delimits : Delimits InInt64 i64 id := by
  apply Delimits.of_length 8 (fun _ => rfl)
  intro first second left right same
  have words := u64_delimits.fact_eq trivial trivial same
  have residues := congrArg UInt64.toNat words
  simp only [id_eq, UInt64.ofInt, UInt64.toNat_ofNat'] at residues
  unfold InInt64 int64Min int64Max at left right
  change first = second
  omega

theorem boolean_delimits : Delimits (fun _ => True) boolean id := by
  apply Delimits.of_length 1 (fun _ => rfl)
  intro first second _ _ same
  cases first <;> cases second <;> first | rfl | exact absurd same (by decide)

theorem count_delimits : Delimits FitsCount count id := by
  apply Delimits.of_length 4 (fun _ => rfl)
  intro first second left right same
  have words := u32_delimits.fact_eq trivial trivial same
  have residues := congrArg UInt32.toNat words
  unfold FitsCount at left right
  simp only [id_eq, UInt32.toNat_ofNat', Nat.toUInt32_eq] at residues
  change first = second
  omega

theorem str_delimits : Delimits (fun value : Text => FitsCount value.length) str id := by
  intro first second rest tail left right same
  unfold str at same
  rw [List.append_assoc, List.append_assoc] at same
  obtain ⟨lengths, later⟩ := count_delimits first.length second.length _ _ left right same
  exact List.append_inj later lengths

theorem id_delimits {kind : IdKind} : Delimits (fun _ => True) (fun id : Id kind => str id.value) id := by
  apply (str_delimits.field Id.value ?_).determine
  · intro first second same
    exact Id.ext same
  · intro id _
    exact lt_of_le_of_lt id.length_le (by decide)

theorem gen_delimits {kind : GenKind} :
    Delimits (fun _ => True) (fun generation : Gen kind => u64 generation.value) id := by
  apply (u64_delimits.field Gen.value (fun _ _ => trivial)).determine
  intro first second same
  cases first
  cases second
  exact congrArg Gen.mk same

theorem digest_delimits : Delimits (fun _ => True) digest id := by
  apply Delimits.of_length 32 (fun value => by simp [digest])
  intro first second _ _ same
  cases first
  cases second
  exact congrArg Digest.mk (Vector.toList_inj.mp same)

theorem ids_delimits {kind : IdKind} :
    Delimits (fun items : List (Id kind) => FitsCount items.length) ids id := by
  have items := (@id_delimits kind).counted count_delimits
  intro first second rest tail left right same
  have facts := items first second rest tail ⟨left, fun _ _ => trivial⟩ ⟨right, fun _ _ => trivial⟩ same
  simpa using facts

theorem strings_delimits : Delimits (fun items : List Text => FitsCount items.length ∧
    ∀ item ∈ items, FitsCount item.length) strings id := by
  have items := str_delimits.counted count_delimits
  intro first second rest tail left right same
  have facts := items first second rest tail left right same
  simpa using facts

/-- An update that the image does not show. -/
theorem sequence_map {α : Type} {image : α → List UInt8} {update : α → α}
    (same : ∀ item, image (update item) = image item) (items : List α) :
    sequence image (items.map update) = sequence image items := by
  unfold sequence
  rw [List.length_map, List.flatMap_map]
  simp only [same]

theorem optional_delimits : Delimits (fun value : Option Int => ∀ inside ∈ value, InInt64 inside)
    (optional i64) id := by
  have tagged := i64_delimits.tagged (boolean false) (boolean true) (by
    intro rest tail same
    exact absurd (List.cons.inj same).1 (by decide))
  have spelled : optional i64 = fun value =>
      value.elim (boolean false) fun inside => boolean true ++ i64 inside := by
    funext value
    cases value <;> rfl
  rw [spelled]
  apply tagged.determine
  intro first second same
  simpa using same

end Writer

end TrafficFabric
