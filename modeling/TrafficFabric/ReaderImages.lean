import TrafficFabric.PlanDecodes
import TrafficFabric.StableReaders

set_option autoImplicit false

/- The canonical reader accepts images of the writer and nothing else. -/
namespace TrafficFabric

/-- What is read is the image of a value of a kind. -/
def Reader.Spells {α : Type} (read : Reader α) (image : α → List UInt8) (holds : α → Prop) : Prop :=
  ∀ bytes value rest, read bytes = some (value, rest) → bytes = image value ++ rest ∧ holds value

namespace Reader

theorem raw_spells (size : Nat) : Spells (raw size) id fun bytes => bytes.length = size := by
  intro bytes value rest found
  unfold raw at found
  split at found
  · cases found
  · rename_i enough
    cases found
    refine ⟨(List.take_append_drop size bytes).symm, ?_⟩
    change (bytes.take size).length = size
    rw [List.length_take]
    omega

theorem mapped_spells {α β : Type} {read : Reader α} {image : α → List UInt8} {holds : α → Prop}
    {update : α → β} {later : β → List UInt8} {kept : β → Prop} (spells : Spells read image holds)
    (same : ∀ value, holds value → later (update value) = image value ∧ kept (update value)) :
    Spells (mapped read update) later kept := by
  intro bytes value rest found
  unfold mapped at found
  rw [Option.map_eq_some_iff] at found
  obtain ⟨⟨inner, left⟩, run, equal⟩ := found
  cases equal
  obtain ⟨split, fact⟩ := spells bytes inner left run
  obtain ⟨image, keeps⟩ := same inner fact
  exact ⟨by rw [split, image], keeps⟩

/-- Bytes spell a number behind a start in one way. -/
theorem spelled_inj {first second : List UInt8} {left right : Nat} (lengths : first.length = second.length)
    (same : spelled first left = spelled second right) : left = right ∧ first = second := by
  induction first generalizing second left right with
  | nil =>
      cases second with
      | nil => exact ⟨same, rfl⟩
      | cons other others => cases lengths
  | cons byte rest ih =>
      cases second with
      | nil => cases lengths
      | cons other others =>
          obtain ⟨starts, equal⟩ := ih (Nat.succ.inj lengths) same
          simp only at starts
          have small := byte.toNat_lt
          have little := other.toNat_lt
          have bytes : byte = other := UInt8.toNat.inj (by omega)
          exact ⟨by omega, by rw [bytes, equal]⟩

theorem u16_word16 {bytes : List UInt8} (width : bytes.length = 2) : Writer.u16 (word16 bytes) = bytes := by
  have same : spelled (Writer.u16 (word16 bytes)) 0 = spelled bytes 0 := by
    rw [← toNat_word16 (le_refl 2), word16_u16, toNat_word16 (le_of_eq width)]
  exact (spelled_inj (by rw [width]; rfl) same).2

theorem u32_word32 {bytes : List UInt8} (width : bytes.length = 4) : Writer.u32 (word32 bytes) = bytes := by
  have same : spelled (Writer.u32 (word32 bytes)) 0 = spelled bytes 0 := by
    rw [← toNat_word32 (le_refl 4), word32_u32, toNat_word32 (le_of_eq width)]
  exact (spelled_inj (by rw [width]; rfl) same).2

theorem u64_word64 {bytes : List UInt8} (width : bytes.length = 8) : Writer.u64 (word64 bytes) = bytes := by
  have same : spelled (Writer.u64 (word64 bytes)) 0 = spelled bytes 0 := by
    rw [← toNat_word64 (le_refl 8), word64_u64, toNat_word64 (le_of_eq width)]
  exact (spelled_inj (by rw [width]; rfl) same).2

theorem digest_digestOf {bytes : List UInt8} (width : bytes.length = 32) :
    Writer.digest (digestOf bytes) = bytes := by
  apply List.ext_getElem
  · simp [Writer.digest, width]
  · intro i inside present
    simp [Writer.digest, digestOf, present]

/-- The word a signed value is written as is the word it was read from. -/
theorem ofInt_signed (value : UInt64) : UInt64.ofInt (signed value) = value := by
  have bound := value.toNat_lt
  apply UInt64.toNat.inj
  unfold signed UInt64.ofInt
  rw [UInt64.toNat_ofNat']
  split <;> omega

theorem u8_spells : Spells u8 Writer.u8 fun _ => True := by
  refine mapped_spells (raw_spells 1) fun bytes width => ⟨?_, trivial⟩
  obtain ⟨byte, rfl⟩ := List.length_eq_one_iff.1 width
  rfl

theorem u16_spells : Spells u16 Writer.u16 fun _ => True :=
  mapped_spells (raw_spells 2) fun _ width => ⟨u16_word16 width, trivial⟩

theorem u32_spells : Spells u32 Writer.u32 fun _ => True :=
  mapped_spells (raw_spells 4) fun _ width => ⟨u32_word32 width, trivial⟩

theorem u64_spells : Spells u64 Writer.u64 fun _ => True :=
  mapped_spells (raw_spells 8) fun _ width => ⟨u64_word64 width, trivial⟩

theorem i64_spells : Spells i64 Writer.i64 InInt64 := by
  refine mapped_spells u64_spells fun value _ => ⟨?_, signed_fits value⟩
  unfold Writer.i64
  rw [ofInt_signed]

theorem digest_spells : Spells digest Writer.digest fun _ => True :=
  mapped_spells (raw_spells 32) fun _ width => ⟨digest_digestOf width, trivial⟩

theorem boolean_spells : Spells boolean Writer.boolean fun _ => True := by
  intro bytes value rest found
  unfold boolean at found
  cases run : u8 bytes with
  | none =>
      rw [run] at found
      cases found
  | some pair =>
      rw [run] at found
      obtain ⟨byte, left⟩ := pair
      have split := (u8_spells bytes byte left run).1
      simp only at found
      split at found
      · cases found
      · rename_i canonical
        cases found
        refine ⟨?_, trivial⟩
        rw [split]
        have small := UInt8.lt_iff_toNat_lt.not.1 canonical
        have cases : byte = 0 ∨ byte = 1 := by
          rcases Nat.lt_or_ge byte.toNat 1 with zero | one
          · exact Or.inl (UInt8.toNat.inj (by simpa using zero))
          · exact Or.inr (UInt8.toNat.inj (by simp at small ⊢; omega))
        rcases cases with rfl | rfl <;> rfl

/-- The length that was read is the length of the text behind it. -/
theorem str_spells (maxLength : Nat) :
    Spells (str maxLength) Writer.str fun value => value.length ≤ maxLength := by
  intro bytes value rest found
  unfold str at found
  cases run : u32 bytes with
  | none =>
      rw [run] at found
      cases found
  | some pair =>
      rw [run] at found
      obtain ⟨length, left⟩ := pair
      simp only at found
      split at found
      · cases found
      · rename_i short
        obtain ⟨split, width⟩ := raw_spells length.toNat left value rest found
        have written : Writer.count value.length = Writer.u32 length := by
          unfold Writer.count
          rw [width, Nat.toUInt32_eq, UInt32.ofNat_toNat]
        refine ⟨?_, by omega⟩
        rw [(u32_spells bytes length left run).1, split]
        unfold Writer.str
        rw [written, List.append_assoc]
        rfl

end Reader

/-! Record decoders. -/

open Reader (u64_spells u32_spells str_spells u32_finds u64_finds str_finds)

theorem need_codec {α : Type} {read : Reader α} {image : α → List UInt8} {holds : α → Prop}
    (finds : ∀ value, holds value → Finds read (image value) value) (spells : read.Spells image holds)
    (code : ErrorCode) (detail : String) : Codec (need read code detail) image holds := by
  refine ⟨fun value fact => need_yields (finds value fact) _ _, ?_⟩
  intro bytes value rest found
  unfold need at found
  cases run : read bytes with
  | none =>
      rw [run] at found
      cases found
  | some pair =>
      rw [run] at found
      cases found
      obtain ⟨split, fact⟩ := spells bytes value rest run
      exact ⟨image value, split, rfl, fact⟩

theorem refuse_consumes (condition : Bool) (code : ErrorCode) (detail : String) :
    Consumes (refuse condition code detail) fun _ word => word = [] ∧ condition = false :=
  Consumes.ite (fun _ => Consumes.throw _) fun passed => Consumes.pure ⟨rfl, by simpa using passed⟩

theorem parsed_consumes {α : Type} (attempt : Option α) (code : ErrorCode) (detail : String) :
    Consumes (parsed attempt code detail) fun value word => word = [] ∧ attempt = some value := by
  cases attempt with
  | none => exact Consumes.throw _
  | some value => exact Consumes.pure ⟨rfl, rfl⟩

namespace PlanCodec

theorem str_of_parse {kind : IdKind} {name : Text} {id : Id kind} (read : Id.parse name = some id) :
    id.str = name ∧ id.valid = true := by
  unfold Id.parse at read
  split at read
  · rename_i accepted
    cases read
    refine ⟨rfl, ?_⟩
    simp only [isValidName, Bool.and_eq_true] at accepted
    exact accepted.1.1.1.1.1.1
  · cases read

theorem value_of_parse {kind : GenKind} {value : UInt64} {generation : Gen kind}
    (read : Gen.parse value = some generation) : generation.value = value ∧ generation.valid = true := by
  unfold Gen.parse at read
  split at read
  · cases read
  · rename_i positive
    cases read
    exact ⟨rfl, by simpa [Gen.valid] using positive⟩

theorem requiredId_codec {kind : IdKind} (malformed invalid : String) :
    Codec (requiredId malformed invalid : Decoding (Id kind)) (fun id => Writer.str id.str)
      fun id => id.valid = true := by
  refine ⟨fun id valid => requiredId_yields valid _ _, ?_⟩
  have name := need_codec (fun _ short => str_finds (lt_of_le_of_lt short (by decide)) short)
    (str_spells Limits.maxNameLength) .malformedInput malformed
  refine name.consumes.bind fun name word spelled => ?_
  refine (parsed_consumes _ _ _).mono fun id later found => ?_
  obtain ⟨rfl, -⟩ := spelled
  obtain ⟨rfl, read⟩ := found
  obtain ⟨rfl, valid⟩ := str_of_parse read
  exact ⟨List.append_nil _, valid⟩

theorem requiredGen_codec {kind : GenKind} (truncated zero : String) :
    Codec (requiredGen truncated zero : Decoding (Gen kind)) (fun generation => Writer.u64 generation.value)
      fun generation => generation.valid = true := by
  refine ⟨fun generation valid => requiredGen_yields valid _ _, ?_⟩
  have word := need_codec (fun value _ => u64_finds value) u64_spells .truncatedInput truncated
  refine word.consumes.bind fun value word spelled => ?_
  refine (parsed_consumes _ _ _).mono fun generation later found => ?_
  obtain ⟨rfl, -⟩ := spelled
  obtain ⟨rfl, read⟩ := found
  obtain ⟨rfl, valid⟩ := value_of_parse read
  exact ⟨List.append_nil _, valid⟩

/-- A sequence that is not longer than its bound. -/
theorem bounded_codec {α : Type} {element : Decoding α} {image : α → List UInt8} {holds : α → Prop}
    {limit : Nat} (codec : Codec element image holds) (small : limit < 2 ^ 32)
    (truncated oversized : String) :
    Codec (bounded limit truncated oversized element) (Writer.sequence image)
      fun items => items.length ≤ limit ∧ ∀ item ∈ items, holds item := by
  refine ⟨fun items facts => ?_, ?_⟩
  · have each := fun item member => codec.yields item (facts.2 item member)
    have all := bounded_yields facts.1 small truncated oversized each
    rwa [List.map_id'] at all
  · have count := need_codec (fun value _ => u32_finds value) u32_spells .truncatedInput truncated
    refine count.consumes.bind fun count word spelled => ?_
    refine (refuse_consumes _ _ _).bind fun _ nothing passed => ?_
    refine (codec.repeated count.toNat).consumes.mono fun items later read => ?_
    obtain ⟨rfl, -⟩ := spelled
    obtain ⟨rfl, few⟩ := passed
    obtain ⟨rfl, counted, facts⟩ := read
    have written : Writer.count items.length = Writer.u32 count := by
      unfold Writer.count
      rw [counted, Nat.toUInt32_eq, UInt32.ofNat_toNat]
    refine ⟨?_, ?_, facts⟩
    · rw [List.nil_append, ← written]
      rfl
    · rw [decide_eq_false_iff_not, not_lt, ← counted] at few
      exact few

end PlanCodec

end TrafficFabric
