import TrafficFabric.Diagnostic
import TrafficFabric.Encoding
import TrafficFabric.Lib.Decoding

set_option autoImplicit false

/- The canonical reader of `binary.hpp`. A reader is the bytes that are left; a read that
fails is absorbing in the source, so here it ends the decoding. -/
namespace TrafficFabric

abbrev Reader (α : Type) := List UInt8 → Option (α × List UInt8)

namespace Reader

/-- `ensure(size)` and the bytes it promises. -/
def raw (size : Nat) : Reader (List UInt8) := fun bytes =>
  if bytes.length < size then none else some (bytes.take size, bytes.drop size)

def word16 (bytes : List UInt8) : UInt16 :=
  bytes.foldl (fun value byte => (value <<< 8) ||| byte.toUInt16) 0

def word32 (bytes : List UInt8) : UInt32 :=
  bytes.foldl (fun value byte => (value <<< 8) ||| byte.toUInt32) 0

def word64 (bytes : List UInt8) : UInt64 :=
  bytes.foldl (fun value byte => (value <<< 8) ||| byte.toUInt64) 0

/-- `static_cast<std::int64_t>` of an unsigned value. -/
def signed (value : UInt64) : Int :=
  if value.toNat < 2 ^ 63 then value.toNat else (value.toNat : Int) - 2 ^ 64

theorem signed_fits (value : UInt64) : InInt64 (signed value) := by
  have bound := value.toNat_lt
  unfold signed InInt64 int64Min int64Max
  split <;> omega

def digestOf (bytes : List UInt8) : Digest := ⟨Vector.ofFn fun i : Fin 32 => bytes.getD i.val 0⟩

def mapped {α β : Type} (read : Reader α) (update : α → β) : Reader β := fun bytes =>
  (read bytes).map fun pair => (update pair.1, pair.2)

def u8 : Reader UInt8 := mapped (raw 1) fun bytes => bytes.headD 0

def u16 : Reader UInt16 := mapped (raw 2) word16

def u32 : Reader UInt32 := mapped (raw 4) word32

def u64 : Reader UInt64 := mapped (raw 8) word64

def i64 : Reader Int := mapped u64 signed

/-- Only zero and one are canonical. -/
def boolean : Reader Bool := fun bytes =>
  match u8 bytes with
  | none => none
  | some (value, rest) => if 1 < value then none else some (value == 1, rest)

def str (maxLength : Nat) : Reader Text := fun bytes =>
  match u32 bytes with
  | none => none
  | some (length, rest) => if maxLength < length.toNat then none else raw length.toNat rest

def digest : Reader Digest := mapped (raw 32) digestOf

end Reader

/-- A record decoder: the bytes that are left, and an error at the first read that fails. -/
abbrev Decoding (α : Type) := Decoder UInt8 Error α

/-- `if (!read) return fail_as(code, detail)`. -/
def need {α : Type} (read : Reader α) (code : ErrorCode) (detail : String) : Decoding α := fun bytes =>
  match read bytes with
  | none => fail code (text detail)
  | some pair => .ok pair

/-- `if (condition) return fail_as(code, detail)`. -/
def refuse (condition : Bool) (code : ErrorCode) (detail : String) : Decoding Unit :=
  if condition then throw ⟨code, text detail⟩ else pure ()

/-- `const auto parsed = parse(value); if (!parsed) return fail_as(code, detail)`. -/
def parsed {α : Type} (value : Option α) (code : ErrorCode) (detail : String) : Decoding α :=
  match value with
  | none => throw ⟨code, text detail⟩
  | some value => pure value

/-! What the reader finds where the writer wrote. -/

/-- The value a 64-bit signed variable holds after an assignment. -/
def wrap64 (value : Int) : Int := Reader.signed (UInt64.ofInt value)

theorem wrap64_eq {value : Int} (inside : InInt64 value) : wrap64 value = value := by
  unfold InInt64 int64Min int64Max at inside
  unfold wrap64 Reader.signed UInt64.ofInt
  rw [UInt64.toNat_ofNat']
  split <;> omega

/-- With anything behind the image, the reader fails or finds the value. -/
def Reads {α : Type} (read : Reader α) (image : List UInt8) (value : α) : Prop :=
  ∀ rest pair, read (image ++ rest) = some pair → pair = (value, rest)

namespace Reader

theorem raw_append (image rest : List UInt8) : raw image.length (image ++ rest) = some (image, rest) := by
  unfold raw
  rw [if_neg (by simp), List.take_left' rfl, List.drop_left' rfl]

theorem raw_reads (image : List UInt8) : Reads (raw image.length) image image := by
  intro rest pair read
  rw [raw_append] at read
  exact (Option.some.inj read).symm

theorem mapped_reads {α β : Type} {read : Reader α} {image : List UInt8} {value : α} (update : α → β)
    (reads : Reads read image value) : Reads (mapped read update) image (update value) := by
  intro rest pair found
  unfold mapped at found
  rw [Option.map_eq_some_iff] at found
  obtain ⟨inner, run, rfl⟩ := found
  rw [reads rest inner run]

/-- The number big-endian bytes spell. -/
def spelled (bytes : List UInt8) (start : Nat) : Nat :=
  bytes.foldl (fun value byte => value * 256 + byte.toNat) start

theorem shift_or {modulus high low : Nat} (small : low < 2 ^ 8) (fits : high * 256 < modulus) :
    (high <<< 8) % modulus ||| low = high * 256 + low := by
  rw [Nat.shiftLeft_eq, Nat.mod_eq_of_lt fits, Nat.mul_comm]
  exact (Nat.two_pow_add_eq_or_of_lt small high).symm

/-- A loop that shifts bytes into a word wide enough for them spells their number. -/
theorem toNat_foldl {W : Type} (toNat : W → Nat) (width : Nat) (step : W → UInt8 → W)
    (steps : ∀ value byte, toNat value * 256 < 256 ^ width →
      toNat (step value byte) = toNat value * 256 + byte.toNat)
    (bytes : List UInt8) (start : W) (used : Nat) (below : toNat start < 256 ^ used)
    (room : used + bytes.length ≤ width) :
    toNat (bytes.foldl step start) = spelled bytes (toNat start) := by
  induction bytes generalizing start used with
  | nil => rfl
  | cons byte rest ih =>
      have small := byte.toNat_lt
      have power : 256 ^ (used + 1) = 256 ^ used * 256 := Nat.pow_succ 256 used
      have inside : 256 ^ (used + 1) ≤ 256 ^ width := by
        apply Nat.pow_le_pow_right (by decide)
        simp only [List.length_cons] at room
        omega
      have stepped := steps start byte (by omega)
      rw [List.foldl_cons, ih (step start byte) (used + 1) (by omega)
        (by simp only [List.length_cons] at room; omega), stepped]
      rfl

theorem toNat_word16 {bytes : List UInt8} (short : bytes.length ≤ 2) :
    (word16 bytes).toNat = spelled bytes 0 := by
  apply toNat_foldl UInt16.toNat 2 _ ?_ _ 0 0 (by decide) (by omega)
  intro value byte fits
  rw [UInt16.toNat_or, UInt16.toNat_shiftLeft]
  exact shift_or byte.toNat_lt fits

theorem toNat_word32 {bytes : List UInt8} (short : bytes.length ≤ 4) :
    (word32 bytes).toNat = spelled bytes 0 := by
  apply toNat_foldl UInt32.toNat 4 _ ?_ _ 0 0 (by decide) (by omega)
  intro value byte fits
  rw [UInt32.toNat_or, UInt32.toNat_shiftLeft]
  exact shift_or byte.toNat_lt fits

theorem toNat_word64 {bytes : List UInt8} (short : bytes.length ≤ 8) :
    (word64 bytes).toNat = spelled bytes 0 := by
  apply toNat_foldl UInt64.toNat 8 _ ?_ _ 0 0 (by decide) (by omega)
  intro value byte fits
  rw [UInt64.toNat_or, UInt64.toNat_shiftLeft]
  exact shift_or byte.toNat_lt fits

theorem word16_u16 (value : UInt16) : word16 (Writer.u16 value) = value := by
  have spells : (word16 (Writer.u16 value)).toNat = spelled (Writer.u16 value) 0 := toNat_word16 (le_refl 2)
  have bound := value.toNat_lt
  apply UInt16.toNat.inj
  rw [spells]
  simp [spelled, Writer.u16, Nat.shiftRight_eq_div_pow]
  omega

theorem word32_u32 (value : UInt32) : word32 (Writer.u32 value) = value := by
  have spells : (word32 (Writer.u32 value)).toNat = spelled (Writer.u32 value) 0 := toNat_word32 (le_refl 4)
  have bound := value.toNat_lt
  apply UInt32.toNat.inj
  rw [spells]
  simp [spelled, Writer.u32, Sha256.bigEndian32, List.range, List.range.loop,
    Nat.shiftRight_eq_div_pow]
  omega

theorem word64_u64 (value : UInt64) : word64 (Writer.u64 value) = value := by
  have spells : (word64 (Writer.u64 value)).toNat = spelled (Writer.u64 value) 0 := toNat_word64 (le_refl 8)
  have bound := value.toNat_lt
  apply UInt64.toNat.inj
  rw [spells]
  simp [spelled, Writer.u64, Sha256.bigEndian64, List.range, List.range.loop,
    Nat.shiftRight_eq_div_pow]
  omega

theorem digestOf_digest (value : Digest) : digestOf (Writer.digest value) = value := by
  have same : (digestOf (Writer.digest value)).bytes = value.bytes := by
    apply Vector.ext
    intro i inside
    have present : i < value.bytes.toList.length := by simpa using inside
    simp only [digestOf, Writer.digest, Vector.getElem_ofFn, List.getD_eq_getElem?_getD]
    rw [List.getElem?_eq_getElem present]
    simp
  exact congrArg Digest.mk same

theorem u8_reads (value : UInt8) : Reads u8 (Writer.u8 value) value :=
  mapped_reads _ (raw_reads [value])

theorem u16_reads (value : UInt16) : Reads u16 (Writer.u16 value) value := by
  have reads := mapped_reads word16 (raw_reads (Writer.u16 value))
  rwa [word16_u16] at reads

theorem u32_reads (value : UInt32) : Reads u32 (Writer.u32 value) value := by
  have reads := mapped_reads word32 (raw_reads (Writer.u32 value))
  rwa [word32_u32] at reads

theorem u64_reads (value : UInt64) : Reads u64 (Writer.u64 value) value := by
  have reads := mapped_reads word64 (raw_reads (Writer.u64 value))
  rwa [word64_u64] at reads

theorem i64_reads (value : Int) : Reads i64 (Writer.i64 value) (wrap64 value) :=
  mapped_reads signed (u64_reads (UInt64.ofInt value))

theorem digest_reads (value : Digest) : Reads digest (Writer.digest value) value := by
  have width : (Writer.digest value).length = 32 := by simp [Writer.digest]
  have reads := mapped_reads digestOf (raw_reads (Writer.digest value))
  rwa [digestOf_digest, width] at reads

theorem boolean_reads (value : Bool) : Reads boolean (Writer.boolean value) value := by
  intro rest pair found
  unfold boolean at found
  cases run : u8 (Writer.boolean value ++ rest) with
  | none =>
      rw [run] at found
      cases found
  | some inner =>
      rw [run, u8_reads _ rest inner run] at found
      cases value <;> exact (Option.some.inj found).symm

theorem toNat_count {size : Nat} (fits : FitsCount size) : size.toUInt32.toNat = size := by
  unfold FitsCount at fits
  rw [Nat.toUInt32_eq, UInt32.toNat_ofNat']
  exact Nat.mod_eq_of_lt fits

theorem str_reads (maxLength : Nat) {value : Text} (fits : FitsCount value.length) :
    Reads (str maxLength) (Writer.str value) value := by
  intro rest pair found
  unfold str Writer.str at found
  rw [List.append_assoc] at found
  cases run : u32 (Writer.count value.length ++ (value ++ rest)) with
  | none =>
      rw [run] at found
      cases found
  | some inner =>
      rw [run, u32_reads _ (value ++ rest) inner run] at found
      simp only [toNat_count fits] at found
      split at found
      · cases found
      · exact raw_reads value rest pair found

end Reader

/-! What the decoders find where the writer wrote. -/

theorem need_inverts {α : Type} {read : Reader α} {image : List UInt8} {value : α}
    (reads : Reads read image value) (code : ErrorCode) (detail : String) :
    Inverts (need read code detail) image value := by
  intro rest result found
  unfold need at found
  cases run : read (image ++ rest) with
  | none =>
      rw [run] at found
      cases found
  | some pair =>
      rw [run] at found
      rw [← Except.ok.inj found]
      exact reads rest pair run

theorem refuse_inverts (condition : Bool) (code : ErrorCode) (detail : String) :
    Inverts (refuse condition code detail) [] () :=
  Inverts.ite (fun _ => Inverts.throw _ [] ()) (fun _ => Inverts.pure ())

theorem parsed_inverts {α : Type} {attempt : Option α} {value : α} (code : ErrorCode) (detail : String)
    (expected : ∀ found, attempt = some found → found = value) :
    Inverts (parsed attempt code detail) [] value := by
  cases attempt with
  | none => exact Inverts.throw _ [] value
  | some found =>
      rw [expected found rfl]
      exact Inverts.pure value

/-- A sequence whose length is written first. -/
theorem counted_inverts {α β : Type} {decoder : Decoding α} {images : β → List UInt8} {values : β → α}
    {items : List β} (fits : FitsCount items.length)
    (each : ∀ item ∈ items, Inverts decoder (images item) (values item)) :
    Inverts (decoder.repeated items.length.toUInt32.toNat) (items.flatMap images) (items.map values) := by
  rw [Reader.toNat_count fits]
  exact Inverts.repeated items each

end TrafficFabric
