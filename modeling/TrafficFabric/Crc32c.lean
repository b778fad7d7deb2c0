import TrafficFabric.Record
import TrafficFabric.Lib.ShiftRegister

set_option autoImplicit false

/- The table-driven CRC-32C against its shift register. -/
namespace TrafficFabric

/-- `make_crc32c_table`. -/
def makeCrc32cTable : Vector UInt32 256 := Vector.ofFn fun seed => crc32cEntry seed.val.toUInt32

theorem low_byte_lt (crc : UInt32) : (crc &&& 0xFF).toNat < 256 := by
  have bounded : crc.toNat &&& 255 ≤ 255 := Nat.and_le_right
  rw [UInt32.toNat_and]
  exact Nat.lt_succ_of_le bounded

/-- `crc32c`, with the entries looked up in the table. -/
def tableCrc32c (data : List UInt8) : UInt32 :=
  data.foldl (fun (crc : UInt32) byte =>
    makeCrc32cTable.get ⟨((crc ^^^ byte.toUInt32) &&& 0xFF).toNat, low_byte_lt _⟩ ^^^ (crc >>> 8))
    0xFFFFFFFF ^^^ 0xFFFFFFFF

/-- The polynomial with its bits reflected; the highest power is left out. -/
def crc32cPolynomial : BitVec 32 := 0x82F63B78#32

/-- The bits of a byte, the least significant first. -/
def bitsOf (byte : UInt8) : List Bool := (List.range 8).map byte.toBitVec.getLsbD

/-- The shift register fed with the string bit by bit. -/
def bitwiseCrc32c (data : List UInt8) : BitVec 32 :=
  ShiftRegister.feed crc32cPolynomial 0xFFFFFFFF#32 (data.flatMap bitsOf) ^^^ 0xFFFFFFFF#32

open ShiftRegister

theorem low_bit (crc : UInt32) : crc &&& 1 ≠ 0 ↔ crc.toBitVec.getLsbD 0 = true := by
  rw [ne_eq, ← UInt32.toBitVec_inj, UInt32.toBitVec_and]
  show ¬ crc.toBitVec &&& 1#32 = 0#32 ↔ _
  rw [BitVec.and_one_eq_setWidth_ofBool_getLsbD]
  cases crc.toBitVec.getLsbD 0 <;> decide

/-- Eight turns of the loop are eight shifts. -/
theorem toBitVec_crc32cEntry (seed : UInt32) :
    (crc32cEntry seed).toBitVec = (step crc32cPolynomial)^[8] seed.toBitVec := by
  have turn (crc : UInt32) : ((crc >>> 1) ^^^ (if crc &&& 1 ≠ 0 then 0x82F63B78 else 0)).toBitVec =
      step crc32cPolynomial crc.toBitVec := by
    unfold step
    by_cases odd : crc &&& 1 ≠ 0
    · rw [if_pos odd, if_pos ((low_bit crc).1 odd)]
      rfl
    · rw [if_neg odd, if_neg (mt (low_bit crc).2 odd)]
      rfl
  unfold crc32cEntry
  rw [List.foldl_const, List.length_range]
  exact (Function.Semiconj.iterate_right (f := UInt32.toBitVec) turn 8).eq seed

theorem makeCrc32cTable_get (index : UInt32) (small : index.toNat < 256) :
    makeCrc32cTable.get ⟨index.toNat, small⟩ = crc32cEntry index := by
  unfold makeCrc32cTable
  show (Vector.ofFn fun seed : Fin 256 => crc32cEntry seed.val.toUInt32)[index.toNat] = crc32cEntry index
  rw [Vector.getElem_ofFn]
  exact congrArg crc32cEntry UInt32.ofNat_toNat

theorem tableCrc32c_eq (data : List UInt8) : tableCrc32c data = crc32c data := by
  unfold tableCrc32c crc32c
  simp only [makeCrc32cTable_get]

theorem packed_bitsOf (byte : UInt8) : (packed (bitsOf byte) : BitVec 32) = byte.toUInt32.toBitVec := by
  apply BitVec.eq_of_getLsbD_eq
  intro i inside
  rw [getLsbD_packed, UInt8.toBitVec_toUInt32, BitVec.getLsbD_setWidth]
  unfold bitsOf
  by_cases low : i < 8
  · simp [low]
  · simp [low, BitVec.getLsbD_of_ge byte.toBitVec i (by omega)]

theorem getLsbD_mask (i : Nat) : (0xFF : UInt32).toBitVec.getLsbD i = decide (i < 8) := by
  show Nat.testBit (2 ^ 8 - 1) i = _
  exact Nat.testBit_two_pow_sub_one 8 i

/-- The low byte goes through the table, the rest moves down. -/
theorem feed_byte (crc : UInt32) (byte : UInt8) : feed crc32cPolynomial crc.toBitVec (bitsOf byte) =
    (crc32cEntry ((crc ^^^ byte.toUInt32) &&& 0xFF) ^^^ (crc >>> 8)).toBitVec := by
  have length : (bitsOf byte).length = 8 := rfl
  generalize mixed : crc ^^^ byte.toUInt32 = sum
  have clear : ∀ i < 8, (sum ^^^ (sum &&& 0xFF)).toBitVec.getLsbD i = false := by
    intro i small
    rw [UInt32.toBitVec_xor, BitVec.getLsbD_xor, UInt32.toBitVec_and, BitVec.getLsbD_and, getLsbD_mask]
    simp [small]
  have rest : (sum ^^^ (sum &&& 0xFF)).toBitVec >>> 8 = (crc >>> 8).toBitVec := by
    apply BitVec.eq_of_getLsbD_eq
    intro i _
    show _ = (crc.toBitVec >>> 8).getLsbD i
    rw [← mixed, BitVec.getLsbD_ushiftRight, BitVec.getLsbD_ushiftRight, UInt32.toBitVec_xor,
      BitVec.getLsbD_xor,
      UInt32.toBitVec_and, BitVec.getLsbD_and, getLsbD_mask, UInt32.toBitVec_xor, BitVec.getLsbD_xor,
      UInt8.toBitVec_toUInt32, BitVec.getLsbD_setWidth, BitVec.getLsbD_of_ge byte.toBitVec
        (8 + i) (by omega)]
    simp [show ¬ 8 + i < 8 by omega]
  have parts : sum.toBitVec = (sum &&& 0xFF).toBitVec ^^^ (sum ^^^ (sum &&& 0xFF)).toBitVec := by
    rw [UInt32.toBitVec_xor, BitVec.xor_comm sum.toBitVec, ← BitVec.xor_assoc,
      BitVec.xor_self, BitVec.zero_xor]
  rw [feed_eq_steps _ (by rw [length]; decide), length, packed_bitsOf, ← UInt32.toBitVec_xor, mixed, parts,
    steps_xor, steps_of_low_clear _ clear, rest, UInt32.toBitVec_xor, toBitVec_crc32cEntry]

theorem toBitVec_crc32c (data : List UInt8) : (crc32c data).toBitVec = bitwiseCrc32c data := by
  have run (register : UInt32) : (data.foldl (fun crc byte =>
      crc32cEntry ((crc ^^^ byte.toUInt32) &&& 0xFF) ^^^ (crc >>> 8)) register).toBitVec =
      feed crc32cPolynomial register.toBitVec (data.flatMap bitsOf) := by
    induction data generalizing register with
    | nil => rfl
    | cons byte rest ih => rw [List.foldl_cons, ih, List.flatMap_cons, feed_append, feed_byte]
  unfold crc32c bitwiseCrc32c
  rw [UInt32.toBitVec_xor, run]
  rfl

theorem bitsOf_injective : Function.Injective bitsOf := by
  intro first second same
  have equal : first.toUInt32.toBitVec = second.toUInt32.toBitVec := by
    rw [← packed_bitsOf, ← packed_bitsOf, same]
  exact UInt8.toUInt32_inj.1 (UInt32.toBitVec_inj.1 equal)

theorem length_flatMap_bitsOf (data : List UInt8) : (data.flatMap bitsOf).length = 8 * data.length := by
  induction data with
  | nil => rfl
  | cons byte rest ih =>
      rw [List.flatMap_cons, List.length_append, ih, List.length_cons]
      show 8 + 8 * rest.length = _
      omega

theorem flatMap_bitsOf_injective : Function.Injective (List.flatMap bitsOf) := by
  intro first second same
  induction first generalizing second with
  | nil =>
      have empty := congrArg List.length same
      rw [length_flatMap_bitsOf, length_flatMap_bitsOf] at empty
      exact (List.length_eq_zero_iff.1 (Nat.eq_of_mul_eq_mul_left (by decide) empty.symm)).symm
  | cons byte rest ih =>
      cases second with
      | nil =>
          have empty := congrArg List.length same
          rw [length_flatMap_bitsOf, length_flatMap_bitsOf] at empty
          simp at empty
      | cons other tail =>
          rw [List.flatMap_cons, List.flatMap_cons] at same
          obtain ⟨head, tails⟩ := List.append_inj same rfl
          rw [bitsOf_injective head, ih tails]

/-- The table and the bit by bit register compute the same value, which changes with every change of at most
four consecutive bytes. -/
theorem crc32c_exact : (∀ data, tableCrc32c data = UInt32.ofBitVec (bitwiseCrc32c data)) ∧
    ∀ before first second after :
    List UInt8, first.length = second.length → first.length ≤ 4 → first ≠ second →
      tableCrc32c (before ++ first ++ after) ≠ tableCrc32c (before ++ second ++ after) := by
  have bitwise (data : List UInt8) : tableCrc32c data = UInt32.ofBitVec (bitwiseCrc32c data) := by
    rw [tableCrc32c_eq, ← toBitVec_crc32c]
  refine ⟨bitwise, ?_⟩
  intro before first second after length short differ same
  rw [bitwise, bitwise] at same
  have registers := (BitVec.xor_left_inj _).1 (congrArg UInt32.toBitVec same)
  rw [List.flatMap_append, List.flatMap_append, List.flatMap_append, List.flatMap_append] at registers
  refine feed_burst crc32cPolynomial rfl _ ?_ ?_ ?_ registers
  · rw [length_flatMap_bitsOf, length_flatMap_bitsOf, length]
  · rw [length_flatMap_bitsOf]
    omega
  · exact fun equal => differ (flatMap_bitsOf_injective equal)

/-- One byte of three replaced. -/
theorem crc32c_exact_middle : tableCrc32c [1, 2, 3] ≠ tableCrc32c [1, 4, 3] :=
  crc32c_exact.2 [1] [2] [4] [3] rfl (by decide) (by decide)

end TrafficFabric
