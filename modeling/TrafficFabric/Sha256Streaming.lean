import TrafficFabric.Digest
import Mathlib.Data.List.Basic

set_option autoImplicit false

/- However a string is cut into chunks, the streaming hasher digests the padded string. -/
namespace TrafficFabric.Sha256

/-- The hasher as `finish` leaves it. -/
def Hasher.close (hasher : Hasher) : Hasher :=
  if hasher.finished then hasher
  else
    let padded := padZeros 64 (hasher.update [0x80])
    { padded.update (bigEndian64 (hasher.totalBytes * 8)) with finished := true }

theorem finish_eq (hasher : Hasher) : hasher.finish = digestOfWords hasher.close.state := by
  unfold Hasher.finish Hasher.close
  cases hasher.finished <;> rfl

theorem close_finish (hasher : Hasher) : hasher.close.finish = hasher.finish := by
  have closed : hasher.close.finished = true := by
    unfold Hasher.close
    cases finished : hasher.finished
    · rfl
    · exact finished
  rw [finish_eq, finish_eq hasher]
  have again : hasher.close.close = hasher.close := if_pos closed
  rw [again]

/-! What is digested. -/

/-- The sixty-four bytes at a position counted in blocks. -/
def blockAt (data : List UInt8) (index : Nat) : List UInt8 := (data.drop (64 * index)).take 64

/-- `compress` folded over the whole blocks of a string. -/
def foldBlocks (state : Words) (data : List UInt8) : Words :=
  (List.range (data.length / 64)).foldl (fun state index => compress state (blockAt data index)) state

/-- The low 64 bits of a number, the highest byte first. -/
def lengthField (bits : Nat) : List UInt8 := (List.range 8).map fun i => (bits >>> (8 * (7 - i))).toUInt8

/-- The zeros that lead up to the length field. -/
def zeroCount (length : Nat) : Nat := (119 - length % 64) % 64

/-- The string with a one bit, zeros and its length in bits. -/
def paddedMessage (data : List UInt8) : List UInt8 :=
  data ++ [0x80] ++ List.replicate (zeroCount data.length) 0 ++ lengthField (8 * data.length)

def messageDigest (data : List UInt8) : Digest := digestOfWords (foldBlocks initial (paddedMessage data))

theorem bigEndian64_eq (length : Nat) : bigEndian64 (length.toUInt64 * 8) = lengthField (8 * length) := by
  have bits : length.toUInt64 * 8 = UInt64.ofNat (8 * length) := by
    rw [Nat.mul_comm, UInt64.ofNat_mul]
    rfl
  unfold bigEndian64 lengthField
  rw [bits]
  apply List.map_congr_left
  intro i inside
  rw [List.mem_range] at inside
  have shift : (8 * (7 - i)).toUInt64.toNat % 64 = 8 * (7 - i) := by
    show (UInt64.ofNat (8 * (7 - i))).toNat % 64 = _
    rw [UInt64.toNat_ofNat']
    omega
  apply UInt8.toNat_inj.1
  show (UInt64.ofNat (8 * length) >>> (8 * (7 - i)).toUInt64).toUInt8.toNat =
    (UInt8.ofNat ((8 * length) >>> (8 * (7 - i)))).toNat
  rw [UInt64.toNat_toUInt8, UInt64.toNat_shiftRight, shift, UInt64.toNat_ofNat', UInt8.toNat_ofNat']
  apply Nat.eq_of_testBit_eq
  intro j
  rw [Nat.testBit_mod_two_pow, Nat.testBit_mod_two_pow, Nat.testBit_shiftRight, Nat.testBit_shiftRight,
    Nat.testBit_mod_two_pow]
  by_cases low : j < 8
  · have within : 8 * (7 - i) + j < 64 := by omega
    simp [within]
  · simp [low]

/-! Whole blocks are compressed, the rest is kept. -/

/-- The whole blocks compressed into the state, and the rest. -/
def settle (state : Words) (data : List UInt8) : Words × List UInt8 := absorb (data.length / 64) state data

theorem settle_short {data : List UInt8} (short : data.length < 64) (state : Words) :
    settle state data = (state, data) := by
  unfold settle
  rw [Nat.div_eq_of_lt short]
  rfl

theorem settle_block {block : List UInt8} (full : block.length = 64) (state : Words) (rest : List UInt8) :
    settle state (block ++ rest) = settle (compress state block) rest := by
  have blocks : (block ++ rest).length / 64 = rest.length / 64 + 1 := by
    rw [List.length_append, full]
    omega
  unfold settle
  rw [blocks, absorb, List.take_left' full, List.drop_left' full]

/-- Settling a string in two parts is settling it at once. The induction is on the whole blocks of the first
part. -/
theorem settle_append (state : Words) (first second : List UInt8) :
    settle state (first ++ second) = settle (settle state first).1 ((settle state first).2 ++ second) := by
  generalize size : first.length = length
  induction length using Nat.strong_induction_on generalizing state first with
  | _ length ih =>
      by_cases short : first.length < 64
      · rw [settle_short short]
      · have full : (first.take 64).length = 64 := by
          rw [List.length_take]
          omega
        have smaller : (first.drop 64).length < length := by
          rw [List.length_drop]
          omega
        rw [← List.take_append_drop 64 first, List.append_assoc, settle_block full, settle_block full]
        exact ih _ smaller _ _ rfl

theorem absorb_eq (blocks : Nat) (state : Words) (data : List UInt8) : absorb blocks state data =
    ((List.range blocks).foldl (fun state index => compress state (blockAt data index)) state,
      data.drop (64 * blocks)) := by
  induction blocks generalizing state data with
  | zero => rfl
  | succ blocks ih =>
      have later (index : Nat) : blockAt (data.drop 64) index = blockAt data (index + 1) := by
        unfold blockAt
        rw [List.drop_drop, show 64 + 64 * index = 64 * (index + 1) by omega]
      have rest : (data.drop 64).drop (64 * blocks) = data.drop (64 * (blocks + 1)) := by
        rw [List.drop_drop, show 64 + 64 * blocks = 64 * (blocks + 1) by omega]
      rw [absorb, ih, rest, List.range_succ_eq_map, List.foldl_cons, List.foldl_map]
      simp only [later]
      rfl

theorem settle_eq (state : Words) (data : List UInt8) :
    settle state data = (foldBlocks state data, data.drop (64 * (data.length / 64))) :=
  absorb_eq _ state data

/-! The hasher. -/

/-- The hasher has taken in the data: its whole blocks are compressed and the rest is buffered. -/
structure Absorbed (hasher : Hasher) (data : List UInt8) : Prop where
  settled : (hasher.state, hasher.buffer) = settle initial data
  counted : hasher.totalBytes = data.length.toUInt64
  running : hasher.finished = false

theorem absorbed_new : Absorbed .new [] := ⟨rfl, rfl, rfl⟩

theorem Absorbed.buffer_length {hasher : Hasher} {data : List UInt8} (absorbed : Absorbed hasher data) :
    hasher.buffer.length = data.length % 64 := by
  have buffer : hasher.buffer = data.drop (64 * (data.length / 64)) := by
    have settled := absorbed.settled
    rw [settle_eq] at settled
    exact congrArg Prod.snd settled
  rw [buffer, List.length_drop]
  omega

/-- A chunk meets the buffer: it fills a block, or joins a partial one, or starts on an empty one. -/
theorem update_settles (hasher : Hasher) (running : hasher.finished = false)
    (short : hasher.buffer.length < 64)
    (data : List UInt8) : ((hasher.update data).state, (hasher.update data).buffer) =
      settle hasher.state (hasher.buffer ++ data) := by
  unfold Hasher.update
  rw [running, if_neg Bool.false_ne_true]
  by_cases partly : 0 < hasher.buffer.length
  · dsimp only
    rw [if_pos partly]
    by_cases topped : (hasher.buffer ++ data.take (64 - hasher.buffer.length)).length = 64
    · have parts : hasher.buffer ++ data = (hasher.buffer ++ data.take (64 - hasher.buffer.length)) ++
          data.drop (64 - hasher.buffer.length) := by
        rw [List.append_assoc, List.take_append_drop]
      rw [if_pos topped, parts, settle_block topped]
      rfl
    · have whole : data.length < 64 - hasher.buffer.length := by
        rw [List.length_append, List.length_take] at topped
        omega
      rw [if_neg topped, List.take_of_length_le whole.le, List.drop_of_length_le whole.le,
        settle_short (by rw [List.length_append]; omega)]
      dsimp only
      rw [List.length_nil, Nat.zero_div, absorb, List.append_nil]
  · have empty : hasher.buffer = [] := List.eq_nil_of_length_eq_zero (by omega)
    dsimp only
    rw [if_neg partly, empty]
    rfl

theorem Absorbed.update {hasher : Hasher} {data : List UInt8} (absorbed : Absorbed hasher data)
    (chunk : List UInt8) : Absorbed (hasher.update chunk) (data ++ chunk) := by
  have short : hasher.buffer.length < 64 := by
    rw [absorbed.buffer_length]
    omega
  refine ⟨?_, ?_, ?_⟩
  · rw [update_settles hasher absorbed.running short, settle_append initial, ← absorbed.settled]
  · have total : (hasher.update chunk).totalBytes = hasher.totalBytes + chunk.length.toUInt64 := by
      unfold Hasher.update
      rw [absorbed.running]
      rfl
    rw [total, absorbed.counted, List.length_append]
    exact (UInt64.ofNat_add _ _).symm
  · unfold Hasher.update
    rw [absorbed.running]
    rfl

/-- The loop of `finish` ends at byte 56 of a block, after no more zeros than are missing there. -/
theorem Absorbed.padZeros {fuel zeros : Nat} (enough : zeros ≤ fuel) {hasher : Hasher} {data : List UInt8}
    (absorbed : Absorbed hasher data) (missing : zeros = (120 - data.length % 64) % 64) :
    Absorbed (padZeros fuel hasher) (data ++ List.replicate zeros 0) := by
  have buffer := absorbed.buffer_length
  induction zeros generalizing fuel hasher data with
  | zero =>
      have there : hasher.buffer.length = 56 := by omega
      rw [List.replicate_zero, List.append_nil]
      cases fuel with
      | zero => exact absorbed
      | succ fuel =>
          rw [Sha256.padZeros, if_pos there]
          exact absorbed
  | succ zeros ih =>
      obtain ⟨rest, fuel_eq⟩ : ∃ rest, fuel = rest + 1 := ⟨fuel - 1, by omega⟩
      have elsewhere : ¬ hasher.buffer.length = 56 := by omega
      have next := absorbed.update [0]
      have left : zeros = (120 - (data ++ [0]).length % 64) % 64 := by
        rw [List.length_append]
        simp only [List.length_cons, List.length_nil]
        omega
      rw [fuel_eq, Sha256.padZeros, if_neg elsewhere, List.replicate_succ, List.append_cons]
      exact ih (by omega) next left next.buffer_length

theorem Absorbed.close {hasher : Hasher} {data : List UInt8} (absorbed : Absorbed hasher data) :
    hasher.close.state = foldBlocks initial (paddedMessage data) := by
  have marked := absorbed.update [0x80]
  have zeros : zeroCount data.length = (120 - (data ++ [(0x80 : UInt8)]).length % 64) % 64 := by
    rw [List.length_append]
    unfold zeroCount
    simp only [List.length_cons, List.length_nil]
    omega
  have enough : zeroCount data.length ≤ 64 := by
    unfold zeroCount
    omega
  have field : bigEndian64 (hasher.totalBytes * 8) = lengthField (8 * data.length) := by
    rw [absorbed.counted, bigEndian64_eq]
  have closed : hasher.close.state =
      ((Sha256.padZeros 64 (hasher.update [0x80])).update (bigEndian64 (hasher.totalBytes * 8))).state := by
    unfold Hasher.close
    rw [absorbed.running]
    rfl
  have padded := (marked.padZeros enough zeros).update (lengthField (8 * data.length))
  rw [closed, field]
  exact congrArg Prod.fst (padded.settled.trans (settle_eq initial _))

theorem absorbed_foldl (chunks : List (List UInt8)) :
    Absorbed (chunks.foldl Hasher.update .new) chunks.flatten := by
  have run (hasher : Hasher) (data : List UInt8) (absorbed : Absorbed hasher data) :
      Absorbed (chunks.foldl Hasher.update hasher) (data ++ chunks.flatten) := by
    induction chunks generalizing hasher data with
    | nil => simpa using absorbed
    | cons chunk rest ih =>
        rw [List.foldl_cons, List.flatten_cons, ← List.append_assoc]
        exact ih _ _ (absorbed.update chunk)
  exact run .new [] absorbed_new

/-- Whatever the chunks, `finish` returns the digest of the padded string, and so does every later one. -/
theorem streamed_digest (chunks : List (List UInt8)) :
    (chunks.foldl Hasher.update .new).finish = messageDigest chunks.flatten ∧
      (chunks.foldl Hasher.update .new).close.finish = messageDigest chunks.flatten := by
  have digest : (chunks.foldl Hasher.update .new).finish = messageDigest chunks.flatten := by
    rw [finish_eq, (absorbed_foldl chunks).close]
    rfl
  exact ⟨digest, (close_finish _).trans digest⟩

end TrafficFabric.Sha256
