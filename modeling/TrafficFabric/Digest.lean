import TrafficFabric.Identity

set_option autoImplicit false

/- SHA-256 as the streaming hasher of `digest.cpp` computes it, and the canonical
big-endian writer whose bytes it digests. -/
namespace TrafficFabric

structure Digest where
  bytes : Vector UInt8 32
deriving DecidableEq

namespace Digest

instance : Inhabited Digest := ⟨⟨Vector.replicate 32 0⟩⟩

def isZero (digest : Digest) : Bool := digest.bytes.toList.all (· == 0)

end Digest

namespace Sha256

def roundConstants : List UInt32 :=
  [0x428a2f98, 0x71374491, 0xb5c0fbcf, 0xe9b5dba5, 0x3956c25b, 0x59f111f1, 0x923f82a4,
   0xab1c5ed5, 0xd807aa98, 0x12835b01, 0x243185be, 0x550c7dc3, 0x72be5d74, 0x80deb1fe,
   0x9bdc06a7, 0xc19bf174, 0xe49b69c1, 0xefbe4786, 0x0fc19dc6, 0x240ca1cc, 0x2de92c6f,
   0x4a7484aa, 0x5cb0a9dc, 0x76f988da, 0x983e5152, 0xa831c66d, 0xb00327c8, 0xbf597fc7,
   0xc6e00bf3, 0xd5a79147, 0x06ca6351, 0x14292967, 0x27b70a85, 0x2e1b2138, 0x4d2c6dfc,
   0x53380d13, 0x650a7354, 0x766a0abb, 0x81c2c92e, 0x92722c85, 0xa2bfe8a1, 0xa81a664b,
   0xc24b8b70, 0xc76c51a3, 0xd192e819, 0xd6990624, 0xf40e3585, 0x106aa070, 0x19a4c116,
   0x1e376c08, 0x2748774c, 0x34b0bcb5, 0x391c0cb3, 0x4ed8aa4a, 0x5b9cca4f, 0x682e6ff3,
   0x748f82ee, 0x78a5636f, 0x84c87814, 0x8cc70208, 0x90befffa, 0xa4506ceb, 0xbef9a3f7,
   0xc67178f2]

def rotr (value : UInt32) (count : UInt32) : UInt32 :=
  (value >>> count) ||| (value <<< (32 - count))

/-- The eight working words `a` to `h`. -/
structure Words where
  a : UInt32
  b : UInt32
  c : UInt32
  d : UInt32
  e : UInt32
  f : UInt32
  g : UInt32
  h : UInt32
deriving DecidableEq

def initial : Words :=
  ⟨0x6a09e667, 0xbb67ae85, 0x3c6ef372, 0xa54ff53a, 0x510e527f, 0x9b05688c, 0x1f83d9ab, 0x5be0cd19⟩

/-- The sixteen big-endian words of a block. -/
def loadWords : List UInt8 → List UInt32
  | b0 :: b1 :: b2 :: b3 :: rest =>
      ((b0.toUInt32 <<< 24) ||| (b1.toUInt32 <<< 16) ||| (b2.toUInt32 <<< 8) ||| b3.toUInt32) ::
        loadWords rest
  | _ => []

def scheduleWord (w : List UInt32) (i : Nat) : UInt32 :=
  let w15 := w.getD (i - 15) 0
  let w2 := w.getD (i - 2) 0
  let s0 := rotr w15 7 ^^^ rotr w15 18 ^^^ (w15 >>> 3)
  let s1 := rotr w2 17 ^^^ rotr w2 19 ^^^ (w2 >>> 10)
  w.getD (i - 16) 0 + s0 + w.getD (i - 7) 0 + s1

/-- The message schedule: sixteen loaded words extended to sixty-four. -/
def schedule (block : List UInt8) : List UInt32 :=
  (List.range 48).foldl (fun w i => w ++ [scheduleWord w (i + 16)]) (loadWords block)

def round (words : Words) (constant scheduled : UInt32) : Words :=
  let s1 := rotr words.e 6 ^^^ rotr words.e 11 ^^^ rotr words.e 25
  let ch := (words.e &&& words.f) ^^^ (~~~words.e &&& words.g)
  let temp1 := words.h + s1 + ch + constant + scheduled
  let s0 := rotr words.a 2 ^^^ rotr words.a 13 ^^^ rotr words.a 22
  let maj := (words.a &&& words.b) ^^^ (words.a &&& words.c) ^^^ (words.b &&& words.c)
  let temp2 := s0 + maj
  ⟨temp1 + temp2, words.a, words.b, words.c, words.d + temp1, words.e, words.f, words.g⟩

def compress (state : Words) (block : List UInt8) : Words :=
  let final := (roundConstants.zip (schedule block)).foldl
    (fun words entry => round words entry.1 entry.2) state
  ⟨state.a + final.a, state.b + final.b, state.c + final.c, state.d + final.d,
    state.e + final.e, state.f + final.f, state.g + final.g, state.h + final.h⟩

/-- The streaming hasher. `buffer` holds the `buffered_` bytes not yet compressed. -/
structure Hasher where
  state : Words
  buffer : List UInt8
  totalBytes : UInt64
  finished : Bool
deriving DecidableEq

def Hasher.new : Hasher := ⟨initial, [], 0, false⟩

/-- `while (size >= 64) compress(p)`: the fuel is the number of whole blocks. -/
def absorb : Nat → Words → List UInt8 → Words × List UInt8
  | 0, state, data => (state, data)
  | blocks + 1, state, data => absorb blocks (compress state (data.take 64)) (data.drop 64)

/-- A partial block is topped up first, then whole blocks are compressed directly and
the remaining bytes are buffered. -/
def Hasher.update (hasher : Hasher) (data : List UInt8) : Hasher :=
  if hasher.finished then hasher
  else
    let needed := 64 - hasher.buffer.length
    let topped := hasher.buffer ++ data.take needed
    let (state, buffer, rest) :=
      if 0 < hasher.buffer.length then
        if topped.length = 64 then (compress hasher.state topped, [], data.drop needed)
        else (hasher.state, topped, data.drop needed)
      else (hasher.state, hasher.buffer, data)
    let absorbed := absorb (rest.length / 64) state rest
    { hasher with
      state := absorbed.1
      buffer := buffer ++ absorbed.2
      totalBytes := hasher.totalBytes + data.length.toUInt64 }

def bigEndian64 (value : UInt64) : List UInt8 :=
  (List.range 8).map fun i => (value >>> (8 * (7 - i)).toUInt64).toUInt8

def bigEndian32 (value : UInt32) : List UInt8 :=
  (List.range 4).map fun i => (value >>> (8 * (3 - i)).toUInt32).toUInt8

/-- `while (buffered_ != 56) update(zero)`; at most 64 zero bytes are needed. -/
def padZeros : Nat → Hasher → Hasher
  | 0, hasher => hasher
  | fuel + 1, hasher =>
      if hasher.buffer.length = 56 then hasher else padZeros fuel (hasher.update [0])

def digestOfWords (state : Words) : Digest :=
  let bytes := [state.a, state.b, state.c, state.d, state.e, state.f, state.g, state.h].flatMap
    bigEndian32
  ⟨Vector.ofFn fun i : Fin 32 => bytes.getD i.val 0⟩

def Hasher.finish (hasher : Hasher) : Digest :=
  if hasher.finished then digestOfWords hasher.state
  else
    let bitLength := hasher.totalBytes * 8
    let padded := padZeros 64 (hasher.update [0x80])
    digestOfWords (padded.update (bigEndian64 bitLength)).state

end Sha256

/-- Every digest is prefixed with a length-delimited domain label. -/
def digestWithDomain (domain : Text) (payload : List UInt8) : Digest :=
  let header := Sha256.bigEndian32 domain.length.toUInt32
  (((Sha256.Hasher.new.update header).update domain).update payload).finish

/-! The canonical writer: every field is appended in turn, so the written bytes are
the concatenation of the images below. -/
namespace Writer

def u8 (value : UInt8) : List UInt8 := [value]

def u16 (value : UInt16) : List UInt8 := [(value >>> 8).toUInt8, value.toUInt8]

def u32 (value : UInt32) : List UInt8 := Sha256.bigEndian32 value

def u64 (value : UInt64) : List UInt8 := Sha256.bigEndian64 value

/-- `static_cast<std::uint64_t>` of a signed value is its residue modulo `2^64`. -/
def i64 (value : Int) : List UInt8 := u64 (UInt64.ofInt value)

def boolean (value : Bool) : List UInt8 := u8 (if value then 1 else 0)

def count (size : Nat) : List UInt8 := u32 size.toUInt32

def str (value : Text) : List UInt8 := count value.length ++ value

def digest (value : Digest) : List UInt8 := value.bytes.toList

/-- A length-prefixed sequence of element images. -/
def sequence {α : Type} (image : α → List UInt8) (items : List α) : List UInt8 :=
  count items.length ++ items.flatMap image

def ids {kind : IdKind} (items : List (Id kind)) : List UInt8 :=
  sequence (fun id => str id.value) items

def strings (items : List Text) : List UInt8 := sequence str items

def optional (image : Int → List UInt8) (value : Option Int) : List UInt8 :=
  match value with
  | none => boolean false
  | some present => boolean true ++ image present

end Writer

end TrafficFabric
