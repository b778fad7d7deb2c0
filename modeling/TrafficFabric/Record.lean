import TrafficFabric.PlanCodec

set_option autoImplicit false

/- Durable records, their framing, and the payloads the repository itself looks into. -/
namespace TrafficFabric

inductive RecordType
  | plan | policy | objectiveProfile | fence | coordinatorEpoch | audit
deriving DecidableEq, Repr, Inhabited

namespace RecordType

def code : RecordType → UInt16
  | plan => 1
  | policy => 2
  | objectiveProfile => 3
  | fence => 4
  | coordinatorEpoch => 5
  | audit => 6

def all : List RecordType := [plan, policy, objectiveProfile, fence, coordinatorEpoch, audit]

end RecordType

structure DurableRecord where
  type : RecordType := .audit
  sequence : UInt64 := 0
  previousDigest : Digest := default
  recordDigest : Digest := default
  payload : List UInt8 := []
deriving DecidableEq, Inhabited

/-! Payloads of fences and coordinator epochs. -/

structure FenceRecord where
  publisher : PublisherId := default
  boot : BootId := default
  incarnation : Gen .coordinatorIncarnation := default
  reason : Text := []
  tick : UInt64 := 0
deriving DecidableEq, Inhabited

structure CoordinatorEpochRecord where
  coordinator : CoordinatorId := default
  incarnation : Gen .coordinatorIncarnation := default
  boot : BootId := default
  epoch : UInt64 := 0
deriving DecidableEq, Inhabited

open Writer in
def encodeFence (fence : FenceRecord) : List UInt8 :=
  u16 durableFormatVersion ++ str fence.publisher.str ++ boot fence.boot ++
    u64 fence.incarnation.value ++ str fence.reason ++ u64 fence.tick

open Writer in
def encodeCoordinatorEpoch (record : CoordinatorEpochRecord) : List UInt8 :=
  u16 durableFormatVersion ++ str record.coordinator.str ++ u64 record.incarnation.value ++
    boot record.boot ++ u64 record.epoch

namespace RecordCodec

open Reader (u16 u64 raw)
open PlanCodec (requiredId requiredGen boundedText)

def readBoot (truncated invalid : String) : Decoding BootId := do
  let bytes ← need (raw 16) .truncatedInput truncated
  let boot : BootId := ⟨Vector.ofFn fun i : Fin 16 => bytes.getD i.val 0⟩
  refuse (!boot.valid) .malformedInput invalid
  pure boot

def readFence : Decoding FenceRecord := do
  let version ← need u16 .truncatedInput "fence record version is truncated"
  refuse (version != durableFormatVersion) .unsupportedVersion "unsupported fence record version"
  let publisher ← requiredId "fence publisher is malformed" "fence publisher is invalid"
  let boot ← readBoot "fence boot id is truncated" "fence boot id is invalid"
  let incarnation ← requiredGen "fence incarnation is truncated" "fence incarnation is zero"
  let reason ← boundedText "fence reason is malformed"
  let tick ← need u64 .truncatedInput "fence tick is truncated"
  pure
    { publisher := publisher
      boot := boot
      incarnation := incarnation
      reason := reason
      tick := tick }

def readCoordinatorEpoch : Decoding CoordinatorEpochRecord := do
  let version ← need u16 .truncatedInput "epoch record version is truncated"
  refuse (version != durableFormatVersion) .unsupportedVersion "unsupported epoch record version"
  let coordinator ← requiredId "coordinator id is malformed" "coordinator id is invalid"
  let incarnation ← requiredGen "epoch incarnation is truncated" "epoch incarnation is zero"
  let boot ← readBoot "epoch boot id is truncated" "epoch boot id is invalid"
  let epoch ← need u64 .truncatedInput "epoch value is truncated"
  refuse (epoch == 0) .invalidGeneration "epoch value is zero"
  pure
    { coordinator := coordinator
      incarnation := incarnation
      boot := boot
      epoch := epoch }

end RecordCodec

def decodeFence (payload : List UInt8) : Result FenceRecord :=
  decodeWhole RecordCodec.readFence "fence record has trailing bytes" payload

def decodeCoordinatorEpoch (payload : List UInt8) : Result CoordinatorEpochRecord :=
  decodeWhole RecordCodec.readCoordinatorEpoch "epoch record has trailing bytes" payload

/-! Framing. -/

def crc32cEntry (seed : UInt32) : UInt32 :=
  (List.range 8).foldl (fun crc _ =>
    (crc >>> 1) ^^^ (if crc &&& 1 ≠ 0 then 0x82F63B78 else 0)) seed

/-- The table entry is computed where the source looks it up. -/
def crc32c (data : List UInt8) : UInt32 :=
  data.foldl (fun crc byte => crc32cEntry ((crc ^^^ byte.toUInt32) &&& 0xFF) ^^^ (crc >>> 8))
    0xFFFFFFFF ^^^ 0xFFFFFFFF

def Sha256.hash (data : List UInt8) : Digest := (Hasher.new.update data).finish

namespace Frame

def recordMagic : UInt32 := 0x54454652
def journalMagic : UInt32 := 0x5445464A
def snapshotMagic : UInt32 := 0x54454653
def manifestMagic : UInt32 := 0x5445464D

def recordHeaderSize : Nat := 56
def journalHeaderSize : Nat := 32
def snapshotHeaderSize : Nat := 40
def digestSize : Nat := 32
def manifestSize : Nat := 16
def maxRecordPayload : Nat := Limits.maxFramePayload
def maxFileBytes : Nat := 512 * 1024 * 1024

end Frame

open Writer in
def recordHeader (record : DurableRecord) : List UInt8 :=
  u32 Frame.recordMagic ++ u16 durableFormatVersion ++ u16 record.type.code ++
    count record.payload.length ++ u64 record.sequence ++ Writer.digest record.previousDigest ++
    u32 (crc32c record.payload)

/-- The digest that terminates the frame of a record. -/
def frameDigest (record : DurableRecord) : Digest :=
  Sha256.hash (recordHeader record ++ record.payload)

/-- `encode_record_image`. -/
def recordImage (record : DurableRecord) : List UInt8 :=
  recordHeader record ++ record.payload ++ Writer.digest (frameDigest record)

open Writer in
def makeJournalHeader (startSequence : UInt64) : List UInt8 :=
  let fields := u32 Frame.journalMagic ++ u16 durableFormatVersion ++ u16 0 ++ u64 startSequence ++
    u64 0
  fields ++ u32 (crc32c fields) ++ u32 0

open Writer in
def makeManifest : List UInt8 :=
  u32 Frame.manifestMagic ++ u16 durableFormatVersion ++ u16 0 ++ u64 0

/-- The snapshot file: header, the images of all records, and a digest over both. -/
def snapshotImage (lastSequence : UInt64) (records : List DurableRecord) : List UInt8 :=
  let payload := records.flatMap recordImage
  let bytes := Writer.u32 Frame.snapshotMagic ++ Writer.u16 durableFormatVersion ++ Writer.u16 0 ++
    Writer.u64 lastSequence ++ Writer.u64 (lastSequence + 1) ++ Writer.u64 payload.length.toUInt64 ++
    Writer.u32 (crc32c payload) ++ Writer.u32 0 ++ payload
  bytes ++ Writer.digest (Sha256.hash bytes)

/-! Reading frames at fixed offsets. -/

/-- The bytes at an offset. -/
def field (bytes : List UInt8) (offset size : Nat) : List UInt8 := (bytes.drop offset).take size

namespace Frame

open Reader (word16 word32 word64 digestOf)

def magicOf (bytes : List UInt8) : UInt32 := word32 (field bytes 0 4)
def versionOf (bytes : List UInt8) : UInt16 := word16 (field bytes 4 2)
def typeOf (bytes : List UInt8) : UInt16 := word16 (field bytes 6 2)
def lengthOf (bytes : List UInt8) : Nat := (word32 (field bytes 8 4)).toNat
def sequenceOf (bytes : List UInt8) : UInt64 := word64 (field bytes 12 8)
def previousOf (bytes : List UInt8) : Digest := digestOf (field bytes 20 digestSize)
def crcOf (bytes : List UInt8) : UInt32 := word32 (field bytes 52 4)

/-- The size of the frame at the front of the bytes. -/
def totalOf (bytes : List UInt8) : Nat := recordHeaderSize + lengthOf bytes + digestSize

def payloadOf (bytes : List UInt8) : List UInt8 := field bytes recordHeaderSize (lengthOf bytes)

def storedOf (bytes : List UInt8) : Digest :=
  digestOf (field bytes (recordHeaderSize + lengthOf bytes) digestSize)

/-- The digest over the header and the payload at the front of the bytes. -/
def computedOf (bytes : List UInt8) : Digest :=
  Sha256.hash (field bytes 0 (recordHeaderSize + lengthOf bytes))

/-- The record at the front of the bytes. A code no enumerator has is kept as `audit`, which no
reader of the record list looks into; the journal refuses such a code before. -/
def recordOf (bytes : List UInt8) : DurableRecord :=
  { type := (ofCode RecordType.all RecordType.code (typeOf bytes)).getD .audit
    sequence := sequenceOf bytes
    previousDigest := previousOf bytes
    recordDigest := storedOf bytes
    payload := payloadOf bytes }

end Frame

end TrafficFabric
