import TrafficFabric.Repository

set_option autoImplicit false

/- What the loops over a snapshot and over a journal find where records were written, whole
or torn. -/
namespace TrafficFabric

open Reader (word16_u16 word32_u32 word64_u64 digestOf_digest)

/-! Fields at fixed offsets. -/

theorem field_eq {bytes : List UInt8} (before middle after : List UInt8) {offset size : Nat}
    (split : bytes = before ++ (middle ++ after)) (start : before.length = offset)
    (width : middle.length = size) : field bytes offset size = middle := by
  subst split start width
  unfold field
  rw [List.drop_left' rfl, List.take_left' rfl]

theorem length_digest (digest : Digest) : (Writer.digest digest).length = 32 := by
  simp [Writer.digest]

theorem length_recordHeader (record : DurableRecord) :
    (recordHeader record).length = Frame.recordHeaderSize := by
  simp only [recordHeader, List.length_append, length_digest]
  rfl

theorem length_recordImage (record : DurableRecord) :
    (recordImage record).length = Frame.recordHeaderSize + record.payload.length + Frame.digestSize := by
  simp only [recordImage, List.length_append, length_recordHeader, length_digest]
  rfl

/-- The header of a record, one field behind the other. -/
theorem recordHeader_append (record : DurableRecord) (rest : List UInt8) :
    recordHeader record ++ rest = Writer.u32 Frame.recordMagic ++ (Writer.u16 durableFormatVersion ++
      (Writer.u16 record.type.code ++ (Writer.count record.payload.length ++
        (Writer.u64 record.sequence ++ (Writer.digest record.previousDigest ++
          (Writer.u32 (crc32c record.payload) ++ rest)))))) := by
  simp only [recordHeader, List.append_assoc]

namespace Frame

section Header

variable (record : DurableRecord) (rest : List UInt8)

theorem magicOf_header : magicOf (recordHeader record ++ rest) = recordMagic := by
  have found : field (recordHeader record ++ rest) 0 4 = Writer.u32 recordMagic :=
    field_eq ([])
      (Writer.u32 recordMagic) _ (recordHeader_append record rest) rfl rfl
  unfold magicOf
  rw [found, word32_u32]

theorem versionOf_header : versionOf (recordHeader record ++ rest) = durableFormatVersion := by
  have found : field (recordHeader record ++ rest) 4 2 = Writer.u16 durableFormatVersion :=
    field_eq (Writer.u32 recordMagic)
      (Writer.u16 durableFormatVersion) _ (recordHeader_append record rest) rfl rfl
  unfold versionOf
  rw [found, word16_u16]

theorem typeOf_header : typeOf (recordHeader record ++ rest) = record.type.code := by
  have found : field (recordHeader record ++ rest) 6 2 = Writer.u16 record.type.code :=
    field_eq (Writer.u32 recordMagic ++
      Writer.u16 durableFormatVersion)
      (Writer.u16 record.type.code) _
        (by rw [recordHeader_append]; simp only [List.append_assoc]; rfl) rfl rfl
  unfold typeOf
  rw [found, word16_u16]

theorem lengthOf_header (bounded : record.payload.length ≤ maxRecordPayload) :
    lengthOf (recordHeader record ++ rest) = record.payload.length := by
  have fits : FitsCount record.payload.length := lt_of_le_of_lt bounded (by decide)
  have found : field (recordHeader record ++ rest) 8 4 = Writer.count record.payload.length :=
    field_eq (Writer.u32 recordMagic ++
      Writer.u16 durableFormatVersion ++
      Writer.u16 record.type.code)
      (Writer.count record.payload.length) _
      (by rw [recordHeader_append]; simp only [List.append_assoc]; rfl) rfl rfl
  unfold lengthOf
  rw [found, Writer.count, word32_u32, Reader.toNat_count fits]

theorem sequenceOf_header : sequenceOf (recordHeader record ++ rest) = record.sequence := by
  have found : field (recordHeader record ++ rest) 12 8 = Writer.u64 record.sequence :=
    field_eq (Writer.u32 recordMagic ++
      Writer.u16 durableFormatVersion ++
      Writer.u16 record.type.code ++
      Writer.count record.payload.length)
      (Writer.u64 record.sequence) _
        (by rw [recordHeader_append]; simp only [List.append_assoc]; rfl) rfl rfl
  unfold sequenceOf
  rw [found, word64_u64]

theorem previousOf_header : previousOf (recordHeader record ++ rest) = record.previousDigest := by
  have found : field (recordHeader record ++ rest) 20 digestSize = Writer.digest record.previousDigest :=
    field_eq (Writer.u32 recordMagic ++
      Writer.u16 durableFormatVersion ++
      Writer.u16 record.type.code ++
      Writer.count record.payload.length ++
      Writer.u64 record.sequence)
      (Writer.digest record.previousDigest) _
        (by rw [recordHeader_append]; simp only [List.append_assoc]; rfl) rfl (length_digest _)
  unfold previousOf
  rw [found, digestOf_digest]

theorem crcOf_header : crcOf (recordHeader record ++ rest) = crc32c record.payload := by
  have start : (Writer.u32 recordMagic ++
      Writer.u16 durableFormatVersion ++
      Writer.u16 record.type.code ++
      Writer.count record.payload.length ++
      Writer.u64 record.sequence ++
      Writer.digest record.previousDigest).length = 52 := by
    simp only [List.length_append, length_digest]
    rfl
  have found : field (recordHeader record ++ rest) 52 4 = Writer.u32 (crc32c record.payload) :=
    field_eq _ (Writer.u32 (crc32c record.payload)) rest
      (by rw [recordHeader_append]; simp only [List.append_assoc]) start rfl
  unfold crcOf
  rw [found, word32_u32]

end Header

/-! A whole record. -/

section Image

variable {record : DurableRecord} (rest : List UInt8)

theorem image_append : recordImage record ++ rest =
    recordHeader record ++ (record.payload ++ (Writer.digest (frameDigest record) ++ rest)) := by
  simp only [recordImage, List.append_assoc]

variable (bounded : record.payload.length ≤ maxRecordPayload)

include bounded

theorem totalOf_image : totalOf (recordImage record ++ rest) = (recordImage record).length := by
  unfold totalOf
  rw [image_append, lengthOf_header record _ bounded, length_recordImage]

theorem payloadOf_image : payloadOf (recordImage record ++ rest) = record.payload := by
  unfold payloadOf
  rw [image_append, lengthOf_header record _ bounded]
  exact field_eq (recordHeader record) record.payload _ rfl (length_recordHeader record) rfl

theorem storedOf_image : storedOf (recordImage record ++ rest) = frameDigest record := by
  have start : (recordHeader record ++ record.payload).length =
      recordHeaderSize + record.payload.length := by
    rw [List.length_append, length_recordHeader]
  have found :
    field (recordHeader record ++ (record.payload ++ (Writer.digest (frameDigest record) ++ rest)))
      (recordHeaderSize + record.payload.length) digestSize = Writer.digest (frameDigest record) :=
    field_eq (recordHeader record ++ record.payload) (Writer.digest (frameDigest record)) rest
      (by simp only [List.append_assoc]) start (length_digest _)
  unfold storedOf
  rw [image_append, lengthOf_header record _ bounded, found, digestOf_digest]

theorem computedOf_image : computedOf (recordImage record ++ rest) = frameDigest record := by
  have width : (recordHeader record ++ record.payload).length =
      recordHeaderSize + record.payload.length := by
    rw [List.length_append, length_recordHeader]
  have found :
    field (recordHeader record ++ (record.payload ++ (Writer.digest (frameDigest record) ++ rest)))
      0 (recordHeaderSize + record.payload.length) = recordHeader record ++ record.payload :=
    field_eq [] (recordHeader record ++ record.payload) (Writer.digest (frameDigest record) ++ rest)
      (by simp only [List.append_assoc, List.nil_append]) rfl width
  unfold computedOf
  rw [image_append, lengthOf_header record _ bounded, found]
  rfl

theorem recordOf_image (digest : record.recordDigest = frameDigest record) :
    recordOf (recordImage record ++ rest) = record := by
  unfold recordOf
  rw [payloadOf_image rest bounded, storedOf_image rest bounded, image_append, typeOf_header,
    sequenceOf_header, previousOf_header, ← digest]
  have type : (ofCode RecordType.all RecordType.code record.type.code).getD .audit = record.type := by
    cases record.type <;> rfl
  rw [type]

end Image

end Frame

/-! Chains of records. -/

/-- A record whose frame `append` can have written. -/
structure Framed (record : DurableRecord) : Prop where
  bounded : record.payload.length ≤ Frame.maxRecordPayload
  digest : record.recordDigest = frameDigest record

/-- The digest the next record points back to. -/
def tip (previous : Digest) (records : List DurableRecord) : Digest :=
  (records.getLast?.map DurableRecord.recordDigest).getD previous

/-- Records numbered from `start` on, each pointing back to the one before it. -/
def Chained : Nat → Digest → List DurableRecord → Prop
  | _, _, [] => True
  | start, previous, record :: rest =>
      record.sequence.toNat = start + 1 ∧ record.previousDigest = previous ∧ Framed record ∧
        Chained (start + 1) record.recordDigest rest

theorem tip_cons (previous : Digest) (record : DurableRecord) (rest : List DurableRecord) :
    tip previous (record :: rest) = tip record.recordDigest rest := by
  cases rest with
  | nil => rfl
  | cons next rest => simp [tip, List.getLast?_cons]

theorem tip_append (previous : Digest) (first second : List DurableRecord) :
    tip previous (first ++ second) = tip (tip previous first) second := by
  induction first generalizing previous with
  | nil => rfl
  | cons record rest ih => rw [List.cons_append, tip_cons, tip_cons, ih]

theorem chained_append (start : Nat) (previous : Digest) (first second : List DurableRecord) :
    Chained start previous (first ++ second) ↔ Chained start previous first ∧
      Chained (start + first.length) (tip previous first) second := by
  induction first generalizing start previous with
  | nil => simp [Chained, tip]
  | cons record rest ih =>
      have shifted : start + 1 + rest.length = start + (record :: rest).length := by
        rw [List.length_cons]
        omega
      rw [List.cons_append, Chained, Chained, ih, tip_cons, shifted]
      tauto

namespace PlanRepository

theorem journalFrame_image {record : DurableRecord} (framed : Framed record) (rest : List UInt8) :
    journalFrame (recordImage record ++ rest) = some record := by
  have long : ¬ (recordImage record ++ rest).length < Frame.recordHeaderSize + Frame.digestSize := by
    rw [List.length_append, length_recordImage]
    omega
  have inside : ¬ (recordImage record ++ rest).length < (recordImage record).length := by
    rw [List.length_append]
    omega
  have known : ¬ (record.type.code < RecordType.plan.code ∨ RecordType.audit.code < record.type.code) := by
    cases record.type <;> decide
  have magic : Frame.magicOf (recordImage record ++ rest) = Frame.recordMagic := by
    rw [Frame.image_append, Frame.magicOf_header]
  have version : Frame.versionOf (recordImage record ++ rest) = durableFormatVersion := by
    rw [Frame.image_append, Frame.versionOf_header]
  have type : Frame.typeOf (recordImage record ++ rest) = record.type.code := by
    rw [Frame.image_append, Frame.typeOf_header]
  have length : Frame.lengthOf (recordImage record ++ rest) = record.payload.length := by
    rw [Frame.image_append, Frame.lengthOf_header _ _ framed.bounded]
  have crc : Frame.crcOf (recordImage record ++ rest) = crc32c record.payload := by
    rw [Frame.image_append, Frame.crcOf_header]
  unfold journalFrame
  rw [if_neg long, if_neg (not_not.2 magic), if_neg (not_not.2 version), type, if_neg known, length,
    if_neg (not_lt.2 framed.bounded), Frame.totalOf_image rest framed.bounded, if_neg inside,
    Frame.payloadOf_image rest framed.bounded, crc, if_neg (not_not.2 rfl),
    Frame.storedOf_image rest framed.bounded, Frame.computedOf_image rest framed.bounded,
    if_neg (not_not.2 rfl), Frame.recordOf_image rest framed.bounded framed.digest]

/-- A record cut short is not a frame, wherever it is cut. -/
theorem journalFrame_torn {record : DurableRecord} (framed : Framed record) {part : List UInt8}
    (torn : part <+: recordImage record) (short : part.length < (recordImage record).length) :
    journalFrame part = none := by
  by_cases tiny : part.length < Frame.recordHeaderSize + Frame.digestSize
  · unfold journalFrame
    rw [if_pos tiny]
  -- The header is whole, so it tells the length that the bytes do not reach.
  · have front : recordHeader record <+: recordImage record := by
      unfold recordImage
      rw [List.append_assoc]
      exact List.prefix_append _ _
    have header : recordHeader record <+: part := by
      apply List.prefix_of_prefix_length_le front torn
      rw [length_recordHeader]
      omega
    obtain ⟨more, rfl⟩ := header
    have total : Frame.totalOf (recordHeader record ++ more) = (recordImage record).length := by
      unfold Frame.totalOf
      rw [Frame.lengthOf_header record more framed.bounded, length_recordImage]
    unfold journalFrame
    rw [total, if_pos short]
    simp only [ite_self]

theorem drop_totalOf_image {record : DurableRecord} (framed : Framed record) (rest : List UInt8) :
    (recordImage record ++ rest).drop (Frame.totalOf (recordImage record ++ rest)) = rest := by
  rw [Frame.totalOf_image rest framed.bounded]
  exact List.drop_left' rfl

/-- The records of a snapshot are found again, and where their chain ends. -/
theorem readSnapshotRecords_images (records : List DurableRecord) (start fuel : Nat) (previous : Digest)
    (chained : Chained start previous records) (enough : records.length ≤ fuel) :
    readSnapshotRecords fuel (records.flatMap recordImage) previous =
      .ok (records, tip previous records) := by
  induction records generalizing start fuel previous with
  | nil => cases fuel <;> rfl
  | cons record rest ih =>
      cases fuel with
      | zero => cases enough
      | succ fuel =>
          obtain ⟨-, back, framed, later⟩ := chained
          have remaining := ih (start + 1) fuel record.recordDigest later (Nat.le_of_succ_le_succ enough)
          rw [List.flatMap_cons]
          have long : ¬ (recordImage record ++ rest.flatMap recordImage).length <
              Frame.recordHeaderSize + Frame.digestSize := by
            rw [List.length_append, length_recordImage]
            omega
          have some : (recordImage record ++ rest.flatMap recordImage).isEmpty = false := by
            rw [Bool.eq_false_iff]
            intro empty
            rw [List.isEmpty_iff.mp empty] at long
            exact long (by decide)
          have inside : ¬ (recordImage record ++ rest.flatMap recordImage).length <
              (recordImage record).length := by
            rw [List.length_append]
            omega
          have magic : Frame.magicOf (recordImage record ++ rest.flatMap recordImage) =
              Frame.recordMagic := by
            rw [Frame.image_append, Frame.magicOf_header]
          have points : Frame.previousOf (recordImage record ++ rest.flatMap recordImage) = previous := by
            rw [Frame.image_append, Frame.previousOf_header, back]
          have stored := Frame.storedOf_image (rest.flatMap recordImage) framed.bounded
          have computed := Frame.computedOf_image (rest.flatMap recordImage) framed.bounded
          have whole := Frame.recordOf_image (rest.flatMap recordImage) framed.bounded framed.digest
          unfold readSnapshotRecords
          rw [some, if_neg Bool.false_ne_true, if_neg long, if_neg (not_not.2 magic),
            Frame.totalOf_image _ framed.bounded, if_neg inside, stored, computed,
            if_neg (not_not.2 rfl), if_neg (not_not.2 points), List.drop_left' rfl, ← framed.digest,
            remaining, whole, tip_cons]

/-! Whole files. -/

theorem checkManifest_makeManifest : checkManifest makeManifest = .ok () := by decide +kernel

theorem length_makeJournalHeader (start : UInt64) :
    (makeJournalHeader start).length = Frame.journalHeaderSize := rfl

theorem parseJournalHeader_make (start : UInt64) :
    parseJournalHeader (makeJournalHeader start) = .ok () := by
  have magic : Frame.magicOf (makeJournalHeader start) = Frame.journalMagic := by
    have found : field (makeJournalHeader start) 0 4 = Writer.u32 Frame.journalMagic := rfl
    unfold Frame.magicOf
    rw [found, word32_u32]
  have version : Frame.versionOf (makeJournalHeader start) = durableFormatVersion := by
    have found : field (makeJournalHeader start) 4 2 = Writer.u16 durableFormatVersion := rfl
    unfold Frame.versionOf
    rw [found, word16_u16]
  have checksum : Reader.word32 (field (makeJournalHeader start) 24 4) =
      crc32c (field (makeJournalHeader start) 0 24) := by
    have found : field (makeJournalHeader start) 24 4 =
        Writer.u32 (crc32c (field (makeJournalHeader start) 0 24)) := rfl
    rw [found, word32_u32]
  unfold parseJournalHeader
  rw [length_makeJournalHeader, if_neg (not_not.2 rfl), if_neg (not_not.2 magic),
    if_neg (not_not.2 version), checksum, if_neg (not_not.2 rfl)]

/-- The forty bytes before the payload of a snapshot. -/
def snapshotHeader (sequence : UInt64) (payload : List UInt8) : List UInt8 :=
  Writer.u32 Frame.snapshotMagic ++ Writer.u16 durableFormatVersion ++ Writer.u16 0 ++
    Writer.u64 sequence ++ Writer.u64 (sequence + 1) ++ Writer.u64 payload.length.toUInt64 ++
    Writer.u32 (crc32c payload) ++ Writer.u32 0

theorem length_snapshotHeader (sequence : UInt64) (payload : List UInt8) :
    (snapshotHeader sequence payload).length = Frame.snapshotHeaderSize := rfl

/-- A field inside the header of a snapshot. -/
theorem field_snapshotHeader {sequence : UInt64} {payload rest : List UInt8} {offset size : Nat}
    (inside : offset + size ≤ Frame.snapshotHeaderSize) :
    field (snapshotHeader sequence payload ++ rest) offset size =
      field (snapshotHeader sequence payload) offset size := by
  have whole := length_snapshotHeader sequence payload
  unfold field
  rw [List.drop_append_of_le_length (by omega), List.take_append_of_le_length]
  rw [List.length_drop]
  omega

theorem length_le_flatMap_image (records : List DurableRecord) :
    records.length ≤ (records.flatMap recordImage).length := by
  induction records with
  | nil => exact Nat.le_refl 0
  | cons record rest ih =>
      rw [List.flatMap_cons, List.length_append, List.length_cons, length_recordImage]
      unfold Frame.recordHeaderSize
      omega

theorem loadSnapshot_image {sequence : UInt64} {records : List DurableRecord}
    (chained : Chained 0 default records)
    (fits : (snapshotImage sequence records).length ≤ Frame.maxFileBytes) :
    loadSnapshot (snapshotImage sequence records) = .ok ⟨sequence, records, tip default records⟩ := by
  have payload := readSnapshotRecords_images records 0 ((records.flatMap recordImage).length + 1) default
    chained (Nat.le_succ_of_le (length_le_flatMap_image records))
  have image : snapshotImage sequence records =
      snapshotHeader sequence (records.flatMap recordImage) ++ (records.flatMap recordImage ++
        Writer.digest (Sha256.hash (snapshotHeader sequence (records.flatMap recordImage) ++
          records.flatMap recordImage))) := by
    simp only [snapshotImage, snapshotHeader, List.append_assoc]
  rw [image] at fits ⊢
  generalize records.flatMap recordImage = bytes at fits payload ⊢
  have header := length_snapshotHeader sequence bytes
  unfold Frame.snapshotHeaderSize at header
  simp only [List.length_append, length_digest] at fits
  unfold Frame.maxFileBytes at fits
  have spelled : bytes.length.toUInt64.toNat = bytes.length := by
    rw [Nat.toUInt64_eq, UInt64.toNat_ofNat']
    exact Nat.mod_eq_of_lt (by omega)
  have magic : Frame.magicOf (snapshotHeader sequence bytes ++ (bytes ++ Writer.digest
      (Sha256.hash (snapshotHeader sequence bytes ++ bytes)))) = Frame.snapshotMagic := by
    unfold Frame.magicOf
    rw [field_snapshotHeader (by decide)]
    exact word32_u32 Frame.snapshotMagic
  have version : Frame.versionOf (snapshotHeader sequence bytes ++ (bytes ++ Writer.digest
      (Sha256.hash (snapshotHeader sequence bytes ++ bytes)))) = durableFormatVersion := by
    unfold Frame.versionOf
    rw [field_snapshotHeader (by decide)]
    exact word16_u16 durableFormatVersion
  have number : Reader.word64 (field (snapshotHeader sequence bytes ++ (bytes ++ Writer.digest
      (Sha256.hash (snapshotHeader sequence bytes ++ bytes)))) 8 8) = sequence := by
    rw [field_snapshotHeader (by decide)]
    exact word64_u64 sequence
  have length : (Reader.word64 (field (snapshotHeader sequence bytes ++ (bytes ++ Writer.digest
      (Sha256.hash (snapshotHeader sequence bytes ++ bytes)))) 24 8)).toNat = bytes.length := by
    rw [field_snapshotHeader (by decide)]
    exact (congrArg UInt64.toNat (word64_u64 bytes.length.toUInt64)).trans spelled
  have checksum : Reader.word32 (field (snapshotHeader sequence bytes ++ (bytes ++ Writer.digest
      (Sha256.hash (snapshotHeader sequence bytes ++ bytes)))) 32 4) = crc32c bytes := by
    rw [field_snapshotHeader (by decide)]
    exact word32_u32 (crc32c bytes)
  have inside : field (snapshotHeader sequence bytes ++ (bytes ++ Writer.digest
      (Sha256.hash (snapshotHeader sequence bytes ++ bytes)))) Frame.snapshotHeaderSize
        bytes.length = bytes :=
    field_eq (snapshotHeader sequence bytes) bytes _ rfl rfl rfl
  have signed : field (snapshotHeader sequence bytes ++ (bytes ++ Writer.digest
      (Sha256.hash (snapshotHeader sequence bytes ++ bytes)))) 0
        (Frame.snapshotHeaderSize + bytes.length) = snapshotHeader sequence bytes ++ bytes :=
    field_eq [] (snapshotHeader sequence bytes ++ bytes) _
      (by simp only [List.append_assoc, List.nil_append]; rfl) rfl (by rw [List.length_append]; rfl)
  have stored : field (snapshotHeader sequence bytes ++ (bytes ++ Writer.digest
      (Sha256.hash (snapshotHeader sequence bytes ++ bytes))))
        (Frame.snapshotHeaderSize + bytes.length) Frame.digestSize =
      Writer.digest (Sha256.hash (snapshotHeader sequence bytes ++ bytes)) :=
    field_eq (snapshotHeader sequence bytes ++ bytes) _ []
      (by simp only [List.append_assoc, List.append_nil])
        (by rw [List.length_append]; rfl) (length_digest _)
  have size : (snapshotHeader sequence bytes ++ (bytes ++ Writer.digest
      (Sha256.hash (snapshotHeader sequence bytes ++ bytes)))).length = 40 + bytes.length + 32 := by
    simp only [List.length_append, length_digest, header]
    omega
  unfold loadSnapshot
  simp only [length, inside, magic, version, checksum, signed, stored, size, number, digestOf_digest,
    payload, ne_eq, not_true_eq_false, if_false]
  rw [if_neg (by unfold Frame.maxFileBytes; omega),
    if_neg (by unfold Frame.snapshotHeaderSize Frame.digestSize; omega),
    if_neg (by unfold Frame.snapshotHeaderSize Frame.digestSize; omega)]

/-! The replay of the journal. -/

section Replay

variable {covered : UInt64}

/-- The replay stops where no frame follows. -/
theorem replayJournal_stop {bytes : List UInt8} (none : journalFrame bytes = none) (fuel : Nat)
    (state : Replay) : replayJournal covered fuel bytes state = state := by
  cases fuel with
  | zero => rfl
  | succ fuel => simp only [replayJournal, none]

/-- The replay stops at a record that does not continue the chain. -/
theorem replayJournal_apart {record : DurableRecord} (framed : Framed record) (rest : List UInt8)
    (fuel : Nat) {state : Replay} (apart : record.previousDigest ≠ state.previous) :
    replayJournal covered fuel (recordImage record ++ rest) state = state := by
  cases fuel with
  | zero => rfl
  | succ fuel =>
      simp only [replayJournal, journalFrame_image framed, ne_eq, apart, not_false_eq_true, if_true]

/-- Records the snapshot covers are passed over. -/
theorem replayJournal_skip (records : List DurableRecord) (rest : List UInt8) (start fuel : Nat)
    (state : Replay) (chained : Chained start state.previous records)
    (below : start + records.length ≤ covered.toNat) (enough : records.length ≤ fuel) :
    replayJournal covered fuel (records.flatMap recordImage ++ rest) state =
      replayJournal covered (fuel - records.length) rest
        { state with
          previous := tip state.previous records
          validOffset := state.validOffset + (records.flatMap recordImage).length } := by
  induction records generalizing start fuel state with
  | nil => rfl
  | cons record later ih =>
      cases fuel with
      | zero => cases enough
      | succ fuel =>
          obtain ⟨number, back, framed, chain⟩ := chained
          rw [List.length_cons] at below enough
          have small : record.sequence ≤ covered := by
            rw [UInt64.le_iff_toNat_le]
            omega
          rw [List.flatMap_cons, List.append_assoc]
          simp only [replayJournal, journalFrame_image framed, back, ne_eq, not_true_eq_false, if_false,
            small, if_true]
          rw [drop_totalOf_image framed, Frame.totalOf_image _ framed.bounded]
          rw [ih (start + 1) fuel _ chain (by omega) (by omega)]
          simp only [tip_cons, List.length_append, List.length_cons, Nat.add_assoc,
            Nat.add_sub_add_right]

/-- Records behind the snapshot are taken up. -/
theorem replayJournal_push (records : List DurableRecord) (rest : List UInt8) (start fuel : Nat)
    (state : Replay) (chained : Chained start state.previous records) (above : covered.toNat ≤ start)
    (last : state.lastSequence.toNat = start) (room : start + records.length < 2 ^ 64)
    (enough : records.length ≤ fuel) :
    ∃ after : Replay, replayJournal covered fuel (records.flatMap recordImage ++ rest) state =
        replayJournal covered (fuel - records.length) rest after ∧
      after.records = state.records ++ records ∧
      after.lastSequence.toNat = start + records.length ∧
      after.lastRecordDigest = tip state.lastRecordDigest records ∧
      after.previous = tip state.previous records ∧
      after.validOffset = state.validOffset + (records.flatMap recordImage).length := by
  induction records generalizing start fuel state with
  | nil => exact ⟨state, rfl, by simp, by simpa using last, rfl, rfl, rfl⟩
  | cons record later ih =>
      cases fuel with
      | zero => cases enough
      | succ fuel =>
          obtain ⟨number, back, framed, chain⟩ := chained
          rw [List.length_cons] at room enough
          have large : ¬ record.sequence ≤ covered := by
            rw [UInt64.le_iff_toNat_le]
            omega
          have next : record.sequence = state.lastSequence + 1 := by
            apply UInt64.toNat.inj
            rw [UInt64.toNat_add, number, last]
            exact (Nat.mod_eq_of_lt (by omega)).symm
          obtain ⟨after, run, records, sequence, digest, previous, offset⟩ :=
            ih (start + 1) fuel
              { records := state.records ++ [record]
                lastSequence := record.sequence
                lastRecordDigest := record.recordDigest
                previous := record.recordDigest
                validOffset := state.validOffset + (recordImage record).length }
              chain (by omega) number (by omega) (by omega)
          refine ⟨after, ?_, ?_, ?_, ?_, ?_, ?_⟩
          · rw [List.flatMap_cons, List.append_assoc, List.length_cons, Nat.add_sub_add_right, ← run]
            simp only [replayJournal, journalFrame_image framed, back, ne_eq, not_true_eq_false,
              if_false, large]
            rw [if_neg (not_not.2 next), drop_totalOf_image framed, Frame.totalOf_image _ framed.bounded]
          · rw [records, List.append_assoc, List.singleton_append]
          · rw [sequence, List.length_cons]
            omega
          · rw [digest, tip_cons]
          · rw [previous, tip_cons]
          · rw [offset, List.flatMap_cons, List.length_append, Nat.add_assoc]

end Replay

end PlanRepository

end TrafficFabric
