import TrafficFabric.PlanDecodes
import TrafficFabric.Record

set_option autoImplicit false

/- The records of fences and coordinator epochs are read back. -/
namespace TrafficFabric

open PlanCodec (requiredId_yields requiredGen_yields boundedText_yields boot_finds boot_ofFn)
open Reader (u16_finds u64_finds)

/-- What the decoder checks of a fence. -/
structure FenceRecord.Readable (fence : FenceRecord) : Prop where
  publisher : fence.publisher.valid = true
  boot : fence.boot.valid = true
  incarnation : fence.incarnation.valid = true
  reason : fence.reason.length ≤ Limits.maxTextLength

/-- What the decoder checks of a coordinator epoch. -/
structure CoordinatorEpochRecord.Readable (record : CoordinatorEpochRecord) : Prop where
  coordinator : record.coordinator.valid = true
  incarnation : record.incarnation.valid = true
  boot : record.boot.valid = true
  epoch : record.epoch ≠ 0

namespace RecordCodec

theorem readBoot_yields {boot : BootId} (valid : boot.valid = true) (truncated invalid : String) :
    Yields (readBoot truncated invalid) (Writer.boot boot) boot := by
  unfold readBoot
  refine Yields.finish (need_yields (boot_finds boot) _ _) ?_
  simp only [boot_ofFn]
  refine Yields.guarded (refuse_yields ?_ _ _) (Yields.pure boot)
  rw [valid]
  rfl

theorem readFence_yields {fence : FenceRecord} (readable : fence.Readable) :
    Yields readFence (encodeFence fence) fence := by
  unfold readFence encodeFence
  simp only [List.append_assoc]
  refine (need_yields (u16_finds _) _ _).bind ?_
  refine Yields.guarded (refuse_yields (by decide) _ _) ?_
  refine (requiredId_yields readable.publisher _ _).bind ?_
  refine (readBoot_yields readable.boot _ _).bind ?_
  refine (requiredGen_yields readable.incarnation _ _).bind ?_
  refine (boundedText_yields readable.reason _).bind ?_
  exact (need_yields (u64_finds _) _ _).bind_pure

theorem readCoordinatorEpoch_yields {record : CoordinatorEpochRecord} (readable : record.Readable) :
    Yields readCoordinatorEpoch (encodeCoordinatorEpoch record) record := by
  unfold readCoordinatorEpoch encodeCoordinatorEpoch
  simp only [List.append_assoc]
  refine (need_yields (u16_finds _) _ _).bind ?_
  refine Yields.guarded (refuse_yields (by decide) _ _) ?_
  refine (requiredId_yields readable.coordinator _ _).bind ?_
  refine (requiredGen_yields readable.incarnation _ _).bind ?_
  refine (readBoot_yields readable.boot _ _).bind ?_
  refine Yields.finish (need_yields (u64_finds _) _ _) ?_
  refine Yields.guarded (refuse_yields ?_ _ _) (Yields.pure record)
  exact beq_eq_false_iff_ne.2 readable.epoch

end RecordCodec

theorem decodeFence_encodeFence {fence : FenceRecord} (readable : fence.Readable) :
    decodeFence (encodeFence fence) = .ok fence := by
  have read := RecordCodec.readFence_yields readable []
  rw [List.append_nil] at read
  unfold decodeFence decodeWhole
  rw [read]
  rfl

theorem decodeCoordinatorEpoch_encode {record : CoordinatorEpochRecord} (readable : record.Readable) :
    decodeCoordinatorEpoch (encodeCoordinatorEpoch record) = .ok record := by
  have read := RecordCodec.readCoordinatorEpoch_yields readable []
  rw [List.append_nil] at read
  unfold decodeCoordinatorEpoch decodeWhole
  rw [read]
  rfl

/-! Both fit into a frame. -/

theorem length_encodeFence {fence : FenceRecord} (readable : fence.Readable) :
    (encodeFence fence).length ≤ Frame.maxRecordPayload := by
  have wide : ∀ value : UInt64, (Writer.u64 value).length = 8 := fun _ => rfl
  have narrow : ∀ value : UInt16, (Writer.u16 value).length = 2 := fun _ => rfl
  have boot : (Writer.boot fence.boot).length = 16 := by simp [Writer.boot]
  have publisher := Writer.length_str_id fence.publisher
  have reason : (Writer.str fence.reason).length = 4 + fence.reason.length := by
    unfold Writer.str
    rw [List.length_append]
    rfl
  have short := readable.reason
  have room : Frame.maxRecordPayload = 16777216 := rfl
  unfold Limits.maxTextLength at short
  unfold encodeFence
  simp only [List.length_append, wide, narrow, boot, reason]
  omega

theorem length_encodeCoordinatorEpoch (record : CoordinatorEpochRecord) :
    (encodeCoordinatorEpoch record).length ≤ Frame.maxRecordPayload := by
  have wide : ∀ value : UInt64, (Writer.u64 value).length = 8 := fun _ => rfl
  have narrow : ∀ value : UInt16, (Writer.u16 value).length = 2 := fun _ => rfl
  have boot : (Writer.boot record.boot).length = 16 := by simp [Writer.boot]
  have coordinator := Writer.length_str_id record.coordinator
  have room : Frame.maxRecordPayload = 16777216 := rfl
  unfold encodeCoordinatorEpoch
  simp only [List.length_append, wide, narrow, boot]
  omega

end TrafficFabric
