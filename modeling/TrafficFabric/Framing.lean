import TrafficFabric.RepositoryFrames

set_option autoImplicit false

/- Frames on a connection. The transport hands the bytes over in pieces of any size; the two
loops of `read_frame` put them together again. -/
namespace TrafficFabric

def frameMagic : UInt32 := 0x54454631
def frameHeaderSize : Nat := 20
def wireProtocolVersion : UInt16 := 1

structure Frame where
  version : UInt16 := 0
  type : UInt16 := 0
  flags : UInt32 := 0
  payload : List UInt8 := []
deriving DecidableEq

open Writer in
def encodeFrameHeader (frame : Frame) : List UInt8 :=
  u32 frameMagic ++ u16 frame.version ++ u16 frame.type ++ u32 frame.flags ++
    count frame.payload.length ++ u32 (crc32c frame.payload)

def encodeFrame (frame : Frame) : List UInt8 := encodeFrameHeader frame ++ frame.payload

/-- The length field of a header. -/
def declaredLength (header : List UInt8) : Nat := (Reader.word32 (field header 12 4)).toNat

/-- The checksum field of a header. -/
def declaredCrc (header : List UInt8) : UInt32 := Reader.word32 (field header 16 4)

def decodeFrameHeader (header : List UInt8) : Except Text Frame :=
  if header.length < frameHeaderSize then .error (text "the frame header is truncated")
  else if Reader.word32 (field header 0 4) ≠ frameMagic then
    .error (text "the frame magic does not match")
  else
    let version := Reader.word16 (field header 4 2)
    if version = 0 ∨ wireProtocolVersion < version then
      .error (text "the frame protocol version is not supported")
    else if Limits.maxFramePayload < declaredLength header then
      .error (text "the frame payload exceeds the supported bound")
    else
      .ok
        { version := version
          type := Reader.word16 (field header 6 2)
          flags := Reader.word32 (field header 8 4) }

/-! Receiving. -/

/-- What a socket meets next: a poll that times out or a call that would block, bytes that have
arrived, an interruption, a failed read. When nothing is left the peer has closed. -/
inductive Arrival
  | idle
  | bytes (first : UInt8) (more : List UInt8)
  | interrupted
  | failed
deriving DecidableEq

/-- How a receiving loop ends. -/
inductive Received
  | done (bytes : List UInt8) (left : List Arrival)
  | closed (received : Nat)
  | interrupted
  | failed

/-- The loop that fills a buffer. A call takes no more than the buffer has room for; what has
arrived beyond that stays with the socket. -/
def receive (size : Nat) : List UInt8 → List Arrival → Received
  | got, [] => if got.length < size then .closed got.length else .done got []
  | got, arrival :: rest =>
      if got.length < size then
        match arrival with
        | .idle => receive size got rest
        | .interrupted => .interrupted
        | .failed => .failed
        | .bytes first more =>
            match (first :: more).drop (size - got.length) with
            | [] => receive size (got ++ first :: more) rest
            | next :: later =>
                .done (got ++ (first :: more).take (size - got.length)) (.bytes next later :: rest)
      else .done got (arrival :: rest)

def readFrameHeader (arrivals : List Arrival) : Except Text (List UInt8 × List Arrival) :=
  match receive frameHeaderSize [] arrivals with
  | .done header left => .ok (header, left)
  | .closed received =>
      .error (if received = 0 then text "the peer closed the connection"
        else text "the connection closed mid-frame")
  | .interrupted =>
      .error (text "the socket was interrupted or failed while waiting for a frame header")
  | .failed => .error (text "the socket read failed")

def readFramePayload (size : Nat) (arrivals : List Arrival) :
    Except Text (List UInt8 × List Arrival) :=
  match receive size [] arrivals with
  | .done payload left => .ok (payload, left)
  | .closed _ => .error (text "the connection closed mid-frame")
  | .interrupted =>
      .error (text "the socket was interrupted or failed while reading a frame payload")
  | .failed => .error (text "the socket read failed")

/-- `TcpSocket::read_frame` on an open socket, with what the socket has not handed over yet. -/
def readFrame (arrivals : List Arrival) : Except Text (Frame × List Arrival) := do
  let (header, arrivals) ← readFrameHeader arrivals
  let frame ← decodeFrameHeader header
  let (payload, arrivals) ← readFramePayload (declaredLength header) arrivals
  if crc32c payload ≠ declaredCrc header then
    .error (text "the frame payload checksum does not match")
  else pure ({ frame with payload := payload }, arrivals)

/-- That many calls, one after the other. -/
def readFrames : Nat → List Arrival → Except Text (List Frame × List Arrival)
  | 0, arrivals => .ok ([], arrivals)
  | count + 1, arrivals => do
      let (frame, arrivals) ← readFrame arrivals
      let (frames, arrivals) ← readFrames count arrivals
      pure (frame :: frames, arrivals)

namespace Arrival

/-- The bytes of the stream in their order. -/
def content (arrivals : List Arrival) : List UInt8 :=
  arrivals.flatMap fun
    | .bytes first more => first :: more
    | _ => []

/-- The transport delivers: nothing interrupts it and no read fails. -/
def Delivers (arrivals : List Arrival) : Prop :=
  ∀ arrival ∈ arrivals, arrival ≠ .interrupted ∧ arrival ≠ .failed

instance (arrivals : List Arrival) : Decidable (Delivers arrivals) :=
  inferInstanceAs (Decidable (∀ arrival ∈ arrivals, arrival ≠ .interrupted ∧ arrival ≠ .failed))

variable {arrivals : List Arrival}

theorem content_cons (arrival : Arrival) : content (arrival :: arrivals) =
    content [arrival] ++ content arrivals := by
  simp only [content, List.flatMap_cons, List.flatMap_nil, List.append_nil]

theorem content_bytes (first : UInt8) (more : List UInt8) :
    content [.bytes first more] = first :: more := List.append_nil _

theorem Delivers.tail {arrival : Arrival} (delivers : Delivers (arrival :: arrivals)) :
    Delivers arrivals := fun other member => delivers other (List.mem_cons_of_mem _ member)

end Arrival

open Arrival (content Delivers content_cons content_bytes)

variable {arrivals : List Arrival}

/-- However the bytes were cut, the loop fills the buffer with the next ones. -/
theorem receive_done {size : Nat} {got : List UInt8} (delivers : Delivers arrivals)
    (part : got.length ≤ size) (enough : size ≤ got.length + (content arrivals).length) :
    ∃ left, receive size got arrivals =
        .done (got ++ (content arrivals).take (size - got.length)) left ∧
      content left = (content arrivals).drop (size - got.length) ∧ Delivers left := by
  induction arrivals generalizing got with
  | nil =>
      have full : got.length = size := by
        simp only [content, List.flatMap_nil, List.length_nil] at enough
        omega
      refine ⟨[], ?_, ?_, delivers⟩
      · simp [receive, full, content]
      · simp [content]
  | cons arrival rest ih =>
      by_cases short : got.length < size
      · cases arrival with
        | idle =>
            have same : content (.idle :: rest) = content rest := rfl
            rw [same] at enough ⊢
            unfold receive
            rw [if_pos short]
            exact ih delivers.tail part enough
        | interrupted => exact absurd rfl (delivers _ List.mem_cons_self).1
        | failed => exact absurd rfl (delivers _ List.mem_cons_self).2
        | bytes first more =>
            have split : content (.bytes first more :: rest) = (first :: more) ++ content rest := by
              rw [content_cons, content_bytes]
            rw [split] at enough ⊢
            rw [List.length_append] at enough
            unfold receive
            rw [if_pos short]
            simp only
            cases beyond : (first :: more).drop (size - got.length) with
            | nil =>
                -- The piece fits: the loop goes on behind it.
                have fits : (first :: more).length ≤ size - got.length := List.drop_eq_nil_iff.1 beyond
                have grown : (got ++ first :: more).length = got.length + (first :: more).length :=
                  List.length_append
                obtain ⟨left, run, onward, still⟩ := @ih (got ++ first :: more) delivers.tail
                  (by omega) (by omega)
                have remaining : size - (got ++ first :: more).length =
                    size - got.length - (first :: more).length := by omega
                refine ⟨left, ?_, ?_, still⟩
                · simp only
                  rw [run, remaining, List.take_append, List.take_of_length_le fits, List.append_assoc]
                · rw [onward, remaining, List.drop_append, beyond, List.nil_append]
            | cons next later =>
                -- The piece is larger than the room that is left.
                have larger : size - got.length < (first :: more).length := by
                  by_contra inside
                  have none := List.drop_eq_nil_iff.2 (not_lt.1 inside)
                  rw [none] at beyond
                  cases beyond
                refine ⟨.bytes next later :: rest, ?_, ?_, ?_⟩
                · simp only
                  rw [List.take_append_of_le_length (le_of_lt larger)]
                · rw [content_cons, content_bytes, List.drop_append_of_le_length (le_of_lt larger), beyond]
                · intro other member
                  rcases List.mem_cons.1 member with rfl | later
                  · exact ⟨nofun, nofun⟩
                  · exact delivers.tail other later
      · have full : size - got.length = 0 := by omega
        refine ⟨arrival :: rest, ?_, ?_, delivers⟩
        · unfold receive
          rw [if_neg short, full, List.take_zero, List.append_nil]
        · rw [full, List.drop_zero]

/-- A stream that ends before the buffer is full. -/
theorem receive_closed {size : Nat} {got : List UInt8} (delivers : Delivers arrivals)
    (few : got.length + (content arrivals).length < size) :
    receive size got arrivals = .closed (got.length + (content arrivals).length) := by
  induction arrivals generalizing got with
  | nil =>
      unfold receive
      rw [if_pos (show got.length < size from few)]
      rfl
  | cons arrival rest ih =>
      have short : got.length < size := by omega
      cases arrival with
      | idle =>
          unfold receive
          rw [if_pos short]
          exact ih delivers.tail few
      | interrupted => exact absurd rfl (delivers _ List.mem_cons_self).1
      | failed => exact absurd rfl (delivers _ List.mem_cons_self).2
      | bytes first more =>
          have split : content (.bytes first more :: rest) = (first :: more) ++ content rest := by
            rw [content_cons, content_bytes]
          rw [split, List.length_append] at few ⊢
          have all : (first :: more).drop (size - got.length) = [] := by
            apply List.drop_eq_nil_iff.2
            omega
          have grown : (got ++ first :: more).length = got.length + (first :: more).length :=
            List.length_append
          unfold receive
          rw [if_pos short]
          simp only [all]
          rw [ih delivers.tail (by omega), grown, Nat.add_assoc]

/-! A header and its fields. -/

section Header

variable (frame : Frame)

theorem length_encodeFrameHeader : (encodeFrameHeader frame).length = frameHeaderSize := rfl

theorem declaredCrc_encode : declaredCrc (encodeFrameHeader frame) = crc32c frame.payload := by
  have found : field (encodeFrameHeader frame) 16 4 = Writer.u32 (crc32c frame.payload) := rfl
  unfold declaredCrc
  rw [found, Reader.word32_u32]

variable {frame}

/-- A frame a peer of this version sends. -/
structure Frame.Sendable (frame : Frame) : Prop where
  version : frame.version = wireProtocolVersion
  bounded : frame.payload.length ≤ Limits.maxFramePayload

theorem Frame.Sendable.declaredLength (sendable : frame.Sendable) :
    declaredLength (encodeFrameHeader frame) = frame.payload.length := by
  have found : field (encodeFrameHeader frame) 12 4 = Writer.count frame.payload.length := rfl
  have fits : FitsCount frame.payload.length := lt_of_le_of_lt sendable.bounded (by decide)
  unfold TrafficFabric.declaredLength Writer.count at *
  rw [found, Reader.word32_u32, Reader.toNat_count fits]

theorem Frame.Sendable.decodeFrameHeader (sendable : frame.Sendable) :
    decodeFrameHeader (encodeFrameHeader frame) = .ok { frame with payload := [] } := by
  have magic : Reader.word32 (field (encodeFrameHeader frame) 0 4) = frameMagic := by
    have found : field (encodeFrameHeader frame) 0 4 = Writer.u32 frameMagic := rfl
    rw [found, Reader.word32_u32]
  have version : Reader.word16 (field (encodeFrameHeader frame) 4 2) = frame.version := by
    have found : field (encodeFrameHeader frame) 4 2 = Writer.u16 frame.version := rfl
    rw [found, Reader.word16_u16]
  have type : Reader.word16 (field (encodeFrameHeader frame) 6 2) = frame.type := by
    have found : field (encodeFrameHeader frame) 6 2 = Writer.u16 frame.type := rfl
    rw [found, Reader.word16_u16]
  have flags : Reader.word32 (field (encodeFrameHeader frame) 8 4) = frame.flags := by
    have found : field (encodeFrameHeader frame) 8 4 = Writer.u32 frame.flags := rfl
    rw [found, Reader.word32_u32]
  have supported : ¬ (frame.version = 0 ∨ wireProtocolVersion < frame.version) := by
    rw [sendable.version]
    decide
  unfold TrafficFabric.decodeFrameHeader
  rw [length_encodeFrameHeader, if_neg (lt_irrefl _), if_neg (not_not.2 magic)]
  simp only [version, type, flags, sendable.declaredLength]
  rw [if_neg supported, if_neg (not_lt.2 sendable.bounded)]

end Header

/-! One call. -/

/-- An empty buffer takes the front of the stream. -/
theorem receive_front (delivers : Delivers arrivals) {front rest : List UInt8}
    (stream : content arrivals = front ++ rest) :
    ∃ left, receive front.length [] arrivals = .done front left ∧ content left = rest ∧
      Delivers left := by
  have enough : front.length ≤ ([] : List UInt8).length + (content arrivals).length := by
    rw [stream, List.length_append]
    omega
  obtain ⟨left, run, onward, still⟩ := receive_done delivers (Nat.zero_le _) enough
  rw [stream, List.length_nil, Nat.sub_zero] at run onward
  rw [List.nil_append, List.take_left' rfl] at run
  rw [List.drop_left' rfl] at onward
  exact ⟨left, run, onward, still⟩

theorem readFrameHeader_done (delivers : Delivers arrivals) {header rest : List UInt8}
    (width : header.length = frameHeaderSize) (stream : content arrivals = header ++ rest) :
    ∃ left, readFrameHeader arrivals = .ok (header, left) ∧ content left = rest ∧ Delivers left := by
  obtain ⟨left, run, onward, still⟩ := receive_front delivers stream
  rw [width] at run
  refine ⟨left, ?_, onward, still⟩
  unfold readFrameHeader
  rw [run]

theorem readFramePayload_done (delivers : Delivers arrivals) {payload rest : List UInt8}
    (stream : content arrivals = payload ++ rest) :
    ∃ left, readFramePayload payload.length arrivals = .ok (payload, left) ∧ content left = rest ∧
      Delivers left := by
  obtain ⟨left, run, onward, still⟩ := receive_front delivers stream
  refine ⟨left, ?_, onward, still⟩
  unfold readFramePayload
  rw [run]

/-- One call reads one frame and leaves the stream behind it. -/
theorem readFrame_done (delivers : Delivers arrivals) {frame : Frame} (sendable : frame.Sendable)
    {rest : List UInt8} (stream : content arrivals = encodeFrame frame ++ rest) :
    ∃ left, readFrame arrivals = .ok (frame, left) ∧ content left = rest ∧ Delivers left := by
  unfold encodeFrame at stream
  rw [List.append_assoc] at stream
  obtain ⟨middle, header, onward, still⟩ :=
    readFrameHeader_done delivers (length_encodeFrameHeader frame) stream
  obtain ⟨left, payload, remaining, quiet⟩ := readFramePayload_done still onward
  rw [← sendable.declaredLength] at payload
  refine ⟨left, ?_, remaining, quiet⟩
  unfold readFrame
  simp only [bind, Except.bind, header, sendable.decodeFrameHeader, payload, declaredCrc_encode]
  rw [if_neg (not_not.2 rfl)]
  rfl

/-- The stream is over before the header, or the payload its length field declares, is. -/
def EndsInside (part : List UInt8) : Prop :=
  part.length < frameHeaderSize + declaredLength (part.take frameHeaderSize)

instance (part : List UInt8) : Decidable (EndsInside part) :=
  inferInstanceAs (Decidable (part.length < frameHeaderSize + declaredLength (part.take frameHeaderSize)))

theorem readFrame_cut (delivers : Delivers arrivals) (cut : EndsInside (content arrivals)) :
    ∃ reason, readFrame arrivals = .error reason := by
  unfold EndsInside at cut
  unfold readFrame
  by_cases short : (content arrivals).length < frameHeaderSize
  · have few : ([] : List UInt8).length + (content arrivals).length < frameHeaderSize := by
      rw [List.length_nil, Nat.zero_add]
      exact short
    have closed := receive_closed delivers few
    unfold readFrameHeader
    rw [closed]
    exact ⟨_, rfl⟩
  · have width : ((content arrivals).take frameHeaderSize).length = frameHeaderSize := by
      rw [List.length_take]
      omega
    obtain ⟨left, header, onward, still⟩ :=
      readFrameHeader_done delivers width (List.take_append_drop _ _).symm
    have few : ([] : List UInt8).length + (content left).length <
        declaredLength ((content arrivals).take frameHeaderSize) := by
      rw [onward, List.length_drop, List.length_nil]
      omega
    simp only [bind, Except.bind, header]
    cases decodeFrameHeader ((content arrivals).take frameHeaderSize) with
    | error reason => exact ⟨reason, rfl⟩
    | ok frame =>
        have closed := receive_closed still few
        unfold readFramePayload
        simp only [closed]
        exact ⟨_, rfl⟩

theorem readFrame_corrupt (delivers : Delivers arrivals) {header payload rest : List UInt8}
    (width : header.length = frameHeaderSize) (whole : payload.length = declaredLength header)
    (stream : content arrivals = header ++ (payload ++ rest))
    (mismatch : crc32c payload ≠ declaredCrc header) : ∃ reason, readFrame arrivals = .error reason := by
  obtain ⟨middle, first, onward, still⟩ := readFrameHeader_done delivers width stream
  obtain ⟨left, second, -, -⟩ := readFramePayload_done still onward
  rw [whole] at second
  unfold readFrame
  simp only [bind, Except.bind, first]
  cases decodeFrameHeader header with
  | error reason => exact ⟨reason, rfl⟩
  | ok frame =>
      simp only [second]
      rw [if_pos mismatch]
      exact ⟨_, rfl⟩

/-! Repeated calls. -/

theorem readFrames_done {frames : List Frame} (sendable : ∀ frame ∈ frames, frame.Sendable)
    (delivers : Delivers arrivals) {rest : List UInt8}
    (stream : content arrivals = frames.flatMap encodeFrame ++ rest) :
    ∃ left, readFrames frames.length arrivals = .ok (frames, left) ∧ content left = rest ∧
      Delivers left := by
  induction frames generalizing arrivals with
  | nil => exact ⟨arrivals, rfl, stream, delivers⟩
  | cons frame frames ih =>
      rw [List.flatMap_cons, List.append_assoc] at stream
      obtain ⟨middle, first, onward, still⟩ :=
        readFrame_done delivers (sendable _ List.mem_cons_self) stream
      obtain ⟨left, later, remaining, quiet⟩ :=
        ih (fun other member => sendable other (List.mem_cons_of_mem _ member)) still onward
      refine ⟨left, ?_, remaining, quiet⟩
      change readFrames (frames.length + 1) arrivals = _
      unfold readFrames
      simp only [bind, Except.bind, first, later]
      rfl

/-- Repeated calls return exactly the frames that were sent, however the transport cuts the
stream. Behind them, a stream that ends inside a frame gives no frame, and neither does a payload
that does not match its checksum. -/
theorem readFrames_delivers {frames : List Frame} (sendable : ∀ frame ∈ frames, frame.Sendable)
    (delivers : Delivers arrivals) {rest : List UInt8}
    (stream : content arrivals = frames.flatMap encodeFrame ++ rest) :
    ∃ left, readFrames frames.length arrivals = .ok (frames, left) ∧ content left = rest ∧
      (EndsInside rest → ∃ reason, readFrame left = .error reason) ∧
      ∀ header payload later, header.length = frameHeaderSize →
        payload.length = declaredLength header → rest = header ++ (payload ++ later) →
        crc32c payload ≠ declaredCrc header → ∃ reason, readFrame left = .error reason := by
  obtain ⟨left, run, onward, still⟩ := readFrames_done sendable delivers stream
  refine ⟨left, run, onward, ?_, ?_⟩
  · intro inside
    rw [← onward] at inside
    exact readFrame_cut still inside
  · intro header payload later width whole split mismatch
    exact readFrame_corrupt still width whole (onward.trans split) mismatch

/-- Two frames in three pieces, and then half a header. -/
theorem readFrames_delivers_cut :
    let first : Frame := { version := 1, type := 17 }
    let second : Frame := { version := 1, type := 11, flags := 7, payload := [1, 2, 3] }
    let stream := encodeFrame first ++ encodeFrame second ++ (encodeFrameHeader first).take 10
    let piece := fun bytes : List UInt8 => Arrival.bytes (bytes.headD 0) bytes.tail
    ∃ left, readFrames 2 [piece (stream.take 7), .idle, piece ((stream.drop 7).take 30),
        piece (stream.drop 37)] = .ok ([first, second], left) ∧
      ∃ reason, readFrame left = .error reason := by
  intro first second stream piece
  have sendable : ∀ frame ∈ [first, second], frame.Sendable := by
    intro frame member
    rcases List.mem_cons.1 member with rfl | later
    · exact ⟨rfl, by decide⟩
    · rw [List.mem_singleton.1 later]
      exact ⟨rfl, by decide⟩
  have delivers : Delivers [piece (stream.take 7), .idle, piece ((stream.drop 7).take 30),
      piece (stream.drop 37)] := by
    decide
  have sent : content [piece (stream.take 7), .idle, piece ((stream.drop 7).take 30),
      piece (stream.drop 37)] =
      [first, second].flatMap encodeFrame ++ (encodeFrameHeader first).take 10 := by decide
  obtain ⟨left, run, -, cut, -⟩ := readFrames_delivers sendable delivers sent
  exact ⟨left, run, cut (by decide)⟩

end TrafficFabric
