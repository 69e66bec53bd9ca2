import Salsify.Lib.Fallible
import Salsify.Lib.LittleEndian

namespace Salsify.Net

open Salsify.LittleEndian
open Fallible (bind_eq_ok ok_bind)

/-! Packets of `net/packet.hh` and the byte chunks of `util/chunk.hh`. -/

/-- How a call of the program can fail to return. -/
inductive Failure
  | outOfRange (what : String)
  | runtimeError (what : String)
  | assertion (condition : String)
  | badAlloc
  | undefinedBehaviour (expression : String)
  /-- `Invalid`, `Unsupported` and `LogicError` of `util/exception.hh`. -/
  | invalid (what : String)
  | unsupported (what : String)
  | logicError
  deriving DecidableEq, Repr

def require (holds : Bool) (failure : Failure) : Except Failure Unit :=
  if holds then .ok () else .error failure

@[simp] theorem require_true (failure : Failure) :
    require true failure = .ok () := rfl

@[simp] theorem require_false (failure : Failure) :
    require false failure = .error failure := rfl

theorem require_eq_ok {holds : Bool} {failure : Failure} {result : Unit} :
    require holds failure = .ok result ↔ holds = true := by
  cases holds <;> simp

abbrev Chunk := List UInt8

namespace Chunk

def boundsCheck (chunk : Chunk) (length : Nat) : Except Failure Unit :=
  require (length ≤ chunk.length)
    (.outOfRange "attempted to read past end of chunk")

/-- `chunk( offset, length )` -/
def slice (chunk : Chunk) (offset length : Nat) : Except Failure Chunk := do
  chunk.boundsCheck offset
  chunk.boundsCheck (offset + length)
  return (chunk.drop offset).take length

/-- `chunk( offset )` -/
def sliceFrom (chunk : Chunk) (offset : Nat) : Except Failure Chunk :=
  chunk.slice offset (chunk.length - offset)

def le16 (chunk : Chunk) : Except Failure UInt16 := do
  chunk.boundsCheck 2
  return UInt16.ofNat (ofBytes (chunk.take 2))

def le32 (chunk : Chunk) : Except Failure UInt32 := do
  chunk.boundsCheck 4
  return UInt32.ofNat (ofBytes (chunk.take 4))

end Chunk

structure Packet where
  valid : Bool
  connectionId : UInt16
  sourceState : UInt32
  targetState : UInt32
  frameNo : UInt32
  fragmentNo : UInt16
  fragmentsInThisFrame : UInt16
  timeSinceLast : UInt32
  packetSendTimestamp : UInt32
  framePushTimestamp : UInt32
  rttAverage : UInt16
  throughput : UInt16
  payload : List UInt8
  deriving DecidableEq, Repr

namespace Packet

def MAXIMUM_PAYLOAD : Nat := 1400

def putHeaderField16 (n : UInt16) : List UInt8 := toBytes 2 n.toNat

def putHeaderField32 (n : UInt32) : List UInt8 := toBytes 4 n.toNat

/-- The outgoing constructor, and the start of the next fragment. -/
def outgoing (wholeFrame : List UInt8) (connectionId : UInt16)
    (sourceState targetState frameNo : UInt32)
    (fragmentNo timeSinceLast : UInt16)
    (packetSendTimestamp framePushTimestamp : UInt32)
    (rttAverage throughput : UInt16) : Except Failure (Packet × Nat) := do
  require (!wholeFrame.isEmpty) (.assertion "not whole_frame.empty()")
  let firstByte := MAXIMUM_PAYLOAD * fragmentNo.toNat
  require (firstByte < wholeFrame.length)
    (.assertion "first_byte < whole_frame.size()")
  let length := min (wholeFrame.length - firstByte) MAXIMUM_PAYLOAD
  require (firstByte + length ≤ wholeFrame.length)
    (.assertion "first_byte + length <= whole_frame.size()")
  return ({
    valid := true
    connectionId := connectionId
    sourceState := sourceState
    targetState := targetState
    frameNo := frameNo
    fragmentNo := fragmentNo
    fragmentsInThisFrame := 0
    timeSinceLast := timeSinceLast.toUInt32
    packetSendTimestamp := packetSendTimestamp
    framePushTimestamp := framePushTimestamp
    rttAverage := rttAverage
    throughput := throughput
    payload := (wholeFrame.drop firstByte).take length }, firstByte + length)

/-- The constructor that parses a datagram. -/
def incoming (str : Chunk) : Except Failure Packet := do
  let packet : Packet := {
    valid := true
    connectionId := ← (← str.slice 0 2).le16
    sourceState := ← (← str.slice 2 4).le32
    targetState := ← (← str.slice 6 4).le32
    frameNo := ← (← str.slice 10 4).le32
    fragmentNo := ← (← str.slice 14 2).le16
    fragmentsInThisFrame := ← (← str.slice 16 2).le16
    timeSinceLast := ← (← str.slice 18 4).le32
    packetSendTimestamp := ← (← str.slice 22 4).le32
    framePushTimestamp := ← (← str.slice 26 4).le32
    rttAverage := ← (← str.slice 30 2).le16
    throughput := ← (← str.slice 32 2).le16
    payload := ← str.sliceFrom 34 }
  require (packet.fragmentNo < packet.fragmentsInThisFrame)
    (.runtimeError
      "invalid packet: fragment_no_ >= fragments_in_this_frame")
  require (!packet.payload.isEmpty)
    (.runtimeError "invalid packet: empty payload")
  return packet

/-- The constructor of an empty, invalid packet. -/
def invalid : Packet where
  valid := false
  connectionId := 0
  sourceState := 0
  targetState := 0
  frameNo := 0
  fragmentNo := 0
  fragmentsInThisFrame := 0
  timeSinceLast := 0
  packetSendTimestamp := 0
  framePushTimestamp := 0
  rttAverage := 0
  throughput := 0
  payload := []

def header (packet : Packet) : List UInt8 :=
  putHeaderField16 packet.connectionId ++
  putHeaderField32 packet.sourceState ++
  putHeaderField32 packet.targetState ++
  putHeaderField32 packet.frameNo ++
  putHeaderField16 packet.fragmentNo ++
  putHeaderField16 packet.fragmentsInThisFrame ++
  putHeaderField32 packet.timeSinceLast ++
  putHeaderField32 packet.packetSendTimestamp ++
  putHeaderField32 packet.framePushTimestamp ++
  putHeaderField16 packet.rttAverage ++
  putHeaderField16 packet.throughput

def toString (packet : Packet) : Except Failure (List UInt8) := do
  require (0 < packet.fragmentsInThisFrame)
    (.assertion "fragments_in_this_frame_ > 0")
  return packet.header ++ packet.payload

def setPacketSendTimestamp (packet : Packet) (t : UInt32) : Packet :=
  { packet with packetSendTimestamp := t }

def setTimeToNext (packet : Packet) (val : UInt32) : Packet :=
  { packet with timeSinceLast := val }

def setFragmentsInThisFrame (packet : Packet) (x : UInt16) :
    Except Failure Packet := do
  require (packet.fragmentNo < x)
    (.assertion "fragment_no_ < fragments_in_this_frame_")
  return { packet with fragmentsInThisFrame := x }

/-- What the parser accepts. -/
structure WellFormed (packet : Packet) : Prop where
  valid : packet.valid = true
  fragment_lt : packet.fragmentNo < packet.fragmentsInThisFrame
  payload_ne : packet.payload ≠ []

end Packet

@[simp] theorem le16_toBytes (n : UInt16) :
    Chunk.le16 (toBytes 2 n.toNat) = .ok n := by
  have hlt : n.toNat < 256 ^ 2 := n.toNat_lt
  have htake : (toBytes 2 n.toNat).take 2 = toBytes 2 n.toNat :=
    List.take_of_length_le (by simp)
  simp only [Chunk.le16, Chunk.boundsCheck, toBytes_length, htake,
    ofBytes_toBytes_of_lt hlt, UInt16.ofNat_toNat]
  rfl

@[simp] theorem le32_toBytes (n : UInt32) :
    Chunk.le32 (toBytes 4 n.toNat) = .ok n := by
  have hlt : n.toNat < 256 ^ 4 := n.toNat_lt
  have htake : (toBytes 4 n.toNat).take 4 = toBytes 4 n.toNat :=
    List.take_of_length_le (by simp)
  simp only [Chunk.le32, Chunk.boundsCheck, toBytes_length, htake,
    ofBytes_toBytes_of_lt hlt, UInt32.ofNat_toNat]
  rfl

theorem slice_append (front field back : Chunk) :
    Chunk.slice (front ++ field ++ back) front.length field.length =
      .ok field := by
  have hoffset : front.length ≤ (front ++ field ++ back).length := by
    simp only [List.length_append]
    omega
  have hend : front.length + field.length ≤ (front ++ field ++ back).length := by
    simp only [List.length_append]
    omega
  have htake : ((front ++ field ++ back).drop front.length).take field.length =
      field := by
    rw [List.append_assoc, List.drop_left, List.take_left]
  simp only [Chunk.slice, Chunk.boundsCheck, hoffset, hend, htake,
    decide_true, require_true]
  rfl

theorem sliceFrom_append (front back : Chunk) :
    Chunk.sliceFrom (front ++ back) front.length = .ok back := by
  have hlength : (front ++ back).length - front.length = back.length := by
    rw [List.length_append]
    omega
  have h := slice_append front back []
  rw [List.append_nil] at h
  rw [Chunk.sliceFrom, hlength, h]

theorem slice_eq_ok_iff {chunk result : Chunk} {offset length : Nat} :
    chunk.slice offset length = .ok result ↔
      offset + length ≤ chunk.length ∧
        result = (chunk.drop offset).take length := by
  constructor
  · intro h
    obtain ⟨checked, -, h⟩ := bind_eq_ok h
    obtain ⟨checked, hend, h⟩ := bind_eq_ok h
    cases h
    rw [Chunk.boundsCheck, require_eq_ok, decide_eq_true_iff] at hend
    exact ⟨hend, rfl⟩
  · rintro ⟨hend, rfl⟩
    have hoffset : offset ≤ chunk.length := by omega
    simp only [Chunk.slice, Chunk.boundsCheck, hoffset, hend, decide_true,
      require_true, ok_bind]
    rfl

theorem sliceFrom_eq_ok_iff {chunk result : Chunk} {offset : Nat} :
    chunk.sliceFrom offset = .ok result ↔
      offset ≤ chunk.length ∧ result = chunk.drop offset := by
  rw [Chunk.sliceFrom, slice_eq_ok_iff, List.take_of_length_le (by
    rw [List.length_drop])]
  constructor
  · rintro ⟨hend, rfl⟩
    exact ⟨by omega, rfl⟩
  · rintro ⟨hoffset, rfl⟩
    exact ⟨by omega, rfl⟩

theorem le16_eq_ok_iff {chunk : Chunk} {value : UInt16} :
    chunk.le16 = .ok value ↔
      2 ≤ chunk.length ∧ value = UInt16.ofNat (ofBytes (chunk.take 2)) := by
  constructor
  · intro h
    obtain ⟨checked, hlength, h⟩ := bind_eq_ok h
    cases h
    rw [Chunk.boundsCheck, require_eq_ok, decide_eq_true_iff] at hlength
    exact ⟨hlength, rfl⟩
  · rintro ⟨hlength, rfl⟩
    simp only [Chunk.le16, Chunk.boundsCheck, hlength, decide_true,
      require_true, ok_bind]
    rfl

theorem le32_eq_ok_iff {chunk : Chunk} {value : UInt32} :
    chunk.le32 = .ok value ↔
      4 ≤ chunk.length ∧ value = UInt32.ofNat (ofBytes (chunk.take 4)) := by
  constructor
  · intro h
    obtain ⟨checked, hlength, h⟩ := bind_eq_ok h
    cases h
    rw [Chunk.boundsCheck, require_eq_ok, decide_eq_true_iff] at hlength
    exact ⟨hlength, rfl⟩
  · rintro ⟨hlength, rfl⟩
    simp only [Chunk.le32, Chunk.boundsCheck, hlength, decide_true,
      require_true, ok_bind]
    rfl

/-- Field number `index` of a record laid out field after field. -/
theorem slice_flatten (fields : List Chunk) (rest : Chunk)
    (index : Fin fields.length) :
    Chunk.slice (fields.flatten ++ rest)
        (fields.take index).flatten.length fields[index].length =
      .ok fields[index] := by
  have hsplit : fields.flatten ++ rest =
      (fields.take index).flatten ++ fields[index] ++
        ((fields.drop (index + 1)).flatten ++ rest) := by
    rw [← List.append_assoc, List.append_assoc _ fields[index],
      ← List.flatten_cons, Fin.getElem_fin, List.getElem_cons_drop,
      ← List.flatten_append, List.take_append_drop]
  rw [hsplit, slice_append]

namespace Packet

def headerFields (packet : Packet) : List Chunk :=
  [putHeaderField16 packet.connectionId,
   putHeaderField32 packet.sourceState,
   putHeaderField32 packet.targetState,
   putHeaderField32 packet.frameNo,
   putHeaderField16 packet.fragmentNo,
   putHeaderField16 packet.fragmentsInThisFrame,
   putHeaderField32 packet.timeSinceLast,
   putHeaderField32 packet.packetSendTimestamp,
   putHeaderField32 packet.framePushTimestamp,
   putHeaderField16 packet.rttAverage,
   putHeaderField16 packet.throughput]

theorem header_eq_flatten (packet : Packet) :
    packet.header = packet.headerFields.flatten := by
  simp [header, headerFields]

theorem header_length (packet : Packet) : packet.header.length = 34 := by
  simp [header, putHeaderField16, putHeaderField32]

theorem slice_header (packet : Packet)
    (index : Fin packet.headerFields.length) :
    Chunk.slice (packet.header ++ packet.payload)
        (packet.headerFields.take index).flatten.length
        packet.headerFields[index].length =
      .ok packet.headerFields[index] := by
  rw [header_eq_flatten]
  exact slice_flatten packet.headerFields packet.payload index

theorem incoming_fields (packet : Packet) :
    incoming (packet.header ++ packet.payload) = (do
      require (packet.fragmentNo < packet.fragmentsInThisFrame)
        (.runtimeError
          "invalid packet: fragment_no_ >= fragments_in_this_frame")
      require (!packet.payload.isEmpty)
        (.runtimeError "invalid packet: empty payload")
      return { packet with valid := true }) := by
  have hpayload : Chunk.sliceFrom (packet.header ++ packet.payload) 34 =
      .ok packet.payload := by
    have h := sliceFrom_append packet.header packet.payload
    rwa [header_length] at h
  have hConnectionId : Chunk.slice (packet.header ++ packet.payload) 0 2 =
      .ok (toBytes 2 packet.connectionId.toNat) :=
    packet.slice_header ⟨0, by simp [headerFields]⟩
  have hSourceState : Chunk.slice (packet.header ++ packet.payload) 2 4 =
      .ok (toBytes 4 packet.sourceState.toNat) :=
    packet.slice_header ⟨1, by simp [headerFields]⟩
  have hTargetState : Chunk.slice (packet.header ++ packet.payload) 6 4 =
      .ok (toBytes 4 packet.targetState.toNat) :=
    packet.slice_header ⟨2, by simp [headerFields]⟩
  have hFrameNo : Chunk.slice (packet.header ++ packet.payload) 10 4 =
      .ok (toBytes 4 packet.frameNo.toNat) :=
    packet.slice_header ⟨3, by simp [headerFields]⟩
  have hFragmentNo : Chunk.slice (packet.header ++ packet.payload) 14 2 =
      .ok (toBytes 2 packet.fragmentNo.toNat) :=
    packet.slice_header ⟨4, by simp [headerFields]⟩
  have hFragmentsInThisFrame : Chunk.slice (packet.header ++ packet.payload) 16 2 =
      .ok (toBytes 2 packet.fragmentsInThisFrame.toNat) :=
    packet.slice_header ⟨5, by simp [headerFields]⟩
  have hTimeSinceLast : Chunk.slice (packet.header ++ packet.payload) 18 4 =
      .ok (toBytes 4 packet.timeSinceLast.toNat) :=
    packet.slice_header ⟨6, by simp [headerFields]⟩
  have hPacketSendTimestamp : Chunk.slice (packet.header ++ packet.payload) 22 4 =
      .ok (toBytes 4 packet.packetSendTimestamp.toNat) :=
    packet.slice_header ⟨7, by simp [headerFields]⟩
  have hFramePushTimestamp : Chunk.slice (packet.header ++ packet.payload) 26 4 =
      .ok (toBytes 4 packet.framePushTimestamp.toNat) :=
    packet.slice_header ⟨8, by simp [headerFields]⟩
  have hRttAverage : Chunk.slice (packet.header ++ packet.payload) 30 2 =
      .ok (toBytes 2 packet.rttAverage.toNat) :=
    packet.slice_header ⟨9, by simp [headerFields]⟩
  have hThroughput : Chunk.slice (packet.header ++ packet.payload) 32 2 =
      .ok (toBytes 2 packet.throughput.toNat) :=
    packet.slice_header ⟨10, by simp [headerFields]⟩
  simp only [incoming, hConnectionId, hSourceState, hTargetState, hFrameNo,
    hFragmentNo, hFragmentsInThisFrame, hTimeSinceLast, hPacketSendTimestamp,
    hFramePushTimestamp, hRttAverage, hThroughput, hpayload, le16_toBytes,
    le32_toBytes, bind, Except.bind]

theorem incoming_header_payload {packet : Packet}
    (hwell : packet.WellFormed) :
    incoming (packet.header ++ packet.payload) = .ok packet := by
  have hfragment := hwell.fragment_lt
  have hne : packet.payload.isEmpty = false := by
    simpa using hwell.payload_ne
  rw [incoming_fields, ← hwell.valid]
  simp only [hfragment, hne, decide_true, Bool.not_false, require_true]
  rfl

/-- A packet as it arrives: written to the wire and parsed. -/
def transmit (packet : Packet) : Except Failure Packet := do
  incoming (← packet.toString)

theorem transmit_eq {packet : Packet} (hwell : packet.WellFormed) :
    packet.transmit = .ok packet := by
  have hpos : 0 < packet.fragmentsInThisFrame := by
    have hlt := hwell.fragment_lt
    rw [UInt16.lt_iff_toNat_lt] at hlt ⊢
    exact Nat.zero_lt_of_lt hlt
  simp only [transmit, toString, hpos, decide_true, require_true, bind,
    Except.bind]
  exact incoming_header_payload hwell

end Packet

end Salsify.Net
