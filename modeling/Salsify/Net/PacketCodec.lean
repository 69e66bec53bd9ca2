import Salsify.Lib.Fallible
import Salsify.Net.Packet

namespace Salsify.Net

open LittleEndian

/-! What the parsers of `net/packet.cc` accept, and the send timestamp that is
written over in a packet on its way out. -/

theorem exists_field {width : Nat} {str : Chunk} (h : width ≤ str.length) :
    ∃ value rest, value < 256 ^ width ∧ str = toBytes width value ++ rest := by
  refine ⟨ofBytes (str.take width), str.drop width, ?_, ?_⟩
  · have hlt := ofBytes_lt (str.take width)
    rwa [List.length_take, Nat.min_eq_left h] at hlt
  · have hfield := toBytes_ofBytes (str.take width)
    rw [List.length_take, Nat.min_eq_left h] at hfield
    rw [hfield, List.take_append_drop]

theorem exists_field16 {str : Chunk} (h : 2 ≤ str.length) :
    ∃ (n : UInt16) (rest : Chunk), str = Packet.putHeaderField16 n ++ rest := by
  obtain ⟨value, rest, hlt, hstr⟩ := exists_field h
  refine ⟨UInt16.ofNat value, rest, ?_⟩
  rwa [Packet.putHeaderField16, UInt16.toNat_ofNat_of_lt' hlt]

theorem exists_field32 {str : Chunk} (h : 4 ≤ str.length) :
    ∃ (n : UInt32) (rest : Chunk), str = Packet.putHeaderField32 n ++ rest := by
  obtain ⟨value, rest, hlt, hstr⟩ := exists_field h
  refine ⟨UInt32.ofNat value, rest, ?_⟩
  rwa [Packet.putHeaderField32, UInt32.toNat_ofNat_of_lt' hlt]

namespace Packet

@[simp] theorem putHeaderField16_length (n : UInt16) :
    (putHeaderField16 n).length = 2 :=
  toBytes_length 2 _

@[simp] theorem putHeaderField32_length (n : UInt32) :
    (putHeaderField32 n).length = 4 :=
  toBytes_length 4 _

theorem exists_header {str : Chunk} (h : 34 ≤ str.length) :
    ∃ packet : Packet, packet.valid = true ∧
      str = packet.header ++ packet.payload := by
  obtain ⟨connectionId, str, rfl⟩ := exists_field16 (by omega : 2 ≤ str.length)
  rw [List.length_append, putHeaderField16_length] at h
  obtain ⟨sourceState, str, rfl⟩ := exists_field32 (by omega : 4 ≤ str.length)
  rw [List.length_append, putHeaderField32_length] at h
  obtain ⟨targetState, str, rfl⟩ := exists_field32 (by omega : 4 ≤ str.length)
  rw [List.length_append, putHeaderField32_length] at h
  obtain ⟨frameNo, str, rfl⟩ := exists_field32 (by omega : 4 ≤ str.length)
  rw [List.length_append, putHeaderField32_length] at h
  obtain ⟨fragmentNo, str, rfl⟩ := exists_field16 (by omega : 2 ≤ str.length)
  rw [List.length_append, putHeaderField16_length] at h
  obtain ⟨fragmentsInThisFrame, str, rfl⟩ :=
    exists_field16 (by omega : 2 ≤ str.length)
  rw [List.length_append, putHeaderField16_length] at h
  obtain ⟨timeSinceLast, str, rfl⟩ := exists_field32 (by omega : 4 ≤ str.length)
  rw [List.length_append, putHeaderField32_length] at h
  obtain ⟨packetSendTimestamp, str, rfl⟩ :=
    exists_field32 (by omega : 4 ≤ str.length)
  rw [List.length_append, putHeaderField32_length] at h
  obtain ⟨framePushTimestamp, str, rfl⟩ :=
    exists_field32 (by omega : 4 ≤ str.length)
  rw [List.length_append, putHeaderField32_length] at h
  obtain ⟨rttAverage, str, rfl⟩ := exists_field16 (by omega : 2 ≤ str.length)
  rw [List.length_append, putHeaderField16_length] at h
  obtain ⟨throughput, str, rfl⟩ := exists_field16 (by omega : 2 ≤ str.length)
  refine ⟨{
    valid := true
    connectionId := connectionId
    sourceState := sourceState
    targetState := targetState
    frameNo := frameNo
    fragmentNo := fragmentNo
    fragmentsInThisFrame := fragmentsInThisFrame
    timeSinceLast := timeSinceLast
    packetSendTimestamp := packetSendTimestamp
    framePushTimestamp := framePushTimestamp
    rttAverage := rttAverage
    throughput := throughput
    payload := str }, rfl, ?_⟩
  simp only [header, List.append_assoc]

theorem length_of_incoming {str : Chunk} {packet : Packet}
    (h : incoming str = .ok packet) : 34 ≤ str.length := by
  unfold incoming at h
  -- two steps for each of the eleven fields
  iterate 22 obtain ⟨_, -, h⟩ := Fallible.bind_eq_ok h
  obtain ⟨payload, hpayload, -⟩ := Fallible.bind_eq_ok h
  obtain ⟨_, hcheck, -⟩ := Fallible.bind_eq_ok hpayload
  exact of_decide_eq_true (require_eq_ok.mp hcheck)

theorem incoming_eq_ok_iff {str : Chunk} {packet : Packet} :
    incoming str = .ok packet ↔
      packet.WellFormed ∧ str = packet.header ++ packet.payload := by
  constructor
  · intro h
    obtain ⟨found, hvalid, rfl⟩ := exists_header (length_of_incoming h)
    rw [incoming_fields] at h
    obtain ⟨_, hfragment, h⟩ := Fallible.bind_eq_ok h
    obtain ⟨_, hpayload, h⟩ := Fallible.bind_eq_ok h
    have heq : found = packet := by
      rw [← Except.ok.inj h, ← hvalid]
    subst heq
    refine ⟨⟨hvalid, of_decide_eq_true (require_eq_ok.mp hfragment), ?_⟩, rfl⟩
    simpa using require_eq_ok.mp hpayload
  · rintro ⟨hwell, rfl⟩
    exact incoming_header_payload hwell

theorem toString_eq_ok_iff {packet : Packet} {wire : Chunk} :
    packet.toString = .ok wire ↔
      0 < packet.fragmentsInThisFrame ∧
        wire = packet.header ++ packet.payload := by
  unfold toString
  constructor
  · intro h
    obtain ⟨_, hpos, h⟩ := Fallible.bind_eq_ok h
    exact ⟨of_decide_eq_true (require_eq_ok.mp hpos), (Except.ok.inj h).symm⟩
  · rintro ⟨hpos, rfl⟩
    simp only [hpos, decide_true, require_true]
    rfl

theorem WellFormed.fragments_pos {packet : Packet} (h : packet.WellFormed) :
    0 < packet.fragmentsInThisFrame := by
  have hlt := h.fragment_lt
  rw [UInt16.lt_iff_toNat_lt] at hlt ⊢
  exact Nat.zero_lt_of_lt hlt

theorem toString_of_incoming {str : Chunk} {packet : Packet}
    (h : incoming str = .ok packet) : packet.toString = .ok str := by
  obtain ⟨hwell, hstr⟩ := incoming_eq_ok_iff.mp h
  exact toString_eq_ok_iff.mpr ⟨hwell.fragments_pos, hstr⟩

inductive Constructed : Packet → Prop
  | outgoing {wholeFrame : List UInt8} {connectionId : UInt16}
      {sourceState targetState frameNo : UInt32}
      {fragmentNo timeSinceLast : UInt16}
      {packetSendTimestamp framePushTimestamp : UInt32}
      {rttAverage throughput : UInt16} {packet : Packet} {next : Nat}
      (h : outgoing wholeFrame connectionId sourceState targetState frameNo
        fragmentNo timeSinceLast packetSendTimestamp framePushTimestamp
        rttAverage throughput = .ok (packet, next)) : Constructed packet
  | incoming {str : Chunk} {packet : Packet} (h : incoming str = .ok packet) :
      Constructed packet
  | invalid : Constructed invalid
  | setPacketSendTimestamp {packet : Packet} (h : Constructed packet)
      (t : UInt32) : Constructed (packet.setPacketSendTimestamp t)
  | setTimeToNext {packet : Packet} (h : Constructed packet) (val : UInt32) :
      Constructed (packet.setTimeToNext val)
  | setFragmentsInThisFrame {packet changed : Packet} (h : Constructed packet)
      {x : UInt16} (hset : packet.setFragmentsInThisFrame x = .ok changed) :
      Constructed changed

theorem outgoing_valid {wholeFrame : List UInt8} {connectionId : UInt16}
    {sourceState targetState frameNo : UInt32}
    {fragmentNo timeSinceLast : UInt16}
    {packetSendTimestamp framePushTimestamp : UInt32}
    {rttAverage throughput : UInt16} {packet : Packet} {next : Nat}
    (h : outgoing wholeFrame connectionId sourceState targetState frameNo
      fragmentNo timeSinceLast packetSendTimestamp framePushTimestamp
      rttAverage throughput = .ok (packet, next)) : packet.valid = true := by
  unfold outgoing at h
  obtain ⟨_, -, h⟩ := Fallible.bind_eq_ok h
  obtain ⟨_, -, h⟩ := Fallible.bind_eq_ok h
  obtain ⟨_, -, h⟩ := Fallible.bind_eq_ok h
  rw [← (Prod.mk.inj (Except.ok.inj h)).1]

theorem setFragmentsInThisFrame_eq_ok {packet changed : Packet} {x : UInt16}
    (h : packet.setFragmentsInThisFrame x = .ok changed) :
    changed = { packet with fragmentsInThisFrame := x } := by
  unfold setFragmentsInThisFrame at h
  obtain ⟨_, -, h⟩ := Fallible.bind_eq_ok h
  exact (Except.ok.inj h).symm

/-- Only the packet of the default constructor is invalid, and no setter gives
it a payload. -/
theorem Constructed.valid {packet : Packet} (h : packet.Constructed)
    (hpayload : packet.payload ≠ []) : packet.valid = true := by
  induction h with
  | outgoing h => exact outgoing_valid h
  | incoming h => exact (incoming_eq_ok_iff.mp h).1.valid
  | invalid => exact absurd rfl hpayload
  | setPacketSendTimestamp h t ih => exact ih hpayload
  | setTimeToNext h val ih => exact ih hpayload
  | setFragmentsInThisFrame h hset ih =>
      rw [setFragmentsInThisFrame_eq_ok hset] at hpayload ⊢
      exact ih hpayload

/-- `pkt_temp.replace( 22, 4, .. )`, where the sender lets a packet go. -/
def patchSendTimestamp (wire : Chunk) (t : UInt32) : Except Failure Chunk := do
  require (22 ≤ wire.length) (.outOfRange "basic_string::replace")
  return wire.take 22 ++ putHeaderField32 t ++ wire.drop 26

theorem patchSendTimestamp_header (packet : Packet) (t : UInt32) :
    patchSendTimestamp (packet.header ++ packet.payload) t =
      .ok ((packet.setPacketSendTimestamp t).header ++ packet.payload) := by
  have hlength : decide (22 ≤ (packet.header ++ packet.payload).length) =
      true := by
    rw [decide_eq_true_eq, List.length_append, header_length]
    omega
  have hsplit : packet.header ++ packet.payload =
      (putHeaderField16 packet.connectionId ++
        putHeaderField32 packet.sourceState ++
        putHeaderField32 packet.targetState ++
        putHeaderField32 packet.frameNo ++
        putHeaderField16 packet.fragmentNo ++
        putHeaderField16 packet.fragmentsInThisFrame ++
        putHeaderField32 packet.timeSinceLast) ++
      (putHeaderField32 packet.packetSendTimestamp ++
        (putHeaderField32 packet.framePushTimestamp ++
          putHeaderField16 packet.rttAverage ++
          putHeaderField16 packet.throughput ++ packet.payload)) := by
    simp only [header, List.append_assoc]
  have hfront : (packet.header ++ packet.payload).take 22 =
      putHeaderField16 packet.connectionId ++
        putHeaderField32 packet.sourceState ++
        putHeaderField32 packet.targetState ++
        putHeaderField32 packet.frameNo ++
        putHeaderField16 packet.fragmentNo ++
        putHeaderField16 packet.fragmentsInThisFrame ++
        putHeaderField32 packet.timeSinceLast := by
    rw [hsplit]
    exact List.take_left' rfl
  have hback : (packet.header ++ packet.payload).drop 26 =
      putHeaderField32 packet.framePushTimestamp ++
        putHeaderField16 packet.rttAverage ++
        putHeaderField16 packet.throughput ++ packet.payload := by
    rw [hsplit, ← List.append_assoc]
    exact List.drop_left' rfl
  rw [patchSendTimestamp, hlength, hfront, hback]
  change Except.ok _ = Except.ok _
  simp only [header, setPacketSendTimestamp, List.append_assoc]

theorem map_checks {α β : Type} (one other : Bool) (failure failure' : Failure)
    (value : α) (f : α → β) :
    (do require one failure
        require other failure'
        return value : Except Failure α).map f = (do
      require one failure
      require other failure'
      return f value) := by
  cases one with
  | false => rfl
  | true =>
      cases other with
      | false => rfl
      | true => rfl

/-- The parser sees the new timestamp and nothing else of the change, also
where it rejects the datagram. -/
theorem incoming_patchSendTimestamp {packet : Packet} {wire : Chunk}
    (h : packet.toString = .ok wire) (t : UInt32) :
    (patchSendTimestamp wire t >>= incoming) =
      (incoming wire).map fun parsed => parsed.setPacketSendTimestamp t := by
  obtain ⟨-, rfl⟩ := toString_eq_ok_iff.mp h
  have hpatched := incoming_fields (packet.setPacketSendTimestamp t)
  rw [patchSendTimestamp_header, incoming_fields, map_checks,
    Fallible.ok_bind]
  exact hpatched

/-- What the program relies on between `to_string` and the parser of packets. -/
structure Codec : Prop where
  toString_incoming : ∀ (str : Chunk) (packet : Packet),
    incoming str = .ok packet → packet.toString = .ok str
  incoming_toString : ∀ packet : Packet, packet.Constructed →
    packet.fragmentNo < packet.fragmentsInThisFrame → packet.payload ≠ [] →
    packet.toString >>= incoming = .ok packet
  patch : ∀ (packet : Packet) (wire : Chunk) (t : UInt32),
    packet.toString = .ok wire →
    (patchSendTimestamp wire t >>= incoming) =
      (incoming wire).map fun parsed => parsed.setPacketSendTimestamp t

theorem codec : Codec where
  toString_incoming := fun _ _ h => toString_of_incoming h
  incoming_toString := fun _ h hfragment hpayload =>
    transmit_eq ⟨h.valid hpayload, hfragment, hpayload⟩
  patch := fun _ _ t h => incoming_patchSendTimestamp h t

end Packet

end Salsify.Net
