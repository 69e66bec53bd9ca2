import Salsify.Net.PacketCodec
import Salsify.Session.Receiver

namespace Salsify.Session

open Salsify.Net
open Packet (putHeaderField16 putHeaderField32)
open LittleEndian

/-! Acknowledgements on the wire: the constructor and `to_string` of
`AckPacket` in `net/packet.cc`. -/

namespace AckPacket

/-- The loop over the complete states, from the one at `i` on. -/
def readStates (str : Chunk) (i : Nat) : Nat → Except Failure (List UInt32)
  | 0 => return []
  | count + 1 => do
      let state ← (← str.slice (34 + i * 4) 4).le32
      return state :: (← readStates str (i + 1) count)

def incoming (str : Chunk) : Except Failure AckPacket := do
  let ack : AckPacket := {
    connectionId := ← (← str.slice 0 2).le16
    frameNo := ← (← str.slice 2 4).le32
    fragmentNo := ← (← str.slice 6 2).le16
    avgDelay := ← (← str.slice 8 4).le32
    currentState := ← (← str.slice 12 4).le32
    packetSendTimestamp := ← (← str.slice 16 4).le32
    ackDelay := ← (← str.slice 20 4).le32
    frameOneWayDelay := ← (← str.slice 24 4).le32
    frameFinishState := ← (← str.slice 28 2).le16
    completeStates := [] }
  let count ← (← str.slice 30 4).le32
  let completeStates ← readStates str 0 count.toNat
  return { ack with completeStates := completeStates }

def fixedFields (ack : AckPacket) (count : UInt32) : List Chunk :=
  [putHeaderField16 ack.connectionId,
   putHeaderField32 ack.frameNo,
   putHeaderField16 ack.fragmentNo,
   putHeaderField32 ack.avgDelay,
   putHeaderField32 ack.currentState,
   putHeaderField32 ack.packetSendTimestamp,
   putHeaderField32 ack.ackDelay,
   putHeaderField32 ack.frameOneWayDelay,
   putHeaderField16 ack.frameFinishState,
   putHeaderField32 count]

/-- The number of complete states is cast to 32 bits. -/
def header (ack : AckPacket) : List UInt8 :=
  (ack.fixedFields (UInt32.ofNat ack.completeStates.length)).flatten

def toString (ack : AckPacket) : List UInt8 :=
  ack.header ++ ack.completeStates.flatMap putHeaderField32

theorem slice32 {front back : Chunk} {offset : Nat} (n : UInt32)
    (hfront : front.length = offset) :
    (do (← Chunk.slice (front ++ (putHeaderField32 n ++ back)) offset 4).le32) =
      .ok n := by
  have hslice := slice_append front (putHeaderField32 n) back
  rw [hfront, Packet.putHeaderField32_length, List.append_assoc] at hslice
  rw [hslice, Fallible.ok_bind]
  exact le32_toBytes n

theorem readStates_append {front : Chunk} {i : Nat} (states : List UInt32)
    (hfront : front.length = 34 + i * 4) (back : Chunk) :
    readStates (front ++ (states.flatMap putHeaderField32 ++ back)) i
      states.length = .ok states := by
  induction states generalizing front i with
  | nil => rfl
  | cons state states ih =>
      have hnext : (front ++ putHeaderField32 state).length =
          34 + (i + 1) * 4 := by
        rw [List.length_append, hfront, Packet.putHeaderField32_length]
        omega
      have hrest := ih hnext
      have hsplit : front ++
          ((state :: states).flatMap putHeaderField32 ++ back) =
          front ++ (putHeaderField32 state ++
            (states.flatMap putHeaderField32 ++ back)) := by
        rw [List.flatMap_cons, List.append_assoc]
      rw [hsplit, List.length_cons, readStates, ← bind_assoc,
        slice32 state hfront, Fallible.ok_bind]
      rw [List.append_assoc] at hrest
      rw [hrest]
      rfl

theorem drop_of_slice32 {str : Chunk} {offset : Nat} {n : UInt32}
    (h : (do (← Chunk.slice str offset 4).le32) = .ok n) :
    offset + 4 ≤ str.length ∧
      str.drop offset = putHeaderField32 n ++ str.drop (offset + 4) := by
  obtain ⟨field, hslice, hfield⟩ := Fallible.bind_eq_ok h
  unfold Chunk.slice at hslice
  obtain ⟨_, -, hslice⟩ := Fallible.bind_eq_ok hslice
  obtain ⟨_, hend, hslice⟩ := Fallible.bind_eq_ok hslice
  have hlength : offset + 4 ≤ str.length :=
    of_decide_eq_true (require_eq_ok.mp hend)
  have htake : field = (str.drop offset).take 4 := (Except.ok.inj hslice).symm
  unfold Chunk.le32 at hfield
  obtain ⟨_, -, hvalue⟩ := Fallible.bind_eq_ok hfield
  have hfour : 4 ≤ (str.drop offset).length := by
    rw [List.length_drop]
    omega
  obtain ⟨n', rest, hrest⟩ := exists_field32 hfour
  have hn : n = n' := by
    have hfield' : field = putHeaderField32 n' := by
      rw [htake, hrest]
      exact List.take_left' (Packet.putHeaderField32_length n')
    have hread := le32_toBytes n'
    rw [putHeaderField32] at hfield'
    rw [← hfield'] at hread
    exact Except.ok.inj (hfield.symm.trans hread)
  have hback : str.drop (offset + 4) = rest := by
    rw [← List.drop_drop, hrest]
    exact List.drop_left' (Packet.putHeaderField32_length n')
  exact ⟨hlength, by rw [hback, hrest, hn]⟩

theorem states_of_readStates {str : Chunk} {i count : Nat}
    {states : List UInt32} (h : readStates str i count = .ok states) :
    states.length = count ∧
      states.flatMap putHeaderField32 <+: str.drop (34 + i * 4) := by
  induction count generalizing i states with
  | zero =>
      obtain rfl := Except.ok.inj h
      exact ⟨rfl, List.nil_prefix⟩
  | succ count ih =>
      rw [readStates, ← bind_assoc] at h
      obtain ⟨state, hstate, h⟩ := Fallible.bind_eq_ok h
      obtain ⟨rest, hrest, h⟩ := Fallible.bind_eq_ok h
      obtain rfl := Except.ok.inj h
      obtain ⟨hlength, hprefix⟩ := ih hrest
      have hdrop := (drop_of_slice32 hstate).2
      have hoffset : 34 + i * 4 + 4 = 34 + (i + 1) * 4 := by omega
      refine ⟨by rw [List.length_cons, hlength], ?_⟩
      rw [hdrop, hoffset, List.flatMap_cons]
      exact (List.prefix_append_right_inj _).mpr hprefix

theorem fixedFields_length (ack : AckPacket) (count : UInt32) :
    (ack.fixedFields count).flatten.length = 34 := by
  simp [fixedFields]

theorem slice_fixedFields (ack : AckPacket) (count : UInt32) (rest : Chunk)
    (index : Fin (ack.fixedFields count).length) :
    Chunk.slice ((ack.fixedFields count).flatten ++ rest)
        ((ack.fixedFields count).take index).flatten.length
        (ack.fixedFields count)[index].length =
      .ok (ack.fixedFields count)[index] :=
  slice_flatten (ack.fixedFields count) rest index

theorem incoming_fields (ack : AckPacket) (count : UInt32) (rest : Chunk) :
    incoming ((ack.fixedFields count).flatten ++ rest) = (do
      let completeStates ← readStates ((ack.fixedFields count).flatten ++ rest)
        0 count.toNat
      return { ack with completeStates := completeStates }) := by
  have hslice := ack.slice_fixedFields count rest
  generalize hstr : (ack.fixedFields count).flatten ++ rest = str at hslice ⊢
  have hConnectionId : Chunk.slice str 0 2 =
      .ok (toBytes 2 ack.connectionId.toNat) :=
    hslice ⟨0, by simp [fixedFields]⟩
  have hFrameNo : Chunk.slice str 2 4 = .ok (toBytes 4 ack.frameNo.toNat) :=
    hslice ⟨1, by simp [fixedFields]⟩
  have hFragmentNo : Chunk.slice str 6 2 =
      .ok (toBytes 2 ack.fragmentNo.toNat) :=
    hslice ⟨2, by simp [fixedFields]⟩
  have hAvgDelay : Chunk.slice str 8 4 = .ok (toBytes 4 ack.avgDelay.toNat) :=
    hslice ⟨3, by simp [fixedFields]⟩
  have hCurrentState : Chunk.slice str 12 4 =
      .ok (toBytes 4 ack.currentState.toNat) :=
    hslice ⟨4, by simp [fixedFields]⟩
  have hPacketSendTimestamp : Chunk.slice str 16 4 =
      .ok (toBytes 4 ack.packetSendTimestamp.toNat) :=
    hslice ⟨5, by simp [fixedFields]⟩
  have hAckDelay : Chunk.slice str 20 4 = .ok (toBytes 4 ack.ackDelay.toNat) :=
    hslice ⟨6, by simp [fixedFields]⟩
  have hFrameOneWayDelay : Chunk.slice str 24 4 =
      .ok (toBytes 4 ack.frameOneWayDelay.toNat) :=
    hslice ⟨7, by simp [fixedFields]⟩
  have hFrameFinishState : Chunk.slice str 28 2 =
      .ok (toBytes 2 ack.frameFinishState.toNat) :=
    hslice ⟨8, by simp [fixedFields]⟩
  have hCount : Chunk.slice str 30 4 = .ok (toBytes 4 count.toNat) :=
    hslice ⟨9, by simp [fixedFields]⟩
  simp only [incoming, hConnectionId, hFrameNo, hFragmentNo, hAvgDelay,
    hCurrentState, hPacketSendTimestamp, hAckDelay, hFrameOneWayDelay,
    hFrameFinishState, hCount, le16_toBytes, le32_toBytes, Fallible.ok_bind]

theorem exists_fixedFields {str : Chunk} (h : 34 ≤ str.length) :
    ∃ (ack : AckPacket) (count : UInt32) (rest : Chunk),
      str = (ack.fixedFields count).flatten ++ rest := by
  obtain ⟨connectionId, str, rfl⟩ := exists_field16 (by omega : 2 ≤ str.length)
  rw [List.length_append, Packet.putHeaderField16_length] at h
  obtain ⟨frameNo, str, rfl⟩ := exists_field32 (by omega : 4 ≤ str.length)
  rw [List.length_append, Packet.putHeaderField32_length] at h
  obtain ⟨fragmentNo, str, rfl⟩ := exists_field16 (by omega : 2 ≤ str.length)
  rw [List.length_append, Packet.putHeaderField16_length] at h
  obtain ⟨avgDelay, str, rfl⟩ := exists_field32 (by omega : 4 ≤ str.length)
  rw [List.length_append, Packet.putHeaderField32_length] at h
  obtain ⟨currentState, str, rfl⟩ := exists_field32 (by omega : 4 ≤ str.length)
  rw [List.length_append, Packet.putHeaderField32_length] at h
  obtain ⟨packetSendTimestamp, str, rfl⟩ :=
    exists_field32 (by omega : 4 ≤ str.length)
  rw [List.length_append, Packet.putHeaderField32_length] at h
  obtain ⟨ackDelay, str, rfl⟩ := exists_field32 (by omega : 4 ≤ str.length)
  rw [List.length_append, Packet.putHeaderField32_length] at h
  obtain ⟨frameOneWayDelay, str, rfl⟩ :=
    exists_field32 (by omega : 4 ≤ str.length)
  rw [List.length_append, Packet.putHeaderField32_length] at h
  obtain ⟨frameFinishState, str, rfl⟩ :=
    exists_field16 (by omega : 2 ≤ str.length)
  rw [List.length_append, Packet.putHeaderField16_length] at h
  obtain ⟨count, str, rfl⟩ := exists_field32 (by omega : 4 ≤ str.length)
  refine ⟨{
    connectionId := connectionId
    frameNo := frameNo
    fragmentNo := fragmentNo
    avgDelay := avgDelay
    currentState := currentState
    packetSendTimestamp := packetSendTimestamp
    ackDelay := ackDelay
    frameOneWayDelay := frameOneWayDelay
    frameFinishState := frameFinishState
    completeStates := [] }, count, str, ?_⟩
  simp [fixedFields]

theorem length_of_incoming {str : Chunk} {ack : AckPacket}
    (h : incoming str = .ok ack) : 34 ≤ str.length := by
  unfold incoming at h
  -- two steps for each of the nine fields in front of the number
  iterate 18 obtain ⟨_, -, h⟩ := Fallible.bind_eq_ok h
  obtain ⟨field, hfield, -⟩ := Fallible.bind_eq_ok h
  unfold Chunk.slice at hfield
  obtain ⟨_, -, hfield⟩ := Fallible.bind_eq_ok hfield
  obtain ⟨_, hend, -⟩ := Fallible.bind_eq_ok hfield
  exact of_decide_eq_true (require_eq_ok.mp hend)

theorem incoming_toString (ack : AckPacket) :
    incoming ack.toString = (do
      let completeStates ← readStates ack.toString 0
        (UInt32.ofNat ack.completeStates.length).toNat
      return { ack with completeStates := completeStates }) :=
  ack.incoming_fields _ _

theorem incoming_toString_of_lt {ack : AckPacket}
    (h : ack.completeStates.length < 2 ^ 32) :
    incoming ack.toString = .ok ack := by
  have hstates := readStates_append (i := 0) ack.completeStates
    (ack.fixedFields_length (UInt32.ofNat ack.completeStates.length)) []
  rw [List.append_nil] at hstates
  rw [incoming_toString, UInt32.toNat_ofNat_of_lt' h, toString, header, hstates]
  rfl

theorem incoming_toString_iff (ack : AckPacket) :
    incoming ack.toString = .ok ack ↔ ack.completeStates.length < 2 ^ 32 := by
  refine ⟨fun h => ?_, incoming_toString_of_lt⟩
  rw [incoming_toString] at h
  obtain ⟨states, hstates, h⟩ := Fallible.bind_eq_ok h
  have hlength := (states_of_readStates hstates).1
  have heq : states = ack.completeStates :=
    congrArg completeStates (Except.ok.inj h)
  rw [heq] at hlength
  rw [hlength]
  exact UInt32.toNat_lt _

theorem toString_prefix {str : Chunk} {ack : AckPacket}
    (h : incoming str = .ok ack) : ack.toString <+: str := by
  obtain ⟨found, count, rest, rfl⟩ := exists_fixedFields (length_of_incoming h)
  rw [incoming_fields] at h
  obtain ⟨states, hstates, h⟩ := Fallible.bind_eq_ok h
  obtain rfl := Except.ok.inj h
  obtain ⟨hlength, hbytes⟩ := states_of_readStates hstates
  rw [List.drop_left' (found.fixedFields_length count)] at hbytes
  have hcount : UInt32.ofNat states.length = count := by
    rw [hlength, UInt32.ofNat_toNat]
  have hheader : header { found with completeStates := states } =
      (found.fixedFields count).flatten := by
    rw [header, hcount]
    rfl
  rw [toString, hheader]
  exact (List.prefix_append_right_inj _).mpr hbytes

/-- Packets and acks come back from what they are serialized to, an ack with at
most as many complete states as its count can announce. -/
theorem wireCodecs :
    Packet.Codec ∧
      (∀ ack : AckPacket, ack.completeStates.length < 2 ^ 32 →
        incoming ack.toString = .ok ack) ∧
      ∀ (str : Chunk) (ack : AckPacket), incoming str = .ok ack →
        ack.toString <+: str :=
  ⟨Packet.codec, fun _ h => incoming_toString_of_lt h,
    fun _ _ h => toString_prefix h⟩

def ackOf (completeStates : List UInt32) : AckPacket where
  connectionId := 1
  frameNo := 2
  fragmentNo := 3
  avgDelay := 4
  currentState := 5
  packetSendTimestamp := 6
  ackDelay := 7
  frameOneWayDelay := 8
  frameFinishState := 1
  completeStates := completeStates

def onePacket : Packet where
  valid := true
  connectionId := 1
  sourceState := 2
  targetState := 3
  frameNo := 4
  fragmentNo := 0
  fragmentsInThisFrame := 1
  timeSinceLast := 5
  packetSendTimestamp := 6
  framePushTimestamp := 7
  rttAverage := 8
  throughput := 9
  payload := [10]

theorem wireCodecs_small :
    onePacket.toString >>= Packet.incoming = .ok onePacket ∧
      incoming (ackOf [11, 12]).toString = .ok (ackOf [11, 12]) ∧
      (ackOf [11, 12]).toString <+: (ackOf [11, 12]).toString ++ [] := by
  have houtgoing : Packet.outgoing [10] 1 2 3 4 0 5 6 7 8 9 =
      .ok ({ onePacket with fragmentsInThisFrame := 0 }, 1) := rfl
  have hset : Packet.setFragmentsInThisFrame
      { onePacket with fragmentsInThisFrame := 0 } 1 = .ok onePacket := rfl
  have hpacket : onePacket.Constructed :=
    (Packet.Constructed.outgoing houtgoing).setFragmentsInThisFrame hset
  have hack := wireCodecs.2.1 (ackOf [11, 12]) (by decide)
  refine ⟨wireCodecs.1.incoming_toString onePacket hpacket (by decide)
    (by decide), hack, wireCodecs.2.2 _ _ ?_⟩
  rw [List.append_nil]
  exact hack

/-- With 2^32 complete states the count is zero. -/
theorem incoming_toString_long :
    ¬ incoming (ackOf (List.replicate (2 ^ 32) 0)).toString =
      .ok (ackOf (List.replicate (2 ^ 32) 0)) := by
  rw [incoming_toString_iff]
  change ¬ (List.replicate (2 ^ 32) 0).length < 2 ^ 32
  rw [List.length_replicate]
  exact Nat.lt_irrefl _

end AckPacket

end Salsify.Session
