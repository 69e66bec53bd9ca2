import Salsify.Net.Reassembly

namespace Salsify.Net

open FragmentedFrame

/-! Frames that an outgoing `FragmentedFrame` can carry, and their packets as
the pacer sends them: with the time of sending written over the time of
construction. -/

structure SentFrame where
  header : FrameHeader
  wholeFrame : List UInt8
  nonempty : wholeFrame ≠ []
  fits : fragmentCount wholeFrame < 2 ^ 16

namespace SentFrame

def count (frame : SentFrame) : Nat := fragmentCount frame.wholeFrame

def stamped (frame : SentFrame) (clock : Nat → UInt32) : FrameHeader :=
  { frame.header with clock := clock }

def packet (frame : SentFrame) (index : Nat) (timestamp : UInt32) : Packet :=
  fragment (frame.stamped fun _ => timestamp) frame.wholeFrame index

/-- The frame at its destination, with the fragments in `got` arrived. -/
def arrived (frame : SentFrame) (clock : Nat → UInt32) (got : Nat → Bool) :
    FragmentedFrame :=
  board (frame.stamped clock) frame.wholeFrame got

theorem packet_eq_set (frame : SentFrame) (index : Nat) (timestamp : UInt32) :
    frame.packet index timestamp =
      (fragment frame.header frame.wholeFrame index).setPacketSendTimestamp
        timestamp := rfl

@[simp] theorem packet_frameNo (frame : SentFrame) (index : Nat)
    (timestamp : UInt32) :
    (frame.packet index timestamp).frameNo = frame.header.frameNo := rfl

@[simp] theorem packet_sourceState (frame : SentFrame) (index : Nat)
    (timestamp : UInt32) :
    (frame.packet index timestamp).sourceState =
      frame.header.sourceState := rfl

@[simp] theorem packet_targetState (frame : SentFrame) (index : Nat)
    (timestamp : UInt32) :
    (frame.packet index timestamp).targetState =
      frame.header.targetState := rfl

theorem packet_fragmentNo (frame : SentFrame) {index : Nat}
    (hindex : index < frame.count) (timestamp : UInt32) :
    (frame.packet index timestamp).fragmentNo.toNat = index :=
  fragment_fragmentNo hindex frame.fits

theorem arrived_congr (frame : SentFrame) {clock other : Nat → UInt32}
    {got : Nat → Bool}
    (h : ∀ index, got index = true → clock index = other index) :
    frame.arrived clock got = frame.arrived other got := by
  simp only [arrived, board, FragmentedFrame.mk.injEq, and_true, true_and]
  refine ⟨rfl, rfl, rfl, rfl, rfl, rfl, rfl, ?_⟩
  apply List.map_congr_left
  intro index _
  cases hgot : got index with
  | false => rfl
  | true => simp [fragment, rawFragment, stamped, h index hgot]

theorem addPacket_arrived (frame : SentFrame) (clock : Nat → UInt32)
    (got : Nat → Bool) {index : Nat} (hindex : index < frame.count)
    (timestamp : UInt32) :
    ∃ later, (frame.arrived clock got).addPacket
        (frame.packet index timestamp) =
      .ok (frame.arrived later (Function.update got index true)) := by
  cases hgot : got index with
  | true =>
      have hsame : Function.update got index true = got :=
        Function.update_eq_self_iff.mpr hgot.symm
      have hslot := fragments_board (frame.stamped clock) got hindex
      -- the sanity check looks at no timestamp
      have hcheck : (board (frame.stamped clock) frame.wholeFrame
          got).sanityCheck (frame.packet index timestamp) = .ok () :=
        @sanityCheck_board (frame.stamped fun _ => timestamp) frame.wholeFrame
          got index hindex frame.fits
      refine ⟨clock, ?_⟩
      rw [hgot, if_pos rfl] at hslot
      simp only [addPacket, hcheck, frame.packet_fragmentNo hindex, arrived,
        hslot, bind, Except.bind, hsame]
      rfl
  | false =>
      refine ⟨Function.update clock index timestamp, ?_⟩
      have hbefore : frame.arrived clock got =
          frame.arrived (Function.update clock index timestamp) got := by
        apply arrived_congr
        intro other hother
        have hne : other ≠ index := by
          rintro rfl
          simp [hgot] at hother
        rw [Function.update_of_ne hne]
      have hpacket : frame.packet index timestamp =
          fragment (frame.stamped (Function.update clock index timestamp))
            frame.wholeFrame index := by
        simp [packet, fragment, rawFragment, stamped]
      rw [hbefore, hpacket]
      exact addPacket_board got hindex frame.fits

theorem incoming_packet (frame : SentFrame) {index : Nat}
    (hindex : index < frame.count) (timestamp : UInt32) :
    incoming frame.header.connectionId (frame.packet index timestamp) =
      .ok (frame.arrived (fun _ => timestamp)
        (Function.update (fun _ => false) index true)) :=
  incoming_fragment hindex frame.fits

theorem complete_arrived (frame : SentFrame) (clock : Nat → UInt32)
    (got : Nat → Bool) :
    (frame.arrived clock got).complete = true ↔
      ∀ index < frame.count, got index = true :=
  complete_board got frame.fits

theorem frame_arrived (frame : SentFrame) (clock : Nat → UInt32)
    {got : Nat → Bool}
    (h : (frame.arrived clock got).complete = true) :
    (frame.arrived clock got).frame = .ok frame.wholeFrame :=
  frame_board ((frame.complete_arrived clock got).mp h) frame.fits

def fragmented (frame : SentFrame) : FragmentedFrame where
  connectionId := frame.header.connectionId
  sourceState := frame.header.sourceState
  targetState := frame.header.targetState
  frameNo := frame.header.frameNo
  fragmentsInThisFrame := UInt16.ofNat frame.count
  framePushTimestamp := frame.header.framePushTimestamp
  rttAverage := frame.header.rttAverage
  throughput := frame.header.throughput
  fragments := (List.range frame.count).map
    (fragment frame.header frame.wholeFrame)
  remainingFragments := 0

theorem outgoing_eq_ok {header : FrameHeader} {wholeFrame : List UInt8}
    {frame : FragmentedFrame} (h : outgoing header wholeFrame = .ok frame) :
    ∃ sent : SentFrame, sent.header = header ∧ sent.wholeFrame = wholeFrame ∧
      frame = sent.fragmented := by
  obtain ⟨hne, hfits⟩ := outgoing_only h
  rw [outgoing_spec hne hfits] at h
  cases h
  exact ⟨⟨header, wholeFrame, hne, hfits⟩, rfl, rfl, rfl⟩

theorem transmit_fragmented (frame : SentFrame) {index : Nat}
    {fragment : Packet} (timestamp : UInt32)
    (h : frame.fragmented.fragments[index]? = some fragment) :
    index < frame.count ∧
      (fragment.setPacketSendTimestamp timestamp).transmit =
        .ok (frame.packet index timestamp) := by
  simp only [fragmented, List.getElem?_map, Option.map_eq_some_iff] at h
  obtain ⟨number, hnumber, rfl⟩ := h
  obtain ⟨hindex, hrange⟩ := List.getElem?_eq_some_iff.mp hnumber
  rw [List.length_range] at hindex
  rw [List.getElem_range] at hrange
  subst number
  refine ⟨hindex, ?_⟩
  rw [← packet_eq_set]
  exact Packet.transmit_eq (fragment_wellFormed hindex frame.fits)

theorem fragmented_eq_arrived (frame : SentFrame) :
    frame.fragmented = frame.arrived frame.header.clock (fun _ => true) := by
  simp [fragmented, arrived, board, stamped, count]

theorem fragmented_frame (frame : SentFrame) :
    frame.fragmented.frame = .ok frame.wholeFrame := by
  rw [fragmented_eq_arrived]
  apply frame_arrived
  exact (frame.complete_arrived _ _).mpr fun _ _ => rfl

theorem packet_congr {frame other : SentFrame}
    (h : frame.fragmented = other.fragmented) {index : Nat}
    (hindex : index < other.count) (timestamp : UInt32) :
    index < frame.count ∧
      other.packet index timestamp = frame.packet index timestamp := by
  have hlist := congrArg FragmentedFrame.fragments h
  have hcount := congrArg List.length hlist
  simp only [fragmented, List.length_map, List.length_range] at hcount
  have hentry := congrArg (fun fragments => fragments[index]?) hlist
  simp only [fragmented, List.getElem?_map, hcount,
    List.getElem?_range hindex, Option.map_some, Option.some.injEq] at hentry
  refine ⟨hcount ▸ hindex, ?_⟩
  rw [packet_eq_set, packet_eq_set, hentry]

end SentFrame

end Salsify.Net
