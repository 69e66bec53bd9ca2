import Salsify.Lib.Fallible
import Salsify.Net.Packet

namespace Salsify.Net

/-! Frames cut into packets and put together again (`net/packet.cc`). -/

structure FragmentedFrame where
  connectionId : UInt16
  sourceState : UInt32
  targetState : UInt32
  frameNo : UInt32
  fragmentsInThisFrame : UInt16
  framePushTimestamp : UInt32
  rttAverage : UInt16
  throughput : UInt16
  fragments : List Packet
  remainingFragments : UInt32
  deriving DecidableEq, Repr

/-- What the sender says about a frame when it cuts it up.  `clock` gives the
system clock as each fragment is built. -/
structure FrameHeader where
  connectionId : UInt16
  sourceState : UInt32
  targetState : UInt32
  frameNo : UInt32
  timeSinceLast : UInt32
  framePushTimestamp : UInt32
  rttAverage : UInt16
  throughput : UInt16
  clock : Nat → UInt32

namespace FragmentedFrame

/-- The loop that emplaces one fragment after another.  Its counter has sixteen
bits: past the last fragment it can count, it starts again at fragment zero and
never reaches the end of the frame, until the memory is used up. -/
def fragmentLoop (header : FrameHeader) (wholeFrame : List UInt8) :
    (fuel : Nat) → (fragmentNo : UInt16) → (nextFragmentStart : Nat) →
      List Packet → Except Failure (List Packet)
  | 0, _, _, _ => .error .badAlloc
  | fuel + 1, fragmentNo, nextFragmentStart, fragments => do
      if nextFragmentStart < wholeFrame.length then
        let (packet, next) ← Packet.outgoing wholeFrame header.connectionId
          header.sourceState header.targetState header.frameNo fragmentNo 0
          (header.clock fragments.length) header.framePushTimestamp
          header.rttAverage header.throughput
        fragmentLoop header wholeFrame fuel (fragmentNo + 1) next
          (fragments ++ [packet])
      else
        return fragments

def outgoing (header : FrameHeader) (wholeFrame : List UInt8) :
    Except Failure FragmentedFrame := do
  let fragments ← fragmentLoop header wholeFrame (2 ^ 16 + 1) 0 0 []
  let fragments ←
    match fragments with
    | [] => .error (.undefinedBehaviour "fragments_.front()")
    | front :: rest => .ok (front.setTimeToNext header.timeSinceLast :: rest)
  let count := UInt16.ofNat fragments.length
  let fragments ← fragments.mapM (Packet.setFragmentsInThisFrame · count)
  return {
    connectionId := header.connectionId
    sourceState := header.sourceState
    targetState := header.targetState
    frameNo := header.frameNo
    fragmentsInThisFrame := count
    framePushTimestamp := header.framePushTimestamp
    rttAverage := header.rttAverage
    throughput := header.throughput
    fragments := fragments
    remainingFragments := 0 }

def sanityCheck (frame : FragmentedFrame) (packet : Packet) :
    Except Failure Unit := do
  require (packet.connectionId == frame.connectionId)
    (.runtimeError "invalid packet, connection_id mismatch")
  require (packet.sourceState == frame.sourceState)
    (.runtimeError "invalid packet, source_state mismatch")
  require (packet.targetState == frame.targetState)
    (.runtimeError "invalid packet, source_state mismatch")
  require (packet.fragmentsInThisFrame == frame.fragmentsInThisFrame)
    (.runtimeError "invalid packet, fragments_in_this_frame mismatch")
  require (packet.frameNo == frame.frameNo)
    (.runtimeError "invalid packet, frame_no mismatch")
  require (packet.fragmentNo < frame.fragmentsInThisFrame)
    (.runtimeError
      "invalid packet, fragment_no >= fragments_in_this_frame")

def addPacket (frame : FragmentedFrame) (packet : Packet) :
    Except Failure FragmentedFrame := do
  frame.sanityCheck packet
  match frame.fragments[packet.fragmentNo.toNat]? with
  | none => .error (.undefinedBehaviour "fragments_[ packet.fragment_no() ]")
  | some slot =>
      if slot.valid then
        return frame
      else
        return { frame with
          remainingFragments := frame.remainingFragments - 1
          fragments := frame.fragments.set packet.fragmentNo.toNat packet }

def emptyFor (connectionId : UInt16) (packet : Packet) : FragmentedFrame where
  connectionId := connectionId
  sourceState := packet.sourceState
  targetState := packet.targetState
  frameNo := packet.frameNo
  fragmentsInThisFrame := packet.fragmentsInThisFrame
  framePushTimestamp := packet.framePushTimestamp
  rttAverage := packet.rttAverage
  throughput := packet.throughput
  fragments := List.replicate packet.fragmentsInThisFrame.toNat Packet.invalid
  remainingFragments := packet.fragmentsInThisFrame.toUInt32

def incoming (connectionId : UInt16) (packet : Packet) :
    Except Failure FragmentedFrame := do
  let frame := emptyFor connectionId packet
  frame.sanityCheck packet
  frame.addPacket packet

def complete (frame : FragmentedFrame) : Bool :=
  frame.remainingFragments == 0

def packets (frame : FragmentedFrame) : Except Failure (List Packet) := do
  require (frame.complete &&
      frame.fragments.length == frame.fragmentsInThisFrame.toNat)
    (.runtimeError "attempt to access unfinished FragmentedFrame")
  return frame.fragments

def frame (frame : FragmentedFrame) : Except Failure (List UInt8) := do
  require frame.complete
    (.runtimeError "attempt to build frame from unfinished FragmentedFrame")
  return (frame.fragments.map Packet.payload).flatten

def partialFrame (frame : FragmentedFrame) : List UInt8 :=
  ((frame.fragments.takeWhile Packet.valid).map Packet.payload).flatten

structure Matches (frame : FragmentedFrame) (packet : Packet) : Prop where
  connectionId : packet.connectionId = frame.connectionId
  sourceState : packet.sourceState = frame.sourceState
  targetState : packet.targetState = frame.targetState
  fragmentsInThisFrame :
    packet.fragmentsInThisFrame = frame.fragmentsInThisFrame
  frameNo : packet.frameNo = frame.frameNo
  fragment_lt : packet.fragmentNo < frame.fragmentsInThisFrame

theorem matches_of_sanityCheck {frame : FragmentedFrame} {packet : Packet}
    (h : frame.sanityCheck packet = .ok ()) : frame.Matches packet := by
  rw [sanityCheck] at h
  obtain ⟨_, hconnection, h⟩ := Fallible.bind_eq_ok h
  obtain ⟨_, hsource, h⟩ := Fallible.bind_eq_ok h
  obtain ⟨_, htarget, h⟩ := Fallible.bind_eq_ok h
  obtain ⟨_, hcount, h⟩ := Fallible.bind_eq_ok h
  obtain ⟨_, hframeNo, h⟩ := Fallible.bind_eq_ok h
  exact {
    connectionId := beq_iff_eq.mp (require_eq_ok.mp hconnection)
    sourceState := beq_iff_eq.mp (require_eq_ok.mp hsource)
    targetState := beq_iff_eq.mp (require_eq_ok.mp htarget)
    fragmentsInThisFrame := beq_iff_eq.mp (require_eq_ok.mp hcount)
    frameNo := beq_iff_eq.mp (require_eq_ok.mp hframeNo)
    fragment_lt := of_decide_eq_true (require_eq_ok.mp h) }

theorem addPacket_cases {frame added : FragmentedFrame} {packet : Packet}
    (h : frame.addPacket packet = .ok added) :
    frame.Matches packet ∧ ∃ fragments remaining, added = { frame with
      fragments := fragments
      remainingFragments := remaining } := by
  rw [addPacket] at h
  obtain ⟨_, hcheck, h⟩ := Fallible.bind_eq_ok h
  refine ⟨matches_of_sanityCheck hcheck, ?_⟩
  cases hslot : frame.fragments[packet.fragmentNo.toNat]? with
  | none => simp [hslot] at h
  | some slot =>
      simp only [hslot] at h
      cases hvalid : slot.valid with
      | true =>
          simp only [hvalid, if_true] at h
          cases h
          exact ⟨_, _, rfl⟩
      | false =>
          simp only [hvalid, Bool.false_eq_true, if_false] at h
          cases h
          exact ⟨_, _, rfl⟩

theorem Matches.of_addPacket {frame added : FragmentedFrame} {packet : Packet}
    (h : frame.addPacket packet = .ok added) : added.Matches packet := by
  obtain ⟨hmatches, fragments, remaining, rfl⟩ := addPacket_cases h
  exact ⟨hmatches.connectionId, hmatches.sourceState, hmatches.targetState,
    hmatches.fragmentsInThisFrame, hmatches.frameNo, hmatches.fragment_lt⟩

theorem Matches.of_incoming {connectionId : UInt16} {made : FragmentedFrame}
    {packet : Packet} (h : incoming connectionId packet = .ok made) :
    made.Matches packet := by
  rw [incoming] at h
  obtain ⟨_, _, h⟩ := Fallible.bind_eq_ok h
  exact Matches.of_addPacket h

end FragmentedFrame

end Salsify.Net
