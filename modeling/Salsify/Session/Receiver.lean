import Salsify.Lib.PartialMap
import Salsify.Lib.Fallible
import Salsify.Net.FragmentedFrame

namespace Salsify.Session

open Salsify.Net

/-! The packet handler of `salsify-receiver.cc`. -/

/-- The video decoder as the session code uses it.  `decode` gives the decoder
after a chunk and whether the chunk has a raster to show. -/
structure Codec (δ ε : Type) where
  minihash : δ → UInt32
  decode : δ → List UInt8 → Except ε (δ × Bool)

/-- A handler ends in an exception of the decoder or in a failure of its own. -/
inductive HandlerError (ε : Type)
  | decoder (error : ε)
  | failure (failure : Failure)
  deriving DecidableEq, Repr

/-- A parsed datagram, with the readings of the wall clock that go into its
acknowledgement. -/
structure Arrival where
  packet : Packet
  avgDelay : UInt32
  ackDelay : UInt32
  frameOneWayDelay : UInt32
  deriving DecidableEq, Repr

structure AckPacket where
  connectionId : UInt16
  frameNo : UInt32
  fragmentNo : UInt16
  avgDelay : UInt32
  currentState : UInt32
  packetSendTimestamp : UInt32
  ackDelay : UInt32
  frameOneWayDelay : UInt32
  frameFinishState : UInt16
  completeStates : List UInt32
  deriving DecidableEq, Repr

/-- The variables of the receiver's `main`.  `displayed` lists the numbers of
the frames handed to the display queue. -/
structure Receiver (δ : Type) where
  player : δ
  initialState : UInt32
  currentState : UInt32
  nextFrameNo : Nat
  fragmentedFrames : PartialMap Nat FragmentedFrame
  decoders : PartialMap UInt32 δ
  completeStates : List UInt32
  displayed : List Nat

namespace Receiver

variable {δ ε : Type} (codec : Codec δ ε)

def connectionId : UInt16 := 1337

def start (player : δ) : Receiver δ where
  player := player
  initialState := codec.minihash player
  currentState := codec.minihash player
  nextFrameNo := 0
  fragmentedFrames := PartialMap.empty
  decoders := PartialMap.empty.insert (codec.minihash player) player
  completeStates := []
  displayed := []

def lift {α : Type} : Except Failure α → Except (HandlerError ε) α
  | .ok value => .ok value
  | .error failure => .error (.failure failure)

/-- Decoding a chunk of frame `frameNo` and queueing what it shows. -/
def enqueueFrame (receiver : Receiver δ) (frameNo : Nat)
    (frame : List UInt8) : Except (HandlerError ε) (Receiver δ) :=
  if frame.isEmpty then
    .ok receiver
  else
    match codec.decode receiver.player frame with
    | .error error => .error (.decoder error)
    | .ok (player, shown) =>
        .ok { receiver with
          player := player
          displayed :=
            if shown then receiver.displayed ++ [frameNo]
            else receiver.displayed }

/-- The loop over the frames that are given up, `count` of them from `i` on. -/
def flushLoop : (count i : Nat) → Receiver δ →
    Except (HandlerError ε) (Receiver δ)
  | 0, _, receiver => .ok receiver
  | count + 1, i, receiver =>
      match receiver.fragmentedFrames i with
      | none => flushLoop count (i + 1) receiver
      | some fragment => do
          let shown ← enqueueFrame codec receiver i fragment.partialFrame
          flushLoop count (i + 1) { shown with
            fragmentedFrames := shown.fragmentedFrames.erase i }

/-- The branch for a packet of a later frame.  The loss rate it computes first
reads the entry of the frame that is waited for. -/
def skipTo (receiver : Receiver δ) (frameNo : Nat) :
    Except (HandlerError ε) (Receiver δ) := do
  match receiver.fragmentedFrames receiver.nextFrameNo with
  | none =>
      .error (.failure (.outOfRange "fragmented_frames.at(next_frame_no)"))
  | some _ => do
      let flushed ← flushLoop codec (frameNo - receiver.nextFrameNo)
        receiver.nextFrameNo receiver
      return { flushed with
        nextFrameNo := frameNo
        currentState := codec.minihash flushed.player }

def addToFrame (receiver : Receiver δ) (packet : Packet) :
    Except (HandlerError ε) (Receiver δ) := do
  match receiver.fragmentedFrames packet.frameNo.toNat with
  | some fragment => do
      let added ← lift (fragment.addPacket packet)
      return { receiver with
        fragmentedFrames :=
          receiver.fragmentedFrames.set packet.frameNo.toNat added }
  | none => do
      let made ← lift (FragmentedFrame.incoming connectionId packet)
      return { receiver with
        fragmentedFrames :=
          receiver.fragmentedFrames.insert packet.frameNo.toNat made }

def loadSource (receiver : Receiver δ) (expectedSourceState : UInt32) :
    Receiver δ :=
  if receiver.currentState ≠ expectedSourceState then
    match receiver.decoders expectedSourceState with
    | some decoder =>
        { receiver with
          player := decoder
          currentState := expectedSourceState }
    | none => receiver
  else
    receiver

/-- The walk over `complete_states` up to the expected source. -/
def discardOlder (expectedSourceState : UInt32) :
    List UInt32 → PartialMap UInt32 δ →
      Except Failure (List UInt32 × PartialMap UInt32 δ)
  | [], _ => .error (.assertion "it != complete_states.end()")
  | state :: rest, decoders =>
      if state ≠ expectedSourceState then
        discardOlder expectedSourceState rest (decoders.erase state)
      else
        .ok (state :: rest, decoders)

def cleanUp (receiver : Receiver δ) (expectedSourceState : UInt32) :
    Except (HandlerError ε) (Receiver δ) := do
  if receiver.currentState = expectedSourceState ∧
      expectedSourceState ≠ receiver.initialState then
    let (completeStates, decoders) ← lift (discardOlder expectedSourceState
      receiver.completeStates receiver.decoders)
    return { receiver with
      completeStates := completeStates
      decoders := decoders }
  else
    return receiver

/-- The frame is decoded, and the state it leaves is saved if it is the one the
sender aimed at. -/
def applyFrame (receiver : Receiver δ) (fragment : FragmentedFrame) :
    Except (HandlerError ε) (Receiver δ) := do
  let frame ← lift fragment.frame
  let applied ← enqueueFrame codec receiver receiver.nextFrameNo frame
  let currentState := codec.minihash applied.player
  let saved :=
    if currentState = fragment.targetState ∧
        currentState ≠ applied.initialState then
      { applied with
        decoders := applied.decoders.insert currentState applied.player
        completeStates := applied.completeStates ++ [currentState] }
    else
      applied
  return { saved with
    currentState := currentState
    fragmentedFrames := saved.fragmentedFrames.erase saved.nextFrameNo
    nextFrameNo := saved.nextFrameNo + 1 }

def completeFrame (receiver : Receiver δ) (fragment : FragmentedFrame) :
    Except (HandlerError ε) (Receiver δ) := do
  let cleaned ← cleanUp (receiver.loadSource fragment.sourceState)
    fragment.sourceState
  applyFrame codec cleaned fragment

def readyFrame (receiver : Receiver δ) : Option FragmentedFrame :=
  (receiver.fragmentedFrames receiver.nextFrameNo).filter
    FragmentedFrame.complete

def acknowledge (receiver : Receiver δ) (arrival : Arrival)
    (frameFinishState : UInt16) : AckPacket where
  connectionId := connectionId
  frameNo := arrival.packet.frameNo
  fragmentNo := arrival.packet.fragmentNo
  avgDelay := arrival.avgDelay
  currentState := receiver.currentState
  packetSendTimestamp := arrival.packet.packetSendTimestamp
  ackDelay := arrival.ackDelay
  frameOneWayDelay := arrival.frameOneWayDelay
  frameFinishState := frameFinishState
  completeStates := receiver.completeStates

def catchUp (receiver : Receiver δ) (packet : Packet) :
    Except (HandlerError ε) (Receiver δ) :=
  if receiver.nextFrameNo < packet.frameNo.toNat then
    skipTo codec receiver packet.frameNo.toNat
  else
    .ok receiver

/-- The handler up to the test for a complete frame. -/
def takeIn (receiver : Receiver δ) (packet : Packet) :
    Except (HandlerError ε) (Receiver δ) := do
  let current ← catchUp codec receiver packet
  addToFrame current packet

/-- The socket handler.  A packet of an earlier frame is not acknowledged. -/
def handlePacket (receiver : Receiver δ) (arrival : Arrival) :
    Except (HandlerError ε) (Receiver δ × Option AckPacket) := do
  if arrival.packet.frameNo.toNat < receiver.nextFrameNo then
    return (receiver, none)
  else
    let skipped := receiver.nextFrameNo < arrival.packet.frameNo.toNat
    let taken ← takeIn codec receiver arrival.packet
    match taken.readyFrame with
    | none =>
        return (taken,
          some (taken.acknowledge arrival (if skipped then 1 else 0)))
    | some fragment => do
        let applied ← completeFrame codec taken fragment
        return (applied, some (applied.acknowledge arrival 1))

def step (receiver : Receiver δ) (arrival : Arrival) :
    Except (HandlerError ε) (Receiver δ) :=
  (handlePacket codec receiver arrival).map Prod.fst

def run (receiver : Receiver δ) (arrivals : List Arrival) :
    Except (HandlerError ε) (Receiver δ) :=
  arrivals.foldlM (step codec) receiver

end Receiver

end Salsify.Session
