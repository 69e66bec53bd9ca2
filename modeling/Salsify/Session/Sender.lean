import Salsify.Lib.Fallible
import Salsify.Lib.PartialMap
import Salsify.Net.FragmentedFrame
import Salsify.Session.Receiver

namespace Salsify.Session

open Salsify.Net

/-! The event handlers of `salsify-sender.cc` that choose, record and forget
encoders.  What the encoding jobs produce and what the clocks read are inputs of
the events. -/

inductive OperationMode
  | s1 | s2 | conventional
  deriving DecidableEq, Repr

/-- The encoder that the running jobs start from.  `conservative` records which
branch of the selection chose it. -/
structure EncodeJob (η : Type) where
  encoder : η
  conservative : Bool

structure EncodeOutput (η : Type) where
  encoder : η
  frame : List UInt8
  jobName : String

/-- The outputs of the jobs that were not killed, with what the frame's header
says about the clock and the network. -/
structure EncodeOutputs (η : Type) where
  outputs : List (EncodeOutput η)
  timeSinceLast : UInt32
  framePushTimestamp : UInt32
  rttAverage : UInt16
  throughput : UInt16
  clock : Nat → UInt32

/-- The variables of the sender's `main`.  `lastAcked` is `none` where the code
has the largest 64-bit value. -/
structure Sender (η : Type) where
  operationMode : OperationMode
  connectionId : UInt16
  initialState : UInt32
  frameNo : UInt32
  encodeJobs : Option (EncodeJob η)
  encoderStates : List UInt32
  encoders : PartialMap UInt32 η
  receiverLastAckedState : Option UInt32
  receiverAssumedState : Option UInt32
  receiverCompleteStates : List UInt32
  conservativeUntil : Nat
  cumulativeFpf : List Nat
  lastAcked : Option Nat
  avgDelay : UInt32
  skippedCount : Nat

inductive SenderEvent (η : Type)
  | encodeStart (now later : Nat)
  | encodeEnd (ended : EncodeOutputs η)
  | ack (packet : AckPacket)

namespace Sender

variable {η : Type} (minihash : η → UInt32)

def start (operationMode : OperationMode) (connectionId : UInt16)
    (baseEncoder : η) (now : Nat) : Sender η where
  operationMode := operationMode
  connectionId := connectionId
  initialState := minihash baseEncoder
  frameNo := 0
  encodeJobs := none
  encoderStates := []
  encoders := PartialMap.empty.insert (minihash baseEncoder) baseEncoder
  receiverLastAckedState := none
  receiverAssumedState := none
  receiverCompleteStates := []
  conservativeUntil := now
  cumulativeFpf := []
  lastAcked := none
  avgDelay := 0xffffffff
  skippedCount := 0

def optionalGet {α : Type} : Option α → Except Failure α
  | some value => .ok value
  | none => .error (.assertion "initialized()")

def forgetOlder (acked : UInt32) (assumed : Option UInt32) :
    List UInt32 → PartialMap UInt32 η →
      Except Failure (List UInt32 × PartialMap UInt32 η)
  | [], encoders => .ok ([], encoders)
  | state :: rest, encoders =>
      if state = acked then
        .ok (state :: rest, encoders)
      else do
        let assumedState ← optionalGet assumed
        if state = assumedState then
          .ok (state :: rest, encoders)
        else
          forgetOlder acked assumed rest
            (if state ∈ rest then encoders else encoders.erase state)

def cleanUp (sender : Sender η) : Except Failure (Sender η) :=
  match sender.receiverLastAckedState with
  | none => .ok sender
  | some acked =>
      if acked ≠ sender.initialState ∧ sender.encoders.Mem acked then do
        let (states, encoders) ← forgetOlder acked sender.receiverAssumedState
          sender.encoderStates sender.encoders
        return { sender with
          encoderStates := states
          encoders := encoders }
      else
        .ok sender

/-- The last state the receiver reported as complete, or the initial one. -/
def knownState (sender : Sender η) : UInt32 :=
  sender.receiverCompleteStates.getLast?.getD sender.initialState

/-- Five seconds, in the nanoseconds that the clock counts. -/
def conservativeFor : Nat := 5 * 10 ^ 9

structure Selection where
  sourceHash : UInt32
  conservative : Bool
  conservativeUntil : Nat

def select (sender : Sender η) (now later : Nat) : Except Failure Selection :=
  if now < sender.conservativeUntil then
    .ok ⟨sender.knownState, true, sender.conservativeUntil⟩
  else
    match sender.receiverLastAckedState with
    | none =>
        match sender.receiverAssumedState with
        | none => .ok ⟨sender.initialState, false, sender.conservativeUntil⟩
        | some assumed => .ok ⟨assumed, false, sender.conservativeUntil⟩
    | some acked =>
        if sender.encoders.Mem acked then do
          let assumed ← optionalGet sender.receiverAssumedState
          return ⟨assumed, false, sender.conservativeUntil⟩
        else
          .ok ⟨sender.knownState, true, later + conservativeFor⟩

/-- The handler of a new raster: unless a frame is being encoded, stored
encoders are cleaned up and the jobs for the next frame start. -/
def encodeStart (sender : Sender η) (now later : Nat) :
    Except Failure (Sender η) :=
  match sender.encodeJobs with
  | some _ => .ok sender
  | none => do
      let cleaned ← sender.cleanUp
      let selection ← cleaned.select now later
      match cleaned.encoders selection.sourceHash with
      | none => .error (.outOfRange "encoders.at( selected_source_hash )")
      | some encoder =>
          return { cleaned with
            conservativeUntil := selection.conservativeUntil
            encodeJobs := some ⟨encoder, selection.conservative⟩ }

/-! The end of the jobs. -/

/-- `last_sent - last_acked`, in 64 bits. Before the first acknowledgement,
`last_acked` is the largest value. -/
def inFlight (lastAcked : Option Nat) (lastSent : Nat) : Nat :=
  (lastSent + 2 ^ 64 - lastAcked.getD (2 ^ 64 - 1)) % 2 ^ 64

def capacity (avgDelay : UInt32) : Nat :=
  100 * 1000 / (if avgDelay = 0 then 1 else avgDelay.toNat)

/-- The difference is converted to a signed number. -/
def targetSize (avgDelay : UInt32) (lastAcked : Option Nat) (lastSent : Nat) :
    Nat :=
  1400 * (max 0
    (((capacity avgDelay + 2 ^ 64 - inFlight lastAcked lastSent : Nat) :
      Int).bmod (2 ^ 64))).toNat

/-- The current capacity of the network, once the receiver has measured a
delay. -/
def frameSize (sender : Sender η) : Except Failure Nat :=
  if sender.avgDelay ≠ 0xffffffff then
    match sender.cumulativeFpf.getLast? with
    | some lastSent =>
        .ok (targetSize sender.avgDelay sender.lastAcked lastSent)
    | none => .error (.undefinedBehaviour "cumulative_fpf.back()")
  else
    .ok (2 ^ 64 - 1)

/-- The output that comes closest to the size, and not above it. -/
def closestOutput (frameSize : Nat) (best : Option (EncodeOutput η))
    (bestSizeDiff : Nat) :
    List (EncodeOutput η) → Option (EncodeOutput η)
  | [] => best
  | output :: rest =>
      if output.frame.length ≤ frameSize ∧
          frameSize - output.frame.length < bestSizeDiff then
        closestOutput frameSize (some output)
          (frameSize - output.frame.length) rest
      else
        closestOutput frameSize best bestSizeDiff rest

def maxSkipped : Nat := 3

/-- The output to be sent, or `none` where the frame is skipped. -/
def bestOutput (sender : Sender η) (frameSize : Nat) :
    List (EncodeOutput η) → Except Failure (Option (EncodeOutput η))
  | [] => .error (.undefinedBehaviour "good_outputs[ 0 ]")
  | first :: rest =>
      if sender.operationMode = .conventional then
        .ok (some first)
      else if rest = [] then
        .error (.undefinedBehaviour "good_outputs[ 1 ]")
      else
        match closestOutput frameSize none (2 ^ 64 - 1) (first :: rest) with
        | some best => .ok (some best)
        | none =>
            let last := rest.getLast?.getD first
            if sender.skippedCount < maxSkipped ∨
                last.jobName ≠ "fail-small" then
              .ok none
            else
              .ok (some last)

/-- The choice is made for the capacity that is left when the jobs end. -/
def pickOutput (sender : Sender η) (outputs : List (EncodeOutput η)) :
    Except Failure (Option (EncodeOutput η)) := do
  let size ← sender.frameSize
  sender.bestOutput size outputs

def fragmentsUpTo (cumulativeFpf : List Nat) (frameNo : UInt32)
    (fragments : Nat) : Except Failure Nat :=
  if 0 < frameNo then
    match cumulativeFpf[(frameNo - 1).toNat]? with
    | some before => .ok (before + fragments)
    | none => .error (.undefinedBehaviour "cumulative_fpf[ frame_no - 1 ]")
  else
    .ok fragments

def frameHeader (sender : Sender η) (job : EncodeJob η)
    (ended : EncodeOutputs η) (output : EncodeOutput η) : FrameHeader where
  connectionId := sender.connectionId
  sourceState := minihash job.encoder
  targetState := minihash output.encoder
  frameNo := sender.frameNo
  timeSinceLast := ended.timeSinceLast
  framePushTimestamp := ended.framePushTimestamp
  rttAverage := ended.rttAverage
  throughput := ended.throughput
  clock := ended.clock

/-- The frame that is queued for sending, and what is noted of it. -/
def sendOutput (sender : Sender η) (job : EncodeJob η)
    (ended : EncodeOutputs η) (output : EncodeOutput η) :
    Except Failure (Sender η × FragmentedFrame) := do
  let frame ← FragmentedFrame.outgoing
    (frameHeader minihash sender job ended output) output.frame
  let fragments ← fragmentsUpTo sender.cumulativeFpf sender.frameNo
    frame.fragmentsInThisFrame.toNat
  let target := minihash output.encoder
  return ({ sender with
    encodeJobs := none
    cumulativeFpf := sender.cumulativeFpf ++ [fragments]
    receiverAssumedState := some target
    encoders := sender.encoders.insert target output.encoder
    encoderStates := sender.encoderStates ++ [target]
    skippedCount := 0
    frameNo := sender.frameNo + 1 }, frame)

/-- The handler of the end of the jobs, and the frame it queues for sending, if
any. -/
def encodeEnd (sender : Sender η) (ended : EncodeOutputs η) :
    Except Failure (Sender η × Option FragmentedFrame) :=
  match sender.encodeJobs with
  | none => .ok (sender, none)
  | some job =>
      if ended.outputs = [] then
        .ok ({ sender with encodeJobs := none }, none)
      else do
        match ← sender.pickOutput ended.outputs with
        | none =>
            return ({ sender with
              encodeJobs := none
              skippedCount := sender.skippedCount + 1 }, none)
        | some output =>
            let (next, frame) ← sendOutput minihash sender job ended output
            return (next, some frame)

def ackSeqNo (ack : AckPacket) (cumulativeFpf : List Nat) :
    Except Failure Nat :=
  fragmentsUpTo cumulativeFpf ack.frameNo ack.fragmentNo.toNat

def handleAck (sender : Sender η) (ack : AckPacket) :
    Except Failure (Sender η) :=
  if ack.connectionId ≠ sender.connectionId then
    .ok sender
  else do
    let sequence ← ackSeqNo ack sender.cumulativeFpf
    if sender.lastAcked.any (sequence < ·) then
      .ok sender
    else
      .ok { sender with
        lastAcked := some sequence
        avgDelay := ack.avgDelay
        receiverLastAckedState := some ack.currentState
        receiverCompleteStates := ack.completeStates }

def handle (sender : Sender η) :
    SenderEvent η → Except Failure (Sender η × Option FragmentedFrame)
  | .encodeStart now later =>
      (sender.encodeStart now later).map fun next => (next, none)
  | .encodeEnd ended => encodeEnd minihash sender ended
  | .ack packet => (sender.handleAck packet).map fun next => (next, none)

def step (sender : Sender η) (event : SenderEvent η) :
    Except Failure (Sender η) :=
  (handle minihash sender event).map Prod.fst

def run (sender : Sender η) (events : List (SenderEvent η)) :
    Except Failure (Sender η) :=
  events.foldlM (step minihash) sender

end Sender

end Salsify.Session
