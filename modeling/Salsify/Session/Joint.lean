import Salsify.Net.SentFrame
import Salsify.Session.ReceiverStore
import Salsify.Session.SenderStore

namespace Salsify.Session

open Salsify.Net

/-! One sender and one receiver over a network that keeps every packet and every
acknowledgement it was ever given, so that each may be lost, overtaken or
delivered again. -/

/-- The codec on both sides, which start from the same state. -/
structure Parties (η δ ε : Type) where
  operationMode : OperationMode
  connectionId : UInt16
  minihash : η → UInt32
  codec : Codec δ ε
  baseEncoder : η
  player : δ
  initial : codec.minihash player = minihash baseEncoder

/-- A frame the sender gave to the network, and how its source was chosen. -/
structure Dispatch where
  frame : FragmentedFrame
  conservative : Bool

/-- A frame that the receiver completed, and whether it saved the frame's target
state then. -/
structure Completion where
  sourceState : UInt32
  targetState : UInt32
  saved : Bool

/-- `receiver` is `none` once its handler has ended in an exception. -/
structure Joint (η δ : Type) where
  sender : Sender η
  receiver : Option (Receiver δ)
  sent : List Dispatch
  acks : List AckPacket
  completions : List Completion

inductive JointEvent (η : Type)
  | encodeStart (now later : Nat)
  | encodeEnd (ended : EncodeOutputs η)
  | packet (frame index : Nat)
      (timestamp avgDelay ackDelay frameOneWayDelay : UInt32)
  | ack (number : Nat)

namespace Receiver

variable {δ ε : Type} (codec : Codec δ ε)

def completedFrame (receiver : Receiver δ) (packet : Packet) :
    Option FragmentedFrame :=
  if packet.frameNo.toNat < receiver.nextFrameNo then
    none
  else
    match takeIn codec receiver packet with
    | .ok taken => taken.readyFrame
    | .error _ => none

end Receiver

namespace Joint

variable {η δ ε : Type} (parties : Parties η δ ε)

def start (now : Nat) : Joint η δ where
  sender := Sender.start parties.minihash parties.operationMode
    parties.connectionId parties.baseEncoder now
  receiver := some (Receiver.start parties.codec parties.player)
  sent := []
  acks := []
  completions := []

/-- A fragment that was sent at some time, as the receiver parses it. -/
def packetAt (joint : Joint η δ) (frame index : Nat) (timestamp : UInt32) :
    Option Packet := do
  let dispatch ← joint.sent[frame]?
  let packet ← dispatch.frame.fragments[index]?
  (packet.setPacketSendTimestamp timestamp).transmit.toOption

def encodeEnd (joint : Joint η δ) (ended : EncodeOutputs η) :
    Except Failure (Joint η δ) := do
  let (sender, sent) ← Sender.encodeEnd parties.minihash joint.sender ended
  return { joint with
    sender := sender
    sent := joint.sent ++ sent.toList.map fun frame =>
      ⟨frame, joint.sender.encodeJobs.any EncodeJob.conservative⟩ }

def completion (fragment : FragmentedFrame) (after : Receiver δ) :
    Completion where
  sourceState := fragment.sourceState
  targetState := fragment.targetState
  saved := after.currentState == fragment.targetState &&
    after.currentState != after.initialState

def receive (joint : Joint η δ) (receiver : Receiver δ) (arrival : Arrival) :
    Joint η δ :=
  match Receiver.handlePacket parties.codec receiver arrival with
  | .error _ => { joint with receiver := none }
  | .ok (after, ack) =>
      { joint with
        receiver := some after
        acks := joint.acks ++ ack.toList
        completions := joint.completions ++
          (receiver.completedFrame parties.codec arrival.packet).toList.map
            (completion · after) }

/-- One turn of either party.  A failure is one of the sender. -/
def step (joint : Joint η δ) :
    JointEvent η → Except Failure (Joint η δ)
  | .encodeStart now later => do
      let sender ← joint.sender.encodeStart now later
      return { joint with sender := sender }
  | .encodeEnd ended => encodeEnd parties joint ended
  | .packet frame index timestamp avgDelay ackDelay frameOneWayDelay =>
      match joint.receiver, joint.packetAt frame index timestamp with
      | some receiver, some packet =>
          .ok (receive parties joint receiver
            ⟨packet, avgDelay, ackDelay, frameOneWayDelay⟩)
      | _, _ => .ok joint
  | .ack number =>
      match joint.acks[number]? with
      | some packet => do
          let sender ← joint.sender.handleAck packet
          return { joint with sender := sender }
      | none => .ok joint

def run (joint : Joint η δ) (events : List (JointEvent η)) :
    Except Failure (Joint η δ) :=
  events.foldlM (step parties) joint

variable {parties : Parties η δ ε}

def InFlight (joint : Joint η δ) (packet : Packet) : Prop :=
  ∃ frame index timestamp, joint.packetAt frame index timestamp = some packet

theorem encodeEnd_cases {joint next : Joint η δ} {ended : EncodeOutputs η}
    (h : encodeEnd parties joint ended = .ok next) :
    ∃ sender sent,
      Sender.encodeEnd parties.minihash joint.sender ended =
        .ok (sender, sent) ∧
      next = { joint with
        sender := sender
        sent := joint.sent ++ sent.toList.map fun frame =>
          ⟨frame, joint.sender.encodeJobs.any EncodeJob.conservative⟩ } := by
  obtain ⟨⟨sender, sent⟩, hend, h⟩ := Fallible.bind_eq_ok h
  cases h
  exact ⟨sender, sent, hend, rfl⟩

theorem receive_cases (joint : Joint η δ) (receiver : Receiver δ)
    (arrival : Arrival) :
    receive parties joint receiver arrival =
        { joint with receiver := none } ∨
      ∃ after ack,
        Receiver.handlePacket parties.codec receiver arrival =
          .ok (after, ack) ∧
        receive parties joint receiver arrival = { joint with
          receiver := some after
          acks := joint.acks ++ ack.toList
          completions := joint.completions ++
            (receiver.completedFrame parties.codec arrival.packet).toList.map
              (completion · after) } := by
  cases hhandled : Receiver.handlePacket parties.codec receiver arrival with
  | error error =>
      left
      simp only [receive, hhandled]
  | ok result =>
      obtain ⟨after, ack⟩ := result
      right
      refine ⟨after, ack, rfl, ?_⟩
      simp only [receive, hhandled]

theorem step_cases {joint next : Joint η δ} {event : JointEvent η}
    (h : step parties joint event = .ok next) :
    next = joint ∨
    (∃ now later sender, joint.sender.encodeStart now later = .ok sender ∧
      next = { joint with sender := sender }) ∨
    (∃ ended, encodeEnd parties joint ended = .ok next) ∨
    (∃ receiver arrival, joint.receiver = some receiver ∧
      joint.InFlight arrival.packet ∧
      next = receive parties joint receiver arrival) ∨
    ∃ ack sender, ack ∈ joint.acks ∧
      joint.sender.handleAck ack = .ok sender ∧
      next = { joint with sender := sender } := by
  cases event with
  | encodeStart now later =>
      obtain ⟨sender, hstart, h⟩ := Fallible.bind_eq_ok h
      cases h
      exact Or.inr (Or.inl ⟨now, later, sender, hstart, rfl⟩)
  | encodeEnd ended => exact Or.inr (Or.inr (Or.inl ⟨ended, h⟩))
  | packet frame index timestamp avgDelay ackDelay frameOneWayDelay =>
      cases hreceiver : joint.receiver with
      | none =>
          simp only [step, hreceiver] at h
          cases h
          exact Or.inl rfl
      | some receiver =>
          cases hpacket : joint.packetAt frame index timestamp with
          | none =>
              simp only [step, hreceiver, hpacket] at h
              cases h
              exact Or.inl rfl
          | some packet =>
              simp only [step, hreceiver, hpacket] at h
              cases h
              exact Or.inr (Or.inr (Or.inr (Or.inl ⟨receiver, _, rfl,
                ⟨frame, index, timestamp, hpacket⟩, rfl⟩)))
  | ack number =>
      cases hack : joint.acks[number]? with
      | none =>
          simp only [step, hack] at h
          cases h
          exact Or.inl rfl
      | some packet =>
          simp only [step, hack] at h
          obtain ⟨sender, hhandled, h⟩ := Fallible.bind_eq_ok h
          cases h
          exact Or.inr (Or.inr (Or.inr (Or.inr
            ⟨packet, sender, List.mem_of_getElem? hack, hhandled, rfl⟩)))

/-- Every frame that was sent is one that the fragments of a whole frame make
up. -/
def Cut (joint : Joint η δ) : Prop :=
  ∀ dispatch ∈ joint.sent, ∃ sent : SentFrame, dispatch.frame = sent.fragmented

theorem packetAt_cases {joint : Joint η δ} {number index : Nat}
    {timestamp : UInt32} {packet : Packet} (hcut : joint.Cut)
    (h : joint.packetAt number index timestamp = some packet) :
    ∃ dispatch whole, joint.sent[number]? = some dispatch ∧
      dispatch.frame = SentFrame.fragmented whole ∧ index < whole.count ∧
      packet = whole.packet index timestamp := by
  rw [packetAt, Option.bind_eq_bind, Option.bind_eq_some_iff] at h
  obtain ⟨dispatch, hdispatch, h⟩ := h
  rw [Option.bind_eq_bind, Option.bind_eq_some_iff] at h
  obtain ⟨fragment, hfragment, h⟩ := h
  obtain ⟨whole, hwhole⟩ := hcut dispatch (List.mem_of_getElem? hdispatch)
  rw [hwhole] at hfragment
  obtain ⟨hindex, htransmit⟩ := whole.transmit_fragmented timestamp hfragment
  rw [htransmit] at h
  cases h
  exact ⟨dispatch, whole, hdispatch, hwhole, hindex, rfl⟩

theorem Cut.packet {joint : Joint η δ} {packet : Packet} (hcut : joint.Cut)
    (h : joint.InFlight packet) :
    ∃ dispatch sent index timestamp, dispatch ∈ joint.sent ∧
      dispatch.frame = SentFrame.fragmented sent ∧ index < sent.count ∧
      packet = sent.packet index timestamp := by
  obtain ⟨number, index, timestamp, hpacket⟩ := h
  obtain ⟨dispatch, whole, hdispatch, hframe, hindex, hwhole⟩ :=
    packetAt_cases hcut hpacket
  exact ⟨dispatch, whole, index, timestamp, List.mem_of_getElem? hdispatch,
    hframe, hindex, hwhole⟩

theorem encodeEnd_cut {joint next : Joint η δ} {ended : EncodeOutputs η}
    (hcut : joint.Cut) (h : encodeEnd parties joint ended = .ok next) :
    next.Cut := by
  obtain ⟨sender, sent, hend, rfl⟩ := encodeEnd_cases h
  intro dispatch hdispatch
  rcases List.mem_append.mp hdispatch with hold | hnew
  · exact hcut dispatch hold
  · obtain ⟨frame, hframe, rfl⟩ := List.mem_map.mp hnew
    rcases Sender.encodeEnd_cases hend with
      ⟨rfl, -⟩ | ⟨job, picked, made, _, _, _, hmade, _, rfl, _⟩
    · cases hframe
    · obtain ⟨whole, _, _, hwhole⟩ := SentFrame.outgoing_eq_ok hmade
      rw [Option.toList_some, List.mem_singleton] at hframe
      exact ⟨whole, hframe.trans hwhole⟩

theorem receive_sent (joint : Joint η δ) (receiver : Receiver δ)
    (arrival : Arrival) :
    (receive parties joint receiver arrival).sent = joint.sent ∧
      (receive parties joint receiver arrival).sender = joint.sender := by
  rcases @receive_cases _ _ _ parties joint receiver arrival with
    h | ⟨after, ack, _, h⟩
  · rw [h]
    exact ⟨rfl, rfl⟩
  · rw [h]
    exact ⟨rfl, rfl⟩

end Joint

end Salsify.Session
