import Mathlib.Algebra.Order.BigOperators.Group.List
import Mathlib.Algebra.Order.Group.Nat
import Salsify.Net.SentFrame
import Salsify.Session.SenderStore

namespace Salsify.Session

open Salsify.Net
open Fallible

/-! How many packets the sender takes to be in flight when it measures what is
left for a frame. -/

namespace Sender

variable {η : Type}

def accepts (sender : Sender η) (ack : AckPacket) : Except Failure Bool :=
  if ack.connectionId ≠ sender.connectionId then
    .ok false
  else do
    let sequence ← ackSeqNo ack sender.cumulativeFpf
    return !sender.lastAcked.any (sequence < ·)

theorem accepts_of_handleAck {sender next : Sender η} {ack : AckPacket}
    (h : sender.handleAck ack = .ok next) :
    (sender.accepts ack = .ok false ∧ next = sender) ∨
      ∃ sequence,
        sender.accepts ack = .ok true ∧
        ackSeqNo ack sender.cumulativeFpf = .ok sequence ∧
        sender.lastAcked.any (sequence < ·) = false ∧
        next = { sender with
          lastAcked := some sequence
          avgDelay := ack.avgDelay
          receiverLastAckedState := some ack.currentState
          receiverCompleteStates := ack.completeStates } := by
  unfold handleAck at h
  unfold accepts
  split at h
  · next hforeign =>
      cases h
      rw [if_pos hforeign]
      exact .inl ⟨rfl, rfl⟩
  · next hours =>
      obtain ⟨sequence, hsequence, h⟩ := bind_eq_ok h
      rw [if_neg hours, hsequence, ok_bind]
      split at h
      · next holder =>
          cases h
          rw [holder]
          exact .inl ⟨rfl, rfl⟩
      · next hnewer =>
          cases h
          have hfalse := eq_false_of_ne_true hnewer
          rw [hfalse]
          exact .inr ⟨sequence, rfl, rfl, hfalse, rfl⟩

end Sender

/-- At the end of the jobs `target_size` is called, with this `last_sent`. -/
structure Sender.Measures {η : Type} (sender : Sender η)
    (ended : EncodeOutputs η) (lastSent : Nat) : Prop where
  jobs : sender.encodeJobs.isSome
  outputs : ended.outputs ≠ []
  avgDelay : sender.avgDelay ≠ 0xffffffff
  lastSent : sender.cumulativeFpf.getLast? = some lastSent

theorem Sender.Measures.frameSize {η : Type} {sender : Sender η}
    {ended : EncodeOutputs η} {lastSent : Nat}
    (h : sender.Measures ended lastSent) :
    sender.frameSize =
      .ok (targetSize sender.avgDelay sender.lastAcked lastSent) := by
  rw [Sender.frameSize, if_pos h.avgDelay, h.lastSent]

/-- A sender, the packets that it has sent, in this order, and which of them
the newest accepted acknowledgement is for. -/
structure Flight (η : Type) where
  sender : Sender η
  sent : List Packet := []
  newest : Option Nat := none

/-- An acknowledgement is for the packet at a position in the order of
sending. -/
inductive FlightEvent (η : Type)
  | encodeStart (now later : Nat)
  | encodeEnd (ended : EncodeOutputs η)
  | ack (position : Nat) (reply : AckPacket)

def answer (reply : AckPacket) (packet : Packet) : AckPacket :=
  { reply with
    connectionId := packet.connectionId
    frameNo := packet.frameNo
    fragmentNo := packet.fragmentNo }

namespace Flight

variable {η : Type} (minihash : η → UInt32)

def step (flight : Flight η) : FlightEvent η → Except Failure (Flight η)
  | .encodeStart now later => do
      let sender ← flight.sender.encodeStart now later
      return { flight with sender := sender }
  | .encodeEnd ended => do
      let (sender, frame) ← Sender.encodeEnd minihash flight.sender ended
      return { flight with
        sender := sender
        sent := flight.sent ++
          (frame.map FragmentedFrame.fragments).getD [] }
  | .ack position reply =>
      match flight.sent[position]? with
      | none => .ok flight
      | some packet => do
          let accepted ← flight.sender.accepts (answer reply packet)
          let sender ← flight.sender.handleAck (answer reply packet)
          return { flight with
            sender := sender
            newest := if accepted then some position else flight.newest }

def start (operationMode : OperationMode) (connectionId : UInt16)
    (baseEncoder : η) (now : Nat) : Flight η where
  sender := Sender.start minihash operationMode connectionId baseEncoder now

def after (flight : Flight η) : Nat :=
  match flight.newest with
  | none => flight.sent.length
  | some position => flight.sent.length - (position + 1)

/-- `last_acked` is left at the position of the newest acknowledged packet and
not below what it was, and what `target_size` subtracts has been sent after
this packet. -/
structure Accounts (flight : Flight η) (event : FlightEvent η) : Prop where
  position : ∀ next, step minihash flight event = .ok next →
    next.sender.lastAcked = next.newest
  grows : ∀ next acked, step minihash flight event = .ok next →
    flight.sender.lastAcked = some acked →
      ∃ later, next.sender.lastAcked = some later ∧ acked ≤ later
  inFlight : ∀ ended lastSent, event = .encodeEnd ended →
    flight.sender.Measures ended lastSent →
      Sender.inFlight flight.sender.lastAcked lastSent = flight.after

/-- Nothing is measured, and no acknowledgement is accepted that is for a
packet behind the frames that `frame_no` can count. Only where the numbers have
fallen back by 2^64 + 1 packets, and below the newest acknowledged one, does a
measurement come out right. -/
def Spared (flight : Flight η) : FlightEvent η → Prop
  | .encodeStart _ _ => True
  | .encodeEnd ended => ∀ lastSent, flight.sender.Measures ended lastSent →
      flight.sent.length = lastSent + (2 ^ 64 + 1) ∧
        ∃ position, flight.newest = some position ∧ lastSent < position
  | .ack position reply => ∀ packet bound,
      flight.sent[position]? = some packet →
      flight.sender.accepts (answer reply packet) = .ok true →
      flight.sender.cumulativeFpf[2 ^ 32 - 1]? = some bound → position < bound

variable {minihash}

/-! What one event does. -/

structure SameAccount (one other : Sender η) : Prop where
  frameNo : other.frameNo = one.frameNo
  cumulativeFpf : other.cumulativeFpf = one.cumulativeFpf
  lastAcked : other.lastAcked = one.lastAcked

theorem cleanUp_account {sender cleaned : Sender η}
    (h : sender.cleanUp = .ok cleaned) : SameAccount sender cleaned := by
  unfold Sender.cleanUp at h
  split at h
  · cases h
    exact ⟨rfl, rfl, rfl⟩
  · split at h
    · obtain ⟨⟨states, encoders⟩, -, h⟩ := bind_eq_ok h
      cases h
      exact ⟨rfl, rfl, rfl⟩
    · cases h
      exact ⟨rfl, rfl, rfl⟩

theorem encodeStart_account {sender next : Sender η} {now later : Nat}
    (h : sender.encodeStart now later = .ok next) :
    SameAccount sender next := by
  rcases Sender.encodeStart_cases h with ⟨-, rfl⟩ |
    ⟨cleaned, selection, encoder, -, hclean, -, -, rfl⟩
  · exact ⟨rfl, rfl, rfl⟩
  · have hsame := cleanUp_account hclean
    exact ⟨hsame.frameNo, hsame.cumulativeFpf, hsame.lastAcked⟩

theorem encodeEnd_account {sender next : Sender η} {ended : EncodeOutputs η}
    (h : Sender.encodeEnd minihash sender ended = .ok (next, none)) :
    SameAccount sender next := by
  rcases Sender.encodeEnd_cases h with ⟨-, rfl | ⟨skipped, rfl⟩⟩ |
    ⟨job, picked, frame, fragments, -, -, -, -, hsent, -⟩
  · exact ⟨rfl, rfl, rfl⟩
  · exact ⟨rfl, rfl, rfl⟩
  · cases hsent

theorem step_cases {flight next : Flight η} {event : FlightEvent η}
    (h : step minihash flight event = .ok next) :
    (SameAccount flight.sender next.sender ∧ next.sent = flight.sent ∧
      next.newest = flight.newest) ∨
    (∃ ended sender frame, event = .encodeEnd ended ∧
      Sender.encodeEnd minihash flight.sender ended =
        .ok (sender, some frame) ∧
      next = { flight with
        sender := sender
        sent := flight.sent ++ frame.fragments }) ∨
    ∃ position reply packet sequence, event = .ack position reply ∧
      flight.sent[position]? = some packet ∧
      flight.sender.accepts (answer reply packet) = .ok true ∧
      Sender.ackSeqNo (answer reply packet) flight.sender.cumulativeFpf =
        .ok sequence ∧
      flight.sender.lastAcked.any (sequence < ·) = false ∧
      next = { flight with
        sender := { flight.sender with
          lastAcked := some sequence
          avgDelay := reply.avgDelay
          receiverLastAckedState := some reply.currentState
          receiverCompleteStates := reply.completeStates }
        newest := some position } := by
  cases event with
  | encodeStart now later =>
      obtain ⟨sender, hsender, h⟩ := bind_eq_ok h
      cases h
      exact .inl ⟨encodeStart_account hsender, rfl, rfl⟩
  | encodeEnd ended =>
      obtain ⟨⟨sender, frame⟩, hframe, h⟩ := bind_eq_ok h
      cases h
      cases frame with
      | none =>
          exact .inl ⟨encodeEnd_account hframe, List.append_nil _, rfl⟩
      | some frame =>
          exact .inr (.inl ⟨ended, sender, frame, rfl, hframe, rfl⟩)
  | ack position reply =>
      unfold step at h
      cases hpacket : flight.sent[position]? with
      | none =>
          simp only [hpacket] at h
          cases h
          exact .inl ⟨⟨rfl, rfl, rfl⟩, rfl, rfl⟩
      | some packet =>
          simp only [hpacket] at h
          obtain ⟨accepted, haccepted, h⟩ := bind_eq_ok h
          obtain ⟨sender, hsender, h⟩ := bind_eq_ok h
          cases h
          rcases Sender.accepts_of_handleAck hsender with ⟨hno, rfl⟩ |
            ⟨sequence, hyes, hsequence, hnewer, rfl⟩
          · cases haccepted.symm.trans hno
            exact .inl ⟨⟨rfl, rfl, rfl⟩, rfl, rfl⟩
          · cases haccepted.symm.trans hyes
            exact .inr (.inr ⟨position, reply, packet, sequence, rfl, hpacket,
              hyes, hsequence, hnewer, rfl⟩)

theorem lastAcked_grows {flight next : Flight η} {event : FlightEvent η}
    (hstep : step minihash flight event = .ok next) {acked : Nat}
    (hacked : flight.sender.lastAcked = some acked) :
    ∃ later, next.sender.lastAcked = some later ∧ acked ≤ later := by
  rcases step_cases hstep with ⟨hsame, -, -⟩ |
    ⟨ended, sender, frame, -, hend, rfl⟩ |
    ⟨position, reply, packet, sequence, -, -, -, -, hnewer, rfl⟩
  · exact ⟨acked, hsame.lastAcked.trans hacked, Nat.le_refl _⟩
  · rcases Sender.encodeEnd_cases hend with ⟨hnone, -⟩ |
      ⟨job, picked, found, fragments, -, -, -, -, -, rfl⟩
    · cases hnone
    · exact ⟨acked, hacked, Nat.le_refl _⟩
  · rw [hacked, Option.any_some, decide_eq_false_iff_not] at hnewer
    exact ⟨sequence, rfl, Nat.le_of_not_lt hnewer⟩

/-! The frames by the numbers of their packets. -/

def before (sizes : List Nat) (frame : Nat) : Nat := (sizes.take frame).sum

theorem before_succ {sizes : List Nat} {frame size : Nat}
    (h : sizes[frame]? = some size) :
    before sizes (frame + 1) = before sizes frame + size := by
  rw [before, List.take_add_one, h, List.sum_append]
  rfl

theorem before_append {sizes : List Nat} {frame : Nat} (size : Nat)
    (h : frame ≤ sizes.length) :
    before (sizes ++ [size]) frame = before sizes frame := by
  rw [before, List.take_append_of_le_length h]
  rfl

theorem before_length (sizes : List Nat) :
    before sizes sizes.length = sizes.sum := by
  rw [before, List.take_length]

theorem before_add_le {sizes : List Nat} (hpos : ∀ size ∈ sizes, 0 < size)
    {frame later : Nat} (h : frame ≤ later) (hlater : later ≤ sizes.length) :
    before sizes frame + (later - frame) ≤ before sizes later := by
  induction later, h using Nat.le_induction with
  | base => rw [Nat.sub_self, Nat.add_zero]
  | succ later h ih =>
      have hsize := List.getElem?_eq_getElem hlater
      have hone := hpos _ (List.getElem_mem hlater)
      have hbefore := ih (Nat.le_of_succ_le hlater)
      rw [before_succ hsize]
      omega

theorem before_le {sizes : List Nat} {bound : Nat}
    (hsmall : ∀ size ∈ sizes, size ≤ bound) (frame : Nat) :
    before sizes frame ≤ frame * bound := by
  have hle := List.sum_le_card_nsmul (sizes.take frame) bound fun size hsize =>
    hsmall size (List.mem_of_mem_take hsize)
  exact hle.trans (Nat.mul_le_mul_right _ (List.length_take_le _ _))

/-- What a run has sent, by frames: numbers wrap, and an entry of
`cumulative_fpf` is made from the one of the frame number before. -/
structure Sized (flight : Flight η) (sizes : List Nat) : Prop where
  positive : ∀ size ∈ sizes, 0 < size
  small : ∀ size ∈ sizes, size ≤ 2 ^ 16 - 1
  frameNo : flight.sender.frameNo = UInt32.ofNat sizes.length
  sent : flight.sent.length = sizes.sum
  length : flight.sender.cumulativeFpf.length = sizes.length
  entry : ∀ (frame : Nat) size, sizes[frame]? = some size →
    flight.sender.cumulativeFpf[frame]? =
      some (before sizes (frame % 2 ^ 32) + size)
  placed : ∀ (position : Nat) packet, flight.sent[position]? = some packet →
    ∃ (frame : Nat) (size : Nat), sizes[frame]? = some size ∧
      packet.frameNo = UInt32.ofNat frame ∧
      packet.fragmentNo.toNat < size ∧
      position = before sizes frame + packet.fragmentNo.toNat

theorem start_sized (operationMode : OperationMode) (connectionId : UInt16)
    (baseEncoder : η) (now : Nat) :
    Sized (start minihash operationMode connectionId baseEncoder now) [] where
  positive _ h := by cases h
  small _ h := by cases h
  frameNo := rfl
  sent := rfl
  length := rfl
  entry _ _ h := by cases h
  placed _ _ h := by cases h

theorem Sized.fragmentsUpTo {flight : Flight η} {sizes : List Nat}
    (h : Sized flight sizes) {frame : Nat} (hframe : frame ≤ sizes.length)
    (fragments : Nat) :
    Sender.fragmentsUpTo flight.sender.cumulativeFpf (UInt32.ofNat frame)
      fragments = .ok (before sizes (frame % 2 ^ 32) + fragments) := by
  have hnumber : (UInt32.ofNat frame).toNat = frame % 2 ^ 32 :=
    UInt32.toNat_ofNat'
  unfold Sender.fragmentsUpTo
  cases hindex : frame % 2 ^ 32 with
  | zero =>
      have hzero : ¬ 0 < UInt32.ofNat frame := by
        rw [UInt32.lt_iff_toNat_lt, hnumber, hindex]
        exact Nat.lt_irrefl 0
      rw [if_neg hzero, before, List.take_zero, List.sum_nil, Nat.zero_add]
  | succ index =>
      have hpos : 0 < UInt32.ofNat frame := by
        rw [UInt32.lt_iff_toNat_lt, hnumber, hindex]
        exact Nat.succ_pos _
      have hone : (1 : UInt32) ≤ UInt32.ofNat frame := by
        rw [UInt32.le_iff_toNat_le, hnumber, hindex]
        exact Nat.succ_pos _
      have hlast : (UInt32.ofNat frame - 1).toNat = index := by
        rw [UInt32.toNat_sub_of_le _ _ hone, hnumber, hindex]
        rfl
      have hlt : index < sizes.length := by
        have hle := Nat.mod_le frame (2 ^ 32)
        omega
      have hsize := List.getElem?_eq_getElem hlt
      have hsmall : index % 2 ^ 32 = index := by omega
      rw [if_pos hpos, hlast, h.entry index _ hsize, hsmall,
        ← before_succ hsize]

theorem sized_frame {flight : Flight η} {sizes : List Nat} {sender : Sender η}
    {ended : EncodeOutputs η} {frame : FragmentedFrame}
    (h : Sized flight sizes)
    (hend : Sender.encodeEnd minihash flight.sender ended =
      .ok (sender, some frame)) :
    ∃ size, Sized { flight with
      sender := sender
      sent := flight.sent ++ frame.fragments } (sizes ++ [size]) ∧
      sender.lastAcked = flight.sender.lastAcked := by
  rcases Sender.encodeEnd_cases hend with ⟨hnone, -⟩ |
    ⟨job, picked, found, fragments, -, -, houtgoing, hfragments, hfound, rfl⟩
  · cases hnone
  cases hfound
  obtain ⟨sentFrame, hheader, -, rfl⟩ := SentFrame.outgoing_eq_ok houtgoing
  have hcount : sentFrame.fragmented.fragments.length = sentFrame.count := by
    rw [SentFrame.fragmented, List.length_map, List.length_range]
  have hfits : sentFrame.count < 2 ^ 16 := sentFrame.fits
  have hpos : 0 < sentFrame.count :=
    FragmentedFrame.fragmentCount_pos sentFrame.nonempty
  have hnumber : sentFrame.fragmented.fragmentsInThisFrame.toNat =
      sentFrame.count := UInt16.toNat_ofNat_of_lt hfits
  rw [h.frameNo, hnumber, h.fragmentsUpTo (Nat.le_refl _)] at hfragments
  obtain rfl := Except.ok.inj hfragments
  have hmem : ∀ size ∈ sizes ++ [sentFrame.count],
      size ∈ sizes ∨ size = sentFrame.count := by
    intro size hsize
    exact (List.mem_append.mp hsize).imp_right List.mem_singleton.mp
  refine ⟨sentFrame.count, ⟨fun size hsize => ?_, fun size hsize => ?_, ?_, ?_,
    ?_, ?_, ?_⟩, rfl⟩
  · rcases hmem size hsize with hold | rfl
    · exact h.positive size hold
    · exact hpos
  · rcases hmem size hsize with hold | rfl
    · exact h.small size hold
    · omega
  · change flight.sender.frameNo + 1 = UInt32.ofNat (_ ++ [_]).length
    rw [h.frameNo, List.length_append]
    exact (UInt32.ofNat_add _ _).symm
  · rw [List.length_append, hcount, h.sent, List.sum_append]
    rfl
  · change (flight.sender.cumulativeFpf ++ [_]).length = _
    rw [List.length_append, List.length_append, h.length]
    rfl
  · intro frame size hsize
    change (flight.sender.cumulativeFpf ++ [_])[frame]? = _
    rcases Nat.lt_or_ge frame sizes.length with hold | hnew
    · rw [List.getElem?_append_left hold] at hsize
      rw [List.getElem?_append_left (by rw [h.length]; exact hold),
        h.entry frame size hsize, before_append _ (by
          have hle := Nat.mod_le frame (2 ^ 32)
          omega)]
    · rw [List.getElem?_append_right hnew] at hsize
      have hzero := (List.getElem?_eq_some_iff.mp hsize).1
      obtain rfl : frame = sizes.length := by
        rw [List.length_singleton] at hzero
        omega
      rw [Nat.sub_self] at hsize
      obtain rfl := Option.some.inj hsize
      rw [before_append _ (Nat.mod_le _ _),
        List.getElem?_append_right h.length.le, h.length, Nat.sub_self]
      rfl
  · intro position packet hpacket
    change (flight.sent ++ sentFrame.fragmented.fragments)[position]? =
      some packet at hpacket
    rcases Nat.lt_or_ge position flight.sent.length with hold | hnew
    · rw [List.getElem?_append_left hold] at hpacket
      obtain ⟨frame, size, hsize, hframe, hfragment, hposition⟩ :=
        h.placed position packet hpacket
      have hlt := (List.getElem?_eq_some_iff.mp hsize).1
      exact ⟨frame, size, by rw [List.getElem?_append_left hlt]; exact hsize,
        hframe, hfragment, by rw [before_append _ hlt.le]; exact hposition⟩
    · rw [List.getElem?_append_right hnew] at hpacket
      simp only [SentFrame.fragmented, List.getElem?_map,
        Option.map_eq_some_iff] at hpacket
      obtain ⟨number, hrange, rfl⟩ := hpacket
      obtain ⟨hlt, hget⟩ := List.getElem?_eq_some_iff.mp hrange
      rw [List.length_range] at hlt
      rw [List.getElem_range] at hget
      subst hget
      have hfragment : (FragmentedFrame.fragment sentFrame.header
          sentFrame.wholeFrame
          (position - flight.sent.length)).fragmentNo.toNat =
            position - flight.sent.length :=
        FragmentedFrame.fragment_fragmentNo hlt hfits
      refine ⟨sizes.length, sentFrame.count, by simp, ?_, ?_, ?_⟩
      · rw [← h.frameNo]
        exact congrArg FrameHeader.frameNo hheader
      · rw [hfragment]
        exact hlt
      · rw [hfragment, before_append _ (Nat.le_refl _), before_length, ← h.sent,
          Nat.add_sub_cancel' hnew]

theorem Sized.number_lt {flight : Flight η} {sizes : List Nat}
    (h : Sized flight sizes) (frame : Nat) {fragments : Nat}
    (hfragments : fragments < 2 ^ 16) :
    before sizes (frame % 2 ^ 32) + fragments < 2 ^ 49 := by
  have hmod := Nat.mod_lt frame (show 0 < 2 ^ 32 by decide)
  have hle := before_le h.small (frame % 2 ^ 32)
  omega

/-- What every run keeps: the newest acknowledged packet is one that was
sent. -/
structure Counted (flight : Flight η) (sizes : List Nat) : Prop
    extends Sized flight sizes where
  newest_lt : ∀ position, flight.newest = some position →
    position < flight.sent.length
  acked_lt : ∀ acked, flight.sender.lastAcked = some acked → acked < 2 ^ 49

theorem start_counted (operationMode : OperationMode) (connectionId : UInt16)
    (baseEncoder : η) (now : Nat) :
    Counted (start minihash operationMode connectionId baseEncoder now) [] where
  toSized := start_sized operationMode connectionId baseEncoder now
  newest_lt _ h := by cases h
  acked_lt _ h := by cases h

theorem counted_step {flight next : Flight η} {event : FlightEvent η}
    {sizes : List Nat} (h : Counted flight sizes)
    (hstep : step minihash flight event = .ok next) :
    ∃ more, Counted next (sizes ++ more) := by
  rcases step_cases hstep with ⟨hsame, hsent, hnewest⟩ |
    ⟨ended, sender, frame, -, hend, rfl⟩ |
    ⟨position, reply, packet, sequence, -, hpacket, -, hsequence, -, rfl⟩
  · refine ⟨[], ?_⟩
    rw [List.append_nil]
    exact {
      positive := h.positive
      small := h.small
      frameNo := hsame.frameNo.trans h.frameNo
      sent := by rw [hsent, h.sent]
      length := by rw [hsame.cumulativeFpf, h.length]
      entry := by rw [hsame.cumulativeFpf]; exact h.entry
      placed := by rw [hsent]; exact h.placed
      newest_lt := by rw [hnewest, hsent]; exact h.newest_lt
      acked_lt := by rw [hsame.lastAcked]; exact h.acked_lt }
  · obtain ⟨size, hsized, hsame⟩ := sized_frame h.toSized hend
    refine ⟨[size], hsized, fun position hposition => ?_, ?_⟩
    · have hlt := h.newest_lt position hposition
      change position < (flight.sent ++ _).length
      rw [List.length_append]
      exact Nat.lt_add_right _ hlt
    · rw [hsame]
      exact h.acked_lt
  · refine ⟨[], ?_⟩
    rw [List.append_nil]
    refine ⟨⟨h.positive, h.small, h.frameNo, h.sent, h.length, h.entry,
      h.placed⟩, ?_, ?_⟩
    · rintro _ ⟨⟩
      exact (List.getElem?_eq_some_iff.mp hpacket).1
    · rintro _ ⟨⟩
      obtain ⟨frame, size, hsize, hframe, -, -⟩ := h.placed _ _ hpacket
      have hlt := (List.getElem?_eq_some_iff.mp hsize).1
      change Sender.fragmentsUpTo _ packet.frameNo _ = _ at hsequence
      rw [hframe, h.fragmentsUpTo hlt.le] at hsequence
      cases hsequence
      exact h.number_lt frame packet.fragmentNo.toNat_lt

theorem counted_run {operationMode : OperationMode} {connectionId : UInt16}
    {baseEncoder : η} {now : Nat} {events : List (FlightEvent η)}
    {flight : Flight η}
    (hrun : events.foldlM (step minihash)
      (start minihash operationMode connectionId baseEncoder now) =
        .ok flight) :
    ∃ sizes, Counted flight sizes := by
  refine foldlM_invariant (fun flight => ∃ sizes, Counted flight sizes) ?_
    ⟨[], start_counted operationMode connectionId baseEncoder now⟩ hrun
  rintro before next event - ⟨sizes, h⟩ hstep
  obtain ⟨more, hmore⟩ := counted_step h hstep
  exact ⟨_, hmore⟩

/-- An acknowledgement has the position of its packet in the frames that
`frame_no` can count, and never behind them. -/
theorem Sized.ackSeqNo {flight : Flight η} {sizes : List Nat}
    (h : Sized flight sizes) {position : Nat} {packet : Packet}
    (hpacket : flight.sent[position]? = some packet) (reply : AckPacket)
    {sequence : Nat}
    (hsequence : Sender.ackSeqNo (answer reply packet)
      flight.sender.cumulativeFpf = .ok sequence) :
    sequence = position ↔ ∀ bound,
      flight.sender.cumulativeFpf[2 ^ 32 - 1]? = some bound →
        position < bound := by
  obtain ⟨frame, size, hsize, hframe, hfragment, rfl⟩ :=
    h.placed position packet hpacket
  have hlt := (List.getElem?_eq_some_iff.mp hsize).1
  change Sender.fragmentsUpTo _ packet.frameNo _ = _ at hsequence
  rw [hframe, h.fragmentsUpTo hlt.le] at hsequence
  obtain rfl := Except.ok.inj hsequence
  have hentry : 2 ^ 32 - 1 < sizes.length →
      flight.sender.cumulativeFpf[2 ^ 32 - 1]? = some (before sizes (2 ^ 32)) :=
    fun hlast => by
      have hsize := List.getElem?_eq_getElem hlast
      rw [h.entry _ _ hsize, Nat.mod_eq_of_lt (by decide), ← before_succ hsize,
        Nat.sub_add_cancel (by decide)]
  change before sizes (frame % 2 ^ 32) + packet.fragmentNo.toNat = _ ↔ _
  rw [Nat.add_right_cancel_iff]
  rcases Nat.lt_or_ge frame (2 ^ 32) with hfirst | hwrapped
  · refine iff_of_true (by rw [Nat.mod_eq_of_lt hfirst]) fun bound hbound => ?_
    have hlast : 2 ^ 32 - 1 < sizes.length := by
      rw [← h.length]
      exact (List.getElem?_eq_some_iff.mp hbound).1
    obtain rfl := Option.some.inj ((hentry hlast).symm.trans hbound)
    have hnext := before_succ hsize
    have hmono : before sizes (frame + 1) + _ ≤ _ :=
      before_add_le h.positive hfirst (by omega)
    omega
  · have hmod := Nat.mod_lt frame (show 0 < 2 ^ 32 by decide)
    have hmono := before_add_le h.positive (Nat.mod_le frame (2 ^ 32)) hlt.le
    refine iff_of_false (by omega) fun hall => ?_
    have hbound := hall _ (hentry (by omega))
    have hbehind := before_add_le h.positive hwrapped hlt.le
    omega

theorem Sized.lastSent {flight : Flight η} {sizes : List Nat}
    (h : Sized flight sizes) {lastSent : Nat}
    (hlast : flight.sender.cumulativeFpf.getLast? = some lastSent) :
    ∃ frame size, sizes.length = frame + 1 ∧ size ≤ 2 ^ 16 - 1 ∧
      lastSent = before sizes (frame % 2 ^ 32) + size ∧
      flight.sent.length = before sizes frame + size := by
  have hlength := h.length
  rw [List.getLast?_eq_getElem?] at hlast
  obtain ⟨hlt, -⟩ := List.getElem?_eq_some_iff.mp hlast
  obtain ⟨frame, hframe⟩ := Nat.exists_eq_add_one_of_ne_zero
    (show sizes.length ≠ 0 by omega)
  obtain ⟨size, hsize⟩ : ∃ size, sizes[frame]? = some size :=
    ⟨_, List.getElem?_eq_getElem (show frame < sizes.length by omega)⟩
  rw [hlength, hframe, Nat.add_sub_cancel, h.entry frame size hsize] at hlast
  refine ⟨frame, size, hframe, h.small size (List.mem_of_getElem? hsize),
    (Option.some.inj hlast).symm, ?_⟩
  rw [h.sent, ← before_length, hframe, before_succ hsize]

theorem Sized.fallsBack {flight : Flight η} {sizes : List Nat}
    (h : Sized flight sizes) {frame : Nat} (hframe : frame ≤ sizes.length) :
    before sizes (frame % 2 ^ 32) = before sizes frame ∨
      before sizes (frame % 2 ^ 32) + 2 ^ 32 ≤ before sizes frame := by
  have hmono := before_add_le h.positive (Nat.mod_le frame (2 ^ 32)) hframe
  rcases Nat.lt_or_ge frame (2 ^ 32) with hfirst | hwrapped
  · rw [Nat.mod_eq_of_lt hfirst]
    exact .inl rfl
  · right
    omega

/-- What is taken to be in flight is what has been sent after the newest
acknowledged packet only where both differences wrap around. -/
theorem Counted.inFlight_iff {flight : Flight η} {sizes : List Nat}
    (h : Counted flight sizes)
    (hacked : flight.sender.lastAcked = flight.newest) {lastSent : Nat}
    (hlast : flight.sender.cumulativeFpf.getLast? = some lastSent) :
    Sender.inFlight flight.sender.lastAcked lastSent = flight.after ↔
      flight.sent.length = lastSent + (2 ^ 64 + 1) ∧
        ∃ position, flight.newest = some position ∧ lastSent < position := by
  obtain ⟨frame, size, hframe, hsize, rfl, hsent⟩ := h.lastSent hlast
  have hlt := h.number_lt frame (show size < 2 ^ 16 by omega)
  have hgap := h.fallsBack (show frame ≤ sizes.length by omega)
  rw [hacked, Sender.inFlight, after]
  cases hnewest : flight.newest with
  | none =>
      dsimp only
      rw [Option.getD_none]
      refine iff_of_false (by omega) ?_
      rintro ⟨-, _, ⟨⟩, -⟩
  | some position =>
      have hposition := h.newest_lt position hnewest
      have hacked := h.acked_lt position (hacked.trans hnewest)
      dsimp only
      rw [Option.getD_some]
      constructor
      · intro hright
        exact ⟨by omega, position, rfl, by omega⟩
      · rintro ⟨hfar, _, ⟨⟩, hbehind⟩
        omega

/-- In the frames that `frame_no` can count one packet more is taken to be in
flight than has been sent after the newest acknowledged one. -/
theorem Counted.inFlight {flight : Flight η} {sizes : List Nat}
    (h : Counted flight sizes)
    (hacked : flight.sender.lastAcked = flight.newest)
    (hfew : flight.sender.cumulativeFpf.length ≤ 2 ^ 32) {lastSent : Nat}
    (hlast : flight.sender.cumulativeFpf.getLast? = some lastSent) :
    Sender.inFlight flight.sender.lastAcked lastSent = flight.after + 1 := by
  have hlength := h.length
  obtain ⟨frame, size, hframe, hsize, rfl, hsent⟩ := h.lastSent hlast
  have hlt := h.number_lt frame (show size < 2 ^ 16 by omega)
  have hfirst : frame % 2 ^ 32 = frame := Nat.mod_eq_of_lt (by omega)
  rw [hfirst] at hlt
  rw [hfirst, ← hsent, Sender.inFlight, hacked, after]
  cases hnewest : flight.newest with
  | none =>
      dsimp only
      rw [Option.getD_none]
      omega
  | some position =>
      have hlt := h.newest_lt position hnewest
      dsimp only
      rw [Option.getD_some]
      omega

/-! Runs. -/

theorem accounts_iff {flight : Flight η} {sizes : List Nat}
    {event : FlightEvent η} (h : Counted flight sizes)
    (hacked : flight.sender.lastAcked = flight.newest) :
    Spared flight event ↔ Accounts minihash flight event := by
  constructor
  · intro hspared
    refine ⟨fun next hstep => ?_, fun next acked hstep hsome =>
      lastAcked_grows hstep hsome, ?_⟩
    · rcases step_cases hstep with ⟨hsame, -, hnewest⟩ |
        ⟨ended, sender, frame, -, hend, rfl⟩ |
        ⟨position, reply, packet, sequence, rfl, hpacket, haccepted,
          hsequence, -, rfl⟩
      · rw [hsame.lastAcked, hnewest, hacked]
      · obtain ⟨size, -, hsame⟩ := sized_frame h.toSized hend
        exact hsame.trans hacked
      · exact congrArg some ((h.ackSeqNo hpacket reply hsequence).mpr
          fun bound => hspared packet bound hpacket haccepted)
    · rintro ended lastSent rfl hmeasures
      exact (h.inFlight_iff hacked hmeasures.lastSent).mpr
        (hspared lastSent hmeasures)
  · intro haccounts
    cases event with
    | encodeStart now later => trivial
    | encodeEnd ended =>
        intro lastSent hmeasures
        exact (h.inFlight_iff hacked hmeasures.lastSent).mp
          (haccounts.inFlight ended lastSent rfl hmeasures)
    | ack position reply =>
        intro packet bound hpacket haccepted hbound
        obtain ⟨sender, hsender⟩ : ∃ sender,
            flight.sender.handleAck (answer reply packet) = .ok sender := by
          rw [Sender.accepts] at haccepted
          rw [Sender.handleAck]
          split at haccepted
          · cases haccepted
          · next hours =>
              rw [if_neg hours]
              obtain ⟨sequence, hsequence, -⟩ := bind_eq_ok haccepted
              rw [hsequence, ok_bind]
              split
              · exact ⟨_, rfl⟩
              · exact ⟨_, rfl⟩
        have hstep : step minihash flight (.ack position reply) =
            .ok { flight with
              sender := sender
              newest := some position } := by
          simp only [step, hpacket, haccepted, hsender, ok_bind]
          rfl
        have hposition := haccounts.position _ hstep
        rcases Sender.accepts_of_handleAck hsender with ⟨hno, -⟩ |
          ⟨sequence, -, hsequence, -, rfl⟩
        · cases haccepted.symm.trans hno
        · exact (h.ackSeqNo hpacket reply hsequence).mp
            (Option.some.inj hposition) bound hbound

/-- A run keeps its account exactly when it never measures, and accepts nothing
behind the frames that can be counted. -/
theorem accounts_run_iff (operationMode : OperationMode) (connectionId : UInt16)
    (baseEncoder : η) (now : Nat) (events : List (FlightEvent η)) :
    AllSteps (step minihash) (Accounts minihash)
        (start minihash operationMode connectionId baseEncoder now) events ↔
      AllSteps (step minihash) Spared
        (start minihash operationMode connectionId baseEncoder now) events := by
  refine (allSteps_congr (fun flight => (∃ sizes, Counted flight sizes) ∧
    flight.sender.lastAcked = flight.newest) ?_ ?_ ⟨⟨[], start_counted
      operationMode connectionId baseEncoder now⟩, rfl⟩ events).symm
  · rintro flight next event ⟨⟨sizes, h⟩, hacked⟩ hspared hstep
    obtain ⟨more, hmore⟩ := counted_step h hstep
    exact ⟨⟨_, hmore⟩,
      ((accounts_iff h hacked).mp hspared).position next hstep⟩
  · rintro flight event ⟨⟨sizes, h⟩, hacked⟩
    exact accounts_iff h hacked

/-- A frame is sent and acknowledged, and the next one measured. -/
def twoFrames : List (FlightEvent UInt32) :=
  [.encodeStart 1 1, .encodeEnd (Sender.smallOutputs 2 5),
    .ack 0 (Sender.stateAck 7 0 0 2 [2]), .encodeStart 2 2,
    .encodeEnd (Sender.smallOutputs 3 6)]

/-- One packet is taken to be in flight, with none sent after the acknowledged
one. -/
theorem twoFrames_miscounted :
    ¬ AllSteps (step id) (Accounts id) (start id .s2 7 1 0) twoFrames := by
  intro hall
  have hsplit : AllSteps (step id) (Accounts id) (start id .s2 7 1 0)
      ([.encodeStart 1 1, .encodeEnd (Sender.smallOutputs 2 5),
        .ack 0 (Sender.stateAck 7 0 0 2 [2]), .encodeStart 2 2] ++
          .encodeEnd (Sender.smallOutputs 3 6) :: []) := hall
  obtain ⟨middle, hmiddle, hmeasures, hacked, hafter⟩ :
      ∃ middle : Flight UInt32,
        List.foldlM (step id) (start id .s2 7 1 0)
          [.encodeStart 1 1, .encodeEnd (Sender.smallOutputs 2 5),
            .ack 0 (Sender.stateAck 7 0 0 2 [2]), .encodeStart 2 2] =
              .ok middle ∧
        middle.sender.Measures (Sender.smallOutputs 3 6) 1 ∧
        middle.sender.lastAcked = some 0 ∧ middle.after = 0 :=
    ⟨_, rfl, ⟨rfl, by decide, by decide, rfl⟩, rfl, rfl⟩
  have hflight := (hsplit.reached hmiddle).inFlight _ 1 rfl hmeasures
  rw [hacked, hafter] at hflight
  exact absurd hflight (by decide)

omit η minihash in
theorem signed_difference {capacity amount : Nat}
    (hcapacity : capacity ≤ 2 ^ 62) (hamount : amount ≤ 2 ^ 62) :
    ((capacity + 2 ^ 64 - amount : Nat) : Int).bmod (2 ^ 64) =
      (capacity : Int) - amount := by
  have hsplit : ((capacity + 2 ^ 64 - amount : Nat) : Int) =
      (capacity : Int) - amount + (2 ^ 64 : Nat) := by
    omega
  rw [hsplit, Int.add_bmod_right]
  apply Int.bmod_eq_of_le <;> omega

/-- In the frames that can be counted `last_acked` is always right. -/
theorem lastAcked_run {operationMode : OperationMode} {connectionId : UInt16}
    {baseEncoder : η} {now : Nat} {events : List (FlightEvent η)}
    {flight : Flight η}
    (hrun : events.foldlM (step minihash)
      (start minihash operationMode connectionId baseEncoder now) = .ok flight)
    (hfew : flight.sender.cumulativeFpf.length < 2 ^ 32) :
    flight.sender.lastAcked = flight.newest := by
  refine (foldlM_invariant (fun flight => (∃ sizes, Counted flight sizes) ∧
    (flight.sender.cumulativeFpf.length < 2 ^ 32 →
      flight.sender.lastAcked = flight.newest)) ?_ ⟨⟨[], start_counted
        operationMode connectionId baseEncoder now⟩, fun _ => rfl⟩
          hrun).2 hfew
  rintro before next event - ⟨⟨sizes, h⟩, hbefore⟩ hstep
  obtain ⟨more, hmore⟩ := counted_step h hstep
  refine ⟨⟨_, hmore⟩, fun hfew => ?_⟩
  have hgrown : before.sender.cumulativeFpf.length ≤
      next.sender.cumulativeFpf.length := by
    rw [h.length, hmore.length, List.length_append]
    exact Nat.le_add_right _ _
  have hacked := hbefore (hgrown.trans_lt hfew)
  rcases step_cases hstep with ⟨hsame, -, hnewest⟩ |
    ⟨ended, sender, frame, -, hend, rfl⟩ |
    ⟨position, reply, packet, sequence, rfl, hpacket, -, hsequence, -, rfl⟩
  · rw [hsame.lastAcked, hnewest, hacked]
  · obtain ⟨size, -, hsame⟩ := sized_frame h.toSized hend
    exact hsame.trans hacked
  · refine congrArg some ((h.ackSeqNo hpacket reply hsequence).mpr ?_)
    intro bound hbound
    have hlt := (List.getElem?_eq_some_iff.mp hbound).1
    change before.sender.cumulativeFpf.length < 2 ^ 32 at hfew
    omega

/-- The size that is left for a frame is that of the path's capacity, less the
packets in flight and one more. -/
theorem targetSize_run {operationMode : OperationMode} {connectionId : UInt16}
    {baseEncoder : η} {now : Nat} {events : List (FlightEvent η)}
    {flight : Flight η}
    (hrun : events.foldlM (step minihash)
      (start minihash operationMode connectionId baseEncoder now) = .ok flight)
    (hfew : flight.sender.cumulativeFpf.length < 2 ^ 32) {lastSent : Nat}
    (hlast : flight.sender.cumulativeFpf.getLast? = some lastSent)
    (avgDelay : UInt32) :
    (Sender.targetSize avgDelay flight.sender.lastAcked lastSent : Int) =
      1400 * max 0 ((Sender.capacity avgDelay : Int) - (flight.after + 1)) := by
  obtain ⟨sizes, hcounted⟩ := counted_run hrun
  have hacked := lastAcked_run hrun hfew
  have hlength := hcounted.length
  have hle : sizes.sum ≤ sizes.length * (2 ^ 16 - 1) :=
    List.sum_le_card_nsmul sizes _ hcounted.small
  rw [← hcounted.sent] at hle
  have hafter : flight.after ≤ flight.sent.length := by
    unfold after
    split
    · exact Nat.le_refl _
    · exact Nat.sub_le _ _
  have hcapacity : Sender.capacity avgDelay ≤ 100 * 1000 := Nat.div_le_self _ _
  have hsmall : Sender.capacity avgDelay ≤ 2 ^ 62 := by omega
  have hamount : flight.after + 1 ≤ 2 ^ 62 := by omega
  have hsigned := signed_difference hsmall hamount
  have hflight := hcounted.inFlight hacked hfew.le hlast
  unfold Sender.targetSize
  rw [hflight, hsigned, Nat.cast_mul, Int.toNat_of_nonneg (le_max_left _ _)]
  rfl

end Flight

end Salsify.Session
