import Salsify.Session.InStep
import Salsify.Session.ReceiverTotality

namespace Salsify.Net

/-! What has arrived of the frame that is waited for, in a calm run. -/

def FragmentedFrame.Has (frame : FragmentedFrame) (index : Nat) : Prop :=
  ∃ packet, frame.fragments[index]? = some packet ∧ packet.valid = true

theorem SentFrame.has_arrived (whole : SentFrame) (clock : Nat → UInt32)
    (got : Nat → Bool) (index : Nat) :
    (whole.arrived clock got).Has index ↔
      index < whole.count ∧ got index = true := by
  by_cases hindex : index < whole.count
  · have hslot : (whole.arrived clock got).fragments[index]? = _ :=
      FragmentedFrame.fragments_board (whole.stamped clock) got hindex
    rw [and_iff_right hindex, FragmentedFrame.Has, hslot]
    constructor
    · rintro ⟨packet, hpacket, hvalid⟩
      by_contra hnot
      rw [if_neg hnot] at hpacket
      cases hpacket
      cases hvalid
    · intro hgot
      rw [if_pos hgot]
      exact ⟨_, rfl, rfl⟩
  · refine iff_of_false ?_ fun h => hindex h.1
    rintro ⟨packet, hpacket, -⟩
    have hlength := (List.getElem?_eq_some_iff.mp hpacket).1
    simp only [SentFrame.arrived, FragmentedFrame.board, List.length_map,
      List.length_range] at hlength
    exact hindex hlength

end Salsify.Net

namespace Salsify.Session

open Salsify.Net

variable {η δ ε : Type}

namespace Receiver

variable {codec : Codec δ ε}

theorem joined_has {sent : List Dispatch} {receiver : Receiver δ}
    {dispatch : Dispatch} {whole : SentFrame} {index : Nat}
    {timestamp : UInt32} {fragment : FragmentedFrame}
    (hunderway : Underway sent receiver.fragmentedFrames)
    (hframe : dispatch.frame = whole.fragmented) (hindex : index < whole.count)
    (hconnection : whole.header.connectionId = connectionId)
    (hawaited : ∀ other ∈ sent,
      other.frame.frameNo.toNat = receiver.nextFrameNo → other = dispatch)
    (hnumber : (whole.packet index timestamp).frameNo.toNat =
      receiver.nextFrameNo)
    (h : joined receiver (whole.packet index timestamp) = .ok fragment) :
    fragment.Has index ∧
      ∀ old, receiver.fragmentedFrames receiver.nextFrameNo = some old →
        ∀ other, old.Has other → fragment.Has other := by
  rw [joined, if_pos hnumber] at h
  cases hentry : receiver.fragmentedFrames receiver.nextFrameNo with
  | none =>
      simp only [hentry] at h
      rw [← hconnection, whole.incoming_packet hindex timestamp] at h
      obtain rfl := Except.ok.inj h
      refine ⟨?_, fun old hold => by cases hold⟩
      rw [whole.has_arrived]
      exact ⟨hindex, Function.update_self _ _ _⟩
  | some old =>
      simp only [hentry] at h
      obtain ⟨other, same, clock, got, hother, hsame, hkey, rfl⟩ :=
        hunderway receiver.nextFrameNo old hentry
      obtain rfl := hawaited other hother (by
        rw [hsame]
        exact hkey.symm)
      obtain ⟨hindex, hpacket⟩ :=
        SentFrame.packet_congr (hsame.symm.trans hframe) hindex timestamp
      obtain ⟨later, hadded⟩ :=
        same.addPacket_arrived clock got hindex timestamp
      rw [hpacket, hadded] at h
      obtain rfl := Except.ok.inj h
      refine ⟨?_, ?_⟩
      · rw [same.has_arrived]
        exact ⟨hindex, Function.update_self _ _ _⟩
      · rintro _ ⟨⟩ place hplace
        rw [same.has_arrived] at hplace ⊢
        refine ⟨hplace.1, ?_⟩
        by_cases hsame : place = index
        · rw [hsame]
          exact Function.update_self _ _ _
        · rw [Function.update_of_ne hsame]
          exact hplace.2

theorem readyFrame_eq_none {receiver : Receiver δ} {fragment : FragmentedFrame}
    (h : receiver.readyFrame = none)
    (hentry : receiver.fragmentedFrames receiver.nextFrameNo = some fragment) :
    fragment.complete = false := by
  rw [readyFrame, hentry, Option.filter_eq_none_iff] at h
  exact Bool.eq_false_iff.mpr (h fragment rfl)

/-- The frame that is waited for has every fragment that was delivered, and is
not complete. -/
structure Waits (delivered : List (Nat × Nat)) (receiver : Receiver δ) :
    Prop where
  behind : ∀ number index, (number, index) ∈ delivered →
    number ≤ receiver.nextFrameNo
  begun : ∀ fragment,
    receiver.fragmentedFrames receiver.nextFrameNo = some fragment →
      fragment.complete = false ∧
        ∀ index, (receiver.nextFrameNo, index) ∈ delivered →
          fragment.Has index
  fresh : receiver.fragmentedFrames receiver.nextFrameNo = none →
    ∀ index, (receiver.nextFrameNo, index) ∉ delivered

theorem Waits.before {delivered : List (Nat × Nat)} {receiver : Receiver δ}
    {number index : Nat} (h : Waits delivered receiver)
    (hnumber : number ≤ receiver.nextFrameNo) {frame place : Nat}
    (hplace : (frame, place) ∈ delivered ++ [(number, index)]) :
    frame ≤ receiver.nextFrameNo := by
  rcases List.mem_append.mp hplace with hold | hnew
  · exact h.behind frame place hold
  · obtain ⟨rfl, -⟩ := Prod.mk.inj (List.mem_singleton.mp hnew)
    exact hnumber

theorem Waits.earlier {delivered : List (Nat × Nat)} {receiver : Receiver δ}
    {number index : Nat} (h : Waits delivered receiver)
    (hnumber : number < receiver.nextFrameNo) :
    Waits (delivered ++ [(number, index)]) receiver := by
  have hold : ∀ place, (receiver.nextFrameNo, place) ∈
      delivered ++ [(number, index)] →
        (receiver.nextFrameNo, place) ∈ delivered := by
    intro place hplace
    rcases List.mem_append.mp hplace with hold | hnew
    · exact hold
    · have hsame := congrArg Prod.fst (List.mem_singleton.mp hnew)
      exact absurd hnumber (Nat.not_lt_of_le hsame.le)
  refine ⟨fun frame place => h.before hnumber.le, fun fragment hsome => ?_,
    fun hnone place hplace => h.fresh hnone place (hold place hplace)⟩
  obtain ⟨hincomplete, hhas⟩ := h.begun fragment hsome
  exact ⟨hincomplete, fun place hplace => hhas place (hold place hplace)⟩

theorem Waits.filled {delivered : List (Nat × Nat)}
    {receiver taken : Receiver δ} {fragment : FragmentedFrame} {index : Nat}
    (h : Waits delivered receiver)
    (hnext : taken.nextFrameNo = receiver.nextFrameNo)
    (hentry : taken.fragmentedFrames taken.nextFrameNo = some fragment)
    (hincomplete : fragment.complete = false) (hhas : fragment.Has index)
    (hkept : ∀ old, receiver.fragmentedFrames receiver.nextFrameNo = some old →
      ∀ other, old.Has other → fragment.Has other) :
    Waits (delivered ++ [(receiver.nextFrameNo, index)]) taken := by
  refine ⟨fun frame place hplace => ?_, fun entry hsome => ?_,
    fun hnothing => ?_⟩
  · rw [hnext]
    exact h.before le_rfl hplace
  · obtain rfl := Option.some.inj (hentry.symm.trans hsome)
    refine ⟨hincomplete, fun place hplace => ?_⟩
    rw [hnext] at hplace
    rcases List.mem_append.mp hplace with hbefore | hnew
    · cases hold : receiver.fragmentedFrames receiver.nextFrameNo with
      | none => exact absurd hbefore (h.fresh hold place)
      | some old =>
          exact hkept old hold place ((h.begun old hold).2 place hbefore)
    · obtain ⟨-, rfl⟩ := Prod.mk.inj (List.mem_singleton.mp hnew)
      exact hhas
  · rw [hentry] at hnothing
    cases hnothing

theorem Waits.completed {delivered : List (Nat × Nat)}
    {receiver after : Receiver δ} {index : Nat} (h : Waits delivered receiver)
    (hnext : after.nextFrameNo = receiver.nextFrameNo + 1)
    (hnone : after.fragmentedFrames after.nextFrameNo = none) :
    Waits (delivered ++ [(receiver.nextFrameNo, index)]) after := by
  refine ⟨fun frame place hplace => ?_, fun entry hsome => ?_,
    fun _ place hplace => ?_⟩
  · rw [hnext]
    exact (h.before le_rfl hplace).trans (Nat.le_succ _)
  · rw [hnone] at hsome
    cases hsome
  · rw [hnext] at hplace
    exact absurd (h.before le_rfl hplace) (Nat.not_succ_le_self _)

theorem waits_start (player : δ) : Waits [] (start codec player) where
  behind _ _ h := absurd h List.not_mem_nil
  begun _ h := by cases h
  fresh _ _ h := absurd h List.not_mem_nil

end Receiver

namespace Joint

variable (parties : Parties η δ ε)

def deliveryOf (joint : Joint η δ) : JointEvent η → List (Nat × Nat)
  | .packet number index timestamp _ _ _ =>
      (joint.packetAt number index timestamp).toList.map fun _ =>
        (number, index)
  | _ => []

/-- The fragments that a run delivers, by the number of their frame. -/
def deliveries (joint : Joint η δ) (events : List (JointEvent η)) :
    List (Nat × Nat) :=
  Fallible.runLog (step parties) deliveryOf joint events

variable {parties}

variable {lock : LockStep parties} {path : List η} {joint next : Joint η δ}

theorem handlePacket_waits (h : InStep lock path joint)
    {receiver after : Receiver δ} {arrival : Arrival} {ack : Option AckPacket}
    {number index : Nat} {timestamp : UInt32} {delivered : List (Nat × Nat)}
    (hreceiver : joint.receiver = some receiver)
    (hwaits : Receiver.Waits delivered receiver)
    (hpacket : joint.packetAt number index timestamp = some arrival.packet)
    (hcalm : number ≤ receiver.nextFrameNo)
    (hhandled : Receiver.handlePacket parties.codec receiver arrival =
      .ok (after, ack)) :
    Receiver.Waits (delivered ++ [(number, index)]) after := by
  have hlogged := h.recovering.receiver receiver hreceiver
  obtain ⟨hframeNo, dispatch, whole, hdispatch, hframe, hindex, hwhole,
    hconnection⟩ := h.packet hpacket
  rcases Receiver.handlePacket_cases hhandled with
    ⟨hold, rfl, -⟩ | ⟨hnext, taken, finish, htaken, -, hend⟩
  · rw [hframeNo] at hold
    exact hwaits.earlier hold
  obtain rfl : number = receiver.nextFrameNo := by omega
  obtain ⟨horder, -, htakenNext⟩ :=
    Receiver.takeIn_order hlogged.order hnext htaken
  rw [hframeNo] at htakenNext
  rcases hend with ⟨hnone, rfl⟩ | ⟨complete, -, hcomplete⟩
  · -- the fragment is in its slot, beside those that were there before
    obtain ⟨fragment, hjoined, hentry⟩ :=
      Receiver.takeIn_joined hlogged.order hnext htaken
    obtain ⟨hhas, hkept⟩ := Receiver.joined_has hlogged.underway hframe hindex
      hconnection (fun other hother => h.dispatch_eq hdispatch hother)
      (hwhole ▸ hframeNo) (hwhole ▸ hjoined)
    exact hwaits.filled htakenNext hentry
      (Receiver.readyFrame_eq_none hnone hentry) hhas hkept
  · have hafter := Receiver.completeFrame_nextFrameNo hcomplete
    refine hwaits.completed (by rw [hafter, htakenNext]) ?_
    rw [Option.eq_none_iff_forall_ne_some]
    intro fragment hsome
    have hkey := horder.pending _ (PartialMap.mem_def.mpr
      ⟨fragment, Receiver.completeFrame_entries hcomplete hsome⟩)
    rw [hafter] at hkey
    exact absurd hkey (Nat.succ_ne_self _)

theorem step_waits {event : JointEvent η} {delivered : List (Nat × Nat)}
    (h : InStep lock path joint) (hcalm : Calm lock joint event)
    (hwaits : ∀ receiver, joint.receiver = some receiver →
      Receiver.Waits delivered receiver)
    (hstep : step parties joint event = .ok next) :
    ∀ receiver, next.receiver = some receiver →
      Receiver.Waits (delivered ++ joint.deliveryOf event) receiver := by
  cases event with
  | encodeStart now later =>
      obtain ⟨sender, -, hstep⟩ := Fallible.bind_eq_ok hstep
      cases hstep
      simpa [deliveryOf] using hwaits
  | encodeEnd ended =>
      obtain ⟨sender, sent, -, rfl⟩ := encodeEnd_cases hstep
      simpa [deliveryOf] using hwaits
  | ack number =>
      cases hack : joint.acks[number]? with
      | none =>
          simp only [step, hack] at hstep
          cases hstep
          simpa [deliveryOf] using hwaits
      | some ack =>
          simp only [step, hack] at hstep
          obtain ⟨sender, -, hstep⟩ := Fallible.bind_eq_ok hstep
          cases hstep
          simpa [deliveryOf] using hwaits
  | packet number index timestamp avgDelay ackDelay frameOneWayDelay =>
      obtain ⟨receiver, encoder, hreceiver, hat, hmirrors, hheld⟩ := h.receiver
      cases hpacket : joint.packetAt number index timestamp with
      | none =>
          simp only [step, hreceiver, hpacket] at hstep
          cases hstep
          simpa [deliveryOf, hpacket] using hwaits
      | some packet =>
          simp only [step, hreceiver, hpacket] at hstep
          obtain rfl := Except.ok.inj hstep
          obtain ⟨after, ack, latest, hhandled, -⟩ := @handlePacket_inStep
            _ _ _ parties lock path joint h receiver encoder
            ⟨packet, avgDelay, ackDelay, frameOneWayDelay⟩ number index
            timestamp hreceiver hat hmirrors hheld hpacket
            (hcalm receiver hreceiver)
          have hnext := handlePacket_waits h hreceiver
            (hwaits receiver hreceiver) hpacket (hcalm receiver hreceiver)
            hhandled
          simp only [receive, hhandled, deliveryOf, hpacket,
            Option.toList_some, List.map_singleton]
          rintro _ ⟨⟩
          exact hnext

theorem run_waits {delivered : List (Nat × Nat)} {last : Joint η δ}
    {events : List (JointEvent η)} (h : InStep lock path joint)
    (hcalm : Fallible.AllSteps (step parties) (Calm lock) joint events)
    (hwaits : ∀ receiver, joint.receiver = some receiver →
      Receiver.Waits delivered receiver)
    (hrun : run parties joint events = .ok last) :
    ∀ receiver, last.receiver = some receiver →
      Receiver.Waits (delivered ++ deliveries parties joint events)
        receiver := by
  refine (hcalm.logged (fun delivered joint =>
    (∃ path, InStep lock path joint) ∧
      ∀ receiver, joint.receiver = some receiver →
        Receiver.Waits delivered receiver) ?_ ⟨⟨path, h⟩, hwaits⟩ hrun).2
  rintro delivered state next event ⟨⟨path, h⟩, hwaits⟩ hcalm hstep
  exact ⟨⟨_, step_inStep h hcalm hstep⟩, step_waits h hcalm hwaits hstep⟩

/-- Every fragment of every frame that was sent is delivered. -/
def AllDelivered (joint : Joint η δ) (delivered : List (Nat × Nat)) : Prop :=
  ∀ number dispatch, joint.sent[number]? = some dispatch →
    ∀ index < dispatch.frame.fragments.length, (number, index) ∈ delivered

/-- A receiver to which everything was delivered waits for nothing that was
sent. -/
theorem InStep.caught_up (h : InStep lock path joint)
    {receiver : Receiver δ} {delivered : List (Nat × Nat)}
    (hreceiver : joint.receiver = some receiver)
    (hat : receiver.nextFrameNo < path.length)
    (hwaits : Receiver.Waits delivered receiver)
    (hall : joint.AllDelivered delivered) :
    receiver.nextFrameNo = joint.sent.length := by
  by_contra hne
  have hlogged := h.recovering.receiver receiver hreceiver
  have hlt : receiver.nextFrameNo < joint.sent.length := by
    have hlength := h.length
    omega
  obtain ⟨dispatch, hdispatch⟩ : ∃ dispatch,
      joint.sent[receiver.nextFrameNo]? = some dispatch :=
    ⟨_, List.getElem?_eq_getElem hlt⟩
  obtain ⟨whole, hframe⟩ :=
    h.agreed.cut dispatch (List.mem_of_getElem? hdispatch)
  have hfragments : dispatch.frame.fragments.length = whole.count := by
    rw [hframe]
    simp [SentFrame.fragmented]
  have hdelivered := hall _ dispatch hdispatch
  rw [hfragments] at hdelivered
  have hpos : 0 < whole.count :=
    FragmentedFrame.fragmentCount_pos whole.nonempty
  cases hentry : receiver.fragmentedFrames receiver.nextFrameNo with
  | none => exact hwaits.fresh hentry 0 (hdelivered 0 hpos)
  | some fragment =>
      obtain ⟨hincomplete, hhas⟩ := hwaits.begun fragment hentry
      obtain ⟨other, same, clock, got, hother, hsame, hkey, rfl⟩ :=
        hlogged.underway _ _ hentry
      obtain rfl := h.dispatch_eq hdispatch hother (by
        rw [hsame]
        exact hkey.symm)
      have hcomplete : (same.arrived clock got).complete = true := by
        rw [same.complete_arrived]
        intro index hindex
        have hcount : index < whole.count := by
          rw [← hfragments, hsame]
          simpa [SentFrame.fragmented] using hindex
        exact ((same.has_arrived clock got index).mp
          (hhas index (hdelivered index hcount))).2
      rw [hcomplete] at hincomplete
      cases hincomplete

end Joint

end Salsify.Session
