import Salsify.Session.Joint
import Salsify.Session.ReceiverTotality

namespace Salsify.Session

open Salsify.Net

/-! Whether the sender still has the encoder of the state that it chooses as the
source of the next frame. -/

variable {η δ ε : Type}

namespace Sender

variable {minihash : η → UInt32} {targets : List UInt32} {sender : Sender η}

/-- The sender's books against the target states of the frames sent so far: the
listed states are the last targets, and what is stored besides them is the
initial state as long as no frame led to it. -/
structure Ledger (minihash : η → UInt32) (targets : List UInt32)
    (sender : Sender η) : Prop where
  store : Store minihash sender
  listed : sender.encoderStates <:+ targets
  key : ∀ state, sender.encoders.Mem state ↔
    state ∈ sender.encoderStates ∨
      (state = sender.initialState ∧ state ∉ targets)
  begun : targets ≠ [] → sender.encoderStates ≠ []

theorem start_ledger (operationMode : OperationMode) (connectionId : UInt16)
    (baseEncoder : η) (now : Nat) : Ledger minihash []
      (start minihash operationMode connectionId baseEncoder now) where
  store := start_store operationMode connectionId baseEncoder now
  listed := List.suffix_refl []
  key state := by
    simp [start]
  begun hne := absurd rfl hne

theorem Ledger.assumed (hledger : Ledger minihash targets sender)
    (hsent : targets ≠ []) :
    ∃ assumed, sender.receiverAssumedState = some assumed ∧
      assumed ∈ sender.encoderStates := by
  obtain ⟨assumed, hassumed⟩ := Option.ne_none_iff_exists'.mp
    (mt List.getLast?_eq_none_iff.mp (hledger.begun hsent))
  refine ⟨assumed, hledger.store.assumed.trans hassumed, ?_⟩
  exact List.mem_of_getLast? hassumed

theorem acked_mem_keptStates {acked : UInt32}
    (hledger : Ledger minihash targets sender)
    (hacked : sender.receiverLastAckedState = some acked)
    (hmem : acked ∈ sender.encoderStates) : acked ∈ sender.keptStates := by
  rw [keptStates, hacked]
  split
  · next other assumed hother hassumed =>
      cases hother
      split
      · by_contra hdropped
        have hlisted := hledger.store.assumed_mem hassumed
        rw [← List.takeWhile_append_dropWhile (p := Passes acked assumed)
          (l := sender.encoderStates), List.mem_append] at hmem
        have hpassed := List.mem_takeWhile_imp (hmem.resolve_right hdropped)
        simp [Passes] at hpassed
      · exact hmem
  · exact hmem

theorem Ledger.cleanUp (hledger : Ledger minihash targets sender) :
    ∃ encoders, sender.cleanUp = .ok { sender with
        encoderStates := sender.keptStates
        encoders := encoders } ∧
      Ledger minihash targets { sender with
        encoderStates := sender.keptStates
        encoders := encoders } := by
  obtain ⟨encoders, hclean, hmem, -⟩ := cleanUp_spec hledger.store
  have hsuffix := keptStates_suffix sender
  refine ⟨encoders, hclean, cleanUp_store hledger.store hclean,
    hsuffix.trans hledger.listed, ?_, ?_⟩
  · intro state
    rw [hmem state, hledger.key state]
    constructor
    · rintro ⟨hlisted | hinitial, hkept⟩
      · exact Or.inl (hkept hlisted)
      · exact Or.inr hinitial
    · rintro (hkept | hinitial)
      · exact ⟨Or.inl (hsuffix.subset hkept), fun _ => hkept⟩
      · exact ⟨Or.inr hinitial, fun hlisted =>
          absurd (hledger.listed.subset hlisted) hinitial.2⟩
  · intro hsent hnil
    have hlast := keptStates_getLast? hledger.store
    rw [show sender.keptStates = [] from hnil] at hlast
    exact hledger.begun hsent (List.getLast?_eq_none_iff.mp hlast.symm)

theorem Ledger.encodeStart {next : Sender η} {now later : Nat}
    (hledger : Ledger minihash targets sender)
    (h : sender.encodeStart now later = .ok next) :
    Ledger minihash targets next := by
  rcases encodeStart_cases h with
    ⟨_, rfl⟩ | ⟨cleaned, selection, encoder, _, hclean, _, _, rfl⟩
  · exact hledger
  · obtain ⟨encoders, hspec, hcleaned⟩ := hledger.cleanUp
    rw [hspec] at hclean
    cases hclean
    exact ⟨⟨hcleaned.store.listed, hcleaned.store.assumed,
      hcleaned.store.minihash⟩, hcleaned.listed, hcleaned.key, hcleaned.begun⟩

theorem Ledger.encodeEnd {next : Sender η} {ended : EncodeOutputs η}
    {sent : Option FragmentedFrame} (hledger : Ledger minihash targets sender)
    (h : encodeEnd minihash sender ended = .ok (next, sent)) :
    Ledger minihash
      (targets ++ sent.toList.map FragmentedFrame.targetState) next := by
  have hstore := encodeEnd_store hledger.store h
  rcases encodeEnd_cases h with
    ⟨rfl, hnext⟩ | ⟨job, picked, frame, fragments, _, _, hframe, _, rfl, rfl⟩
  · simp only [Option.toList_none, List.map_nil, List.append_nil]
    rcases hnext with rfl | ⟨skipped, rfl⟩
    · exact hledger
    · exact ⟨hstore, hledger.listed, hledger.key, hledger.begun⟩
  · obtain ⟨whole, hheader, -, rfl⟩ := SentFrame.outgoing_eq_ok hframe
    have htarget : whole.fragmented.targetState = minihash picked.encoder := by
      simp [SentFrame.fragmented, hheader, frameHeader]
    simp only [Option.toList_some, List.map_cons, List.map_nil, htarget]
    refine ⟨hstore, ?_, ?_, ?_⟩
    · obtain ⟨before, hbefore⟩ := hledger.listed
      exact ⟨before, by rw [← List.append_assoc, hbefore]⟩
    · intro state
      rw [PartialMap.mem_insert, hledger.key state, List.mem_append,
        List.mem_append, List.mem_singleton]
      tauto
    · intro _ hnil
      exact List.append_ne_nil_of_right_ne_nil _ (List.cons_ne_nil _ _) hnil

theorem Ledger.handleAck {next : Sender η} {ack : AckPacket}
    (hledger : Ledger minihash targets sender)
    (h : sender.handleAck ack = .ok next) : Ledger minihash targets next := by
  have hstore := handleAck_store hledger.store h
  rcases handleAck_cases h with rfl | ⟨sequence, _, _, _, rfl⟩
  · exact hledger
  · exact ⟨hstore, hledger.listed, hledger.key, hledger.begun⟩

def ChoosesConservatively (sender : Sender η) (now : Nat) : Prop :=
  now < sender.conservativeUntil ∨
    ∃ acked, sender.receiverLastAckedState = some acked ∧
      ¬ sender.encoders.Mem acked

/-- The number of sent frames whose states the clean-ups have walked past, the
one of this turn included. -/
def walked (targets : List UInt32) (sender : Sender η) : Nat :=
  targets.length - sender.keptStates.length

/-- No frame led to the state, or one did that no clean-up has walked past. -/
def Outlives (targets : List UInt32) (sender : Sender η)
    (state : UInt32) : Prop :=
  state ∉ targets ∨
    ∃ number, walked targets sender ≤ number ∧ targets[number]? = some state

theorem mem_drop_iff {states : List UInt32} {state : UInt32} {count : Nat} :
    state ∈ states.drop count ↔
      ∃ number, count ≤ number ∧ states[number]? = some state := by
  rw [List.mem_iff_getElem?]
  constructor
  · rintro ⟨index, hindex⟩
    rw [List.getElem?_drop] at hindex
    exact ⟨count + index, Nat.le_add_right _ _, hindex⟩
  · rintro ⟨number, hle, hnumber⟩
    refine ⟨number - count, ?_⟩
    rwa [List.getElem?_drop, Nat.add_sub_cancel' hle]

theorem mem_keptStates_iff (hledger : Ledger minihash targets sender)
    {state : UInt32} :
    state ∈ sender.keptStates ↔
      ∃ number, walked targets sender ≤ number ∧
        targets[number]? = some state := by
  have hsuffix := (keptStates_suffix sender).trans hledger.listed
  rw [← mem_drop_iff, walked, ← List.suffix_iff_eq_drop.mp hsuffix]

theorem encodeStart_ok_iff {cleaned : Sender η} {now later : Nat}
    (hidle : sender.encodeJobs = none)
    (hclean : sender.cleanUp = .ok cleaned) :
    (∃ next, sender.encodeStart now later = .ok next) ↔
      ∃ selection, cleaned.select now later = .ok selection ∧
        cleaned.encoders.Mem selection.sourceHash := by
  constructor
  · rintro ⟨next, h⟩
    rcases encodeStart_cases h with
      ⟨hbusy, _⟩ | ⟨other, selection, encoder, _, hother, hselect, hencoder, _⟩
    · simp [hidle] at hbusy
    · rw [hclean] at hother
      cases hother
      exact ⟨selection, hselect, PartialMap.mem_def.mpr ⟨encoder, hencoder⟩⟩
  · rintro ⟨selection, hselect, hmem⟩
    obtain ⟨encoder, hencoder⟩ := PartialMap.mem_def.mp hmem
    refine ⟨{ cleaned with
      conservativeUntil := selection.conservativeUntil
      encodeJobs := some ⟨encoder, selection.conservative⟩ }, ?_⟩
    simp only [encodeStart, hidle, hclean, hselect, hencoder, bind, Except.bind]
    rfl

theorem select_conservative {now : Nat} (later : Nat)
    (h : sender.ChoosesConservatively now) :
    ∃ until', sender.select now later =
      .ok ⟨sender.knownState, true, until'⟩ := by
  by_cases hnow : now < sender.conservativeUntil
  · exact ⟨sender.conservativeUntil, by rw [select, if_pos hnow]⟩
  · obtain ⟨acked, hacked, hmem⟩ := h.resolve_left hnow
    exact ⟨later + conservativeFor, by
      simp only [select, if_neg hnow, hacked, if_neg hmem]⟩

theorem Ledger.select_assumed {now : Nat} (later : Nat)
    (hledger : Ledger minihash targets sender)
    (hacked : sender.receiverLastAckedState.isSome → targets ≠ [])
    (h : ¬ sender.ChoosesConservatively now) :
    ∃ selection, sender.select now later = .ok selection ∧
      selection.conservative = false ∧
      sender.encoders.Mem selection.sourceHash := by
  rw [ChoosesConservatively, not_or] at h
  cases hlast : sender.receiverLastAckedState with
  | some acked =>
      have hmem : sender.encoders.Mem acked := by
        by_contra hnot
        exact h.2 ⟨acked, hlast, hnot⟩
      obtain ⟨assumed, hassumed, hlisted⟩ :=
        hledger.assumed (hacked (by simp [hlast]))
      refine ⟨⟨assumed, false, sender.conservativeUntil⟩, ?_, rfl,
        hledger.store.listed assumed hlisted⟩
      simp only [select, if_neg h.1, hlast, if_pos hmem, hassumed, optionalGet,
        bind, Except.bind]
      rfl
  | none =>
      cases hassumed : sender.receiverAssumedState with
      | some assumed =>
          refine ⟨⟨assumed, false, sender.conservativeUntil⟩, ?_, rfl,
            hledger.store.listed assumed (hledger.store.assumed_mem hassumed)⟩
          simp only [select, if_neg h.1, hlast, hassumed]
      | none =>
          refine ⟨⟨sender.initialState, false, sender.conservativeUntil⟩, ?_,
            rfl, ?_⟩
          · simp only [select, if_neg h.1, hlast, hassumed]
          · have hnil : sender.encoderStates = [] := by
              rw [hledger.store.assumed] at hassumed
              exact List.getLast?_eq_none_iff.mp hassumed
            have hnone : targets = [] := by
              by_contra hsent
              exact hledger.begun hsent hnil
            exact (hledger.key _).mpr (Or.inr ⟨rfl, by simp [hnone]⟩)

theorem knownState_eq (sender : Sender η) :
    sender.knownState = sender.initialState ∨
      sender.knownState ∈ sender.receiverCompleteStates := by
  rw [knownState]
  cases hlast : sender.receiverCompleteStates.getLast? with
  | none => exact Or.inl rfl
  | some state => exact Or.inr (List.mem_of_getLast? hlast)

/-- A turn that starts a frame fails exactly when it falls back on a reported
state that has been walked past. -/
theorem Ledger.encodeStart_iff {now later : Nat}
    (hledger : Ledger minihash targets sender)
    (hidle : sender.encodeJobs = none)
    (hacked : sender.receiverLastAckedState.isSome → targets ≠ [])
    (hreported : ∀ state ∈ sender.receiverCompleteStates, state ∈ targets) :
    (∃ next, sender.encodeStart now later = .ok next) ↔
      (sender.ChoosesConservatively now →
        Outlives targets sender sender.knownState) := by
  obtain ⟨encoders, hclean, hcleaned⟩ := hledger.cleanUp
  rw [encodeStart_ok_iff hidle hclean]
  generalize hgeneral : { sender with
    encoderStates := sender.keptStates
    encoders := encoders } = cleaned at hcleaned ⊢
  have hsame : cleaned.ChoosesConservatively now ↔
      sender.ChoosesConservatively now := by
    subst hgeneral
    refine or_congr_right (exists_congr fun acked => and_congr_right ?_)
    intro hlast
    rw [not_iff_not, hcleaned.key, hledger.key]
    refine or_congr_left ⟨fun h => (keptStates_suffix sender).subset h, ?_⟩
    exact acked_mem_keptStates hledger hlast
  have hknown : cleaned.encoders.Mem cleaned.knownState ↔
      Outlives targets sender sender.knownState := by
    subst hgeneral
    rw [hcleaned.key, Outlives, ← mem_keptStates_iff hledger, or_comm]
    refine or_congr_left ⟨And.right, fun hnot => ⟨?_, hnot⟩⟩
    exact (knownState_eq sender).resolve_right fun hmem =>
      hnot (hreported _ hmem)
  rw [← hsame, ← hknown]
  by_cases hconservative : cleaned.ChoosesConservatively now
  · obtain ⟨until', hselect⟩ := select_conservative later hconservative
    rw [hselect]
    constructor
    · rintro ⟨selection, hselection, hmem⟩ -
      cases hselection
      exact hmem
    · exact fun hmem => ⟨_, rfl, hmem hconservative⟩
  · have hlast : cleaned.receiverLastAckedState.isSome → targets ≠ [] := by
      subst hgeneral
      exact hacked
    obtain ⟨selection, hselect, -, hmem⟩ :=
      hcleaned.select_assumed later hlast hconservative
    exact iff_of_true ⟨selection, hselect, hmem⟩
      fun h => absurd h hconservative

end Sender

namespace Receiver

variable {codec : Codec δ ε}

theorem completeFrame_completeStates {receiver applied : Receiver δ}
    {fragment : FragmentedFrame}
    (h : completeFrame codec receiver fragment = .ok applied) :
    ∀ state ∈ applied.completeStates,
      state ∈ receiver.completeStates ∨ state = fragment.targetState := by
  obtain ⟨cleaned, hcleaned, happly⟩ := completeFrame_cases h
  have hkept : ∀ state ∈ cleaned.completeStates,
      state ∈ receiver.completeStates := by
    rw [← (loadSource_sameStore receiver fragment.sourceState).completeStates]
    rcases cleanUp_cases hcleaned with ⟨rfl, -⟩ | ⟨-, -, -, rfl⟩
    · exact fun _ hstate => hstate
    · exact fun _ hstate => (List.dropWhile_suffix _).subset hstate
  obtain ⟨frame, shown, -, hshown, rfl⟩ := applyFrame_cases happly
  rw [← (enqueueFrame_sameStore hshown).completeStates] at hkept
  intro state hstate
  dsimp only at hstate
  split at hstate
  · next hfull =>
      rcases List.mem_append.mp hstate with hold | hnew
      · exact Or.inl (hkept state hold)
      · exact Or.inr ((List.mem_singleton.mp hnew).trans hfull.1)
  · exact Or.inl (hkept state hstate)

theorem handlePacket_completeStates {receiver after : Receiver δ}
    {arrival : Arrival} {ack : Option AckPacket} (horder : InOrder receiver)
    (h : handlePacket codec receiver arrival = .ok (after, ack)) :
    ∀ state ∈ after.completeStates,
      state ∈ receiver.completeStates ∨
        state = arrival.packet.targetState := by
  rcases handlePacket_cases h with
    ⟨-, rfl, -⟩ | ⟨hframeNo, taken, finish, htaken, -, hend⟩
  · exact fun _ hstate => Or.inl hstate
  · rw [← (takeIn_sameStore horder htaken).completeStates]
    rcases hend with ⟨-, rfl⟩ | ⟨fragment, hready, hcomplete⟩
    · exact fun _ hstate => Or.inl hstate
    · obtain ⟨-, hmatches⟩ :=
        readyFrame_completes horder hframeNo htaken hready
      rw [hmatches.targetState]
      exact completeFrame_completeStates hcomplete

theorem handlePacket_ack {receiver after : Receiver δ} {arrival : Arrival}
    {ack : AckPacket}
    (h : handlePacket codec receiver arrival = .ok (after, some ack)) :
    ack.completeStates = after.completeStates ∧
      ack.currentState = after.currentState := by
  rcases handlePacket_cases h with
    ⟨-, -, hnone⟩ | ⟨-, taken, finish, -, hack, -⟩
  · cases hnone
  · cases hack
    exact ⟨rfl, rfl⟩

end Receiver

namespace Joint

variable {parties : Parties η δ ε}

def targets (joint : Joint η δ) : List UInt32 :=
  joint.sent.map fun dispatch => dispatch.frame.targetState

/-- What the receiver ever reports are target states of frames that were sent,
be it in its own list, on the way or at the sender. -/
structure Reports (joint : Joint η δ) : Prop where
  receiver : ∀ receiver, joint.receiver = some receiver →
    Receiver.InOrder receiver ∧
      ∀ state ∈ receiver.completeStates, state ∈ joint.targets
  acks : ∀ ack ∈ joint.acks, joint.targets ≠ [] ∧
    ∀ state ∈ ack.completeStates, state ∈ joint.targets
  acked : joint.sender.receiverLastAckedState.isSome → joint.targets ≠ []
  reported : ∀ state ∈ joint.sender.receiverCompleteStates,
    state ∈ joint.targets

structure Agreed (parties : Parties η δ ε) (joint : Joint η δ) : Prop where
  cut : joint.Cut
  ledger : Sender.Ledger parties.minihash joint.targets joint.sender
  reports : joint.Reports

theorem agreed_start (now : Nat) : Agreed parties (start parties now) where
  cut _ hdispatch := absurd hdispatch List.not_mem_nil
  ledger := Sender.start_ledger _ _ _ _
  reports := {
    receiver := by
      rintro _ ⟨⟩
      exact ⟨Receiver.inOrder_start _, fun _ h => absurd h List.not_mem_nil⟩
    acks := fun _ h => absurd h List.not_mem_nil
    acked := fun h => by cases h
    reported := fun _ h => absurd h List.not_mem_nil }

theorem Reports.mono {joint next : Joint η δ} (h : joint.Reports)
    (htargets : joint.targets ⊆ next.targets)
    (hreceiver : next.receiver = joint.receiver)
    (hacks : next.acks = joint.acks)
    (hacked : next.sender.receiverLastAckedState =
      joint.sender.receiverLastAckedState)
    (hreported : next.sender.receiverCompleteStates =
      joint.sender.receiverCompleteStates) : next.Reports := by
  have hsent : joint.targets ≠ [] → next.targets ≠ [] := by
    intro hne hnil
    rw [hnil] at htargets
    exact hne (List.subset_nil.mp htargets)
  refine ⟨?_, ?_, ?_, ?_⟩
  · intro receiver hsome
    rw [hreceiver] at hsome
    obtain ⟨horder, hstates⟩ := h.receiver receiver hsome
    exact ⟨horder, fun state hstate => htargets (hstates state hstate)⟩
  · rw [hacks]
    intro ack hack
    obtain ⟨hne, hstates⟩ := h.acks ack hack
    exact ⟨hsent hne, fun state hstate => htargets (hstates state hstate)⟩
  · rw [hacked]
    exact fun hsome => hsent (h.acked hsome)
  · rw [hreported]
    exact fun state hstate => htargets (h.reported state hstate)

theorem encodeStart_agreed {joint : Joint η δ} {sender : Sender η}
    {now later : Nat} (h : Agreed parties joint)
    (hstart : joint.sender.encodeStart now later = .ok sender) :
    Agreed parties { joint with sender := sender } := by
  refine ⟨h.cut, h.ledger.encodeStart hstart,
    h.reports.mono (List.Subset.refl _) rfl rfl ?_ ?_⟩ <;>
  · rcases Sender.encodeStart_cases hstart with
      ⟨_, rfl⟩ | ⟨cleaned, _, _, _, hclean, _, _, rfl⟩
    · rfl
    · obtain ⟨encoders, hspec, -⟩ := h.ledger.cleanUp
      rw [hspec] at hclean
      cases hclean
      rfl

theorem encodeEnd_agreed {joint next : Joint η δ} {ended : EncodeOutputs η}
    (h : Agreed parties joint)
    (hend : encodeEnd parties joint ended = .ok next) :
    Agreed parties next := by
  have hcut := encodeEnd_cut h.cut hend
  obtain ⟨sender, sent, hended, rfl⟩ := encodeEnd_cases hend
  have htargets : targets { joint with
        sender := sender
        sent := joint.sent ++ sent.toList.map fun frame =>
          ⟨frame, joint.sender.encodeJobs.any EncodeJob.conservative⟩ } =
      joint.targets ++ sent.toList.map FragmentedFrame.targetState := by
    simp [targets, Function.comp_def]
  refine ⟨hcut, ?_, ?_⟩
  · rw [htargets]
    exact h.ledger.encodeEnd hended
  · refine h.reports.mono ?_ rfl rfl ?_ ?_
    · rw [htargets]
      exact List.subset_append_left _ _
    all_goals
      rcases Sender.encodeEnd_cases hended with
        ⟨_, rfl | ⟨_, rfl⟩⟩ | ⟨_, _, _, _, _, _, _, _, _, rfl⟩ <;> rfl

theorem receive_agreed {joint : Joint η δ} {receiver : Receiver δ}
    {arrival : Arrival} (h : Agreed parties joint)
    (hreceiver : joint.receiver = some receiver)
    (hpacket : joint.InFlight arrival.packet) :
    Agreed parties (receive parties joint receiver arrival) := by
  rcases @receive_cases _ _ _ parties joint receiver arrival with
    hnone | ⟨after, ack, hhandled, hnext⟩
  · rw [hnone]
    refine ⟨h.cut, h.ledger, ?_, h.reports.acks, h.reports.acked,
      h.reports.reported⟩
    rintro _ ⟨⟩
  · obtain ⟨dispatch, sent, index, timestamp, hdispatch, hframe, -, hsent⟩ :=
      h.cut.packet hpacket
    have htarget : arrival.packet.targetState ∈ joint.targets := by
      rw [hsent, SentFrame.packet_targetState]
      refine List.mem_map.mpr ⟨dispatch, hdispatch, ?_⟩
      rw [hframe]
      rfl
    obtain ⟨horder, hstates⟩ := h.reports.receiver receiver hreceiver
    have hafter : ∀ state ∈ after.completeStates, state ∈ joint.targets := by
      intro state hstate
      rcases Receiver.handlePacket_completeStates horder hhandled state hstate
        with hold | rfl
      · exact hstates state hold
      · exact htarget
    rw [hnext]
    refine ⟨h.cut, h.ledger, ?_, ?_, h.reports.acked, h.reports.reported⟩
    · rintro _ ⟨⟩
      exact ⟨(Receiver.handlePacket_order horder hhandled).1, hafter⟩
    · intro produced hproduced
      rcases List.mem_append.mp hproduced with hold | hnew
      · exact h.reports.acks produced hold
      · obtain rfl := Option.mem_toList.mp hnew
        rw [(Receiver.handlePacket_ack hhandled).1]
        exact ⟨List.ne_nil_of_mem htarget, hafter⟩

theorem handleAck_agreed {joint : Joint η δ} {sender : Sender η}
    {ack : AckPacket} (h : Agreed parties joint) (hack : ack ∈ joint.acks)
    (hhandled : joint.sender.handleAck ack = .ok sender) :
    Agreed parties { joint with sender := sender } := by
  refine ⟨h.cut, h.ledger.handleAck hhandled, h.reports.receiver,
    h.reports.acks, ?_, ?_⟩
  all_goals
    rcases Sender.handleAck_cases hhandled with rfl | ⟨_, _, _, _, rfl⟩
  · exact h.reports.acked
  · exact fun _ => (h.reports.acks ack hack).1
  · exact h.reports.reported
  · exact (h.reports.acks ack hack).2

theorem step_agreed {joint next : Joint η δ} {event : JointEvent η}
    (h : Agreed parties joint) (hstep : step parties joint event = .ok next) :
    Agreed parties next := by
  rcases step_cases hstep with
    rfl | ⟨_, _, sender, hstart, rfl⟩ | ⟨ended, hend⟩ |
      ⟨receiver, arrival, hreceiver, hpacket, rfl⟩ |
      ⟨ack, sender, hack, hhandled, rfl⟩
  · exact h
  · exact encodeStart_agreed h hstart
  · exact encodeEnd_agreed h hend
  · exact receive_agreed h hreceiver hpacket
  · exact handleAck_agreed h hack hhandled

theorem run_agreed {now : Nat} {events : List (JointEvent η)}
    {joint : Joint η δ}
    (hrun : run parties (start parties now) events = .ok joint) :
    Agreed parties joint :=
  Fallible.foldlM_invariant (Agreed parties)
    (fun _ _ _ _ hinv hstep => step_agreed hinv hstep) (agreed_start now) hrun

/-- In every state the two parties reach, the sender finds the encoder of the
source it chooses unless it falls back on a reported state that the clean-ups
have walked past. -/
theorem run_source_stored_iff (parties : Parties η δ ε) (now : Nat)
    (events : List (JointEvent η)) (joint : Joint η δ)
    (hrun : run parties (start parties now) events = .ok joint)
    (hidle : joint.sender.encodeJobs = none) (clock later : Nat) :
    (∃ next, joint.sender.encodeStart clock later = .ok next) ↔
      (joint.sender.ChoosesConservatively clock →
        Sender.Outlives joint.targets joint.sender
          joint.sender.knownState) := by
  have hagreed := run_agreed hrun
  exact hagreed.ledger.encodeStart_iff hidle hagreed.reports.acked
    hagreed.reports.reported

def sampleParties (codec : Codec UInt32 Unit) :
    Parties UInt32 UInt32 Unit where
  operationMode := .s2
  connectionId := Receiver.connectionId
  minihash := codec.minihash
  codec := codec
  baseEncoder := 1
  player := 1
  initial := rfl

def repeatedOutputs (encoder : UInt32) (byte : UInt8) (long : Bool) :
    EncodeOutputs UInt32 :=
  let frame := byte :: List.replicate (if long then 1400 else 0) byte
  { Sender.smallOutputs encoder byte with
    outputs := [⟨encoder, frame, "improve"⟩, ⟨encoder, frame, "fail-small"⟩] }

def delivery (frame index : Nat) : JointEvent UInt32 :=
  .packet frame index 0 0 0 0

def overtakenParties : Parties UInt32 UInt32 Unit :=
  sampleParties (Receiver.firstByteCodec
    [((1, 5, true), 2), ((2, 6, false), 3)] 9)

/-- The second fragment of frame one arrives before the first, so that the
acknowledgement sent first is the newer one of the two by its number. Delays
are long, and a frame is skipped. -/
def overtakenAck : List (JointEvent UInt32) :=
  [.encodeStart 1 1, .encodeEnd (repeatedOutputs 2 5 false),
    .encodeStart 2 2, .encodeEnd (repeatedOutputs 3 6 true),
    delivery 0 0, delivery 1 1, .packet 1 0 0 100000 0 0, .ack 2,
    .encodeStart 3 3, .encodeEnd (repeatedOutputs 4 7 false), .ack 1]

theorem run_overtakenAck :
    ∃ joint,
      run overtakenParties (start overtakenParties 0) overtakenAck =
        .ok joint ∧
      joint.sender.encodeJobs = none ∧
      joint.sender.encodeStart 4 4 =
        .error (.outOfRange "encoders.at( selected_source_hash )") := by
  obtain ⟨joint, hrun, htest⟩ := @Fallible.exists_of_check _ _
    (fun joint : Joint UInt32 UInt32 => joint.sender.encodeJobs.isNone &&
      decide (Fallible.errorOf (joint.sender.encodeStart 4 4) =
        some (.outOfRange "encoders.at( selected_source_hash )")))
    (run overtakenParties (start overtakenParties 0) overtakenAck)
    (by decide +kernel)
  rw [Bool.and_eq_true, Option.isNone_iff_eq_none, decide_eq_true_iff] at htest
  exact ⟨joint, hrun, htest.1, Fallible.errorOf_eq_some htest.2⟩

/-- The acknowledged state of frame one has had the encoder erased that the
older list of complete states ends in. -/
theorem source_not_stored :
    ∃ events joint,
      run overtakenParties (start overtakenParties 0) events = .ok joint ∧
      joint.sender.encodeJobs = none ∧
      ¬ ∃ next, joint.sender.encodeStart 4 4 = .ok next := by
  obtain ⟨joint, hrun, hidle, hthrows⟩ := run_overtakenAck
  refine ⟨overtakenAck, joint, hrun, hidle, ?_⟩
  rintro ⟨next, hnext⟩
  rw [hthrows] at hnext
  cases hnext

theorem run_source_stored_overtaken :
    ∃ joint,
      run overtakenParties (start overtakenParties 0) overtakenAck =
        .ok joint ∧
      ¬ (joint.sender.ChoosesConservatively 4 →
        Sender.Outlives joint.targets joint.sender
          joint.sender.knownState) := by
  obtain ⟨joint, hrun, hidle, hthrows⟩ := run_overtakenAck
  refine ⟨joint, hrun, fun hcondition => ?_⟩
  obtain ⟨next, hnext⟩ := (run_source_stored_iff overtakenParties 0
    overtakenAck joint hrun hidle 4 4).mpr hcondition
  rw [hthrows] at hnext
  cases hnext

end Joint

end Salsify.Session
