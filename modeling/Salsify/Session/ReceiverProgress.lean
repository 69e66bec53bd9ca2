import Salsify.Net.Reassembly
import Salsify.Session.Receiver

namespace Salsify.Session.Receiver

open Salsify.Net

variable {δ ε : Type} {codec : Codec δ ε}

/-! What one turn of the handler can do, and the progress it makes: at most one
frame is being put together, and frames are shown in order. -/

theorem lift_eq_ok {α : Type} {result : Except Failure α} {value : α}
    (h : (lift result : Except (HandlerError ε) α) = .ok value) :
    result = .ok value := by
  cases result with
  | error failure => cases h
  | ok found =>
      cases h
      rfl

theorem enqueueFrame_cases {receiver shown : Receiver δ} {frameNo : Nat}
    {frame : List UInt8}
    (h : enqueueFrame codec receiver frameNo frame = .ok shown) :
    (frame = [] ∧ shown = receiver) ∨
      ∃ player display, codec.decode receiver.player frame =
          .ok (player, display) ∧
        shown = { receiver with
          player := player
          displayed := if display then receiver.displayed ++ [frameNo]
            else receiver.displayed } := by
  cases frame with
  | nil =>
      cases h
      exact Or.inl ⟨rfl, rfl⟩
  | cons byte rest =>
      right
      simp only [enqueueFrame, List.isEmpty_cons, Bool.false_eq_true,
        if_false] at h
      cases hdecode : codec.decode receiver.player (byte :: rest) with
      | error error => simp [hdecode] at h
      | ok result =>
          obtain ⟨player, display⟩ := result
          simp only [hdecode] at h
          cases h
          exact ⟨player, display, rfl, rfl⟩

def Pending (receiver : Receiver δ) : Prop :=
  ∀ key, receiver.fragmentedFrames.Mem key → key = receiver.nextFrameNo

theorem flushLoop_absent {receiver : Receiver δ}
    (hnone : ∀ key, ¬ receiver.fragmentedFrames.Mem key) (count i : Nat) :
    flushLoop codec count i receiver = .ok receiver := by
  induction count generalizing i with
  | zero => rfl
  | succ count ih =>
      rw [flushLoop, PartialMap.not_mem_iff.mp (hnone i)]
      exact ih (i + 1)

theorem enqueueFrame_frames {receiver shown : Receiver δ} {frameNo : Nat}
    {frame : List UInt8}
    (h : enqueueFrame codec receiver frameNo frame = .ok shown) :
    shown.fragmentedFrames = receiver.fragmentedFrames ∧
      shown.nextFrameNo = receiver.nextFrameNo := by
  rcases enqueueFrame_cases h with ⟨-, rfl⟩ | ⟨player, display, -, rfl⟩
  · exact ⟨rfl, rfl⟩
  · exact ⟨rfl, rfl⟩

theorem flushLoop_single {receiver : Receiver δ} {fragment : FragmentedFrame}
    {i : Nat} (honly : ∀ key, receiver.fragmentedFrames.Mem key → key = i)
    (hentry : receiver.fragmentedFrames i = some fragment) (count : Nat) :
    flushLoop codec (count + 1) i receiver =
      (enqueueFrame codec receiver i fragment.partialFrame).map fun shown =>
        { shown with fragmentedFrames := shown.fragmentedFrames.erase i } := by
  rw [flushLoop, hentry]
  cases hshown : enqueueFrame codec receiver i fragment.partialFrame with
  | error error => simp [hshown, bind, Except.bind, Except.map]
  | ok shown =>
      have hnone : ∀ key, ¬ (shown.fragmentedFrames.erase i).Mem key := by
        intro key hkey
        rw [(enqueueFrame_frames hshown).1, PartialMap.mem_erase] at hkey
        exact hkey.1 (honly key hkey.2)
      simp only [hshown, bind, Except.bind, Except.map]
      exact flushLoop_absent hnone count (i + 1)

theorem skipTo_eq {receiver : Receiver δ} {fragment : FragmentedFrame}
    {frameNo : Nat} (hpending : receiver.Pending)
    (hlater : receiver.nextFrameNo < frameNo)
    (hentry : receiver.fragmentedFrames receiver.nextFrameNo =
      some fragment) :
    skipTo codec receiver frameNo =
      (enqueueFrame codec receiver receiver.nextFrameNo
          fragment.partialFrame).map fun shown =>
        { shown with
          fragmentedFrames :=
            shown.fragmentedFrames.erase receiver.nextFrameNo
          nextFrameNo := frameNo
          currentState := codec.minihash shown.player } := by
  obtain ⟨count, hcount⟩ : ∃ count,
      frameNo - receiver.nextFrameNo = count + 1 :=
    ⟨frameNo - receiver.nextFrameNo - 1, by omega⟩
  simp only [skipTo, hentry, hcount, flushLoop_single hpending hentry]
  cases enqueueFrame codec receiver receiver.nextFrameNo
      fragment.partialFrame with
  | error error => rfl
  | ok shown => rfl

theorem skipTo_cases {receiver skipped : Receiver δ} {frameNo : Nat}
    (hpending : receiver.Pending) (hlater : receiver.nextFrameNo < frameNo)
    (h : skipTo codec receiver frameNo = .ok skipped) :
    ∃ fragment shown,
      receiver.fragmentedFrames receiver.nextFrameNo = some fragment ∧
      enqueueFrame codec receiver receiver.nextFrameNo
        fragment.partialFrame = .ok shown ∧
      skipped = { shown with
        fragmentedFrames := shown.fragmentedFrames.erase receiver.nextFrameNo
        nextFrameNo := frameNo
        currentState := codec.minihash shown.player } ∧
      ∀ key, ¬ skipped.fragmentedFrames.Mem key := by
  cases hentry : receiver.fragmentedFrames receiver.nextFrameNo with
  | none =>
      simp only [skipTo, hentry] at h
      cases h
  | some fragment =>
      rw [skipTo_eq hpending hlater hentry] at h
      cases hshown : enqueueFrame codec receiver receiver.nextFrameNo
          fragment.partialFrame with
      | error error => simp [hshown, Except.map] at h
      | ok shown =>
          simp only [hshown, Except.map] at h
          cases h
          refine ⟨fragment, shown, rfl, hshown, rfl, ?_⟩
          intro key hkey
          rw [(enqueueFrame_frames hshown).1, PartialMap.mem_erase] at hkey
          exact hkey.1 (hpending key hkey.2)

theorem addToFrame_cases {receiver added : Receiver δ} {packet : Packet}
    (h : addToFrame receiver packet =
      (.ok added : Except (HandlerError ε) (Receiver δ))) :
    ∃ fragment frames,
      ((∃ old, receiver.fragmentedFrames packet.frameNo.toNat = some old ∧
          old.addPacket packet = .ok fragment) ∨
        (receiver.fragmentedFrames packet.frameNo.toNat = none ∧
          FragmentedFrame.incoming connectionId packet = .ok fragment)) ∧
      added = { receiver with fragmentedFrames := frames } ∧
      frames packet.frameNo.toNat = some fragment ∧
      ∀ key, frames.Mem key →
        key = packet.frameNo.toNat ∨ receiver.fragmentedFrames.Mem key := by
  cases hentry : receiver.fragmentedFrames packet.frameNo.toNat with
  | some old =>
      simp only [addToFrame, hentry] at h
      obtain ⟨fragment, hfragment, hrest⟩ := Fallible.bind_eq_ok h
      cases hrest
      refine ⟨fragment, _, Or.inl ⟨old, rfl, lift_eq_ok hfragment⟩, rfl, ?_, ?_⟩
      · simp [PartialMap.set]
      · exact fun key hkey => PartialMap.mem_set.mp hkey
  | none =>
      simp only [addToFrame, hentry] at h
      obtain ⟨fragment, hfragment, hrest⟩ := Fallible.bind_eq_ok h
      cases hrest
      refine ⟨fragment, _, Or.inr ⟨rfl, lift_eq_ok hfragment⟩, rfl, ?_, ?_⟩
      · simp [PartialMap.insert, hentry]
      · exact fun key hkey => PartialMap.mem_insert.mp hkey

theorem loadSource_cases (receiver : Receiver δ) (source : UInt32) :
    (receiver.loadSource source = receiver ∧
        (receiver.currentState ≠ source → receiver.decoders source = none)) ∨
      ∃ decoder, receiver.currentState ≠ source ∧
        receiver.decoders source = some decoder ∧
        receiver.loadSource source = { receiver with
          player := decoder
          currentState := source } := by
  by_cases hcurrent : receiver.currentState = source
  · left
    refine ⟨?_, fun hne => absurd hcurrent hne⟩
    simp [loadSource, hcurrent]
  · cases hdecoder : receiver.decoders source with
    | none =>
        left
        refine ⟨?_, fun _ => rfl⟩
        simp [loadSource, hcurrent, hdecoder]
    | some decoder =>
        right
        refine ⟨decoder, hcurrent, rfl, ?_⟩
        simp [loadSource, hcurrent, hdecoder]

theorem discardOlder_eq {source : UInt32} {states : List UInt32}
    (decoders : PartialMap UInt32 δ) (hmem : source ∈ states) :
    discardOlder source states decoders =
      .ok (states.dropWhile (· ≠ source),
        decoders.eraseAll (states.takeWhile (· ≠ source))) := by
  induction states generalizing decoders with
  | nil => cases hmem
  | cons state rest ih =>
      by_cases hstate : state = source
      · subst state
        simp [discardOlder]
      · have hrest : source ∈ rest := by
          rcases List.mem_cons.mp hmem with rfl | hrest
          · exact absurd rfl hstate
          · exact hrest
        simp [discardOlder, hstate, ih _ hrest]

theorem discardOlder_missing {source : UInt32} {states : List UInt32}
    (decoders : PartialMap UInt32 δ) (hmem : source ∉ states) :
    discardOlder source states decoders =
      .error (.assertion "it != complete_states.end()") := by
  induction states generalizing decoders with
  | nil => rfl
  | cons state rest ih =>
      rw [List.mem_cons, not_or] at hmem
      simp [discardOlder, Ne.symm hmem.1, ih _ hmem.2]

theorem cleanUp_cases {receiver cleaned : Receiver δ} {source : UInt32}
    (h : cleanUp receiver source =
      (.ok cleaned : Except (HandlerError ε) (Receiver δ))) :
    (cleaned = receiver ∧ ¬ (receiver.currentState = source ∧
        source ≠ receiver.initialState)) ∨
      (receiver.currentState = source ∧ source ≠ receiver.initialState ∧
        source ∈ receiver.completeStates ∧
        cleaned = { receiver with
          completeStates := receiver.completeStates.dropWhile (· ≠ source)
          decoders := receiver.decoders.eraseAll
            (receiver.completeStates.takeWhile (· ≠ source)) }) := by
  by_cases hruns : receiver.currentState = source ∧
      source ≠ receiver.initialState
  · right
    rw [cleanUp, if_pos hruns] at h
    obtain ⟨kept, hkept, hrest⟩ := Fallible.bind_eq_ok h
    have hkept := lift_eq_ok hkept
    by_cases hmem : source ∈ receiver.completeStates
    · rw [discardOlder_eq _ hmem] at hkept
      cases hkept
      cases hrest
      exact ⟨hruns.1, hruns.2, hmem, rfl⟩
    · rw [discardOlder_missing _ hmem] at hkept
      cases hkept
  · left
    rw [cleanUp, if_neg hruns] at h
    cases h
    exact ⟨rfl, hruns⟩

theorem applyFrame_cases {receiver applied : Receiver δ}
    {fragment : FragmentedFrame}
    (h : applyFrame codec receiver fragment = .ok applied) :
    ∃ frame shown, fragment.frame = .ok frame ∧
      enqueueFrame codec receiver receiver.nextFrameNo frame = .ok shown ∧
      applied = { shown with
        decoders :=
          if codec.minihash shown.player = fragment.targetState ∧
              codec.minihash shown.player ≠ shown.initialState then
            shown.decoders.insert (codec.minihash shown.player) shown.player
          else shown.decoders
        completeStates :=
          if codec.minihash shown.player = fragment.targetState ∧
              codec.minihash shown.player ≠ shown.initialState then
            shown.completeStates ++ [codec.minihash shown.player]
          else shown.completeStates
        currentState := codec.minihash shown.player
        fragmentedFrames :=
          shown.fragmentedFrames.erase receiver.nextFrameNo
        nextFrameNo := receiver.nextFrameNo + 1 } := by
  rw [applyFrame] at h
  obtain ⟨frame, hframe, hrest⟩ := Fallible.bind_eq_ok h
  obtain ⟨shown, hshown, hrest⟩ := Fallible.bind_eq_ok hrest
  have hnext : shown.nextFrameNo = receiver.nextFrameNo := by
    rcases enqueueFrame_cases hshown with ⟨-, rfl⟩ | ⟨player, display, -, rfl⟩
    · rfl
    · rfl
  refine ⟨frame, shown, lift_eq_ok hframe, hshown, ?_⟩
  cases hrest
  rw [← hnext]
  split <;> rfl

theorem completeFrame_cases {receiver applied : Receiver δ}
    {fragment : FragmentedFrame}
    (h : completeFrame codec receiver fragment = .ok applied) :
    ∃ cleaned,
      cleanUp (receiver.loadSource fragment.sourceState) fragment.sourceState =
        (.ok cleaned : Except (HandlerError ε) (Receiver δ)) ∧
      applyFrame codec cleaned fragment = .ok applied :=
  Fallible.bind_eq_ok h

theorem catchUp_cases {receiver current : Receiver δ} {packet : Packet}
    (h : catchUp codec receiver packet = .ok current) :
    (¬ receiver.nextFrameNo < packet.frameNo.toNat ∧ current = receiver) ∨
      (receiver.nextFrameNo < packet.frameNo.toNat ∧
        skipTo codec receiver packet.frameNo.toNat = .ok current) := by
  by_cases hlater : receiver.nextFrameNo < packet.frameNo.toNat
  · rw [catchUp, if_pos hlater] at h
    exact Or.inr ⟨hlater, h⟩
  · rw [catchUp, if_neg hlater] at h
    cases h
    exact Or.inl ⟨hlater, rfl⟩

theorem takeIn_cases {receiver taken : Receiver δ} {packet : Packet}
    (h : takeIn codec receiver packet = .ok taken) :
    ∃ current, catchUp codec receiver packet = .ok current ∧
      addToFrame current packet =
        (.ok taken : Except (HandlerError ε) (Receiver δ)) :=
  Fallible.bind_eq_ok h

theorem handlePacket_cases {receiver after : Receiver δ} {arrival : Arrival}
    {ack : Option AckPacket}
    (h : handlePacket codec receiver arrival = .ok (after, ack)) :
    (arrival.packet.frameNo.toNat < receiver.nextFrameNo ∧
        after = receiver ∧ ack = none) ∨
      (receiver.nextFrameNo ≤ arrival.packet.frameNo.toNat ∧
        ∃ taken finish, takeIn codec receiver arrival.packet = .ok taken ∧
          ack = some (after.acknowledge arrival finish) ∧
          (taken.readyFrame = none ∧ after = taken ∨
            ∃ fragment, taken.readyFrame = some fragment ∧
              completeFrame codec taken fragment = .ok after)) := by
  rw [handlePacket] at h
  by_cases hold : arrival.packet.frameNo.toNat < receiver.nextFrameNo
  · rw [if_pos hold] at h
    cases h
    exact Or.inl ⟨hold, rfl, rfl⟩
  · rw [if_neg hold] at h
    obtain ⟨taken, htaken, hrest⟩ := Fallible.bind_eq_ok h
    refine Or.inr ⟨Nat.le_of_not_lt hold, taken, ?_⟩
    cases hready : taken.readyFrame with
    | none =>
        simp only [hready] at hrest
        cases hrest
        exact ⟨_, htaken, rfl, Or.inl ⟨rfl, rfl⟩⟩
    | some fragment =>
        simp only [hready] at hrest
        obtain ⟨applied, happlied, hrest⟩ := Fallible.bind_eq_ok hrest
        cases hrest
        exact ⟨1, htaken, rfl, Or.inr ⟨fragment, rfl, happlied⟩⟩

theorem step_eq_ok {receiver after : Receiver δ} {arrival : Arrival}
    (h : step codec receiver arrival = .ok after) :
    ∃ ack, handlePacket codec receiver arrival = .ok (after, ack) := by
  rw [step] at h
  cases hhandled : handlePacket codec receiver arrival with
  | error error => simp [hhandled, Except.map] at h
  | ok result =>
      simp only [hhandled, Except.map] at h
      cases h
      exact ⟨result.2, rfl⟩

/-- At most the next frame is being put together, and what was shown so far was
shown in order and lies behind it. -/
structure InOrder (receiver : Receiver δ) : Prop where
  pending : receiver.Pending
  increasing : receiver.displayed.Pairwise (· < ·)
  behind : ∀ frameNo ∈ receiver.displayed, frameNo < receiver.nextFrameNo

/-- One turn of the handler only adds to what was shown and never steps back. -/
structure Extends (before after : Receiver δ) : Prop where
  frameNo_le : before.nextFrameNo ≤ after.nextFrameNo
  displayed : before.displayed <+: after.displayed

theorem Extends.refl (receiver : Receiver δ) : Extends receiver receiver :=
  ⟨Nat.le_refl _, List.prefix_refl _⟩

theorem Extends.trans {first second third : Receiver δ}
    (hfirst : Extends first second) (hsecond : Extends second third) :
    Extends first third :=
  ⟨Nat.le_trans hfirst.frameNo_le hsecond.frameNo_le,
    hfirst.displayed.trans hsecond.displayed⟩

theorem inOrder_start (player : δ) : InOrder (start codec player) where
  pending key hkey := absurd hkey (PartialMap.not_mem_empty key)
  increasing := List.Pairwise.nil
  behind _ hframeNo := absurd hframeNo List.not_mem_nil

theorem enqueueFrame_order {receiver shown : Receiver δ} {frame : List UInt8}
    (horder : InOrder receiver)
    (h : enqueueFrame codec receiver receiver.nextFrameNo frame = .ok shown) :
    shown.displayed.Pairwise (· < ·) ∧
      (∀ frameNo ∈ shown.displayed, frameNo ≤ receiver.nextFrameNo) ∧
      receiver.displayed <+: shown.displayed ∧
      shown.fragmentedFrames = receiver.fragmentedFrames := by
  have hsame : receiver.displayed.Pairwise (· < ·) ∧
      (∀ frameNo ∈ receiver.displayed, frameNo ≤ receiver.nextFrameNo) ∧
      receiver.displayed <+: receiver.displayed ∧
      receiver.fragmentedFrames = receiver.fragmentedFrames :=
    ⟨horder.increasing, fun frameNo hmem => (horder.behind frameNo hmem).le,
      List.prefix_refl _, rfl⟩
  rcases enqueueFrame_cases h with ⟨-, rfl⟩ | ⟨player, display, -, rfl⟩
  · exact hsame
  · cases display with
    | false => exact hsame
    | true =>
        simp only [if_true]
        refine ⟨?_, ?_, List.prefix_append _ _, trivial⟩
        · rw [List.pairwise_append]
          refine ⟨horder.increasing, List.pairwise_singleton _ _, ?_⟩
          intro frameNo hmem last hlast
          rw [List.mem_singleton.mp hlast]
          exact horder.behind frameNo hmem
        · intro frameNo hmem
          rcases List.mem_append.mp hmem with hold | hlast
          · exact (horder.behind frameNo hold).le
          · exact (List.mem_singleton.mp hlast).le

theorem skipTo_order {receiver skipped : Receiver δ} {frameNo : Nat}
    (horder : InOrder receiver) (hlater : receiver.nextFrameNo < frameNo)
    (h : skipTo codec receiver frameNo = .ok skipped) :
    InOrder skipped ∧ Extends receiver skipped ∧
      skipped.nextFrameNo = frameNo := by
  obtain ⟨fragment, shown, -, hshown, rfl, hnone⟩ :=
    skipTo_cases horder.pending hlater h
  obtain ⟨hincreasing, hbehind, hleading, -⟩ := enqueueFrame_order horder hshown
  refine ⟨⟨?_, hincreasing, ?_⟩, ⟨hlater.le, hleading⟩, rfl⟩
  · exact fun key hkey => absurd hkey (hnone key)
  · exact fun number hmem => Nat.lt_of_le_of_lt (hbehind number hmem) hlater

theorem catchUp_order {receiver current : Receiver δ} {packet : Packet}
    (horder : InOrder receiver)
    (hframeNo : receiver.nextFrameNo ≤ packet.frameNo.toNat)
    (h : catchUp codec receiver packet = .ok current) :
    InOrder current ∧ Extends receiver current ∧
      current.nextFrameNo = packet.frameNo.toNat := by
  rcases catchUp_cases h with ⟨hlater, rfl⟩ | ⟨hlater, hskip⟩
  · exact ⟨horder, Extends.refl current, by omega⟩
  · exact skipTo_order horder hlater hskip

theorem takeIn_order {receiver taken : Receiver δ} {packet : Packet}
    (horder : InOrder receiver)
    (hframeNo : receiver.nextFrameNo ≤ packet.frameNo.toNat)
    (h : takeIn codec receiver packet = .ok taken) :
    InOrder taken ∧ Extends receiver taken ∧
      taken.nextFrameNo = packet.frameNo.toNat := by
  obtain ⟨current, hcurrent, hadd⟩ := takeIn_cases h
  obtain ⟨horder, hextends, hnext⟩ := catchUp_order horder hframeNo hcurrent
  obtain ⟨fragment, frames, -, rfl, -, hkeys⟩ := addToFrame_cases hadd
  refine ⟨⟨?_, horder.increasing, horder.behind⟩,
    ⟨hextends.frameNo_le, hextends.displayed⟩, hnext⟩
  intro key hkey
  rcases hkeys key hkey with rfl | hold
  · exact hnext.symm
  · exact horder.pending key hold

theorem completeFrame_order {receiver applied : Receiver δ}
    {fragment : FragmentedFrame} (horder : InOrder receiver)
    (h : completeFrame codec receiver fragment = .ok applied) :
    InOrder applied ∧ Extends receiver applied := by
  obtain ⟨cleaned, hcleaned, happly⟩ := completeFrame_cases h
  -- neither the load nor the clean-up touches frames or display
  obtain ⟨horderCleaned, hnext, hdisplayed⟩ : InOrder cleaned ∧
      cleaned.nextFrameNo = receiver.nextFrameNo ∧
      cleaned.displayed = receiver.displayed := by
    have hloaded : InOrder (receiver.loadSource fragment.sourceState) ∧
        (receiver.loadSource fragment.sourceState).nextFrameNo =
          receiver.nextFrameNo ∧
        (receiver.loadSource fragment.sourceState).displayed =
          receiver.displayed := by
      rcases loadSource_cases receiver fragment.sourceState with
        ⟨hsame, -⟩ | ⟨decoder, -, -, hload⟩
      · rw [hsame]
        exact ⟨horder, rfl, rfl⟩
      · rw [hload]
        exact ⟨⟨horder.pending, horder.increasing, horder.behind⟩, rfl, rfl⟩
    obtain ⟨hloadedOrder, hloadedNext, hloadedShown⟩ := hloaded
    rcases cleanUp_cases hcleaned with ⟨rfl, -⟩ | ⟨-, -, -, rfl⟩
    · exact ⟨hloadedOrder, hloadedNext, hloadedShown⟩
    · exact ⟨⟨hloadedOrder.pending, hloadedOrder.increasing,
        hloadedOrder.behind⟩, hloadedNext, hloadedShown⟩
  obtain ⟨frame, shown, -, hshown, rfl⟩ := applyFrame_cases happly
  obtain ⟨hincreasing, hbehind, hleading, hframes⟩ :=
    enqueueFrame_order horderCleaned hshown
  refine ⟨⟨?_, hincreasing, ?_⟩, ⟨?_, ?_⟩⟩
  · intro key hkey
    rw [PartialMap.mem_erase, hframes] at hkey
    exact absurd (horderCleaned.pending key hkey.2) hkey.1
  · exact fun number hmem => Nat.lt_succ_of_le (hbehind number hmem)
  · simp only [hnext]
    exact Nat.le_succ _
  · rwa [← hdisplayed]

theorem handlePacket_order {receiver after : Receiver δ} {arrival : Arrival}
    {ack : Option AckPacket} (horder : InOrder receiver)
    (h : handlePacket codec receiver arrival = .ok (after, ack)) :
    InOrder after ∧ Extends receiver after := by
  rcases handlePacket_cases h with
    ⟨-, rfl, -⟩ | ⟨hframeNo, taken, finish, htaken, -, hend⟩
  · exact ⟨horder, Extends.refl after⟩
  · obtain ⟨htakenOrder, hextends, -⟩ := takeIn_order horder hframeNo htaken
    rcases hend with ⟨-, rfl⟩ | ⟨fragment, -, hcomplete⟩
    · exact ⟨htakenOrder, hextends⟩
    · obtain ⟨hafter, hlater⟩ := completeFrame_order htakenOrder hcomplete
      exact ⟨hafter, hextends.trans hlater⟩

theorem run_order {before after : Receiver δ} {arrivals : List Arrival}
    (horder : InOrder before) (h : run codec before arrivals = .ok after) :
    InOrder after ∧ Extends before after := by
  refine Fallible.foldlM_invariant
    (fun receiver => InOrder receiver ∧ Extends before receiver) ?_
    ⟨horder, Extends.refl before⟩ h
  intro receiver next arrival _ hinv hstep
  obtain ⟨ack, hhandled⟩ := step_eq_ok hstep
  obtain ⟨hnext, hextends⟩ := handlePacket_order hinv.1 hhandled
  exact ⟨hnext, hinv.2.trans hextends⟩

/-- In every run the only frame under construction is the next one, the handler
never steps back, and the frames shown form an increasing sequence that only
grows. -/
theorem run_progress (codec : Codec δ ε) (player : δ)
    {arrivals more : List Arrival} {before after : Receiver δ}
    (hbefore : run codec (start codec player) arrivals = .ok before)
    (hafter : run codec before more = .ok after) :
    (∀ key, after.fragmentedFrames.Mem key → key = after.nextFrameNo) ∧
      before.nextFrameNo ≤ after.nextFrameNo ∧
      before.displayed <+: after.displayed ∧
      after.displayed.Pairwise (· < ·) := by
  obtain ⟨horder, -⟩ := run_order (inOrder_start player) hbefore
  obtain ⟨horder, hextends⟩ := run_order horder hafter
  exact ⟨horder.pending, hextends.frameNo_le, hextends.displayed,
    horder.increasing⟩

/-- A decoder that is its own hash and looks up what a chunk does to it. -/
def tableCodec (table : List ((UInt32 × List UInt8) × UInt32))
    (otherwise : UInt32) : Codec UInt32 Unit where
  minihash := id
  decode player frame :=
    .ok ((table.lookup (player, frame)).getD otherwise, true)

def smallPacket (frameNo sourceState targetState : UInt32) (byte : UInt8) :
    Packet :=
  FragmentedFrame.fragment {
    connectionId := connectionId
    sourceState := sourceState
    targetState := targetState
    frameNo := frameNo
    timeSinceLast := 0
    framePushTimestamp := 0
    rttAverage := 0
    throughput := 0
    clock := fun _ => 0 } [byte] 0

def sampleCodec : Codec UInt32 Unit :=
  tableCodec [((1, [5]), 2), ((2, [6]), 3)] 9

theorem run_progress_two_frames :
    ∃ after,
      run sampleCodec (start sampleCodec 1)
          [⟨smallPacket 0 1 2 5, 0, 0, 0⟩, ⟨smallPacket 1 2 3 6, 0, 0, 0⟩] =
        .ok after ∧
      (∀ key, after.fragmentedFrames.Mem key → key = after.nextFrameNo) ∧
      after.displayed.Pairwise (· < ·) := by
  obtain ⟨after, hafter⟩ : ∃ after,
      run sampleCodec (start sampleCodec 1)
          [⟨smallPacket 0 1 2 5, 0, 0, 0⟩, ⟨smallPacket 1 2 3 6, 0, 0, 0⟩] =
        .ok after := ⟨_, rfl⟩
  have hstart : run sampleCodec (start sampleCodec 1) [] =
      .ok (start sampleCodec 1) := rfl
  obtain ⟨hpending, -, -, hincreasing⟩ :=
    run_progress sampleCodec 1 hstart hafter
  exact ⟨after, hafter, hpending, hincreasing⟩

end Salsify.Session.Receiver
