import Salsify.Lib.Precedence
import Salsify.Session.SourceStored

namespace Salsify.Session

open Salsify.Net

/-! Whether the receiver still holds the source of a frame that the sender chose
conservatively. -/

variable {η δ ε : Type} {codec : Codec δ ε}

def savedStates (completions : List Completion) : List UInt32 :=
  (completions.filter Completion.saved).map Completion.targetState

theorem savedStates_completion (fragment : FragmentedFrame)
    (after : Receiver δ) :
    savedStates [Joint.completion fragment after] =
      if after.currentState = fragment.targetState ∧
          after.currentState ≠ after.initialState then
        [after.currentState]
      else [] := by
  by_cases hfull : after.currentState = fragment.targetState ∧
      after.currentState ≠ after.initialState
  · have hsaved : (Joint.completion fragment after).saved = true := by
      simpa only [Joint.completion, Bool.and_eq_true, beq_iff_eq, bne_iff_ne]
        using hfull
    rw [if_pos hfull, savedStates, List.filter_cons_of_pos hsaved, hfull.1]
    rfl
  · have hsaved : ¬ (Joint.completion fragment after).saved = true := by
      simpa only [Joint.completion, Bool.and_eq_true, beq_iff_eq, bne_iff_ne]
        using hfull
    rw [if_neg hfull, savedStates, List.filter_cons_of_neg hsaved]
    rfl

@[simp] theorem savedStates_append (completions more : List Completion) :
    savedStates (completions ++ more) =
      savedStates completions ++ savedStates more := by
  simp [savedStates]

/-- A frame was completed whose source the receiver had saved after `state`. -/
def Superseded (completions : List Completion) (state : UInt32) : Prop :=
  ∃ earlier completion later, completions = earlier ++ completion :: later ∧
    Precedes (savedStates earlier) state completion.sourceState

theorem Superseded.mem {completions : List Completion} {state : UInt32}
    (h : Superseded completions state) : state ∈ savedStates completions := by
  obtain ⟨earlier, completion, later, rfl, hbefore⟩ := h
  rw [savedStates_append]
  exact List.mem_append_left _ hbefore.mem

theorem superseded_concat {completions : List Completion}
    {completion : Completion} {state : UInt32} :
    Superseded (completions ++ [completion]) state ↔
      Superseded completions state ∨
        Precedes (savedStates completions) state completion.sourceState := by
  constructor
  · rintro ⟨earlier, found, later, hsplit, hbefore⟩
    rcases List.eq_nil_or_concat later with rfl | ⟨front, last, rfl⟩
    · obtain ⟨rfl, hsame⟩ := List.append_inj' hsplit rfl
      cases hsame
      exact Or.inr hbefore
    · left
      refine ⟨earlier, found, front, ?_, hbefore⟩
      rw [List.concat_eq_append, ← List.cons_append, ← List.append_assoc]
        at hsplit
      exact (List.append_inj' hsplit rfl).1
  · rintro (⟨earlier, found, later, rfl, hbefore⟩ | hbefore)
    · exact ⟨earlier, found, later ++ [completion], by simp, hbefore⟩
    · exact ⟨completions, completion, [], rfl, hbefore⟩

theorem mem_of_distinct {sent : List Dispatch} {dispatch other : Dispatch}
    (hdistinct : (sent.map fun dispatch => dispatch.frame.targetState).Nodup)
    (hdispatch : dispatch ∈ sent) (hother : other ∈ sent)
    (htarget : dispatch.frame.targetState = other.frame.targetState) :
    dispatch = other :=
  List.inj_on_of_nodup_map hdistinct hdispatch hother htarget

namespace Receiver

def Underway (sent : List Dispatch)
    (frames : PartialMap Nat FragmentedFrame) : Prop :=
  ∀ key fragment, frames key = some fragment →
    ∃ dispatch whole clock got, dispatch ∈ sent ∧
      dispatch.frame = SentFrame.fragmented whole ∧
      key = whole.header.frameNo.toNat ∧
      fragment = whole.arrived clock got

theorem joined_arrived {sent : List Dispatch} {receiver : Receiver δ}
    {dispatch : Dispatch} {whole : SentFrame} {index : Nat} {timestamp : UInt32}
    {fragment : FragmentedFrame}
    (hdistinct : (sent.map fun dispatch => dispatch.frame.targetState).Nodup)
    (hunderway : Underway sent receiver.fragmentedFrames)
    (hdispatch : dispatch ∈ sent) (hframe : dispatch.frame = whole.fragmented)
    (hindex : index < whole.count)
    (h : joined receiver (whole.packet index timestamp) = .ok fragment) :
    ∃ same clock got, dispatch.frame = SentFrame.fragmented same ∧
      fragment = same.arrived clock got := by
  rw [joined] at h
  split at h
  · next old hold =>
      obtain ⟨other, same, clock, got, hother, hsame, -, rfl⟩ :=
        hunderway receiver.nextFrameNo old (by
          split at hold
          · exact hold
          · cases hold)
      have htarget := (FragmentedFrame.addPacket_cases h).1.targetState
      obtain rfl : dispatch = other := by
        apply mem_of_distinct hdistinct hdispatch hother
        rw [hframe, hsame]
        exact htarget
      obtain ⟨hindex, hpacket⟩ :=
        SentFrame.packet_congr (hsame.symm.trans hframe) hindex timestamp
      obtain ⟨later, hadded⟩ :=
        same.addPacket_arrived clock got hindex timestamp
      rw [hpacket, hadded] at h
      exact ⟨same, later, _, hsame, (Except.ok.inj h).symm⟩
  · have hconnection : whole.header.connectionId = connectionId := by
      rw [FragmentedFrame.incoming] at h
      obtain ⟨_, hcheck, -⟩ := Fallible.bind_eq_ok h
      exact (FragmentedFrame.matches_of_sanityCheck hcheck).connectionId
    rw [← hconnection, whole.incoming_packet hindex timestamp] at h
    exact ⟨whole, _, _, hframe, (Except.ok.inj h).symm⟩

/-- The receiver against its log: what is listed are the states saved last, and
a state is listed until a frame from a later one has been completed. -/
structure Logged (codec : Codec δ ε) (player : δ) (sent : List Dispatch)
    (completions : List Completion) (receiver : Receiver δ) : Prop where
  order : InOrder receiver
  store : Store codec receiver
  current : receiver.currentState = codec.minihash receiver.player
  initialState : receiver.initialState = codec.minihash player
  initial : receiver.decoders.Mem receiver.initialState
  underway : Underway sent receiver.fragmentedFrames
  numbered : ∀ state ∈ savedStates completions, ∃ dispatch ∈ sent,
    dispatch.frame.targetState = state ∧
      dispatch.frame.frameNo.toNat < receiver.nextFrameNo
  nodup : (savedStates completions).Nodup
  listed : receiver.completeStates <:+ savedStates completions
  kept : ∀ state ∈ savedStates completions,
    state ∈ receiver.completeStates ↔ ¬ Superseded completions state
  notInitial : ∀ state ∈ savedStates completions,
    state ≠ receiver.initialState

theorem logged_start (player : δ) :
    Logged codec player [] [] (start codec player) where
  order := inOrder_start player
  store := store_start player
  current := rfl
  initialState := rfl
  initial := PartialMap.mem_insert.mpr (Or.inl rfl)
  underway _ _ hentry := by cases hentry
  numbered _ hstate := absurd hstate List.not_mem_nil
  nodup := List.nodup_nil
  listed := List.suffix_refl _
  kept _ hstate := absurd hstate List.not_mem_nil
  notInitial _ hstate := absurd hstate List.not_mem_nil

section Turn

variable {player : δ} {sent : List Dispatch} {completions : List Completion}
  {receiver : Receiver δ}

theorem Logged.mono {more : List Dispatch} (hsubset : sent ⊆ more)
    (h : Logged codec player sent completions receiver) :
    Logged codec player more completions receiver :=
  { h with
    underway := fun key fragment hentry => by
      obtain ⟨dispatch, whole, clock, got, hdispatch, hrest⟩ :=
        h.underway key fragment hentry
      exact ⟨dispatch, whole, clock, got, hsubset hdispatch, hrest⟩
    numbered := fun state hstate => by
      obtain ⟨dispatch, hdispatch, hrest⟩ := h.numbered state hstate
      exact ⟨dispatch, hsubset hdispatch, hrest⟩ }

theorem takeIn_current {taken : Receiver δ} {packet : Packet}
    (horder : InOrder receiver)
    (hcurrent : receiver.currentState = codec.minihash receiver.player)
    (h : takeIn codec receiver packet = .ok taken) :
    taken.currentState = codec.minihash taken.player := by
  obtain ⟨caughtUp, hcaughtUp, hadd⟩ := takeIn_cases h
  obtain ⟨fragment, frames, -, rfl, -, -⟩ := addToFrame_cases hadd
  rcases catchUp_cases hcaughtUp with ⟨-, rfl⟩ | ⟨hlater, hskip⟩
  · exact hcurrent
  · obtain ⟨old, shown, -, -, rfl, -⟩ :=
      skipTo_cases horder.pending hlater hskip
    rfl

structure Carried (sent : List Dispatch) (packet : Packet)
    (dispatch : Dispatch) : Prop where
  mem : dispatch ∈ sent
  packet : ∃ whole index timestamp,
    dispatch.frame = SentFrame.fragmented whole ∧ index < whole.count ∧
      packet = whole.packet index timestamp

theorem takeIn_logged {taken : Receiver δ} {packet : Packet}
    {dispatch : Dispatch}
    (hdistinct : (sent.map fun dispatch => dispatch.frame.targetState).Nodup)
    (h : Logged codec player sent completions receiver)
    (hcarried : Carried sent packet dispatch)
    (hframeNo : receiver.nextFrameNo ≤ packet.frameNo.toNat)
    (htaken : takeIn codec receiver packet = .ok taken) :
    Logged codec player sent completions taken := by
  obtain ⟨horder, hextends, hnext⟩ := takeIn_order h.order hframeNo htaken
  have hsame := takeIn_sameStore h.order htaken
  refine {
    order := horder
    store := hsame.store h.store
    current := takeIn_current h.order h.current htaken
    initialState := hsame.initialState.trans h.initialState
    initial := by
      rw [hsame.decoders, hsame.initialState]
      exact h.initial
    underway := ?_
    numbered := ?_
    nodup := h.nodup
    listed := by
      rw [hsame.completeStates]
      exact h.listed
    kept := by
      rw [hsame.completeStates]
      exact h.kept
    notInitial := by
      rw [hsame.initialState]
      exact h.notInitial }
  · -- the only entry is that of the frame that the packet has joined
    intro key entry hentry
    obtain ⟨whole, index, timestamp, hframe, hindex, rfl⟩ := hcarried.packet
    obtain ⟨fragment, hjoined, hstored⟩ :=
      takeIn_joined h.order hframeNo htaken
    obtain ⟨same, clock, got, hsameFrame, hfragment⟩ := joined_arrived hdistinct
      h.underway hcarried.mem hframe hindex hjoined
    have hkey := horder.pending key (PartialMap.mem_def.mpr ⟨entry, hentry⟩)
    rw [hkey, hstored] at hentry
    refine ⟨dispatch, same, clock, got, hcarried.mem, hsameFrame, ?_,
      (Option.some.inj hentry).symm.trans hfragment⟩
    have hnumber := congrArg FragmentedFrame.frameNo
      (hframe.symm.trans hsameFrame)
    rw [hkey, hnext]
    exact congrArg UInt32.toNat hnumber
  · intro state hstate
    obtain ⟨other, hother, htarget, hlt⟩ := h.numbered state hstate
    exact ⟨other, hother, htarget, Nat.lt_of_lt_of_le hlt hextends.frameNo_le⟩

theorem Logged.nodup_completeStates
    (h : Logged codec player sent completions receiver) :
    receiver.completeStates.Nodup :=
  h.nodup.sublist h.listed.sublist

theorem cleanUp_kept {cleaned : Receiver δ} {source : UInt32}
    (h : Logged codec player sent completions receiver)
    (hclean : cleanUp (receiver.loadSource source) source =
      (.ok cleaned : Except (HandlerError ε) (Receiver δ))) :
    cleaned.completeStates <:+ receiver.completeStates ∧
      ∀ state ∈ receiver.completeStates,
        state ∈ cleaned.completeStates ↔
          ¬ Precedes (savedStates completions) state source := by
  have hsame := loadSource_sameStore receiver source
  obtain ⟨older, holder⟩ := h.listed
  have hnodup := h.nodup
  rw [← holder] at hnodup ⊢
  rcases cleanUp_cases hclean with
    ⟨rfl, hskipped⟩ | ⟨hcurrent, hinitial, hmem, rfl⟩
  · rw [hsame.completeStates]
    refine ⟨List.suffix_refl _, fun state hstate => iff_of_true hstate ?_⟩
    apply not_precedes_append hnodup hstate
    intro hsource
    apply hskipped
    refine ⟨loadSource_currentState (h.store.listed source hsource), ?_⟩
    rw [hsame.initialState]
    exact h.notInitial source (h.listed.subset hsource)
  · dsimp only
    rw [hsame.completeStates] at hmem ⊢
    refine ⟨List.dropWhile_suffix _, fun state hstate => ?_⟩
    rw [precedes_append_iff hnodup hstate hmem]
    exact mem_dropWhile_ne_iff h.nodup_completeStates hstate

theorem cleanUp_whole {cleaned : Receiver δ} {source : UInt32}
    (h : Logged codec player sent completions receiver)
    (hclean : cleanUp (receiver.loadSource source) source =
      (.ok cleaned : Except (HandlerError ε) (Receiver δ))) :
    Store codec cleaned ∧ cleaned.initialState = receiver.initialState ∧
      cleaned.decoders.Mem cleaned.initialState := by
  have hsame := loadSource_sameStore receiver source
  have hloaded := hsame.store h.store
  rcases cleanUp_cases hclean with
    ⟨rfl, -⟩ | ⟨hcurrent, hinitial, hmem, hcleaned⟩
  · refine ⟨hloaded, hsame.initialState, ?_⟩
    rw [hsame.decoders, hsame.initialState]
    exact h.initial
  · have hlisted := (cleanUp_listed_iff hloaded.listed hcurrent hinitial
      hclean).mpr (by
        intro state hdropped hkept
        rw [hsame.completeStates] at hdropped hkept
        exact (mem_dropWhile_ne_iff h.nodup_completeStates
          ((List.takeWhile_prefix _).subset hdropped)).mp hkept hdropped)
    refine ⟨⟨cleanUp_known hloaded.known hclean, hlisted⟩, ?_, ?_⟩
    · rw [hcleaned]
      exact hsame.initialState
    · rw [hcleaned]
      dsimp only
      rw [PartialMap.mem_eraseAll, hsame.initialState, hsame.decoders,
        hsame.completeStates]
      refine ⟨fun hdropped => ?_, h.initial⟩
      exact h.notInitial _ (h.listed.subset
        ((List.takeWhile_prefix _).subset hdropped)) rfl

theorem completeFrame_nextFrameNo {applied : Receiver δ}
    {fragment : FragmentedFrame}
    (h : completeFrame codec receiver fragment = .ok applied) :
    applied.nextFrameNo = receiver.nextFrameNo + 1 := by
  obtain ⟨cleaned, hcleaned, happly⟩ := completeFrame_cases h
  obtain ⟨frame, shown, -, -, rfl⟩ := applyFrame_cases happly
  have hload : (receiver.loadSource fragment.sourceState).nextFrameNo =
      receiver.nextFrameNo := by
    rcases loadSource_cases receiver fragment.sourceState with
      ⟨hload, -⟩ | ⟨_, -, -, hload⟩
    · rw [hload]
    · rw [hload]
  rcases cleanUp_cases hcleaned with ⟨rfl, -⟩ | ⟨-, -, -, rfl⟩
  · rw [hload]
  · rw [hload]

theorem applyFrame_saves {cleaned applied : Receiver δ}
    {fragment : FragmentedFrame}
    (h : applyFrame codec cleaned fragment = .ok applied) :
    applied.initialState = cleaned.initialState ∧
      applied.completeStates = cleaned.completeStates ++
        savedStates [Joint.completion fragment applied] ∧
      (∀ state, cleaned.decoders.Mem state → applied.decoders.Mem state) ∧
      ∀ state ∈ savedStates [Joint.completion fragment applied],
        state = fragment.targetState ∧ state ≠ cleaned.initialState := by
  obtain ⟨frame, shown, -, hshown, rfl⟩ := applyFrame_cases h
  have hsame := enqueueFrame_sameStore hshown
  rw [savedStates_completion, ← hsame.initialState, ← hsame.completeStates,
    ← hsame.decoders]
  by_cases hfull : codec.minihash shown.player = fragment.targetState ∧
      codec.minihash shown.player ≠ shown.initialState
  · simp only [if_pos hfull]
    refine ⟨trivial, trivial, ?_, ?_⟩
    · exact fun state hstate => PartialMap.mem_insert.mpr (Or.inr hstate)
    · intro state hstate
      rw [List.mem_singleton.mp hstate]
      exact hfull
  · simp only [if_neg hfull, List.append_nil]
    refine ⟨trivial, trivial, fun _ hstate => hstate, ?_⟩
    exact fun _ hstate => absurd hstate List.not_mem_nil

theorem Logged.target_not_saved {fragment : FragmentedFrame}
    (hdistinct : (sent.map fun dispatch => dispatch.frame.targetState).Nodup)
    (h : Logged codec player sent completions receiver)
    (hready : receiver.readyFrame = some fragment) :
    ∃ dispatch ∈ sent, dispatch.frame.targetState = fragment.targetState ∧
      dispatch.frame.frameNo.toNat = receiver.nextFrameNo ∧
      fragment.targetState ∉ savedStates completions := by
  obtain ⟨hentry, -⟩ := readyFrame_eq_some hready
  obtain ⟨dispatch, whole, clock, got, hdispatch, hframe, hkey, rfl⟩ :=
    h.underway _ _ hentry
  have htarget : dispatch.frame.targetState = whole.header.targetState := by
    rw [hframe]
    rfl
  have hnumber : dispatch.frame.frameNo.toNat = receiver.nextFrameNo := by
    rw [hframe, hkey]
    rfl
  refine ⟨dispatch, hdispatch, htarget, hnumber, ?_⟩
  intro hsaved
  obtain ⟨other, hother, hsame, hlt⟩ := h.numbered _ hsaved
  obtain rfl : other = dispatch :=
    mem_of_distinct hdistinct hother hdispatch (hsame.trans htarget.symm)
  omega

theorem completeFrame_logged {applied : Receiver δ}
    {fragment : FragmentedFrame}
    (hdistinct : (sent.map fun dispatch => dispatch.frame.targetState).Nodup)
    (h : Logged codec player sent completions receiver)
    (hready : receiver.readyFrame = some fragment)
    (hcomplete : completeFrame codec receiver fragment = .ok applied) :
    Logged codec player sent
      (completions ++ [Joint.completion fragment applied]) applied := by
  obtain ⟨cleaned, hclean, happly⟩ := completeFrame_cases hcomplete
  obtain ⟨hsuffix, hkept⟩ := cleanUp_kept h hclean
  obtain ⟨hstore, hinitialState, hinitial⟩ := cleanUp_whole h hclean
  obtain ⟨hsameInitial, hlisted, hdecoders, hsaved⟩ := applyFrame_saves happly
  obtain ⟨dispatch, hdispatch, htarget, hnumber, hfresh⟩ :=
    h.target_not_saved hdistinct hready
  have hnext := completeFrame_nextFrameNo hcomplete
  refine {
    order := (completeFrame_order h.order hcomplete).1
    store := applyFrame_store hstore happly
    current := completeFrame_current hcomplete
    initialState := hsameInitial.trans (hinitialState.trans h.initialState)
    initial := by
      rw [hsameInitial]
      exact hdecoders _ hinitial
    underway := fun key entry hentry =>
      h.underway key entry (completeFrame_entries hcomplete hentry)
    numbered := ?_
    nodup := ?_
    listed := ?_
    kept := ?_
    notInitial := ?_ }
  · rw [savedStates_append, hnext]
    intro state hstate
    rcases List.mem_append.mp hstate with hold | hnew
    · obtain ⟨other, hother, hsame, hlt⟩ := h.numbered state hold
      exact ⟨other, hother, hsame, Nat.lt_succ_of_lt hlt⟩
    · exact ⟨dispatch, hdispatch, htarget.trans (hsaved state hnew).1.symm,
        Nat.lt_succ_of_le hnumber.le⟩
  · rw [savedStates_append, List.nodup_append]
    refine ⟨h.nodup, ?_, ?_⟩
    · rw [savedStates_completion]
      split
      · exact List.nodup_singleton _
      · exact List.nodup_nil
    · rintro state hold _ hnew rfl
      exact hfresh ((hsaved state hnew).1 ▸ hold)
  · rw [hlisted, savedStates_append]
    obtain ⟨older, holder⟩ := hsuffix.trans h.listed
    exact ⟨older, by rw [← List.append_assoc, holder]⟩
  · rw [savedStates_append, hlisted]
    intro state hstate
    rw [superseded_concat, List.mem_append, not_or]
    rcases List.mem_append.mp hstate with hold | hnew
    · have hother : state ∉
          savedStates [Joint.completion fragment applied] :=
        fun hnew => hfresh ((hsaved state hnew).1 ▸ hold)
      rw [or_iff_left hother, ← h.kept state hold]
      constructor
      · intro hstays
        have hbefore := hsuffix.subset hstays
        exact ⟨hbefore, (hkept state hbefore).mp hstays⟩
      · rintro ⟨hbefore, hnot⟩
        exact (hkept state hbefore).mpr hnot
    · have hunsaved : state ∉ savedStates completions :=
        fun hold => hfresh ((hsaved state hnew).1 ▸ hold)
      exact iff_of_true (Or.inr hnew)
        ⟨fun hsuperseded => hunsaved hsuperseded.mem,
          fun hbefore => hunsaved hbefore.mem⟩
  · rw [savedStates_append, hsameInitial, hinitialState]
    intro state hstate
    rcases List.mem_append.mp hstate with hold | hnew
    · exact h.notInitial state hold
    · rw [← hinitialState]
      exact (hsaved state hnew).2

theorem handlePacket_logged {after : Receiver δ} {arrival : Arrival}
    {ack : Option AckPacket} {dispatch : Dispatch}
    (hdistinct : (sent.map fun dispatch => dispatch.frame.targetState).Nodup)
    (h : Logged codec player sent completions receiver)
    (hcarried : Carried sent arrival.packet dispatch)
    (hhandled : handlePacket codec receiver arrival = .ok (after, ack)) :
    Logged codec player sent
      (completions ++
        (receiver.completedFrame codec arrival.packet).toList.map
          (Joint.completion · after)) after := by
  rcases handlePacket_cases hhandled with
    ⟨hold, rfl, -⟩ | ⟨hframeNo, taken, finish, htaken, -, hend⟩
  · rw [completedFrame, if_pos hold]
    simpa using h
  · rw [completedFrame, if_neg (Nat.not_lt_of_le hframeNo)]
    simp only [htaken]
    have hlogged := takeIn_logged hdistinct h hcarried hframeNo htaken
    rcases hend with ⟨hnone, rfl⟩ | ⟨fragment, hready, hcomplete⟩
    · rw [hnone]
      simpa using hlogged
    · rw [hready]
      exact completeFrame_logged hdistinct hlogged hready hcomplete

theorem handlePacket_completed {after : Receiver δ} {arrival : Arrival}
    {ack : Option AckPacket} {fragment : FragmentedFrame}
    (h : handlePacket codec receiver arrival = .ok (after, ack))
    (hcompletes : receiver.completedFrame codec arrival.packet =
      some fragment) :
    ∃ taken, receiver.nextFrameNo ≤ arrival.packet.frameNo.toNat ∧
      takeIn codec receiver arrival.packet = .ok taken ∧
      taken.readyFrame = some fragment ∧
      completeFrame codec taken fragment = .ok after := by
  rcases handlePacket_cases h with
    ⟨hold, -, -⟩ | ⟨hframeNo, taken, finish, htaken, -, hend⟩
  · rw [completedFrame, if_pos hold] at hcompletes
    cases hcompletes
  · rw [completedFrame, if_neg (Nat.not_lt_of_le hframeNo)] at hcompletes
    simp only [htaken] at hcompletes
    rcases hend with ⟨hnone, -⟩ | ⟨found, hready, hcomplete⟩
    · rw [hnone] at hcompletes
      cases hcompletes
    · rw [hready] at hcompletes
      cases hcompletes
      exact ⟨taken, hframeNo, htaken, hready, hcomplete⟩

end Turn

end Receiver

theorem Sender.select_source {sender : Sender η} {now later : Nat}
    {selection : Sender.Selection}
    (h : sender.select now later = .ok selection)
    (hconservative : selection.conservative = true) :
    selection.sourceHash = sender.knownState := by
  rw [Sender.select] at h
  split at h
  · cases h
    rfl
  · split at h
    · split at h
      · cases h
        cases hconservative
      · cases h
        cases hconservative
    · split at h
      · obtain ⟨assumed, -, h⟩ := Fallible.bind_eq_ok h
        cases h
        cases hconservative
      · cases h
        rfl

namespace Joint

variable {parties : Parties η δ ε}

/-- A state that a conservative choice may fall on: the initial one, or one that
the receiver has saved at some time. -/
def Entitled (parties : Parties η δ ε) (completions : List Completion)
    (state : UInt32) : Prop :=
  state = parties.minihash parties.baseEncoder ∨
    state ∈ savedStates completions

structure Recovering (parties : Parties η δ ε) (joint : Joint η δ) :
    Prop where
  initial : joint.sender.initialState =
    parties.minihash parties.baseEncoder
  acks : ∀ ack ∈ joint.acks, ∀ state ∈ ack.completeStates,
    state ∈ savedStates joint.completions
  reported : ∀ state ∈ joint.sender.receiverCompleteStates,
    state ∈ savedStates joint.completions
  job : ∀ job, joint.sender.encodeJobs = some job → job.conservative = true →
    Entitled parties joint.completions (parties.minihash job.encoder)
  sent : ∀ dispatch ∈ joint.sent, dispatch.conservative = true →
    Entitled parties joint.completions dispatch.frame.sourceState
  receiver : ∀ receiver, joint.receiver = some receiver →
    Receiver.Logged parties.codec parties.player joint.sent joint.completions
      receiver

theorem recovering_start (now : Nat) :
    Recovering parties (start parties now) where
  initial := rfl
  acks _ h := absurd h List.not_mem_nil
  reported _ h := absurd h List.not_mem_nil
  job := by rintro _ ⟨⟩
  sent _ h := absurd h List.not_mem_nil
  receiver := by
    rintro _ ⟨⟩
    exact Receiver.logged_start parties.player

theorem encodeStart_recovering {joint : Joint η δ} {sender : Sender η}
    {now later : Nat} (hagreed : Agreed parties joint)
    (h : Recovering parties joint)
    (hstart : joint.sender.encodeStart now later = .ok sender) :
    Recovering parties { joint with sender := sender } := by
  rcases Sender.encodeStart_cases hstart with
    ⟨_, rfl⟩ | ⟨cleaned, selection, encoder, _, hclean, hselect, hencoder, rfl⟩
  · exact h
  · obtain ⟨encoders, hspec, hledger⟩ := hagreed.ledger.cleanUp
    rw [hspec] at hclean
    cases hclean
    refine ⟨h.initial, h.acks, h.reported, ?_, h.sent, h.receiver⟩
    rintro job ⟨⟩ hconservative
    dsimp only
    rw [hledger.store.minihash _ _ hencoder,
      Sender.select_source hselect hconservative]
    rcases Sender.knownState_eq { joint.sender with
        encoderStates := joint.sender.keptStates
        encoders := encoders } with hinitial | hreported
    · exact Or.inl (hinitial.trans h.initial)
    · exact Or.inr (h.reported _ hreported)

theorem encodeEnd_recovering {joint next : Joint η δ}
    {ended : EncodeOutputs η} (h : Recovering parties joint)
    (hend : encodeEnd parties joint ended = .ok next) :
    Recovering parties next := by
  obtain ⟨sender, sent, hended, rfl⟩ := encodeEnd_cases hend
  have hreceiver : ∀ receiver, joint.receiver = some receiver →
      Receiver.Logged parties.codec parties.player
        (joint.sent ++ sent.toList.map fun frame =>
          ⟨frame, joint.sender.encodeJobs.any EncodeJob.conservative⟩)
        joint.completions receiver :=
    fun receiver hsome =>
      (h.receiver receiver hsome).mono (List.subset_append_left _ _)
  rcases Sender.encodeEnd_cases hended with
    ⟨rfl, rfl | ⟨skipped, rfl⟩⟩ |
      ⟨job, picked, frame, fragments, hjob, _, hframe, _, rfl, rfl⟩
  · exact ⟨h.initial, h.acks, h.reported, h.job, by simpa using h.sent,
      hreceiver⟩
  · exact ⟨h.initial, h.acks, h.reported, by rintro _ ⟨⟩,
      by simpa using h.sent, hreceiver⟩
  · refine ⟨h.initial, h.acks, h.reported, by rintro _ ⟨⟩, ?_, hreceiver⟩
    intro dispatch hdispatch hconservative
    rcases List.mem_append.mp hdispatch with hold | hnew
    · exact h.sent dispatch hold hconservative
    · obtain rfl : dispatch =
          ⟨frame, joint.sender.encodeJobs.any EncodeJob.conservative⟩ := by
        simpa using hnew
      obtain ⟨whole, hheader, -, rfl⟩ := SentFrame.outgoing_eq_ok hframe
      have hsource : whole.fragmented.sourceState =
          parties.minihash job.encoder := by
        simp [SentFrame.fragmented, hheader, Sender.frameHeader]
      rw [hjob] at hconservative
      rw [hsource]
      exact h.job job hjob hconservative

theorem receive_recovering {joint : Joint η δ} {receiver : Receiver δ}
    {arrival : Arrival} (hagreed : Agreed parties joint)
    (hdistinct : joint.targets.Nodup) (h : Recovering parties joint)
    (hreceiver : joint.receiver = some receiver)
    (hpacket : joint.InFlight arrival.packet) :
    Recovering parties (receive parties joint receiver arrival) := by
  rcases @receive_cases _ _ _ parties joint receiver arrival with
    hnone | ⟨after, ack, hhandled, hnext⟩
  · rw [hnone]
    exact ⟨h.initial, h.acks, h.reported, h.job, h.sent, by rintro _ ⟨⟩⟩
  · obtain ⟨dispatch, whole, index, timestamp, hdispatch, hframe, hindex,
      hwhole⟩ := hagreed.cut.packet hpacket
    have hlogged := Receiver.handlePacket_logged hdistinct
      (h.receiver receiver hreceiver)
      ⟨hdispatch, whole, index, timestamp, hframe, hindex, hwhole⟩ hhandled
    rw [hnext]
    have hmore : ∀ state ∈ savedStates joint.completions,
        state ∈ savedStates (joint.completions ++
          (receiver.completedFrame parties.codec arrival.packet).toList.map
            (completion · after)) := by
      intro state hstate
      rw [savedStates_append]
      exact List.mem_append_left _ hstate
    refine ⟨h.initial, ?_, fun state hstate => hmore _ (h.reported _ hstate),
      fun job hjob hconservative =>
        (h.job job hjob hconservative).imp_right (hmore _),
      fun sent hsent hconservative =>
        (h.sent sent hsent hconservative).imp_right (hmore _), ?_⟩
    · intro produced hproduced state hstate
      rcases List.mem_append.mp hproduced with hold | hnew
      · exact hmore _ (h.acks produced hold state hstate)
      · obtain rfl := Option.mem_toList.mp hnew
        rw [(Receiver.handlePacket_ack hhandled).1] at hstate
        exact hlogged.listed.subset hstate
    · rintro _ ⟨⟩
      exact hlogged

theorem handleAck_recovering {joint : Joint η δ} {sender : Sender η}
    {ack : AckPacket} (h : Recovering parties joint) (hack : ack ∈ joint.acks)
    (hhandled : joint.sender.handleAck ack = .ok sender) :
    Recovering parties { joint with sender := sender } := by
  rcases Sender.handleAck_cases hhandled with rfl | ⟨_, _, _, _, rfl⟩
  · exact h
  · exact ⟨h.initial, h.acks, h.acks ack hack, h.job, h.sent, h.receiver⟩

theorem step_sent {joint next : Joint η δ} {event : JointEvent η}
    (hstep : step parties joint event = .ok next) :
    joint.sent <+: next.sent := by
  rcases step_cases hstep with
    rfl | ⟨_, _, _, _, rfl⟩ | ⟨_, hend⟩ | ⟨receiver, arrival, _, _, rfl⟩ |
      ⟨_, _, _, _, rfl⟩
  · exact List.prefix_refl _
  · exact List.prefix_refl _
  · obtain ⟨_, _, _, rfl⟩ := encodeEnd_cases hend
    exact List.prefix_append _ _
  · rw [(receive_sent joint receiver arrival).1]
  · exact List.prefix_refl _

theorem step_recovering {joint next : Joint η δ} {event : JointEvent η}
    (hagreed : Agreed parties joint) (hdistinct : joint.targets.Nodup)
    (h : Recovering parties joint)
    (hstep : step parties joint event = .ok next) :
    Recovering parties next := by
  rcases step_cases hstep with
    rfl | ⟨_, _, sender, hstart, rfl⟩ | ⟨ended, hend⟩ |
      ⟨receiver, arrival, hreceiver, hpacket, rfl⟩ |
      ⟨ack, sender, hack, hhandled, rfl⟩
  · exact h
  · exact encodeStart_recovering hagreed h hstart
  · exact encodeEnd_recovering h hend
  · exact receive_recovering hagreed hdistinct h hreceiver hpacket
  · exact handleAck_recovering h hack hhandled

theorem run_recovering {now : Nat} {events : List (JointEvent η)}
    {joint : Joint η δ}
    (hrun : run parties (start parties now) events = .ok joint)
    (hdistinct : joint.targets.Nodup) : Recovering parties joint := by
  refine (Fallible.foldlM_invariant
    (fun joint => Agreed parties joint ∧
      (joint.targets.Nodup → Recovering parties joint)) ?_
    ⟨agreed_start now, fun _ => recovering_start now⟩ hrun).2 hdistinct
  rintro before next event - ⟨hagreed, hrecovering⟩ hstep
  refine ⟨step_agreed hagreed hstep, fun hnext => ?_⟩
  have hbefore : before.targets.Nodup :=
    hnext.sublist ((step_sent hstep).sublist.map _)
  exact step_recovering hagreed hbefore (hrecovering hbefore) hstep

def ReachesTarget (codec : Codec δ ε) (dispatch : Dispatch) : Prop :=
  ∀ whole player next shown, dispatch.frame.frame = .ok whole →
    codec.minihash player = dispatch.frame.sourceState →
    codec.decode player whole = .ok (next, shown) →
    codec.minihash next = dispatch.frame.targetState

theorem readyFrame_dispatch {sent : List Dispatch}
    {completions : List Completion} {player : δ} {receiver : Receiver δ}
    {fragment : FragmentedFrame} {dispatch : Dispatch}
    (hdistinct : (sent.map fun dispatch => dispatch.frame.targetState).Nodup)
    (h : Receiver.Logged codec player sent completions receiver)
    (hready : receiver.readyFrame = some fragment) (hdispatch : dispatch ∈ sent)
    (htarget : dispatch.frame.targetState = fragment.targetState) :
    fragment.sourceState = dispatch.frame.sourceState ∧
      ∃ whole, whole ≠ [] ∧ dispatch.frame.frame = .ok whole ∧
        fragment.frame = .ok whole := by
  obtain ⟨hentry, hcomplete⟩ := Receiver.readyFrame_eq_some hready
  obtain ⟨other, whole, clock, got, hother, hframe, -, rfl⟩ :=
    h.underway _ _ hentry
  obtain rfl : dispatch = other := by
    apply mem_of_distinct hdistinct hdispatch hother
    rw [htarget, hframe]
    rfl
  rw [hframe]
  exact ⟨rfl, whole.wholeFrame, whole.nonempty, whole.fragmented_frame,
    whole.frame_arrived clock hcomplete⟩

theorem completeFrame_reaches {receiver after : Receiver δ}
    {fragment : FragmentedFrame} {dispatch : Dispatch} {whole : List UInt8}
    (hstore : Receiver.Store codec receiver)
    (hcurrent : receiver.currentState = codec.minihash receiver.player)
    (hsource : fragment.sourceState = dispatch.frame.sourceState)
    (hne : whole ≠ []) (hwhole : dispatch.frame.frame = .ok whole)
    (hframe : fragment.frame = .ok whole)
    (hreaches : ReachesTarget codec dispatch)
    (hheld : receiver.decoders.Mem dispatch.frame.sourceState)
    (h : Receiver.completeFrame codec receiver fragment = .ok after) :
    after.currentState = dispatch.frame.targetState := by
  obtain ⟨cleaned, hclean, happly⟩ := Receiver.completeFrame_cases h
  rw [← hsource] at hheld
  have hloaded := Receiver.loadSource_currentState hheld
  have hplayer : codec.minihash
      (receiver.loadSource fragment.sourceState).player =
        dispatch.frame.sourceState := by
    rw [← hsource]
    rcases Receiver.loadSource_cases receiver fragment.sourceState with
      ⟨hload, -⟩ | ⟨decoder, -, hdecoder, hload⟩
    · rw [hload] at hloaded ⊢
      exact hcurrent.symm.trans hloaded
    · rw [hload]
      exact hstore.known.minihash _ _ hdecoder
  have hcleaned : cleaned.player =
      (receiver.loadSource fragment.sourceState).player := by
    rcases Receiver.cleanUp_cases hclean with ⟨rfl, -⟩ | ⟨-, -, -, rfl⟩
    · rfl
    · rfl
  obtain ⟨bytes, shown, hbytes, hshown, rfl⟩ :=
    Receiver.applyFrame_cases happly
  rw [hframe] at hbytes
  cases hbytes
  rcases Receiver.enqueueFrame_cases hshown with
    ⟨hnil, -⟩ | ⟨player, display, hdecode, rfl⟩
  · exact absurd hnil hne
  · exact hreaches whole _ player display hwhole (hcleaned ▸ hplayer) hdecode

theorem held_iff {joint : Joint η δ} {receiver : Receiver δ} {state : UInt32}
    (h : Receiver.Logged parties.codec parties.player joint.sent
      joint.completions receiver)
    (hentitled : Entitled parties joint.completions state) :
    receiver.decoders.Mem state ↔ ¬ Superseded joint.completions state := by
  rcases hentitled with hinitial | hsaved
  · have hsame : state = receiver.initialState := by
      rw [hinitial, ← parties.initial, h.initialState]
    refine iff_of_true (hsame ▸ h.initial) fun hsuperseded => ?_
    exact h.notInitial state hsuperseded.mem hsame
  · rw [← h.kept state hsaved]
    constructor
    · intro hheld
      exact (h.store.known.key state hheld).resolve_left
        (h.notInitial state hsaved)
    · exact h.store.listed state

/-- When the receiver completes a frame whose source was chosen conservatively,
it holds that source, and so reaches the target, exactly when no frame that it
completed before came from a state saved later. -/
theorem run_recovers_iff (parties : Parties η δ ε) (now : Nat)
    (events : List (JointEvent η)) (joint : Joint η δ)
    (hrun : run parties (start parties now) events = .ok joint)
    (hdistinct : joint.targets.Nodup) (receiver : Receiver δ)
    (hreceiver : joint.receiver = some receiver) (arrival : Arrival)
    (hpacket : joint.InFlight arrival.packet) (fragment : FragmentedFrame)
    (hcompletes : receiver.completedFrame parties.codec arrival.packet =
      some fragment)
    (dispatch : Dispatch) (hdispatch : dispatch ∈ joint.sent)
    (htarget : dispatch.frame.targetState = fragment.targetState)
    (hconservative : dispatch.conservative = true) :
    (receiver.decoders.Mem dispatch.frame.sourceState ∧
      ∀ after ack,
        Receiver.handlePacket parties.codec receiver arrival =
          .ok (after, ack) →
        ReachesTarget parties.codec dispatch →
        after.currentState = dispatch.frame.targetState) ↔
      ¬ Superseded joint.completions dispatch.frame.sourceState := by
  have hrecovering := run_recovering hrun hdistinct
  have hlogged := hrecovering.receiver receiver hreceiver
  rw [← held_iff hlogged (hrecovering.sent dispatch hdispatch hconservative)]
  refine and_iff_left_of_imp fun hheld after ack hhandled hreaches => ?_
  obtain ⟨taken, hframeNo, htaken, hready, hcomplete⟩ :=
    Receiver.handlePacket_completed hhandled hcompletes
  obtain ⟨carrier, whole, index, timestamp, hcarrier, hframe, hindex,
    hwhole⟩ := (run_agreed hrun).cut.packet hpacket
  have htakenLogged := Receiver.takeIn_logged hdistinct hlogged
    ⟨hcarrier, whole, index, timestamp, hframe, hindex, hwhole⟩ hframeNo htaken
  obtain ⟨hsource, bytes, hne, hbytes, hgiven⟩ :=
    readyFrame_dispatch hdistinct htakenLogged hready hdispatch htarget
  refine completeFrame_reaches htakenLogged.store htakenLogged.current
    hsource hne hbytes hgiven hreaches ?_ hcomplete
  rw [(Receiver.takeIn_sameStore hlogged.order htaken).decoders]
  exact hheld

def firstFragments (frame : FragmentedFrame) (count : Nat) : List UInt8 :=
  ((frame.fragments.take count).map Packet.payload).flatten

/-- Frames have targets of their own, which nothing but the whole frame leads
to, and that from its source only. -/
structure Genuine (codec : Codec δ ε) (sent : List Dispatch) : Prop where
  distinct : (sent.map fun dispatch => dispatch.frame.targetState).Nodup
  reaches : ∀ dispatch ∈ sent, ReachesTarget codec dispatch
  begun : ∀ dispatch ∈ sent, ∀ count player next shown, 0 < count →
    count < dispatch.frame.fragments.length →
    codec.decode player (firstFragments dispatch.frame count) =
      .ok (next, shown) →
    codec.minihash next ∉ sent.map fun dispatch => dispatch.frame.targetState
  strayed : ∀ dispatch ∈ sent, ∀ whole player next shown,
    dispatch.frame.frame = .ok whole →
    codec.minihash player ≠ dispatch.frame.sourceState →
    codec.decode player whole = .ok (next, shown) →
    codec.minihash next ∉ sent.map fun dispatch => dispatch.frame.targetState

open Receiver (chunkKey firstByteCodec)

def genuineTable (table : List ((UInt32 × UInt8 × Bool) × UInt32))
    (otherwise : UInt32) (sent : List Dispatch) : Bool :=
  decide (sent.map fun dispatch => dispatch.frame.targetState).Nodup &&
    decide (otherwise ∉ sent.map fun dispatch => dispatch.frame.targetState) &&
    sent.all fun dispatch =>
      Fallible.check (fun whole =>
        decide (table.lookup (dispatch.frame.sourceState, chunkKey whole) =
          some dispatch.frame.targetState) &&
        table.all fun entry => decide (entry.1.2 = chunkKey whole →
          entry.1.1 = dispatch.frame.sourceState)) dispatch.frame.frame &&
      (List.range dispatch.frame.fragments.length).all fun count =>
        count == 0 || table.all fun entry =>
          decide (entry.1.2 ≠ chunkKey (firstFragments dispatch.frame count))

theorem lookup_eq_none {table : List ((UInt32 × UInt8 × Bool) × UInt32)}
    {key : UInt32 × UInt8 × Bool} (h : ∀ entry ∈ table, entry.1 ≠ key) :
    table.lookup key = none := by
  rw [List.lookup_eq_none_iff]
  intro entry hentry
  simpa using fun hkey => h entry hentry hkey.symm

theorem genuine_of_table {table : List ((UInt32 × UInt8 × Bool) × UInt32)}
    {otherwise : UInt32} {sent : List Dispatch}
    (h : genuineTable table otherwise sent = true) :
    Genuine (firstByteCodec table otherwise) sent := by
  simp only [genuineTable, Bool.and_eq_true, decide_eq_true_iff, List.all_eq_true,
    Bool.or_eq_true, beq_iff_eq, List.mem_range] at h
  obtain ⟨⟨hdistinct, hotherwise⟩, hall⟩ := h
  refine ⟨hdistinct, ?_, ?_, ?_⟩
  · intro dispatch hdispatch whole player next shown hwhole hplayer hdecode
    obtain ⟨found, hfound, htest⟩ :=
      Fallible.exists_of_check (hall dispatch hdispatch).1
    obtain rfl := Except.ok.inj (hwhole.symm.trans hfound)
    rw [Bool.and_eq_true, decide_eq_true_iff] at htest
    cases hdecode
    rw [show player = dispatch.frame.sourceState from hplayer, htest.1]
    rfl
  · intro dispatch hdispatch count player next shown hpos hlt hdecode
    have hnone := ((hall dispatch hdispatch).2 count hlt).resolve_left hpos.ne'
    cases hdecode
    rw [lookup_eq_none fun entry hentry hkey =>
      hnone entry hentry (congrArg Prod.snd hkey)]
    exact hotherwise
  · intro dispatch hdispatch whole player next shown hwhole hplayer hdecode
    obtain ⟨found, hfound, htest⟩ :=
      Fallible.exists_of_check (hall dispatch hdispatch).1
    obtain rfl := Except.ok.inj (hwhole.symm.trans hfound)
    simp only [Bool.and_eq_true, List.all_eq_true, decide_eq_true_iff] at htest
    cases hdecode
    rw [lookup_eq_none fun entry hentry hkey => hplayer
      ((congrArg Prod.fst hkey).symm.trans
        (htest.2 entry hentry (congrArg Prod.snd hkey)))]
    exact hotherwise

def discardedTable : List ((UInt32 × UInt8 × Bool) × UInt32) :=
  [((1, 10, false), 2), ((2, 11, true), 3), ((1, 12, true), 4),
    ((1, 13, false), 5), ((1, 14, false), 6), ((6, 15, true), 7),
    ((4, 16, true), 8)]

def discardedParties : Parties UInt32 UInt32 Unit :=
  sampleParties (firstByteCodec discardedTable 9)

/-- Frame zero is lost in part, so that the sender falls back on the initial
state for frames two to four.  It hears of frame two only when the five seconds
are over, sends frame five from frame four, and then hears of the receiver's
state as the first fragment of frame four came in: it falls back on frame two,
whose state the receiver has discarded for frame five. -/
def discardedSource : List (JointEvent UInt32) :=
  [.encodeStart 1 1, .encodeEnd (repeatedOutputs 2 10 true),
    .encodeStart 2 2, .encodeEnd (repeatedOutputs 3 11 false),
    delivery 0 0, delivery 1 0, .ack 1,
    .encodeStart 3 3, .encodeEnd (repeatedOutputs 4 12 false),
    delivery 2 0,
    .encodeStart 4 4, .encodeEnd (repeatedOutputs 5 13 true),
    delivery 3 0,
    .encodeStart 5 5, .encodeEnd (repeatedOutputs 6 14 true),
    delivery 4 0, delivery 4 1, .ack 2,
    .encodeStart 6000000000 6000000000,
    .encodeEnd (repeatedOutputs 7 15 false),
    delivery 5 0, .ack 4,
    .encodeStart 6000000001 6000000001,
    .encodeEnd (repeatedOutputs 8 16 false)]

def sourceLost (joint : Joint UInt32 UInt32) : Option Bool := do
  let receiver ← joint.receiver
  let packet ← joint.packetAt 6 0 0
  let fragment ← receiver.completedFrame discardedParties.codec packet
  let dispatch ← joint.sent[6]?
  return decide (dispatch.frame.targetState = fragment.targetState) &&
    dispatch.conservative &&
    !decide (receiver.decoders.Mem dispatch.frame.sourceState) &&
    Fallible.check
      (fun result =>
        decide (result.1.currentState ≠ dispatch.frame.targetState))
      (Receiver.handlePacket discardedParties.codec receiver ⟨packet, 0, 0, 0⟩)

theorem run_discardedSource :
    ∃ joint receiver packet fragment dispatch,
      run discardedParties (start discardedParties 0) discardedSource =
        .ok joint ∧
      Genuine discardedParties.codec joint.sent ∧
      joint.receiver = some receiver ∧
      joint.packetAt 6 0 0 = some packet ∧
      receiver.completedFrame discardedParties.codec packet = some fragment ∧
      dispatch ∈ joint.sent ∧
      dispatch.frame.targetState = fragment.targetState ∧
      dispatch.conservative = true ∧
      ¬ receiver.decoders.Mem dispatch.frame.sourceState ∧
      ∃ after ack,
        Receiver.handlePacket discardedParties.codec receiver
          ⟨packet, 0, 0, 0⟩ = .ok (after, ack) ∧
        after.currentState ≠ dispatch.frame.targetState := by
  obtain ⟨joint, hrun, htest⟩ := @Fallible.exists_of_check _ _
    (fun joint : Joint UInt32 UInt32 =>
      genuineTable discardedTable 9 joint.sent &&
        decide (sourceLost joint = some true))
    (run discardedParties (start discardedParties 0) discardedSource)
    (by decide +kernel)
  rw [Bool.and_eq_true, decide_eq_true_iff] at htest
  obtain ⟨hgenuine, hlost⟩ := htest
  simp only [sourceLost, Option.bind_eq_bind, Option.bind_eq_some_iff] at hlost
  obtain ⟨receiver, hreceiver, packet, hpacket, fragment, hfragment, dispatch,
    hdispatch, hlost⟩ := hlost
  simp only [Option.pure_def, Option.some.injEq, Bool.and_eq_true,
    decide_eq_true_iff, Bool.not_eq_true', decide_eq_false_iff_not] at hlost
  obtain ⟨⟨⟨htarget, hconservative⟩, hlost⟩, hafter⟩ := hlost
  obtain ⟨⟨after, ack⟩, hhandled, hafter⟩ := Fallible.exists_of_check hafter
  exact ⟨joint, receiver, packet, fragment, dispatch, hrun,
    genuine_of_table hgenuine, hreceiver, hpacket, hfragment,
    List.mem_of_getElem? hdispatch, htarget, hconservative, hlost, after, ack,
    hhandled, of_decide_eq_true hafter⟩

theorem source_discarded :
    ∃ joint receiver arrival fragment dispatch,
      run discardedParties (start discardedParties 0) discardedSource =
        .ok joint ∧
      Genuine discardedParties.codec joint.sent ∧
      joint.receiver = some receiver ∧ joint.InFlight arrival.packet ∧
      receiver.completedFrame discardedParties.codec arrival.packet =
        some fragment ∧
      dispatch ∈ joint.sent ∧
      dispatch.frame.targetState = fragment.targetState ∧
      dispatch.conservative = true ∧
      ¬ receiver.decoders.Mem dispatch.frame.sourceState ∧
      ∃ after ack,
        Receiver.handlePacket discardedParties.codec receiver arrival =
          .ok (after, ack) ∧
        after.currentState ≠ dispatch.frame.targetState := by
  obtain ⟨joint, receiver, packet, fragment, dispatch, hrun, hgenuine,
    hreceiver, hpacket, hrest⟩ := run_discardedSource
  exact ⟨joint, receiver, ⟨packet, 0, 0, 0⟩, fragment, dispatch, hrun, hgenuine,
    hreceiver, ⟨6, 0, 0, hpacket⟩, hrest⟩

theorem run_recovers_discarded :
    ∃ joint dispatch,
      run discardedParties (start discardedParties 0) discardedSource =
        .ok joint ∧
      dispatch ∈ joint.sent ∧ dispatch.conservative = true ∧
      Superseded joint.completions dispatch.frame.sourceState := by
  obtain ⟨joint, receiver, packet, fragment, dispatch, hrun, hgenuine,
    hreceiver, hpacket, hcompletes, hdispatch, htarget, hconservative, hlost,
    -⟩ := run_discardedSource
  refine ⟨joint, dispatch, hrun, hdispatch, hconservative, ?_⟩
  by_contra hnot
  exact hlost ((run_recovers_iff discardedParties 0 discardedSource joint hrun
    hgenuine.distinct receiver hreceiver ⟨packet, 0, 0, 0⟩ ⟨6, 0, 0, hpacket⟩
    fragment hcompletes dispatch hdispatch htarget hconservative).mpr hnot).1

end Joint

end Salsify.Session
