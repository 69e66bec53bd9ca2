import Salsify.Session.ReceiverProgress

namespace Salsify.Session.Receiver

open Salsify.Net

variable {δ ε : Type} {codec : Codec δ ε}

/-! The receiver's store of decoders: the map `decoders` against the list
`complete_states`. -/

/-- The frame that a packet joins, as it stands once the packet is in.  A packet
of a later frame starts a new one. -/
def joined (receiver : Receiver δ) (packet : Packet) :
    Except Failure FragmentedFrame :=
  match (if packet.frameNo.toNat = receiver.nextFrameNo then
      receiver.fragmentedFrames receiver.nextFrameNo else none) with
  | some fragment => fragment.addPacket packet
  | none => FragmentedFrame.incoming connectionId packet

def Completes (receiver : Receiver δ) (packet : Packet) : Prop :=
  ∃ fragment, joined receiver packet = .ok fragment ∧
    fragment.complete = true

theorem takeIn_joined {receiver taken : Receiver δ} {packet : Packet}
    (horder : InOrder receiver)
    (hframeNo : receiver.nextFrameNo ≤ packet.frameNo.toNat)
    (h : takeIn codec receiver packet = .ok taken) :
    ∃ fragment, joined receiver packet = .ok fragment ∧
      taken.fragmentedFrames taken.nextFrameNo = some fragment := by
  obtain ⟨current, hcurrent, hadd⟩ := takeIn_cases h
  obtain ⟨hcurrentOrder, -, hnext⟩ := catchUp_order horder hframeNo hcurrent
  obtain ⟨fragment, frames, hfragment, rfl, hentry, -⟩ := addToFrame_cases hadd
  refine ⟨fragment, ?_, by simpa only [hnext] using hentry⟩
  rcases catchUp_cases hcurrent with ⟨hlater, rfl⟩ | ⟨hlater, hskip⟩
  · have hsame : packet.frameNo.toNat = current.nextFrameNo := by omega
    rw [joined, if_pos hsame, ← hsame]
    rcases hfragment with ⟨old, hold, hadded⟩ | ⟨hnone, hmade⟩
    · simpa only [hold] using hadded
    · simpa only [hnone] using hmade
  · have hother : packet.frameNo.toNat ≠ receiver.nextFrameNo := by omega
    obtain ⟨-, -, -, -, -, hnone⟩ := skipTo_cases horder.pending hlater hskip
    rw [joined, if_neg hother]
    rcases hfragment with ⟨old, hold, -⟩ | ⟨-, hmade⟩
    · have := hnone packet.frameNo.toNat
      exact absurd (by simp [PartialMap.Mem, hold]) this
    · exact hmade

theorem readyFrame_eq_some {receiver : Receiver δ}
    {fragment : FragmentedFrame} (h : receiver.readyFrame = some fragment) :
    receiver.fragmentedFrames receiver.nextFrameNo = some fragment ∧
      fragment.complete = true := by
  simpa [readyFrame, Option.filter_eq_some_iff] using h

theorem joined_matches {receiver : Receiver δ} {packet : Packet}
    {fragment : FragmentedFrame} (h : joined receiver packet = .ok fragment) :
    fragment.Matches packet := by
  rw [joined] at h
  split at h
  · exact FragmentedFrame.Matches.of_addPacket h
  · exact FragmentedFrame.Matches.of_incoming h

/-- Every key is the initial state or is listed, and a decoder is stored under
its own hash. -/
structure Known (codec : Codec δ ε) (receiver : Receiver δ) : Prop where
  key : ∀ state, receiver.decoders.Mem state →
    state = receiver.initialState ∨ state ∈ receiver.completeStates
  minihash : ∀ state decoder, receiver.decoders state = some decoder →
    codec.minihash decoder = state

def Listed (receiver : Receiver δ) : Prop :=
  ∀ state ∈ receiver.completeStates, receiver.decoders.Mem state

structure Store (codec : Codec δ ε) (receiver : Receiver δ) : Prop where
  known : Known codec receiver
  listed : Listed receiver

theorem Store.decoder {receiver : Receiver δ} (h : Store codec receiver)
    {state : UInt32} (hlisted : state ∈ receiver.completeStates) :
    ∃ decoder, receiver.decoders state = some decoder ∧
      codec.minihash decoder = state := by
  obtain ⟨decoder, hdecoder⟩ := PartialMap.mem_def.mp (h.listed state hlisted)
  exact ⟨decoder, hdecoder, h.known.minihash state decoder hdecoder⟩

theorem store_start (player : δ) : Store codec (start codec player) where
  known := {
    key := fun state hstate => Or.inl (by
      rcases PartialMap.mem_insert.mp hstate with rfl | hempty
      · rfl
      · exact absurd hempty (PartialMap.not_mem_empty state))
    minihash := fun state decoder hdecoder => by
      rcases PartialMap.insert_eq_some hdecoder with ⟨rfl, rfl⟩ | hempty
      · rfl
      · cases hempty }
  listed := fun _ hlisted => absurd hlisted List.not_mem_nil

structure SameStore (before after : Receiver δ) : Prop where
  initialState : after.initialState = before.initialState
  decoders : after.decoders = before.decoders
  completeStates : after.completeStates = before.completeStates

theorem SameStore.known {before after : Receiver δ}
    (hsame : SameStore before after) (h : Known codec before) :
    Known codec after where
  key := by
    rw [hsame.decoders, hsame.initialState, hsame.completeStates]
    exact h.key
  minihash := by
    rw [hsame.decoders]
    exact h.minihash

theorem SameStore.listed_iff {before after : Receiver δ}
    (hsame : SameStore before after) : Listed after ↔ Listed before := by
  rw [Listed, Listed, hsame.decoders, hsame.completeStates]

theorem SameStore.store {before after : Receiver δ}
    (hsame : SameStore before after) (h : Store codec before) :
    Store codec after :=
  ⟨hsame.known h.known, hsame.listed_iff.mpr h.listed⟩

theorem enqueueFrame_sameStore {receiver shown : Receiver δ} {frameNo : Nat}
    {frame : List UInt8}
    (h : enqueueFrame codec receiver frameNo frame = .ok shown) :
    SameStore receiver shown := by
  rcases enqueueFrame_cases h with ⟨-, rfl⟩ | ⟨player, display, -, rfl⟩
  · exact ⟨rfl, rfl, rfl⟩
  · exact ⟨rfl, rfl, rfl⟩

theorem takeIn_sameStore {receiver taken : Receiver δ} {packet : Packet}
    (horder : InOrder receiver) (h : takeIn codec receiver packet = .ok taken) :
    SameStore receiver taken := by
  obtain ⟨current, hcurrent, hadd⟩ := takeIn_cases h
  obtain ⟨fragment, frames, -, rfl, -, -⟩ := addToFrame_cases hadd
  rcases catchUp_cases hcurrent with ⟨-, rfl⟩ | ⟨hlater, hskip⟩
  · exact ⟨rfl, rfl, rfl⟩
  · obtain ⟨old, shown, -, hshown, rfl, -⟩ :=
      skipTo_cases horder.pending hlater hskip
    have hsame := enqueueFrame_sameStore hshown
    exact ⟨hsame.initialState, hsame.decoders, hsame.completeStates⟩

theorem loadSource_sameStore (receiver : Receiver δ) (source : UInt32) :
    SameStore receiver (receiver.loadSource source) := by
  rcases loadSource_cases receiver source with ⟨hload, -⟩ | ⟨_, -, -, hload⟩
  · rw [hload]
    exact ⟨rfl, rfl, rfl⟩
  · rw [hload]
    exact ⟨rfl, rfl, rfl⟩

/-- No state listed before the source is listed again at or after it. -/
def Separates (source : UInt32) (states : List UInt32) : Prop :=
  ∀ state ∈ states.takeWhile (· ≠ source), state ∉ states.dropWhile (· ≠ source)

theorem mem_dropWhile_of_not_mem_takeWhile {states : List UInt32}
    {source state : UInt32} (hmem : state ∈ states)
    (hnot : state ∉ states.takeWhile (· ≠ source)) :
    state ∈ states.dropWhile (· ≠ source) := by
  rw [← List.takeWhile_append_dropWhile (p := (· ≠ source)) (l := states),
    List.mem_append] at hmem
  exact hmem.resolve_left hnot

theorem cleanUp_known {receiver cleaned : Receiver δ} {source : UInt32}
    (hknown : Known codec receiver)
    (h : cleanUp receiver source =
      (.ok cleaned : Except (HandlerError ε) (Receiver δ))) :
    Known codec cleaned := by
  rcases cleanUp_cases h with ⟨rfl, -⟩ | ⟨-, -, -, rfl⟩
  · exact hknown
  · refine ⟨?_, ?_⟩
    · intro state hstate
      obtain ⟨hnot, hmem⟩ := PartialMap.mem_eraseAll.mp hstate
      rcases hknown.key state hmem with hinitial | hlisted
      · exact Or.inl hinitial
      · exact Or.inr (mem_dropWhile_of_not_mem_takeWhile hlisted hnot)
    · intro state decoder hdecoder
      exact hknown.minihash state decoder
        (PartialMap.eraseAll_eq_some hdecoder)

/-- The clean-up keeps every listed decoder exactly when the source separates
what it drops from what it keeps. -/
theorem cleanUp_listed_iff {receiver cleaned : Receiver δ} {source : UInt32}
    (hlisted : Listed receiver) (hcurrent : receiver.currentState = source)
    (hinitial : source ≠ receiver.initialState)
    (h : cleanUp receiver source =
      (.ok cleaned : Except (HandlerError ε) (Receiver δ))) :
    Listed cleaned ↔ Separates source receiver.completeStates := by
  rcases cleanUp_cases h with ⟨-, hskipped⟩ | ⟨-, -, -, rfl⟩
  · exact absurd ⟨hcurrent, hinitial⟩ hskipped
  · constructor
    · intro hkept state hdropped hstate
      exact (PartialMap.mem_eraseAll.mp (hkept state hstate)).1 hdropped
    · intro hseparates state hstate
      refine PartialMap.mem_eraseAll.mpr ⟨?_, ?_⟩
      · exact fun hdropped => hseparates state hdropped hstate
      · exact hlisted state ((List.dropWhile_suffix _).subset hstate)

theorem applyFrame_known {receiver applied : Receiver δ}
    {fragment : FragmentedFrame} (hknown : Known codec receiver)
    (h : applyFrame codec receiver fragment = .ok applied) :
    Known codec applied := by
  obtain ⟨frame, shown, -, hshown, rfl⟩ := applyFrame_cases h
  have hshownKnown := (enqueueFrame_sameStore hshown).known hknown
  by_cases hfull : codec.minihash shown.player = fragment.targetState ∧
      codec.minihash shown.player ≠ shown.initialState
  · simp only [if_pos hfull]
    refine ⟨?_, ?_⟩
    · intro state hstate
      rcases PartialMap.mem_insert.mp hstate with rfl | hold
      · exact Or.inr (List.mem_append_right _ (List.mem_singleton_self _))
      · exact (hshownKnown.key state hold).imp_right
          (List.mem_append_left _)
    · intro state decoder hdecoder
      rcases PartialMap.insert_eq_some hdecoder with ⟨rfl, rfl⟩ | hold
      · rfl
      · exact hshownKnown.minihash state decoder hold
  · simp only [if_neg hfull]
    exact ⟨hshownKnown.key, hshownKnown.minihash⟩

theorem applyFrame_store {receiver applied : Receiver δ}
    {fragment : FragmentedFrame} (hstore : Store codec receiver)
    (h : applyFrame codec receiver fragment = .ok applied) :
    Store codec applied := by
  refine ⟨applyFrame_known hstore.known h, ?_⟩
  obtain ⟨frame, shown, -, hshown, rfl⟩ := applyFrame_cases h
  have hlisted := (enqueueFrame_sameStore hshown).listed_iff.mpr hstore.listed
  by_cases hfull : codec.minihash shown.player = fragment.targetState ∧
      codec.minihash shown.player ≠ shown.initialState
  · simp only [if_pos hfull]
    intro state hstate
    apply PartialMap.mem_insert.mpr
    rcases List.mem_append.mp hstate with hold | hnew
    · exact Or.inr (hlisted state hold)
    · exact Or.inl (List.mem_singleton.mp hnew)
  · simp only [if_neg hfull]
    exact hlisted

/-- The packet can be taken without harm to the store: if it completes a frame
from a listed source, that source separates the list. -/
def KeepsListed (receiver : Receiver δ) (packet : Packet) : Prop :=
  Completes receiver packet → packet.sourceState ≠ receiver.initialState →
    packet.sourceState ∈ receiver.completeStates →
    Separates packet.sourceState receiver.completeStates

theorem readyFrame_completes {receiver taken : Receiver δ} {packet : Packet}
    {fragment : FragmentedFrame} (horder : InOrder receiver)
    (hframeNo : receiver.nextFrameNo ≤ packet.frameNo.toNat)
    (htaken : takeIn codec receiver packet = .ok taken)
    (hready : taken.readyFrame = some fragment) :
    Completes receiver packet ∧ fragment.Matches packet := by
  obtain ⟨joint, hjoined, hentry⟩ := takeIn_joined horder hframeNo htaken
  obtain ⟨hfragment, hcomplete⟩ := readyFrame_eq_some hready
  obtain rfl : joint = fragment :=
    Option.some.inj (hentry.symm.trans hfragment)
  exact ⟨⟨joint, hjoined, hcomplete⟩, joined_matches hjoined⟩

theorem cleanUp_store {receiver taken cleaned : Receiver δ} {packet : Packet}
    {fragment : FragmentedFrame} (horder : InOrder receiver)
    (hstore : Store codec receiver)
    (hframeNo : receiver.nextFrameNo ≤ packet.frameNo.toNat)
    (hkeeps : KeepsListed receiver packet)
    (htaken : takeIn codec receiver packet = .ok taken)
    (hready : taken.readyFrame = some fragment)
    (h : cleanUp (taken.loadSource fragment.sourceState)
        fragment.sourceState =
      (.ok cleaned : Except (HandlerError ε) (Receiver δ))) :
    Store codec cleaned := by
  obtain ⟨hcompletes, hmatches⟩ :=
    readyFrame_completes horder hframeNo htaken hready
  have htakenSame := takeIn_sameStore horder htaken
  have hloadSame := loadSource_sameStore taken fragment.sourceState
  have hloaded : Store codec (taken.loadSource fragment.sourceState) :=
    hloadSame.store (htakenSame.store hstore)
  rcases cleanUp_cases h with ⟨rfl, -⟩ | ⟨hcurrent, hinitial, hmem, -⟩
  · exact hloaded
  · refine ⟨cleanUp_known hloaded.known h,
      (cleanUp_listed_iff hloaded.listed hcurrent hinitial h).mpr ?_⟩
    rw [hloadSame.completeStates, htakenSame.completeStates,
      ← hmatches.sourceState] at hmem ⊢
    apply hkeeps hcompletes _ hmem
    rwa [hloadSame.initialState, htakenSame.initialState,
      ← hmatches.sourceState] at hinitial

theorem handlePacket_store {receiver after : Receiver δ} {arrival : Arrival}
    {ack : Option AckPacket} (horder : InOrder receiver)
    (hstore : Store codec receiver)
    (hkeeps : KeepsListed receiver arrival.packet)
    (h : handlePacket codec receiver arrival = .ok (after, ack)) :
    Store codec after := by
  rcases handlePacket_cases h with
    ⟨-, rfl, -⟩ | ⟨hframeNo, taken, finish, htaken, -, hend⟩
  · exact hstore
  · rcases hend with ⟨-, rfl⟩ | ⟨fragment, hready, hcomplete⟩
    · exact (takeIn_sameStore horder htaken).store hstore
    · obtain ⟨cleaned, hcleaned, happly⟩ := completeFrame_cases hcomplete
      exact applyFrame_store (cleanUp_store horder hstore hframeNo hkeeps htaken
        hready hcleaned) happly

theorem handlePacket_known {receiver after : Receiver δ} {arrival : Arrival}
    {ack : Option AckPacket} (horder : InOrder receiver)
    (hknown : Known codec receiver)
    (h : handlePacket codec receiver arrival = .ok (after, ack)) :
    Known codec after := by
  rcases handlePacket_cases h with
    ⟨-, rfl, -⟩ | ⟨-, taken, finish, htaken, -, hend⟩
  · exact hknown
  · have htakenKnown := (takeIn_sameStore horder htaken).known hknown
    rcases hend with ⟨-, rfl⟩ | ⟨fragment, -, hcomplete⟩
    · exact htakenKnown
    · obtain ⟨cleaned, hcleaned, happly⟩ := completeFrame_cases hcomplete
      exact applyFrame_known (cleanUp_known
        ((loadSource_sameStore taken _).known htakenKnown) hcleaned) happly

theorem handlePacket_decoders {receiver after : Receiver δ} {arrival : Arrival}
    {ack : Option AckPacket} (horder : InOrder receiver)
    (h : handlePacket codec receiver arrival = .ok (after, ack))
    {state : UInt32} {player : δ}
    (hstored : after.decoders state = some player) :
    receiver.decoders state = some player ∨ player = after.player := by
  rcases handlePacket_cases h with
    ⟨-, rfl, -⟩ | ⟨-, taken, finish, htaken, -, hend⟩
  · exact .inl hstored
  have hsame := takeIn_sameStore horder htaken
  rcases hend with ⟨-, rfl⟩ | ⟨fragment, -, hcomplete⟩
  · exact .inl (hsame.decoders ▸ hstored)
  obtain ⟨cleaned, hcleaned, happly⟩ := completeFrame_cases hcomplete
  have hloaded := loadSource_sameStore taken fragment.sourceState
  have hkept : ∀ player, cleaned.decoders state = some player →
      receiver.decoders state = some player := by
    intro player hplayer
    rcases cleanUp_cases hcleaned with ⟨rfl, -⟩ | ⟨-, -, -, rfl⟩
    · rw [hloaded.decoders, hsame.decoders] at hplayer
      exact hplayer
    · rw [← hsame.decoders, ← hloaded.decoders]
      exact PartialMap.eraseAll_eq_some hplayer
  obtain ⟨frame, shown, -, hshown, rfl⟩ := applyFrame_cases happly
  have hshownSame := enqueueFrame_sameStore hshown
  dsimp only at hstored
  split at hstored
  · rcases PartialMap.insert_eq_some hstored with ⟨-, rfl⟩ | hold
    · exact .inr rfl
    · exact .inl (hkept _ (hshownSame.decoders ▸ hold))
  · exact .inl (hkept _ (hshownSame.decoders ▸ hstored))

/-- Whatever the packets, no decoder is stored but under its own hash, and none
but that of the initial state or of a listed one. -/
theorem run_known (player : δ) {arrivals : List Arrival} {after : Receiver δ}
    (hrun : run codec (start codec player) arrivals = .ok after) :
    Known codec after := by
  have hinv : InOrder after ∧ Known codec after := by
    refine Fallible.foldlM_invariant
      (fun receiver => InOrder receiver ∧ Known codec receiver) ?_
      ⟨inOrder_start player, (store_start player).known⟩ hrun
    intro receiver next arrival _ hinv hstep
    obtain ⟨ack, hhandled⟩ := step_eq_ok hstep
    exact ⟨(handlePacket_order hinv.1 hhandled).1,
      handlePacket_known hinv.1 hinv.2 hhandled⟩
  exact hinv.2

theorem loadSource_currentState {receiver : Receiver δ} {source : UInt32}
    (hmem : receiver.decoders.Mem source) :
    (receiver.loadSource source).currentState = source := by
  rcases loadSource_cases receiver source with
    ⟨hload, hnone⟩ | ⟨decoder, -, -, hload⟩
  · rw [hload]
    by_contra hne
    exact PartialMap.not_mem_iff.mpr (hnone hne) hmem
  · rw [hload]

theorem keepsListed_of_listed {receiver taken cleaned : Receiver δ}
    {packet : Packet} {fragment : FragmentedFrame} (horder : InOrder receiver)
    (hstore : Store codec receiver)
    (hframeNo : receiver.nextFrameNo ≤ packet.frameNo.toNat)
    (htaken : takeIn codec receiver packet = .ok taken)
    (hready : taken.readyFrame = some fragment)
    (h : cleanUp (taken.loadSource fragment.sourceState)
        fragment.sourceState =
      (.ok cleaned : Except (HandlerError ε) (Receiver δ)))
    (hlisted : Listed cleaned) : KeepsListed receiver packet := by
  intro _ hinitial hmem
  obtain ⟨-, hmatches⟩ := readyFrame_completes horder hframeNo htaken hready
  have htakenSame := takeIn_sameStore horder htaken
  have hloadSame := loadSource_sameStore taken fragment.sourceState
  have htakenStore := htakenSame.store hstore
  rw [hmatches.sourceState] at hinitial hmem ⊢
  rw [← htakenSame.completeStates] at hmem
  have hcurrent := loadSource_currentState
    (htakenStore.listed fragment.sourceState hmem)
  have hseparates := (cleanUp_listed_iff
    (hloadSame.store htakenStore).listed hcurrent (by
      rwa [hloadSame.initialState, htakenSame.initialState]) h).mp hlisted
  rwa [hloadSame.completeStates, htakenSame.completeStates] at hseparates

/-- In every run whose packets all keep the listed states apart, the store is
whole in every state reached; and there the next clean-up keeps all that is
listed exactly when the next packet keeps the listed states apart. -/
theorem run_store (codec : Codec δ ε) (player : δ) {arrivals : List Arrival}
    {after : Receiver δ}
    (hkeeps : Fallible.AllSteps (step codec)
      (fun receiver arrival => KeepsListed receiver arrival.packet)
      (start codec player) arrivals)
    (hrun : run codec (start codec player) arrivals = .ok after) :
    Store codec after ∧
      ∀ packet taken fragment cleaned,
        after.nextFrameNo ≤ packet.frameNo.toNat →
        takeIn codec after packet = .ok taken →
        taken.readyFrame = some fragment →
        cleanUp (taken.loadSource fragment.sourceState) fragment.sourceState =
          (.ok cleaned : Except (HandlerError ε) (Receiver δ)) →
        (Listed cleaned ↔ KeepsListed after packet) := by
  have hinv : InOrder after ∧ Store codec after := by
    refine hkeeps.invariant
      (fun receiver => InOrder receiver ∧ Store codec receiver) ?_
      ⟨inOrder_start player, store_start player⟩ hrun
    intro receiver next arrival hinv hmeets hstep
    obtain ⟨ack, hhandled⟩ := step_eq_ok hstep
    exact ⟨(handlePacket_order hinv.1 hhandled).1,
      handlePacket_store hinv.1 hinv.2 hmeets hhandled⟩
  refine ⟨hinv.2, ?_⟩
  intro packet taken fragment cleaned hframeNo htaken hready hcleaned
  constructor
  · exact keepsListed_of_listed hinv.1 hinv.2 hframeNo htaken hready hcleaned
  · exact fun hmeets =>
      (cleanUp_store hinv.1 hinv.2 hframeNo hmeets htaken hready
        hcleaned).listed

/-- A picture that does not change between frames one and three. -/
def unchangedCodec : Codec UInt32 Unit :=
  tableCodec [((1, [1]), 2), ((2, [2]), 3), ((2, [3]), 2), ((3, [4]), 4)] 9

def unchangedArrivals : List Arrival :=
  [⟨smallPacket 0 1 2 1, 0, 0, 0⟩, ⟨smallPacket 1 2 3 2, 0, 0, 0⟩,
    ⟨smallPacket 2 2 2 3, 0, 0, 0⟩, ⟨smallPacket 3 3 4 4, 0, 0, 0⟩]

/-- State 2 is listed twice; the frame from state 3 erases the decoder for the
first listing and leaves the second. -/
theorem store_unchanged_picture :
    ∃ after,
      run unchangedCodec (start unchangedCodec 1) unchangedArrivals =
        .ok after ∧
      after.completeStates = [3, 2, 4] ∧ ¬ after.decoders.Mem 2 ∧
      ¬ Store unchangedCodec after := by
  obtain ⟨after, hrun, hlisted, hmem⟩ : ∃ after,
      run unchangedCodec (start unchangedCodec 1) unchangedArrivals =
        .ok after ∧
      after.completeStates = [3, 2, 4] ∧ ¬ after.decoders.Mem 2 :=
    ⟨_, rfl, rfl, by decide⟩
  refine ⟨after, hrun, hlisted, hmem, ?_⟩
  intro hstore
  exact hmem (hstore.listed 2 (by rw [hlisted]; decide))

def onwardArrivals : List Arrival :=
  [⟨smallPacket 0 1 2 1, 0, 0, 0⟩, ⟨smallPacket 1 2 3 2, 0, 0, 0⟩,
    ⟨smallPacket 2 3 4 4, 0, 0, 0⟩]

/-- The third frame discards state 2. -/
theorem run_store_cleaned :
    ∃ after,
      run unchangedCodec (start unchangedCodec 1) onwardArrivals = .ok after ∧
      after.completeStates = [3, 4] ∧ ¬ after.decoders.Mem 2 ∧
      Store unchangedCodec after := by
  have hone : ∀ (receiver : Receiver UInt32) (packet : Packet),
      Separates packet.sourceState receiver.completeStates →
        Fallible.AllSteps (step unchangedCodec)
          (fun receiver arrival => KeepsListed receiver arrival.packet)
          receiver [⟨packet, 0, 0, 0⟩] :=
    fun _ _ h => ⟨fun _ _ _ => h, fun _ _ => trivial⟩
  obtain ⟨second, hsecond, hsecondListed⟩ : ∃ second,
      run unchangedCodec (start unchangedCodec 1) (onwardArrivals.take 1) =
        .ok second ∧ second.completeStates = [2] := ⟨_, rfl, rfl⟩
  obtain ⟨third, hthird, hthirdListed⟩ : ∃ third,
      run unchangedCodec (start unchangedCodec 1) (onwardArrivals.take 2) =
        .ok third ∧ third.completeStates = [2, 3] := ⟨_, rfl, rfl⟩
  have hall : Fallible.AllSteps (step unchangedCodec)
      (fun receiver arrival => KeepsListed receiver arrival.packet)
      (start unchangedCodec 1) onwardArrivals := by
    have hnone := hone (start unchangedCodec 1) (smallPacket 0 1 2 1)
      fun _ h => absurd h List.not_mem_nil
    have hkept := hone second (smallPacket 1 2 3 2) (by
      rw [hsecondListed]
      exact fun _ h => absurd h List.not_mem_nil)
    have hcleaned := hone third (smallPacket 2 3 4 4) (by
      rw [hthirdListed]
      intro state hstate
      obtain rfl := List.mem_singleton.mp hstate
      decide)
    exact (hnone.append hsecond hkept).append hthird hcleaned
  obtain ⟨after, hrun, hlisted, hmem⟩ : ∃ after,
      run unchangedCodec (start unchangedCodec 1) onwardArrivals = .ok after ∧
      after.completeStates = [3, 4] ∧ ¬ after.decoders.Mem 2 :=
    ⟨_, rfl, rfl, by decide⟩
  exact ⟨after, hrun, hlisted, hmem,
    (run_store unchangedCodec 1 hall hrun).1⟩

end Salsify.Session.Receiver
