import Salsify.Net.SentFrame
import Salsify.Session.ReceiverStore

namespace Salsify.Session

open Salsify.Net

/-! When the receiver's handler fails on the packets of one sender. -/

variable {δ ε : Type} {codec : Codec δ ε}

structure Transmission where
  frame : UInt32 → Option SentFrame
  frameNo : ∀ {number sent}, frame number = some sent →
    sent.header.frameNo = number
  connectionId : ∀ {number sent}, frame number = some sent →
    sent.header.connectionId = Receiver.connectionId

def Transmission.Carries (transmission : Transmission) (packet : Packet) :
    Prop :=
  ∃ sent index timestamp,
    transmission.frame packet.frameNo = some sent ∧ index < sent.count ∧
    packet = sent.packet index timestamp

/-- The failure a handler ends in, if it is one of its own. -/
def failureOf {α : Type} : Except (HandlerError ε) α → Option Failure
  | .error (.failure failure) => some failure
  | _ => none

@[simp] theorem failureOf_ok {α : Type} (value : α) :
    failureOf (.ok value : Except (HandlerError ε) α) = none := rfl

theorem failureOf_bind_eq_none {α β : Type}
    {first : Except (HandlerError ε) α}
    {next : α → Except (HandlerError ε) β} :
    failureOf (first >>= next) = none ↔
      failureOf first = none ∧
        ∀ middle, first = .ok middle → failureOf (next middle) = none := by
  cases first with
  | ok middle =>
      constructor
      · rintro h
        refine ⟨rfl, ?_⟩
        rintro _ ⟨⟩
        exact h
      · rintro ⟨-, h⟩
        exact h middle rfl
  | error error =>
      cases error with
      | decoder error => exact ⟨fun _ => ⟨rfl, by rintro _ ⟨⟩⟩, fun _ => rfl⟩
      | failure failure => exact ⟨by rintro ⟨⟩, by rintro ⟨⟨⟩, -⟩⟩

theorem failureOf_map {α β : Type} (result : Except (HandlerError ε) α)
    (f : α → β) : failureOf (result.map f) = failureOf result := by
  cases result with
  | ok value => rfl
  | error error => cases error <;> rfl

namespace Receiver

theorem failureOf_enqueueFrame (receiver : Receiver δ) (frameNo : Nat)
    (frame : List UInt8) :
    failureOf (enqueueFrame codec receiver frameNo frame) = none := by
  cases frame with
  | nil => rfl
  | cons byte rest =>
      simp only [enqueueFrame, List.isEmpty_cons, Bool.false_eq_true, if_false]
      cases codec.decode receiver.player (byte :: rest) <;> rfl

/-- The decoder once a packet has been taken in: a packet of a later frame has
the current frame decoded as far as it goes. -/
def playerOnArrival (codec : Codec δ ε) (receiver : Receiver δ)
    (packet : Packet) : Except (HandlerError ε) δ :=
  match (if receiver.nextFrameNo < packet.frameNo.toNat then
      receiver.fragmentedFrames receiver.nextFrameNo else none) with
  | some fragment =>
      (enqueueFrame codec receiver receiver.nextFrameNo
        fragment.partialFrame).map Receiver.player
  | none => .ok receiver.player

/-- The packet can be handled: a packet of a later frame finds the frame that is
waited for begun, and a packet that completes a frame from a source that is not
stored does not find the decoder in that very state. -/
structure Safe (codec : Codec δ ε) (receiver : Receiver δ)
    (packet : Packet) : Prop where
  begun : receiver.nextFrameNo < packet.frameNo.toNat →
    receiver.fragmentedFrames.Mem receiver.nextFrameNo
  stored : receiver.nextFrameNo ≤ packet.frameNo.toNat →
    Completes receiver packet →
    packet.sourceState ≠ receiver.initialState →
    packet.sourceState ∉ receiver.completeStates →
    ∀ player, playerOnArrival codec receiver packet = .ok player →
      codec.minihash player ≠ packet.sourceState

def Entries (transmission : Transmission)
    (frames : PartialMap Nat FragmentedFrame) : Prop :=
  ∀ key fragment, frames key = some fragment →
    ∃ sent clock got, key < 2 ^ 32 ∧
      transmission.frame (UInt32.ofNat key) = some sent ∧
      fragment = sent.arrived clock got

structure Sound (codec : Codec δ ε) (transmission : Transmission)
    (receiver : Receiver δ) : Prop where
  order : InOrder receiver
  known : Known codec receiver
  current : receiver.currentState = codec.minihash receiver.player
  entries : Entries transmission receiver.fragmentedFrames

theorem sound_start (transmission : Transmission) (player : δ) :
    Sound codec transmission (start codec player) where
  order := inOrder_start player
  known := (store_start player).known
  current := rfl
  entries _ _ hentry := by cases hentry

theorem addToFrame_sound {transmission : Transmission}
    {receiver : Receiver δ} {packet : Packet}
    (hentries : Entries transmission receiver.fragmentedFrames)
    (hcarries : transmission.Carries packet) :
    ∃ frames, addToFrame receiver packet =
        (.ok { receiver with fragmentedFrames := frames } :
          Except (HandlerError ε) (Receiver δ)) ∧
      Entries transmission frames := by
  obtain ⟨sent, index, timestamp, hsent, hindex, hpacket⟩ := hcarries
  have hkey : packet.frameNo.toNat < 2 ^ 32 := packet.frameNo.toNat_lt
  have hnumber : UInt32.ofNat packet.frameNo.toNat = packet.frameNo :=
    UInt32.ofNat_toNat
  cases hentry : receiver.fragmentedFrames packet.frameNo.toNat with
  | some old =>
      obtain ⟨other, clock, got, -, hother, rfl⟩ := hentries _ _ hentry
      rw [hnumber, hsent] at hother
      obtain rfl := Option.some.inj hother
      obtain ⟨later, hadded⟩ :=
        sent.addPacket_arrived clock got hindex timestamp
      rw [← hpacket] at hadded
      refine ⟨_, by simp only [addToFrame, hentry, hadded]; rfl, ?_⟩
      intro key fragment hfragment
      by_cases hsame : key = packet.frameNo.toNat
      · subst key
        simp only [PartialMap.set, if_true, Option.some.injEq] at hfragment
        exact ⟨sent, later, _, hkey, by rw [hnumber, hsent], hfragment.symm⟩
      · simp only [PartialMap.set, hsame, if_false] at hfragment
        exact hentries key fragment hfragment
  | none =>
      have hmade := sent.incoming_packet hindex timestamp
      rw [← hpacket, transmission.connectionId hsent] at hmade
      refine ⟨_, by simp only [addToFrame, hentry, hmade]; rfl, ?_⟩
      intro key fragment hfragment
      rcases PartialMap.insert_eq_some hfragment with ⟨rfl, rfl⟩ | hold
      · exact ⟨sent, _, _, hkey, by rw [hnumber, hsent], rfl⟩
      · exact hentries key fragment hold

theorem failureOf_catchUp {receiver : Receiver δ} {packet : Packet}
    (horder : InOrder receiver) :
    failureOf (catchUp codec receiver packet) = none ↔
      (receiver.nextFrameNo < packet.frameNo.toNat →
        receiver.fragmentedFrames.Mem receiver.nextFrameNo) := by
  by_cases hlater : receiver.nextFrameNo < packet.frameNo.toNat
  · rw [catchUp, if_pos hlater]
    cases hentry : receiver.fragmentedFrames receiver.nextFrameNo with
    | none =>
        simp only [skipTo, hentry, hlater, PartialMap.Mem, Option.isSome_none]
        exact iff_of_false (by rintro ⟨⟩) (by simp)
    | some fragment =>
        rw [skipTo_eq horder.pending hlater hentry, failureOf_map,
          failureOf_enqueueFrame]
        exact iff_of_true rfl fun _ => by simp [PartialMap.Mem, hentry]
  · rw [catchUp, if_neg hlater]
    exact iff_of_true rfl fun h => absurd h hlater

/-- Taking a packet in keeps the receiver sound and has the decoder where
`playerOnArrival` says. -/
theorem catchUp_sound {transmission : Transmission}
    {receiver current : Receiver δ} {packet : Packet}
    (hsound : Sound codec transmission receiver)
    (hframeNo : receiver.nextFrameNo ≤ packet.frameNo.toNat)
    (h : catchUp codec receiver packet = .ok current) :
    Sound codec transmission current ∧
      playerOnArrival codec receiver packet = .ok current.player ∧
      SameStore receiver current := by
  have horder := (catchUp_order hsound.order hframeNo h).1
  rcases catchUp_cases h with ⟨hlater, rfl⟩ | ⟨hlater, hskip⟩
  · refine ⟨hsound, ?_, ⟨rfl, rfl, rfl⟩⟩
    simp only [playerOnArrival, if_neg hlater]
  · obtain ⟨fragment, shown, hentry, hshown, rfl, hnone⟩ :=
      skipTo_cases hsound.order.pending hlater hskip
    have hsame := enqueueFrame_sameStore hshown
    refine ⟨⟨horder, ?_, rfl, ?_⟩, ?_, ?_⟩
    · exact ⟨(hsame.known hsound.known).key,
        (hsame.known hsound.known).minihash⟩
    · intro key other hother
      exact absurd (PartialMap.mem_def.mpr ⟨other, hother⟩) (hnone key)
    · simp only [playerOnArrival, if_pos hlater, hentry, hshown, Except.map]
    · exact ⟨hsame.initialState, hsame.decoders, hsame.completeStates⟩

theorem takeIn_sound {transmission : Transmission}
    {receiver taken : Receiver δ} {packet : Packet}
    (hsound : Sound codec transmission receiver)
    (hcarries : transmission.Carries packet)
    (hframeNo : receiver.nextFrameNo ≤ packet.frameNo.toNat)
    (h : takeIn codec receiver packet = .ok taken) :
    Sound codec transmission taken ∧
      playerOnArrival codec receiver packet = .ok taken.player ∧
      SameStore receiver taken := by
  obtain ⟨current, hcurrent, hadd⟩ := takeIn_cases h
  obtain ⟨hsoundCurrent, hplayer, hsame⟩ :=
    catchUp_sound hsound hframeNo hcurrent
  obtain ⟨frames, hadded, hentries⟩ :=
    @addToFrame_sound δ ε transmission current packet hsoundCurrent.entries
      hcarries
  rw [hadded] at hadd
  cases hadd
  refine ⟨⟨(takeIn_order hsound.order hframeNo h).1, ?_,
    hsoundCurrent.current, hentries⟩, hplayer, ?_⟩
  · exact ⟨hsoundCurrent.known.key, hsoundCurrent.known.minihash⟩
  · exact ⟨hsame.initialState, hsame.decoders, hsame.completeStates⟩

theorem failureOf_takeIn {transmission : Transmission}
    {receiver : Receiver δ} {packet : Packet}
    (hsound : Sound codec transmission receiver)
    (hcarries : transmission.Carries packet)
    (hframeNo : receiver.nextFrameNo ≤ packet.frameNo.toNat) :
    failureOf (takeIn codec receiver packet) = none ↔
      (receiver.nextFrameNo < packet.frameNo.toNat →
        receiver.fragmentedFrames.Mem receiver.nextFrameNo) := by
  rw [takeIn, failureOf_bind_eq_none, failureOf_catchUp hsound.order]
  refine and_iff_left ?_
  intro current hcurrent
  obtain ⟨hsoundCurrent, -, -⟩ := catchUp_sound hsound hframeNo hcurrent
  obtain ⟨frames, hadded, -⟩ :=
    @addToFrame_sound δ ε transmission current packet hsoundCurrent.entries
      hcarries
  rw [hadded]
  rfl

theorem takeIn_of_player {transmission : Transmission}
    {receiver : Receiver δ} {packet : Packet} {player : δ}
    (hsound : Sound codec transmission receiver)
    (hcarries : transmission.Carries packet)
    (hframeNo : receiver.nextFrameNo ≤ packet.frameNo.toNat)
    (hbegun : receiver.nextFrameNo < packet.frameNo.toNat →
      receiver.fragmentedFrames.Mem receiver.nextFrameNo)
    (hplayer : playerOnArrival codec receiver packet = .ok player) :
    ∃ taken, takeIn codec receiver packet = .ok taken ∧
      taken.player = player := by
  obtain ⟨current, hcurrent⟩ : ∃ current,
      catchUp codec receiver packet = .ok current := by
    by_cases hlater : receiver.nextFrameNo < packet.frameNo.toNat
    · obtain ⟨fragment, hentry⟩ := PartialMap.mem_def.mp (hbegun hlater)
      rw [catchUp, if_pos hlater, skipTo_eq hsound.order.pending hlater hentry]
      simp only [playerOnArrival, if_pos hlater, hentry] at hplayer
      cases hshown : enqueueFrame codec receiver receiver.nextFrameNo
          fragment.partialFrame with
      | error error => simp [hshown, Except.map] at hplayer
      | ok shown => exact ⟨_, rfl⟩
    · rw [catchUp, if_neg hlater]
      exact ⟨receiver, rfl⟩
  obtain ⟨hsoundCurrent, -, -⟩ := catchUp_sound hsound hframeNo hcurrent
  obtain ⟨frames, hadded, -⟩ :=
    @addToFrame_sound δ ε transmission current packet hsoundCurrent.entries
      hcarries
  have htaken : takeIn codec receiver packet =
      .ok { current with fragmentedFrames := frames } := by
    rw [takeIn, hcurrent]
    exact hadded
  obtain ⟨-, hsame, -⟩ := takeIn_sound hsound hcarries hframeNo htaken
  rw [hplayer] at hsame
  exact ⟨_, htaken, (Except.ok.inj hsame).symm⟩

/-- A loaded source is the initial state or is listed, so only a source that is
current without being stored makes the clean-up fail. -/
theorem failureOf_cleanUp {receiver : Receiver δ} {source : UInt32}
    (hknown : Known codec receiver) :
    failureOf (cleanUp (receiver.loadSource source) source :
        Except (HandlerError ε) (Receiver δ)) = none ↔
      (source ≠ receiver.initialState → source ∉ receiver.completeStates →
        receiver.currentState ≠ source) := by
  have hsame := loadSource_sameStore receiver source
  by_cases hruns : (receiver.loadSource source).currentState = source ∧
      source ≠ (receiver.loadSource source).initialState
  · rw [cleanUp, if_pos hruns, failureOf_bind_eq_none, hsame.completeStates,
      hsame.decoders]
    rw [hsame.initialState] at hruns
    by_cases hmem : source ∈ receiver.completeStates
    · rw [discardOlder_eq _ hmem]
      refine iff_of_true ⟨rfl, ?_⟩ fun _ hnot => absurd hmem hnot
      rintro kept ⟨⟩
      rfl
    · rw [discardOlder_missing _ hmem]
      refine iff_of_false (by rintro ⟨⟨⟩, -⟩) ?_
      intro hsafe
      apply hsafe hruns.2 hmem
      rcases loadSource_cases receiver source with
        ⟨hload, -⟩ | ⟨decoder, -, hdecoder, -⟩
      · rw [← hruns.1, hload]
      · rcases hknown.key source (PartialMap.mem_def.mpr ⟨decoder, hdecoder⟩)
          with hinitial | hlisted
        · exact absurd hinitial hruns.2
        · exact absurd hlisted hmem
  · rw [cleanUp, if_neg hruns]
    refine iff_of_true rfl ?_
    intro hinitial _ hcurrent
    apply hruns
    rw [hsame.initialState]
    refine ⟨?_, hinitial⟩
    rcases loadSource_cases receiver source with
      ⟨hload, -⟩ | ⟨decoder, hne, -, -⟩
    · rw [hload, hcurrent]
    · exact absurd hcurrent hne

theorem failureOf_applyFrame {receiver : Receiver δ}
    {fragment : FragmentedFrame} {frame : List UInt8}
    (hframe : fragment.frame = .ok frame) :
    failureOf (applyFrame codec receiver fragment) = none := by
  rw [applyFrame, hframe, failureOf_bind_eq_none]
  refine ⟨rfl, ?_⟩
  rintro _ ⟨⟩
  rw [failureOf_bind_eq_none]
  exact ⟨failureOf_enqueueFrame _ _ _, fun _ _ => rfl⟩

theorem failureOf_completeFrame {receiver : Receiver δ}
    {fragment : FragmentedFrame} {frame : List UInt8}
    (hknown : Known codec receiver) (hframe : fragment.frame = .ok frame) :
    failureOf (completeFrame codec receiver fragment) = none ↔
      (fragment.sourceState ≠ receiver.initialState →
        fragment.sourceState ∉ receiver.completeStates →
        receiver.currentState ≠ fragment.sourceState) := by
  rw [completeFrame, failureOf_bind_eq_none, failureOf_cleanUp hknown]
  exact and_iff_left fun cleaned _ => failureOf_applyFrame hframe

theorem Sound.frame {transmission : Transmission} {receiver : Receiver δ}
    {fragment : FragmentedFrame} (hsound : Sound codec transmission receiver)
    (hready : receiver.readyFrame = some fragment) :
    ∃ sent, transmission.frame (UInt32.ofNat receiver.nextFrameNo) = some sent ∧
      fragment.frame = .ok sent.wholeFrame ∧
      fragment.sourceState = sent.header.sourceState ∧
      fragment.targetState = sent.header.targetState := by
  obtain ⟨hentry, hcomplete⟩ := readyFrame_eq_some hready
  obtain ⟨sent, clock, got, -, hsent, rfl⟩ := hsound.entries _ _ hentry
  exact ⟨sent, hsent, sent.frame_arrived clock hcomplete, rfl, rfl⟩

theorem completeFrame_entries {receiver applied : Receiver δ}
    {fragment other : FragmentedFrame} {key : Nat}
    (h : completeFrame codec receiver fragment = .ok applied)
    (hother : applied.fragmentedFrames key = some other) :
    receiver.fragmentedFrames key = some other := by
  obtain ⟨cleaned, hcleaned, happly⟩ := completeFrame_cases h
  have hload : (receiver.loadSource fragment.sourceState).fragmentedFrames =
      receiver.fragmentedFrames := by
    rcases loadSource_cases receiver fragment.sourceState with
      ⟨hload, -⟩ | ⟨_, -, -, hload⟩
    · rw [hload]
    · rw [hload]
  obtain ⟨frame, shown, -, hshown, rfl⟩ := applyFrame_cases happly
  have hold := (PartialMap.erase_eq_some hother).2
  rw [(enqueueFrame_frames hshown).1] at hold
  rcases cleanUp_cases hcleaned with ⟨rfl, -⟩ | ⟨-, -, -, rfl⟩
  · rwa [hload] at hold
  · rwa [hload] at hold

theorem completeFrame_current {receiver applied : Receiver δ}
    {fragment : FragmentedFrame}
    (h : completeFrame codec receiver fragment = .ok applied) :
    applied.currentState = codec.minihash applied.player := by
  obtain ⟨cleaned, -, happly⟩ := completeFrame_cases h
  obtain ⟨frame, shown, -, -, rfl⟩ := applyFrame_cases happly
  rfl

theorem completeFrame_sound {transmission : Transmission}
    {receiver applied : Receiver δ} {fragment : FragmentedFrame}
    (hsound : Sound codec transmission receiver)
    (h : completeFrame codec receiver fragment = .ok applied) :
    Sound codec transmission applied := by
  obtain ⟨cleaned, hcleaned, happly⟩ := completeFrame_cases h
  have hknown := cleanUp_known
    ((loadSource_sameStore receiver _).known hsound.known) hcleaned
  refine ⟨(completeFrame_order hsound.order h).1,
    applyFrame_known hknown happly, completeFrame_current h, ?_⟩
  intro key other hother
  exact hsound.entries key other (completeFrame_entries h hother)

theorem handlePacket_sound {transmission : Transmission}
    {receiver after : Receiver δ} {arrival : Arrival} {ack : Option AckPacket}
    (hsound : Sound codec transmission receiver)
    (hcarries : transmission.Carries arrival.packet)
    (h : handlePacket codec receiver arrival = .ok (after, ack)) :
    Sound codec transmission after := by
  rcases handlePacket_cases h with
    ⟨-, rfl, -⟩ | ⟨hframeNo, taken, finish, htaken, -, hend⟩
  · exact hsound
  · obtain ⟨hsoundTaken, -, -⟩ := takeIn_sound hsound hcarries hframeNo htaken
    rcases hend with ⟨-, rfl⟩ | ⟨fragment, -, hcomplete⟩
    · exact hsoundTaken
    · exact completeFrame_sound hsoundTaken hcomplete

theorem failureOf_handlePacket {transmission : Transmission}
    {receiver : Receiver δ} {arrival : Arrival}
    (hsound : Sound codec transmission receiver)
    (hcarries : transmission.Carries arrival.packet) :
    failureOf (handlePacket codec receiver arrival) = none ↔
      Safe codec receiver arrival.packet := by
  by_cases hold : arrival.packet.frameNo.toNat < receiver.nextFrameNo
  · rw [handlePacket, if_pos hold]
    exact iff_of_true rfl
      ⟨fun hlater => absurd hlater (Nat.lt_asymm hold),
        fun hframeNo => absurd hframeNo (Nat.not_le_of_lt hold)⟩
  have hframeNo : receiver.nextFrameNo ≤ arrival.packet.frameNo.toNat :=
    Nat.le_of_not_lt hold
  -- taking the packet in fails exactly when the entry it asks for is missing
  have htakeIn := failureOf_takeIn hsound hcarries hframeNo
  -- what comes after fails exactly when the source is current but not stored
  have hrest : ∀ taken, takeIn codec receiver arrival.packet = .ok taken →
      (failureOf (handlePacket codec receiver arrival) = none ↔
        (Completes receiver arrival.packet →
          arrival.packet.sourceState ≠ receiver.initialState →
          arrival.packet.sourceState ∉ receiver.completeStates →
          codec.minihash taken.player ≠ arrival.packet.sourceState)) := by
    intro taken htaken
    obtain ⟨hsoundTaken, -, hsame⟩ :=
      takeIn_sound hsound hcarries hframeNo htaken
    obtain ⟨joint, hjoined, hentry⟩ :=
      takeIn_joined hsound.order hframeNo htaken
    rw [handlePacket, if_neg hold, htaken, Fallible.ok_bind]
    cases hready : taken.readyFrame with
    | none =>
        refine iff_of_true rfl ?_
        rintro ⟨other, hother, hcomplete⟩
        obtain rfl : other = joint :=
          Except.ok.inj (hother.symm.trans hjoined)
        simp [readyFrame, hentry, hcomplete] at hready
    | some fragment =>
        obtain ⟨hcompletes, hmatches⟩ :=
          readyFrame_completes hsound.order hframeNo htaken hready
        obtain ⟨sent, -, hframe, -, -⟩ := hsoundTaken.frame hready
        have hbind := @failureOf_bind_eq_none ε _ _
          (completeFrame codec taken fragment) fun applied =>
            .ok (applied, some (applied.acknowledge arrival 1))
        refine hbind.trans ?_
        rw [failureOf_completeFrame hsoundTaken.known hframe,
          hsoundTaken.current, hsame.initialState, hsame.completeStates,
          hmatches.sourceState]
        exact ⟨fun h _ => h.1, fun h => ⟨h hcompletes, fun _ _ => rfl⟩⟩
  constructor
  · intro hnone
    have hbegun : failureOf (takeIn codec receiver arrival.packet) = none := by
      rw [handlePacket, if_neg hold] at hnone
      exact (failureOf_bind_eq_none.mp hnone).1
    refine ⟨htakeIn.mp hbegun, ?_⟩
    intro _ hcompletes hinitial hlisted player hplayer
    obtain ⟨taken, htaken, rfl⟩ := takeIn_of_player hsound hcarries hframeNo
      (htakeIn.mp hbegun) hplayer
    exact (hrest taken htaken).mp hnone hcompletes hinitial hlisted
  · intro hsafe
    have hbegun := htakeIn.mpr hsafe.begun
    cases htaken : takeIn codec receiver arrival.packet with
    | error failure =>
        rw [handlePacket, if_neg hold, htaken]
        rw [htaken] at hbegun
        cases failure with
        | decoder error => rfl
        | failure failure => cases hbegun
    | ok taken =>
        obtain ⟨-, hplayer, -⟩ := takeIn_sound hsound hcarries hframeNo htaken
        exact (hrest taken htaken).mpr fun hcompletes hinitial hlisted =>
          hsafe.stored hframeNo hcompletes hinitial hlisted taken.player hplayer

/-- A run over packets of one sender ends in no failure of the handler exactly
when every packet is safe in the state it finds. -/
theorem run_total_iff (codec : Codec δ ε) (transmission : Transmission)
    (player : δ) {arrivals : List Arrival}
    (hcarries : ∀ arrival ∈ arrivals, transmission.Carries arrival.packet) :
    failureOf (run codec (start codec player) arrivals) = none ↔
      Fallible.AllSteps (step codec)
        (fun receiver arrival => Safe codec receiver arrival.packet)
        (start codec player) arrivals := by
  have hgeneral : ∀ (receiver : Receiver δ) (rest : List Arrival),
      Sound codec transmission receiver →
      (∀ arrival ∈ rest, transmission.Carries arrival.packet) →
      (failureOf (run codec receiver rest) = none ↔
        Fallible.AllSteps (step codec)
          (fun receiver arrival => Safe codec receiver arrival.packet)
          receiver rest) := by
    intro receiver rest
    induction rest generalizing receiver with
    | nil => exact fun _ _ => iff_of_true rfl trivial
    | cons arrival rest ih =>
        intro hsound hrest
        have hcarried := hrest arrival List.mem_cons_self
        rw [run, List.foldlM_cons, failureOf_bind_eq_none, step,
          failureOf_map, failureOf_handlePacket hsound hcarried]
        refine and_congr_right fun _ => ?_
        refine forall_congr' fun next => imp_congr_right fun hstep => ?_
        obtain ⟨ack, hhandled⟩ := step_eq_ok hstep
        exact ih next (handlePacket_sound hsound hcarried hhandled)
          fun other hother => hrest other (List.mem_cons_of_mem arrival hother)
  exact hgeneral (start codec player) arrivals
    (sound_start transmission player) hcarries

/-- What `firstByteCodec` sees of a chunk: its first byte and whether it fits
the first packet. -/
def chunkKey (chunk : List UInt8) : UInt8 × Bool :=
  (chunk.head?.getD 0, (chunk.drop 1400).isEmpty)

def firstByteCodec (table : List ((UInt32 × UInt8 × Bool) × UInt32))
    (otherwise : UInt32) : Codec UInt32 Unit where
  minihash := id
  decode player frame :=
    .ok ((table.lookup (player, chunkKey frame)).getD otherwise, true)

def repeatedFrame (frameNo sourceState targetState : UInt32) (byte : UInt8)
    (long : Bool) : SentFrame where
  header := {
    connectionId := connectionId
    sourceState := sourceState
    targetState := targetState
    frameNo := frameNo
    timeSinceLast := 0
    framePushTimestamp := 0
    rttAverage := 0
    throughput := 0
    clock := fun _ => 0 }
  wholeFrame := byte :: List.replicate (if long then 1400 else 0) byte
  nonempty := List.cons_ne_nil _ _
  fits := by
    rw [FragmentedFrame.fragmentCount, List.length_cons,
      List.length_replicate]
    cases long
    · decide
    · decide

def threeFrames : Transmission where
  frame number :=
    if number = 0 then some (repeatedFrame 0 1 2 5 false)
    else if number = 1 then some (repeatedFrame 1 2 3 6 true)
    else if number = 2 then some (repeatedFrame 2 3 4 7 false)
    else none
  frameNo := by
    intro number sent hsent
    split at hsent
    · cases hsent
      exact Eq.symm ‹_›
    · split at hsent
      · cases hsent
        exact Eq.symm ‹_›
      · split at hsent
        · cases hsent
          exact Eq.symm ‹_›
        · cases hsent
  connectionId := by
    intro number sent hsent
    split at hsent
    · cases hsent
      rfl
    · split at hsent
      · cases hsent
        rfl
      · split at hsent
        · cases hsent
          rfl
        · cases hsent

theorem threeFrames_carries {sent : SentFrame} (number : UInt32)
    (hsent : threeFrames.frame number = some sent) {index : Nat}
    (hindex : index < sent.count) (timestamp : UInt32) :
    threeFrames.Carries (sent.packet index timestamp) :=
  ⟨sent, index, timestamp, by
    rw [SentFrame.packet_frameNo, threeFrames.frameNo hsent, hsent], hindex,
    rfl⟩

def threeFramesCodec : Codec UInt32 Unit :=
  firstByteCodec [((1, 5, true), 2), ((2, 6, true), 3)] 9

def unluckyCodec : Codec UInt32 Unit := firstByteCodec [((1, 5, true), 2)] 9

def arrivalOf (packet : Packet) : Arrival := ⟨packet, 0, 0, 0⟩

/-- The packets that break the handler: a second frame of which nothing else has
arrived, and a third one after a second whose first packet alone decodes to the
target of the whole. -/
def lostFrame : List Arrival :=
  [arrivalOf ((repeatedFrame 1 2 3 6 true).packet 0 0)]

def luckyPartial : List Arrival :=
  [arrivalOf ((repeatedFrame 0 1 2 5 false).packet 0 0),
    arrivalOf ((repeatedFrame 1 2 3 6 true).packet 0 0),
    arrivalOf ((repeatedFrame 2 3 4 7 false).packet 0 0)]

theorem carries_first :
    threeFrames.Carries ((repeatedFrame 0 1 2 5 false).packet 0 0) :=
  threeFrames_carries 0 rfl (FragmentedFrame.fragmentCount_pos
    (repeatedFrame 0 1 2 5 false).nonempty) 0

theorem carries_second :
    threeFrames.Carries ((repeatedFrame 1 2 3 6 true).packet 0 0) :=
  threeFrames_carries 1 rfl (FragmentedFrame.fragmentCount_pos
    (repeatedFrame 1 2 3 6 true).nonempty) 0

theorem carries_third :
    threeFrames.Carries ((repeatedFrame 2 3 4 7 false).packet 0 0) :=
  threeFrames_carries 2 rfl (FragmentedFrame.fragmentCount_pos
    (repeatedFrame 2 3 4 7 false).nonempty) 0

theorem carries_of_mem {arrival : Arrival}
    (h : arrival ∈ lostFrame ++ luckyPartial) :
    threeFrames.Carries arrival.packet := by
  simp only [lostFrame, luckyPartial, List.cons_append, List.nil_append,
    List.mem_cons, List.not_mem_nil, or_false] at h
  rcases h with rfl | rfl | rfl | rfl
  · exact carries_second
  · exact carries_first
  · exact carries_second
  · exact carries_third

theorem run_total_fails :
    (∀ arrival ∈ lostFrame ++ luckyPartial,
      threeFrames.Carries arrival.packet) ∧
    failureOf (run threeFramesCodec (start threeFramesCodec 1) lostFrame) =
      some (.outOfRange "fragmented_frames.at(next_frame_no)") ∧
    failureOf (run threeFramesCodec (start threeFramesCodec 1) luckyPartial) =
      some (.assertion "it != complete_states.end()") := by
  exact ⟨fun _ => carries_of_mem, by decide +kernel, by decide +kernel⟩

/-- The second frame is given up, and what its first packet decodes to is not
the source of the third. -/
theorem run_total_given_up :
    Fallible.AllSteps (step unluckyCodec)
      (fun receiver arrival => Safe unluckyCodec receiver arrival.packet)
      (start unluckyCodec 1) luckyPartial := by
  refine (run_total_iff unluckyCodec threeFrames 1 fun arrival harrival => ?_).mp
    (by decide +kernel)
  exact carries_of_mem (List.mem_append_right _ harrival)

end Receiver

end Salsify.Session
