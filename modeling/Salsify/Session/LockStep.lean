import Salsify.Lib.RunLog
import Salsify.Session.Recovery

namespace Salsify.Session

open Salsify.Net

variable {η δ ε : Type}

/-! The session with what the codec does on both sides. -/

/-- A decoder mirrors an encoder when it is where the encoder takes it to be,
and an encoder emits a frame on its way to the next. -/
structure LockStep (parties : Parties η δ ε) where
  Mirrors : δ → η → Prop
  Emits : η → List UInt8 → η → Prop
  minihash : ∀ player encoder, Mirrors player encoder →
    parties.codec.minihash player = parties.minihash encoder
  decode : ∀ player before frame after, Mirrors player before →
    Emits before frame after → ∃ next shown,
      parties.codec.decode player frame = .ok (next, shown) ∧
        Mirrors next after

structure Encoding (η : Type) where
  before : η
  frame : List UInt8
  after : η

namespace Receiver

variable {codec : Codec δ ε}

theorem cleanUp_held {receiver : Receiver δ} {source : UInt32}
    (hknown : Known codec receiver) (hheld : receiver.decoders.Mem source) :
    ∃ cleaned, cleanUp (receiver.loadSource source) source =
        (.ok cleaned : Except (HandlerError ε) (Receiver δ)) ∧
      cleaned.player = (receiver.loadSource source).player ∧
      cleaned.initialState = receiver.initialState := by
  have hsame := loadSource_sameStore receiver source
  by_cases hinitial : source = receiver.initialState
  · refine ⟨receiver.loadSource source, ?_, rfl, hsame.initialState⟩
    rw [cleanUp, if_neg fun hruns => hruns.2
      (hinitial.trans hsame.initialState.symm)]
    rfl
  · have hlisted := (hknown.key source hheld).resolve_left hinitial
    rw [cleanUp, if_pos ⟨loadSource_currentState hheld,
      fun h => hinitial (h.trans hsame.initialState)⟩, hsame.completeStates,
      discardOlder_eq _ hlisted]
    exact ⟨_, rfl, rfl, hsame.initialState⟩

theorem loadSource_player {receiver : Receiver δ} {source : UInt32}
    (hheld : receiver.decoders.Mem source) :
    ((receiver.loadSource source).player = receiver.player ∧
        receiver.currentState = source) ∨
      receiver.decoders source = some (receiver.loadSource source).player := by
  rcases loadSource_cases receiver source with
    ⟨hload, hnone⟩ | ⟨decoder, -, hdecoder, hload⟩
  · have hcurrent := loadSource_currentState hheld
    rw [hload] at hcurrent ⊢
    exact Or.inl ⟨rfl, hcurrent⟩
  · rw [hload]
    exact Or.inr hdecoder

theorem completedFrame_eq_some {receiver : Receiver δ} {packet : Packet}
    {fragment : FragmentedFrame}
    (h : receiver.completedFrame codec packet = some fragment) :
    receiver.nextFrameNo ≤ packet.frameNo.toNat ∧ ∃ taken,
      takeIn codec receiver packet = .ok taken ∧
        taken.readyFrame = some fragment := by
  rw [completedFrame] at h
  split at h
  · cases h
  · next hframeNo =>
      split at h
      · next taken htaken =>
          exact ⟨Nat.le_of_not_lt hframeNo, taken, htaken, h⟩
      · cases h

/-- The decoders that the frame which the packet completes may be decoded
with. -/
def StartsFrom (codec : Codec δ ε) (receiver : Receiver δ) (packet : Packet)
    (source : UInt32) (player : δ) : Prop :=
  ∃ taken, takeIn codec receiver packet = .ok taken ∧
    (player = taken.player ∨ taken.decoders source = some player)

end Receiver

section LockStep

variable {parties : Parties η δ ε}

/-- A frame is completed without a failure, from a decoder that mirrors the
encoder it was made with. -/
theorem LockStep.completeFrame (lock : LockStep parties)
    {receiver : Receiver δ} {fragment : FragmentedFrame}
    {encoding : Encoding η}
    (hknown : Receiver.Known parties.codec receiver)
    (hemits : lock.Emits encoding.before encoding.frame encoding.after)
    (hne : encoding.frame ≠ []) (hframe : fragment.frame = .ok encoding.frame)
    (htarget : parties.minihash encoding.after = fragment.targetState)
    (hheld : receiver.decoders.Mem fragment.sourceState)
    (hstart : lock.Mirrors (receiver.loadSource fragment.sourceState).player
      encoding.before) :
    ∃ applied, Receiver.completeFrame parties.codec receiver fragment =
        .ok applied ∧
      lock.Mirrors applied.player encoding.after ∧
      applied.currentState = fragment.targetState ∧
      (fragment.targetState ≠ receiver.initialState →
        applied.decoders.Mem fragment.targetState) := by
  obtain ⟨cleaned, hclean, hplayer, hinitial⟩ :=
    Receiver.cleanUp_held (ε := ε) hknown hheld
  obtain ⟨next, shown, hdecode, hnext⟩ :=
    lock.decode _ _ _ _ (hplayer ▸ hstart) hemits
  have hreaches : parties.codec.minihash next = fragment.targetState :=
    (lock.minihash _ _ hnext).trans htarget
  have hnil : encoding.frame.isEmpty = false := by
    simpa using hne
  rw [Receiver.completeFrame, hclean, Fallible.ok_bind, Receiver.applyFrame,
    hframe]
  simp only [Receiver.lift, Fallible.ok_bind, Receiver.enqueueFrame, hnil,
    Bool.false_eq_true, if_false, hdecode]
  refine ⟨_, rfl, ?_⟩
  dsimp only
  split
  · exact ⟨hnext, hreaches, fun _ =>
      PartialMap.mem_insert.mpr (Or.inl hreaches.symm)⟩
  · next hunsaved =>
      refine ⟨hnext, hreaches, fun hfresh => absurd ⟨hreaches, ?_⟩ hunsaved⟩
      rw [hreaches, hinitial]
      exact hfresh

end LockStep

namespace Joint

variable (parties : Parties η δ ε)

def encodingOf (joint : Joint η δ) : JointEvent η → List (Encoding η)
  | .encodeEnd ended =>
      match joint.sender.encodeJobs, joint.sender.pickOutput ended.outputs with
      | some job, .ok (some output) =>
          [⟨job.encoder, output.frame, output.encoder⟩]
      | _, _ => []
  | _ => []

def encodings (joint : Joint η δ) (events : List (JointEvent η)) :
    List (Encoding η) :=
  Fallible.runLog (step parties) encodingOf joint events

structure Carries (encoding : Encoding η) (dispatch : Dispatch) : Prop where
  source : dispatch.frame.sourceState = parties.minihash encoding.before
  target : dispatch.frame.targetState = parties.minihash encoding.after
  frame : dispatch.frame.frame = .ok encoding.frame

variable {parties}

theorem encodingOf_picked {joint : Joint η δ} {ended : EncodeOutputs η}
    {job : EncodeJob η} {picked : EncodeOutput η}
    (hjob : joint.sender.encodeJobs = some job)
    (hpick : joint.sender.pickOutput ended.outputs = .ok (some picked)) :
    joint.encodingOf (.encodeEnd ended) =
      [⟨job.encoder, picked.frame, picked.encoder⟩] := by
  simp only [encodingOf, hjob, hpick]

theorem mem_encodingOf {joint : Joint η δ} {event : JointEvent η}
    {encoding : Encoding η} (h : encoding ∈ joint.encodingOf event) :
    ∃ ended job picked, event = .encodeEnd ended ∧
      joint.sender.encodeJobs = some job ∧
      joint.sender.pickOutput ended.outputs = .ok (some picked) ∧
      encoding = ⟨job.encoder, picked.frame, picked.encoder⟩ := by
  cases event with
  | encodeEnd ended =>
      rw [encodingOf] at h
      split at h
      · next job picked hjob hpick =>
          exact ⟨ended, job, picked, rfl, hjob, hpick, List.mem_singleton.mp h⟩
      · cases h
  | encodeStart => cases h
  | packet => cases h
  | ack => cases h

/-- Only the end of the jobs sends anything, and only it brings a new
encoder. -/
theorem turn_cases {joint next : Joint η δ} {event : JointEvent η}
    (h : step parties joint event = .ok next) :
    (∃ ended, event = .encodeEnd ended ∧
      encodeEnd parties joint ended = .ok next) ∨
    joint.encodingOf event = [] ∧ next.sent = joint.sent ∧
      (next.sender = joint.sender ∨
        (∃ now later, joint.sender.encodeStart now later = .ok next.sender) ∨
        ∃ ack, joint.sender.handleAck ack = .ok next.sender) := by
  cases event with
  | encodeStart now later =>
      obtain ⟨sender, hstart, h⟩ := Fallible.bind_eq_ok h
      cases h
      exact Or.inr ⟨rfl, rfl, Or.inr (Or.inl ⟨now, later, hstart⟩)⟩
  | encodeEnd ended => exact Or.inl ⟨ended, rfl, h⟩
  | packet frame index timestamp avgDelay ackDelay frameOneWayDelay =>
      rw [step] at h
      split at h
      · next receiver packet _ _ =>
          cases h
          obtain ⟨hsent, hsender⟩ := @receive_sent _ _ _ parties joint receiver
            ⟨packet, avgDelay, ackDelay, frameOneWayDelay⟩
          exact Or.inr ⟨rfl, hsent, Or.inl hsender⟩
      · cases h
        exact Or.inr ⟨rfl, rfl, Or.inl rfl⟩
  | ack number =>
      rw [step] at h
      split at h
      · next packet _ =>
          obtain ⟨sender, hack, h⟩ := Fallible.bind_eq_ok h
          cases h
          exact Or.inr ⟨rfl, rfl, Or.inr (Or.inr ⟨packet, hack⟩)⟩
      · cases h
        exact Or.inr ⟨rfl, rfl, Or.inl rfl⟩

def Written (parties : Parties η δ ε) (written : List (Encoding η))
    (joint : Joint η δ) : Prop :=
  ∀ dispatch ∈ joint.sent, ∃ encoding ∈ written,
    Carries parties encoding dispatch

theorem carries_outgoing {sender : Sender η} {job : EncodeJob η}
    {ended : EncodeOutputs η} {picked : EncodeOutput η}
    {frame : FragmentedFrame} (conservative : Bool)
    (h : FragmentedFrame.outgoing
      (Sender.frameHeader parties.minihash sender job ended picked)
        picked.frame = .ok frame) :
    Carries parties ⟨job.encoder, picked.frame, picked.encoder⟩
      ⟨frame, conservative⟩ := by
  obtain ⟨whole, hheader, hwhole, rfl⟩ := SentFrame.outgoing_eq_ok h
  refine ⟨?_, ?_, ?_⟩
  · simp [SentFrame.fragmented, hheader, Sender.frameHeader]
  · simp [SentFrame.fragmented, hheader, Sender.frameHeader]
  · dsimp only
    rw [whole.fragmented_frame, hwhole]

theorem encodeEnd_written {written : List (Encoding η)}
    {joint next : Joint η δ} {ended : EncodeOutputs η}
    (h : Written parties written joint)
    (hend : encodeEnd parties joint ended = .ok next) :
    Written parties (written ++ joint.encodingOf (.encodeEnd ended)) next := by
  obtain ⟨sender, sent, hended, rfl⟩ := encodeEnd_cases hend
  intro dispatch hdispatch
  rcases List.mem_append.mp hdispatch with hold | hnew
  · obtain ⟨encoding, hencoding, hcarries⟩ := h dispatch hold
    exact ⟨encoding, List.mem_append_left _ hencoding, hcarries⟩
  · rcases Sender.encodeEnd_cases hended with
      ⟨rfl, -⟩ |
        ⟨job, picked, frame, fragments, hjob, hpick, hframe, -, rfl, -⟩
    · cases hnew
    · obtain rfl : dispatch = ⟨frame, _⟩ := List.mem_singleton.mp hnew
      refine ⟨⟨job.encoder, picked.frame, picked.encoder⟩,
        List.mem_append_right _ ?_, carries_outgoing _ hframe⟩
      rw [encodingOf_picked hjob hpick]
      exact List.mem_singleton.mpr rfl

theorem step_written {written : List (Encoding η)} {joint next : Joint η δ}
    {event : JointEvent η} (h : Written parties written joint)
    (hstep : step parties joint event = .ok next) :
    Written parties (written ++ joint.encodingOf event) next := by
  rcases turn_cases hstep with ⟨ended, rfl, hend⟩ | ⟨hnone, hsent, -⟩
  · exact encodeEnd_written h hend
  · rw [hnone, List.append_nil]
    exact fun dispatch hdispatch => h dispatch (hsent ▸ hdispatch)

theorem run_written {written : List (Encoding η)} {joint last : Joint η δ}
    {events : List (JointEvent η)} (h : Written parties written joint)
    (hrun : run parties joint events = .ok last) :
    Written parties (written ++ encodings parties joint events) last := by
  have hall : Fallible.AllSteps (step parties) (fun _ _ => True) joint
      events := Fallible.allSteps_of_forall (fun _ _ => trivial) joint events
  exact hall.logged (Written parties)
    (fun _ _ _ _ h _ hstep => step_written h hstep) h hrun

theorem cleanUp_stored {minihash : η → UInt32} {sender cleaned : Sender η}
    (hstore : Sender.Store minihash sender)
    (hclean : sender.cleanUp = .ok cleaned) {state : UInt32} {encoder : η}
    (h : cleaned.encoders state = some encoder) :
    sender.encoders state = some encoder := by
  obtain ⟨encoders, hspec, -, hvalue⟩ := Sender.cleanUp_spec hstore
  obtain rfl := Except.ok.inj (hspec.symm.trans hclean)
  exact hvalue state encoder h

structure Keeps (P : η → Prop) (sender : Sender η) : Prop where
  stored : ∀ state encoder, sender.encoders state = some encoder → P encoder
  job : ∀ job, sender.encodeJobs = some job → P job.encoder

theorem encodeStart_keeps {P : η → Prop} {sender next : Sender η}
    {minihash : η → UInt32} {now later : Nat}
    (hstore : Sender.Store minihash sender) (h : Keeps P sender)
    (hstart : sender.encodeStart now later = .ok next) : Keeps P next := by
  rcases Sender.encodeStart_cases hstart with
    ⟨-, rfl⟩ | ⟨cleaned, selection, encoder, -, hclean, -, hencoder, rfl⟩
  · exact h
  · have hstored : ∀ state encoder, cleaned.encoders state = some encoder →
        P encoder := fun state encoder hstate =>
      h.stored state encoder (cleanUp_stored hstore hclean hstate)
    refine ⟨hstored, ?_⟩
    rintro job ⟨⟩
    exact hstored _ _ hencoder

theorem step_keeps {P : η → Prop} {joint next : Joint η δ}
    {event : JointEvent η} (hagreed : Agreed parties joint)
    (h : Keeps P joint.sender)
    (hafter : ∀ encoding ∈ joint.encodingOf event, P encoding.after)
    (hstep : step parties joint event = .ok next) : Keeps P next.sender := by
  rcases turn_cases hstep with
    ⟨ended, rfl, hend⟩ | ⟨-, -, hsame | ⟨now, later, hstart⟩ | ⟨ack, hack⟩⟩
  · obtain ⟨sender, sent, hended, rfl⟩ := encodeEnd_cases hend
    rcases Sender.encodeEnd_cases hended with
      ⟨-, rfl | ⟨skipped, rfl⟩⟩ |
        ⟨job, picked, frame, fragments, hjob, hpick, -, -, -, rfl⟩
    · exact h
    · exact ⟨h.stored, by rintro _ ⟨⟩⟩
    · refine ⟨fun state encoder hstate => ?_, by rintro _ ⟨⟩⟩
      rcases PartialMap.insert_eq_some hstate with ⟨-, rfl⟩ | hold
      · refine hafter ⟨job.encoder, picked.frame, picked.encoder⟩ ?_
        rw [encodingOf_picked hjob hpick]
        exact List.mem_singleton.mpr rfl
      · exact h.stored state encoder hold
  · rw [hsame]
    exact h
  · exact encodeStart_keeps hagreed.ledger.store h hstart
  · rcases Sender.handleAck_cases hack with hsame | ⟨_, _, _, _, hsame⟩
    · rw [hsame]
      exact h
    · rw [hsame]
      exact ⟨h.stored, h.job⟩

theorem Keeps.before {P : η → Prop} {joint : Joint η δ}
    {event : JointEvent η} (h : Keeps P joint.sender) :
    ∀ encoding ∈ joint.encodingOf event, P encoding.before := by
  intro encoding hencoding
  obtain ⟨ended, job, picked, -, hjob, -, rfl⟩ := mem_encodingOf hencoding
  exact h.job job hjob

theorem run_keeps {P : η → Prop} {joint : Joint η δ}
    {events : List (JointEvent η)} (hagreed : Agreed parties joint)
    (h : Keeps P joint.sender)
    (hemits : ∀ encoding ∈ encodings parties joint events,
      P encoding.before → P encoding.after) :
    ∀ encoding ∈ encodings parties joint events, P encoding.before := by
  induction events generalizing joint with
  | nil => exact fun _ hencoding => absurd hencoding List.not_mem_nil
  | cons event rest ih =>
      intro encoding hencoding
      rw [encodings, Fallible.runLog] at hencoding hemits
      rcases List.mem_append.mp hencoding with hfirst | hlater
      · exact h.before encoding hfirst
      cases hstep : step parties joint event with
      | error failure =>
          rw [hstep] at hlater
          cases hlater
      | ok next =>
          rw [hstep] at hlater hemits
          refine ih (step_agreed hagreed hstep) (step_keeps hagreed h ?_ hstep)
            (fun later hmem => hemits later (List.mem_append_right _ hmem))
            encoding hlater
          exact fun first hmem => hemits first (List.mem_append_left _ hmem)
            (h.before first hmem)

theorem keeps_start {P : η → Prop} (now : Nat)
    (hbase : P parties.baseEncoder) :
    Keeps P (start parties now : Joint η δ).sender where
  stored state encoder hstate := by
    rcases PartialMap.insert_eq_some hstate with ⟨-, rfl⟩ | hempty
    · exact hbase
    · cases hempty
  job := by rintro _ ⟨⟩

/-- In a run in which the frames are what the codec emits, the receiver never
fails on a frame whose source it holds, and mirrors the encoder that the frame
leads to, if the hash of the source is that of no other decoder it may start
from. -/
theorem run_mirrors (lock : LockStep parties) {now : Nat}
    {events : List (JointEvent η)} {joint : Joint η δ}
    (hrun : run parties (start parties now) events = .ok joint)
    (hemits : ∀ encoding ∈ encodings parties (start parties now) events,
      lock.Emits encoding.before encoding.frame encoding.after)
    (hdistinct : joint.targets.Nodup) {receiver : Receiver δ}
    (hreceiver : joint.receiver = some receiver) {arrival : Arrival}
    (hpacket : joint.InFlight arrival.packet) {fragment : FragmentedFrame}
    (hcompletes : receiver.completedFrame parties.codec arrival.packet =
      some fragment)
    {dispatch : Dispatch} (hdispatch : dispatch ∈ joint.sent)
    (htarget : dispatch.frame.targetState = fragment.targetState)
    (hheld : receiver.decoders.Mem dispatch.frame.sourceState) :
    ∃ encoding ∈ encodings parties (start parties now) events,
      Carries parties encoding dispatch ∧
      ((∀ player, Receiver.StartsFrom parties.codec receiver arrival.packet
            dispatch.frame.sourceState player →
          parties.codec.minihash player = dispatch.frame.sourceState →
          lock.Mirrors player encoding.before) →
        ∃ after ack, Receiver.handlePacket parties.codec receiver arrival =
            .ok (after, ack) ∧
          lock.Mirrors after.player encoding.after ∧
          after.currentState = dispatch.frame.targetState) := by
  have hwritten : Written parties
      ([] ++ encodings parties (start parties now) events) joint :=
    run_written (fun _ h => absurd h List.not_mem_nil) hrun
  obtain ⟨encoding, hencoding, hcarries⟩ := hwritten dispatch hdispatch
  rw [List.nil_append] at hencoding
  refine ⟨encoding, hencoding, hcarries, fun hmirrors => ?_⟩
  have hlogged := (run_recovering hrun hdistinct).receiver receiver hreceiver
  obtain ⟨carrier, whole, index, timestamp, hcarrier, hframe, hindex,
    hwhole⟩ := (run_agreed hrun).cut.packet hpacket
  obtain ⟨hframeNo, taken, htaken, hready⟩ :=
    Receiver.completedFrame_eq_some hcompletes
  have htakenLogged := Receiver.takeIn_logged hdistinct hlogged
    ⟨hcarrier, whole, index, timestamp, hframe, hindex, hwhole⟩ hframeNo htaken
  obtain ⟨hsource, bytes, hne, hbytes, hgiven⟩ :=
    readyFrame_dispatch hdistinct htakenLogged hready hdispatch htarget
  obtain rfl := Except.ok.inj (hcarries.frame.symm.trans hbytes)
  rw [← (Receiver.takeIn_sameStore hlogged.order htaken).decoders,
    ← hsource] at hheld
  have hstart : lock.Mirrors (taken.loadSource fragment.sourceState).player
      encoding.before := by
    rcases Receiver.loadSource_player hheld with ⟨hsame, hcurrent⟩ | hdecoder
    · refine hmirrors _ ⟨taken, htaken, Or.inl hsame⟩ ?_
      rw [hsame, ← htakenLogged.current, hcurrent, hsource]
    · exact hmirrors _ ⟨taken, htaken, Or.inr (hsource ▸ hdecoder)⟩
        ((htakenLogged.store.known.minihash _ _ hdecoder).trans hsource)
  obtain ⟨after, hcomplete, hmirrored, hcurrent, -⟩ := lock.completeFrame
    htakenLogged.store.known (hemits encoding hencoding) hne hgiven
    (hcarries.target.symm.trans htarget) hheld hstart
  refine ⟨after, some (after.acknowledge arrival 1), ?_, hmirrored,
    hcurrent.trans htarget.symm⟩
  rw [Receiver.handlePacket, if_neg (Nat.not_lt_of_le hframeNo)]
  simp only [htaken, Fallible.ok_bind, hready, hcomplete]
  rfl

end Joint

end Salsify.Session
