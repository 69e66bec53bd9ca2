import Salsify.Session.LockStep

namespace Salsify.Session

open Salsify.Net

variable {η δ ε : Type}

/-! Runs in which no frame is given up and the sender never falls back. -/

namespace Sender

variable {minihash : η → UInt32} {targets : List UInt32} {sender : Sender η}

theorem Ledger.assumed_last (hledger : Ledger minihash targets sender) :
    (sender.initialState :: targets).getLast? =
      some (sender.receiverAssumedState.getD sender.initialState) := by
  rw [hledger.store.assumed]
  cases htargets : targets with
  | nil =>
      have hnil : sender.encoderStates = [] :=
        List.suffix_nil.mp (htargets ▸ hledger.listed)
      rw [hnil]
      rfl
  | cons first rest =>
      obtain ⟨before, hbefore⟩ := hledger.listed
      have hne := hledger.begun (by rw [htargets]; exact List.cons_ne_nil _ _)
      rw [List.getLast?_cons_cons, ← htargets, ← hbefore,
        List.getLast?_append_of_ne_nil _ hne]
      obtain ⟨last, hlast⟩ := Option.ne_none_iff_exists'.mp
        (mt List.getLast?_eq_none_iff.mp hne)
      rw [hlast]
      rfl

theorem Ledger.last_mem (hledger : Ledger minihash targets sender)
    (hinitial : sender.initialState ∉ targets) {state : UInt32}
    (hlast : (sender.initialState :: targets).getLast? = some state) :
    sender.encoders.Mem state := by
  rw [hledger.assumed_last] at hlast
  obtain rfl := Option.some.inj hlast
  cases hassumed : sender.receiverAssumedState with
  | none => exact (hledger.key _).mpr (Or.inr ⟨rfl, hinitial⟩)
  | some assumed =>
      exact hledger.store.listed assumed (hledger.store.assumed_mem hassumed)

theorem select_assumed_eq {now later : Nat} {selection : Selection}
    (h : sender.select now later = .ok selection)
    (hassumed : selection.conservative = false) :
    selection.sourceHash =
      sender.receiverAssumedState.getD sender.initialState := by
  rw [select] at h
  split at h
  · cases h
    cases hassumed
  · split at h
    · split at h
      · next hnone =>
          cases h
          rw [hnone]
          rfl
      · next assumed hsome =>
          cases h
          rw [hsome]
          rfl
    · split at h
      · obtain ⟨assumed, hsome, h⟩ := Fallible.bind_eq_ok h
        cases h
        cases hstate : sender.receiverAssumedState with
        | none =>
            rw [hstate] at hsome
            cases hsome
        | some state =>
            rw [hstate] at hsome
            cases hsome
            rfl
      · cases h
        cases hassumed

end Sender

namespace Receiver

variable {codec : Codec δ ε}

theorem takeIn_awaited {receiver : Receiver δ} {packet : Packet}
    {fragment : FragmentedFrame}
    (hnumber : packet.frameNo.toNat = receiver.nextFrameNo)
    (h : joined receiver packet = .ok fragment) :
    ∃ frames, takeIn codec receiver packet =
      .ok { receiver with fragmentedFrames := frames } := by
  rw [takeIn, catchUp, if_neg (Nat.not_lt_of_le hnumber.le), Fallible.ok_bind,
    addToFrame]
  rw [joined, if_pos hnumber, ← hnumber] at h
  cases hentry : receiver.fragmentedFrames packet.frameNo.toNat with
  | some old =>
      simp only [hentry] at h
      exact ⟨_, by simp only [h]; rfl⟩
  | none =>
      simp only [hentry] at h
      exact ⟨_, by simp only [h]; rfl⟩

theorem joined_awaited {sent : List Dispatch} {receiver : Receiver δ}
    {dispatch : Dispatch} {whole : SentFrame} {index : Nat}
    (timestamp : UInt32)
    (hunderway : Underway sent receiver.fragmentedFrames)
    (hframe : dispatch.frame = whole.fragmented) (hindex : index < whole.count)
    (hconnection : whole.header.connectionId = connectionId)
    (hawaited : ∀ other ∈ sent,
      other.frame.frameNo.toNat = receiver.nextFrameNo → other = dispatch) :
    ∃ fragment, joined receiver (whole.packet index timestamp) =
      .ok fragment := by
  rw [joined]
  split
  · next old hold =>
      obtain ⟨other, same, clock, got, hother, hsame, hkey, rfl⟩ :=
        hunderway receiver.nextFrameNo old (by
          split at hold
          · exact hold
          · cases hold)
      obtain rfl := hawaited other hother (by
        rw [hsame]
        exact hkey.symm)
      obtain ⟨hindex, hpacket⟩ :=
        SentFrame.packet_congr (hsame.symm.trans hframe) hindex timestamp
      obtain ⟨later, hadded⟩ :=
        same.addPacket_arrived clock got hindex timestamp
      exact ⟨_, by rw [hpacket, hadded]⟩
  · rw [← hconnection, whole.incoming_packet hindex timestamp]
    exact ⟨_, rfl⟩

end Receiver

namespace Joint

variable {parties : Parties η δ ε}

/-- A turn of a calm run: a frame that is sent is made from the last one and has
a state of its own, and a packet is of no frame beyond the one waited for. -/
def Calm (lock : LockStep parties) (joint : Joint η δ) :
    JointEvent η → Prop
  | .encodeStart _ _ => True
  | .encodeEnd ended => ∀ job picked, joint.sender.encodeJobs = some job →
      joint.sender.pickOutput ended.outputs = .ok (some picked) →
        job.conservative = false ∧
          lock.Emits job.encoder picked.frame picked.encoder ∧
          parties.minihash picked.encoder ∉
            parties.minihash parties.baseEncoder :: joint.targets ∧
          joint.sent.length + 1 < 2 ^ 32
  | .packet frame _ _ _ _ _ => ∀ receiver, joint.receiver = some receiver →
      frame ≤ receiver.nextFrameNo
  | .ack _ => True

structure Leads (lock : LockStep parties) (path : List η) (number : Nat)
    (dispatch : Dispatch) (encoding : Encoding η) : Prop where
  before : path[number]? = some encoding.before
  after : path[number + 1]? = some encoding.after
  emits : lock.Emits encoding.before encoding.frame encoding.after
  carries : Carries parties encoding dispatch
  frameNo : dispatch.frame.frameNo.toNat = number
  connectionId : dispatch.frame.connectionId = Receiver.connectionId

/-- The encoders from the base encoder on, each of which emits the next frame,
and the decoder at the one of the frame that is waited for. -/
structure InStep (lock : LockStep parties) (path : List η)
    (joint : Joint η δ) : Prop where
  agreed : Agreed parties joint
  recovering : Recovering parties joint
  targets : path.map parties.minihash =
    parties.minihash parties.baseEncoder :: joint.targets
  distinct : (path.map parties.minihash).Nodup
  sent : ∀ number dispatch, joint.sent[number]? = some dispatch →
    ∃ encoding, Leads lock path number dispatch encoding
  last : ∀ encoder, path.getLast? = some encoder →
    joint.sender.encoders (parties.minihash encoder) = some encoder
  job : ∀ job, joint.sender.encodeJobs = some job →
    job.conservative = false → path.getLast? = some job.encoder
  connectionId : joint.sender.connectionId = Receiver.connectionId
  frameNo : joint.sender.frameNo.toNat = joint.sent.length
  receiver : ∃ receiver encoder, joint.receiver = some receiver ∧
    path[receiver.nextFrameNo]? = some encoder ∧
    lock.Mirrors receiver.player encoder ∧
    receiver.decoders.Mem receiver.currentState

theorem getElem?_append_of_eq {path more : List η} {number : Nat} {encoder : η}
    (h : path[number]? = some encoder) :
    (path ++ more)[number]? = some encoder := by
  rw [List.getElem?_append_left (List.getElem?_eq_some_iff.mp h).1]
  exact h

section Turn

variable {lock : LockStep parties} {path : List η} {joint next : Joint η δ}

theorem inStep_start
    (hconnection : parties.connectionId = Receiver.connectionId)
    (hmirrors : lock.Mirrors parties.player parties.baseEncoder) (now : Nat) :
    InStep lock [parties.baseEncoder] (start parties now) where
  agreed := agreed_start now
  recovering := recovering_start now
  targets := rfl
  distinct := List.nodup_singleton _
  sent number dispatch h := by cases h
  last encoder h := by
    cases h
    simp [start, Sender.start, PartialMap.insert, PartialMap.empty]
  job := by rintro _ ⟨⟩
  connectionId := hconnection
  frameNo := rfl
  receiver := ⟨Receiver.start parties.codec parties.player,
    parties.baseEncoder, rfl, rfl, hmirrors,
    PartialMap.mem_insert.mpr (Or.inl rfl)⟩

theorem InStep.length (h : InStep lock path joint) :
    path.length = joint.sent.length + 1 := by
  have hlength := congrArg List.length h.targets
  simpa [Joint.targets] using hlength

theorem InStep.nodup_targets (h : InStep lock path joint) :
    joint.targets.Nodup :=
  (h.targets ▸ h.distinct).of_cons

theorem InStep.initial (h : InStep lock path joint) :
    joint.sender.initialState ∉ joint.targets := by
  rw [h.recovering.initial]
  exact (List.nodup_cons.mp (h.targets ▸ h.distinct)).1

theorem InStep.getLast? (h : InStep lock path joint) {encoder : η}
    (hlast : path.getLast? = some encoder) :
    (joint.sender.initialState :: joint.targets).getLast? =
      some (parties.minihash encoder) := by
  rw [h.recovering.initial, ← h.targets, List.getLast?_map, hlast]
  rfl

theorem InStep.exists_last (h : InStep lock path joint) :
    ∃ encoder, path.getLast? = some encoder := by
  rw [← Option.ne_none_iff_exists', Ne, List.getLast?_eq_none_iff]
  intro hnil
  have hlength := h.length
  rw [hnil] at hlength
  cases hlength

theorem encodeStart_inStep {sender : Sender η} {now later : Nat}
    (h : InStep lock path joint)
    (hstart : joint.sender.encodeStart now later = .ok sender) :
    InStep lock path { joint with sender := sender } := by
  have hagreed := encodeStart_agreed h.agreed hstart
  have hrecovering := encodeStart_recovering h.agreed h.recovering hstart
  rcases Sender.encodeStart_cases hstart with
    ⟨-, rfl⟩ | ⟨cleaned, selection, encoder, -, hclean, hselect, hencoder, rfl⟩
  · exact h
  · obtain ⟨encoders, hspec, hledger⟩ := h.agreed.ledger.cleanUp
    have hstored := fun {state : UInt32} {encoder : η} =>
      @cleanUp_stored _ _ _ _ h.agreed.ledger.store hclean state encoder
    obtain rfl := Except.ok.inj (hspec.symm.trans hclean)
    have hlast : ∀ encoder, path.getLast? = some encoder →
        encoders (parties.minihash encoder) = some encoder := by
      intro encoder hlast
      obtain ⟨value, hvalue⟩ := PartialMap.mem_def.mp
        (hledger.last_mem h.initial (h.getLast? hlast))
      have hsame := (hstored hvalue).symm.trans (h.last encoder hlast)
      exact hvalue.trans hsame
    refine ⟨hagreed, hrecovering, h.targets, h.distinct, h.sent, hlast, ?_,
      h.connectionId, h.frameNo, h.receiver⟩
    rintro job ⟨⟩ hassumed
    obtain ⟨latest, hlatest⟩ := h.exists_last
    have hsource : selection.sourceHash = parties.minihash latest := by
      rw [Sender.select_assumed_eq hselect hassumed]
      exact Option.some.inj (hledger.assumed_last.symm.trans
        (h.getLast? hlatest))
    rw [hsource] at hencoder
    rw [hlatest, ← hlast latest hlatest]
    exact hencoder

theorem handleAck_inStep {sender : Sender η} {ack : AckPacket}
    (h : InStep lock path joint) (hack : ack ∈ joint.acks)
    (hhandled : joint.sender.handleAck ack = .ok sender) :
    InStep lock path { joint with sender := sender } := by
  have hagreed := handleAck_agreed h.agreed hack hhandled
  have hrecovering := handleAck_recovering h.recovering hack hhandled
  rcases Sender.handleAck_cases hhandled with rfl | ⟨_, _, _, _, rfl⟩
  · exact h
  · exact ⟨hagreed, hrecovering, h.targets, h.distinct, h.sent, h.last, h.job,
      h.connectionId, h.frameNo, h.receiver⟩

theorem encodeEnd_none {minihash : η → UInt32} {sender after : Sender η}
    {ended : EncodeOutputs η} {job : EncodeJob η} {picked : EncodeOutput η}
    (h : Sender.encodeEnd minihash sender ended = .ok (after, none))
    (hjob : sender.encodeJobs = some job) :
    sender.pickOutput ended.outputs ≠ .ok (some picked) := by
  intro hpick
  have hsome : ended.outputs ≠ [] :=
    List.ne_nil_of_mem (Sender.pickOutput_mem hpick)
  simp only [Sender.encodeEnd, hjob, if_neg hsome, hpick,
    Fallible.ok_bind] at h
  obtain ⟨⟨_, _⟩, -, h⟩ := Fallible.bind_eq_ok h
  cases h

theorem Leads.append {number : Nat} {dispatch : Dispatch}
    {encoding : Encoding η} (more : List η)
    (h : Leads lock path number dispatch encoding) :
    Leads lock (path ++ more) number dispatch encoding :=
  { h with
    before := getElem?_append_of_eq h.before
    after := getElem?_append_of_eq h.after }

theorem encodeEnd_inStep {ended : EncodeOutputs η}
    (h : InStep lock path joint) (hcalm : Calm lock joint (.encodeEnd ended))
    (hend : encodeEnd parties joint ended = .ok next) :
    InStep lock (path ++
      (joint.encodingOf (.encodeEnd ended)).map Encoding.after) next := by
  have hagreed := encodeEnd_agreed h.agreed hend
  have hrecovering := encodeEnd_recovering h.recovering hend
  obtain ⟨sender, sent, hended, rfl⟩ := encodeEnd_cases hend
  rcases Sender.encodeEnd_cases hended with
    ⟨rfl, hsame⟩ |
      ⟨job, picked, frame, fragments, hjob, hpick, hframe, -, rfl, rfl⟩
  · have hnone : joint.encodingOf (.encodeEnd ended) = [] := by
      rw [List.eq_nil_iff_forall_not_mem]
      intro encoding hencoding
      obtain ⟨_, job, picked, ⟨⟩, hjob, hpick, -⟩ := mem_encodingOf hencoding
      exact encodeEnd_none hended hjob hpick
    rw [hnone, List.map_nil, List.append_nil]
    simp only [Option.toList_none, List.map_nil,
      List.append_nil] at hagreed hrecovering ⊢
    rcases hsame with rfl | ⟨skipped, rfl⟩
    · exact h
    · exact ⟨hagreed, hrecovering, h.targets, h.distinct, h.sent, h.last,
        by rintro _ ⟨⟩, h.connectionId, h.frameNo, h.receiver⟩
  · obtain ⟨hassumed, hemits, hfresh, hfits⟩ := hcalm job picked hjob hpick
    have hcarries := @carries_outgoing _ _ _ parties _ _ _ _ _
      (joint.sender.encodeJobs.any EncodeJob.conservative) hframe
    rw [encodingOf_picked hjob hpick, List.map_singleton]
    have hlength := h.length
    have hbefore : path[joint.sent.length]? = some job.encoder := by
      rw [← h.job job hjob hassumed, List.getLast?_eq_getElem?, hlength]
      rfl
    refine ⟨hagreed, hrecovering, ?_, ?_, ?_, ?_, by rintro _ ⟨⟩,
      h.connectionId, ?_, ?_⟩
    · have htarget : frame.targetState =
          parties.minihash picked.encoder := hcarries.target
      rw [List.map_append, h.targets]
      simp [Joint.targets, htarget]
    · rw [List.map_append, List.map_singleton]
      refine h.distinct.append (List.nodup_singleton _) ?_
      rw [List.disjoint_singleton, h.targets]
      exact hfresh
    · intro number dispatch hget
      by_cases hold : number < joint.sent.length
      · rw [List.getElem?_append_left hold] at hget
        obtain ⟨encoding, hleads⟩ := h.sent number dispatch hget
        exact ⟨encoding, hleads.append _⟩
      · rw [List.getElem?_append_right (Nat.le_of_not_lt hold)] at hget
        obtain ⟨hzero, hdispatch⟩ := List.getElem?_eq_some_iff.mp hget
        have hnumber : number = joint.sent.length := by
          simp only [Option.toList_some, List.map_singleton,
            List.length_singleton] at hzero
          omega
        subst hnumber
        simp only [Nat.sub_self, Option.toList_some, List.map_singleton,
          List.getElem_cons_zero] at hdispatch
        subst hdispatch
        obtain ⟨whole, hheader, -, rfl⟩ := SentFrame.outgoing_eq_ok hframe
        refine ⟨⟨job.encoder, picked.frame, picked.encoder⟩,
          getElem?_append_of_eq hbefore, ?_, hemits, hcarries, ?_, ?_⟩
        · rw [← hlength, List.getElem?_concat_length]
        · rw [← h.frameNo]
          simp [SentFrame.fragmented, hheader, Sender.frameHeader]
        · rw [← h.connectionId]
          simp [SentFrame.fragmented, hheader, Sender.frameHeader]
    · intro encoder hlast
      rw [List.getLast?_concat] at hlast
      obtain rfl := Option.some.inj hlast
      have hnew : ¬ joint.sender.encoders.Mem
          (parties.minihash picked.encoder) := by
        rw [h.agreed.ledger.key]
        rintro (hlisted | ⟨hinitial, -⟩)
        · exact hfresh (List.mem_cons_of_mem _
            (h.agreed.ledger.listed.subset hlisted))
        · rw [hinitial, h.recovering.initial] at hfresh
          exact hfresh List.mem_cons_self
      simp [PartialMap.insert, PartialMap.not_mem_iff.mp hnew]
    · have hframeNo := h.frameNo
      simp only [Option.toList_some, List.map_singleton, List.length_append,
        List.length_singleton, UInt32.toNat_add, UInt32.toNat_one]
      omega
    · obtain ⟨receiver, encoder, hreceiver, hat, hrest⟩ := h.receiver
      exact ⟨receiver, encoder, hreceiver, getElem?_append_of_eq hat, hrest⟩

theorem InStep.dispatch_eq (h : InStep lock path joint) {number : Nat}
    {dispatch other : Dispatch} (hget : joint.sent[number]? = some dispatch)
    (hother : other ∈ joint.sent)
    (hframeNo : other.frame.frameNo.toNat = number) : other = dispatch := by
  obtain ⟨place, hplace⟩ := List.mem_iff_getElem?.mp hother
  obtain ⟨encoding, hleads⟩ := h.sent place other hplace
  obtain rfl := hleads.frameNo.symm.trans hframeNo
  exact Option.some.inj (hplace.symm.trans hget)

theorem InStep.packet (h : InStep lock path joint) {number index : Nat}
    {timestamp : UInt32} {packet : Packet}
    (hpacket : joint.packetAt number index timestamp = some packet) :
    packet.frameNo.toNat = number ∧
    ∃ dispatch whole, joint.sent[number]? = some dispatch ∧
      dispatch.frame = SentFrame.fragmented whole ∧ index < whole.count ∧
      packet = whole.packet index timestamp ∧
      whole.header.connectionId = Receiver.connectionId := by
  obtain ⟨dispatch, whole, hdispatch, hframe, hindex, rfl⟩ :=
    packetAt_cases h.agreed.cut hpacket
  obtain ⟨encoding, hleads⟩ := h.sent number dispatch hdispatch
  refine ⟨?_, dispatch, whole, hdispatch, hframe, hindex, rfl, ?_⟩
  · rw [← hleads.frameNo, hframe]
    rfl
  · rw [← hleads.connectionId, hframe]
    rfl

/-- The frame that is waited for, once it is complete, is decoded by the
decoder that mirrors the encoder it was made with. -/
theorem completeFrame_inStep (h : InStep lock path joint)
    {receiver : Receiver δ} {encoder : η} {fragment : FragmentedFrame}
    (hlogged : Receiver.Logged parties.codec parties.player joint.sent
      joint.completions receiver)
    (hat : path[receiver.nextFrameNo]? = some encoder)
    (hmirrors : lock.Mirrors receiver.player encoder)
    (hheld : receiver.decoders.Mem receiver.currentState)
    (hready : receiver.readyFrame = some fragment) :
    ∃ applied latest, Receiver.completeFrame parties.codec receiver fragment =
        .ok applied ∧
      path[applied.nextFrameNo]? = some latest ∧
      lock.Mirrors applied.player latest ∧
      applied.decoders.Mem applied.currentState := by
  obtain ⟨dispatch, hdispatch, htarget, hframeNo, -⟩ :=
    hlogged.target_not_saved h.nodup_targets hready
  obtain ⟨number, hnumber⟩ := List.mem_iff_getElem?.mp hdispatch
  obtain ⟨encoding, hleads⟩ := h.sent number dispatch hnumber
  obtain rfl := hleads.frameNo.symm.trans hframeNo
  obtain rfl := Option.some.inj (hat.symm.trans hleads.before)
  obtain ⟨hsource, bytes, hne, hbytes, hgiven⟩ :=
    readyFrame_dispatch h.nodup_targets hlogged hready hdispatch htarget
  obtain rfl := Except.ok.inj (hleads.carries.frame.symm.trans hbytes)
  have hcurrent : receiver.currentState = fragment.sourceState := by
    rw [hlogged.current, lock.minihash _ _ hmirrors, hsource,
      hleads.carries.source]
  have hplayer : (receiver.loadSource fragment.sourceState).player =
      receiver.player := by
    rw [Receiver.loadSource, if_neg (not_not.mpr hcurrent)]
  have hfresh : fragment.targetState ≠ receiver.initialState := by
    intro hsame
    refine h.initial ?_
    rw [h.recovering.initial, ← parties.initial, ← hlogged.initialState,
      ← hsame, ← htarget]
    exact List.mem_map_of_mem hdispatch
  obtain ⟨applied, hcomplete, hafter, hreached, hsaved⟩ := lock.completeFrame
    hlogged.store.known hleads.emits hne hgiven
    (hleads.carries.target.symm.trans htarget) (hcurrent ▸ hheld)
    (hplayer.symm ▸ hmirrors)
  refine ⟨applied, encoding.after, hcomplete, ?_, hafter, ?_⟩
  · rw [Receiver.completeFrame_nextFrameNo hcomplete]
    exact hleads.after
  · rw [hreached]
    exact hsaved hfresh

theorem handlePacket_inStep (h : InStep lock path joint)
    {receiver : Receiver δ} {encoder : η} {arrival : Arrival}
    {number index : Nat} {timestamp : UInt32}
    (hreceiver : joint.receiver = some receiver)
    (hat : path[receiver.nextFrameNo]? = some encoder)
    (hmirrors : lock.Mirrors receiver.player encoder)
    (hheld : receiver.decoders.Mem receiver.currentState)
    (hpacket : joint.packetAt number index timestamp = some arrival.packet)
    (hcalm : number ≤ receiver.nextFrameNo) :
    ∃ after ack latest, Receiver.handlePacket parties.codec receiver arrival =
        .ok (after, ack) ∧
      path[after.nextFrameNo]? = some latest ∧
      lock.Mirrors after.player latest ∧
      after.decoders.Mem after.currentState := by
  have hlogged := h.recovering.receiver receiver hreceiver
  obtain ⟨hframeNo, dispatch, whole, hdispatch, hframe, hindex, hwhole,
    hconnection⟩ := h.packet hpacket
  rcases hcalm.lt_or_eq with hold | rfl
  · refine ⟨receiver, none, encoder, ?_, hat, hmirrors, hheld⟩
    rw [Receiver.handlePacket, if_pos (hframeNo.trans_lt hold)]
    rfl
  obtain ⟨joined, hjoined⟩ := Receiver.joined_awaited timestamp
    hlogged.underway hframe hindex hconnection
    fun other hother => h.dispatch_eq hdispatch hother
  obtain ⟨frames, htaken⟩ := @Receiver.takeIn_awaited _ _ parties.codec
    receiver arrival.packet _ hframeNo (hwhole ▸ hjoined)
  have htakenLogged := Receiver.takeIn_logged h.nodup_targets hlogged
    ⟨List.mem_of_getElem? hdispatch, whole, index, timestamp, hframe, hindex,
      hwhole⟩ hframeNo.ge htaken
  rw [Receiver.handlePacket, if_neg (Nat.not_lt_of_le hframeNo.ge)]
  simp only [htaken, Fallible.ok_bind]
  cases hready : Receiver.readyFrame
      { receiver with fragmentedFrames := frames } with
  | none => exact ⟨_, _, encoder, rfl, hat, hmirrors, hheld⟩
  | some fragment =>
      obtain ⟨applied, latest, hcomplete, hrest⟩ := completeFrame_inStep h
        htakenLogged hat hmirrors hheld hready
      simp only [hcomplete, Fallible.ok_bind]
      exact ⟨applied, _, latest, rfl, hrest⟩

theorem packet_inStep {number index : Nat}
    {timestamp avgDelay ackDelay frameOneWayDelay : UInt32}
    (h : InStep lock path joint)
    (hcalm : Calm lock joint (.packet number index timestamp avgDelay ackDelay
      frameOneWayDelay))
    (hstep : step parties joint (.packet number index timestamp avgDelay
      ackDelay frameOneWayDelay) = .ok next) :
    InStep lock path next := by
  obtain ⟨receiver, encoder, hreceiver, hat, hmirrors, hheld⟩ := h.receiver
  cases hpacket : joint.packetAt number index timestamp with
  | none =>
      simp only [step, hreceiver, hpacket] at hstep
      cases hstep
      exact h
  | some packet =>
      simp only [step, hreceiver, hpacket] at hstep
      obtain rfl := Except.ok.inj hstep
      let arrival : Arrival := ⟨packet, avgDelay, ackDelay, frameOneWayDelay⟩
      have hinFlight : joint.InFlight arrival.packet :=
        ⟨number, index, timestamp, hpacket⟩
      have hagreed := receive_agreed h.agreed hreceiver hinFlight
      have hrecovering := receive_recovering h.agreed h.nodup_targets
        h.recovering hreceiver hinFlight
      obtain ⟨after, ack, latest, hhandled, hrest⟩ := @handlePacket_inStep
        _ _ _ parties lock path joint h receiver encoder arrival number index
        timestamp hreceiver hat hmirrors hheld hpacket
        (hcalm receiver hreceiver)
      change InStep lock path (receive parties joint receiver arrival)
      change Agreed parties (receive parties joint receiver arrival) at hagreed
      change Recovering parties
        (receive parties joint receiver arrival) at hrecovering
      simp only [receive, hhandled] at hagreed hrecovering ⊢
      exact ⟨hagreed, hrecovering, h.targets, h.distinct, h.sent, h.last, h.job,
        h.connectionId, h.frameNo, after, latest, rfl, hrest⟩

theorem step_inStep {event : JointEvent η} (h : InStep lock path joint)
    (hcalm : Calm lock joint event)
    (hstep : step parties joint event = .ok next) :
    InStep lock (path ++ (joint.encodingOf event).map Encoding.after) next := by
  cases event with
  | encodeEnd output => exact encodeEnd_inStep h hcalm hstep
  | encodeStart now later =>
      obtain ⟨sender, hstart, hstep⟩ := Fallible.bind_eq_ok hstep
      cases hstep
      simpa [encodingOf] using encodeStart_inStep h hstart
  | packet number index timestamp avgDelay ackDelay frameOneWayDelay =>
      simpa [encodingOf] using packet_inStep h hcalm hstep
  | ack number =>
      cases hack : joint.acks[number]? with
      | none =>
          simp only [step, hack] at hstep
          cases hstep
          simpa [encodingOf] using h
      | some ack =>
          simp only [step, hack] at hstep
          obtain ⟨sender, hhandled, hstep⟩ := Fallible.bind_eq_ok hstep
          cases hstep
          simpa [encodingOf] using
            handleAck_inStep h (List.mem_of_getElem? hack) hhandled

end Turn

/-- The encoders that a run comes through, from the base encoder on. -/
def encodersOf (parties : Parties η δ ε) (now : Nat)
    (events : List (JointEvent η)) : List η :=
  parties.baseEncoder ::
    (encodings parties (start parties now) events).map Encoding.after

theorem run_inStep {lock : LockStep parties} {path : List η}
    {joint last : Joint η δ} {events : List (JointEvent η)}
    (h : InStep lock path joint)
    (hcalm : Fallible.AllSteps (step parties) (Calm lock) joint events)
    (hrun : run parties joint events = .ok last) :
    InStep lock (path ++ (encodings parties joint events).map Encoding.after)
      last := by
  rw [encodings, Fallible.map_runLog]
  exact hcalm.logged (InStep lock)
    (fun _ _ _ _ h hcalm hstep => step_inStep h hcalm hstep) h hrun

end Joint

end Salsify.Session
