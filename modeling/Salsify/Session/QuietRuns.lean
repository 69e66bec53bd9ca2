import Salsify.Session.Progress

namespace Salsify.Session

open Salsify.Net
open Fallible (AllSteps ok_bind runLog_append)

variable {η δ ε : Type}

/-! Runs in which no acknowledgement comes back and a frame fits into one
packet. -/

namespace Joint

variable {parties : Parties η δ ε} {lock : LockStep parties} {path : List η}
  {joint next last : Joint η δ}

structure Stretch (lock : LockStep parties) (joint last : Joint η δ)
    (events : List (JointEvent η)) (written : List (Encoding η))
    (delivered : List (Nat × Nat)) : Prop where
  run : run parties joint events = .ok last
  calm : AllSteps (step parties) (Calm lock) joint events
  encodings : encodings parties joint events = written
  deliveries : deliveries parties joint events = delivered

theorem Stretch.append {front rest : List (JointEvent η)}
    {written others : List (Encoding η)} {delivered more : List (Nat × Nat)}
    (h : Stretch lock joint next front written delivered)
    (hrest : Stretch lock next last rest others more) :
    Stretch lock joint last (front ++ rest) (written ++ others)
      (delivered ++ more) where
  run := by
    have hrun : front.foldlM (step parties) joint = .ok next := h.run
    rw [Joint.run, List.foldlM_append, hrun, ok_bind]
    exact hrest.run
  calm := h.calm.append h.run hrest.calm
  encodings := by
    rw [Joint.encodings, runLog_append rest h.run]
    exact congrArg₂ _ h.encodings hrest.encodings
  deliveries := by
    rw [Joint.deliveries, runLog_append rest h.run]
    exact congrArg₂ _ h.deliveries hrest.deliveries

theorem stretch_of_step {event : JointEvent η} (hcalm : Calm lock joint event)
    (hstep : step parties joint event = .ok next) :
    Stretch lock joint next [event] (joint.encodingOf event)
      (joint.deliveryOf event) where
  run := by
    rw [Joint.run, List.foldlM_cons, hstep, ok_bind]
    rfl
  calm := ⟨hcalm, fun _ _ => trivial⟩
  encodings := by
    rw [Joint.encodings, Fallible.runLog_cons _ hstep, Fallible.runLog_nil,
      List.append_nil]
  deliveries := by
    rw [Joint.deliveries, Fallible.runLog_cons _ hstep, Fallible.runLog_nil,
      List.append_nil]

theorem Stretch.inStep {events : List (JointEvent η)}
    {written : List (Encoding η)} {delivered : List (Nat × Nat)}
    (h : Stretch lock joint last events written delivered)
    (hjoint : InStep lock path joint) :
    InStep lock (path ++ written.map Encoding.after) last := by
  rw [← h.encodings]
  exact run_inStep hjoint h.calm h.run

/-- Every frame is sent in one packet, and every packet delivered. -/
def OneByOne (sent : List Dispatch) (delivered : List (Nat × Nat)) : Prop :=
  ∀ number dispatch, sent[number]? = some dispatch →
    ∃ whole : SentFrame, dispatch.frame = whole.fragmented ∧
      whole.count = 1 ∧ (number, 0) ∈ delivered

theorem OneByOne.allDelivered {delivered : List (Nat × Nat)}
    (h : OneByOne joint.sent delivered) : joint.AllDelivered delivered := by
  intro number dispatch hdispatch index hindex
  obtain ⟨whole, hframe, hcount, hmem⟩ := h number dispatch hdispatch
  have hlength : dispatch.frame.fragments.length = 1 := by
    rw [hframe, ← hcount]
    simp [SentFrame.fragmented]
  obtain rfl : index = 0 := Nat.lt_one_iff.mp (hlength ▸ hindex)
  exact hmem

theorem oneByOne_single {whole : SentFrame} {conservative : Bool}
    {delivered : List (Nat × Nat)} (hcount : whole.count = 1)
    (hmem : (0, 0) ∈ delivered) :
    OneByOne [⟨whole.fragmented, conservative⟩] delivered := by
  intro number dispatch hdispatch
  obtain ⟨hlt, rfl⟩ := List.getElem?_eq_some_iff.mp hdispatch
  obtain rfl := Nat.lt_one_iff.mp hlt
  exact ⟨whole, rfl, hcount, hmem⟩

theorem Stretch.caught_up {events : List (JointEvent η)}
    {written : List (Encoding η)} {delivered : List (Nat × Nat)} {now : Nat}
    (h : Stretch lock (start parties now) last events written delivered)
    (hstart : InStep lock path (start parties now))
    (hall : OneByOne last.sent delivered) :
    ∃ receiver, last.receiver = some receiver ∧
      receiver.nextFrameNo = last.sent.length := by
  have hin := h.inStep hstart
  obtain ⟨receiver, encoder, hreceiver, hat, -⟩ := hin.receiver
  have hwaits := run_waits hstart h.calm (fun _ hreceiver => by
    cases hreceiver
    exact Receiver.waits_start _) h.run receiver hreceiver
  rw [h.deliveries] at hwaits
  exact ⟨receiver, hreceiver, hin.caught_up hreceiver
    (List.getElem?_eq_some_iff.mp hat).1 hwaits hall.allDelivered⟩

structure Quiet (joint : Joint η δ) : Prop where
  operationMode : joint.sender.operationMode = .conventional
  jobs : joint.sender.encodeJobs = none
  unacked : joint.sender.receiverLastAckedState = none
  conservativeUntil : joint.sender.conservativeUntil = 0
  avgDelay : joint.sender.avgDelay = 0xffffffff
  counted : joint.sender.cumulativeFpf.length = joint.sent.length

theorem quiet_start (h : parties.operationMode = .conventional) :
    Quiet (start parties 0 : Joint η δ) :=
  ⟨h, rfl, rfl, rfl, rfl, rfl⟩

theorem Quiet.encodeStart (hquiet : Quiet joint) (h : InStep lock path joint)
    {encoder : η} (hlast : path.getLast? = some encoder) :
    joint.sender.encodeStart 0 0 =
      .ok { joint.sender with encodeJobs := some ⟨encoder, false⟩ } := by
  have hsource : joint.sender.receiverAssumedState.getD
      joint.sender.initialState = parties.minihash encoder :=
    Option.some.inj (h.agreed.ledger.assumed_last.symm.trans
      (h.getLast? hlast))
  have hclean : joint.sender.cleanUp = .ok joint.sender := by
    rw [Sender.cleanUp, hquiet.unacked]
  have hselect : joint.sender.select 0 0 =
      .ok ⟨parties.minihash encoder, false,
        joint.sender.conservativeUntil⟩ := by
    rw [Sender.select, hquiet.conservativeUntil, if_neg (Nat.lt_irrefl 0),
      hquiet.unacked]
    cases hassumed : joint.sender.receiverAssumedState with
    | none =>
        rw [hassumed] at hsource
        rw [← hsource]
        rfl
    | some assumed =>
        rw [hassumed] at hsource
        rw [← hsource]
        rfl
  simp only [Sender.encodeStart, hquiet.jobs, hclean, ok_bind, hselect,
    h.last encoder hlast]
  rfl

/-- The one job of the conventional mode gives this frame. -/
def onlyOutput (encoder : η) (frame : List UInt8) : EncodeOutputs η where
  outputs := [⟨encoder, frame, "frame"⟩]
  timeSinceLast := 0
  framePushTimestamp := 0
  rttAverage := 0
  throughput := 0
  clock := fun _ => 0

theorem pickOutput_only {sender : Sender η}
    (hmode : sender.operationMode = .conventional)
    (hdelay : sender.avgDelay = 0xffffffff) (encoder : η) (frame : List UInt8) :
    sender.pickOutput (onlyOutput encoder frame).outputs =
      .ok (some ⟨encoder, frame, "frame"⟩) := by
  have hsize : sender.frameSize = .ok (2 ^ 64 - 1) :=
    if_neg (not_not.mpr hdelay)
  rw [Sender.pickOutput, hsize, ok_bind]
  exact if_pos hmode

theorem encodeEnd_sends {minihash : η → UInt32} {sender next : Sender η}
    {job : EncodeJob η} {ended : EncodeOutputs η} {output : EncodeOutput η}
    {frame : FragmentedFrame} (hjobs : sender.encodeJobs = some job)
    (hpick : sender.pickOutput ended.outputs = .ok (some output))
    (hsend : Sender.sendOutput minihash sender job ended output =
      .ok (next, frame)) :
    Sender.encodeEnd minihash sender ended = .ok (next, some frame) := by
  have hne : ended.outputs ≠ [] :=
    List.ne_nil_of_mem (Sender.pickOutput_mem hpick)
  simp only [Sender.encodeEnd, hjobs, if_neg hne, hpick, ok_bind, hsend]
  rfl

def sendingTurn (encoder : η) (frame : List UInt8) : List (JointEvent η) :=
  [.encodeStart 0 0, .encodeEnd (onlyOutput encoder frame)]

theorem fragmentCount_one {frame : List UInt8} (hne : frame ≠ [])
    (hshort : frame.length ≤ Packet.MAXIMUM_PAYLOAD) :
    FragmentedFrame.fragmentCount frame = 1 := by
  have hpos := List.length_pos_iff.mpr hne
  have hpayload : Packet.MAXIMUM_PAYLOAD = 1400 := rfl
  rw [FragmentedFrame.fragmentCount, hpayload]
  omega

theorem fragmentsUpTo_ok {cumulativeFpf : List Nat} {frameNo : UInt32}
    (h : frameNo.toNat ≤ cumulativeFpf.length) (fragments : Nat) :
    ∃ total, Sender.fragmentsUpTo cumulativeFpf frameNo fragments =
      .ok total := by
  unfold Sender.fragmentsUpTo
  split
  · next hpos =>
      rw [UInt32.lt_iff_toNat_lt] at hpos
      have hone : (1 : UInt32) ≤ frameNo := UInt32.le_iff_toNat_le.mpr hpos
      have hlast : (frameNo - 1).toNat = frameNo.toNat - 1 :=
        UInt32.toNat_sub_of_le _ _ hone
      have hlt : (frameNo - 1).toNat < cumulativeFpf.length := by
        change 0 < frameNo.toNat at hpos
        omega
      rw [List.getElem?_eq_getElem hlt]
      exact ⟨_, rfl⟩
  · exact ⟨_, rfl⟩

structure OnePacket (lock : LockStep parties) (encoding : Encoding η) :
    Prop where
  nonempty : encoding.frame ≠ []
  short : encoding.frame.length ≤ Packet.MAXIMUM_PAYLOAD
  emits : lock.Emits encoding.before encoding.frame encoding.after

structure Sends (lock : LockStep parties) (joint next : Joint η δ)
    (encoding : Encoding η) (whole : SentFrame) : Prop where
  stretch : Stretch lock joint next
    (sendingTurn encoding.after encoding.frame) [encoding] []
  quiet : Quiet next
  sent : next.sent = joint.sent ++ [⟨whole.fragmented, false⟩]
  receiver : next.receiver = joint.receiver
  wholeFrame : whole.wholeFrame = encoding.frame
  count : whole.count = 1

theorem Quiet.sends (hquiet : Quiet joint) (h : InStep lock path joint)
    {encoding : Encoding η} (hone : OnePacket lock encoding)
    (hlast : path.getLast? = some encoding.before)
    (hfresh : parties.minihash encoding.after ∉ path.map parties.minihash)
    (hfits : joint.sent.length + 1 < 2 ^ 32) :
    ∃ next whole, Sends lock joint next encoding whole := by
  obtain ⟨before, frame, after⟩ := encoding
  obtain ⟨hne, hshort, hemits⟩ := hone
  have hcount := fragmentCount_one hne hshort
  let job : EncodeJob η := ⟨before, false⟩
  let sender : Sender η := { joint.sender with encodeJobs := some job }
  let picked : EncodeOutput η := ⟨after, frame, "frame"⟩
  let whole : SentFrame := ⟨Sender.frameHeader parties.minihash sender job
    (onlyOutput after frame) picked, frame, hne, hcount.trans_lt (by decide)⟩
  obtain ⟨total, htotal⟩ := fragmentsUpTo_ok
    (h.frameNo.trans hquiet.counted.symm).le
    whole.fragmented.fragmentsInThisFrame.toNat
  let ended : Sender η := { sender with
    encodeJobs := none
    cumulativeFpf := sender.cumulativeFpf ++ [total]
    receiverAssumedState := some (parties.minihash after)
    encoders := sender.encoders.insert (parties.minihash after) after
    encoderStates := sender.encoderStates ++ [parties.minihash after]
    skippedCount := 0
    frameNo := sender.frameNo + 1 }
  have hpick : sender.pickOutput (onlyOutput after frame).outputs =
      .ok (some picked) :=
    pickOutput_only hquiet.operationMode hquiet.avgDelay after frame
  have hframe : FragmentedFrame.outgoing whole.header whole.wholeFrame =
      .ok whole.fragmented := FragmentedFrame.outgoing_spec hne whole.fits
  have hsend : Sender.sendOutput parties.minihash sender job
      (onlyOutput after frame) picked = .ok (ended, whole.fragmented) := by
    change FragmentedFrame.outgoing whole.header whole.wholeFrame >>= _ = _
    rw [hframe, ok_bind]
    change Sender.fragmentsUpTo joint.sender.cumulativeFpf
      joint.sender.frameNo _ >>= _ = _
    rw [htotal]
    rfl
  have hend : Sender.encodeEnd parties.minihash sender
      (onlyOutput after frame) = .ok (ended, some whole.fragmented) :=
    encodeEnd_sends rfl hpick hsend
  have hfirst : step parties joint (.encodeStart 0 0) =
      .ok { joint with sender := sender } := by
    rw [step, hquiet.encodeStart h hlast]
    rfl
  have hsecond : step parties { joint with sender := sender }
      (.encodeEnd (onlyOutput after frame)) = .ok { joint with
        sender := ended
        sent := joint.sent ++ [⟨whole.fragmented, false⟩] } := by
    rw [step, encodeEnd, hend]
    rfl
  have hcalm : Calm lock { joint with sender := sender }
      (.encodeEnd (onlyOutput after frame)) := by
    rintro other found ⟨⟩ hfound
    obtain rfl := Option.some.inj (Except.ok.inj (hpick.symm.trans hfound))
    exact ⟨rfl, hemits, h.targets ▸ hfresh, hfits⟩
  have hcalmFirst : Calm lock joint (.encodeStart 0 0) := trivial
  have hstretch := (stretch_of_step hcalmFirst hfirst).append
    (stretch_of_step hcalm hsecond)
  rw [encodingOf_picked rfl hpick] at hstretch
  refine ⟨_, whole, hstretch, ⟨hquiet.operationMode, rfl, hquiet.unacked,
    hquiet.conservativeUntil, hquiet.avgDelay, ?_⟩, rfl, rfl, rfl, hcount⟩
  change (joint.sender.cumulativeFpf ++ [total]).length = _
  rw [List.length_append, List.length_append, hquiet.counted]
  rfl

theorem arrives (lock : LockStep parties) (joint : Joint η δ)
    (number index : Nat) (hcalm : ∀ receiver,
    joint.receiver = some receiver → number ≤ receiver.nextFrameNo) :
    ∃ next, step parties joint (.packet number index 0 0 0 0) = .ok next ∧
      Stretch lock joint next [.packet number index 0 0 0 0] []
        (joint.deliveryOf (.packet number index 0 0 0 0)) ∧
      next.sent = joint.sent ∧ next.sender = joint.sender := by
  have hturn : Calm lock joint (.packet number index 0 0 0 0) := hcalm
  obtain ⟨next, hstep, hsent⟩ : ∃ next,
      step parties joint (.packet number index 0 0 0 0) = .ok next ∧
        next.sent = joint.sent ∧ next.sender = joint.sender := by
    rw [step]
    split
    · exact ⟨_, rfl, receive_sent joint _ _⟩
    · exact ⟨_, rfl, rfl, rfl⟩
  exact ⟨next, hstep, stretch_of_step hturn hstep, hsent⟩

theorem Quiet.congr (h : Quiet joint) (hsender : next.sender = joint.sender)
    (hsent : next.sent = joint.sent) : Quiet next := by
  obtain ⟨hmode, hjobs, hunacked, hlater, hdelay, hcounted⟩ := h
  rw [← hsender] at hmode hjobs hunacked hlater hdelay hcounted
  rw [← hsent] at hcounted
  exact ⟨hmode, hjobs, hunacked, hlater, hdelay, hcounted⟩

theorem packetAt_sent {whole : SentFrame} {conservative : Bool}
    {number index : Nat}
    (hsent : joint.sent[number]? = some ⟨whole.fragmented, conservative⟩)
    (hindex : index < whole.count) (timestamp : UInt32) :
    joint.packetAt number index timestamp =
      some (whole.packet index timestamp) := by
  have hfragment : whole.fragmented.fragments[index]? = some
      (FragmentedFrame.fragment whole.header whole.wholeFrame index) := by
    simp [SentFrame.fragmented, hindex]
  obtain ⟨-, htransmit⟩ := whole.transmit_fragmented timestamp hfragment
  simp only [packetAt, hsent, Option.bind_eq_bind, Option.bind_some, hfragment,
    htransmit]
  rfl

theorem packet_cases {number index : Nat}
    {timestamp avgDelay ackDelay frameOneWayDelay : UInt32}
    {receiver after : Receiver δ}
    (h : step parties joint (.packet number index timestamp avgDelay ackDelay
      frameOneWayDelay) = .ok next)
    (hreceiver : joint.receiver = some receiver)
    (hafter : next.receiver = some after) :
    after = receiver ∨ ∃ packet ack,
      joint.packetAt number index timestamp = some packet ∧
      Receiver.handlePacket parties.codec receiver
        ⟨packet, avgDelay, ackDelay, frameOneWayDelay⟩ = .ok (after, ack) := by
  cases hpacket : joint.packetAt number index timestamp with
  | none =>
      simp only [step, hreceiver, hpacket] at h
      cases h
      exact .inl (Option.some.inj (hafter.symm.trans hreceiver))
  | some packet =>
      simp only [step, hreceiver, hpacket] at h
      cases h
      rcases @receive_cases _ _ _ parties joint receiver
        ⟨packet, avgDelay, ackDelay, frameOneWayDelay⟩ with
        hfails | ⟨other, ack, hhandled, hother⟩
      · rw [hfails] at hafter
        cases hafter
      · rw [hother] at hafter
        obtain rfl := Option.some.inj hafter
        exact .inr ⟨packet, ack, rfl, hhandled⟩

theorem InStep.repeated (h : InStep lock path joint) {number index : Nat}
    {timestamp avgDelay ackDelay frameOneWayDelay : UInt32}
    {receiver after : Receiver δ}
    (hstep : step parties joint (.packet number index timestamp avgDelay
      ackDelay frameOneWayDelay) = .ok next)
    (hreceiver : joint.receiver = some receiver)
    (hafter : next.receiver = some after)
    (hold : number < receiver.nextFrameNo) : after = receiver := by
  rcases packet_cases hstep hreceiver hafter with hsame |
    ⟨packet, ack, hpacket, hhandled⟩
  · exact hsame
  · have hframeNo := (h.packet hpacket).1
    rcases Receiver.handlePacket_cases hhandled with ⟨-, hsame, -⟩ | ⟨hnew, -⟩
    · exact hsame
    · exact absurd (hframeNo ▸ hnew) (Nat.not_le_of_lt hold)

theorem InStep.nothing_later (h : InStep lock path joint)
    {receiver : Receiver δ} (hreceiver : joint.receiver = some receiver)
    {number : Nat} (hlater : joint.sent.length ≤ number) :
    receiver.fragmentedFrames number = none := by
  rw [Option.eq_none_iff_forall_ne_some]
  intro fragment hsome
  obtain ⟨dispatch, whole, _, _, hdispatch, hframe, hkey, -⟩ :=
    (h.recovering.receiver receiver hreceiver).underway number fragment hsome
  obtain ⟨place, hplace⟩ := List.mem_iff_getElem?.mp hdispatch
  obtain ⟨encoding, hleads⟩ := h.sent place dispatch hplace
  have hlt := (List.getElem?_eq_some_iff.mp hplace).1
  have hframeNo := hleads.frameNo
  rw [hframe] at hframeNo
  change whole.header.frameNo.toNat = place at hframeNo
  omega

/-- The packet of the second frame completes it, and the decoder may start from
the one that plays only. -/
structure Completes (codec : Codec δ ε) (receiver : Receiver δ)
    (whole : SentFrame) (fragment : FragmentedFrame) : Prop where
  completedFrame : receiver.completedFrame codec (whole.packet 0 0) =
    some fragment
  targetState : fragment.targetState = whole.header.targetState
  startsFrom : ∀ source player,
    Receiver.StartsFrom codec receiver (whole.packet 0 0) source player →
      player = receiver.player ∨ receiver.decoders source = some player

theorem completes_one {codec : Codec δ ε} {receiver : Receiver δ}
    {whole : SentFrame} (hcount : whole.count = 1)
    (hconnection : whole.header.connectionId = Receiver.connectionId)
    (hframeNo : (whole.packet 0 0).frameNo.toNat = receiver.nextFrameNo)
    (hfresh : receiver.fragmentedFrames receiver.nextFrameNo = none) :
    ∃ fragment, Completes codec receiver whole fragment := by
  have hindex : 0 < whole.count := hcount.symm ▸ Nat.zero_lt_one
  have hincoming := whole.incoming_packet hindex 0
  rw [hconnection] at hincoming
  let got : Nat → Bool := Function.update (fun _ => false) 0 true
  let made := whole.arrived (fun _ => 0) got
  have hcomplete : made.complete = true := by
    rw [whole.complete_arrived, hcount]
    intro index hindex
    obtain rfl := Nat.lt_one_iff.mp hindex
    rfl
  have htaken : Receiver.takeIn codec receiver (whole.packet 0 0) =
      .ok { receiver with fragmentedFrames :=
        receiver.fragmentedFrames.insert receiver.nextFrameNo made } := by
    rw [Receiver.takeIn, Receiver.catchUp, hframeNo,
      if_neg (Nat.lt_irrefl _), ok_bind, Receiver.addToFrame, hframeNo, hfresh]
    simp only [hincoming, Receiver.lift, ok_bind]
    rfl
  refine ⟨made, ?_, rfl, ?_⟩
  · rw [Receiver.completedFrame, hframeNo, if_neg (Nat.lt_irrefl _), htaken]
    change Option.filter FragmentedFrame.complete
      ((receiver.fragmentedFrames.insert receiver.nextFrameNo made)
        receiver.nextFrameNo) = _
    simp [PartialMap.insert, hfresh, hcomplete]
  · rintro source player ⟨taken, hsame, hplayer⟩
    obtain rfl := Except.ok.inj (htaken.symm.trans hsame)
    exact hplayer

/-! Two frames of one packet each, of which the first is delivered twice. -/

section Repeated

variable {η δ ε : Type} {parties : Parties η δ ε} {lock : LockStep parties}
  {first second : Encoding η}

def repeatedFirst (first second : Encoding η) : List (JointEvent η) :=
  sendingTurn first.after first.frame ++ [.packet 0 0 0 0 0 0] ++
    [.packet 0 0 0 0 0 0] ++ sendingTurn second.after second.frame

structure Awaits (lock : LockStep parties) (first second : Encoding η)
    (joint : Joint η δ) (receiver : Receiver δ) (whole : SentFrame) : Prop where
  stretch : Stretch lock (start parties 0) joint (repeatedFirst first second)
    [first, second] [(0, 0), (0, 0)]
  inStep : InStep lock [first.before, first.after, second.after] joint
  sent : ∃ earlier : SentFrame, earlier.count = 1 ∧ joint.sent =
    [⟨earlier.fragmented, false⟩, ⟨whole.fragmented, false⟩]
  received : joint.receiver = some receiver
  nextFrameNo : receiver.nextFrameNo = 1
  fresh : receiver.fragmentedFrames 1 = none
  stored : ∀ state player, receiver.decoders state = some player →
    state = parties.minihash first.before ∨ player = receiver.player
  wholeFrame : whole.wholeFrame = second.frame
  count : whole.count = 1

/-- A receiver that has had one packet stores the decoder that it has started
with and its current one. -/
theorem stored_of_packet {joint next : Joint η δ} {number index : Nat}
    {timestamp avgDelay ackDelay frameOneWayDelay : UInt32}
    {receiver : Receiver δ}
    (hstep : step parties joint (.packet number index timestamp avgDelay
      ackDelay frameOneWayDelay) = .ok next)
    (hstarted : joint.receiver =
      some (Receiver.start parties.codec parties.player))
    (hreceiver : next.receiver = some receiver) (state : UInt32) (player : δ)
    (hplayer : receiver.decoders state = some player) :
    state = parties.minihash parties.baseEncoder ∨
      player = receiver.player := by
  have hold : ∀ player, (Receiver.start parties.codec
      parties.player).decoders state = some player →
        state = parties.minihash parties.baseEncoder := by
    intro player hold
    rcases PartialMap.insert_eq_some hold with ⟨rfl, -⟩ | hempty
    · exact parties.initial
    · cases hempty
  rcases packet_cases hstep hstarted hreceiver with rfl |
    ⟨packet, ack, -, hhandled⟩
  · exact .inl (hold player hplayer)
  · exact (Receiver.handlePacket_decoders (Receiver.inOrder_start _)
      hhandled hplayer).imp_left (hold player)

theorem exists_awaits (hmode : parties.operationMode = .conventional)
    (hconnection : parties.connectionId = Receiver.connectionId)
    (hmirrors : lock.Mirrors parties.player parties.baseEncoder)
    (hbase : first.before = parties.baseEncoder)
    (hfollows : second.before = first.after)
    (hfirst : OnePacket lock first) (hsecond : OnePacket lock second)
    (hdistinct : ([first.before, first.after, second.after].map
      parties.minihash).Nodup) :
    ∃ joint receiver whole, Awaits lock first second joint receiver whole := by
  have hstart := @inStep_start _ _ _ parties lock hconnection hmirrors 0
  have hdistinct := List.nodup_append.mp (show ([first.before, first.after].map
    parties.minihash ++ [parties.minihash second.after]).Nodup from hdistinct)
  rw [← hbase] at hstart
  -- the first frame is sent, and its packet comes
  obtain ⟨one, earlier, hone⟩ := (quiet_start hmode).sends hstart hfirst rfl
    (fun hmem => (List.nodup_cons.mp hdistinct.1).1
      (List.mem_singleton.mp hmem ▸ List.mem_cons_self))
    (Nat.one_lt_two_pow (by decide))
  have hsent : one.sent[0]? = some ⟨earlier.fragmented, false⟩ := by
    rw [hone.sent]
    rfl
  have hpacket : one.deliveryOf (.packet 0 0 0 0 0 0) = [(0, 0)] := by
    have hzero : 0 < earlier.count := hone.count.symm ▸ Nat.zero_lt_one
    rw [deliveryOf, packetAt_sent hsent hzero]
    rfl
  obtain ⟨two, hstepTwo, htwo, hsentTwo, hsenderTwo⟩ :=
    arrives lock one 0 0 fun _ _ => Nat.zero_le _
  rw [hpacket] at htwo
  have hstretchTwo := hone.stretch.append htwo
  have hinTwo := hstretchTwo.inStep hstart
  obtain ⟨receiver, hreceiver, hnext⟩ := hstretchTwo.caught_up hstart (by
    rw [hsentTwo, hone.sent]
    exact oneByOne_single hone.count (List.mem_singleton.mpr rfl))
  rw [hsentTwo, hone.sent] at hnext
  have hstored := stored_of_packet hstepTwo hone.receiver hreceiver
  rw [← hbase] at hstored
  -- it comes again
  obtain ⟨three, hstepThree, hthree, hsentThree, hsenderThree⟩ :=
    arrives lock two 0 0 fun _ _ => Nat.zero_le _
  have hpacketTwo : two.deliveryOf (.packet 0 0 0 0 0 0) = [(0, 0)] := by
    rw [← hpacket, deliveryOf, deliveryOf, packetAt, packetAt, hsentTwo]
  rw [hpacketTwo] at hthree
  have hstretchThree := hstretchTwo.append hthree
  have hinThree := hstretchThree.inStep hstart
  obtain ⟨again, -, hagain, -⟩ := hinThree.receiver
  obtain rfl := hinTwo.repeated hstepThree hreceiver hagain
    (hnext ▸ Nat.zero_lt_one)
  have hcount : three.sent.length ≤ 1 := by
    rw [hsentThree, hsentTwo, hone.sent]
    exact Nat.le_refl 1
  have hfreshThree := hinThree.nothing_later hagain hcount
  -- the second frame is sent
  have hquiet := hone.quiet.congr (hsenderThree.trans hsenderTwo)
    (hsentThree.trans hsentTwo)
  obtain ⟨joint, whole, hfour⟩ := hquiet.sends hinThree hsecond
    (congrArg some hfollows.symm)
    (fun hmem => hdistinct.2.2 _ hmem _ List.mem_cons_self rfl) (by
      rw [hsentThree, hsentTwo, hone.sent]
      exact Nat.lt_of_lt_of_le (by decide : 1 + 1 < 2 ^ 2)
        (Nat.pow_le_pow_right (by decide) (by decide)))
  have hstretch := hstretchThree.append hfour.stretch
  refine ⟨joint, again, whole, hstretch, hstretch.inStep hstart,
    ⟨earlier, hone.count, ?_⟩, hfour.receiver.trans hagain, hnext, hfreshThree,
    hstored, hfour.wholeFrame, hfour.count⟩
  rw [hfour.sent, hsentThree, hsentTwo, hone.sent]
  rfl

end Repeated

section Awaits

variable {η δ ε : Type} {parties : Parties η δ ε} {lock : LockStep parties}
  {first second : Encoding η} {joint : Joint η δ} {receiver : Receiver δ}
  {whole : SentFrame}

theorem Awaits.leads (h : Awaits lock first second joint receiver whole) :
    ∃ frame, Leads lock [first.before, first.after, second.after] 1
      ⟨whole.fragmented, false⟩ ⟨first.after, frame, second.after⟩ := by
  obtain ⟨earlier, -, hsent⟩ := h.sent
  have hat : joint.sent[1]? = some ⟨whole.fragmented, false⟩ := by
    rw [hsent]
    rfl
  obtain ⟨⟨before, frame, after⟩, hleads⟩ := h.inStep.sent 1 _ hat
  obtain rfl : first.after = before := Option.some.inj hleads.before
  obtain rfl : second.after = after := Option.some.inj hleads.after
  exact ⟨frame, hleads⟩

theorem Awaits.mirrors (h : Awaits lock first second joint receiver whole) :
    lock.Mirrors receiver.player first.after ∧
      receiver.decoders.Mem (parties.minihash first.after) := by
  obtain ⟨other, encoder, hother, hat, hmirrors, hmem⟩ := h.inStep.receiver
  obtain rfl := Option.some.inj (h.received.symm.trans hother)
  rw [h.nextFrameNo] at hat
  obtain rfl : first.after = encoder := Option.some.inj hat
  have hlogged := h.inStep.recovering.receiver receiver h.received
  rw [hlogged.current, lock.minihash _ _ hmirrors] at hmem
  exact ⟨hmirrors, hmem⟩

theorem Awaits.completes
    (h : Awaits lock first second joint receiver whole) :
    joint.packetAt 1 0 0 = some (whole.packet 0 0) ∧
      ∃ fragment, Completes parties.codec receiver whole fragment := by
  obtain ⟨earlier, -, hsent⟩ := h.sent
  obtain ⟨frame, hleads⟩ := h.leads
  have hat : joint.sent[1]? = some ⟨whole.fragmented, false⟩ := by
    rw [hsent]
    rfl
  have hindex : 0 < whole.count := h.count.symm ▸ Nat.zero_lt_one
  refine ⟨packetAt_sent hat hindex 0, completes_one h.count
    hleads.connectionId ?_ ?_⟩
  · rw [h.nextFrameNo]
    exact hleads.frameNo
  · rw [h.nextFrameNo]
    exact h.fresh

theorem Awaits.startsFrom (h : Awaits lock first second joint receiver whole)
    {fragment : FragmentedFrame}
    (hfragment : Completes parties.codec receiver whole fragment) {player : δ}
    (hstarts : Receiver.StartsFrom parties.codec receiver (whole.packet 0 0)
      whole.header.sourceState player) :
    player = receiver.player := by
  obtain ⟨frame, hleads⟩ := h.leads
  have hsource : whole.header.sourceState = parties.minihash first.after :=
    hleads.carries.source
  rcases hfragment.startsFrom _ _ hstarts with hplayer | hstored
  · exact hplayer
  · rcases h.stored _ _ hstored with hfirst | hplayer
    · have hdistinct := (List.nodup_cons.mp h.inStep.distinct).1
      exact absurd (hfirst.symm.trans hsource)
        (fun hsame => hdistinct (hsame ▸ List.mem_cons_self))
    · exact hplayer

end Awaits

end Joint

end Salsify.Session
