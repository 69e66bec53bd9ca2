import Salsify.Codec.StateHash
import Salsify.Encoder.EncoderRuns
import Salsify.Session.QuietRuns

namespace Salsify.Session

open Salsify.Net
open Salsify.Codec
open Salsify.Encoder

/-! The session over the encoder and the decoder with their samples. -/

/-- What the parties start from.  `hash` is the `minihash` of both, of which the
mixing is not under `src`, and every frame is decoded into a raster that held
`recycled`. -/
structure CodecSetting (width height : Nat) where
  operationMode : OperationMode
  connectionId : UInt16
  hash : DecoderState width height → RasterReferences width height → UInt32
  recycled : VP8Raster width height
  baseEncoder : SampleEncoder width height
  player : SampleDecoder width height
  mirrors : Mirrors player baseEncoder

namespace CodecSetting

variable {width height : Nat} (setting : CodecSetting width height)

def parties : Parties (SampleEncoder width height)
    (SampleDecoder width height) Failure where
  operationMode := setting.operationMode
  connectionId := setting.connectionId
  minihash encoder := setting.hash encoder.decoderState encoder.references
  codec := {
    minihash := fun player => setting.hash player.state player.references
    decode := fun player chunk =>
      (player.parseAndDecodeFrame setting.recycled chunk).map
        fun output => (output.2, output.1.isSome) }
  baseEncoder := setting.baseEncoder
  player := setting.player
  initial := by
    dsimp only
    rw [setting.mirrors.state, setting.mirrors.references]

end CodecSetting

variable {width height : Nat}

/-- A chunk that `write_frame` gives for a frame that can be sent. -/
structure Emitted (encoding : Encoding (SampleEncoder width height)) :
    Prop where
  short : encoding.frame.length < 2 ^ 19
  written : ∃ recycled coded, CodedFrame.Sendable width height coded ∧
    encoding.before.writeCoded recycled coded =
      .ok (encoding.frame, encoding.after)

theorem Emitted.unsegmented {encoding : Encoding (SampleEncoder width height)}
    (h : Emitted encoding)
    (hbefore : encoding.before.decoderState.segmentation = none) :
    encoding.after.decoderState.segmentation = none := by
  obtain ⟨recycled, coded, hsendable, hwritten⟩ := h.written
  exact SampleEncoder.writeCoded_unsegmented hsendable (fun _ => hbefore)
    hwritten

def CodecSetting.lockStep (setting : CodecSetting width height) :
    LockStep setting.parties where
  Mirrors := Mirrors
  Emits before frame after := Emitted ⟨before, frame, after⟩
  minihash player encoder h := by
    change setting.hash _ _ = setting.hash _ _
    rw [h.state, h.references]
  decode player before frame after hmirrors hemitted := by
    obtain ⟨hshort, recycled, coded, hsendable, hwritten⟩ := hemitted
    obtain ⟨output, next, houtput, hnext, -⟩ :=
      SampleEncoder.writeCoded_mirrored hsendable hshort hwritten
        (fun _ => hmirrors) setting.recycled
    refine ⟨next, (if output.1 then some output.2 else none).isSome, ?_, hnext⟩
    change (player.parseAndDecodeFrame setting.recycled frame).map _ = _
    rw [SampleDecoder.parseAndDecodeFrame, houtput]
    rfl

namespace Joint

def graySetting : CodecSetting 16 16 where
  operationMode := .conventional
  connectionId := Receiver.connectionId
  hash state _ := UInt32.ofNat state.hash.length +
    (state.probabilityTables.yModeProbs 0).toUInt32
  recycled := SampleEncoder.blankRasters.decoded
  baseEncoder := { SampleEncoder.blankEncoder with
    decoderState := { filterAdjustments := some {} } }
  player := {
    state := { filterAdjustments := some {} }
    references := SampleEncoder.blankEncoder.references
    errorConcealment := true }
  mirrors := ⟨rfl, rfl, rfl⟩

structure WritesGray (first second : Encoding (SampleEncoder 16 16)) :
    Prop where
  base : first.before = graySetting.baseEncoder
  follows : second.before = first.after
  key : first.before.writeCoded SampleEncoder.blankRasters
    (.key grayKeyFrame) = .ok (first.frame, first.after)
  inter : second.before.writeCoded SampleEncoder.blankRasters
    (.inter grayInterFrame) = .ok (second.frame, second.after)
  onePacketKey : OnePacket graySetting.lockStep first
  onePacketInter : OnePacket graySetting.lockStep second
  distinct : ([first.before, first.after, second.after].map
    graySetting.parties.minihash).Nodup

theorem exists_writesGray : ∃ first second, WritesGray first second := by
  obtain ⟨hwritten, -⟩ := SampleEncoder.writeFrames_shown
    graySetting.baseEncoder SampleEncoder.blankRasters grayKeyFrame
    [(SampleEncoder.blankRasters, .inter grayInterFrame)] (by
      intro sent hsent
      rcases List.mem_cons.mp hsent with rfl | hsent
      · exact SampleEncoder.sendable_grayKeyFrame
      · rw [List.mem_singleton.mp hsent]
        exact SampleEncoder.sendable_grayInterFrame)
  obtain ⟨written, h⟩ := hwritten.mpr ⟨by decide, by decide, by decide⟩
  obtain ⟨bytes, next, rest, hkey, hrest, rfl⟩ :=
    SampleEncoder.writeFrames_cons_eq_ok h
  obtain ⟨others, last, remaining, hinter, -, rfl⟩ :=
    SampleEncoder.writeFrames_cons_eq_ok hrest
  obtain ⟨hpos, hlength⟩ := SampleEncoder.writeFrame_gray_length hkey
  obtain ⟨hposNext, hlengthNext⟩ :=
    SampleEncoder.writeFrame_gray_next hkey hinter
  obtain ⟨raster, hwrote⟩ := SampleEncoder.wrote_of_writeFrame hkey
  obtain ⟨rasterNext, hwroteNext⟩ := SampleEncoder.wrote_of_writeFrame hinter
  refine ⟨⟨graySetting.baseEncoder, bytes, next⟩, ⟨next, others, last⟩, rfl,
    rfl, hkey, hinter, ⟨List.length_pos_iff.mp hpos, hlength,
      hlength.trans_lt (by decide), SampleEncoder.blankRasters,
      .key grayKeyFrame, SampleEncoder.sendable_grayKeyFrame, hkey⟩,
    ⟨List.length_pos_iff.mp hposNext, hlengthNext,
      hlengthNext.trans_lt (by decide), SampleEncoder.blankRasters,
      .inter grayInterFrame, SampleEncoder.sendable_grayInterFrame, hinter⟩, ?_⟩
  change ([graySetting.baseEncoder.decoderState, next.decoderState,
    last.decoderState].map fun state => UInt32.ofNat state.hash.length +
      (state.probabilityTables.yModeProbs 0).toUInt32).Nodup
  rw [hwroteNext.decoderState, hwrote.decoderState]
  decide +kernel

theorem WritesGray.awaits {first second : Encoding (SampleEncoder 16 16)}
    (h : WritesGray first second) : ∃ joint receiver whole,
      Awaits graySetting.lockStep first second joint receiver whole :=
  exists_awaits rfl rfl graySetting.mirrors h.base h.follows h.onePacketKey
    h.onePacketInter h.distinct

/-- In a run in which the sender writes frames that can be sent, the receiver
never fails on a frame whose source it holds, and then has the state and the
references of the encoder that the frame leads to, if no other decoder it may
start from has the hash of the source. -/
theorem run_shown (setting : CodecSetting width height) (now : Nat)
    (events : List (JointEvent (SampleEncoder width height)))
    (joint : Joint (SampleEncoder width height) (SampleDecoder width height))
    (hrun : run setting.parties (start setting.parties now) events = .ok joint)
    (hemitted : ∀ encoding ∈
      encodings setting.parties (start setting.parties now) events,
      Emitted encoding)
    (hdistinct : joint.targets.Nodup)
    (receiver : Receiver (SampleDecoder width height))
    (hreceiver : joint.receiver = some receiver) (arrival : Arrival)
    (hpacket : joint.InFlight arrival.packet) (fragment : FragmentedFrame)
    (hcompletes : receiver.completedFrame setting.parties.codec
      arrival.packet = some fragment)
    (dispatch : Dispatch) (hdispatch : dispatch ∈ joint.sent)
    (htarget : dispatch.frame.targetState = fragment.targetState)
    (hheld : receiver.decoders.Mem dispatch.frame.sourceState) :
    ∃ encoding ∈ encodings setting.parties (start setting.parties now) events,
      Carries setting.parties encoding dispatch ∧
      ((∀ player, Receiver.StartsFrom setting.parties.codec receiver
            arrival.packet dispatch.frame.sourceState player →
          setting.hash player.state player.references =
            dispatch.frame.sourceState →
          player.state = encoding.before.decoderState ∧
            player.references = encoding.before.references) →
        ∃ after ack, Receiver.handlePacket setting.parties.codec receiver
            arrival = .ok (after, ack) ∧
          after.player.state = encoding.after.decoderState ∧
          after.player.references = encoding.after.references ∧
          after.currentState = dispatch.frame.targetState) := by
  have hunsegmented := run_keeps
    (P := fun encoder : SampleEncoder width height =>
      encoder.decoderState.segmentation = none) (agreed_start now)
    (keeps_start now setting.mirrors.unsegmented)
    fun encoding hencoding => (hemitted encoding hencoding).unsegmented
  obtain ⟨encoding, hencoding, hcarries, hmirrored⟩ :=
    run_mirrors setting.lockStep hrun hemitted hdistinct hreceiver hpacket
      hcompletes hdispatch htarget hheld
  refine ⟨encoding, hencoding, hcarries, fun hcandidates => ?_⟩
  obtain ⟨after, ack, hhandled, hafter, hcurrent⟩ := hmirrored
    fun player hstarts hhash => by
      obtain ⟨hstate, hreferences⟩ := hcandidates player hstarts hhash
      exact ⟨hstate, hreferences, hunsegmented encoding hencoding⟩
  exact ⟨after, ack, hhandled, hafter.state, hafter.references, hcurrent⟩

/-- The first frame is delivered twice, the second one once. -/
theorem run_shown_gray : ∃ first second joint receiver arrival,
    WritesGray first second ∧
      run graySetting.parties (start graySetting.parties 0)
        (repeatedFirst first second) = .ok joint ∧
      joint.receiver = some receiver ∧ receiver.nextFrameNo = 1 ∧
      joint.InFlight arrival.packet ∧
      ∃ after ack, Receiver.handlePacket graySetting.parties.codec receiver
          arrival = .ok (after, ack) ∧
        after.player.state = second.after.decoderState ∧
        after.player.references = second.after.references := by
  obtain ⟨first, second, hgray⟩ := exists_writesGray
  obtain ⟨joint, receiver, whole, h⟩ := hgray.awaits
  obtain ⟨hpacket, fragment, hfragment⟩ := h.completes
  obtain ⟨frame, hleads⟩ := h.leads
  obtain ⟨hmirrors, hheld⟩ := h.mirrors
  let arrival : Arrival := ⟨whole.packet 0 0, 0, 0, 0⟩
  have hinFlight : joint.InFlight arrival.packet := ⟨1, 0, 0, hpacket⟩
  have hsent : ⟨whole.fragmented, false⟩ ∈ joint.sent := by
    obtain ⟨earlier, -, hsent⟩ := h.sent
    rw [hsent]
    exact List.mem_cons_of_mem _ List.mem_cons_self
  obtain ⟨encoding, hencoding, hcarries, hshown⟩ := run_shown graySetting 0
    (repeatedFirst first second) joint h.stretch.run (by
      rw [h.stretch.encodings]
      intro encoding hencoding
      rcases List.mem_cons.mp hencoding with rfl | hencoding
      · exact hgray.onePacketKey.emits
      · rw [List.mem_singleton.mp hencoding]
        exact hgray.onePacketInter.emits)
    h.inStep.nodup_targets receiver h.received arrival hinFlight fragment
    hfragment.completedFrame ⟨whole.fragmented, false⟩ hsent
    hfragment.targetState.symm (hleads.carries.source ▸ hheld)
  rw [h.stretch.encodings] at hencoding
  have hsecond : encoding = second := by
    have hsame : graySetting.parties.minihash encoding.after =
        graySetting.parties.minihash second.after :=
      hcarries.target.symm.trans hleads.carries.target
    have hdistinct := List.nodup_cons.mp (List.nodup_cons.mp hgray.distinct).2
    rcases List.mem_cons.mp hencoding with hfirst | hmem
    · rw [hfirst] at hsame
      exact absurd (List.mem_singleton.mpr hsame) hdistinct.1
    · exact List.mem_singleton.mp hmem
  subst hsecond
  obtain ⟨after, ack, hhandled, hstate, hreferences, -⟩ := hshown
    fun player hstarts _ => by
      rw [h.startsFrom hfragment hstarts, hgray.follows]
      exact ⟨hmirrors.state, hmirrors.references⟩
  exact ⟨first, encoding, joint, receiver, arrival, hgray, h.stretch.run,
    h.received, h.nextFrameNo, hinFlight, after, ack, hhandled, hstate,
    hreferences⟩

/-- In a calm run, one in which no frame is given up, every frame is made from
the last, has a state of its own and can be sent, the receiver never fails, and
what it decoded of the first frames has brought it to the state and the
references that the encoder had after them.  It gets to the last frame if every
fragment is delivered. -/
theorem run_calm_shown (setting : CodecSetting width height)
    (hconnection : setting.connectionId = Receiver.connectionId) (now : Nat)
    (events : List (JointEvent (SampleEncoder width height)))
    (hcalm : Fallible.AllSteps (step setting.parties) (Calm setting.lockStep)
      (start setting.parties now) events)
    (joint : Joint (SampleEncoder width height) (SampleDecoder width height))
    (hrun : run setting.parties (start setting.parties now) events =
      .ok joint) :
    (encodersOf setting.parties now events).length = joint.sent.length + 1 ∧
      ∃ receiver encoder, joint.receiver = some receiver ∧
        (encodersOf setting.parties now events)[receiver.nextFrameNo]? =
          some encoder ∧
        receiver.player.state = encoder.decoderState ∧
        receiver.player.references = encoder.references ∧
        (joint.AllDelivered (deliveries setting.parties
            (start setting.parties now) events) →
          receiver.nextFrameNo = joint.sent.length) := by
  have hstart := @inStep_start _ _ _ setting.parties setting.lockStep
    hconnection setting.mirrors now
  have h := run_inStep hstart hcalm hrun
  have hwaits := run_waits hstart hcalm (fun _ hreceiver => by
    cases hreceiver
    exact Receiver.waits_start _) hrun
  obtain ⟨receiver, encoder, hreceiver, hat, hmirrors, -⟩ := h.receiver
  exact ⟨h.length, receiver, encoder, hreceiver, hat, hmirrors.state,
    hmirrors.references, h.caught_up hreceiver
      (List.getElem?_eq_some_iff.mp hat).1 (hwaits receiver hreceiver)⟩

/-- The second frame has come too. -/
theorem run_calm_shown_gray : ∃ first second joint receiver,
    WritesGray first second ∧
      run graySetting.parties (start graySetting.parties 0)
        (repeatedFirst first second ++ [.packet 1 0 0 0 0 0]) = .ok joint ∧
      joint.receiver = some receiver ∧ receiver.nextFrameNo = 2 ∧
      receiver.player.state = second.after.decoderState ∧
      receiver.player.references = second.after.references := by
  obtain ⟨first, second, hgray⟩ := exists_writesGray
  obtain ⟨joint, waiting, whole, h⟩ := hgray.awaits
  obtain ⟨earlier, hearlier, hsent⟩ := h.sent
  obtain ⟨last, -, hstretch, hsentLast, -⟩ :=
    arrives graySetting.lockStep joint 1 0 (by
      intro receiver hreceiver
      obtain rfl := Option.some.inj (h.received.symm.trans hreceiver)
      exact h.nextFrameNo.ge)
  have hdelivery : joint.deliveryOf (.packet 1 0 0 0 0 0) = [(1, 0)] := by
    rw [deliveryOf, h.completes.1]
    rfl
  rw [hdelivery] at hstretch
  have hwhole := h.stretch.append hstretch
  obtain ⟨-, receiver, encoder, hreceiver, hat, hstate, hreferences,
    hcaughtUp⟩ := run_calm_shown graySetting rfl 0 _ hwhole.calm last hwhole.run
  have hnext : receiver.nextFrameNo = 2 := by
    have hall : OneByOne last.sent ([(0, 0), (0, 0)] ++ [(1, 0)]) := by
      rw [hsentLast, hsent]
      intro number dispatch hdispatch
      rcases number with _ | _ | number
      · cases hdispatch
        exact ⟨earlier, rfl, hearlier, by decide⟩
      · cases hdispatch
        exact ⟨whole, rfl, h.count, by decide⟩
      · cases hdispatch
    rw [← hwhole.deliveries] at hall
    refine (hcaughtUp hall.allDelivered).trans ?_
    rw [hsentLast, hsent]
    rfl
  rw [encodersOf, hwhole.encodings, hnext] at hat
  obtain rfl : second.after = encoder := Option.some.inj hat
  exact ⟨first, second, last, receiver, hgray, hwhole.run, hreceiver, hnext,
    hstate, hreferences⟩

end Joint

end Salsify.Session
