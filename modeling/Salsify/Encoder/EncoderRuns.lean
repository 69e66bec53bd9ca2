import Salsify.Encoder.SampleEncoder

namespace Salsify.Encoder

open Salsify.Codec
open Salsify.Net (Chunk Failure)
open Fallible (ok_bind bind_eq_ok)

/-! Whole runs of the encoder, and of a decoder that receives what it writes. -/

/-- The displays whose frames have room for their size, and whose references can
be loaded. -/
structure Writable (width height : Nat) : Prop where
  whole : width % 16 = 0
  width_le : width ≤ 16383
  height_le : height ≤ 16383

section Loads

variable {width height : Nat}

theorem loadReferences_ok_iff (hwidth : width ≤ 16383)
    (hheight : height ≤ 16383) (references : RasterReferences width height)
    (recycled : FrameReferences (SafeY width height)) :
    (∃ loaded, SampleEncoder.loadReferences references recycled = .ok loaded) ↔
      width % 16 = 0 := by
  constructor
  · rintro ⟨loaded, h⟩
    obtain ⟨last, hlast, -⟩ := bind_eq_ok h
    exact whole_of_load hlast
  · intro hwhole
    have hdimension : width = 16 * macroblockDimension width := by
      unfold macroblockDimension
      omega
    have hproduct : (width + marginWidth * 2) * (height + marginWidth * 2) <
        2 ^ 32 := by
      have hmargin : marginWidth = 256 := rfl
      have hle : (width + marginWidth * 2) * (height + marginWidth * 2) ≤
          16895 * 16895 := Nat.mul_le_mul (by omega) (by omega)
      omega
    have hload (source : LumaPlane width height) (target : SafeY width height) :
        ∃ loaded, load source target = .ok loaded :=
      (load_copiedTo source target hdimension hproduct).imp fun _ h => h.1
    obtain ⟨last, hlast⟩ := hload (references.last.plane .Y) recycled.last
    obtain ⟨golden, hgolden⟩ :=
      hload (references.golden.plane .Y) recycled.golden
    obtain ⟨alternative, halternative⟩ :=
      hload (references.alternative.plane .Y) recycled.alternative
    refine ⟨⟨last, golden, alternative⟩, ?_⟩
    rw [SampleEncoder.loadReferences, hlast, ok_bind, hgolden, ok_bind,
      halternative]
    rfl

theorem SampleEncoder.writeFrame_ok_iff {FrameHeader MacroblockHeader : Type}
    [WritableFrame FrameHeader MacroblockHeader]
    {encoder : SampleEncoder width height}
    {recycled : RecycledRasters width height}
    {frame : Frame FrameHeader MacroblockHeader}
    (hserialized : (∃ bytes, (WritableFrame.writeFrame encoder.decoderState
      frame .decoderState).2 = .ok bytes) ↔ width ≤ 16383 ∧ height ≤ 16383)
    (hdecodes : ∃ raster, (do
      let decoded ← DecodedFrame.decodeInto
        (WritableFrame.writeFrame encoder.decoderState frame
          .decoderState).1.segmentation
        (WritableFrame.updateReferences frame.header recycled.references
          encoder.references) frame recycled.decoded
      frame.filterIn
        (WritableFrame.writeFrame encoder.decoderState frame
          .decoderState).1.segmentation
        (WritableFrame.writeFrame encoder.decoderState frame
          .decoderState).1.filterAdjustments decoded) = .ok raster) :
    (∃ written, encoder.writeFrame recycled frame = .ok written) ↔
      Writable width height := by
  obtain ⟨raster, hraster⟩ := hdecodes
  obtain ⟨decoded, hdecoded, hfilter⟩ := bind_eq_ok hraster
  unfold SampleEncoder.writeFrame
  dsimp only
  rw [hdecoded]
  simp only [ok_bind]
  rw [hfilter]
  simp only [ok_bind]
  constructor
  · rintro ⟨written, h⟩
    obtain ⟨loaded, hloaded, h⟩ := bind_eq_ok h
    obtain ⟨bytes, hbytes, -⟩ := bind_eq_ok h
    obtain ⟨hwidth, hheight⟩ := hserialized.mp ⟨bytes, hbytes⟩
    exact ⟨(loadReferences_ok_iff hwidth hheight _ _).mp ⟨loaded, hloaded⟩,
      hwidth, hheight⟩
  · rintro ⟨hwhole, hwidth, hheight⟩
    obtain ⟨loaded, hloaded⟩ := (loadReferences_ok_iff hwidth hheight
      (DecodedFrame.copyTo frame.header raster
        (WritableFrame.updateReferences frame.header recycled.references
          encoder.references)) recycled.safeReferences).mpr hwhole
    obtain ⟨bytes, hbytes⟩ := hserialized.mpr ⟨hwidth, hheight⟩
    rw [hloaded]
    simp only [ok_bind]
    rw [hbytes]
    exact ⟨_, rfl⟩

end Loads

namespace SampleEncoder

variable {width height : Nat}

/-- A key frame that can be sent is written for those displays, whatever the
encoder holds. -/
theorem writeFrame_key_ok_iff (encoder : SampleEncoder width height)
    (recycled : RecycledRasters width height) {frame : KeyFrame}
    (hframe : KeyFrame.Sendable width height frame) :
    (∃ written, encoder.writeFrame recycled frame = .ok written) ↔
      Writable width height := by
  obtain ⟨hwidth, hheight⟩ := display_pos recycled.decoded
  have hunsegmented : (WritableFrame.writeFrame encoder.decoderState frame
      .decoderState).1.segmentation = none :=
    congrArg (Option.map Segmentation.ofHeader) hframe.unsegmented
  refine writeFrame_ok_iff ?_ ?_
  · have hserialize : (WritableFrame.writeFrame encoder.decoderState frame
        .decoderState).2 = frame.written.serialize {} := by
      rw [KeyFrame.serialize_written
        (links_of_assembled hframe.wellFormed.toAssembled)]
      exact KeyFrame.writeFrame_aliased encoder.decoderState frame
    rw [hserialize]
    exact hframe.wellFormed.serialize_ok_iff hwidth hheight
  · rw [hunsegmented]
    obtain ⟨raster, hraster⟩ := hframe.wellFormed.decodes
      (WritableFrame.updateReferences frame.header recycled.references
        encoder.references)
      (WritableFrame.writeFrame encoder.decoderState frame
        .decoderState).1.filterAdjustments recycled.decoded
    obtain ⟨decoded, hdecoded, hfilter⟩ := bind_eq_ok hraster
    refine ⟨raster, ?_⟩
    have hsame : DecodedFrame.decodeInto
        (none : Option (Segmentation width height))
        (WritableFrame.updateReferences frame.header recycled.references
          encoder.references) frame recycled.decoded = .ok decoded :=
      (KeyFrame.decodeInto_written _ frame recycled.decoded).symm.trans hdecoded
    rw [hsame, ok_bind, ← Frame.filterIn_written]
    exact hfilter

theorem writeFrame_inter_ok_iff {encoder : SampleEncoder width height}
    (hunsegmented : encoder.decoderState.segmentation = none)
    (recycled : RecycledRasters width height) {frame : InterFrame}
    (hframe : InterFrame.Sendable width height frame) :
    (∃ written, encoder.writeFrame recycled frame = .ok written) ↔
      Writable width height := by
  obtain ⟨hwidth, hheight⟩ := display_pos recycled.decoded
  have hstays : (WritableFrame.writeFrame encoder.decoderState frame
      .decoderState).1.segmentation = none := hunsegmented
  refine writeFrame_ok_iff ?_ ?_
  · have hserialize : (WritableFrame.writeFrame encoder.decoderState frame
        .decoderState).2 =
          frame.written.serialize encoder.decoderState.probabilityTables := by
      rw [InterFrame.serialize_written hframe.notSplit
        (links_of_assembled hframe.wellFormed.toAssembled)]
      exact InterFrame.writeFrame_aliased encoder.decoderState frame
    rw [hserialize]
    exact hframe.wellFormed.serialize_ok_iff hwidth hheight _
  · rw [hstays]
    obtain ⟨raster, hraster⟩ := hframe.wellFormed.decodes
      (WritableFrame.updateReferences frame.header recycled.references
        encoder.references)
      (WritableFrame.writeFrame encoder.decoderState frame
        .decoderState).1.filterAdjustments recycled.decoded
    obtain ⟨decoded, hdecoded, hfilter⟩ := bind_eq_ok hraster
    refine ⟨raster, ?_⟩
    have hsame : DecodedFrame.decodeInto
        (none : Option (Segmentation width height))
        (WritableFrame.updateReferences frame.header recycled.references
          encoder.references) frame recycled.decoded = .ok decoded :=
      (InterFrame.decodeInto_written _ _ frame recycled.decoded).symm.trans
        hdecoded
    rw [hsame, ok_bind, ← Frame.filterIn_written]
    exact hfilter

end SampleEncoder

/-- A frame of one of the types that `write_frame` is for. -/
inductive CodedFrame
  | key (frame : KeyFrame)
  | inter (frame : InterFrame)

namespace CodedFrame

def Sendable (width height : Nat) : CodedFrame → Prop
  | .key frame => KeyFrame.Sendable width height frame
  | .inter frame => InterFrame.Sendable width height frame

def isKey : CodedFrame → Bool
  | .key _ => true
  | .inter _ => false

def showFrame : CodedFrame → Bool
  | .key frame => frame.showFrame
  | .inter frame => frame.showFrame

def refreshLast : CodedFrame → Bool
  | .key _ => true
  | .inter frame => frame.header.refreshLast

end CodedFrame

namespace SampleEncoder

variable {width height : Nat}

def writeCoded (encoder : SampleEncoder width height)
    (recycled : RecycledRasters width height) :
    CodedFrame → Except Failure (Chunk × SampleEncoder width height)
  | .key frame => encoder.writeFrame recycled frame
  | .inter frame => encoder.writeFrame recycled frame

def writeFrames (encoder : SampleEncoder width height) :
    List (RecycledRasters width height × CodedFrame) →
    Except Failure (List (Chunk × SampleEncoder width height))
  | [] => .ok []
  | (recycled, frame) :: rest => do
      let (bytes, next) ← encoder.writeCoded recycled frame
      let others ← next.writeFrames rest
      return (bytes, next) :: others

def after (encoder : SampleEncoder width height)
    (written : List (Chunk × SampleEncoder width height)) :
    SampleEncoder width height :=
  written.foldl (fun _ last => last.2) encoder

/-- What a decoder makes of a frame, where the encoder is at `next` after it. -/
structure Shown (frame : CodedFrame) (next : SampleEncoder width height)
    (output : Bool × VP8Raster width height) : Prop where
  showFrame : output.1 = frame.showFrame
  last : frame.refreshLast = true → output.2 = next.references.last

theorem writeCoded_mirrored {encoder next : SampleEncoder width height}
    {recycled : RecycledRasters width height} {frame : CodedFrame}
    {bytes : Chunk} (hframe : frame.Sendable width height)
    (hshort : bytes.length < 2 ^ 19)
    (h : encoder.writeCoded recycled frame = .ok (bytes, next))
    {decoder : SampleDecoder width height}
    (hstart : frame.isKey = false → Mirrors decoder encoder)
    (other : VP8Raster width height) :
    ∃ output mirrored, decoder.getFrameOutput other bytes =
        .ok (output, mirrored) ∧
      Mirrors mirrored next ∧ Shown frame next output := by
  cases frame with
  | key frame =>
      obtain ⟨raster, mirrored, houtput, hmirrors, hlast⟩ :=
        writeFrame_key_mirrored hframe hshort h decoder other
      exact ⟨_, mirrored, houtput, hmirrors, rfl, fun _ => hlast⟩
  | inter frame =>
      obtain ⟨raster, mirrored, houtput, hmirrors, hlast⟩ :=
        writeFrame_inter_mirrored hframe hshort h (hstart rfl) other
      exact ⟨_, mirrored, houtput, hmirrors, rfl, hlast⟩

theorem writeFrames_cons_eq_ok {encoder : SampleEncoder width height}
    {recycled : RecycledRasters width height} {frame : CodedFrame}
    {rest : List (RecycledRasters width height × CodedFrame)}
    {written : List (Chunk × SampleEncoder width height)}
    (h : encoder.writeFrames ((recycled, frame) :: rest) = .ok written) :
    ∃ bytes next others, encoder.writeCoded recycled frame = .ok (bytes, next) ∧
      next.writeFrames rest = .ok others ∧
      written = (bytes, next) :: others := by
  obtain ⟨⟨bytes, next⟩, hfirst, h⟩ := bind_eq_ok h
  obtain ⟨others, hothers, h⟩ := bind_eq_ok h
  cases h
  exact ⟨bytes, next, others, hfirst, hothers, rfl⟩

/-- The first frame is a key frame unless the decoder is where the encoder takes
it to be. -/
theorem writeFrames_mirrored {encoder : SampleEncoder width height}
    {frames : List (RecycledRasters width height × CodedFrame)}
    {written : List (Chunk × SampleEncoder width height)}
    (hsendable : ∀ frame ∈ frames, frame.2.Sendable width height)
    (hshort : ∀ frame ∈ written, frame.1.length < 2 ^ 19)
    (h : encoder.writeFrames frames = .ok written)
    {decoder : SampleDecoder width height}
    (hstart : ∀ frame ∈ frames.head?, frame.2.isKey = false →
      Mirrors decoder encoder)
    {received : List (VP8Raster width height × Chunk)}
    (hreceived : received.map Prod.snd = written.map Prod.fst) :
    ∃ outputs last, decoder.run received = .ok (outputs, last) ∧
      (frames ≠ [] → Mirrors last (encoder.after written)) ∧
      List.Forall₂ (fun sent => Shown sent.1 sent.2)
        ((frames.map Prod.snd).zip (written.map Prod.snd)) outputs := by
  induction frames generalizing encoder written decoder received with
  | nil =>
      cases h
      rw [List.map_eq_nil_iff.mp hreceived]
      exact ⟨[], decoder, rfl, fun hne => absurd rfl hne, List.Forall₂.nil⟩
  | cons frame rest ih =>
      obtain ⟨recycled, frame⟩ := frame
      obtain ⟨bytes, next, others, hfirst, hothers, rfl⟩ :=
        writeFrames_cons_eq_ok h
      cases received with
      | nil => cases hreceived
      | cons first received =>
          obtain ⟨other, chunk⟩ := first
          obtain ⟨hchunk, hrest⟩ := List.cons.inj hreceived
          obtain rfl : chunk = bytes := hchunk
          obtain ⟨output, mirrored, houtput, hmirrors, hshown⟩ :=
            writeCoded_mirrored (hsendable _ List.mem_cons_self)
              (hshort _ List.mem_cons_self) hfirst (hstart _ rfl) other
          obtain ⟨outputs, last, hrun, hlast, hall⟩ := ih
            (fun sent hsent => hsendable sent (List.mem_cons_of_mem _ hsent))
            (fun sent hsent => hshort sent (List.mem_cons_of_mem _ hsent))
            hothers (fun _ _ _ => hmirrors) hrest
          refine ⟨output :: outputs, last, SampleDecoder.run_cons_eq_ok.mpr
            ⟨output, mirrored, outputs, houtput, hrun, rfl⟩, fun _ => ?_,
            List.Forall₂.cons hshown hall⟩
          cases rest with
          | nil =>
              cases hothers
              rw [List.map_eq_nil_iff.mp hrest] at hrun
              cases hrun
              exact hmirrors
          | cons second rest => exact hlast (List.cons_ne_nil _ _)

theorem writeCoded_ok_iff {encoder : SampleEncoder width height}
    (recycled : RecycledRasters width height) {frame : CodedFrame}
    (hframe : frame.Sendable width height)
    (hstart : frame.isKey = false → encoder.decoderState.segmentation = none) :
    (∃ written, encoder.writeCoded recycled frame = .ok written) ↔
      Writable width height := by
  cases frame with
  | key frame => exact encoder.writeFrame_key_ok_iff recycled hframe
  | inter frame => exact writeFrame_inter_ok_iff (hstart rfl) recycled hframe

theorem writeCoded_unsegmented {encoder next : SampleEncoder width height}
    {recycled : RecycledRasters width height} {frame : CodedFrame}
    {bytes : Chunk} (hframe : frame.Sendable width height)
    (hstart : frame.isKey = false → encoder.decoderState.segmentation = none)
    (h : encoder.writeCoded recycled frame = .ok (bytes, next)) :
    next.decoderState.segmentation = none := by
  cases frame with
  | key frame =>
      obtain ⟨raster, hwrote⟩ := wrote_of_writeFrame h
      rw [hwrote.decoderState]
      exact congrArg (Option.map Segmentation.ofHeader) hframe.unsegmented
  | inter frame =>
      obtain ⟨raster, hwrote⟩ := wrote_of_writeFrame h
      rw [hwrote.decoderState]
      exact hstart rfl

theorem writeFrames_ok (hwritable : Writable width height)
    {encoder : SampleEncoder width height}
    {frames : List (RecycledRasters width height × CodedFrame)}
    (hsendable : ∀ frame ∈ frames, frame.2.Sendable width height)
    (hstart : ∀ frame ∈ frames.head?, frame.2.isKey = false →
      encoder.decoderState.segmentation = none) :
    ∃ written, encoder.writeFrames frames = .ok written := by
  induction frames generalizing encoder with
  | nil => exact ⟨[], rfl⟩
  | cons frame rest ih =>
      obtain ⟨recycled, frame⟩ := frame
      have hframe := hsendable _ List.mem_cons_self
      obtain ⟨⟨bytes, next⟩, hfirst⟩ :=
        (writeCoded_ok_iff recycled hframe (hstart _ rfl)).mpr hwritable
      have hnext := writeCoded_unsegmented hframe (hstart _ rfl) hfirst
      obtain ⟨others, hothers⟩ := ih
        (fun sent hsent => hsendable sent (List.mem_cons_of_mem _ hsent))
        fun _ _ _ => hnext
      refine ⟨(bytes, next) :: others, ?_⟩
      simp only [writeFrames, hfirst, ok_bind, hothers]
      rfl

/-- From a key frame on, whatever can be sent is written for exactly the
displays that are writable, and any decoder shows what the encoder keeps. -/
theorem writeFrames_shown (encoder : SampleEncoder width height)
    (recycled : RecycledRasters width height) (frame : KeyFrame)
    (rest : List (RecycledRasters width height × CodedFrame))
    (hsendable : ∀ sent ∈ (recycled, .key frame) :: rest,
      sent.2.Sendable width height) :
    ((∃ written, encoder.writeFrames ((recycled, .key frame) :: rest) =
      .ok written) ↔ Writable width height) ∧
    ∀ written, encoder.writeFrames ((recycled, .key frame) :: rest) =
        .ok written →
      (∀ sent ∈ written, sent.1.length < 2 ^ 19) →
      ∀ (decoder : SampleDecoder width height)
        (received : List (VP8Raster width height × Chunk)),
      received.map Prod.snd = written.map Prod.fst →
      ∃ outputs last, decoder.run received = .ok (outputs, last) ∧
        Mirrors last (encoder.after written) ∧
        List.Forall₂ (fun sent => Shown sent.1 sent.2)
          ((CodedFrame.key frame :: rest.map Prod.snd).zip
            (written.map Prod.snd)) outputs := by
  refine ⟨⟨?_, ?_⟩, ?_⟩
  · rintro ⟨written, h⟩
    obtain ⟨bytes, next, others, hfirst, -⟩ := writeFrames_cons_eq_ok h
    exact (writeCoded_ok_iff recycled (hsendable _ List.mem_cons_self)
      fun hnotKey => by cases hnotKey).mp ⟨_, hfirst⟩
  · intro hwritable
    refine writeFrames_ok hwritable hsendable fun sent hsent hnotKey => ?_
    cases hsent
    cases hnotKey
  · intro written h hshort decoder received hreceived
    obtain ⟨outputs, last, hrun, hlast, hall⟩ := writeFrames_mirrored hsendable
      hshort h (fun sent hsent hnotKey => by
        cases hsent
        cases hnotKey) hreceived
    exact ⟨outputs, last, hrun, hlast (List.cons_ne_nil _ _), hall⟩

theorem sendable_grayKeyFrame : KeyFrame.Sendable 16 16 grayKeyFrame :=
  ⟨rfl, wellFormed_grayKeyFrame⟩

theorem sendable_grayInterFrame : InterFrame.Sendable 16 16 grayInterFrame :=
  ⟨rfl, wellFormed_grayInterFrame⟩

def blankRasters : RecycledRasters 16 16 where
  references := .blank (by decide) (by decide)
  decoded := .blank (by decide) (by decide)
  safeReferences := ⟨blank (by decide) (by decide),
    blank (by decide) (by decide), blank (by decide) (by decide)⟩

def blankEncoder : SampleEncoder 16 16 where
  decoderState := {}
  references := ⟨blankRasters.references, blankRasters.references,
    blankRasters.references⟩
  safeReferences := blankRasters.safeReferences
  encodeQuality := .bestQuality
  loopFilterLevel := none
  lastYAcQi := none

theorem writeFrame_gray_length {encoder next : SampleEncoder 16 16}
    {recycled : RecycledRasters 16 16} {bytes : Chunk}
    (h : encoder.writeFrame recycled grayKeyFrame = .ok (bytes, next)) :
    0 < bytes.length ∧ bytes.length ≤ 1400 := by
  obtain ⟨raster, hwrote⟩ := wrote_of_writeFrame h
  have hserialized := hwrote.serialized
  change (KeyFrame.writeFrame encoder.decoderState grayKeyFrame
    .decoderState).2 = _ at hserialized
  rw [KeyFrame.writeFrame_aliased] at hserialized
  have hcheck : Fallible.check
      (fun bytes => decide (0 < bytes.length ∧ bytes.length ≤ 1400))
      (grayKeyFrame.serialize {}) = true := by decide +kernel
  rw [hserialized] at hcheck
  exact of_decide_eq_true hcheck

theorem writeFrame_gray_next {encoder next last : SampleEncoder 16 16}
    {recycled recycledNext : RecycledRasters 16 16} {bytes others : Chunk}
    (hkey : encoder.writeFrame recycled grayKeyFrame = .ok (bytes, next))
    (hinter : next.writeFrame recycledNext grayInterFrame =
      .ok (others, last)) :
    0 < others.length ∧ others.length ≤ 1400 := by
  obtain ⟨raster, hwrote⟩ := wrote_of_writeFrame hkey
  obtain ⟨rasterOther, hwroteOther⟩ := wrote_of_writeFrame hinter
  have hserialized := hwroteOther.serialized
  rw [hwrote.decoderState] at hserialized
  change (InterFrame.writeFrame
    (DecoderState.updateDecoderStateKey grayKeyFrame : DecoderState 16 16)
    grayInterFrame .decoderState).2 = _ at hserialized
  have hcheck : Fallible.check
      (fun bytes => decide (0 < bytes.length ∧ bytes.length ≤ 1400))
      (InterFrame.writeFrame
        (DecoderState.updateDecoderStateKey grayKeyFrame : DecoderState 16 16)
        grayInterFrame .decoderState).2 = true := by
    decide +kernel
  rw [hserialized] at hcheck
  exact of_decide_eq_true hcheck

/-- The decoder may have received anything before. -/
theorem writeFrames_shown_gray : ∃ (encoder : SampleEncoder 16 16)
    (recycled : RecycledRasters 16 16) (written : _),
    encoder.writeFrames
        [(recycled, .key grayKeyFrame), (recycled, .inter grayInterFrame)] =
          .ok written ∧
      ∀ decoder : SampleDecoder 16 16, ∃ outputs last,
        decoder.run (written.map fun sent => (recycled.decoded, sent.1)) =
            .ok (outputs, last) ∧
          Mirrors last (encoder.after written) := by
  obtain ⟨hwritten, hshown⟩ := writeFrames_shown blankEncoder blankRasters
    grayKeyFrame [(blankRasters, .inter grayInterFrame)] (by
      intro sent hsent
      rcases List.mem_cons.mp hsent with rfl | hsent
      · exact sendable_grayKeyFrame
      · rw [List.mem_singleton.mp hsent]
        exact sendable_grayInterFrame)
  obtain ⟨written, h⟩ := hwritten.mpr ⟨by decide, by decide, by decide⟩
  refine ⟨blankEncoder, blankRasters, written, h, fun decoder => ?_⟩
  obtain ⟨bytes, next, rest, hkey, hrest, rfl⟩ := writeFrames_cons_eq_ok h
  obtain ⟨others, last, none, hinter, hnone, rfl⟩ :=
    writeFrames_cons_eq_ok hrest
  cases hnone
  have hshort : bytes.length < 2 ^ 19 :=
    (writeFrame_gray_length hkey).2.trans_lt (by decide)
  have hshortOther : others.length < 2 ^ 19 :=
    (writeFrame_gray_next hkey hinter).2.trans_lt (by decide)
  obtain ⟨outputs, last, hrun, hlast, -⟩ := hshown _ h (by
      intro sent hsent
      rcases List.mem_cons.mp hsent with rfl | hsent
      · exact hshort
      · rw [List.mem_singleton.mp hsent]
        exact hshortOther) decoder
    ([(bytes, next), (others, last)].map fun sent =>
      (blankRasters.decoded, sent.1)) rfl
  exact ⟨outputs, last, hrun, hlast⟩

end SampleEncoder

end Salsify.Encoder
