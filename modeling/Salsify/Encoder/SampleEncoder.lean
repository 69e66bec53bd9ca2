import Salsify.Codec.DecodableFrames
import Salsify.Codec.DecoderRuns
import Salsify.Encoder.MotionSearch
import Salsify.Encoder.SafeReferences
import Salsify.Encoder.WriteFrame

namespace Salsify.Encoder

open Salsify.Codec
open Salsify.Net (Chunk Failure)
open Fallible (ok_bind bind_eq_ok)

/-! The encoder with the samples, and `write_frame` of `encoder/encoder.cc`. -/

/-- `Encoder`, without what it makes frames with. -/
structure SampleEncoder (width height : Nat) where
  decoderState : DecoderState width height
  references : RasterReferences width height
  safeReferences : FrameReferences (SafeY width height)
  encodeQuality : EncoderQuality
  loopFilterLevel : Option UInt8
  lastYAcQi : Option UInt8

/-- What `write_frame` takes from the type of the frame. -/
class WritableFrame (FrameHeader : Type) (MacroblockHeader : outParam Type)
    extends DecodedFrame FrameHeader MacroblockHeader where
  quantIndices : FrameHeader → QuantIndices
  writeFrame {width height : Nat} : DecoderState width height →
    Frame FrameHeader MacroblockHeader → TablesReference →
    DecoderState width height × Except Failure Chunk
  /-- The references after `update_decoder_state`, which may be one new
  raster. -/
  updateReferences {α : Type} : FrameHeader → α → FrameReferences α →
    FrameReferences α

instance : WritableFrame KeyFrameHeader KeyFrameMacroblockHeader where
  quantIndices := KeyFrameHeader.quantIndices
  writeFrame state frame := KeyFrame.writeFrame state frame
  updateReferences _ raster _ := ⟨raster, raster, raster⟩

instance : WritableFrame InterFrameHeader InterFrameMacroblockHeader where
  quantIndices := InterFrameHeader.quantIndices
  writeFrame state frame := InterFrame.writeFrame state frame
  updateReferences _ _ references := references

/-- Rasters of any contents, from the pools. -/
structure RecycledRasters (width height : Nat) where
  references : VP8Raster width height
  decoded : VP8Raster width height
  safeReferences : FrameReferences (SafeY width height)

namespace SampleEncoder

variable {width height : Nat}

def loadReferences (references : RasterReferences width height)
    (recycled : FrameReferences (SafeY width height)) :
    Except Failure (FrameReferences (SafeY width height)) := do
  let last ← load (references.last.plane .Y) recycled.last
  let golden ← load (references.golden.plane .Y) recycled.golden
  let alternative ← load (references.alternative.plane .Y) recycled.alternative
  return { last, golden, alternative }

/-- `write_frame( frame )` -/
def writeFrame {FrameHeader MacroblockHeader : Type}
    [WritableFrame FrameHeader MacroblockHeader]
    (encoder : SampleEncoder width height)
    (recycled : RecycledRasters width height)
    (frame : Frame FrameHeader MacroblockHeader) :
    Except Failure (Chunk × SampleEncoder width height) := do
  let (decoderState, serialized) :=
    WritableFrame.writeFrame encoder.decoderState frame .decoderState
  let references := WritableFrame.updateReferences frame.header
    recycled.references encoder.references
  let decoded ← DecodedFrame.decodeInto decoderState.segmentation references
    frame recycled.decoded
  let raster ← frame.filterIn decoderState.segmentation
    decoderState.filterAdjustments decoded
  let references := DecodedFrame.copyTo frame.header raster references
  let safeReferences ← loadReferences references recycled.safeReferences
  let realtime := encoder.encodeQuality = .realtimeQuality
  let bytes ← serialized
  return (bytes, { encoder with
    decoderState, references, safeReferences
    loopFilterLevel :=
      if realtime then some (LoopFiltered.loopFilterLevel frame.header)
      else encoder.loopFilterLevel
    lastYAcQi :=
      if realtime then
        some (WritableFrame.quantIndices frame.header).yAcQi
      else encoder.lastYAcQi })

end SampleEncoder

section Sendable

variable {width height : Nat}

structure KeyFrame.Sendable (width height : Nat) (frame : KeyFrame) : Prop where
  unsegmented : frame.header.updateSegmentation = none
  wellFormed : KeyFrame.WellFormed (none : Option (Segmentation width height))
    frame.written

structure InterFrame.Sendable (width height : Nat) (frame : InterFrame) :
    Prop where
  unsegmented : frame.header.updateSegmentation = none
  wellFormed : InterFrame.WellFormed (none : Option (Segmentation width height))
    frame.written

theorem relinkY2Blocks_written {Header : Type} (isInter : Header → Bool)
    (columns : Nat) (macroblocks : List (Macroblock Header)) :
    relinkY2Blocks columns (macroblocks.map (Macroblock.written isInter)) =
      relinkY2Blocks columns macroblocks := by
  unfold relinkY2Blocks
  rw [List.map_map]
  rfl

theorem links_of_assembled {FrameHeader MacroblockHeader : Type}
    [HeaderType FrameHeader MacroblockHeader]
    {isInter : MacroblockHeader → Bool}
    {segmentation : Option (Segmentation width height)}
    {frame : Frame FrameHeader MacroblockHeader}
    (h : (frame.written isInter).Assembled segmentation) :
    frame.y2Links = relinkY2Blocks frame.macroblockWidth frame.macroblocks := by
  have hlinks := h.y2Links
  have hwidth : frame.displayWidth = width := h.displayWidth
  rw [Frame.macroblockWidth, hwidth, ← relinkY2Blocks_written isInter]
  exact hlinks

theorem InterFrame.Sendable.notSplit {frame : InterFrame}
    (h : InterFrame.Sendable width height frame) :
    ∀ mb ∈ frame.macroblocks, InterFrameMacroblock.NotSplit mb := by
  intro mb hmb hinter
  obtain ⟨front, rest, hall⟩ := List.append_of_mem
    (List.mem_map_of_mem (f := InterFrameMacroblock.written) hmb)
  have hmodes := h.wellFormed.modes front _ rest hall
  have hwritten : InterFrameMacroblock.interCoded
      (InterFrameMacroblock.written mb) = true := hinter
  rw [InterFrameMacroblock.ModesFit, if_pos hwritten] at hmodes
  rcases hmodes with hfits | hsplit
  · exact hfits.vector.cases.2.2
  · exact absurd hsplit (InterFrameMacroblock.not_splitFits_written hinter _)

end Sendable

/-- A decoder that is where the encoder takes it to be, which has no
segments. -/
structure Mirrors {width height : Nat} (decoder : SampleDecoder width height)
    (encoder : SampleEncoder width height) : Prop where
  state : decoder.state = encoder.decoderState
  references : decoder.references = encoder.references
  unsegmented : encoder.decoderState.segmentation = none

namespace SampleEncoder

variable {width height : Nat}

structure Wrote {FrameHeader MacroblockHeader : Type}
    [WritableFrame FrameHeader MacroblockHeader]
    (encoder : SampleEncoder width height)
    (recycled : RecycledRasters width height)
    (frame : Frame FrameHeader MacroblockHeader) (bytes : Chunk)
    (next : SampleEncoder width height) (raster : VP8Raster width height) :
    Prop where
  serialized :
    (WritableFrame.writeFrame encoder.decoderState frame .decoderState).2 =
      .ok bytes
  decoderState : next.decoderState =
    (WritableFrame.writeFrame encoder.decoderState frame .decoderState).1
  decoded : (do
      let decoded ← DecodedFrame.decodeInto next.decoderState.segmentation
        (WritableFrame.updateReferences frame.header recycled.references
          encoder.references) frame recycled.decoded
      frame.filterIn next.decoderState.segmentation
        next.decoderState.filterAdjustments decoded) = .ok raster
  references : next.references = DecodedFrame.copyTo frame.header raster
    (WritableFrame.updateReferences frame.header recycled.references
      encoder.references)

theorem wrote_of_writeFrame {FrameHeader MacroblockHeader : Type}
    [WritableFrame FrameHeader MacroblockHeader]
    {encoder next : SampleEncoder width height}
    {recycled : RecycledRasters width height}
    {frame : Frame FrameHeader MacroblockHeader} {bytes : Chunk}
    (h : encoder.writeFrame recycled frame = .ok (bytes, next)) :
    ∃ raster, Wrote encoder recycled frame bytes next raster := by
  obtain ⟨decoded, hdecoded, h⟩ := bind_eq_ok h
  obtain ⟨raster, hraster, h⟩ := bind_eq_ok h
  obtain ⟨safeReferences, -, h⟩ := bind_eq_ok h
  obtain ⟨written, hserialized, h⟩ := bind_eq_ok h
  cases h
  exact ⟨raster, {
    serialized := hserialized
    decoderState := rfl
    decoded := by rw [hdecoded, ok_bind, hraster]
    references := rfl }⟩

theorem display_pos (raster : VP8Raster width height) :
    0 < width ∧ 0 < height := by
  have hwidth : 0 < 16 * macroblockDimension width := (raster.plane .Y).width_pos
  have hheight : 0 < 16 * macroblockDimension height :=
    (raster.plane .Y).height_pos
  unfold macroblockDimension at hwidth hheight
  omega

theorem updateDecoderStateKey_written {frame : KeyFrame}
    (h : KeyFrame.Sendable width height frame) :
    (DecoderState.updateDecoderStateKey frame : DecoderState width height) =
      DecoderState.afterKeyFrame frame.written := by
  have hsegmentation : (frame.header.updateSegmentation.map .ofHeader :
      Option (Segmentation width height)) = none := by
    rw [h.unsegmented]
    rfl
  have hwritten : DecoderState.withWrites
      (frame.header.updateSegmentation.map .ofHeader :
        Option (Segmentation width height)) frame.written.macroblocks =
      frame.header.updateSegmentation.map .ofHeader := by
    rw [hsegmentation]
    rfl
  unfold DecoderState.afterKeyFrame
  dsimp only [KeyFrame.written, Frame.written] at hwritten ⊢
  rw [hwritten]
  rfl

theorem updateDecoderStateInter_written {state : DecoderState width height}
    (hstate : state.segmentation = none) {frame : InterFrame}
    (h : InterFrame.Sendable width height frame) :
    state.updateDecoderStateInter frame =
      state.afterInterFrame frame.written := by
  have hsegmentation : DecoderState.updateSegmentationHeader state.segmentation
      frame.header = none := by
    rw [DecoderState.updateSegmentationHeader, h.unsegmented]
  have hwritten : DecoderState.withWrites
      (DecoderState.updateSegmentationHeader state.segmentation frame.header)
        frame.written.macroblocks = state.segmentation := by
    rw [hsegmentation, hstate]
    rfl
  unfold DecoderState.afterInterFrame
  dsimp only [InterFrame.written, Frame.written] at hwritten ⊢
  rw [hwritten]
  rfl

/-- A decoder that has parsed what is written of a frame goes on to the raster
of the encoder. -/
theorem Wrote.decodeFrame {FrameHeader MacroblockHeader : Type}
    [WritableFrame FrameHeader MacroblockHeader]
    {encoder next : SampleEncoder width height}
    {recycled : RecycledRasters width height}
    {frame written : Frame FrameHeader MacroblockHeader} {bytes : Chunk}
    {raster : VP8Raster width height}
    (h : Wrote encoder recycled frame bytes next raster)
    {decoder : SampleDecoder width height} {other : VP8Raster width height}
    (hstate : decoder.state = next.decoderState)
    (hshow : written.showFrame = frame.showFrame)
    (hheader : written.header = frame.header)
    (hdecode : DecodedFrame.decodeInto next.decoderState.segmentation
        decoder.references written other =
      DecodedFrame.decodeInto next.decoderState.segmentation
        (WritableFrame.updateReferences frame.header recycled.references
          encoder.references) frame recycled.decoded)
    (hfilter : ∀ decoded : VP8Raster width height,
      written.filterIn next.decoderState.segmentation
        next.decoderState.filterAdjustments decoded =
      frame.filterIn next.decoderState.segmentation
        next.decoderState.filterAdjustments decoded)
    (hcopy : DecodedFrame.copyTo frame.header raster decoder.references =
      next.references) :
    decoder.decodeFrame other written = .ok ((frame.showFrame, raster),
      { decoder with references := next.references }) := by
  obtain ⟨decoded, hdecoded, hraster⟩ := bind_eq_ok h.decoded
  rw [SampleDecoder.decodeFrame, hstate, hdecode, hdecoded, ok_bind, hfilter,
    hraster, ok_bind, hshow, hheader, hcopy]
  rfl

/-- A key frame is decoded to what the encoder goes on from, whatever the
decoder has received before. -/
theorem writeFrame_key_mirrored {encoder next : SampleEncoder width height}
    {recycled : RecycledRasters width height} {frame : KeyFrame} {bytes : Chunk}
    (hframe : KeyFrame.Sendable width height frame)
    (hshort : bytes.length < 2 ^ 19)
    (h : encoder.writeFrame recycled frame = .ok (bytes, next))
    (decoder : SampleDecoder width height) (other : VP8Raster width height) :
    ∃ raster mirrored,
      decoder.getFrameOutput other bytes =
          .ok ((frame.showFrame, raster), mirrored) ∧
        Mirrors mirrored next ∧ raster = next.references.last := by
  obtain ⟨raster, hwrote⟩ := wrote_of_writeFrame h
  have hstate : next.decoderState =
      DecoderState.afterKeyFrame frame.written :=
    hwrote.decoderState.trans (updateDecoderStateKey_written hframe)
  have hserialized : frame.written.serialize {} = .ok bytes := by
    rw [KeyFrame.serialize_written
      (links_of_assembled hframe.wellFormed.toAssembled),
      ← KeyFrame.writeFrame_aliased encoder.decoderState frame]
    exact hwrote.serialized
  obtain ⟨hwidth, hheight⟩ := display_pos raster
  have hwellFormed : KeyFrame.WellFormed
      (frame.written.header.updateSegmentation.map .ofHeader :
        Option (Segmentation width height)) frame.written := by
    have hsegmentation : frame.written.header.updateSegmentation = none :=
      hframe.unsegmented
    rw [hsegmentation]
    exact hframe.wellFormed
  obtain ⟨chunk, hchunk, -, hparse⟩ := hwellFormed.reparses hwidth hheight
    hserialized hshort decoder.errorConcealment
  have hkey : chunk.keyFrame = true :=
    (DecoderState.parseAndApplyKey_eq_ok_iff.mp hparse).1
  have hcomplete := DecoderState.parseAndApplyKey_complete hparse
  have hunsegmented : next.decoderState.segmentation = none := by
    rw [hwrote.decoderState]
    exact congrArg (Option.map Segmentation.ofHeader) hframe.unsegmented
  refine ⟨raster, { decoder with
    state := next.decoderState, references := next.references }, ?_,
    ⟨rfl, rfl, hunsegmented⟩, by rw [hwrote.references]; rfl⟩
  rw [SampleDecoder.getFrameOutput, hchunk, ok_bind, if_pos hkey, hparse,
    ok_bind, ← hstate]
  refine hwrote.decodeFrame rfl rfl rfl ?_
    (fun decoded => Frame.filterIn_written _ _ _ frame decoded)
    hwrote.references.symm
  rw [hstate]
  exact (KeyFrame.decodeInto_eq hcomplete.placed hcomplete.holds other
    recycled.decoded).trans (KeyFrame.decodeInto_written _ frame recycled.decoded)

/-- An inter frame is decoded to what the encoder goes on from by a decoder that
was where the encoder was. -/
theorem writeFrame_inter_mirrored {encoder next : SampleEncoder width height}
    {recycled : RecycledRasters width height} {frame : InterFrame}
    {bytes : Chunk} (hframe : InterFrame.Sendable width height frame)
    (hshort : bytes.length < 2 ^ 19)
    (h : encoder.writeFrame recycled frame = .ok (bytes, next))
    {decoder : SampleDecoder width height} (hmirrors : Mirrors decoder encoder)
    (other : VP8Raster width height) :
    ∃ raster mirrored,
      decoder.getFrameOutput other bytes =
          .ok ((frame.showFrame, raster), mirrored) ∧
        Mirrors mirrored next ∧
          (frame.header.refreshLast → raster = next.references.last) := by
  obtain ⟨raster, hwrote⟩ := wrote_of_writeFrame h
  have hunsegmented := hmirrors.unsegmented
  have hstate : next.decoderState =
      encoder.decoderState.afterInterFrame frame.written :=
    hwrote.decoderState.trans
      (updateDecoderStateInter_written hunsegmented hframe)
  have hserialized :
      frame.written.serialize encoder.decoderState.probabilityTables =
        .ok bytes := by
    rw [InterFrame.serialize_written hframe.notSplit
      (links_of_assembled hframe.wellFormed.toAssembled),
      ← InterFrame.writeFrame_aliased encoder.decoderState frame]
    exact hwrote.serialized
  obtain ⟨hwidth, hheight⟩ := display_pos raster
  have hwellFormed : InterFrame.WellFormed
      (DecoderState.updateSegmentationHeader encoder.decoderState.segmentation
        frame.written.header) frame.written := by
    have hsegmentation : frame.written.header.updateSegmentation = none :=
      hframe.unsegmented
    rw [DecoderState.updateSegmentationHeader, hsegmentation]
    exact hframe.wellFormed
  obtain ⟨chunk, hchunk, hsupported, hparse⟩ := hwellFormed.reparses hwidth
    hheight hserialized hshort decoder.errorConcealment
  have hinter : ¬ chunk.keyFrame = true := by
    rw [(DecoderState.parseAndApplyInter_eq_ok_iff.mp hparse).1]
    exact Bool.false_ne_true
  have hcomplete := DecoderState.parseAndApplyInter_complete
    (fun _ hsome => by rw [hunsegmented] at hsome; cases hsome) hparse
  have hnextUnsegmented : next.decoderState.segmentation = none := by
    rw [hwrote.decoderState]
    exact hunsegmented
  have hlast : frame.header.refreshLast → raster = next.references.last := by
    intro hrefresh
    rw [hwrote.references]
    exact (if_pos hrefresh).symm
  refine ⟨raster, { decoder with
    state := next.decoderState, references := next.references }, ?_,
    ⟨rfl, rfl, hnextUnsegmented⟩, hlast⟩
  rw [SampleDecoder.getFrameOutput, hchunk, ok_bind, if_neg hinter, hsupported,
    hmirrors.state, hparse]
  simp only [Bool.not_false, if_true, ok_bind]
  rw [← hstate]
  refine hwrote.decodeFrame rfl rfl rfl ?_
    (fun decoded => Frame.filterIn_written _ _ _ frame decoded) ?_
  · rw [hmirrors.references, hstate]
    exact (InterFrame.decodeInto_eq hcomplete.placed hcomplete.holds
      encoder.references other recycled.decoded).trans
        (InterFrame.decodeInto_written _ _ frame recycled.decoded)
  · rw [hmirrors.references]
    exact hwrote.references.symm

end SampleEncoder

end Salsify.Encoder
