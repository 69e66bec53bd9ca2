import Salsify.Codec.FilteredSamples
import Salsify.Codec.ParsedFrames

namespace Salsify.Codec

open Salsify.Net (Chunk Failure)
open Fallible (ok_bind bind_eq_ok)

/-! Decoding with the samples: `decode_frame` and `get_frame_output` of
`decoder/decoder.cc`. -/

section References

variable {α : Type}

/-- `KeyFrame::copy_to` -/
def KeyFrameHeader.copyTo (_ : KeyFrameHeader) (raster : α)
    (_ : FrameReferences α) : FrameReferences α where
  last := raster
  golden := raster
  alternative := raster

def InterFrameHeader.copyToAlternate (header : InterFrameHeader)
    (references : FrameReferences α) : FrameReferences α :=
  match header.copyBufferToAlternate with
  | none => references
  | some source =>
      if source = 1 then { references with alternative := references.last }
      else if source = 2 then
        { references with alternative := references.golden }
      else references

def InterFrameHeader.copyToGolden (header : InterFrameHeader)
    (references : FrameReferences α) : FrameReferences α :=
  match header.copyBufferToGolden with
  | none => references
  | some source =>
      if source = 1 then { references with golden := references.last }
      else if source = 2 then
        { references with golden := references.alternative }
      else references

/-- `InterFrame::copy_to`, in which golden may be a copy of what alternative has
just become. -/
def InterFrameHeader.copyTo (header : InterFrameHeader) (raster : α)
    (references : FrameReferences α) : FrameReferences α :=
  let copied := header.copyToGolden (header.copyToAlternate references)
  { last := if header.refreshLast then raster else copied.last
    golden := if header.refreshGoldenFrame then raster else copied.golden
    alternative :=
      if header.refreshAlternateFrame then raster else copied.alternative }

end References

/-- What `decode_frame` takes from the type of the frame. -/
class DecodedFrame (FrameHeader : Type) (MacroblockHeader : outParam Type)
    extends LoopFiltered FrameHeader MacroblockHeader where
  decodeInto {width height displayWidth displayHeight : Nat} :
    Option (Segmentation width height) →
    RasterReferences displayWidth displayHeight →
    Frame FrameHeader MacroblockHeader →
    VP8Raster displayWidth displayHeight →
    Except Failure (VP8Raster displayWidth displayHeight)
  copyTo {α : Type} : FrameHeader → α → FrameReferences α → FrameReferences α

instance : DecodedFrame KeyFrameHeader KeyFrameMacroblockHeader where
  decodeInto segmentation _ := KeyFrame.decodeInto segmentation
  copyTo := KeyFrameHeader.copyTo

instance : DecodedFrame InterFrameHeader InterFrameMacroblockHeader where
  decodeInto := InterFrame.decodeInto
  copyTo := InterFrameHeader.copyTo

/-- `Decoder`, with the samples of its references. -/
structure SampleDecoder (width height : Nat) where
  state : DecoderState width height
  references : RasterReferences width height
  errorConcealment : Bool

namespace SampleDecoder

variable {width height : Nat}

/-- Whether the frame is shown, its raster, and the decoder after it. -/
abbrev Output (width height : Nat) :=
  (Bool × VP8Raster width height) × SampleDecoder width height

/-- `decode_frame` into a raster that may be one used before. -/
def decodeFrame {FrameHeader MacroblockHeader : Type}
    [DecodedFrame FrameHeader MacroblockHeader]
    (decoder : SampleDecoder width height) (recycled : VP8Raster width height)
    (frame : Frame FrameHeader MacroblockHeader) :
    Except Failure (Output width height) := do
  let decoded ← DecodedFrame.decodeInto decoder.state.segmentation
    decoder.references frame recycled
  let raster ← frame.filterIn decoder.state.segmentation
    decoder.state.filterAdjustments decoded
  return ((frame.showFrame, raster), { decoder with
    references := DecodedFrame.copyTo frame.header raster decoder.references })

/-- `get_frame_output` -/
def getFrameOutput (decoder : SampleDecoder width height)
    (recycled : VP8Raster width height) (compressedFrame : Chunk) :
    Except Failure (Output width height) := do
  let decompressedFrame ← UncompressedChunk.parse compressedFrame width height
    decoder.errorConcealment
  if decompressedFrame.keyFrame then do
    let (frame, state) ← DecoderState.parseAndApplyKey decompressedFrame
    { decoder with state }.decodeFrame recycled frame
  else if !decompressedFrame.experimental then do
    let (frame, state) ← decoder.state.parseAndApplyInter decompressedFrame
    { decoder with state }.decodeFrame recycled frame
  else
    .error (.unsupported "experimental")

/-- `parse_and_decode_frame` -/
def parseAndDecodeFrame (decoder : SampleDecoder width height)
    (recycled : VP8Raster width height) (compressedFrame : Chunk) :
    Except Failure (Option (VP8Raster width height) ×
      SampleDecoder width height) := do
  let ((shown, raster), decoder) ← decoder.getFrameOutput recycled
    compressedFrame
  return (if shown then some raster else none, decoder)

/-- Frames one after another, each with the raster that it is given to be
decoded into. -/
def run (decoder : SampleDecoder width height) :
    List (VP8Raster width height × Chunk) →
    Except Failure
      (List (Bool × VP8Raster width height) × SampleDecoder width height)
  | [] => .ok ([], decoder)
  | (recycled, compressedFrame) :: rest => do
      let (output, next) ← decoder.getFrameOutput recycled compressedFrame
      let (outputs, last) ← next.run rest
      return (output :: outputs, last)

end SampleDecoder

section Failures

variable {FrameHeader MacroblockHeader : Type}
  [LoopFiltered FrameHeader MacroblockHeader]
  {width height displayWidth displayHeight : Nat}

def Frame.filterType (frame : Frame FrameHeader MacroblockHeader) :
    LoopFilterType :=
  if LoopFiltered.filterType frame.header then .simple else .normal

theorem Frame.parametersFor_level (frame : Frame FrameHeader MacroblockHeader)
    {segmentation : Option (Segmentation width height)}
    {mb : Macroblock MacroblockHeader}
    (hsegment : segmentation.isSome → mb.segmentId.toNat < 4) :
    ∃ parameters, frame.parametersFor segmentation mb = .ok parameters ∧
      parameters.type = frame.filterType ∧
      parameters.filterLevel = frame.baseLevel segmentation mb := by
  cases segmentation with
  | none => exact ⟨_, rfl, rfl, rfl⟩
  | some current =>
      have hindex : Fin.ofNat 4 mb.segmentId.toNat =
          ⟨mb.segmentId.toNat, hsegment rfl⟩ :=
        Fin.ext (Nat.mod_eq_of_lt (hsegment rfl))
      refine ⟨_, dif_pos (hsegment rfl), rfl, ?_⟩
      rw [Frame.baseLevel, hindex]
      rfl

theorem Macroblock.filterIn_outcome {mb : Macroblock MacroblockHeader}
    (hwithin : mb.Within displayWidth displayHeight)
    {filterAdjustments : Option FilterAdjustments}
    (hreference : filterAdjustments.isSome →
      (LoopFiltered.reference FrameHeader mb.header).isSome)
    (parameters : FilterParameters)
    (raster : VP8Raster displayWidth displayHeight) :
    Fallible.outcome (mb.filterIn FrameHeader filterAdjustments parameters
        raster) =
      Macroblock.loopfilter parameters.type (parameters.filterLevel +
        mb.levelDelta FrameHeader filterAdjustments) := by
  obtain ⟨inUse, hinUse, htype, hlevel⟩ :=
    Macroblock.parametersInUse_ok parameters hreference
  unfold Macroblock.filterIn Macroblock.filterInUse Macroblock.loopfilter
  rw [hinUse, ok_bind, ← hlevel, ← htype]
  by_cases hnone : inUse.filterLevel ≤ 0
  · rw [if_pos hnone, if_pos hnone]
    rfl
  · rw [if_neg hnone, if_neg hnone]
    cases hnormal : inUse.type with
    | normal =>
        obtain ⟨filter, hfilter, -⟩ := NormalLoopFilter.new_ok
          (LoopFiltered.keyFrame FrameHeader) hnormal
        dsimp only
        rw [hfilter, ok_bind]
        exact (NormalLoopFilter.filter_around hwithin filter _).outcome_eq raster
    | simple => rfl
    | noFilter => rfl

/-- The level that the macroblock at a place is filtered at. -/
def Frame.levelAt (frame : Frame FrameHeader MacroblockHeader)
    (segmentation : Option (Segmentation width height))
    (filterAdjustments : Option FilterAdjustments) (place : Nat × Nat) : Int :=
  (frame.macroblocks.find? fun mb => mb.place = place).elim 0 fun mb =>
    frame.baseLevel segmentation mb +
      mb.levelDelta FrameHeader filterAdjustments

theorem Frame.levelAt_place {frame : Frame FrameHeader MacroblockHeader}
    (hnodup : (frame.macroblocks.map Macroblock.place).Nodup)
    (segmentation : Option (Segmentation width height))
    (filterAdjustments : Option FilterAdjustments)
    {mb : Macroblock MacroblockHeader} (hmb : mb ∈ frame.macroblocks) :
    frame.levelAt segmentation filterAdjustments mb.place =
      frame.baseLevel segmentation mb +
        mb.levelDelta FrameHeader filterAdjustments := by
  have hfound : (frame.macroblocks.find? fun other => other.place = mb.place) =
      some mb := by
    cases hfind : frame.macroblocks.find? fun other => other.place = mb.place with
    | none =>
        have hnone := List.find?_eq_none.mp hfind mb hmb
        exact absurd (decide_eq_true rfl) hnone
    | some other =>
        have hplace : other.place = mb.place := by
          simpa using List.find?_some hfind
        exact congrArg some (List.inj_on_of_nodup_map hnodup
          (List.mem_of_find?_eq_some hfind) hmb hplace)
  rw [levelAt, hfound]
  rfl

theorem Frame.filterIn_outcome {frame : Frame FrameHeader MacroblockHeader}
    {segmentation : Option (Segmentation width height)}
    {filterAdjustments : Option FilterAdjustments}
    (hplaced : Placed displayWidth displayHeight segmentation frame.macroblocks)
    (hreference : ∀ mb ∈ frame.macroblocks,
      (LoopFiltered.reference FrameHeader mb.header).isSome)
    (raster : VP8Raster displayWidth displayHeight) :
    Fallible.outcome (frame.filterIn segmentation filterAdjustments raster) =
      frame.loopfilter (LoopFiltered.loopFilterLevel frame.header)
        (LoopFiltered.filterType frame.header)
        (frame.levelAt segmentation filterAdjustments) := by
  have hnodup : (frame.macroblocks.map Macroblock.place).Nodup := by
    rw [hplaced.places]
    exact Grid.places_nodup
  unfold Frame.filterIn Frame.loopfilter
  split
  · refine Fallible.outcome_foldlM (fun raster mb hmb => ?_) raster
    have hwithin : mb.Within displayWidth displayHeight := by
      have hplace := List.mem_map_of_mem (f := Macroblock.place) hmb
      rw [hplaced.places] at hplace
      exact Grid.mem_places.mp hplace
    obtain ⟨parameters, hparameters, htype, hlevel⟩ :=
      frame.parametersFor_level fun hsome => hplaced.segments hsome mb hmb
    have hplace := Frame.levelAt_place hnodup segmentation filterAdjustments hmb
    rw [hparameters, ok_bind,
      Macroblock.filterIn_outcome hwithin (fun _ => hreference mb hmb), htype,
      hlevel, ← hplace]
    rfl
  · rfl

end Failures

theorem InterFrame.reference_of_decode {frame : InterFrame}
    (h : frame.decode = .ok ()) :
    ∀ mb ∈ frame.macroblocks,
      (LoopFiltered.reference InterFrameHeader mb.header).isSome := by
  intro mb hmb
  have hmb := Fallible.ok_of_forM_eq_ok h mb hmb
  change (referenceOf mb.header.isInterMb mb.header.mbRefFrameSel1
    mb.header.mbRefFrameSel2).isSome
  unfold InterFrameMacroblock.reconstruct InterFrameMacroblock.interCoded
    InterFrameMacroblock.reconstructInter
    InterFrameMacroblockHeader.reference at hmb
  cases hinter : mb.header.isInterMb with
  | false => rfl
  | true =>
      rw [hinter, if_pos rfl] at hmb
      cases hreference : referenceOf true mb.header.mbRefFrameSel1
          mb.header.mbRefFrameSel2 with
      | none =>
          rw [hreference] at hmb
          cases hmb
      | some reference => rfl

namespace SampleDecoder

variable {width height : Nat} {FrameHeader MacroblockHeader : Type}

theorem decodeFrame_outcome [DecodedFrame FrameHeader MacroblockHeader]
    {decoder : SampleDecoder width height} {recycled : VP8Raster width height}
    {frame : Frame FrameHeader MacroblockHeader}
    {decode : Except Failure Unit}
    (hplaced : Placed width height decoder.state.segmentation frame.macroblocks)
    (hdecode : Fallible.outcome (DecodedFrame.decodeInto
      decoder.state.segmentation decoder.references frame recycled) = decode)
    (hreference : decode = .ok () → ∀ mb ∈ frame.macroblocks,
      (LoopFiltered.reference FrameHeader mb.header).isSome) :
    Fallible.outcome (decoder.decodeFrame recycled frame) =
      decode >>= fun _ => frame.loopfilter
        (LoopFiltered.loopFilterLevel frame.header)
        (LoopFiltered.filterType frame.header)
        (frame.levelAt decoder.state.segmentation
          decoder.state.filterAdjustments) := by
  cases decode with
  | error failure =>
      have hfailed := Fallible.error_of_outcome_error hdecode
      rw [decodeFrame, hfailed]
      rfl
  | ok _ =>
      obtain ⟨decoded, hdecoded⟩ := Fallible.exists_of_outcome_ok hdecode
      rw [decodeFrame, hdecoded, ok_bind, ok_bind,
        ← Frame.filterIn_outcome hplaced (hreference rfl) decoded]
      cases frame.filterIn decoder.state.segmentation
        decoder.state.filterAdjustments decoded <;> rfl

def Sound (decoder : SampleDecoder width height) : Prop :=
  decoder.state.SegmentsInRange

theorem decodeFrame_state [DecodedFrame FrameHeader MacroblockHeader]
    {decoder : SampleDecoder width height} {recycled : VP8Raster width height}
    {frame : Frame FrameHeader MacroblockHeader} {output : Output width height}
    (h : decoder.decodeFrame recycled frame = .ok output) :
    output.2.state = decoder.state ∧
      output.2.errorConcealment = decoder.errorConcealment := by
  obtain ⟨decoded, -, h⟩ := bind_eq_ok h
  obtain ⟨raster, -, h⟩ := bind_eq_ok h
  cases h
  exact ⟨rfl, rfl⟩

theorem decodeFrame_map_state [DecodedFrame FrameHeader MacroblockHeader]
    (decoder : SampleDecoder width height) (recycled : VP8Raster width height)
    (frame : Frame FrameHeader MacroblockHeader) :
    (decoder.decodeFrame recycled frame).map (fun output => output.2.state) =
      Fallible.outcome (decoder.decodeFrame recycled frame) >>= fun _ =>
        .ok decoder.state := by
  cases hframe : decoder.decodeFrame recycled frame with
  | error failure => rfl
  | ok output => exact congrArg Except.ok (decodeFrame_state hframe).1

theorem getFrameOutput_state {decoder : SampleDecoder width height}
    (hsound : decoder.Sound) (hconcealment : decoder.errorConcealment = true)
    (recycled : VP8Raster width height) (compressedFrame : Chunk) :
    ∃ levels, (decoder.getFrameOutput recycled compressedFrame).map
        (fun output => output.2.state) =
      decoder.state.getFrameOutput levels compressedFrame := by
  unfold getFrameOutput DecoderState.getFrameOutput
  rw [hconcealment]
  cases hchunk : UncompressedChunk.parse compressedFrame width height true with
  | error failure => exact ⟨fun _ => 0, rfl⟩
  | ok chunk =>
      simp only [ok_bind]
      split
      · cases hparse : (DecoderState.parseAndApplyKey chunk :
            Except Failure (KeyFrame × DecoderState width height)) with
        | error failure => exact ⟨fun _ => 0, rfl⟩
        | ok result =>
            obtain ⟨frame, after⟩ := result
            have hcomplete := DecoderState.parseAndApplyKey_complete hparse
            refine ⟨frame.levelAt after.segmentation after.filterAdjustments, ?_⟩
            simp only [ok_bind]
            rw [decodeFrame_map_state, decodeFrame_outcome hcomplete.placed
              ((KeyFrame.decodeInto_footprint hcomplete.placed
                hcomplete.holds).outcome_eq recycled)
              fun _ _ _ => rfl]
            rw [bind_assoc]
            rfl
      · split
        · cases hparse : decoder.state.parseAndApplyInter chunk with
          | error failure => exact ⟨fun _ => 0, rfl⟩
          | ok result =>
              obtain ⟨frame, after⟩ := result
              have hcomplete :=
                DecoderState.parseAndApplyInter_complete hsound hparse
              refine ⟨frame.levelAt after.segmentation
                after.filterAdjustments, ?_⟩
              simp only [ok_bind]
              rw [decodeFrame_map_state, decodeFrame_outcome hcomplete.placed
                ((InterFrame.decodeInto_footprint hcomplete.placed
                  hcomplete.holds decoder.references).outcome_eq recycled)
                InterFrame.reference_of_decode]
              rw [bind_assoc]
              rfl
        · exact ⟨fun _ => 0, rfl⟩

theorem getFrameOutput_recycled {decoder : SampleDecoder width height}
    (hsound : decoder.Sound) (recycled other : VP8Raster width height)
    (compressedFrame : Chunk) :
    decoder.getFrameOutput recycled compressedFrame =
      decoder.getFrameOutput other compressedFrame := by
  unfold getFrameOutput
  refine congrArg _ (funext fun chunk => ?_)
  split
  · cases hparse : (DecoderState.parseAndApplyKey chunk :
        Except Failure (KeyFrame × DecoderState width height)) with
    | error failure => rfl
    | ok result =>
        obtain ⟨frame, after⟩ := result
        have hcomplete := DecoderState.parseAndApplyKey_complete hparse
        have hsame := KeyFrame.decodeInto_eq hcomplete.placed hcomplete.holds
          recycled other
        simp only [ok_bind]
        unfold decodeFrame
        exact congrArg (· >>= _) hsame
  · split
    · cases hparse : decoder.state.parseAndApplyInter chunk with
      | error failure => rfl
      | ok result =>
          obtain ⟨frame, after⟩ := result
          have hcomplete :=
            DecoderState.parseAndApplyInter_complete hsound hparse
          have hsame := InterFrame.decodeInto_eq hcomplete.placed
            hcomplete.holds decoder.references recycled other
          simp only [ok_bind]
          unfold decodeFrame
          exact congrArg (· >>= _) hsame
    · rfl

theorem getFrameOutput_sound {decoder : SampleDecoder width height}
    (hsound : decoder.Sound) {recycled : VP8Raster width height}
    {compressedFrame : Chunk} {output : Output width height}
    (h : decoder.getFrameOutput recycled compressedFrame = .ok output) :
    output.2.Sound ∧
      output.2.errorConcealment = decoder.errorConcealment := by
  obtain ⟨chunk, -, h⟩ := bind_eq_ok h
  split at h
  · obtain ⟨⟨frame, after⟩, hparse, h⟩ := bind_eq_ok h
    obtain ⟨hstate, hconcealment⟩ := decodeFrame_state h
    refine ⟨?_, hconcealment⟩
    rw [Sound, hstate]
    exact (DecoderState.parseAndApplyKey_complete hparse).inRange
  · split at h
    · obtain ⟨⟨frame, after⟩, hparse, h⟩ := bind_eq_ok h
      obtain ⟨hstate, hconcealment⟩ := decodeFrame_state h
      refine ⟨?_, hconcealment⟩
      rw [Sound, hstate]
      exact (DecoderState.parseAndApplyInter_complete hsound hparse).inRange
    · cases h

end SampleDecoder

end Salsify.Codec
