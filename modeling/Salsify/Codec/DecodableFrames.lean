import Salsify.Codec.WrittenFrames

namespace Salsify.Codec

open Salsify.Net (Chunk Failure)
open InterFrameMacroblock (interCoded HeaderFits InterFits SplitFits ModesFit
  Reconstructible)
open Fallible (ok_bind bind_eq_ok forM_ok exists_of_outcome_ok)

/-! Well-formed frames are decoded and filtered, whatever the references and the
rasters hold. -/

theorem Macroblock.IntraFits.reconstructIntra {Header : Type}
    {mb : Macroblock Header} (h : mb.IntraFits) :
    mb.reconstructIntra = .ok () := by
  have huv : mb.uvPredictionMode.intraPredict = .ok () := by
    have hwhole := h.uvMode
    unfold uvPredictionMode
    cases hmode : (mb.U 0 0).predictionMode with
    | dcPred | vPred | hPred | tmPred => rfl
    | _ =>
        rw [hmode] at hwhole
        cases hwhole
  unfold Macroblock.reconstructIntra
  rw [huv, ok_bind, ok_bind]
  split
  · refine forM_ok _ fun place _ => ?_
    have hintra : ((mb.Y place.1 place.2).predictionMode).isIntra = true :=
      (h.modes place.1 place.2).1
    change ((mb.Y place.1 place.2).predictionMode).intraPredict = .ok ()
    cases hmode : (mb.Y place.1 place.2).predictionMode with
    | new4x4 | zero4x4 | above4x4 | left4x4 =>
        rw [hmode] at hintra
        cases hintra
    | _ => rfl
  · next hbPred =>
    have hintra := h.mode
    cases hmode : mb.Y2.predictionMode with
    | dcPred | vPred | hPred | tmPred => rfl
    | bPred => exact absurd hmode hbPred
    | _ =>
        rw [hmode] at hintra
        cases hintra

theorem Macroblock.IntraFits.y2Coded {Header : Type} {mb : Macroblock Header}
    (h : mb.IntraFits) : mb.Y2Coded := by
  intro hbPred hsplit
  exact (congrArg (fun bare => bare.Y2.coded) h.bare).trans
    (congrArg Block.coded (if_neg (not_or.mpr ⟨hbPred, hsplit⟩)))

namespace InterFrameMacroblock

theorem InterFits.reconstructible {context : Context InterFrameMacroblock}
    {mb : InterFrameMacroblock} (h : InterFits context mb) :
    Reconstructible mb where
  coded _ _ := by
    have hcoded := congrArg (fun bare => bare.Y2.coded) h.bare
    rw [withInterMode_eq _ h.vector.cases.2.2] at hcoded
    exact hcoded
  whole _ := h.vector.cases.2.1

theorem SplitFits.reconstructible {context : Context InterFrameMacroblock}
    {mb : InterFrameMacroblock} (h : SplitFits context mb) :
    Reconstructible mb where
  coded _ hsplit := absurd h.mode hsplit
  whole _ hbPred := by
    rw [h.mode] at hbPred
    cases hbPred

theorem HeaderFits.reconstructInter {frameHeader : InterFrameHeader}
    {mb : InterFrameMacroblock} (h : HeaderFits frameHeader mb.header)
    (hinter : interCoded mb = true) : reconstructInter mb = .ok () := by
  have hsel1 := h.mbRefFrameSel1
  have hsel2 := h.mbRefFrameSel2
  unfold InterFrameMacroblock.reconstructInter
    InterFrameMacroblockHeader.reference
  unfold interCoded at hinter
  rw [hinter] at hsel1 ⊢
  obtain ⟨golden, hgolden⟩ := Option.isSome_iff_exists.mp hsel1
  rw [hgolden] at hsel2 ⊢
  cases golden with
  | false => rfl
  | true =>
      obtain ⟨alternate, halternate⟩ := Option.isSome_iff_exists.mp hsel2
      rw [halternate]
      cases alternate <;> rfl

end InterFrameMacroblock

section Frames

variable {width height : Nat} {FrameHeader MacroblockHeader : Type}
  {segmentation : Option (Segmentation width height)}
  {frame : Frame FrameHeader MacroblockHeader}

theorem Frame.filterIn_ok [LoopFiltered FrameHeader MacroblockHeader]
    (hplaced : Placed width height segmentation frame.macroblocks)
    (hreference : ∀ mb ∈ frame.macroblocks,
      (LoopFiltered.reference FrameHeader mb.header).isSome)
    (hnormal : LoopFiltered.filterType frame.header = false)
    (filterAdjustments : Option FilterAdjustments)
    (decoded : VP8Raster width height) :
    ∃ raster, frame.filterIn segmentation filterAdjustments decoded =
      .ok raster := by
  refine exists_of_outcome_ok
    ((Frame.filterIn_outcome hplaced hreference decoded).trans ?_)
  unfold Frame.loopfilter
  split
  · refine forM_ok _ fun mb _ => ?_
    unfold Macroblock.loopfilter
    rw [hnormal]
    split <;> rfl
  · rfl

/-- The frame is decoded and filtered, into whatever raster. -/
def Frame.Decodes [DecodedFrame FrameHeader MacroblockHeader]
    (segmentation : Option (Segmentation width height))
    (references : RasterReferences width height)
    (frame : Frame FrameHeader MacroblockHeader) : Prop :=
  ∀ (filterAdjustments : Option FilterAdjustments)
    (recycled : VP8Raster width height), ∃ raster,
    (do
      let decoded ← DecodedFrame.decodeInto segmentation references frame
        recycled
      frame.filterIn segmentation filterAdjustments decoded) = .ok raster

theorem KeyFrame.WellFormed.decodes {frame : KeyFrame}
    (h : frame.WellFormed (none : Option (Segmentation width height)))
    (references : RasterReferences width height) :
    Frame.Decodes (none : Option (Segmentation width height)) references
      frame := by
  intro filterAdjustments recycled
  have hplaced : Placed width height (none : Option (Segmentation width height))
      frame.macroblocks := ⟨h.places, fun hsome => by cases hsome⟩
  have hdecode : frame.decode = .ok () :=
    forM_ok _ fun mb hmb => (h.modes mb hmb).reconstructIntra
  obtain ⟨decoded, hdecoded⟩ := exists_of_outcome_ok
    (((KeyFrame.decodeInto_footprint hplaced fun mb hmb =>
      (h.modes mb hmb).y2Coded).outcome_eq recycled).trans hdecode)
  obtain ⟨raster, hraster⟩ := Frame.filterIn_ok hplaced (fun _ _ => rfl)
    h.header.filterType filterAdjustments decoded
  refine ⟨raster, ?_⟩
  change (KeyFrame.decodeInto _ frame recycled >>= _) = _
  rw [hdecoded, ok_bind, hraster]

theorem InterFrame.WellFormed.decodes {frame : InterFrame}
    (h : frame.WellFormed (none : Option (Segmentation width height)))
    (references : RasterReferences width height) :
    Frame.Decodes (none : Option (Segmentation width height)) references
      frame := by
  intro filterAdjustments recycled
  have hplaced : Placed width height (none : Option (Segmentation width height))
      frame.macroblocks := ⟨h.places, fun hsome => by cases hsome⟩
  have hmodes : ∀ mb ∈ frame.macroblocks,
      InterFrameMacroblock.reconstruct mb = .ok () ∧ Reconstructible mb := by
    intro mb hmb
    obtain ⟨front, rest, hall⟩ := List.append_of_mem hmb
    have hfits := h.modes front mb rest hall
    unfold ModesFit at hfits
    unfold InterFrameMacroblock.reconstruct
    split at hfits
    · next hinter =>
      rw [if_pos hinter]
      exact ⟨(h.headers mb hmb).reconstructInter hinter,
        hfits.elim InterFits.reconstructible SplitFits.reconstructible⟩
    · next hintra =>
      rw [if_neg hintra]
      exact ⟨hfits.reconstructIntra, hfits.y2Coded,
        fun hinter => absurd hinter hintra⟩
  have hdecode : frame.decode = .ok () :=
    forM_ok _ fun mb hmb => (hmodes mb hmb).1
  obtain ⟨decoded, hdecoded⟩ := exists_of_outcome_ok
    (((InterFrame.decodeInto_footprint hplaced (fun mb hmb =>
      (hmodes mb hmb).2) references).outcome_eq recycled).trans hdecode)
  obtain ⟨raster, hraster⟩ := Frame.filterIn_ok hplaced
    (InterFrame.reference_of_decode hdecode) h.header.filterType
    filterAdjustments decoded
  refine ⟨raster, ?_⟩
  change (InterFrame.decodeInto _ references frame recycled >>= _) = _
  rw [hdecoded, ok_bind, hraster]

end Frames

theorem lengths_of_makeFrame {keyFrame showFrame experimental referenceUpdate :
      Bool} {width height : Nat} {firstPartition : Chunk}
    {dctPartitions : List Chunk} {bytes : Chunk}
    (h : makeFrame keyFrame showFrame experimental referenceUpdate width height
      firstPartition dctPartitions = .ok bytes) :
    (width ≤ 16383 ∧ height ≤ 16383) ∧
      firstPartition.length ≤ bytes.length ∧
      ∀ partition ∈ dctPartitions, partition.length ≤ bytes.length := by
  obtain ⟨_, hsize, h⟩ := bind_eq_ok h
  obtain ⟨_, -, h⟩ := bind_eq_ok h
  cases h
  refine ⟨of_decide_eq_true (Net.require_eq_ok.mp hsize), ?_, ?_⟩
  · simp only [List.length_append]
    omega
  · intro partition hpartition
    have hle := (List.sublist_flatten_of_mem hpartition).length_le
    simp only [List.length_append]
    omega

section Serialize

variable {width height : Nat} {FrameHeader MacroblockHeader : Type}
  [HeaderType FrameHeader MacroblockHeader]
  [HeaderWriter FrameHeader MacroblockHeader]
  {frame : Frame FrameHeader MacroblockHeader} {tables : ProbabilityTables}
  {keyFrame : Bool} {bytes : Chunk}

theorem fits_of_serialize
    (h : (do
      let firstPartition ← frame.serializeFirstPartition tables
      let dctPartitions ← frame.serializeTokens tables
      makeFrame keyFrame frame.showFrame false false frame.displayWidth
        frame.displayHeight firstPartition dctPartitions) = .ok bytes)
    (hshort : bytes.length < 2 ^ 19) :
    (frame.displayWidth ≤ 16383 ∧ frame.displayHeight ≤ 16383) ∧
      frame.FitsFields tables := by
  obtain ⟨first, hfirst, h⟩ := bind_eq_ok h
  obtain ⟨dctPartitions, htokens, h⟩ := bind_eq_ok h
  obtain ⟨hsize, hfirstLength, hlengths⟩ := lengths_of_makeFrame h
  refine ⟨hsize, fun otherFirst otherPartitions hotherFirst hother => ?_⟩
  obtain rfl : otherFirst = first :=
    Except.ok.inj (hotherFirst.symm.trans hfirst)
  obtain rfl : otherPartitions = dctPartitions :=
    Except.ok.inj (hother.symm.trans htokens)
  refine ⟨by omega, fun partition hpartition => ?_⟩
  have hlength := hlengths partition (List.dropLast_subset _ hpartition)
  omega

theorem makeFrame_ok_iff {keyFrame showFrame : Bool} {firstPartition : Chunk}
    {dctPartitions : List Chunk} (hne : dctPartitions ≠ []) :
    (∃ bytes, makeFrame keyFrame showFrame false false width height
      firstPartition dctPartitions = .ok bytes) ↔
        width ≤ 16383 ∧ height ≤ 16383 := by
  constructor
  · rintro ⟨bytes, h⟩
    exact (lengths_of_makeFrame h).1
  · rintro ⟨hwidth, hheight⟩
    exact ⟨_, makeFrame_eq keyFrame (by omega) (by omega) hne⟩

theorem serialize_ok_iff {segmentation : Option (Segmentation width height)}
    (hfits : frame.Fits tables segmentation)
    (hwrites : WritesBack FrameHeader false (fun _ => True))
    (hkeeps : KeepsPlace FrameHeader) (hignores : IgnoresTokens FrameHeader)
    (hwidth : 0 < width) (hheight : 0 < height) :
    (∃ bytes, (do
      let firstPartition ← frame.serializeFirstPartition tables
      let dctPartitions ← frame.serializeTokens tables
      makeFrame keyFrame frame.showFrame false false frame.displayWidth
        frame.displayHeight firstPartition dctPartitions) = .ok bytes) ↔
          width ≤ 16383 ∧ height ≤ 16383 := by
  have hstart : ({ segmentation } : DecoderState width height).segmentation =
      segmentation := rfl
  obtain ⟨first, dctPartitions, hfirst, htokens, ⟨last, hlast, -⟩, -⟩ :=
    hfits.rereads hwrites hkeeps hignores hwidth hheight hstart
  rw [hfirst, ok_bind, htokens, ok_bind, hfits.displayWidth,
    hfits.displayHeight]
  refine makeFrame_ok_iff fun hnil => ?_
  rw [hnil] at hlast
  cases hlast

end Serialize

section RoundTrips

variable {width height : Nat}

open DecoderState (parseAndApplyKey afterKeyFrame updateSegmentationHeader)

theorem KeyFrame.WellFormed.reparses (hwidth : 0 < width) (hheight : 0 < height)
    {frame : KeyFrame} (h : frame.WellFormed
      (frame.header.updateSegmentation.map .ofHeader :
        Option (Segmentation width height))) {bytes : Chunk}
    (hbytes : frame.serialize {} = .ok bytes) (hshort : bytes.length < 2 ^ 19)
    (acceptPartial : Bool) :
    ∃ chunk, UncompressedChunk.parse bytes width height acceptPartial =
        .ok chunk ∧ chunk.experimental = false ∧
      parseAndApplyKey chunk =
        .ok (frame, (afterKeyFrame frame : DecoderState width height)) := by
  obtain ⟨hsize, hfits⟩ := fits_of_serialize hbytes hshort
  rw [h.displayWidth, h.displayHeight] at hsize
  obtain ⟨found, hfound, hchunks⟩ := DecoderState.keyFrame_rereads
    ⟨hwidth, hsize.1⟩ ⟨hheight, hsize.2⟩ h hfits fun _ _ hparse => hparse
  obtain rfl : bytes = found := Except.ok.inj (hbytes.symm.trans hfound)
  obtain ⟨chunk, hchunk, hparse⟩ := hchunks acceptPartial
  exact ⟨chunk, hchunk,
    (DecoderState.parseAndApplyKey_eq_ok_iff.mp hparse).2.1, hparse⟩

theorem InterFrame.WellFormed.reparses (hwidth : 0 < width)
    (hheight : 0 < height) {state : DecoderState width height}
    {frame : InterFrame} (h : frame.WellFormed
      (updateSegmentationHeader state.segmentation frame.header))
    {bytes : Chunk}
    (hbytes : frame.serialize state.probabilityTables = .ok bytes)
    (hshort : bytes.length < 2 ^ 19) (acceptPartial : Bool) :
    ∃ chunk, UncompressedChunk.parse bytes width height acceptPartial =
        .ok chunk ∧ chunk.experimental = false ∧
      state.parseAndApplyInter chunk =
        .ok (frame, state.afterInterFrame frame) := by
  obtain ⟨hsize, hfits⟩ := fits_of_serialize hbytes hshort
  rw [h.displayWidth, h.displayHeight] at hsize
  have hdecode (chunk : UncompressedChunk) (_ : chunk.keyFrame = false)
      (hsupported : chunk.experimental = false)
      (hparse : state.parseAndApplyInter chunk =
        .ok (frame, state.afterInterFrame frame)) :
      (do
        let parsed ← state.parseAndApplyInter chunk
        return (chunk.experimental, parsed)) =
          .ok (false, frame, state.afterInterFrame frame) := by
    rw [hparse, hsupported]
    rfl
  obtain ⟨found, hfound, hchunks⟩ := DecoderState.interFrame_rereads
    ⟨hwidth, hsize.1⟩ ⟨hheight, hsize.2⟩ state h hfits hdecode
  obtain rfl : bytes = found := Except.ok.inj (hbytes.symm.trans hfound)
  obtain ⟨chunk, hchunk, hparsed⟩ := hchunks acceptPartial
  obtain ⟨parsed, hparse, hresult⟩ := bind_eq_ok hparsed
  obtain ⟨hsupported, rfl⟩ := Prod.mk.inj (Except.ok.inj hresult)
  exact ⟨chunk, hchunk, hsupported, hparse⟩

theorem KeyFrame.WellFormed.serialize_ok_iff (hwidth : 0 < width)
    (hheight : 0 < height) {segmentation : Option (Segmentation width height)}
    {frame : KeyFrame} (h : frame.WellFormed segmentation) :
    (∃ bytes, frame.serialize {} = .ok bytes) ↔
      width ≤ 16383 ∧ height ≤ 16383 :=
  Codec.serialize_ok_iff (h.fits _) (writesBack_key _) keepsPlace_key
    ignoresTokens_key hwidth hheight

theorem InterFrame.WellFormed.serialize_ok_iff (hwidth : 0 < width)
    (hheight : 0 < height) {segmentation : Option (Segmentation width height)}
    {frame : InterFrame} (h : frame.WellFormed segmentation)
    (tables : ProbabilityTables) :
    (∃ bytes, frame.serialize tables = .ok bytes) ↔
      width ≤ 16383 ∧ height ≤ 16383 :=
  Codec.serialize_ok_iff (h.fits _) DecoderState.writesBack_plain
    keepsPlace_inter ignoresTokens_inter hwidth hheight

/-- Frames that go together are written for exactly the displays whose size can
be, and what is written is read as the same frame. -/
theorem wellFormed_roundTrips (hwidth : 0 < width) (hheight : 0 < height) :
    (∀ frame : KeyFrame, frame.WellFormed
        (frame.header.updateSegmentation.map .ofHeader :
          Option (Segmentation width height)) →
      ((∃ bytes, frame.serialize {} = .ok bytes) ↔
        width ≤ 16383 ∧ height ≤ 16383) ∧
      ∀ bytes, frame.serialize {} = .ok bytes → bytes.length < 2 ^ 19 →
        ∀ acceptPartial, ∃ chunk,
          UncompressedChunk.parse bytes width height acceptPartial =
            .ok chunk ∧ chunk.experimental = false ∧
          parseAndApplyKey chunk =
            .ok (frame, (afterKeyFrame frame : DecoderState width height))) ∧
    ∀ (state : DecoderState width height) (frame : InterFrame),
      frame.WellFormed
        (updateSegmentationHeader state.segmentation frame.header) →
      ((∃ bytes, frame.serialize state.probabilityTables = .ok bytes) ↔
        width ≤ 16383 ∧ height ≤ 16383) ∧
      ∀ bytes, frame.serialize state.probabilityTables = .ok bytes →
        bytes.length < 2 ^ 19 → ∀ acceptPartial, ∃ chunk,
          UncompressedChunk.parse bytes width height acceptPartial =
            .ok chunk ∧ chunk.experimental = false ∧
          state.parseAndApplyInter chunk =
            .ok (frame, state.afterInterFrame frame) :=
  ⟨fun _ h => ⟨h.serialize_ok_iff hwidth hheight,
      fun _ hbytes hshort => h.reparses hwidth hheight hbytes hshort⟩,
    fun _ _ h => ⟨h.serialize_ok_iff hwidth hheight _,
      fun _ hbytes hshort => h.reparses hwidth hheight hbytes hshort⟩⟩

end RoundTrips

def grayKeyFrame : KeyFrame where
  showFrame := true
  displayWidth := 16
  displayHeight := 16
  header :=
    { colorSpace := false, clampingType := false, updateSegmentation := none
      filterType := false, loopFilterLevel := 0, sharpnessLevel := 0
      modeLfAdjustments := none, log2NumberOfDctPartitions := 0
      quantIndices := ⟨10, none, none, none, none, none⟩
      refreshEntropyProbs := true, tokenProbUpdate := fun _ _ _ _ => none
      probSkipFalse := none }
  macroblocks :=
    [{ column := 0, row := 0, segmentIdUpdate := none, mbSkipCoeff := none
       header := {}
       Y2 :=
         { type := .y2, predictionMode := .dcPred, hasNonzero := true
           coefficients := fun place => if place = 0 then -5 else 0 }
       hasNonzero := true }]
  y2Links := [⟨none, none⟩]

theorem wellFormed_grayKeyFrame : KeyFrame.WellFormed
    (none : Option (Segmentation 16 16)) grayKeyFrame.written where
  displayWidth := rfl
  displayHeight := rfl
  places := by decide
  announced := by
    intro mb hmb
    rw [List.mem_singleton.mp hmb]
    exact ⟨rfl, nofun, rfl⟩
  tokens := by
    intro mb hmb
    rw [List.mem_singleton.mp hmb]
    exact ⟨⟨by decide, nofun, by decide⟩, by decide,
      fun _ _ => Block.tokensFit_of_zero rfl rfl,
      fun _ _ => Block.tokensFit_of_zero rfl rfl,
      fun _ _ => Block.tokensFit_of_zero rfl rfl, by decide, nofun⟩
  segments := rfl
  y2Links := by decide
  header := ⟨rfl, rfl, nofun, rfl, by decide, by decide, nofun, by decide,
    ⟨by decide, nofun, nofun, nofun, nofun, nofun⟩⟩
  modes := by
    intro mb hmb
    rw [List.mem_singleton.mp hmb]
    exact Macroblock.Typed.intraFits
      ⟨rfl, rfl, fun _ _ => rfl, fun _ _ => rfl, fun _ _ => rfl⟩ rfl rfl
      (fun _ _ => ⟨rfl, fun _ => rfl⟩) rfl

def grayInterFrame : InterFrame where
  showFrame := true
  displayWidth := 16
  displayHeight := 16
  header :=
    { updateSegmentation := none, filterType := false, loopFilterLevel := 7
      sharpnessLevel := 0, modeLfAdjustments := none
      log2NumberOfDctPartitions := 0
      quantIndices := ⟨20, none, none, none, none, none⟩
      refreshGoldenFrame := false, refreshAlternateFrame := false
      copyBufferToGolden := some 0, copyBufferToAlternate := some 1
      signBiasGolden := false, signBiasAlternate := false
      refreshEntropyProbs := true, refreshLast := true
      tokenProbUpdate := fun _ _ _ _ => none, probSkipFalse := some 200
      probInter := 128, probReferencesLast := 255, probReferencesGolden := 128
      intra16x16Prob := some fun _ => 100, intraChromaProb := none
      mvProbUpdate := fun _ _ => none }
  macroblocks :=
    [{ column := 0, row := 0, segmentIdUpdate := none
       mbSkipCoeff := some false
       header :=
        { isInterMb := true, mbRefFrameSel1 := some false
          mbRefFrameSel2 := none, motionVectorsFlipped := false }
       Y2 :=
         { type := .y2, predictionMode := .zeroMv, hasNonzero := true
           coefficients := fun place => if place = 0 then 3 else 0 }
       hasNonzero := true }]
  y2Links := [⟨none, none⟩]

theorem copyBuffer_fits (value : UInt8) (h : value.toNat < 2 ^ 2) :
    ∀ source ∈ some value, source.toNat < 2 ^ 2 := by
  rintro source ⟨⟩
  exact h

theorem eq_of_singleton {α : Type} {value : α} {front rest : List α} {mb : α}
    (h : [value] = front ++ mb :: rest) :
    mb = value ∧ front = [] ∧ rest = [] := by
  rcases List.singleton_eq_append_iff.mp h with ⟨hfront, hrest⟩ | ⟨-, hnil⟩
  · obtain ⟨hmb, hrest⟩ := List.cons.inj hrest
    exact ⟨hmb, hfront, hrest⟩
  · cases hnil

theorem wellFormed_grayInterFrame : InterFrame.WellFormed
    (none : Option (Segmentation 16 16)) grayInterFrame.written where
  displayWidth := rfl
  displayHeight := rfl
  places := by decide
  announced := by
    intro mb hmb
    rw [List.mem_singleton.mp hmb]
    exact ⟨rfl, nofun, rfl⟩
  tokens := by
    intro mb hmb
    rw [List.mem_singleton.mp hmb]
    exact ⟨⟨by decide, nofun, by decide⟩, by decide,
      fun _ _ => Block.tokensFit_of_zero rfl rfl,
      fun _ _ => Block.tokensFit_of_zero rfl rfl,
      fun _ _ => Block.tokensFit_of_zero rfl rfl, by decide, nofun⟩
  segments := rfl
  y2Links := by decide
  header := ⟨nofun, rfl, by decide, by decide, nofun, by decide,
    ⟨by decide, nofun, nofun, nofun, nofun, nofun⟩, rfl,
    copyBuffer_fits 0 (by decide), rfl, copyBuffer_fits 1 (by decide), nofun⟩
  headers := by
    intro mb hmb
    rw [List.mem_singleton.mp hmb]
    exact ⟨rfl, rfl, rfl⟩
  partitionId := by
    intro mb hmb _
    rw [List.mem_singleton.mp hmb]
    rfl
  modes := by
    intro front mb rest hall
    obtain ⟨rfl, rfl, rfl⟩ := eq_of_singleton hall
    exact .inl (Macroblock.Typed.interFits
      ⟨rfl, rfl, fun _ _ => rfl, fun _ _ => rfl, fun _ _ => rfl⟩ rfl
      ⟨fun _ _ => rfl, fun _ _ => rfl⟩ rfl)

/-- The first quarter has a vector of its own, those beside and across from it
have it from their neighbours, and the one below none. -/
def splitMacroblock : InterFrameMacroblock :=
  InterFrameMacroblock.setMotionVectors
    { column := 0, row := 0, segmentIdUpdate := none
      mbSkipCoeff := some false
      header :=
        { isInterMb := true, mbRefFrameSel1 := some true
          mbRefFrameSel2 := some false, motionVectorsFlipped := false
          partitionId := some 2 }
      Y2 := { type := .y2, predictionMode := .splitMv, coded := false }
      Y := fun column row =>
        { type := .yWithoutY2
          predictionMode :=
            if row < 2 then if column < 2 then .new4x4 else .left4x4
            else if column < 2 then .zero4x4 else .above4x4
          motionVector :=
            if 2 ≤ row ∧ column < 2 then {} else { y := 6, x := -4 }
          hasNonzero := decide (column = 0 ∧ row = 0)
          coefficients := fun place =>
            if column = 0 ∧ row = 0 ∧ place = 3 then -7 else 0 }
      hasNonzero := true }

def splitInterFrame : InterFrame :=
  { grayInterFrame with macroblocks := [splitMacroblock] }

theorem tokensFit_splitMacroblock (column row : Fin 4) :
    (splitMacroblock.Y column row).TokensFit where
  bound place := by
    change Int.natAbs (if column = 0 ∧ row = 0 ∧ place = 3 then -7 else 0) ≤ _
    split <;> decide
  first := nofun
  hasNonzero := by
    refine decide_eq_decide.mpr ⟨fun hfirst => ⟨3, ?_⟩, ?_⟩
    · exact (if_pos ⟨hfirst.1, hfirst.2, rfl⟩).trans_ne (by decide)
    · rintro ⟨place, hplace⟩
      by_contra hother
      exact hplace (if_neg fun h => hother ⟨h.1, h.2.1⟩)

theorem splits_splitMacroblock (context : Context InterFrameMacroblock)
    (hleft : context.left = none) (habove : context.above = none) :
    InterFrameMacroblock.Splits context {}
      [[(0, 0), (1, 0), (0, 1), (1, 1)], [(2, 0), (3, 0), (2, 1), (3, 1)],
        [(0, 2), (1, 2), (0, 3), (1, 3)], [(2, 2), (3, 2), (2, 3), (3, 3)]]
      splitMacroblock.Y := by
  intro column row others hmem
  rw [hleft, habove]
  simp only [List.mem_cons, List.not_mem_nil, or_false, List.cons.injEq,
    Prod.mk.injEq] at hmem
  rcases hmem with ⟨⟨rfl, rfl⟩, rfl⟩ | ⟨⟨rfl, rfl⟩, rfl⟩ | ⟨⟨rfl, rfl⟩, rfl⟩ |
    ⟨⟨rfl, rfl⟩, rfl⟩
  · exact ⟨⟨{ y := 6, x := -4 }, fun _ => MotionVector.parse_reaches _
      (by decide) (by decide), rfl⟩, by decide⟩
  · exact ⟨rfl, by decide⟩
  · exact ⟨rfl, by decide⟩
  · exact ⟨rfl, by decide⟩

theorem wellFormed_splitInterFrame : InterFrame.WellFormed
    (none : Option (Segmentation 16 16)) splitInterFrame where
  displayWidth := rfl
  displayHeight := rfl
  places := by decide
  announced := by
    intro mb hmb
    rw [List.mem_singleton.mp hmb]
    exact ⟨rfl, nofun, rfl⟩
  tokens := by
    intro mb hmb
    rw [List.mem_singleton.mp hmb]
    exact ⟨Block.tokensFit_of_zero rfl rfl, fun _ => rfl,
      tokensFit_splitMacroblock,
      fun _ _ => Block.tokensFit_of_zero rfl rfl,
      fun _ _ => Block.tokensFit_of_zero rfl rfl, by decide +kernel, nofun⟩
  segments := rfl
  y2Links := by decide
  header := wellFormed_grayInterFrame.header
  headers := by
    intro mb hmb
    rw [List.mem_singleton.mp hmb]
    exact ⟨rfl, rfl, rfl⟩
  partitionId := by
    intro mb hmb hwhole
    rw [List.mem_singleton.mp hmb] at hwhole
    exact absurd rfl (hwhole rfl)
  modes := by
    intro front mb rest hall
    obtain ⟨rfl, rfl, rfl⟩ := eq_of_singleton hall
    let context : Context InterFrameMacroblock :=
      contextAt (macroblockDimension 16) (macroblockDimension 16) [] (0, 0)
    have hbest : Scorer.clamp (InterFrameMacroblock.motionVectorCensus context
        false).best context = {} := by decide +kernel
    have hsplits := splits_splitMacroblock context rfl rfl
    rw [← hbest] at hsplits
    exact .inr ⟨rfl, ⟨2, _, rfl, rfl, hsplits⟩, rfl⟩

/-- In a fresh decoder, each inter frame alone. -/
theorem wellFormed_roundTrips_gray : (∃ bytes,
    grayKeyFrame.written.serialize {} = .ok bytes ∧
      (bytes.length < 2 ^ 19 → ∃ chunk,
        UncompressedChunk.parse bytes 16 16 true = .ok chunk ∧
        chunk.experimental = false ∧
        DecoderState.parseAndApplyKey chunk = .ok (grayKeyFrame.written,
          (DecoderState.afterKeyFrame grayKeyFrame.written :
            DecoderState 16 16)))) ∧
    ∀ frame ∈ [grayInterFrame.written, splitInterFrame],
      ∃ bytes, frame.serialize {} = .ok bytes ∧
        (bytes.length < 2 ^ 19 → ∃ chunk,
          UncompressedChunk.parse bytes 16 16 true = .ok chunk ∧
          chunk.experimental = false ∧
          ({} : DecoderState 16 16).parseAndApplyInter chunk =
            .ok (frame, DecoderState.afterInterFrame {} frame)) := by
  obtain ⟨hkey, hinter⟩ := @wellFormed_roundTrips 16 16 (by decide) (by decide)
  obtain ⟨hwritten, hread⟩ := hkey grayKeyFrame.written
    wellFormed_grayKeyFrame
  have hwellFormed : ∀ frame ∈ [grayInterFrame.written, splitInterFrame],
      InterFrame.WellFormed (none : Option (Segmentation 16 16)) frame := by
    intro frame hframe
    rcases List.mem_cons.mp hframe with rfl | hframe
    · exact wellFormed_grayInterFrame
    · rw [List.mem_singleton.mp hframe]
      exact wellFormed_splitInterFrame
  obtain ⟨bytes, hbytes⟩ := hwritten.mpr (by decide)
  refine ⟨⟨bytes, hbytes, fun hshort => hread bytes hbytes hshort true⟩,
    fun frame hframe => ?_⟩
  have hsegmentation : DecoderState.updateSegmentationHeader
      ({} : DecoderState 16 16).segmentation frame.header = none := by
    rcases List.mem_cons.mp hframe with rfl | hframe
    · rfl
    · rw [List.mem_singleton.mp hframe]
      rfl
  obtain ⟨hwrittenInter, hreadInter⟩ := hinter {} frame (by
    rw [hsegmentation]
    exact hwellFormed frame hframe)
  obtain ⟨others, hothers⟩ := hwrittenInter.mpr (by decide)
  exact ⟨others, hothers, fun hshort => hreadInter others hothers hshort true⟩

end Salsify.Codec
