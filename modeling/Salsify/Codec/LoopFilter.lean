import Salsify.Codec.Reconstruction

namespace Salsify.Codec

open Salsify.Net (Failure)
open Fallible (ok_bind)

/-! The filters of `decoder/loopfilter.cc` that `loopfilter` makes for the
macroblocks of a frame. -/

/-- The level is not clamped until the filter is made. -/
structure FilterParameters where
  type : LoopFilterType
  filterLevel : Int
  sharpnessLevel : UInt8

def clamp63 (input : Int) : Nat :=
  if 63 < input then 63 else if input < 0 then 0 else input.toNat

def ReferenceFrame.index : ReferenceFrame → Fin 4
  | .currentFrame => 0
  | .lastFrame => 1
  | .goldenFrame => 2
  | .altrefFrame => 3

def modeAdjustment (modeAdjustments : SafeArray Int8 4)
    (macroblockReferenceFrame : ReferenceFrame) (macroblockYMode : MbMode) :
    Int8 :=
  if macroblockReferenceFrame = .currentFrame then
    if macroblockYMode = .bPred then modeAdjustments 0 else 0
  else if macroblockYMode = .zeroMv then modeAdjustments 1
  else if macroblockYMode = .splitMv then modeAdjustments 3
  else modeAdjustments 2

namespace FilterParameters

def new (useSimpleFilter : Bool) (filterLevel sharpnessLevel : UInt8) :
    FilterParameters where
  type := if useSimpleFilter then .simple else .normal
  filterLevel := filterLevel.toNat
  sharpnessLevel

def adjust (parameters : FilterParameters)
    (refAdjustments modeAdjustments : SafeArray Int8 4)
    (macroblockReferenceFrame : ReferenceFrame) (macroblockYMode : MbMode) :
    FilterParameters :=
  { parameters with
    filterLevel := parameters.filterLevel +
      ((refAdjustments macroblockReferenceFrame.index).toInt +
        (modeAdjustment modeAdjustments macroblockReferenceFrame
          macroblockYMode).toInt) }

end FilterParameters

structure SimpleLoopFilter where
  filterLevel : Nat
  interiorLimit : UInt8
  macroblockLimit : UInt8
  subblockLimit : UInt8

def SimpleLoopFilter.new (params : FilterParameters) : SimpleLoopFilter :=
  let filterLevel := clamp63 params.filterLevel
  let sharpness : Int := params.sharpnessLevel.toNat
  let interiorLimit : Nat :=
    if params.sharpnessLevel = 0 then filterLevel
    else
      let shifted := filterLevel >>> (if 4 < sharpness then 2 else 1)
      if 9 - sharpness < shifted then (UInt8.ofInt (9 - sharpness)).toNat
      else shifted
  let interiorLimit := if interiorLimit < 1 then 1 else interiorLimit
  { filterLevel
    interiorLimit := UInt8.ofNat interiorLimit
    macroblockLimit := UInt8.ofNat ((filterLevel + 2) * 2 + interiorLimit)
    subblockLimit := UInt8.ofNat (filterLevel * 2 + interiorLimit) }

structure NormalLoopFilter where
  simple : SimpleLoopFilter
  hevThreshold : Nat

def NormalLoopFilter.new (keyFrame : Bool) (params : FilterParameters) :
    Except Failure NormalLoopFilter := do
  let simple := SimpleLoopFilter.new params
  Net.require (params.type = .normal)
    (.assertion "params.type == LoopFilterType::Normal")
  let threshold := if 15 ≤ simple.filterLevel then 1 else 0
  let threshold := if 40 ≤ simple.filterLevel then threshold + 1 else threshold
  let threshold :=
    if 20 ≤ simple.filterLevel ∧ !keyFrame then threshold + 1 else threshold
  return { simple, hevThreshold := threshold }

/-- What the filters ask of the headers. -/
class LoopFiltered (FrameHeader : Type) (MacroblockHeader : outParam Type) where
  keyFrame : Bool
  filterType : FrameHeader → Bool
  loopFilterLevel : FrameHeader → UInt8
  sharpnessLevel : FrameHeader → UInt8
  reference : MacroblockHeader → Option ReferenceFrame

instance : LoopFiltered KeyFrameHeader KeyFrameMacroblockHeader where
  keyFrame := true
  filterType := KeyFrameHeader.filterType
  loopFilterLevel := KeyFrameHeader.loopFilterLevel
  sharpnessLevel := KeyFrameHeader.sharpnessLevel
  reference _ := some .currentFrame

instance : LoopFiltered InterFrameHeader InterFrameMacroblockHeader where
  keyFrame := false
  filterType := InterFrameHeader.filterType
  loopFilterLevel := InterFrameHeader.loopFilterLevel
  sharpnessLevel := InterFrameHeader.sharpnessLevel
  reference := InterFrameMacroblockHeader.reference

section LoopFilter

variable {FrameHeader MacroblockHeader : Type} {width height : Nat}
variable [LoopFiltered FrameHeader MacroblockHeader]

/-- `loopfilter_in_use` -/
def Macroblock.parametersInUse (FrameHeader : Type)
    [LoopFiltered FrameHeader MacroblockHeader]
    (filterAdjustments : Option FilterAdjustments)
    (loopfilter : FilterParameters) (mb : Macroblock MacroblockHeader) :
    Except Failure FilterParameters :=
  match filterAdjustments with
  | none => .ok loopfilter
  | some adjustments =>
      match LoopFiltered.reference FrameHeader mb.header with
      | none => .error (.assertion "initialized()")
      | some reference => .ok (loopfilter.adjust
          adjustments.loopfilterRefAdjustments
          adjustments.loopfilterModeAdjustments reference
          mb.Y2.predictionMode)

/-- `loopfilter` of a macroblock up to the filter that runs on it, if one does,
and whether it leaves out the edges of subblocks. -/
def Macroblock.filterInUse (FrameHeader : Type)
    [LoopFiltered FrameHeader MacroblockHeader]
    (filterAdjustments : Option FilterAdjustments)
    (loopfilter : FilterParameters) (mb : Macroblock MacroblockHeader) :
    Except Failure (Option (NormalLoopFilter × Bool)) := do
  let skipSubblockEdges := mb.Y2.coded && !mb.hasNonzero
  let loopfilterInUse ← mb.parametersInUse FrameHeader filterAdjustments
    loopfilter
  if loopfilterInUse.filterLevel ≤ 0 then
    return none
  else
    match loopfilterInUse.type with
    | .normal => do
        let filter ← NormalLoopFilter.new
          (LoopFiltered.keyFrame FrameHeader) loopfilterInUse
        return some (filter, skipSubblockEdges)
    | .simple =>
        .error (.unsupported "VP8 'simple' in-loop deblocking filter")
    | .noFilter => .error .logicError

def Frame.frameLoopfilter (frame : Frame FrameHeader MacroblockHeader) :
    FilterParameters :=
  .new (LoopFiltered.filterType frame.header)
    (LoopFiltered.loopFilterLevel frame.header)
    (LoopFiltered.sharpnessLevel frame.header)

def Frame.segmentLoopfilters (frame : Frame FrameHeader MacroblockHeader)
    (segmentation : Segmentation width height) :
    SafeArray FilterParameters 4 := fun segment =>
  { frame.frameLoopfilter with
    filterLevel :=
      (segmentation.segmentFilterAdjustments segment).toInt +
        if segmentation.absoluteSegmentAdjustments then 0
        else frame.frameLoopfilter.filterLevel }

def Frame.parametersFor (frame : Frame FrameHeader MacroblockHeader)
    (segmentation : Option (Segmentation width height))
    (mb : Macroblock MacroblockHeader) : Except Failure FilterParameters :=
  match segmentation with
  | none => .ok frame.frameLoopfilter
  | some current =>
      if hsegment : mb.segmentId.toNat < 4 then
        .ok (frame.segmentLoopfilters current ⟨mb.segmentId.toNat, hsegment⟩)
      else
        .error (.assertion "index < size()")

/-- `loopfilter` of a frame up to the filters that run on its macroblocks. -/
def Frame.filtersInUse (frame : Frame FrameHeader MacroblockHeader)
    (segmentation : Option (Segmentation width height))
    (filterAdjustments : Option FilterAdjustments) :
    Except Failure (List (Option (NormalLoopFilter × Bool))) :=
  if LoopFiltered.loopFilterLevel frame.header ≠ 0 then
    frame.macroblocks.mapM fun mb => do
      let parameters ← frame.parametersFor segmentation mb
      mb.filterInUse FrameHeader filterAdjustments parameters
  else
    .ok (frame.macroblocks.map fun _ => none)

/-- The deltas of the format, by what the macroblock is predicted from. -/
def modeDelta (modeAdjustments : SafeArray Int8 4) :
    ReferenceFrame → MbMode → Int
  | .currentFrame, .bPred => (modeAdjustments 0).toInt
  | .currentFrame, _ => 0
  | _, .zeroMv => (modeAdjustments 1).toInt
  | _, .splitMv => (modeAdjustments 3).toInt
  | _, _ => (modeAdjustments 2).toInt

theorem modeAdjustment_toInt (modeAdjustments : SafeArray Int8 4)
    (reference : ReferenceFrame) (mode : MbMode) :
    (modeAdjustment modeAdjustments reference mode).toInt =
      modeDelta modeAdjustments reference mode := by
  cases reference <;> cases mode <;> rfl

def Frame.baseLevel (frame : Frame FrameHeader MacroblockHeader)
    (segmentation : Option (Segmentation width height))
    (mb : Macroblock MacroblockHeader) : Int :=
  match segmentation with
  | none => (LoopFiltered.loopFilterLevel frame.header).toNat
  | some current =>
      (current.segmentFilterAdjustments
        (Fin.ofNat 4 mb.segmentId.toNat)).toInt +
        if current.absoluteSegmentAdjustments then 0
        else ((LoopFiltered.loopFilterLevel frame.header).toNat : Int)

def Macroblock.levelDelta (FrameHeader : Type)
    [LoopFiltered FrameHeader MacroblockHeader]
    (filterAdjustments : Option FilterAdjustments)
    (mb : Macroblock MacroblockHeader) : Int :=
  match filterAdjustments, LoopFiltered.reference FrameHeader mb.header with
  | some adjustments, some reference =>
      (adjustments.loopfilterRefAdjustments reference.index).toInt +
        modeDelta adjustments.loopfilterModeAdjustments reference
          mb.Y2.predictionMode
  | _, _ => 0

def clampLevel (level : Int) : Int := max 0 (min 63 level)

theorem clamp63_eq (input : Int) : (clamp63 input : Int) = clampLevel input := by
  unfold clamp63 clampLevel
  split
  · omega
  · split <;> omega

/-- What parsing sees to. -/
structure Frame.Filterable (frame : Frame FrameHeader MacroblockHeader)
    (segmentation : Option (Segmentation width height))
    (filterAdjustments : Option FilterAdjustments) : Prop where
  normal : LoopFiltered.filterType frame.header = false
  segment : segmentation.isSome → ∀ mb ∈ frame.macroblocks,
    mb.segmentId.toNat < 4
  reference : filterAdjustments.isSome → ∀ mb ∈ frame.macroblocks,
    (LoopFiltered.reference FrameHeader mb.header).isSome

theorem NormalLoopFilter.new_ok (keyFrame : Bool) {params : FilterParameters}
    (hnormal : params.type = .normal) :
    ∃ filter, NormalLoopFilter.new keyFrame params = .ok filter ∧
      (filter.simple.filterLevel : Int) = clampLevel params.filterLevel := by
  unfold NormalLoopFilter.new
  rw [decide_eq_true hnormal]
  exact ⟨_, rfl, clamp63_eq params.filterLevel⟩

theorem Frame.parametersFor_ok {frame : Frame FrameHeader MacroblockHeader}
    {segmentation : Option (Segmentation width height)}
    {filterAdjustments : Option FilterAdjustments}
    (h : frame.Filterable segmentation filterAdjustments)
    {mb : Macroblock MacroblockHeader} (hmb : mb ∈ frame.macroblocks) :
    ∃ parameters, frame.parametersFor segmentation mb = .ok parameters ∧
      parameters.type = .normal ∧
      parameters.filterLevel = frame.baseLevel segmentation mb := by
  have htype : frame.frameLoopfilter.type = .normal := by
    unfold Frame.frameLoopfilter FilterParameters.new
    rw [h.normal]
    rfl
  cases segmentation with
  | none => exact ⟨_, rfl, htype, rfl⟩
  | some current =>
      have hsegment := h.segment rfl mb hmb
      have hindex : Fin.ofNat 4 mb.segmentId.toNat =
          ⟨mb.segmentId.toNat, hsegment⟩ :=
        Fin.ext (Nat.mod_eq_of_lt hsegment)
      refine ⟨_, dif_pos hsegment, htype, ?_⟩
      rw [Frame.baseLevel, hindex]
      rfl

def levelOf (filter : Option (NormalLoopFilter × Bool)) : Option Int :=
  filter.map fun made => (made.1.simple.filterLevel : Int)

theorem Macroblock.parametersInUse_ok
    {filterAdjustments : Option FilterAdjustments}
    (parameters : FilterParameters) {mb : Macroblock MacroblockHeader}
    (hreference : filterAdjustments.isSome →
      (LoopFiltered.reference FrameHeader mb.header).isSome) :
    ∃ inUse, mb.parametersInUse FrameHeader filterAdjustments parameters =
        .ok inUse ∧ inUse.type = parameters.type ∧
      inUse.filterLevel = parameters.filterLevel +
        mb.levelDelta FrameHeader filterAdjustments := by
  unfold Macroblock.parametersInUse Macroblock.levelDelta
  cases filterAdjustments with
  | none => exact ⟨_, rfl, rfl, (Int.add_zero _).symm⟩
  | some adjustments =>
      obtain ⟨reference, hsome⟩ := Option.isSome_iff_exists.mp (hreference rfl)
      rw [hsome]
      refine ⟨_, rfl, rfl, ?_⟩
      dsimp only [FilterParameters.adjust]
      rw [modeAdjustment_toInt]

theorem Macroblock.filterInUse_ok
    {filterAdjustments : Option FilterAdjustments}
    {parameters : FilterParameters} {mb : Macroblock MacroblockHeader}
    (hnormal : parameters.type = .normal)
    (hreference : filterAdjustments.isSome →
      (LoopFiltered.reference FrameHeader mb.header).isSome) :
    ∃ filter, mb.filterInUse FrameHeader filterAdjustments parameters =
        .ok filter ∧
      levelOf filter =
        if 0 < parameters.filterLevel +
            mb.levelDelta FrameHeader filterAdjustments then
          some (clampLevel (parameters.filterLevel +
            mb.levelDelta FrameHeader filterAdjustments))
        else none := by
  obtain ⟨inUse, hinUse, htype, hlevel⟩ :=
    Macroblock.parametersInUse_ok parameters hreference
  rw [← hlevel]
  unfold Macroblock.filterInUse
  rw [hinUse, ok_bind]
  by_cases hpositive : 0 < inUse.filterLevel
  · obtain ⟨filter, hfilter, hclamped⟩ := NormalLoopFilter.new_ok
      (LoopFiltered.keyFrame FrameHeader) (htype.trans hnormal)
    rw [if_neg (not_le.mpr hpositive), htype, hnormal, if_pos hpositive]
    dsimp only
    rw [hfilter, ok_bind]
    exact ⟨_, rfl, congrArg some hclamped⟩
  · rw [if_pos (not_lt.mp hpositive), if_neg hpositive]
    exact ⟨none, rfl, rfl⟩

theorem clampLevel_base {base delta : Int} (hlow : 0 ≤ base)
    (hhigh : base ≤ 63) :
    clampLevel (clampLevel base + delta) = clampLevel (base + delta) := by
  unfold clampLevel
  omega

/-- The clamp comes last: neither the level of a segment nor the sum of the
deltas is clamped on its own. -/
theorem Frame.filtersInUse_level (frame : Frame FrameHeader MacroblockHeader)
    (segmentation : Option (Segmentation width height))
    (filterAdjustments : Option FilterAdjustments)
    (h : frame.Filterable segmentation filterAdjustments) :
    (∃ filters, frame.filtersInUse segmentation filterAdjustments =
        .ok filters ∧
      filters.map levelOf = frame.macroblocks.map fun mb =>
        if LoopFiltered.loopFilterLevel frame.header ≠ 0 ∧
            0 < frame.baseLevel segmentation mb +
              mb.levelDelta FrameHeader filterAdjustments then
          some (clampLevel (frame.baseLevel segmentation mb +
            mb.levelDelta FrameHeader filterAdjustments))
        else none) ∧
      ∀ mb ∈ frame.macroblocks,
        0 ≤ frame.baseLevel segmentation mb →
        frame.baseLevel segmentation mb ≤ 63 →
        clampLevel (clampLevel (frame.baseLevel segmentation mb) +
            mb.levelDelta FrameHeader filterAdjustments) =
          clampLevel (frame.baseLevel segmentation mb +
            mb.levelDelta FrameHeader filterAdjustments) := by
  refine ⟨?_, fun mb _ hlow hhigh => clampLevel_base hlow hhigh⟩
  unfold Frame.filtersInUse
  by_cases hlevel : LoopFiltered.loopFilterLevel frame.header = 0
  · rw [if_neg (not_not.mpr hlevel)]
    refine ⟨_, rfl, ?_⟩
    rw [List.map_map]
    apply List.map_congr_left
    intro mb _
    rw [if_neg fun hruns => hruns.1 hlevel]
    rfl
  · rw [if_pos hlevel]
    apply Fallible.mapM_view
    intro mb hmb
    obtain ⟨parameters, hparameters, hnormal, hbase⟩ :=
      Frame.parametersFor_ok h hmb
    obtain ⟨filter, hfilter, hview⟩ := Macroblock.filterInUse_ok hnormal
      fun hsome => h.reference hsome mb hmb
    refine ⟨filter, ?_, ?_⟩
    · rw [hparameters, ok_bind]
      exact hfilter
    · rw [hview, hbase]
      simp only [hlevel, ne_eq, not_false_eq_true, true_and]

end LoopFilter

def highKeyFrame : KeyFrame where
  showFrame := true
  displayWidth := 16
  displayHeight := 16
  header := {
    colorSpace := false, clampingType := false, updateSegmentation := none
    filterType := false, loopFilterLevel := 60, sharpnessLevel := 0
    modeLfAdjustments := none, log2NumberOfDctPartitions := 0
    quantIndices := {
      yAcQi := 0, yDc := none, y2Dc := none, y2Ac := none, uvDc := none
      uvAc := none }
    refreshEntropyProbs := true, tokenProbUpdate := fun _ _ _ _ => none
    probSkipFalse := none }
  macroblocks := [{
    column := 0, row := 0, segmentIdUpdate := none, mbSkipCoeff := none
    header := {} }]
  y2Links := []

def highSegmentation : Segmentation 1 1 where
  segmentFilterAdjustments := fun _ => 60
  map := fun _ _ => 3

/-- Takes all of it back. -/
def lowAdjustments : FilterAdjustments where
  loopfilterRefAdjustments := fun _ => -60

theorem highKeyFrame_level :
    (∃ filters, highKeyFrame.filtersInUse (some highSegmentation)
        (some lowAdjustments) = .ok filters ∧
      filters.map levelOf = highKeyFrame.macroblocks.map fun mb =>
        if LoopFiltered.loopFilterLevel highKeyFrame.header ≠ 0 ∧
            0 < highKeyFrame.baseLevel (some highSegmentation) mb +
              mb.levelDelta KeyFrameHeader (some lowAdjustments) then
          some (clampLevel (highKeyFrame.baseLevel (some highSegmentation) mb +
            mb.levelDelta KeyFrameHeader (some lowAdjustments)))
        else none) ∧
      ∀ mb ∈ highKeyFrame.macroblocks,
        0 ≤ highKeyFrame.baseLevel (some highSegmentation) mb →
        highKeyFrame.baseLevel (some highSegmentation) mb ≤ 63 →
        clampLevel
            (clampLevel (highKeyFrame.baseLevel (some highSegmentation) mb) +
              mb.levelDelta KeyFrameHeader (some lowAdjustments)) =
          clampLevel (highKeyFrame.baseLevel (some highSegmentation) mb +
            mb.levelDelta KeyFrameHeader (some lowAdjustments)) :=
  Frame.filtersInUse_level highKeyFrame (some highSegmentation)
    (some lowAdjustments) {
      normal := rfl
      segment := fun _ mb hmb => by
        rw [List.mem_singleton.mp hmb]
        decide
      reference := fun _ _ _ => rfl }

/-- The filter runs at 60, and not at the 3 that is left after a clamp of the
segment's level. -/
theorem highKeyFrame_not_clamped_first :
    ∃ filters, highKeyFrame.filtersInUse (some highSegmentation)
        (some lowAdjustments) = .ok filters ∧
      filters.map levelOf = [some 60] ∧
      (highKeyFrame.macroblocks.map fun mb => clampLevel
        (clampLevel (highKeyFrame.baseLevel (some highSegmentation) mb) +
          mb.levelDelta KeyFrameHeader (some lowAdjustments))) = [3] :=
  ⟨_, rfl, by decide, by decide⟩

end Salsify.Codec
