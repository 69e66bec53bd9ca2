import Salsify.Codec.MacroblockPlaces

namespace Salsify.Codec

open Salsify.Net (Chunk Failure)
open Fallible (bind_eq_ok)

/-! The encoder's own copy of the state transition, `update_decoder_state` of
`encoder/encode_intra.cc` and `encoder/encode_inter.cc`, against the decoder's. -/

variable {width height : Nat}

namespace DecoderState

/-- `update_decoder_state` on a key frame, of which the references are left
out. -/
def updateDecoderStateKey (frame : KeyFrame) : DecoderState width height :=
  let state : DecoderState width height := ofHeader frame.header
  { state with
    probabilityTables :=
      if frame.header.refreshEntropyProbs then
        state.probabilityTables.coeffProbUpdate frame.header.tokenProbUpdate
      else
        state.probabilityTables }

/-- `update_decoder_state` on an inter frame. -/
def updateDecoderStateInter (state : DecoderState width height)
    (frame : InterFrame) : DecoderState width height :=
  { state with
    probabilityTables :=
      if frame.header.refreshEntropyProbs then
        state.probabilityTables.update frame.header
      else
        state.probabilityTables
    filterAdjustments :=
      updateFilterAdjustments state.filterAdjustments frame.header }

theorem macroblockDimension_le {num : Nat} (h : 0 < num) :
    macroblockDimension num ≤ num := by
  unfold macroblockDimension
  omega

theorem parseAndApplyKey_spec {chunk : UncompressedChunk} {frame : KeyFrame}
    {after : DecoderState width height}
    (h : parseAndApplyKey chunk = .ok (frame, after)) :
    (0 < width ∧ 0 < height) ∧
      frame.macroblocks.map Macroblock.place =
        Grid.places (macroblockDimension width) (macroblockDimension height) ∧
      after = { (updateDecoderStateKey frame : DecoderState width height) with
        segmentation := withWrites
          (frame.header.updateSegmentation.map .ofHeader)
          frame.macroblocks } := by
  obtain ⟨-, -, header, firstPartition, hheader, h⟩ :=
    parseAndApplyKey_eq_ok_iff.mp h
  obtain ⟨hwidth, hheight, -⟩ := parseHeader_eq_ok_iff.mp hheader
  obtain ⟨rfl, hafter, hplaces⟩ := parseFrame_spec keepsPlace_key h
  exact ⟨⟨hwidth, hheight⟩, hplaces, hafter⟩

theorem parseAndApplyInter_spec {state after : DecoderState width height}
    {chunk : UncompressedChunk} {frame : InterFrame}
    (h : state.parseAndApplyInter chunk = .ok (frame, after)) :
    (0 < width ∧ 0 < height) ∧
      frame.macroblocks.map Macroblock.place =
        Grid.places (macroblockDimension width) (macroblockDimension height) ∧
      after = { state.updateDecoderStateInter frame with
        segmentation := withWrites
          (updateSegmentationHeader state.segmentation frame.header)
          frame.macroblocks } := by
  obtain ⟨-, header, firstPartition, hheader, h⟩ :=
    parseAndApplyInter_eq_ok_iff.mp h
  obtain ⟨hwidth, hheight, -⟩ := parseHeader_eq_ok_iff.mp hheader
  obtain ⟨rfl, hafter, hplaces⟩ := parseFrame_spec keepsPlace_inter h
  exact ⟨⟨hwidth, hheight⟩, hplaces, hafter⟩

theorem eq_withSegmentation_iff {state : DecoderState width height}
    {segmentation : Option (Segmentation width height)} :
    state = { state with segmentation } ↔ state.segmentation = segmentation := by
  constructor
  · intro h
    rw [h]
  · intro h
    rw [← h]

section Writes

variable {MacroblockHeader : Type}

/-- Each macroblock that writes to the map writes what is there. -/
def WritesWhatIsThere (map : SegmentationMap width height)
    (macroblocks : List (Macroblock MacroblockHeader)) : Prop :=
  ∀ mb ∈ macroblocks, ∀ segment, mb.segmentIdUpdate = some segment →
    map.get? mb.place = some segment

theorem overwrite_eq_self_iff (hpositive : 0 < width ∧ 0 < height)
    {macroblocks : List (Macroblock MacroblockHeader)}
    (hplaces : macroblocks.map Macroblock.place =
      Grid.places (macroblockDimension width) (macroblockDimension height))
    (map : SegmentationMap width height) :
    map.overwrite (macroblocks.map Macroblock.segmentWrite) = map ↔
      WritesWhatIsThere map macroblocks := by
  have hfst : (macroblocks.map Macroblock.segmentWrite).map Prod.fst =
      Grid.places (macroblockDimension width) (macroblockDimension height) := by
    rw [← hplaces, List.map_map]
    rfl
  have hinside : ∀ write ∈ macroblocks.map Macroblock.segmentWrite,
      write.1.1 < width ∧ write.1.2 < height := by
    intro write hwrite
    have hmem := List.mem_map_of_mem (f := Prod.fst) hwrite
    rw [hfst, Grid.mem_places] at hmem
    exact ⟨hmem.1.trans_le (macroblockDimension_le hpositive.1),
      hmem.2.trans_le (macroblockDimension_le hpositive.2)⟩
  rw [Grid.overwrite_eq_self_iff (by rw [hfst]; exact Grid.places_nodup)
    hinside]
  constructor
  · intro h mb hmb segment hsegment
    exact h mb.place segment (List.mem_map.mpr ⟨mb, hmb,
      Prod.ext rfl hsegment⟩)
  · intro h place value hmem
    obtain ⟨mb, hmb, heq⟩ := List.mem_map.mp hmem
    obtain rfl : mb.place = place := congrArg Prod.fst heq
    exact h mb hmb value (congrArg Prod.snd heq)

end Writes

theorem updateMap (segmentation : Segmentation width height)
    (updateSegmentation : UpdateSegmentation) :
    (segmentation.update updateSegmentation).map = segmentation.map := by
  unfold Segmentation.update
  split <;> rfl

def initialSegment : UInt8 := 3

theorem ofHeader_map (updateSegmentation : UpdateSegmentation) :
    (Segmentation.ofHeader updateSegmentation :
      Segmentation width height).map = fun _ _ => initialSegment :=
  updateMap _ _

theorem eq_withMap_iff {segmentation : Segmentation width height}
    {map : SegmentationMap width height} :
    segmentation = { segmentation with map } ↔ map = segmentation.map := by
  constructor
  · intro h
    rw [h]
  · intro h
    rw [h]

/-- Every macroblock of the key frame that is sent with a segment is sent with
the one of a fresh map. -/
def KeepsFreshMap (frame : KeyFrame) : Prop :=
  frame.header.updateSegmentation.isSome → ∀ mb ∈ frame.macroblocks,
    ∀ segment, mb.segmentIdUpdate = some segment → segment = initialSegment

def RepeatsFeatures (current : Segmentation width height)
    (updateSegmentation : UpdateSegmentation) : Prop :=
  ∀ featureData, updateSegmentation.segmentFeatureData = some featureData →
    current.absoluteSegmentAdjustments = featureData.segmentFeatureMode ∧
      (∀ i, current.segmentQuantizerAdjustments i =
        (featureData.quantizerUpdate i).getD 0) ∧
      ∀ i, current.segmentFilterAdjustments i =
        (featureData.loopFilterUpdate i).getD 0

/-- The inter frame has segmentation exactly where the state has it, and says of
it only what the state holds. -/
def RepeatsSegmentation (segmentation : Option (Segmentation width height))
    (frame : InterFrame) : Prop :=
  match frame.header.updateSegmentation, segmentation with
  | none, none => True
  | none, some _ => False
  | some _, none => False
  | some updateSegmentation, some current =>
      RepeatsFeatures current updateSegmentation ∧
        WritesWhatIsThere current.map frame.macroblocks

theorem update_eq_self_iff {current : Segmentation width height}
    {updateSegmentation : UpdateSegmentation} :
    current.update updateSegmentation = current ↔
      RepeatsFeatures current updateSegmentation := by
  unfold Segmentation.update RepeatsFeatures
  cases updateSegmentation.segmentFeatureData with
  | none => simp
  | some featureData =>
      obtain ⟨absolute, quantizers, filters, map⟩ := current
      simp only [Segmentation.mk.injEq, and_true, Option.some.injEq,
        forall_eq', funext_iff]
      exact ⟨fun h => ⟨h.1.symm, fun i => (h.2.1 i).symm,
          fun i => (h.2.2 i).symm⟩,
        fun h => ⟨h.1.symm, fun i => (h.2.1 i).symm,
          fun i => (h.2.2 i).symm⟩⟩

theorem eq_updated_iff {current : Segmentation width height}
    {updateSegmentation : UpdateSegmentation}
    {map : SegmentationMap width height} :
    current = { current.update updateSegmentation with map } ↔
      current.update updateSegmentation = current ∧ map = current.map := by
  constructor
  · intro h
    have hmap : map = current.map := congrArg Segmentation.map h.symm
    refine ⟨?_, hmap⟩
    have hupdate : current.update updateSegmentation =
        { current.update updateSegmentation with map } :=
      eq_withMap_iff.mpr (by rw [updateMap, hmap])
    rw [hupdate, ← h]
  · rintro ⟨hupdate, hmap⟩
    rw [hupdate, hmap]

theorem key_agrees_iff {chunk : UncompressedChunk} {frame : KeyFrame}
    {after : DecoderState width height}
    (h : parseAndApplyKey chunk = .ok (frame, after)) :
    updateDecoderStateKey frame = after ↔ KeepsFreshMap frame := by
  obtain ⟨hpositive, hplaces, hafter⟩ := parseAndApplyKey_spec h
  rw [hafter, eq_withSegmentation_iff]
  change frame.header.updateSegmentation.map Segmentation.ofHeader = _ ↔ _
  unfold KeepsFreshMap
  cases frame.header.updateSegmentation with
  | none => simp [withWrites]
  | some updateSegmentation =>
      simp only [withWrites, Option.map_some, Option.some.injEq,
        Option.isSome_some, forall_const]
      rw [eq_withMap_iff, ofHeader_map, overwrite_eq_self_iff hpositive hplaces]
      have hfresh : ∀ mb ∈ frame.macroblocks,
          Grid.get? (fun _ _ => initialSegment : SegmentationMap width height)
            mb.place = some initialSegment := by
        intro mb hmb
        have hmem := List.mem_map_of_mem (f := Macroblock.place) hmb
        rw [hplaces, Grid.mem_places] at hmem
        exact Grid.get?_of_lt _
          (hmem.1.trans_le (macroblockDimension_le hpositive.1))
          (hmem.2.trans_le (macroblockDimension_le hpositive.2))
      constructor
      · intro hwrites mb hmb segment hsegment
        have hread := hwrites mb hmb segment hsegment
        rw [hfresh mb hmb] at hread
        exact (Option.some.inj hread).symm
      · intro hsegments mb hmb segment hsegment
        rw [hfresh mb hmb, hsegments mb hmb segment hsegment]

theorem inter_agrees_iff {state after : DecoderState width height}
    {chunk : UncompressedChunk} {frame : InterFrame}
    (h : state.parseAndApplyInter chunk = .ok (frame, after)) :
    state.updateDecoderStateInter frame = after ↔
      RepeatsSegmentation state.segmentation frame := by
  obtain ⟨hpositive, hplaces, hafter⟩ := parseAndApplyInter_spec h
  rw [hafter, eq_withSegmentation_iff]
  change state.segmentation = _ ↔ _
  unfold RepeatsSegmentation updateSegmentationHeader
  cases frame.header.updateSegmentation with
  | none =>
      cases state.segmentation with
      | none => simp [withWrites]
      | some current => simp [withWrites]
  | some updateSegmentation =>
      cases state.segmentation with
      | none => simp [withWrites]
      | some current =>
          simp only [withWrites, Option.map_some, Option.some.injEq]
          rw [eq_updated_iff, update_eq_self_iff, updateMap,
            overwrite_eq_self_iff hpositive hplaces]

/-- The encoder's transition gives the state that the decoder is left with
exactly where the segmentation stays as it was, or as a key frame resets it:
everything else of the two states is always the same. -/
theorem updateDecoderState_agrees_iff :
    (∀ (chunk : UncompressedChunk) (frame : KeyFrame)
        (after : DecoderState width height),
      parseAndApplyKey chunk = .ok (frame, after) →
        (updateDecoderStateKey frame = after ↔ KeepsFreshMap frame)) ∧
      ∀ (state : DecoderState width height) (chunk : UncompressedChunk)
        (frame : InterFrame) (after : DecoderState width height),
      state.parseAndApplyInter chunk = .ok (frame, after) →
        (state.updateDecoderStateInter frame = after ↔
          RepeatsSegmentation state.segmentation frame) :=
  ⟨fun _ _ _ h => key_agrees_iff h, fun _ _ _ _ h => inter_agrees_iff h⟩

def segmentedKeyFrame : Chunk :=
  [0x50, 0, 0, 0x9d, 0x01, 0x2a, 16, 0, 16, 0, 0x20, 0, 0]

def plainInterFrame : Chunk := [0x51, 0, 0, 0, 0, 0]

def parseKey (bytes : Chunk) :
    Except Failure (KeyFrame × DecoderState width height) := do
  let chunk ← UncompressedChunk.parse bytes width height false
  parseAndApplyKey chunk

def parseInter (state : DecoderState width height) (bytes : Chunk) :
    Except Failure (InterFrame × DecoderState width height) := do
  let chunk ← UncompressedChunk.parse bytes width height false
  state.parseAndApplyInter chunk

/-- The decoder's segmentation is gone after the second frame, the encoder's is
kept. -/
theorem segmentation_kept :
    ∃ (keyFrame : KeyFrame) (state : DecoderState 16 16) (frame : InterFrame)
        (after : DecoderState 16 16),
      parseKey segmentedKeyFrame = .ok (keyFrame, state) ∧
        state.parseInter plainInterFrame = .ok (frame, after) ∧
        state.updateDecoderStateInter frame ≠ after := by
  have hstream : Fallible.check
      (fun result => Fallible.check
        (fun next => result.2.segmentation.isSome && next.2.segmentation.isNone)
        (result.2.parseInter plainInterFrame))
      (parseKey segmentedKeyFrame :
        Except Failure (KeyFrame × DecoderState 16 16)) = true := by
    decide +kernel
  obtain ⟨⟨keyFrame, state⟩, hkey, hcheck⟩ := Fallible.exists_of_check hstream
  obtain ⟨⟨frame, after⟩, hinter, hsegmentation⟩ :=
    Fallible.exists_of_check hcheck
  refine ⟨keyFrame, state, frame, after, hkey, hinter, ?_⟩
  rintro rfl
  obtain ⟨hsome, hnone⟩ := (Bool.and_eq_true _ _).mp hsegmentation
  change state.segmentation.isNone = true at hnone
  rw [Option.isNone_iff_eq_none.mp hnone] at hsome
  cases hsome

def segmentedState : DecoderState 16 32 where
  segmentation := some
    { segmentQuantizerAdjustments := fun i => if i = 1 then 4 else 0
      segmentFilterAdjustments := fun i => if i = 2 then -3 else 0
      map := fun _ row => if row = 0 then 1 else 2 }
  filterAdjustments := some {}

/-- An inter frame that says all of this again. Its macroblocks have a vector
and coefficients, in two partitions. -/
def segmentedInterFrame : Chunk :=
  [0x11, 3, 0, 227, 87, 225, 146, 147, 183, 180, 182, 9, 109, 2, 176, 193, 127,
    65, 11, 75, 75, 75, 17, 47, 86, 180, 0, 3, 0, 0, 253, 180, 0, 252, 124, 0]

/-- The two transitions agree on the first of the two frames of the stream, and
on one that keeps the segments of the state. -/
theorem updateDecoderState_agrees_segmented :
    (∃ (frame : KeyFrame) (after : DecoderState 16 16),
      parseKey segmentedKeyFrame = .ok (frame, after) ∧
        updateDecoderStateKey frame = after) ∧
      ∃ (frame : InterFrame) (after : DecoderState 16 32),
        segmentedState.parseInter segmentedInterFrame = .ok (frame, after) ∧
          frame.macroblocks.map Macroblock.segmentIdUpdate = [some 1, some 2] ∧
          segmentedState.updateDecoderStateInter frame = after := by
  constructor
  · have hkey : Fallible.check
        (fun result => result.1.macroblocks.all fun mb =>
          mb.segmentIdUpdate.isNone)
        (parseKey segmentedKeyFrame :
          Except Failure (KeyFrame × DecoderState 16 16)) = true := by
      decide +kernel
    obtain ⟨⟨frame, after⟩, hparse, hcheck⟩ := Fallible.exists_of_check hkey
    obtain ⟨chunk, -, happly⟩ := bind_eq_ok hparse
    refine ⟨frame, after, hparse,
      (updateDecoderState_agrees_iff.1 chunk frame after happly).mpr ?_⟩
    intro _ mb hmb segment hsegment
    have hnone := List.all_eq_true.mp hcheck mb hmb
    rw [hsegment] at hnone
    cases hnone
  · have hinter : Fallible.check
        (fun result => (result.1.header.updateSegmentation.any fun update =>
            update.segmentFeatureData.all fun data =>
              !data.segmentFeatureMode && decide (∀ i,
                (data.quantizerUpdate i).getD 0 = (if i = 1 then 4 else 0) ∧
                (data.loopFilterUpdate i).getD 0 = if i = 2 then -3 else 0)) &&
          decide (result.1.macroblocks.map (fun mb =>
            (mb.place, mb.segmentIdUpdate)) =
              [((0, 0), some 1), ((0, 1), some 2)]))
        (segmentedState.parseInter segmentedInterFrame) = true := by
      decide +kernel
    obtain ⟨⟨frame, after⟩, hparse, hcheck⟩ := Fallible.exists_of_check hinter
    rw [Bool.and_eq_true, decide_eq_true_iff, Option.any_eq_true] at hcheck
    obtain ⟨⟨update, hupdate, hfeatures⟩, hsegments⟩ := hcheck
    obtain ⟨chunk, -, happly⟩ := bind_eq_ok hparse
    have hids := congrArg (List.map Prod.snd) hsegments
    rw [List.map_map] at hids
    refine ⟨frame, after, hparse, hids, (updateDecoderState_agrees_iff.2
      segmentedState chunk frame after happly).mpr ?_⟩
    have hheader : frame.header.updateSegmentation = some update := hupdate
    simp only [RepeatsSegmentation, hheader, segmentedState]
    constructor
    · intro data hdata
      rw [hdata, Option.all_some, Bool.and_eq_true, Bool.not_eq_true',
        decide_eq_true_iff] at hfeatures
      exact ⟨hfeatures.1.symm, fun i => (hfeatures.2 i).1.symm,
        fun i => (hfeatures.2 i).2.symm⟩
    · intro mb hmb segment hsegment
      have hmem := List.mem_map_of_mem
        (f := fun mb : InterFrameMacroblock => (mb.place, mb.segmentIdUpdate)) hmb
      rw [hsegments, List.mem_cons, List.mem_singleton] at hmem
      rcases hmem with hat | hat
      all_goals
        obtain ⟨hplace, hid⟩ := Prod.mk.inj hat
        rw [hplace]
        cases hid.symm.trans hsegment
        rfl

end DecoderState

end Salsify.Codec
