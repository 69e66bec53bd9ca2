import Salsify.Codec.HeaderCodec

namespace Salsify.Codec

open Salsify.Coder (Probability)
open BitParser (Reaches reaches_pure reaches_array)

/-! Frame headers whose values fit their fields, all of which are read from
something. -/

theorem flag_reaches (value : Bool) (probability : Probability) :
    (boolean probability).Reaches value :=
  ⟨[(probability, value)], value, [], rfl, rfl, rfl⟩

theorem unsigned_reaches {width : Nat} (hwidth : width ≤ 8) {num : UInt8}
    (h : num.toNat < 2 ^ width) : (unsigned width).Reaches num := by
  induction width generalizing num with
  | zero =>
      obtain rfl : num = 0 := UInt8.toNat_inj.mp (Nat.lt_one_iff.mp h)
      exact reaches_pure 0
  | succ width ih =>
      let bit : Bool := decide (2 ^ width ≤ num.toNat)
      let rest : UInt8 := UInt8.ofNat (num.toNat % 2 ^ width)
      have hpow : 2 ^ width ≤ 128 :=
        Nat.pow_le_pow_right (by decide) (by omega : width ≤ 7)
      have hmod := Nat.mod_lt num.toNat (Nat.two_pow_pos width)
      have hrest : rest.toNat = num.toNat % 2 ^ width := by
        rw [UInt8.toNat_ofNat', Nat.mod_eq_of_lt (by omega)]
      have hnum : bit.toUInt8 <<< UInt8.ofNat width ||| rest = num := by
        refine UInt8.toNat_inj.mp ?_
        rw [combine_toNat (by omega) bit (by omega), hrest]
        rw [Nat.pow_succ] at h
        by_cases hbit : 2 ^ width ≤ num.toNat
        · have hsub := Nat.mod_eq_sub_mod hbit
          rw [Nat.mod_eq_of_lt (by omega : num.toNat - 2 ^ width < 2 ^ width)]
            at hsub
          simp only [bit, decide_eq_true hbit, Bool.toNat_true]
          omega
        · rw [Nat.mod_eq_of_lt (by omega)]
          simp only [bit, decide_eq_false hbit, Bool.toNat_false]
          omega
      have hlow : (unsigned width).Reaches rest :=
        ih (by omega) (hrest ▸ hmod)
      refine (flag_reaches bit 128).bind (hlow.bind ?_)
      rw [← hnum]
      exact reaches_pure _

theorem byte_reaches (num : UInt8) : (unsigned 8).Reaches num :=
  unsigned_reaches (by decide) num.toNat_lt

/-- A value of `Signed<width>`. -/
def FitsSigned (width : Nat) (num : Int8) : Prop :=
  num.toInt.natAbs < 2 ^ width

theorem signed_of_magnitude : ∀ byte : Fin 256,
    let num : Int8 := (UInt8.ofNat byte).toInt8
    (if decide (num < 0) then -(UInt8.ofNat num.toInt.natAbs).toInt8
      else (UInt8.ofNat num.toInt.natAbs).toInt8) = num := by
  decide +kernel

theorem signed_reaches {width : Nat} (hwidth : width ≤ 7) {num : Int8}
    (h : FitsSigned width num) : (signed width).Reaches num := by
  have hpow : 2 ^ width ≤ 128 := Nat.pow_le_pow_right (by decide) hwidth
  have hsmall : num.toInt.natAbs < 2 ^ width := h
  have hmagnitude : (UInt8.ofNat num.toInt.natAbs).toNat < 2 ^ width := by
    rw [UInt8.toNat_ofNat', Nat.mod_eq_of_lt (by omega)]
    exact hsmall
  have hvalue := signed_of_magnitude ⟨num.toUInt8.toNat, num.toUInt8.toNat_lt⟩
  rw [UInt8.ofNat_toNat] at hvalue
  have hvalue : (if decide (num < 0) then
      -(UInt8.ofNat num.toInt.natAbs).toInt8
    else (UInt8.ofNat num.toInt.natAbs).toInt8) = num := hvalue
  refine (unsigned_reaches (by omega) hmagnitude).bind
    ((flag_reaches (decide (num < 0)) 128).bind ?_)
  rw [hvalue]
  exact reaches_pure num

theorem optional_reaches {α : Type} {element : Parser α} {isPresent : Bool}
    {obj : Option α} (hpresent : obj.isSome = isPresent)
    (h : ∀ value ∈ obj, element.Reaches value) :
    (optional isPresent element).Reaches obj := by
  subst hpresent
  cases obj with
  | none => exact reaches_pure none
  | some value => exact (h value rfl).map some

theorem flagged_reaches {α : Type} {element : Parser α} {obj : Option α}
    (h : ∀ value ∈ obj, element.Reaches value) (probability : Probability) :
    (flagged element probability).Reaches obj :=
  (flag_reaches obj.isSome probability).bind (optional_reaches rfl h)

theorem flaggedByte_reaches (obj : Option UInt8) (probability : Probability) :
    (flagged (unsigned 8) probability).Reaches obj :=
  flagged_reaches (fun num _ => byte_reaches num) probability

structure QuantIndices.Fits (h : QuantIndices) : Prop where
  yAcQi : h.yAcQi.toNat < 2 ^ 7
  yDc : ∀ delta ∈ h.yDc, FitsSigned 4 delta
  y2Dc : ∀ delta ∈ h.y2Dc, FitsSigned 4 delta
  y2Ac : ∀ delta ∈ h.y2Ac, FitsSigned 4 delta
  uvDc : ∀ delta ∈ h.uvDc, FitsSigned 4 delta
  uvAc : ∀ delta ∈ h.uvAc, FitsSigned 4 delta

theorem QuantIndices.Fits.reaches {h : QuantIndices} (hfits : h.Fits) :
    QuantIndices.parse.Reaches h := by
  have hdelta {obj : Option Int8} (hobj : ∀ delta ∈ obj, FitsSigned 4 delta) :
      (flagged (signed 4)).Reaches obj :=
    flagged_reaches (fun delta hmem => signed_reaches (by decide)
      (hobj delta hmem)) 128
  exact (unsigned_reaches (by decide) hfits.yAcQi).bind
    ((hdelta hfits.yDc).bind ((hdelta hfits.y2Dc).bind
      ((hdelta hfits.y2Ac).bind ((hdelta hfits.uvDc).bind
        ((hdelta hfits.uvAc).bind (reaches_pure h))))))

theorem deltas_reach {width length : Nat} (hwidth : width ≤ 7)
    {deltas : SafeArray (Option Int8) length}
    (h : ∀ index, ∀ delta ∈ deltas index, FitsSigned width delta) :
    (BitParser.array length fun _ => flagged (signed width)).Reaches deltas :=
  reaches_array fun index => flagged_reaches
    (fun delta hmem => signed_reaches hwidth (h index delta hmem)) 128

structure ModeRefLFDeltaUpdate.Fits (h : ModeRefLFDeltaUpdate) : Prop where
  refUpdate : ∀ index, ∀ delta ∈ h.refUpdate index, FitsSigned 6 delta
  modeUpdate : ∀ index, ∀ delta ∈ h.modeUpdate index, FitsSigned 6 delta

theorem ModeRefLFDeltaUpdate.Fits.reaches {h : ModeRefLFDeltaUpdate}
    (hfits : h.Fits) : ModeRefLFDeltaUpdate.parse.Reaches h :=
  (deltas_reach (by decide) hfits.refUpdate).bind
    ((deltas_reach (by decide) hfits.modeUpdate).bind (reaches_pure h))

structure SegmentFeatureData.Fits (h : SegmentFeatureData) : Prop where
  quantizerUpdate : ∀ index, ∀ delta ∈ h.quantizerUpdate index,
    FitsSigned 7 delta
  loopFilterUpdate : ∀ index, ∀ delta ∈ h.loopFilterUpdate index,
    FitsSigned 6 delta

theorem SegmentFeatureData.Fits.reaches {h : SegmentFeatureData}
    (hfits : h.Fits) : SegmentFeatureData.parse.Reaches h :=
  (flag_reaches h.segmentFeatureMode 128).bind
    ((deltas_reach (by decide) hfits.quantizerUpdate).bind
      ((deltas_reach (by decide) hfits.loopFilterUpdate).bind (reaches_pure h)))

/-- The map of the probabilities is sent with the update of the map. -/
structure UpdateSegmentation.Fits (h : UpdateSegmentation) : Prop where
  segmentFeatureData : ∀ data ∈ h.segmentFeatureData, data.Fits
  mbSegmentationMap : h.mbSegmentationMap.isSome = h.updateMbSegmentationMap

theorem UpdateSegmentation.Fits.reaches {h : UpdateSegmentation}
    (hfits : h.Fits) : UpdateSegmentation.parse.Reaches h := by
  refine (flag_reaches h.updateMbSegmentationMap 128).bind
    ((flagged_reaches (fun data hdata =>
        (hfits.segmentFeatureData data hdata).reaches) 128).bind
      ((optional_reaches hfits.mbSegmentationMap fun map _ => ?_).bind
        (reaches_pure h)))
  exact reaches_array fun index => flaggedByte_reaches (map index) 128

theorem tokenProbUpdate_reaches (update : TokenProbUpdate) :
    parseTokenProbUpdate.Reaches update :=
  reaches_array fun i => reaches_array fun j => reaches_array fun k =>
    reaches_array fun l => flaggedByte_reaches (update i j k l) _

/-- Half the probabilities, as `MVProbUpdate` keeps them. -/
def FitsMvProbUpdate (update : MVProbUpdate) : Prop :=
  ∀ i j, ∀ halfProb ∈ update i j, halfProb.toNat < 2 ^ 7

theorem mvProbUpdate_reaches {update : MVProbUpdate}
    (h : FitsMvProbUpdate update) : parseMvProbUpdate.Reaches update :=
  reaches_array fun i => reaches_array fun j => flagged_reaches
    (fun halfProb hmem => unsigned_reaches (by decide) (h i j halfProb hmem)) _

theorem modeLfAdjustments_reach {obj : Option (Option ModeRefLFDeltaUpdate)}
    (h : ∀ update ∈ obj, ∀ deltas ∈ update, deltas.Fits) :
    (flagged (flagged ModeRefLFDeltaUpdate.parse)).Reaches obj :=
  flagged_reaches (fun update hupdate => flagged_reaches
    (fun deltas hdeltas => (h update hupdate deltas hdeltas).reaches) 128) 128

theorem updateSegmentation_reaches {obj : Option UpdateSegmentation}
    (h : ∀ update ∈ obj, update.Fits) :
    (flagged UpdateSegmentation.parse).Reaches obj :=
  flagged_reaches (fun update hupdate => (h update hupdate).reaches) 128

structure KeyFrameHeader.Fits (header : KeyFrameHeader) : Prop where
  colorSpace : header.colorSpace = false
  clampingType : header.clampingType = false
  updateSegmentation : ∀ update ∈ header.updateSegmentation, update.Fits
  filterType : header.filterType = false
  loopFilterLevel : header.loopFilterLevel.toNat < 2 ^ 6
  sharpnessLevel : header.sharpnessLevel.toNat < 2 ^ 3
  modeLfAdjustments : ∀ update ∈ header.modeLfAdjustments,
    ∀ deltas ∈ update, deltas.Fits
  log2NumberOfDctPartitions : header.log2NumberOfDctPartitions.toNat < 2 ^ 2
  quantIndices : header.quantIndices.Fits

theorem KeyFrameHeader.Fits.reaches {header : KeyFrameHeader}
    (h : header.Fits) : KeyFrameHeader.parse.Reaches header := by
  refine (flag_reaches header.colorSpace 128).bind ?_
  refine (flag_reaches header.clampingType 128).bind ?_
  refine (updateSegmentation_reaches h.updateSegmentation).bind ?_
  refine (flag_reaches header.filterType 128).bind ?_
  refine (unsigned_reaches (by decide) h.loopFilterLevel).bind ?_
  refine (unsigned_reaches (by decide) h.sharpnessLevel).bind ?_
  refine (modeLfAdjustments_reach h.modeLfAdjustments).bind ?_
  refine (unsigned_reaches (by decide) h.log2NumberOfDctPartitions).bind ?_
  refine h.quantIndices.reaches.bind ?_
  refine (flag_reaches header.refreshEntropyProbs 128).bind ?_
  refine (tokenProbUpdate_reaches header.tokenProbUpdate).bind ?_
  refine (flaggedByte_reaches header.probSkipFalse 128).bind ?_
  have hsupported : ¬ (header.colorSpace || header.clampingType) = true := by
    rw [h.colorSpace, h.clampingType]
    exact Bool.false_ne_true
  have hnormal : ¬ header.filterType = true := by
    rw [h.filterType]
    exact Bool.false_ne_true
  rw [if_neg hsupported, if_neg hnormal]
  exact reaches_pure header

/-- A buffer is copied only where it is not replaced. -/
structure InterFrameHeader.Fits (header : InterFrameHeader) : Prop where
  updateSegmentation : ∀ update ∈ header.updateSegmentation, update.Fits
  filterType : header.filterType = false
  loopFilterLevel : header.loopFilterLevel.toNat < 2 ^ 6
  sharpnessLevel : header.sharpnessLevel.toNat < 2 ^ 3
  modeLfAdjustments : ∀ update ∈ header.modeLfAdjustments,
    ∀ deltas ∈ update, deltas.Fits
  log2NumberOfDctPartitions : header.log2NumberOfDctPartitions.toNat < 2 ^ 2
  quantIndices : header.quantIndices.Fits
  copiesToGolden : header.copyBufferToGolden.isSome =
    !header.refreshGoldenFrame
  copyBufferToGolden : ∀ source ∈ header.copyBufferToGolden,
    source.toNat < 2 ^ 2
  copiesToAlternate : header.copyBufferToAlternate.isSome =
    !header.refreshAlternateFrame
  copyBufferToAlternate : ∀ source ∈ header.copyBufferToAlternate,
    source.toNat < 2 ^ 2
  mvProbUpdate : FitsMvProbUpdate header.mvProbUpdate

theorem copyBuffer_reaches {refreshes : Bool} {obj : Option UInt8}
    (hcopies : obj.isSome = !refreshes)
    (h : ∀ source ∈ obj, source.toNat < 2 ^ 2) :
    (optional (!refreshes) (unsigned 2)).Reaches obj :=
  optional_reaches hcopies fun source hsource =>
    unsigned_reaches (by decide) (h source hsource)

theorem InterFrameHeader.Fits.reaches {header : InterFrameHeader}
    (h : header.Fits) : InterFrameHeader.parse.Reaches header := by
  have hprobs {length : Nat} (obj : Option (SafeArray UInt8 length)) :
      (flagged (.array length fun _ => unsigned 8)).Reaches obj :=
    flagged_reaches
      (fun probs _ => reaches_array fun index => byte_reaches (probs index)) 128
  refine (updateSegmentation_reaches h.updateSegmentation).bind ?_
  refine (flag_reaches header.filterType 128).bind ?_
  refine (unsigned_reaches (by decide) h.loopFilterLevel).bind ?_
  refine (unsigned_reaches (by decide) h.sharpnessLevel).bind ?_
  refine (modeLfAdjustments_reach h.modeLfAdjustments).bind ?_
  refine (unsigned_reaches (by decide) h.log2NumberOfDctPartitions).bind ?_
  refine h.quantIndices.reaches.bind ?_
  refine (flag_reaches header.refreshGoldenFrame 128).bind ?_
  refine (flag_reaches header.refreshAlternateFrame 128).bind ?_
  refine (copyBuffer_reaches h.copiesToGolden h.copyBufferToGolden).bind ?_
  refine (copyBuffer_reaches h.copiesToAlternate
    h.copyBufferToAlternate).bind ?_
  refine (flag_reaches header.signBiasGolden 128).bind ?_
  refine (flag_reaches header.signBiasAlternate 128).bind ?_
  refine (flag_reaches header.refreshEntropyProbs 128).bind ?_
  refine (flag_reaches header.refreshLast 128).bind ?_
  refine (tokenProbUpdate_reaches header.tokenProbUpdate).bind ?_
  refine (flaggedByte_reaches header.probSkipFalse 128).bind ?_
  refine (byte_reaches header.probInter).bind ?_
  refine (byte_reaches header.probReferencesLast).bind ?_
  refine (byte_reaches header.probReferencesGolden).bind ?_
  refine (hprobs header.intra16x16Prob).bind ?_
  refine (hprobs header.intraChromaProb).bind ?_
  refine (mvProbUpdate_reaches h.mvProbUpdate).bind ?_
  have hnormal : ¬ header.filterType = true := by
    rw [h.filterType]
    exact Bool.false_ne_true
  rw [if_neg hnormal]
  exact reaches_pure header

end Salsify.Codec
