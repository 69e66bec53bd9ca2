import Salsify.Codec.TreeCodec

namespace Salsify.Codec

open Salsify.Coder (Probability)
open BitParser (Echoes Yields echoes_pure echoes_fail echoes_array)
open BitWriter (concat array)

/-! The frame headers, as `encoder/serializer.cc` writes them. -/

def encodeFlag (flag : Bool) : SymbolWriter := encodeBoolean 128 flag

def encodeUnsigned : Nat → UInt8 → SymbolWriter
  | 0, _ => .ok []
  | width + 1, num =>
      (encodeFlag (num.toNat.testBit width)).append (encodeUnsigned width num)

def encodeSigned (width : Nat) (num : Int8) : SymbolWriter :=
  (encodeUnsigned width (UInt8.ofNat num.toInt.natAbs)).append
    (encodeFlag (num < 0))

def encodeOptional {α : Type} (encode : α → SymbolWriter) : Option α → SymbolWriter
  | none => .ok []
  | some value => encode value

def encodeFlagged {α : Type} (encode : α → SymbolWriter)
    (probability : Probability) (obj : Option α) : SymbolWriter :=
  (encodeBoolean probability obj.isSome).append (encodeOptional encode obj)

def QuantIndices.encode (h : QuantIndices) : SymbolWriter :=
  concat [
    encodeUnsigned 7 h.yAcQi,
    encodeFlagged (encodeSigned 4) 128 h.yDc,
    encodeFlagged (encodeSigned 4) 128 h.y2Dc,
    encodeFlagged (encodeSigned 4) 128 h.y2Ac,
    encodeFlagged (encodeSigned 4) 128 h.uvDc,
    encodeFlagged (encodeSigned 4) 128 h.uvAc]

def ModeRefLFDeltaUpdate.encode (h : ModeRefLFDeltaUpdate) : SymbolWriter :=
  concat [
    array 4 fun i => encodeFlagged (encodeSigned 6) 128 (h.refUpdate i),
    array 4 fun i => encodeFlagged (encodeSigned 6) 128 (h.modeUpdate i)]

def SegmentFeatureData.encode (h : SegmentFeatureData) : SymbolWriter :=
  concat [
    encodeFlag h.segmentFeatureMode,
    array 4 fun i => encodeFlagged (encodeSigned 7) 128 (h.quantizerUpdate i),
    array 4 fun i => encodeFlagged (encodeSigned 6) 128 (h.loopFilterUpdate i)]

def UpdateSegmentation.encode (h : UpdateSegmentation) : SymbolWriter :=
  concat [
    encodeFlag h.updateMbSegmentationMap,
    encodeFlagged SegmentFeatureData.encode 128 h.segmentFeatureData,
    encodeOptional (fun map => array 3 fun i =>
      encodeFlagged (encodeUnsigned 8) 128 (map i)) h.mbSegmentationMap]

def encodeTokenProbUpdate (update : TokenProbUpdate) : SymbolWriter :=
  array 4 fun i => array 8 fun j => array 3 fun k => array 11 fun l =>
    encodeFlagged (encodeUnsigned 8)
      ((((kCoeffEntropyUpdateProbs.get i).get j).get k).get l)
      (update i j k l)

def encodeMvProbUpdate (update : MVProbUpdate) : SymbolWriter :=
  array 2 fun i => array 19 fun j =>
    encodeFlagged (encodeUnsigned 7)
      ((kMvEntropyUpdateProbs.get i).get j) (update i j)

def KeyFrameHeader.encode (header : KeyFrameHeader) : SymbolWriter :=
  concat [
    encodeFlag header.colorSpace,
    encodeFlag header.clampingType,
    encodeFlagged UpdateSegmentation.encode 128 header.updateSegmentation,
    encodeFlag header.filterType,
    encodeUnsigned 6 header.loopFilterLevel,
    encodeUnsigned 3 header.sharpnessLevel,
    encodeFlagged (encodeFlagged ModeRefLFDeltaUpdate.encode 128) 128
      header.modeLfAdjustments,
    encodeUnsigned 2 header.log2NumberOfDctPartitions,
    header.quantIndices.encode,
    encodeFlag header.refreshEntropyProbs,
    encodeTokenProbUpdate header.tokenProbUpdate,
    encodeFlagged (encodeUnsigned 8) 128 header.probSkipFalse]

def InterFrameHeader.encode (header : InterFrameHeader) : SymbolWriter :=
  concat [
    encodeFlagged UpdateSegmentation.encode 128 header.updateSegmentation,
    encodeFlag header.filterType,
    encodeUnsigned 6 header.loopFilterLevel,
    encodeUnsigned 3 header.sharpnessLevel,
    encodeFlagged (encodeFlagged ModeRefLFDeltaUpdate.encode 128) 128
      header.modeLfAdjustments,
    encodeUnsigned 2 header.log2NumberOfDctPartitions,
    header.quantIndices.encode,
    encodeFlag header.refreshGoldenFrame,
    encodeFlag header.refreshAlternateFrame,
    encodeOptional (encodeUnsigned 2) header.copyBufferToGolden,
    encodeOptional (encodeUnsigned 2) header.copyBufferToAlternate,
    encodeFlag header.signBiasGolden,
    encodeFlag header.signBiasAlternate,
    encodeFlag header.refreshEntropyProbs,
    encodeFlag header.refreshLast,
    encodeTokenProbUpdate header.tokenProbUpdate,
    encodeFlagged (encodeUnsigned 8) 128 header.probSkipFalse,
    encodeUnsigned 8 header.probInter,
    encodeUnsigned 8 header.probReferencesLast,
    encodeUnsigned 8 header.probReferencesGolden,
    encodeFlagged (fun probs => array 4 fun i => encodeUnsigned 8 (probs i))
      128 header.intra16x16Prob,
    encodeFlagged (fun probs => array 3 fun i => encodeUnsigned 8 (probs i))
      128 header.intraChromaProb,
    encodeMvProbUpdate header.mvProbUpdate]

variable {Answers : Bool → Prop}

theorem flag_echoes : Echoes Answers [] flag flag encodeFlag :=
  boolean_echoes 128

theorem combine_toNat {width : Nat} (hwidth : width < 8) (bit : Bool)
    {rest : UInt8} (hrest : rest.toNat < 2 ^ width) :
    (bit.toUInt8 <<< UInt8.ofNat width ||| rest).toNat =
      2 ^ width * bit.toNat + rest.toNat := by
  have hshift : (bit.toUInt8 <<< UInt8.ofNat width).toNat =
      2 ^ width * bit.toNat := by
    have hpow : 2 ^ width < 256 :=
      Nat.pow_lt_pow_right (by decide) hwidth
    rw [UInt8.toNat_shiftLeft, UInt8.toNat_ofNat', Nat.shiftLeft_eq,
      Nat.mod_eq_of_lt (show width < 256 by omega), Nat.mod_eq_of_lt hwidth]
    cases bit with
    | false => exact Nat.zero_mul _ ▸ rfl
    | true =>
        change 1 * 2 ^ width % 256 = 2 ^ width * 1
        rw [Nat.one_mul, Nat.mul_one, Nat.mod_eq_of_lt hpow]
  rw [UInt8.toNat_or, hshift, Nat.two_pow_add_eq_or_of_lt hrest]

theorem unsigned_lt {width : Nat} (hwidth : width ≤ 8) :
    (unsigned width).Yields Answers fun num => num.toNat < 2 ^ width := by
  induction width with
  | zero => exact Nat.zero_lt_one
  | succ width ih =>
      intro bit
      apply (ih (by omega)).bind
      intro rest hrest
      change (bit.toUInt8 <<< UInt8.ofNat width ||| rest).toNat <
        2 ^ (width + 1)
      have hbit : bit.toNat < 2 := Bool.toNat_lt bit
      rw [combine_toNat (by omega) bit hrest, Nat.pow_succ]
      cases bit with
      | false => simpa using by omega
      | true => simpa using by omega

theorem encodeUnsigned_congr {width : Nat} {num other : UInt8}
    (h : ∀ bit < width, num.toNat.testBit bit = other.toNat.testBit bit) :
    encodeUnsigned width num = encodeUnsigned width other := by
  induction width with
  | zero => rfl
  | succ width ih =>
      rw [encodeUnsigned, encodeUnsigned, h width (Nat.lt_succ_self width),
        ih fun bit hbit => h bit (Nat.lt_succ_of_lt hbit)]

theorem unsigned_echoes {width : Nat} (hwidth : width ≤ 8) :
    Echoes Answers [] (unsigned width) (unsigned width)
      (encodeUnsigned width) := by
  induction width with
  | zero => exact echoes_pure rfl
  | succ width ih =>
      apply flag_echoes.bind
      intro bit symbols hsymbols
      cases hsymbols
      apply (ih (by omega)).bind_of (unsigned_lt (by omega))
      intro rest symbols hrest hsymbols
      apply echoes_pure
      have hvalue := combine_toNat (by omega) bit hrest
      have htop : (bit.toUInt8 <<< UInt8.ofNat width ||| rest).toNat.testBit
          width = bit := by
        rw [hvalue, Nat.testBit_two_pow_mul_add _ hrest,
          if_neg (Nat.lt_irrefl width), Nat.sub_self]
        cases bit <;> rfl
      have hlow : encodeUnsigned width
          (bit.toUInt8 <<< UInt8.ofNat width ||| rest) = .ok symbols := by
        rw [← hsymbols]
        refine encodeUnsigned_congr fun position hposition => ?_
        rw [hvalue, Nat.testBit_two_pow_mul_add _ hrest, if_pos hposition]
      rw [encodeUnsigned, htop, hlow]
      rfl

theorem signed_value : ∀ magnitude : Fin 128, ∀ negative : Bool,
    let num : Int8 := if negative then -(UInt8.ofNat magnitude).toInt8
      else (UInt8.ofNat magnitude).toInt8
    UInt8.ofNat num.toInt.natAbs = UInt8.ofNat magnitude ∧
      (if num < 0 then -(UInt8.ofNat magnitude).toInt8
        else (UInt8.ofNat magnitude).toInt8) = num := by
  decide +kernel

theorem signed_echoes {width : Nat} (hwidth : width ≤ 7) :
    Echoes Answers [] (signed width) (signed width) (encodeSigned width) := by
  apply (unsigned_echoes (by omega)).bind_of (unsigned_lt (by omega))
  intro magnitude symbols hlt hsymbols negative
  have hsmall : magnitude.toNat < 128 :=
    Nat.lt_of_lt_of_le hlt (Nat.pow_le_pow_right (by decide) hwidth)
  have hvalue := signed_value ⟨magnitude.toNat, hsmall⟩ negative
  simp only [UInt8.ofNat_toNat] at hvalue
  obtain ⟨habs, hagain⟩ := hvalue
  change ∃ rest, encodeSigned width (if negative then -magnitude.toInt8
    else magnitude.toInt8) = _ ∧ BitParser.Consumes _ rest _
  generalize (if negative then -magnitude.toInt8 else magnitude.toInt8) = num
    at habs hagain
  refine ⟨[(128, decide (num < 0))], ?_, decide (num < 0), [], rfl, rfl, ?_⟩
  · rw [encodeSigned, habs, hsymbols]
    rfl
  · simp only [decide_eq_true_eq]
    exact hagain

theorem optional_echoes {α : Type} {element again : Parser α}
    {encode : α → SymbolWriter} (h : Echoes Answers [] element again encode)
    (isPresent : Bool) :
    Echoes Answers [] (optional isPresent element) (optional isPresent again)
      (encodeOptional encode) := by
  cases isPresent with
  | false => exact echoes_pure rfl
  | true => exact h.map fun _ => rfl

theorem flagged_echoes {α : Type} {element again : Parser α}
    {encode : α → SymbolWriter} (h : Echoes Answers [] element again encode)
    (probability : Probability) :
    Echoes Answers [] (flagged element probability) (flagged again probability)
      (encodeFlagged encode probability) := by
  apply (boolean_echoes probability).bind
  intro isPresent symbols hsymbols
  cases hsymbols
  cases isPresent with
  | false => exact echoes_pure rfl
  | true =>
      apply Yields.bind h
      rintro value ⟨rest, hrest, hvalue⟩
      refine ⟨rest, ?_, hvalue.map some⟩
      rw [List.nil_append] at hrest
      rw [encodeFlagged, encodeOptional, hrest]
      rfl

theorem quantIndices_echoes :
    Echoes Answers [] QuantIndices.parse QuantIndices.parse
      QuantIndices.encode := by
  have hdelta : Echoes Answers [] (flagged (signed 4)) (flagged (signed 4))
      (encodeFlagged (encodeSigned 4) 128) :=
    flagged_echoes (signed_echoes (by decide)) 128
  apply (unsigned_echoes (by decide)).bind
  intro yAcQi first hfirst
  apply hdelta.bind
  intro yDc second hsecond
  apply hdelta.bind
  intro y2Dc third hthird
  apply hdelta.bind
  intro y2Ac fourth hfourth
  apply hdelta.bind
  intro uvDc fifth hfifth
  apply hdelta.bind
  intro uvAc sixth hsixth
  apply echoes_pure
  simp only [QuantIndices.encode, BitWriter.concat_cons, BitWriter.concat_nil,
    hfirst, hsecond, hthird, hfourth, hfifth, hsixth, BitWriter.append_ok,
    List.append_assoc, List.nil_append, List.append_nil]

theorem deltaUpdate_echoes :
    Echoes Answers [] ModeRefLFDeltaUpdate.parse ModeRefLFDeltaUpdate.parse
      ModeRefLFDeltaUpdate.encode := by
  have helement := echoes_array fun _ : Fin 4 =>
    (flagged_echoes (signed_echoes (by decide : 6 ≤ 7)) 128 :
      Echoes Answers [] (flagged (signed 6)) _ _)
  apply helement.bind
  intro refUpdate first hfirst
  apply helement.bind
  intro modeUpdate second hsecond
  apply echoes_pure
  simp only [ModeRefLFDeltaUpdate.encode, BitWriter.concat_cons,
    BitWriter.concat_nil, hfirst, hsecond, BitWriter.append_ok,
    List.nil_append, List.append_nil]

theorem segmentFeatureData_echoes :
    Echoes Answers [] SegmentFeatureData.parse SegmentFeatureData.parse
      SegmentFeatureData.encode := by
  apply flag_echoes.bind
  intro segmentFeatureMode first hfirst
  apply (echoes_array fun _ : Fin 4 =>
    flagged_echoes (signed_echoes (by decide : 7 ≤ 7)) 128).bind
  intro quantizerUpdate second hsecond
  apply (echoes_array fun _ : Fin 4 =>
    flagged_echoes (signed_echoes (by decide : 6 ≤ 7)) 128).bind
  intro loopFilterUpdate third hthird
  apply echoes_pure
  simp only [SegmentFeatureData.encode, BitWriter.concat_cons,
    BitWriter.concat_nil, hfirst, hsecond, hthird, BitWriter.append_ok,
    List.append_assoc, List.nil_append, List.append_nil]

theorem updateSegmentation_echoes :
    Echoes Answers [] UpdateSegmentation.parse UpdateSegmentation.parse
      UpdateSegmentation.encode := by
  apply flag_echoes.bind
  intro updateMbSegmentationMap first hfirst
  apply (flagged_echoes segmentFeatureData_echoes 128).bind
  intro segmentFeatureData second hsecond
  apply (optional_echoes (echoes_array fun _ : Fin 3 =>
    flagged_echoes (unsigned_echoes (by decide : 8 ≤ 8)) 128) _).bind
  intro mbSegmentationMap third hthird
  apply echoes_pure
  simp only [UpdateSegmentation.encode, BitWriter.concat_cons,
    BitWriter.concat_nil, hfirst, hsecond, hthird, BitWriter.append_ok,
    List.append_assoc, List.nil_append, List.append_nil]

theorem tokenProbUpdate_echoes :
    Echoes Answers [] parseTokenProbUpdate parseTokenProbUpdate
      encodeTokenProbUpdate :=
  echoes_array fun i => echoes_array fun j => echoes_array fun k =>
    echoes_array fun l => flagged_echoes (unsigned_echoes (by decide : 8 ≤ 8))
      ((((kCoeffEntropyUpdateProbs.get i).get j).get k).get l)

theorem mvProbUpdate_echoes :
    Echoes Answers [] parseMvProbUpdate parseMvProbUpdate encodeMvProbUpdate :=
  echoes_array fun i => echoes_array fun j =>
    flagged_echoes (unsigned_echoes (by decide : 7 ≤ 8))
      ((kMvEntropyUpdateProbs.get i).get j)

theorem modeLfAdjustments_echoes :
    Echoes Answers [] (flagged (flagged ModeRefLFDeltaUpdate.parse))
      (flagged (flagged ModeRefLFDeltaUpdate.parse))
      (encodeFlagged (encodeFlagged ModeRefLFDeltaUpdate.encode 128) 128) :=
  flagged_echoes (flagged_echoes deltaUpdate_echoes 128) 128

theorem KeyFrameHeader.parse_echoes :
    Echoes Answers [] KeyFrameHeader.parse KeyFrameHeader.parse
      KeyFrameHeader.encode := by
  apply flag_echoes.bind
  intro colorSpace s1 h1
  apply flag_echoes.bind
  intro clampingType s2 h2
  apply (flagged_echoes updateSegmentation_echoes 128).bind
  intro updateSegmentation s3 h3
  apply flag_echoes.bind
  intro filterType s4 h4
  apply (unsigned_echoes (by decide)).bind
  intro loopFilterLevel s5 h5
  apply (unsigned_echoes (by decide)).bind
  intro sharpnessLevel s6 h6
  apply modeLfAdjustments_echoes.bind
  intro modeLfAdjustments s7 h7
  apply (unsigned_echoes (by decide)).bind
  intro log2NumberOfDctPartitions s8 h8
  apply quantIndices_echoes.bind
  intro quantIndices s9 h9
  apply flag_echoes.bind
  intro refreshEntropyProbs s10 h10
  apply tokenProbUpdate_echoes.bind
  intro tokenProbUpdate s11 h11
  apply (flagged_echoes (unsigned_echoes (by decide)) 128).bind
  intro probSkipFalse s12 h12
  split
  · exact echoes_fail _ _ _
  split
  · exact echoes_fail _ _ _
  apply echoes_pure
  simp only [KeyFrameHeader.encode, BitWriter.concat_cons,
    BitWriter.concat_nil, h1, h2, h3, h4, h5, h6, h7, h8, h9, h10, h11, h12,
    BitWriter.append_ok, List.append_assoc, List.nil_append, List.append_nil]

theorem InterFrameHeader.parse_echoes :
    Echoes Answers [] InterFrameHeader.parse InterFrameHeader.parse
      InterFrameHeader.encode := by
  have hbuffer (isPresent : Bool) : Echoes Answers []
      (optional isPresent (unsigned 2)) (optional isPresent (unsigned 2))
      (encodeOptional (encodeUnsigned 2)) :=
    optional_echoes (unsigned_echoes (by decide)) isPresent
  have hprobs (count : Nat) : Echoes Answers []
      (flagged (BitParser.array count fun _ => unsigned 8))
      (flagged (BitParser.array count fun _ => unsigned 8))
      (encodeFlagged (fun probs => array count fun i =>
        encodeUnsigned 8 (probs i)) 128) :=
    flagged_echoes (echoes_array fun _ => unsigned_echoes (by decide)) 128
  apply (flagged_echoes updateSegmentation_echoes 128).bind
  intro updateSegmentation s1 h1
  apply flag_echoes.bind
  intro filterType s2 h2
  apply (unsigned_echoes (by decide)).bind
  intro loopFilterLevel s3 h3
  apply (unsigned_echoes (by decide)).bind
  intro sharpnessLevel s4 h4
  apply modeLfAdjustments_echoes.bind
  intro modeLfAdjustments s5 h5
  apply (unsigned_echoes (by decide)).bind
  intro log2NumberOfDctPartitions s6 h6
  apply quantIndices_echoes.bind
  intro quantIndices s7 h7
  apply flag_echoes.bind
  intro refreshGoldenFrame s8 h8
  apply flag_echoes.bind
  intro refreshAlternateFrame s9 h9
  apply (hbuffer _).bind
  intro copyBufferToGolden s10 h10
  apply (hbuffer _).bind
  intro copyBufferToAlternate s11 h11
  apply flag_echoes.bind
  intro signBiasGolden s12 h12
  apply flag_echoes.bind
  intro signBiasAlternate s13 h13
  apply flag_echoes.bind
  intro refreshEntropyProbs s14 h14
  apply flag_echoes.bind
  intro refreshLast s15 h15
  apply tokenProbUpdate_echoes.bind
  intro tokenProbUpdate s16 h16
  apply (flagged_echoes (unsigned_echoes (by decide)) 128).bind
  intro probSkipFalse s17 h17
  apply (unsigned_echoes (by decide)).bind
  intro probInter s18 h18
  apply (unsigned_echoes (by decide)).bind
  intro probReferencesLast s19 h19
  apply (unsigned_echoes (by decide)).bind
  intro probReferencesGolden s20 h20
  apply (hprobs 4).bind
  intro intra16x16Prob s21 h21
  apply (hprobs 3).bind
  intro intraChromaProb s22 h22
  apply mvProbUpdate_echoes.bind
  intro mvProbUpdate s23 h23
  split
  · exact echoes_fail _ _ _
  apply echoes_pure
  simp only [InterFrameHeader.encode, BitWriter.concat_cons,
    BitWriter.concat_nil, h1, h2, h3, h4, h5, h6, h7, h8, h9, h10, h11, h12,
    h13, h14, h15, h16, h17, h18, h19, h20, h21, h22, h23,
    BitWriter.append_ok, List.append_assoc, List.nil_append, List.append_nil]

end Salsify.Codec
