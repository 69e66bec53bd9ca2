import Salsify.Codec.Concealment
import Salsify.Codec.FrameCodec

namespace Salsify.Codec

open Salsify.Coder (Probability)
open Salsify.Net (Failure)

/-! Inter frames whose macroblock headers are read from nothing but zeros, and
so written with few bits. -/

theorem readsZeros_get {α : Type} {probability : Probability}
    {next : Bool → Parser α} {value : α} (h : ReadsZeros (next false) value) :
    ReadsZeros (.get probability next) value := by
  intro decoder hspent
  obtain ⟨hbit, hrest⟩ := hspent.get probability
  rw [BitParser.run_get]
  change ∃ last, (next (decoder.get probability).1).run boolDecoder
    (decoder.get probability).2 = .ok (value, last) ∧ last.Spent
  rw [hbit]
  exact h _ hrest

theorem readsZeros_valid {α : Type} {next : Bool → Parser α} {value : α}
    (h : ∀ answer, ReadsZeros (next answer) value) :
    ReadsZeros (.valid next) value :=
  fun decoder hspent => h _ decoder hspent

/-- A macroblock header read from zeros, in a frame without segmentation and
without skipped macroblocks. -/
structure PlainHeader (mb : InterFrameMacroblock) : Prop where
  segmentIdUpdate : mb.segmentIdUpdate = none
  mbSkipCoeff : mb.mbSkipCoeff = none
  isInterMb : mb.header.isInterMb = false
  mbRefFrameSel1 : mb.header.mbRefFrameSel1 = none
  mbRefFrameSel2 : mb.header.mbRefFrameSel2 = none

structure Plain (mb : InterFrameMacroblock) : Prop extends PlainHeader mb where
  mode : mb.Y2.predictionMode = .dcPred
  uvMode : (mb.U 0 0).predictionMode = .dcPred

theorem parseSubblockModes_plain
    {probs : Square YBlock 4 → Fin 4 → Fin 4 → Parser (List Probability)} :
    (places : List (Fin 4 × Fin 4)) → (Y : Square YBlock 4) →
    ∃ last, ReadsZeros (parseSubblockModes .dcPred probs places Y) last
  | [], Y => ⟨Y, readsZeros_pure Y⟩
  | _ :: rest, _ => parseSubblockModes_plain rest _

theorem InterFrameMacroblock.decodeModes_plain (tables : ProbabilityTables)
    (context : Context InterFrameMacroblock) {mb : InterFrameMacroblock}
    (h : PlainHeader mb) :
    ∃ decoded, ReadsZeros (decodePredictionModes tables false context mb)
      decoded ∧ Plain decoded := by
  obtain ⟨Y, hY⟩ := @parseSubblockModes_plain
    (fun _ _ _ => pure invariantBModeProbs) subblocks mb.Y
  let decoded : InterFrameMacroblock := { mb with
    Y2 := Block.setIfCoded { mb.Y2 with predictionMode := .dcPred }
    Y
    U := mb.U.set 0 0 { mb.U 0 0 with predictionMode := .dcPred } }
  have hintra : ReadsZeros (decodeIntraModes tables mb) decoded :=
    ReadsZeros.bind (readsZeros_get (readsZeros_pure MbMode.dcPred))
      (hY.bind (ReadsZeros.bind
        (readsZeros_get (readsZeros_pure MbMode.dcPred)) (readsZeros_pure _)))
  refine ⟨decoded, readsZeros_valid fun answer => ?_,
    { h with mode := rfl, uvMode := rfl }⟩
  rw [Bool.false_and, if_neg Bool.false_ne_true, decodeModes, interCoded,
    h.isInterMb, if_neg Bool.false_ne_true]
  exact hintra

theorem Macroblock.parse_plain {header : InterFrameHeader}
    (hsegmentation : header.updateSegmentation = none)
    (hskip : header.probSkipFalse = none)
    (mbSegmentTreeProbs : List Probability) (tables : ProbabilityTables)
    (context : Context InterFrameMacroblock) :
    ∃ mb, ReadsZeros (Macroblock.parse header mbSegmentTreeProbs tables false
      context) mb ∧ Plain mb := by
  have hsegment : ReadsZeros (orZero false (parseSegmentIdUpdate header
      mbSegmentTreeProbs)) none := by
    have hnone : HeaderType.updateSegmentation header = none := hsegmentation
    refine readsZeros_valid fun answer => ?_
    rw [parseSegmentIdUpdate, hnone]
    exact readsZeros_pure none
  have hskipped : ReadsZeros (orZero false (parseMbSkipCoeff header)) none := by
    have hnone : HeaderType.probSkipFalse header = none := hskip
    refine readsZeros_valid fun answer => ?_
    rw [parseMbSkipCoeff, hnone]
    exact readsZeros_pure none
  let mbHeader : InterFrameMacroblockHeader := {
    isInterMb := false, mbRefFrameSel1 := none, mbRefFrameSel2 := none
    motionVectorsFlipped := false }
  have hheader : ReadsZeros (InterFrameMacroblockHeader.parse header)
      mbHeader :=
    readsZeros_get (readsZeros_pure mbHeader)
  let start : InterFrameMacroblock := {
    column := context.column, row := context.row, segmentIdUpdate := none
    mbSkipCoeff := none, header := mbHeader }
  have hstart : PlainHeader start := ⟨rfl, rfl, rfl, rfl, rfl⟩
  obtain ⟨mb, hmb, hplain⟩ := InterFrameMacroblock.decodeModes_plain tables
    context hstart
  exact ⟨mb, hsegment.bind (hskipped.bind (ReadsZeros.bind
    (readsZeros_valid fun answer => hheader) hmb)), hplain⟩

theorem parseMacroblocks_plain {header : InterFrameHeader}
    (hsegmentation : header.updateSegmentation = none)
    (hskip : header.probSkipFalse = none) (tables : ProbabilityTables)
    (width height : Nat) :
    (places : List (Nat × Nat)) → (before : List InterFrameMacroblock) →
    (∀ mb ∈ before, Plain mb) →
    ∃ all, ReadsZeros (parseMacroblocks header tables false width height places
      before) all ∧ all.length = before.length + places.length ∧
      ∀ mb ∈ all, Plain mb
  | [], before, hbefore => ⟨before, readsZeros_pure before, rfl, hbefore⟩
  | place :: rest, before, hbefore => by
      obtain ⟨mb, hmb, hplain⟩ := Macroblock.parse_plain hsegmentation hskip
        (calculateMbSegmentTreeProbs (HeaderType.updateSegmentation header))
        tables (contextAt width height before place)
      obtain ⟨all, hall, hlength, hplains⟩ := parseMacroblocks_plain
        hsegmentation hskip tables width height rest (before ++ [mb]) (by
          intro other hother
          rcases List.mem_append.mp hother with hother | hother
          · exact hbefore other hother
          · rw [List.mem_singleton.mp hother]
            exact hplain)
      refine ⟨all, hmb.bind hall, ?_, hplains⟩
      rw [hlength, List.length_append, List.length_singleton, List.length_cons]
      omega

theorem Plain.serialize {mb : InterFrameMacroblock} (h : Plain mb)
    (header : InterFrameHeader) (mbSegmentTreeProbs : List Probability)
    (tables : ProbabilityTables) (context : Context InterFrameMacroblock) :
    mb.serialize header mbSegmentTreeProbs tables context = .ok [
      (header.probInter, false), (tables.yModeProbs 0, false),
      (tables.uvModeProbs 0, false)] := by
  have hmode : encodeTreeOf MbMode.values yModeTree
      (List.ofFn tables.yModeProbs) .dcPred =
        .ok [(tables.yModeProbs 0, false)] := rfl
  have huvMode : encodeTreeOf MbMode.values uvModeTree
      (List.ofFn tables.uvModeProbs) .dcPred =
        .ok [(tables.uvModeProbs 0, false)] := rfl
  have hintra : InterFrameMacroblock.encodePredictionModes tables context mb =
      .ok [(tables.yModeProbs 0, false), (tables.uvModeProbs 0, false)] := by
    rw [InterFrameMacroblock.encodePredictionModes,
      InterFrameMacroblock.interCoded, h.isInterMb,
      if_neg Bool.false_ne_true, InterFrameMacroblock.encodeIntraModes, h.mode,
      h.uvMode, hmode, huvMode]
    rfl
  have hheader : InterFrameMacroblockHeader.encode header mb.header =
      .ok [(header.probInter, false)] := by
    rw [InterFrameMacroblockHeader.encode, h.isInterMb, h.mbRefFrameSel1,
      h.mbRefFrameSel2]
    rfl
  have hheader : HeaderWriter.encodeMacroblockHeader header mb.header =
      .ok [(header.probInter, false)] := hheader
  have hmodes : HeaderWriter.encodePredictionModes InterFrameHeader tables
      context mb =
        .ok [(tables.yModeProbs 0, false), (tables.uvModeProbs 0, false)] :=
    hintra
  rw [Macroblock.serialize, h.segmentIdUpdate, h.mbSkipCoeff, hheader, hmodes]
  rfl

theorem serializeHeaders_plain (header : InterFrameHeader)
    (tables : ProbabilityTables) (width height : Nat)
    {all : List InterFrameMacroblock} (h : ∀ mb ∈ all, Plain mb) :
    ∃ symbols, serializeHeaders header tables width height all = .ok symbols ∧
      symbols.length = all.length * 3 := by
  have hconcat := @BitWriter.concat_length Probability Failure 3 (all.map fun mb =>
    mb.serialize header (calculateMbSegmentTreeProbs
      (HeaderType.updateSegmentation header)) tables
      (contextAt width height all mb.place)) (by
    intro writer hwriter
    obtain ⟨mb, hmb, rfl⟩ := List.mem_map.mp hwriter
    exact ⟨_, (h mb hmb).serialize header _ tables _, rfl⟩)
  rw [List.length_map] at hconcat
  exact hconcat

end Salsify.Codec
