import Salsify.Coder.BoolDecoder
import Salsify.Codec.CoeffTables
import Salsify.Codec.Modes
import Salsify.Lib.BitParser
import Salsify.Net.Packet

namespace Salsify.Codec

open Salsify.Coder (Probability BoolDecoder)
open Salsify.Net (Failure)

/-! The elements of `decoder/vp8_header_structures.hh` and the frame headers of
`decoder/frame_header.hh`. -/

abbrev Parser := BitParser Probability Failure

def boolDecoder : BitSource Probability BoolDecoder where
  get decoder probability := decoder.get probability
  valid decoder := decoder.valid

abbrev SafeArray (α : Type) (size : Nat) := Fin size → α

def boolean (probability : Probability := 128) : Parser Bool :=
  .get probability .done

abbrev flag : Parser Bool := boolean

/-- The most significant bit comes first. -/
def unsigned : Nat → Parser UInt8
  | 0 => pure 0
  | width + 1 => do
      let bit ← boolean
      let rest ← unsigned width
      return (bit.toUInt8 <<< UInt8.ofNat width) ||| rest

def signed (width : Nat) : Parser Int8 := do
  let magnitude ← unsigned width
  let negative ← boolean
  return if negative then -magnitude.toInt8 else magnitude.toInt8

/-- `Optional<T>( is_present, ... )` -/
def optional {α : Type} (isPresent : Bool) (element : Parser α) :
    Parser (Option α) :=
  if isPresent then some <$> element else pure none

def flagged {α : Type} (element : Parser α)
    (probability : Probability := 128) : Parser (Option α) := do
  let isPresent ← boolean probability
  optional isPresent element

/-- The loop of `BoolDecoder::tree` from the pair at `index`. -/
def treeFrom (nodes : List TreeNode) (probabilities : List Probability) :
    Nat → Nat → Parser Nat
  | 0, _ => .fail (.undefinedBehaviour "endless tree")
  | fuel + 1, index =>
      match probabilities[index / 2]? with
      | none => .fail (.assertion "index < size()")
      | some probability => do
          let bit ← boolean probability
          match nodes[index + bit.toNat]? with
          | none => .fail (.assertion "index < size()")
          | some node =>
              if 0 < node then
                treeFrom nodes probabilities fuel node.toNat
              else
                return (-node).toNat

/-- Each turn of the loop is at a later pair of the trees in use. -/
def tree (nodes : List TreeNode) (probabilities : List Probability) :
    Parser Nat :=
  treeFrom nodes probabilities nodes.length 0

/-- `Tree< enumeration, ... >` -/
def treeOf {α : Type} (values : List α) (nodes : List TreeNode)
    (probabilities : List Probability) : Parser α := do
  let leaf ← tree nodes probabilities
  match values[leaf]? with
  | some value => return value
  | none => .fail (.undefinedBehaviour "static_cast< T >( -i )")

structure QuantIndices where
  yAcQi : UInt8
  yDc : Option Int8
  y2Dc : Option Int8
  y2Ac : Option Int8
  uvDc : Option Int8
  uvAc : Option Int8

def QuantIndices.parse : Parser QuantIndices := do
  let yAcQi ← unsigned 7
  let yDc ← flagged (signed 4)
  let y2Dc ← flagged (signed 4)
  let y2Ac ← flagged (signed 4)
  let uvDc ← flagged (signed 4)
  let uvAc ← flagged (signed 4)
  return { yAcQi, yDc, y2Dc, y2Ac, uvDc, uvAc }

structure ModeRefLFDeltaUpdate where
  refUpdate : SafeArray (Option Int8) 4
  modeUpdate : SafeArray (Option Int8) 4

def ModeRefLFDeltaUpdate.parse : Parser ModeRefLFDeltaUpdate := do
  let refUpdate ← .array 4 fun _ => flagged (signed 6)
  let modeUpdate ← .array 4 fun _ => flagged (signed 6)
  return { refUpdate, modeUpdate }

structure SegmentFeatureData where
  segmentFeatureMode : Bool
  quantizerUpdate : SafeArray (Option Int8) 4
  loopFilterUpdate : SafeArray (Option Int8) 4

def SegmentFeatureData.parse : Parser SegmentFeatureData := do
  let segmentFeatureMode ← flag
  let quantizerUpdate ← .array 4 fun _ => flagged (signed 7)
  let loopFilterUpdate ← .array 4 fun _ => flagged (signed 6)
  return { segmentFeatureMode, quantizerUpdate, loopFilterUpdate }

structure UpdateSegmentation where
  updateMbSegmentationMap : Bool
  segmentFeatureData : Option SegmentFeatureData
  mbSegmentationMap : Option (SafeArray (Option UInt8) 3)

def UpdateSegmentation.parse : Parser UpdateSegmentation := do
  let updateMbSegmentationMap ← flag
  let segmentFeatureData ← flagged SegmentFeatureData.parse
  let mbSegmentationMap ← optional updateMbSegmentationMap
    (.array 3 fun _ => flagged (unsigned 8))
  return { updateMbSegmentationMap, segmentFeatureData, mbSegmentationMap }

abbrev TokenProbUpdate :=
  SafeArray (SafeArray (SafeArray (SafeArray (Option UInt8) 11) 3) 8) 4

def parseTokenProbUpdate : Parser TokenProbUpdate :=
  .array 4 fun i => .array 8 fun j => .array 3 fun k => .array 11 fun l =>
    flagged (unsigned 8) ((((kCoeffEntropyUpdateProbs.get i).get j).get k).get l)

def readHalfProb (halfProb : UInt8) : UInt8 :=
  if halfProb ≠ 0 then halfProb <<< (1 : UInt8) else 1

abbrev MVProbUpdate := SafeArray (SafeArray (Option UInt8) 19) 2

def parseMvProbUpdate : Parser MVProbUpdate :=
  .array 2 fun i => .array 19 fun j =>
    flagged (unsigned 7) ((kMvEntropyUpdateProbs.get i).get j)

structure KeyFrameHeader where
  colorSpace : Bool
  clampingType : Bool
  updateSegmentation : Option UpdateSegmentation
  filterType : Bool
  loopFilterLevel : UInt8
  sharpnessLevel : UInt8
  modeLfAdjustments : Option (Option ModeRefLFDeltaUpdate)
  log2NumberOfDctPartitions : UInt8
  quantIndices : QuantIndices
  refreshEntropyProbs : Bool
  tokenProbUpdate : TokenProbUpdate
  probSkipFalse : Option UInt8

def KeyFrameHeader.parse : Parser KeyFrameHeader := do
  let colorSpace ← flag
  let clampingType ← flag
  let updateSegmentation ← flagged UpdateSegmentation.parse
  let filterType ← flag
  let loopFilterLevel ← unsigned 6
  let sharpnessLevel ← unsigned 3
  let modeLfAdjustments ← flagged (flagged ModeRefLFDeltaUpdate.parse)
  let log2NumberOfDctPartitions ← unsigned 2
  let quantIndices ← QuantIndices.parse
  let refreshEntropyProbs ← flag
  let tokenProbUpdate ← parseTokenProbUpdate
  let probSkipFalse ← flagged (unsigned 8)
  if colorSpace || clampingType then
    .fail (.unsupported "VP8 color_space and clamping_type bits")
  else if filterType then
    .fail (.unsupported "VP8 'simple' in-loop deblocking filter")
  else
    return { colorSpace, clampingType, updateSegmentation, filterType
             loopFilterLevel, sharpnessLevel, modeLfAdjustments
             log2NumberOfDctPartitions, quantIndices, refreshEntropyProbs
             tokenProbUpdate, probSkipFalse }

structure InterFrameHeader where
  updateSegmentation : Option UpdateSegmentation
  filterType : Bool
  loopFilterLevel : UInt8
  sharpnessLevel : UInt8
  modeLfAdjustments : Option (Option ModeRefLFDeltaUpdate)
  log2NumberOfDctPartitions : UInt8
  quantIndices : QuantIndices
  refreshGoldenFrame : Bool
  refreshAlternateFrame : Bool
  copyBufferToGolden : Option UInt8
  copyBufferToAlternate : Option UInt8
  signBiasGolden : Bool
  signBiasAlternate : Bool
  refreshEntropyProbs : Bool
  refreshLast : Bool
  tokenProbUpdate : TokenProbUpdate
  probSkipFalse : Option UInt8
  probInter : UInt8
  probReferencesLast : UInt8
  probReferencesGolden : UInt8
  intra16x16Prob : Option (SafeArray UInt8 4)
  intraChromaProb : Option (SafeArray UInt8 3)
  mvProbUpdate : MVProbUpdate

def InterFrameHeader.parse : Parser InterFrameHeader := do
  let updateSegmentation ← flagged UpdateSegmentation.parse
  let filterType ← flag
  let loopFilterLevel ← unsigned 6
  let sharpnessLevel ← unsigned 3
  let modeLfAdjustments ← flagged (flagged ModeRefLFDeltaUpdate.parse)
  let log2NumberOfDctPartitions ← unsigned 2
  let quantIndices ← QuantIndices.parse
  let refreshGoldenFrame ← flag
  let refreshAlternateFrame ← flag
  let copyBufferToGolden ← optional (!refreshGoldenFrame) (unsigned 2)
  let copyBufferToAlternate ← optional (!refreshAlternateFrame) (unsigned 2)
  let signBiasGolden ← flag
  let signBiasAlternate ← flag
  let refreshEntropyProbs ← flag
  let refreshLast ← flag
  let tokenProbUpdate ← parseTokenProbUpdate
  let probSkipFalse ← flagged (unsigned 8)
  let probInter ← unsigned 8
  let probReferencesLast ← unsigned 8
  let probReferencesGolden ← unsigned 8
  let intra16x16Prob ← flagged (.array 4 fun _ => unsigned 8)
  let intraChromaProb ← flagged (.array 3 fun _ => unsigned 8)
  let mvProbUpdate ← parseMvProbUpdate
  if filterType then
    .fail (.unsupported "VP8 'simple' in-loop deblocking filter")
  else
    return { updateSegmentation, filterType, loopFilterLevel, sharpnessLevel
             modeLfAdjustments, log2NumberOfDctPartitions, quantIndices
             refreshGoldenFrame, refreshAlternateFrame, copyBufferToGolden
             copyBufferToAlternate, signBiasGolden, signBiasAlternate
             refreshEntropyProbs, refreshLast, tokenProbUpdate, probSkipFalse
             probInter, probReferencesLast, probReferencesGolden
             intra16x16Prob, intraChromaProb, mvProbUpdate }

end Salsify.Codec
