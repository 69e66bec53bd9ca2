import Mathlib.Data.Fin.VecNotation
import Mathlib.Logic.Equiv.Basic
import Salsify.Codec.MotionVector

namespace Salsify.Codec

open Salsify.Coder (Probability BoolDecoder)
open Salsify.Net (Failure)

/-! The macroblocks of `decoder/macroblock.cc` and the headers they are parsed
from. -/

inductive BlockType
  | yAfterY2 | y2 | uv | yWithoutY2
  deriving DecidableEq, Repr

structure Block (Mode : Type) where
  coefficients : SafeArray Int 16 := fun _ => 0
  type : BlockType
  predictionMode : Mode
  coded : Bool := true
  hasNonzero : Bool := false
  motionVector : MotionVector := {}

abbrev Y2Block := Block MbMode
abbrev YBlock := Block BMode
abbrev UVBlock := Block MbMode

def Block.setIfCoded (block : Y2Block) : Y2Block :=
  if block.predictionMode = .bPred ∨ block.predictionMode = .splitMv then
    { block with coded := false }
  else
    block

@[simp] theorem Block.setIfCoded_coefficients (block : Y2Block) :
    block.setIfCoded.coefficients = block.coefficients := by
  unfold Block.setIfCoded
  split <;> rfl

@[simp] theorem Block.setIfCoded_predictionMode (block : Y2Block) :
    block.setIfCoded.predictionMode = block.predictionMode := by
  unfold Block.setIfCoded
  split <;> rfl

abbrev Square (α : Type) (size : Nat) := Fin size → Fin size → α

namespace Square

variable {α : Type} {size : Nat} [NeZero size]

def set (square : Square α size) (column row : Fin size) (value : α) :
    Square α size :=
  fun i j => if i = column ∧ j = row then value else square i j

/-- The element to the left, in the last column of the square `left` for one in
the first column. -/
def leftOf (left : Option (Square α size)) (square : Square α size)
    (column row : Fin size) : Option α :=
  if column = 0 then left.map fun other => other (column - 1) row
  else some (square (column - 1) row)

def aboveOf (above : Option (Square α size)) (square : Square α size)
    (column row : Fin size) : Option α :=
  if row = 0 then above.map fun other => other column (row - 1)
  else some (square column (row - 1))

end Square

/-- The place of an element in its grid, with the neighbours that come before
it. -/
structure Context (α : Type) where
  column : Nat
  row : Nat
  width : Nat
  height : Nat
  left : Option α
  aboveLeft : Option α
  above : Option α

structure Macroblock (MacroblockHeader : Type) where
  column : Nat
  row : Nat
  segmentIdUpdate : Option UInt8
  segmentId : UInt8 := 0
  mbSkipCoeff : Option Bool
  header : MacroblockHeader
  Y2 : Y2Block := { type := .y2, predictionMode := .dcPred }
  Y : Square YBlock 4 := fun _ _ =>
    { type := .yAfterY2, predictionMode := .bDcPred }
  U : Square UVBlock 2 := fun _ _ => { type := .uv, predictionMode := .dcPred }
  V : Square UVBlock 2 := fun _ _ => { type := .uv, predictionMode := .dcPred }
  hasNonzero : Bool := false

def impliedSubblockMode : MbMode → Parser BMode
  | .dcPred => pure .bDcPred
  | .vPred => pure .bVePred
  | .hPred => pure .bHePred
  | .tmPred => pure .bTmPred
  | _ => .fail .logicError

def found {α : Type} : Option α → Parser α
  | some value => pure value
  | none => .fail (.assertion "index < size()")

def subblocks : List (Fin 4 × Fin 4) :=
  [(0, 0), (1, 0), (2, 0), (3, 0), (0, 1), (1, 1), (2, 1), (3, 1),
   (0, 2), (1, 2), (2, 2), (3, 2), (0, 3), (1, 3), (2, 3), (3, 3)]

/-- Sets the mode of each subblock of an intra macroblock, read in turn with
the probabilities that `probs` gives where the macroblock is `B_PRED`. -/
def parseSubblockModes (mode : MbMode)
    (probs : Square YBlock 4 → Fin 4 → Fin 4 → Parser (List Probability)) :
    List (Fin 4 × Fin 4) → Square YBlock 4 → Parser (Square YBlock 4)
  | [], Y => pure Y
  | (column, row) :: rest, Y =>
      if mode = .bPred then do
        let probabilities ← probs Y column row
        let subblockMode ← treeOf BMode.values bModeTree probabilities
        parseSubblockModes mode probs rest (Y.set column row
          { Y column row with type := .yWithoutY2, predictionMode := subblockMode })
      else do
        let subblockMode ← impliedSubblockMode mode
        parseSubblockModes mode probs rest (Y.set column row
          { Y column row with predictionMode := subblockMode })

/-- No fields beyond what is in every macroblock. -/
structure KeyFrameMacroblockHeader where

abbrev KeyFrameMacroblock := Macroblock KeyFrameMacroblockHeader

def KeyFrameMacroblock.bModeProbs (context : Context KeyFrameMacroblock)
    (Y : Square YBlock 4) (column row : Fin 4) : Parser (List Probability) := do
  let aboveMode := (Square.aboveOf (context.above.map Macroblock.Y) Y column row).elim
    .bDcPred Block.predictionMode
  let leftMode := (Square.leftOf (context.left.map Macroblock.Y) Y column row).elim
    .bDcPred Block.predictionMode
  let rows ← found kfBModeProbs[BMode.values.idxOf aboveMode]?
  let probabilities ← found rows[BMode.values.idxOf leftMode]?
  return probabilities.toList

def KeyFrameMacroblock.decodePredictionModes
    (context : Context KeyFrameMacroblock) (mb : KeyFrameMacroblock) :
    Parser KeyFrameMacroblock := do
  let mode ← treeOf MbMode.values kfYModeTree kfYModeProbs
  let Y ← parseSubblockModes mode (KeyFrameMacroblock.bModeProbs context)
    subblocks mb.Y
  let uvMode ← treeOf MbMode.values uvModeTree kfUvModeProbs
  return { mb with
    Y2 := Block.setIfCoded { mb.Y2 with predictionMode := mode }
    Y
    U := mb.U.set 0 0 { mb.U 0 0 with predictionMode := uvMode } }

structure InterFrameMacroblockHeader where
  isInterMb : Bool
  mbRefFrameSel1 : Option Bool
  mbRefFrameSel2 : Option Bool
  motionVectorsFlipped : Bool
  partitionId : Option Nat := none

abbrev InterFrameMacroblock := Macroblock InterFrameMacroblockHeader

/-- There is none where a selector that is read was not sent. -/
def referenceOf (isInterMb : Bool)
    (mbRefFrameSel1 mbRefFrameSel2 : Option Bool) : Option ReferenceFrame :=
  if !isInterMb then some .currentFrame
  else
    match mbRefFrameSel1, mbRefFrameSel2 with
    | none, _ => none
    | some false, _ => some .lastFrame
    | some true, none => none
    | some true, some false => some .goldenFrame
    | some true, some true => some .altrefFrame

def InterFrameMacroblockHeader.reference
    (header : InterFrameMacroblockHeader) : Option ReferenceFrame :=
  referenceOf header.isInterMb header.mbRefFrameSel1 header.mbRefFrameSel2

def InterFrameMacroblockHeader.parse (frameHeader : InterFrameHeader) :
    Parser InterFrameMacroblockHeader := do
  let isInterMb ← boolean frameHeader.probInter
  let mbRefFrameSel1 ← optional isInterMb
    (boolean frameHeader.probReferencesLast)
  let mbRefFrameSel2 ← optional (mbRefFrameSel1.getD false)
    (boolean frameHeader.probReferencesGolden)
  let reference := referenceOf isInterMb mbRefFrameSel1 mbRefFrameSel2
  return {
    isInterMb, mbRefFrameSel1, mbRefFrameSel2
    motionVectorsFlipped :=
      (reference = some .goldenFrame && frameHeader.signBiasGolden) ||
      (reference = some .altrefFrame && frameHeader.signBiasAlternate) }

/-- The header of a macroblock whose own header is missing. -/
def InterFrameMacroblockHeader.missing : InterFrameMacroblockHeader where
  isInterMb := true
  mbRefFrameSel1 := some false
  mbRefFrameSel2 := none
  motionVectorsFlipped := false

structure Scorer where
  motionVectorsFlipped : Bool
  scores : SafeArray Nat 4 := fun _ => 0
  motionVectors : SafeArray MotionVector 4 := fun _ => {}
  splitmvScore : Nat := 0
  index : Fin 4 := 0

namespace InterFrameMacroblock

def interCoded (mb : InterFrameMacroblock) : Bool := mb.header.isInterMb

def baseMotionVector (mb : InterFrameMacroblock) : MotionVector :=
  (mb.Y 3 3).motionVector

def setBaseMotionVector (mb : InterFrameMacroblock) (mv : MotionVector) :
    InterFrameMacroblock :=
  { mb with Y := mb.Y.set 3 3 { mb.Y 3 3 with motionVector := mv } }

end InterFrameMacroblock

namespace Scorer

open InterFrameMacroblock

def addTo (scorer : Scorer) (index : Fin 4) (score : Nat) : Scorer :=
  { scorer with
    index
    scores := Function.update scorer.scores index (scorer.scores index + score) }

def addVector (scorer : Scorer) (score : Nat) (mv : MotionVector) : Scorer :=
  if mv.empty then
    { scorer with
      scores := Function.update scorer.scores 0 (scorer.scores 0 + score) }
  else if mv = scorer.motionVectors scorer.index then
    scorer.addTo scorer.index score
  else
    { scorer with
      motionVectors := Function.update scorer.motionVectors
        (scorer.index + 1) mv }.addTo (scorer.index + 1) score

def add (scorer : Scorer) (score : Nat) :
    Option InterFrameMacroblock → Scorer
  | none => scorer
  | some mb =>
      if interCoded mb then
        let mv := baseMotionVector mb
        let scored := scorer.addVector score
          (if mb.header.motionVectorsFlipped ≠ scorer.motionVectorsFlipped
            then mv.neg else mv)
        if mb.Y2.predictionMode = .splitMv then
          { scored with splitmvScore := scored.splitmvScore + score }
        else
          scored
      else
        scorer

/-- The third vector counts for the first when they are the same. -/
def mergeThird (scorer : Scorer) : Scorer :=
  if scorer.scores 3 ≠ 0 ∧
      scorer.motionVectors scorer.index = scorer.motionVectors 1 then
    { scorer with
      scores := Function.update scorer.scores 1
        (scorer.scores 1 + scorer.scores 3) }
  else
    scorer

def sortFirstTwo (scorer : Scorer) : Scorer :=
  if scorer.scores 2 > scorer.scores 1 then
    { scorer with
      scores := scorer.scores ∘ Equiv.swap 1 2
      motionVectors := scorer.motionVectors ∘ Equiv.swap 1 2 }
  else
    scorer

def chooseBest (scorer : Scorer) : Scorer :=
  if scorer.scores 1 ≥ scorer.scores 0 then
    { scorer with
      motionVectors := Function.update scorer.motionVectors 0
        (scorer.motionVectors 1) }
  else
    scorer

def calculate (scorer : Scorer) : Scorer :=
  scorer.mergeThird.sortFirstTwo.chooseBest

def best (scorer : Scorer) : MotionVector := scorer.motionVectors 0
def nearest (scorer : Scorer) : MotionVector := scorer.motionVectors 1
def near (scorer : Scorer) : MotionVector := scorer.motionVectors 2

def modeContexts (scorer : Scorer) : SafeArray Nat 4 :=
  ![scorer.scores 0, scorer.scores 1, scorer.scores 2, scorer.splitmvScore]

def clamp (mv : MotionVector) (context : Context InterFrameMacroblock) :
    MotionVector :=
  mv.clamp
    (max (-(context.column * 16 * 8 : Int) - 128) (-32768))
    (min (((context.width - 1 - context.column) * 16 * 8 : Nat) + 128) 32767)
    (max (-(context.row * 16 * 8 : Int) - 128) (-32768))
    (min (((context.height - 1 - context.row) * 16 * 8 : Nat) + 128) 32767)

end Scorer

namespace InterFrameMacroblock

def motionVectorCensus (context : Context InterFrameMacroblock)
    (motionVectorsFlipped : Bool) : Scorer :=
  ((({ motionVectorsFlipped } : Scorer).add 2 context.above).add 2
    context.left |>.add 1 context.aboveLeft).calculate

/-- The index into `submvRefProbs2` for the vectors left and above. -/
def submvRefIndex (leftMv aboveMv : MotionVector) : Fin 5 :=
  if leftMv = aboveMv ∧ leftMv.empty then 4
  else if leftMv = aboveMv then 3
  else if aboveMv.empty then 2
  else if leftMv.empty then 1
  else 0

def readSubblockInterPrediction (leftMv aboveMv bestMv : MotionVector)
    (motionVectorProbs : SafeArray (SafeArray Probability 19) 2)
    (block : YBlock) : Parser YBlock := do
  let mode ← treeOf BMode.values submvRefTree
    (submvRefProbs2.get (submvRefIndex leftMv aboveMv))
  match mode with
  | .left4x4 =>
      return { block with predictionMode := mode, motionVector := leftMv }
  | .above4x4 =>
      return { block with predictionMode := mode, motionVector := aboveMv }
  | .zero4x4 => return { block with predictionMode := mode }
  | .new4x4 => do
      let newMv ← MotionVector.parse motionVectorProbs
      return { block with
        predictionMode := mode, motionVector := newMv.add bestMv }
  | _ => .fail .logicError

/-- Copies the vector of a partition's first subblock to the rest of it. -/
def copySubblock (Y : Square YBlock 4) (first : YBlock) :
    List (Fin 4 × Fin 4) → Square YBlock 4
  | [] => Y
  | (column, row) :: rest =>
      copySubblock (Y.set column row { Y column row with
        predictionMode := first.predictionMode
        motionVector := first.motionVector
        type := .yWithoutY2 }) first rest

def parsePartitions (context : Context InterFrameMacroblock)
    (bestMv : MotionVector)
    (motionVectorProbs : SafeArray (SafeArray Probability 19) 2) :
    List (List (Fin 4 × Fin 4)) → Square YBlock 4 → Parser (Square YBlock 4)
  | [], Y => pure Y
  | [] :: rest, Y => parsePartitions context bestMv motionVectorProbs rest Y
  | ((column, row) :: others) :: rest, Y => do
      let leftMv := (Square.leftOf (context.left.map Macroblock.Y) Y column row).elim
        {} Block.motionVector
      let aboveMv := (Square.aboveOf (context.above.map Macroblock.Y) Y column
        row).elim {} Block.motionVector
      let first ← readSubblockInterPrediction leftMv aboveMv bestMv
        motionVectorProbs { Y column row with type := .yWithoutY2 }
      parsePartitions context bestMv motionVectorProbs rest
        (copySubblock (Y.set column row first) first others)

def decodeIntraModes (tables : ProbabilityTables) (mb : InterFrameMacroblock) :
    Parser InterFrameMacroblock := do
  let mode ← treeOf MbMode.values yModeTree (List.ofFn tables.yModeProbs)
  let Y ← parseSubblockModes mode (fun _ _ _ => pure invariantBModeProbs)
    subblocks mb.Y
  let uvMode ← treeOf MbMode.values uvModeTree (List.ofFn tables.uvModeProbs)
  return { mb with
    Y2 := Block.setIfCoded { mb.Y2 with predictionMode := mode }
    Y
    U := mb.U.set 0 0 { mb.U 0 0 with predictionMode := uvMode } }

def mvRefProbs (counts : SafeArray Nat 4) : Parser (SafeArray Probability 4) :=
  .array 4 fun i => (fun row => row.get i) <$> found mvCountsToProbs[counts i]?

/-- The mode of an inter macroblock, which is `ZEROMV` already where the
decoder has run out of data. -/
def decodeInterMode (errorConcealment : Bool) (census : Scorer)
    (Y2 : Y2Block) : Parser Y2Block := do
  let probs ← mvRefProbs census.modeContexts
  .valid fun valid =>
    if errorConcealment && !valid then
      pure Y2
    else do
      let mode ← treeOf MbMode.values mvRefTree (List.ofFn probs)
      return Block.setIfCoded { Y2 with predictionMode := mode }

def decodeMotionVectors (tables : ProbabilityTables)
    (context : Context InterFrameMacroblock) (census : Scorer)
    (mb : InterFrameMacroblock) : Parser InterFrameMacroblock :=
  match mb.Y2.predictionMode with
  | .nearestMv =>
      pure (setBaseMotionVector mb (Scorer.clamp census.nearest context))
  | .nearMv => pure (setBaseMotionVector mb (Scorer.clamp census.near context))
  | .zeroMv => pure (setBaseMotionVector mb {})
  | .newMv => do
      let newMv ← MotionVector.parse tables.motionVectorProbs
      return setBaseMotionVector mb
        (newMv.add (Scorer.clamp census.best context))
  | .splitMv => do
      let partitionId ← tree splitMvTree splitMvProbs
      let partitions ← found mvPartitions[partitionId]?
      let Y ← parsePartitions context (Scorer.clamp census.best context)
        tables.motionVectorProbs partitions mb.Y
      return { mb with
        header := { mb.header with partitionId := some partitionId }, Y }
  | _ => .fail .logicError

/-- The luma blocks of a row or column that a chroma block lies over. -/
def firstOfTwo (place : Fin 2) : Fin 4 := ⟨2 * place, by omega⟩
def secondOfTwo (place : Fin 2) : Fin 4 := ⟨2 * place + 1, by omega⟩

/-- Sets the vectors of the luma subblocks, unless they are split, and of the
chroma subblocks. -/
def setMotionVectors (mb : InterFrameMacroblock) : InterFrameMacroblock :=
  let Y : Square YBlock 4 :=
    if mb.Y2.predictionMode = .splitMv then mb.Y
    else fun column row =>
      { mb.Y column row with motionVector := baseMotionVector mb }
  let mv (column row : Fin 4) := (Y column row).motionVector
  { mb with
    Y
    U := fun column row => { mb.U column row with
      motionVector :=
        let left := firstOfTwo column
        let right := secondOfTwo column
        let top := firstOfTwo row
        let bottom := secondOfTwo row
        .lumaToChroma (mv left top) (mv right top) (mv left bottom)
          (mv right bottom) } }

/-- What a macroblock becomes when there is not enough data for its modes. -/
def conceal (mb : InterFrameMacroblock) : InterFrameMacroblock :=
  { mb with
    header := { mb.header with isInterMb := true }
    Y2 := Block.setIfCoded { mb.Y2 with predictionMode := .zeroMv } }

def decodeModes (tables : ProbabilityTables) (errorConcealment : Bool)
    (context : Context InterFrameMacroblock) (mb : InterFrameMacroblock) :
    Parser InterFrameMacroblock :=
  if interCoded mb then do
    let census := motionVectorCensus context mb.header.motionVectorsFlipped
    let Y2 ← decodeInterMode errorConcealment census mb.Y2
    let decoded ← decodeMotionVectors tables context census { mb with Y2 }
    return setMotionVectors decoded
  else
    decodeIntraModes tables mb

def decodePredictionModes (tables : ProbabilityTables)
    (errorConcealment : Bool) (context : Context InterFrameMacroblock)
    (mb : InterFrameMacroblock) : Parser InterFrameMacroblock :=
  .valid fun valid =>
    decodeModes tables errorConcealment context
      (if errorConcealment && !valid then conceal mb else mb)

end InterFrameMacroblock

/-- What the templates of frames and macroblocks take from the type of the
frame header. -/
class HeaderType (FrameHeader : Type)
    (MacroblockHeader : outParam Type) where
  parse : Parser FrameHeader
  updateSegmentation : FrameHeader → Option UpdateSegmentation
  log2NumberOfDctPartitions : FrameHeader → UInt8
  probSkipFalse : FrameHeader → Option UInt8
  parseMacroblockHeader : FrameHeader → Parser MacroblockHeader
  missingHeader : MacroblockHeader
  decodePredictionModes : ProbabilityTables → Bool →
    Context (Macroblock MacroblockHeader) → Macroblock MacroblockHeader →
    Parser (Macroblock MacroblockHeader)

instance : HeaderType KeyFrameHeader KeyFrameMacroblockHeader where
  parse := KeyFrameHeader.parse
  updateSegmentation := KeyFrameHeader.updateSegmentation
  log2NumberOfDctPartitions := KeyFrameHeader.log2NumberOfDctPartitions
  probSkipFalse := KeyFrameHeader.probSkipFalse
  parseMacroblockHeader _ := pure {}
  missingHeader := {}
  decodePredictionModes _ _ := KeyFrameMacroblock.decodePredictionModes

instance : HeaderType InterFrameHeader InterFrameMacroblockHeader where
  parse := InterFrameHeader.parse
  updateSegmentation := InterFrameHeader.updateSegmentation
  log2NumberOfDctPartitions := InterFrameHeader.log2NumberOfDctPartitions
  probSkipFalse := InterFrameHeader.probSkipFalse
  parseMacroblockHeader := InterFrameMacroblockHeader.parse
  missingHeader := .missing
  decodePredictionModes := InterFrameMacroblock.decodePredictionModes

/-- The parser, on the zero decoder once the data has run out under error
concealment. -/
def orZero {α : Type} (errorConcealment : Bool) (parser : Parser α) :
    Parser α :=
  .valid fun valid =>
    if errorConcealment && !valid then
      parser.answeredBy boolDecoder BoolDecoder.zeroDecoder
    else
      parser

section Parse

variable {FrameHeader MacroblockHeader : Type}
variable [HeaderType FrameHeader MacroblockHeader]

def parseSegmentIdUpdate (header : FrameHeader)
    (mbSegmentTreeProbs : List Probability) : Parser (Option UInt8) :=
  optional ((HeaderType.updateSegmentation header).elim false
      UpdateSegmentation.updateMbSegmentationMap) do
    let segment ← tree segmentIdTree mbSegmentTreeProbs
    return UInt8.ofNat segment

def parseMbSkipCoeff (header : FrameHeader) : Parser (Option Bool) :=
  optional (HeaderType.probSkipFalse header).isSome
    (boolean ((HeaderType.probSkipFalse header).getD 0))

def Macroblock.parse (header : FrameHeader)
    (mbSegmentTreeProbs : List Probability) (tables : ProbabilityTables)
    (errorConcealment : Bool)
    (context : Context (Macroblock MacroblockHeader)) :
    Parser (Macroblock MacroblockHeader) := do
  let segmentIdUpdate ← orZero errorConcealment
    (parseSegmentIdUpdate header mbSegmentTreeProbs)
  let mbSkipCoeff ← orZero errorConcealment (parseMbSkipCoeff header)
  let mbHeader ← .valid fun valid =>
    if errorConcealment && !valid then pure (HeaderType.missingHeader FrameHeader)
    else HeaderType.parseMacroblockHeader header
  HeaderType.decodePredictionModes FrameHeader tables errorConcealment context {
    column := context.column
    row := context.row
    segmentIdUpdate, mbSkipCoeff
    header := mbHeader }

end Parse

end Salsify.Codec
