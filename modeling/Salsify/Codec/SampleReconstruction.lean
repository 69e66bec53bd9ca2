import Salsify.Codec.IntraPrediction
import Salsify.Codec.InverseTransform

namespace Salsify.Codec

open Salsify.Net (Failure)
open Salsify.Encoder (fraction)
open Fallible (ok_bind bind_eq_ok)

/-! Reconstruction of the samples of a frame: `reconstruct_intra` and
`reconstruct_inter` of `decoder/macroblock.cc`, and `decode` of
`decoder/frame.cc`. -/

/-- `References`, whatever stands for a raster. -/
structure FrameReferences (α : Type) where
  last : α
  golden : α
  alternative : α

abbrev RasterReferences (displayWidth displayHeight : Nat) :=
  FrameReferences (VP8Raster displayWidth displayHeight)

section Reconstruct

variable {displayWidth displayHeight : Nat} {Header : Type}

/-- Of a reference that may not have been sent. -/
def RasterReferences.at
    (references : RasterReferences displayWidth displayHeight) :
    Option ReferenceFrame → Except Failure (VP8Raster displayWidth displayHeight)
  | some .lastFrame => .ok references.last
  | some .goldenFrame => .ok references.golden
  | some .altrefFrame => .ok references.alternative
  | some .currentFrame => .error .logicError
  | none => .error (.assertion "initialized()")

/-- `inter_predict( mv, reference )` -/
def RasterBlock.interPredict (block : RasterBlock) (mv : MotionVector)
    (reference : VP8Raster displayWidth displayHeight) :
    VP8Raster displayWidth displayHeight →
      Except Failure (VP8Raster displayWidth displayHeight) :=
  block.update fun contents =>
    Codec.interPredict block.column block.row mv
      (reference.plane block.component).toTwoDStorage contents

namespace Macroblock

/-- What is done only `if ( has_nonzero_ )`. -/
def ifNonzero (mb : Macroblock Header)
    (operation : VP8Raster displayWidth displayHeight →
      Except Failure (VP8Raster displayWidth displayHeight))
    (raster : VP8Raster displayWidth displayHeight) :
    Except Failure (VP8Raster displayWidth displayHeight) :=
  if mb.hasNonzero then operation raster else .ok raster

/-- `raster.Y`, `raster.U` or `raster.V` -/
def block (mb : Macroblock Header) : Component → RasterBlock
  | .Y => { component := .Y, size := 16, column := mb.column, row := mb.row }
  | .U => { component := .U, size := 8, column := mb.column, row := mb.row }
  | .V => { component := .V, size := 8, column := mb.column, row := mb.row }

/-- `raster.Y_sub_at( column, row )` -/
abbrev ySubblock (mb : Macroblock Header) (column row : Fin 4) : RasterBlock :=
  subblock .Y (4 * mb.column + column) (4 * mb.row + row)

/-- `raster.U_sub_at( column, row )` or `raster.V_sub_at( column, row )` -/
abbrev chromaSubblock (mb : Macroblock Header) (component : Component)
    (column row : Fin 2) : RasterBlock :=
  subblock component (2 * mb.column + column) (2 * mb.row + row)

def addYResidue (quantizer : Quantizer) (mb : Macroblock Header)
    (column row : Fin 4) :
    VP8Raster displayWidth displayHeight →
      Except Failure (VP8Raster displayWidth displayHeight) :=
  RasterBlock.idctAdd .Y (4 * mb.column + column) (4 * mb.row + row)
    (dequantize int16 quantizer.y (mb.Y column row).coefficients)

def addYResidues (quantizer : Quantizer) (mb : Macroblock Header)
    (raster : VP8Raster displayWidth displayHeight) :
    Except Failure (VP8Raster displayWidth displayHeight) :=
  subblocks.foldlM (fun raster (column, row) =>
    mb.addYResidue quantizer column row raster) raster

def addComponentResidues (quantizer : Quantizer) (mb : Macroblock Header)
    (component : Component) (blocks : Square UVBlock 2)
    (raster : VP8Raster displayWidth displayHeight) :
    Except Failure (VP8Raster displayWidth displayHeight) :=
  chromaBlocks.foldlM (fun raster (column, row) =>
    RasterBlock.idctAdd component (2 * mb.column + column) (2 * mb.row + row)
      (dequantize int16 quantizer.uv (blocks column row).coefficients) raster)
    raster

def addChromaResidues (quantizer : Quantizer) (mb : Macroblock Header)
    (raster : VP8Raster displayWidth displayHeight) :
    Except Failure (VP8Raster displayWidth displayHeight) := do
  let raster ← mb.addComponentResidues quantizer .U mb.U raster
  mb.addComponentResidues quantizer .V mb.V raster

/-- `Y_dequant_coeffs` -/
def walshCoefficients (quantizer : Quantizer) (mb : Macroblock Header)
    (column row : Fin 4) : SafeArray Int 16 :=
  Function.update (dequantize int16 quantizer.y (mb.Y column row).coefficients)
    0 (iwht int16 (dequantize int16 quantizer.y2 mb.Y2.coefficients)
      (indexOf column row))

def applyWalsh (quantizer : Quantizer) (mb : Macroblock Header)
    (raster : VP8Raster displayWidth displayHeight) :
    Except Failure (VP8Raster displayWidth displayHeight) := do
  Net.require mb.Y2.coded (.assertion "coded_")
  subblocks.foldlM (fun raster (column, row) =>
    RasterBlock.idctAdd .Y (4 * mb.column + column) (4 * mb.row + row)
      (walshCoefficients quantizer mb column row) raster) raster

def predictChroma (mb : Macroblock Header) (component : Component) :
    VP8Raster displayWidth displayHeight →
      Except Failure (VP8Raster displayWidth displayHeight) :=
  (mb.block component).intraPredict
    (mb.uvPredictionMode.predict (mb.block component))

/-- `reconstruct_intra` -/
def reconstructIntraIn (quantizer : Quantizer) (mb : Macroblock Header)
    (raster : VP8Raster displayWidth displayHeight) :
    Except Failure (VP8Raster displayWidth displayHeight) := do
  let raster ← mb.predictChroma .U raster
  let raster ← mb.predictChroma .V raster
  let raster ← mb.ifNonzero (mb.addChromaResidues quantizer) raster
  if mb.Y2.predictionMode = .bPred then
    subblocks.foldlM (fun raster (column, row) => do
      let raster ← (mb.ySubblock column row).intraPredict
        (mb.Y column row).predictionMode.predict raster
      mb.ifNonzero (mb.addYResidue quantizer column row) raster) raster
  else do
    let raster ← (mb.block .Y).intraPredict
      (mb.Y2.predictionMode.predict (mb.block .Y)) raster
    mb.ifNonzero (mb.applyWalsh quantizer) raster

end Macroblock

namespace InterFrameMacroblock

/-- The prediction of a macroblock whose subblocks have vectors of their own. -/
def predictSplit (mb : InterFrameMacroblock)
    (reference : VP8Raster displayWidth displayHeight)
    (raster : VP8Raster displayWidth displayHeight) :
    Except Failure (VP8Raster displayWidth displayHeight) := do
  let raster ← subblocks.foldlM (fun raster (column, row) =>
    (mb.ySubblock column row).interPredict (mb.Y column row).motionVector
      reference raster) raster
  chromaBlocks.foldlM (fun raster (column, row) => do
    let raster ← (mb.chromaSubblock .U column row).interPredict
      (mb.U column row).motionVector reference raster
    (mb.chromaSubblock .V column row).interPredict
      (mb.U column row).motionVector reference raster) raster

def predictWhole (mb : InterFrameMacroblock)
    (reference : VP8Raster displayWidth displayHeight)
    (raster : VP8Raster displayWidth displayHeight) :
    Except Failure (VP8Raster displayWidth displayHeight) := do
  let raster ← (mb.block .Y).interPredict (baseMotionVector mb) reference raster
  let raster ← (mb.block .U).interPredict (mb.U 0 0).motionVector reference
    raster
  (mb.block .V).interPredict (mb.U 0 0).motionVector reference raster

/-- `reconstruct_inter` -/
def reconstructInterIn (quantizer : Quantizer)
    (references : RasterReferences displayWidth displayHeight)
    (mb : InterFrameMacroblock)
    (raster : VP8Raster displayWidth displayHeight) :
    Except Failure (VP8Raster displayWidth displayHeight) := do
  let reference ← references.at mb.header.reference
  if mb.Y2.predictionMode = .splitMv then do
    let raster ← predictSplit mb reference raster
    mb.ifNonzero (fun raster => do
      let raster ← mb.addYResidues quantizer raster
      mb.addChromaResidues quantizer raster) raster
  else do
    let raster ← predictWhole mb reference raster
    mb.ifNonzero (fun raster => do
      let raster ← mb.applyWalsh quantizer raster
      mb.addChromaResidues quantizer raster) raster

def reconstructIn (quantizer : Quantizer)
    (references : RasterReferences displayWidth displayHeight)
    (mb : InterFrameMacroblock) :
    VP8Raster displayWidth displayHeight →
      Except Failure (VP8Raster displayWidth displayHeight) :=
  if interCoded mb then reconstructInterIn quantizer references mb
  else mb.reconstructIntraIn quantizer

end InterFrameMacroblock

variable {width height : Nat}

/-- `segment_quantizers.at( macroblock.segment_id() )`, or the quantizer of the
frame. -/
def quantizerFor (indices : QuantIndices)
    (segmentation : Option (Segmentation width height))
    (mb : Macroblock Header) : Except Failure Quantizer :=
  match segmentation with
  | none => .ok (.ofIndices indices)
  | some _ =>
      if hsegment : mb.segmentId.toNat < 4 then
        .ok (calculateSegmentQuantizers indices segmentation
          ⟨mb.segmentId.toNat, hsegment⟩)
      else
        .error (.assertion "index < size()")

def KeyFrame.decodeInto (segmentation : Option (Segmentation width height))
    (frame : KeyFrame) (raster : VP8Raster displayWidth displayHeight) :
    Except Failure (VP8Raster displayWidth displayHeight) :=
  frame.macroblocks.foldlM (fun raster mb => do
    let quantizer ← quantizerFor frame.header.quantIndices segmentation mb
    mb.reconstructIntraIn quantizer raster) raster

def InterFrame.decodeInto (segmentation : Option (Segmentation width height))
    (references : RasterReferences displayWidth displayHeight)
    (frame : InterFrame) (raster : VP8Raster displayWidth displayHeight) :
    Except Failure (VP8Raster displayWidth displayHeight) :=
  frame.macroblocks.foldlM (fun raster mb => do
    let quantizer ← quantizerFor frame.header.quantIndices segmentation mb
    InterFrameMacroblock.reconstructIn quantizer references mb raster) raster

end Reconstruct

end Salsify.Codec
