import Salsify.Codec.DecoderState

namespace Salsify.Codec

open Salsify.Net (Chunk Failure)

/-! What `decode` and `loopfilter` of `decoder/frame.cc` choose for each
macroblock, and the choices that throw. The samples are left out. -/

def MbMode.intraPredict : MbMode → Except Failure Unit
  | .dcPred | .vPred | .hPred | .tmPred => .ok ()
  | _ => .error .logicError

def BMode.intraPredict : BMode → Except Failure Unit
  | .bDcPred | .bTmPred | .bVePred | .bHePred | .bLdPred | .bRdPred
  | .bVrPred | .bVlPred | .bHdPred | .bHuPred => .ok ()
  | _ => .error .logicError

/-- `References::at`, of a reference that may not have been sent -/
def referencesAt : Option ReferenceFrame → Except Failure Unit
  | some .lastFrame | some .goldenFrame | some .altrefFrame => .ok ()
  | some .currentFrame => .error .logicError
  | none => .error (.assertion "initialized()")

namespace Macroblock

variable {Header : Type}

def uvPredictionMode (mb : Macroblock Header) : MbMode :=
  (mb.U 0 0).predictionMode

def reconstructIntra (mb : Macroblock Header) : Except Failure Unit := do
  mb.uvPredictionMode.intraPredict
  mb.uvPredictionMode.intraPredict
  if mb.Y2.predictionMode = .bPred then
    subblocks.forM fun (column, row) =>
      (mb.Y column row).predictionMode.intraPredict
  else
    mb.Y2.predictionMode.intraPredict

/-- The filter in use, at the level it has been adjusted to. -/
def loopfilter (type : LoopFilterType) (filterLevel : Int) :
    Except Failure Unit :=
  if filterLevel ≤ 0 then .ok ()
  else
    match type with
    | .normal => .ok ()
    | .simple =>
        .error (.unsupported "VP8 'simple' in-loop deblocking filter")
    | .noFilter => .error .logicError

end Macroblock

namespace InterFrameMacroblock

def reconstructInter (mb : InterFrameMacroblock) : Except Failure Unit :=
  referencesAt mb.header.reference

def reconstruct (mb : InterFrameMacroblock) : Except Failure Unit :=
  if interCoded mb then reconstructInter mb else mb.reconstructIntra

end InterFrameMacroblock

def KeyFrame.decode (frame : KeyFrame) : Except Failure Unit :=
  frame.macroblocks.forM Macroblock.reconstructIntra

def InterFrame.decode (frame : InterFrame) : Except Failure Unit :=
  frame.macroblocks.forM InterFrameMacroblock.reconstruct

/-- `levels` gives the adjusted level of the macroblock at each place. -/
def Frame.loopfilter {FrameHeader MacroblockHeader : Type}
    (loopFilterLevel : UInt8) (filterType : Bool) (levels : Nat × Nat → Int)
    (frame : Frame FrameHeader MacroblockHeader) : Except Failure Unit :=
  if loopFilterLevel ≠ 0 then
    frame.macroblocks.forM fun mb =>
      Macroblock.loopfilter (if filterType then .simple else .normal)
        (levels (mb.column, mb.row))
  else
    .ok ()

namespace DecoderState

variable {width height : Nat}

/-- `get_frame_output` of a decoder with error concealment on, up to the samples
of the raster. -/
def getFrameOutput (state : DecoderState width height)
    (levels : Nat × Nat → Int) (compressedFrame : Chunk) :
    Except Failure (DecoderState width height) := do
  let decompressedFrame ← UncompressedChunk.parse compressedFrame width height
    true
  if decompressedFrame.keyFrame then do
    let (frame, next) ← parseAndApplyKey decompressedFrame
    frame.decode
    frame.loopfilter frame.header.loopFilterLevel frame.header.filterType levels
    return next
  else if !decompressedFrame.experimental then do
    let (frame, next) ← state.parseAndApplyInter decompressedFrame
    frame.decode
    frame.loopfilter frame.header.loopFilterLevel frame.header.filterType levels
    return next
  else
    .error (.unsupported "experimental")

end DecoderState

end Salsify.Codec
