import Salsify.Codec.MotionVectorCodec
import Salsify.Encoder.SafeRaster
import Salsify.Lib.Traced

namespace Salsify.Encoder

open Salsify.Codec (MotionVector SafeArray MbMode Context InterFrameMacroblock
  Scorer int16 macroblockDimension)
open Salsify.Codec.InterFrameMacroblock (motionVectorCensus)
open Salsify.Net (Failure)

/-! The motion search of `encoder/encode_inter.cc`. -/

/-- A search is `unfinished` where it is stopped before its end. -/
inductive SearchFailure
  | unfinished
  | failed (failure : Failure)
  deriving DecidableEq, Repr

abbrev Search := Traced MotionVector SearchFailure

def attempt {α : Type} (result : Except Failure α) : Search α :=
  liftM (result.mapError SearchFailure.failed)

/-- The tables of `encoder/costs.hh` that the search reads. What
`fill_mv_ref_costs` puts into `mbmode_costs.at( 1 )` is by the contexts of the
modes. -/
structure Costs where
  mvComponentCosts : SafeArray (SafeArray (SafeArray UInt32 1024) 2) 2
  mvSadCosts : SafeArray (SafeArray (SafeArray UInt32 256) 2) 2
  mbmodeCosts : SafeArray Nat 4 → MbMode → UInt16
  /-- The last and largest entry of `fill_mv_sad_costs`. -/
  mvSadCosts_le : ∀ axis sign i, (mvSadCosts axis sign i).toNat ≤ 5782

def entry {α : Type} {size : Nat} (array : SafeArray α size) (index : Nat) :
    Except Failure α :=
  if h : index < size then return array ⟨index, h⟩
  else .error (.assertion "index < size()")

def sign (component : Int) : Fin 2 := if component < 0 then 1 else 0

namespace Costs

def unfilled : Costs where
  mvComponentCosts := fun _ _ _ => 0
  mvSadCosts := fun _ _ _ => 0
  mbmodeCosts := fun _ _ => 0
  mvSadCosts_le := fun _ _ _ => Nat.zero_le _

def motionVectorCost (costs : Costs) (mv : MotionVector) (weight : Nat) :
    Except Failure UInt32 := do
  let y ← entry (costs.mvComponentCosts 0 (sign mv.y)) mv.y.natAbs
  let x ← entry (costs.mvComponentCosts 1 (sign mv.x)) mv.x.natAbs
  return UInt32.ofNat ((y + x).toNat * weight / 128)

def sadComponent (component base : Int) : Int :=
  max (min ((component - base) / 4) 255) (-255)

def sadMotionVectorCost (costs : Costs) (mv base : MotionVector)
    (weight : Nat) : Except Failure UInt32 := do
  let x := sadComponent mv.x base.x
  let y := sadComponent mv.y base.y
  let yCost ← entry (costs.mvSadCosts 0 (sign y)) y.natAbs
  let xCost ← entry (costs.mvSadCosts 1 (sign x)) x.natAbs
  return UInt32.ofNat (((yCost + xCost).toNat * weight + 128) / 256)

end Costs

def sadPerBit16Lut : Vector Nat 128 := #v[
  2,  2,  2,  2,  2,  2,  2,  2,  2,  2,  2,  2,  2,  2,  2,  2,  3,  3,  3,
  3,  3,  3,  3,  3,  3,  3,  3,  3,  3,  3,  4,  4,  4,  4,  4,  4,  4,  4,
  4,  4,  4,  4,  5,  5,  5,  5,  5,  5,  5,  5,  5,  5,  5,  5,  6,  6,  6,
  6,  6,  6,  6,  6,  6,  6,  6,  6,  7,  7,  7,  7,  7,  7,  7,  7,  7,  7,
  7,  7,  8,  8,  8,  8,  8,  8,  8,  8,  8,  8,  8,  8,  9,  9,  9,  9,  9,
  9,  9,  9,  9,  9,  9,  9,  10, 10, 10, 10, 10, 10, 10, 10, 11, 11, 11, 11,
  11, 11, 12, 12, 12, 12, 12, 12, 13, 13, 13, 13, 14, 14]

def rdcost (rate distortion rateMultiplier distortionMultiplier : UInt32) :
    UInt32 :=
  (128 + rate * rateMultiplier) / 256 + distortion * distortionMultiplier

def differences (block prediction : List UInt8) : List Int :=
  List.zipWith (fun (one other : UInt8) => (one.toNat : Int) - other.toNat)
    block prediction

def sad (block prediction : List UInt8) : UInt32 :=
  UInt32.ofNat ((differences block prediction).map Int.natAbs).sum

def variance (block prediction : List UInt8) : UInt32 :=
  let diffs := differences block prediction
  UInt32.ofInt ((diffs.map fun diff => diff * diff).sum -
    diffs.sum * diffs.sum / 256)

structure MBPredictionData where
  predictionMode : MbMode := .dcPred
  mv : MotionVector := {}
  rate : UInt32 := 0xffffffff
  distortion : UInt32 := 0xffffffff
  cost : UInt32 := 0xffffffff
  deriving DecidableEq, Repr

inductive EncoderQuality
  | bestQuality | realtimeQuality
  deriving DecidableEq, Repr

/-- What the search for a macroblock reads. The macroblock stands for the one of
the original that is `factor` times as far, and `intraPrediction` is what
`luma_mb_best_prediction_mode` gives for it. -/
structure SearchedMacroblock (displayWidth displayHeight : Nat) where
  encodeQuality : EncoderQuality
  yAcQi : Fin 128
  rateMultiplier : UInt32
  distortionMultiplier : UInt32
  safeReference : SafeRaster displayWidth displayHeight
  original : Vector UInt8 256
  factor : Nat
  context : Context InterFrameMacroblock
  motionVectorsFlipped : Bool
  intraPrediction : MBPredictionData

namespace SearchedMacroblock

variable {displayWidth displayHeight : Nat}

/-- In the frame itself, or in the frame of the samples that the size is
estimated from. -/
structure Placed (mb : SearchedMacroblock displayWidth displayHeight) :
    Prop where
  factor : mb.factor = 1 ∨ mb.factor = 4
  width : mb.context.width = macroblockDimension (displayWidth / mb.factor)
  height : mb.context.height = macroblockDimension (displayHeight / mb.factor)
  column : mb.context.column < mb.context.width
  row : mb.context.row < mb.context.height

def interPredict (mb : SearchedMacroblock displayWidth displayHeight)
    (mv : MotionVector) : Search (List UInt8) :=
  attempt (Encoder.interPredict mb.safeReference
    (mb.context.column * mb.factor) (mb.context.row * mb.factor) mv)

/-- How `diamond_search` judges a residual. -/
def evaluate (costs : Costs) (mb : SearchedMacroblock displayWidth displayHeight)
    (baseMv mv : MotionVector) : Search MBPredictionData := do
  Traced.record mv
  let thisMv := Scorer.clamp (mv.add (Scorer.clamp baseMv mb.context)) mb.context
  let prediction ← mb.interPredict thisMv
  let distortion := sad mb.original.toList prediction
  let rate ← attempt (costs.sadMotionVectorCost mv {} sadPerBit16Lut[mb.yAcQi])
  return { mv, rate, distortion, cost := rdcost rate distortion 1 1 }

end SearchedMacroblock

def outOfBounds (mv : MotionVector) : Bool :=
  mv.x > 1023 || mv.x < -1023 || mv.y > 1023 || mv.y < -1023

def checkSites : List (Int × Int) := [(-1, 0), (0, -1), (0, 0), (0, 1), (1, 0)]

structure MVSearchResult where
  mv : MotionVector
  firstStep : Nat
  deriving DecidableEq, Repr

structure DiamondState where
  origin : MotionVector
  firstStep : Nat
  stepSize : Nat
  deriving DecidableEq, Repr

def siteVector (origin : MotionVector) (stepSize : Nat) (site : Int × Int) :
    MotionVector :=
  ({} : MotionVector).add (origin.add
    { x := int16 (stepSize * site.1), y := int16 (stepSize * site.2) })

section Diamond

variable (evaluate : MotionVector → Search MBPredictionData)

def checkSite (origin : MotionVector) (stepSize : Nat)
    (bestPred : MBPredictionData) (site : Int × Int) :
    Search MBPredictionData :=
  let mv := siteVector origin stepSize site
  if outOfBounds mv then return bestPred
  else do
    let pred ← evaluate mv
    return if pred.cost < bestPred.cost then pred else bestPred

def diamondTurn (state : DiamondState) :
    Search (DiamondState ⊕ MVSearchResult) :=
  if 1 < state.stepSize then do
    let bestPred ← checkSites.foldlM
      (checkSite evaluate state.origin state.stepSize) {}
    return .inl {
      origin := bestPred.mv
      firstStep :=
        if bestPred.mv = state.origin then state.stepSize / 2
        else state.firstStep
      stepSize := state.stepSize / 2 }
  else
    return .inr { mv := state.origin, firstStep := state.firstStep }

def diamondSearch (fuel : Nat) (origin : MotionVector) (stepSize : Nat) :
    Search MVSearchResult :=
  Traced.loop .unfinished (diamondTurn evaluate) fuel
    { origin, firstStep := stepSize / 2, stepSize }

def newMvTurn (fuel : Nat) (state : MotionVector × Nat) :
    Search ((MotionVector × Nat) ⊕ MotionVector) :=
  if 1 < state.2 then do
    let result ← diamondSearch evaluate fuel state.1 state.2
    return if result.mv = state.1 then .inr state.1
      else .inl (result.mv, result.firstStep)
  else
    return .inr state.1

def newMvSearch (fuel : Nat) : Search MotionVector :=
  Traced.loop .unfinished (newMvTurn evaluate fuel) fuel ({}, 512)

end Diamond

namespace SearchedMacroblock

variable {displayWidth displayHeight : Nat}

def census (mb : SearchedMacroblock displayWidth displayHeight) : Scorer :=
  motionVectorCensus mb.context mb.motionVectorsFlipped

def bestRef (mb : SearchedMacroblock displayWidth displayHeight) :
    MotionVector :=
  Scorer.clamp mb.census.best mb.context

def unlessEmpty (mv : MotionVector) : Option MotionVector :=
  if mv.empty then none else some mv

def modeVector (costs : Costs)
    (mb : SearchedMacroblock displayWidth displayHeight) (fuel : Nat) :
    MbMode → Search (Option MotionVector)
  | .newMv =>
      if mb.encodeQuality = .realtimeQuality &&
          !(mb.context.column % 4 = 0 && mb.context.row % 4 = 0) then
        return none
      else do
        let mv ← newMvSearch (mb.evaluate costs mb.bestRef) fuel
        return unlessEmpty (mv.add mb.bestRef)
  | .nearestMv => return unlessEmpty (Scorer.clamp mb.census.nearest mb.context)
  | .nearMv => return unlessEmpty (Scorer.clamp mb.census.near mb.context)
  | .zeroMv => return some {}
  | _ => throw (.failed (.runtimeError "not supported"))

def modeRate (costs : Costs)
    (mb : SearchedMacroblock displayWidth displayHeight)
    (predictionMode : MbMode) (mv : MotionVector) : Search UInt32 :=
  let rate :=
    (costs.mbmodeCosts mb.census.modeContexts predictionMode).toUInt32
  if predictionMode = .newMv then do
    let residual := mv.sub mb.bestRef
    Traced.record residual
    let cost ← attempt (costs.motionVectorCost residual 96)
    return rate + cost
  else
    return rate

def tryVector (costs : Costs)
    (mb : SearchedMacroblock displayWidth displayHeight)
    (best : MBPredictionData × MotionVector) (predictionMode : MbMode)
    (mv : MotionVector) : Search (MBPredictionData × MotionVector) := do
  let prediction ← mb.interPredict mv
  let distortion := variance mb.original.toList prediction
  let rate ← mb.modeRate costs predictionMode mv
  let pred : MBPredictionData := {
    predictionMode, rate, distortion
    cost := rdcost rate distortion mb.rateMultiplier mb.distortionMultiplier }
  return if pred.cost < best.1.cost then (pred, mv) else best

def tryMode (costs : Costs)
    (mb : SearchedMacroblock displayWidth displayHeight) (fuel : Nat)
    (best : MBPredictionData × MotionVector) (predictionMode : MbMode) :
    Search (MBPredictionData × MotionVector) := do
  match ← mb.modeVector costs fuel predictionMode with
  | none => return best
  | some mv => mb.tryVector costs best predictionMode mv

/-- The best prediction and, where it is of an inter mode, its vector. -/
def lumaMbInterPredict (costs : Costs)
    (mb : SearchedMacroblock displayWidth displayHeight) (fuel : Nat) :
    Search (MBPredictionData × MotionVector) :=
  [.zeroMv, .nearestMv, .nearMv, .newMv].foldlM (mb.tryMode costs fuel)
    (mb.intraPrediction, {})

end SearchedMacroblock

end Salsify.Encoder
