import Salsify.Lib.Fallible
import Salsify.Net.Packet

namespace Salsify.Net

/-! The congestion controller of `net/monax.cc`. -/

/-- The operations on `double`. Nothing is assumed of them, so that a result
holds for all that they can give. -/
class FloatingPoint (φ : Type) extends Add φ, Sub φ, Mul φ, Div φ,
    Neg φ where
  ofInt : Int → φ
  /-- A literal: its digits, and how many of them are decimals. -/
  literal : Int → Nat → φ
  toInt : φ → Int
  /-- Conversion to `float` and back. -/
  single : φ → φ
  lt : φ → φ → Bool
  eq : φ → φ → Bool
  abs : φ → φ
  sqrt : φ → φ
  exp : φ → φ
  pow : φ → φ → φ

namespace FloatingPoint

variable {φ : Type} [FloatingPoint φ]

def max (a b : φ) : φ := if lt a b then b else a

def min (a b : φ) : φ := if lt b a then b else a

end FloatingPoint

open FloatingPoint (ofInt literal toInt single lt abs sqrt exp pow)

section Vector

variable {α : Type}

def element (vector : List α) (index : Nat) (name : String) :
    Except Failure α :=
  match vector[index]? with
  | some value => .ok value
  | none => .error (.undefinedBehaviour name)

def fromEnd (vector : List α) (back : Nat) (name : String) :
    Except Failure α :=
  if back ≤ vector.length then
    element vector (vector.length - back) name
  else
    .error (.undefinedBehaviour name)

def setElement (vector : List α) (index : Nat) (value : α) (name : String) :
    Except Failure (List α) :=
  if index < vector.length then .ok (vector.set index value)
  else .error (.undefinedBehaviour name)

/-- Appends a value, and forgets the oldest one when there are enough. -/
def keep (limit : Nat) (vector : List α) (value : α) : List α :=
  if vector.length < limit then vector ++ [value] else vector.tail ++ [value]

end Vector

def SAVEUTILITY : Nat := 20
def SAVEHISTORY : Nat := 100
def RTT_THRESHOLD : Int := 30
def MONITOR_LEN : Nat := 10
def INTERVAL_MIN : Int := 10
def INTERVAL_MAX : Int := 2000

structure MonitorPara (φ : Type) where
  networkDelay : List φ := []
  inflightSize : List φ := []
  deliveryRate : List φ := []
  sendPeriod : List φ := []
  cwnd : List φ := []

structure Model (φ : Type) where
  zs : List φ := []
  ns : List φ := []
  weights : List φ := []

structure Monax (φ : Type) where
  inputDim : Nat
  alpha : φ
  beta : φ
  lambda1 : φ
  lambda2 : φ
  currentCWND : Int
  sndPeriod : Int
  modelNum : Nat := 8
  currentModel : Nat := 0
  /-- A key that is not there gets empty vectors. -/
  modelPool : Nat → Model φ
  utilityRecord : List φ := []
  historyPrediction : List Int := []
  historyDecision : List Int := []
  historyLabel : List Int := []
  speedupStep : Int := 100
  slowdownStep : Int := 100
  speedupStepChangeRate : Int := 50
  slowdownStepChangeRate : Int := 50
  stepsizeMax : Int := 300
  stepsizeMin : Int := 50
  interventionProb : Nat := 0
  accuracy : Int := 1
  usedModel : Nat := 0
  modelAccuracy : List φ := []
  modelHistoryPrediction : List (List Int) := List.replicate 8 []
  monitorPara : MonitorPara φ := {}
  coldstart : Bool := true

namespace Monax

variable {φ : Type} [FloatingPoint φ]

def init (dim : Nat) (alpha beta lambda1 lambda2 : φ)
    (initialCwnd initialInterval : Int) : Monax φ where
  inputDim := dim
  alpha := alpha
  beta := beta
  lambda1 := lambda1
  lambda2 := lambda2
  currentCWND := initialCwnd
  sndPeriod := initialInterval
  modelPool := fun i =>
    if i < 8 then {
      zs := List.replicate (dim + 1) (ofInt 0)
      ns := List.replicate (dim + 1) (ofInt 0)
      weights := List.replicate (dim + 1) (ofInt 0) }
    else {}

def setRealRtt (monax : Monax φ) (realRtt : φ) : Monax φ :=
  { monax with
    monitorPara := { monax.monitorPara with
      networkDelay :=
        keep MONITOR_LEN monax.monitorPara.networkDelay realRtt } }

def setDeliveryRate (monax : Monax φ) (deliveryRate : φ) : Monax φ :=
  { monax with
    monitorPara := { monax.monitorPara with
      deliveryRate :=
        keep MONITOR_LEN monax.monitorPara.deliveryRate deliveryRate } }

def setFlightSize (monax : Monax φ) (flightSize : Int) : Monax φ :=
  { monax with
    monitorPara := { monax.monitorPara with
      inflightSize :=
        keep MONITOR_LEN monax.monitorPara.inflightSize (ofInt flightSize) } }

def setSndPeriod (monax : Monax φ) (sndPeriod : Int) : Monax φ :=
  { monax with
    sndPeriod := sndPeriod
    monitorPara := { monax.monitorPara with
      sendPeriod :=
        keep MONITOR_LEN monax.monitorPara.sendPeriod (ofInt sndPeriod) } }

def setWndSize (monax : Monax φ) (wndSize : Int) : Monax φ :=
  { monax with
    currentCWND := wndSize
    monitorPara := { monax.monitorPara with
      cwnd := keep MONITOR_LEN monax.monitorPara.cwnd (ofInt wndSize) } }

/-- The delivery rate, the delay and the last three changes of the delay. -/
def readSample (monitorPara : MonitorPara φ) : Except Failure (List φ) := do
  let delaysize := monitorPara.networkDelay.length
  let deliveryRate ←
    element monitorPara.deliveryRate (delaysize - 1) "delivery_rate"
  let delay1 ← element monitorPara.networkDelay (delaysize - 1) "network_delay"
  let delay2 ← element monitorPara.networkDelay (delaysize - 2) "network_delay"
  let delay3 ← element monitorPara.networkDelay (delaysize - 3) "network_delay"
  let delay4 ← element monitorPara.networkDelay (delaysize - 4) "network_delay"
  return [deliveryRate, delay1, delay3 - delay4, delay2 - delay3,
    delay1 - delay2]

/-- The loss flag has no part in the result. -/
def utilityFunction (sample : List φ) : Except Failure φ := do
  let deliveryRate ← element sample 0 "sample"
  let networkDelay ← element sample 1 "sample"
  let gradient1 ← element sample 2 "sample"
  let gradient2 ← element sample 3 "sample"
  let gradient3 ← element sample 4 "sample"
  let srWeight : φ :=
    if lt (networkDelay - ofInt RTT_THRESHOLD) (ofInt (-10)) &&
        lt (literal 8 1 : φ) (literal 9 1 + literal 1 2) then
      literal 8 1 + literal 1 2
    else
      literal 8 1
  let sendingRatePart := deliveryRate * srWeight
  let rttGPart := ofInt (-1) * gradient3 - literal 8 1 * gradient2 -
    literal 5 1 * gradient1
  return rttGPart + sendingRatePart

def startHistories (monax : Monax φ) : Except Failure (Monax φ) := do
  let predictions ← element monax.modelHistoryPrediction monax.currentModel
    "model_history_prediction"
  return { monax with
    historyLabel := monax.historyLabel ++ [0]
    utilityRecord := monax.utilityRecord ++ [ofInt 0, ofInt 0]
    modelHistoryPrediction := monax.modelHistoryPrediction.set
      monax.currentModel (predictions ++ [0])
    historyPrediction := monax.historyPrediction ++ [0]
    historyDecision := monax.historyDecision ++ [0]
    coldstart := false }

/-- The last decision was right if the utility has become greater. -/
def learnLabel (monax : Monax φ) (utility : φ) : Except Failure (Monax φ) := do
  let before ← fromEnd monax.utilityRecord 1 "utility_record"
  let decision ← fromEnd monax.historyDecision 1 "history_decision"
  let label := if lt (ofInt 0) (utility - before) then decision
    else 1 - decision
  return { monax with
    historyLabel := keep SAVEHISTORY monax.historyLabel label
    utilityRecord := keep SAVEUTILITY monax.utilityRecord utility }

def recordLabel (monax : Monax φ) (utility : φ) : Except Failure (Monax φ) :=
  if monax.coldstart then startHistories monax else learnLabel monax utility

def sumOfFour (vector : List Int) (size : Nat) (name : String) :
    Except Failure Int := do
  let a ← element vector (size - 4) name
  let b ← element vector (size - 3) name
  let c ← element vector (size - 2) name
  let d ← element vector (size - 1) name
  return a + b + c + d

def modifyStepSize (monax : Monax φ) : Except Failure (Monax φ) := do
  if 3 < monax.historyLabel.length then
    let speedupPred ← sumOfFour monax.historyPrediction
      monax.historyLabel.length "history_prediction"
    let speedupLabel ← sumOfFour monax.historyLabel monax.historyLabel.length
      "history_label"
    let speedupConfidence : φ := ofInt speedupPred / ofInt speedupLabel
    let slowdownConfidence : φ :=
      ofInt (4 - speedupPred) / ofInt (4 - speedupLabel)
    return { monax with
      speedupStep := max (min monax.stepsizeMax
        (toInt (ofInt monax.speedupStep *
          (literal 5 1 + speedupConfidence)))) monax.stepsizeMin
      slowdownStep := max (min monax.stepsizeMax
        (toInt (ofInt monax.slowdownStep *
          (literal 5 1 + slowdownConfidence)))) monax.stepsizeMin }
  else
    return monax

def getNonZeroIndex (sample : List φ) : List Nat :=
  (List.range sample.length).filter fun i =>
    !(sample[i]?.any fun value => FloatingPoint.eq value (ofInt 0))

/-- `( value > 0 ) - ( value < 0 )` -/
def sign (value : φ) : Int :=
  (if lt (ofInt 0) value then 1 else 0) - (if lt value (ofInt 0) then 1 else 0)

def updateWeight (monax : Monax φ) (para : Model φ) (index : Nat) :
    Except Failure (Model φ) := do
  let z ← element para.zs index "_zs"
  if lt monax.lambda1 (abs z) then
    let n ← element para.ns index "_ns"
    let fore := monax.beta + sqrt n / monax.alpha + monax.lambda2
    let weights ← setElement para.weights index
      (ofInt (-1) / fore * (z - ofInt (sign z) * monax.lambda1)) "weights"
    return { para with weights := weights }
  else
    let weights ← setElement para.weights index (ofInt 0) "weights"
    return { para with weights := weights }

def learnAt (monax : Monax φ) (para : Model φ) (index : Nat) (gradient : φ) :
    Except Failure (Model φ) := do
  let n ← element para.ns index "_ns"
  let z ← element para.zs index "_zs"
  let weight ← element para.weights index "weights"
  let squared := pow gradient (ofInt 2)
  let sigma := (sqrt (n + squared) - sqrt n) / monax.alpha
  let zs ← setElement para.zs index (z + (gradient - sigma * weight)) "_zs"
  let ns ← setElement para.ns index (n + squared) "_ns"
  return { para with zs := zs, ns := ns }

def baseGrad (monax : Monax φ) : Except Failure φ := do
  let predictions ← element monax.modelHistoryPrediction monax.currentModel
    "model_history_prediction"
  let prediction ← fromEnd predictions 1 "model_history_prediction"
  let label ← fromEnd monax.historyLabel 1 "history_label"
  return ofInt (prediction - label)

def updateModel (monax : Monax φ) (sample : List φ) :
    Except Failure (Monax φ) := do
  let nonzero := getNonZeroIndex sample
  let weighted ← (monax.inputDim :: nonzero).foldlM (updateWeight monax)
    (monax.modelPool monax.currentModel)
  let grad ← baseGrad monax
  let learned ← nonzero.foldlM (fun para index => do
    let value ← element sample index "sample"
    learnAt monax para index (grad * value)) weighted
  let para ← learnAt monax learned monax.inputDim grad
  return { monax with
    modelPool := Function.update monax.modelPool monax.currentModel para }

def logistic (var : φ) : φ :=
  let clamped := FloatingPoint.max (FloatingPoint.min var (ofInt 100))
    (ofInt (-100))
  ofInt 1 / (ofInt 1 + exp (-clamped))

def predict (sample weights : List φ) : Except Failure (Int × φ) := do
  let product ← (List.range sample.length).foldlM (fun product i => do
    let value ← element sample i "sample"
    let weight ← element weights i "weights"
    return product + value * weight) (ofInt 0)
  let bias ← element weights (weights.length - 1) "weights"
  let rawOutput := logistic (product + bias)
  return (if lt (literal 5 1) rawOutput then 1 else 0, rawOutput)

/-- One turn of the loop over the models. The probability is that of the
current model. -/
def predictModel (sample : List φ) (state : Monax φ × φ) (i : Nat) :
    Except Failure (Monax φ × φ) := do
  let monax := state.1
  let (prediction, prob) ← predict sample (monax.modelPool i).weights
  let predictions ← element monax.modelHistoryPrediction i
    "model_history_prediction"
  let recorded := { monax with
    modelHistoryPrediction := monax.modelHistoryPrediction.set i
      (keep SAVEHISTORY predictions prediction) }
  if i = monax.currentModel then
    return ({ recorded with
      historyPrediction :=
        keep SAVEHISTORY monax.historyPrediction prediction }, prob)
  else
    return (recorded, state.2)

def predictAll (monax : Monax φ) (sample : List φ) :
    Except Failure (Monax φ × φ) :=
  (List.range monax.modelNum).foldlM (predictModel sample) (monax, ofInt 0)

def checkAccuracy (prediction label : List Int) : Except Failure φ := do
  let accCount ← (List.range prediction.length).foldlM
    (fun (accCount : Int) i => do
      let predicted ← element prediction i "prediction"
      let actual ← element label i "label"
      return if predicted = actual then accCount + 1 else accCount) 0
  return ofInt accCount / ofInt prediction.length

def argmax (vector : List φ) : Nat :=
  ((List.range vector.length).foldl (fun (best : Nat × Option φ) i =>
    match best.2, vector[i]? with
    | some greatest, some value =>
        if lt greatest value then (i, some value) else best
    | none, value => (i, value)
    | some _, none => best) (0, none)).1

def rises (monitorPara : MonitorPara φ) : Except Failure Bool := do
  let delaysize := monitorPara.networkDelay.length
  let delay4 ← element monitorPara.networkDelay (delaysize - 4) "network_delay"
  let delay3 ← element monitorPara.networkDelay (delaysize - 3) "network_delay"
  let delay2 ← element monitorPara.networkDelay (delaysize - 2) "network_delay"
  let delay1 ← element monitorPara.networkDelay (delaysize - 1) "network_delay"
  return lt delay4 delay3 && lt delay3 delay2 && lt delay2 delay1

def tryNextModel (monax : Monax φ) : Monax φ :=
  { monax with
    currentModel := monax.currentModel + 1
    modelAccuracy := monax.modelAccuracy ++ [ofInt monax.accuracy]
    usedModel := monax.usedModel + 1 }

/-- The accuracies that the best model is chosen by. -/
def assessModels (monax : Monax φ) : Except Failure (List φ) :=
  (List.range monax.modelNum).foldlM (fun modelAccuracy i => do
    let predictions ← element monax.modelHistoryPrediction i
      "model_history_prediction"
    let accuracy ← checkAccuracy predictions monax.historyLabel
    setElement modelAccuracy i accuracy "model_accuracy") monax.modelAccuracy

def chooseBestModel (monax : Monax φ) : Except Failure (Monax φ) := do
  let modelAccuracy ← assessModels monax
  return { monax with
    modelAccuracy := modelAccuracy
    currentModel := argmax modelAccuracy }

def changeModel (monax : Monax φ) : Except Failure (Monax φ) := do
  let rising ← rises monax.monitorPara
  if rising then
    if monax.usedModel < monax.modelNum - 1 then return tryNextModel monax
    else chooseBestModel monax
  else
    return monax

/-- The two values of `rand()` are divided as integers. -/
def policyAggregation (monax : Monax φ) (rand : Nat × Nat) (prob : φ) :
    Except Failure (Int × φ) := do
  let predicted ← fromEnd monax.historyPrediction 1 "history_prediction"
  let _ ← fromEnd monax.utilityRecord 1 "utility_record"
  let _ ← fromEnd monax.utilityRecord 2 "utility_record"
  let delay3 ← fromEnd monax.monitorPara.networkDelay 3 "network_delay"
  let delay2 ← fromEnd monax.monitorPara.networkDelay 2 "network_delay"
  let delay1 ← fromEnd monax.monitorPara.networkDelay 1 "network_delay"
  let total : φ := [delay3, delay2, delay1].foldl
    (fun total delay => single (total + delay)) (ofInt 0)
  -- `0.0f` makes all of this arithmetic on `float`
  let left : φ := single (ofInt RTT_THRESHOLD - single (total / ofInt 3))
  let scale : φ := single (left / ofInt RTT_THRESHOLD)
  let decision : Int :=
    if lt (ofInt 0) scale &&
        lt (ofInt ((rand.1 % 100 / 100 : Nat) : Int)) scale then 1
    else if lt scale (ofInt 0) &&
        lt (ofInt ((rand.2 % 100 / 100 : Nat) : Int)) (ofInt (-1) * scale) then
      0
    else predicted
  return (decision, if predicted ≠ decision then ofInt 1 - prob else prob)

/-- Were the last two decisions the given one? -/
def decidedTwice (monax : Monax φ) (decision : Int) : Except Failure Bool := do
  let before ← fromEnd monax.historyDecision 2 "history_decision"
  let last ← fromEnd monax.historyDecision 1 "history_decision"
  return before = decision && last = decision

def clampInterval (interval : Int) : Int :=
  min (max INTERVAL_MIN interval) INTERVAL_MAX

/-- The new step sizes, and the interval between two packets. -/
def rateControl (monax : Monax φ) (result : φ) :
    Except Failure (Monax φ × Int) := do
  let _ ← fromEnd monax.monitorPara.networkDelay 1 "network_delay"
  if lt (literal 5 1) result then
    let again ← decidedTwice monax 1
    let speedupStep := if again then
        min monax.stepsizeMax (monax.speedupStep + monax.speedupStepChangeRate)
      else monax.speedupStep
    return ({ monax with speedupStep := speedupStep },
      clampInterval (monax.sndPeriod - speedupStep))
  else if lt result (literal 5 1) then
    let again ← decidedTwice monax 0
    let slowdownStep := if again then
        min monax.stepsizeMax
          (monax.slowdownStep + monax.slowdownStepChangeRate)
      else monax.slowdownStep
    return ({ monax with slowdownStep := slowdownStep },
      clampInterval (monax.sndPeriod + slowdownStep))
  else
    return (monax, monax.sndPeriod)

def computeInterventionProb (historyPrediction historyDecision : List Int) :
    Except Failure Nat := do
  let interventionCount ← (List.range historyPrediction.length).foldlM
    (fun (interventionCount : Nat) i => do
      let prediction ← element historyPrediction i "historyPrediction"
      let decision ← element historyDecision i "historyDecision"
      return if prediction = decision then interventionCount + 1
        else interventionCount) 0
  return interventionCount / historyPrediction.length

def learn (monax : Monax φ) : Except Failure (Monax φ × φ) := do
  let sample ← readSample monax.monitorPara
  let cwnd ← element monax.monitorPara.cwnd 0 "cwnd"
  let utility ← utilityFunction sample
  let labelled ← recordLabel { monax with currentCWND := toInt cwnd } utility
  let stepped ← modifyStepSize labelled
  let updated ← updateModel stepped sample
  predictAll updated sample

def act (monax : Monax φ) (rand : Nat × Nat) (prob : φ) :
    Except Failure (Monax φ) := do
  let (decision, decisionProb) ← policyAggregation monax rand prob
  let decided := { monax with
    historyDecision := keep SAVEHISTORY monax.historyDecision decision }
  let (controlled, sendPeriod) ← rateControl decided decisionProb
  let interventionProb ← computeInterventionProb controlled.historyPrediction
    controlled.historyDecision
  return { controlled with
    interventionProb := interventionProb
    sndPeriod := sendPeriod }

def action (monax : Monax φ) (rand : Nat × Nat) : Except Failure (Monax φ) := do
  let (learned, prob) ← learn monax
  let changed ← changeModel learned
  act changed rand prob

def calcCCPara (monax : Monax φ) (rand : Nat × Nat) :
    Except Failure (Monax φ) :=
  if monax.monitorPara.networkDelay.length < MONITOR_LEN then .ok monax
  else action monax rand

/-- What the sender measures before one call of `calcCCPara`. -/
structure Epoch (φ : Type) where
  realRtt : φ
  deliveryRate : φ
  flightSize : Int
  sndPeriod : Int
  wndSize : Int
  rand : Nat × Nat

def measure (monax : Monax φ) (epoch : Epoch φ) : Monax φ :=
  ((((monax.setRealRtt epoch.realRtt).setDeliveryRate
    epoch.deliveryRate).setFlightSize epoch.flightSize).setSndPeriod
      epoch.sndPeriod).setWndSize epoch.wndSize

def step (monax : Monax φ) (epoch : Epoch φ) : Except Failure (Monax φ) :=
  calcCCPara (monax.measure epoch) epoch.rand

end Monax

end Salsify.Net
