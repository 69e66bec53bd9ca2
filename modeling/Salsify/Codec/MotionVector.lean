import Salsify.Codec.ProbabilityTables

namespace Salsify.Codec

open Salsify.Coder (Probability)

/-! Motion vectors and the census of `decoder/scorer.hh`. -/

/-- The value that a store to an `int16_t` leaves. -/
def int16 (value : Int) : Int := value.bmod 65536

theorem int16_wraps (value : Int) :
    ∃ turns : Int, int16 value = value + 65536 * turns ∧
      -32768 ≤ int16 value ∧ int16 value ≤ 32767 := by
  unfold int16
  rw [Int.bmod_def]
  split
  · exact ⟨-(value / 65536), by omega, by omega, by omega⟩
  · exact ⟨-(value / 65536) - 1, by omega, by omega, by omega⟩

theorem int16_of_inRange {value : Int} (hlow : -32768 ≤ value)
    (hhigh : value ≤ 32767) : int16 value = value := by
  obtain ⟨turns, hturns, hlow', hhigh'⟩ := int16_wraps value
  omega

/-- The vertical component is sent first. -/
structure MotionVector where
  y : Int := 0
  x : Int := 0
  deriving DecidableEq, Repr

namespace MotionVector

def add (mv other : MotionVector) : MotionVector :=
  { y := int16 (mv.y + other.y), x := int16 (mv.x + other.x) }

def neg (mv : MotionVector) : MotionVector :=
  { y := int16 (-mv.y), x := int16 (-mv.x) }

def empty (mv : MotionVector) : Bool := mv.x = 0 && mv.y = 0

def clamp (mv : MotionVector) (toLeft toRight toTop toBottom : Int) :
    MotionVector :=
  { y := min (max mv.y toTop) toBottom, x := min (max mv.x toLeft) toRight }

def readBits (componentProbs : SafeArray Probability 19) :
    List (Fin 10) → Parser Nat
  | [] => pure 0
  | position :: rest => do
      let bit ← boolean (componentProbs (position.natAdd 9))
      let others ← readBits componentProbs rest
      return bit.toNat <<< position.val + others

/-- Bit 3 is implicit where no higher bit is set. -/
def readLong (componentProbs : SafeArray Probability 19) : Parser Nat := do
  let low ← readBits componentProbs [0, 1, 2]
  let high ← readBits componentProbs [9, 8, 7, 6, 5, 4]
  if (low + high) &&& 0xFFF0 = 0 then
    return low + high + 8
  else do
    let bit ← boolean (componentProbs 12)
    return if bit then low + high + 8 else low + high

def smallMvProbs (componentProbs : SafeArray Probability 19) :
    List Probability :=
  List.ofFn fun i : Fin 7 => componentProbs ⟨i + 2, by omega⟩

def readMagnitude (componentProbs : SafeArray Probability 19) :
    Parser Nat := do
  let long ← boolean (componentProbs 0)
  if long then
    readLong componentProbs
  else
    tree smallMvTree (smallMvProbs componentProbs)

def readComponent (componentProbs : SafeArray Probability 19) :
    Parser Int := do
  let magnitude ← readMagnitude componentProbs
  if magnitude = 0 then
    return 0
  else do
    let negative ← boolean (componentProbs 1)
    let component := (magnitude : Int) * 2
    return if negative then -component else component

def parse (motionVectorProbs : SafeArray (SafeArray Probability 19) 2) :
    Parser MotionVector := do
  let y ← readComponent (motionVectorProbs 0)
  let x ← readComponent (motionVectorProbs 1)
  return { y, x }

/-- An eighth of the sum of four components, halves away from zero. -/
def eighth (sum : Int) : Int :=
  if 0 ≤ int16 sum then (int16 sum + 4) / 8 else -((-int16 sum + 4) / 8)

def lumaToChroma (s1 s2 s3 s4 : MotionVector) : MotionVector :=
  { y := eighth (s1.y + s2.y + s3.y + s4.y)
    x := eighth (s1.x + s2.x + s3.x + s4.x) }

end MotionVector

end Salsify.Codec
