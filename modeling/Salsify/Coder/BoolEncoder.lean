import Mathlib.Data.List.Basic

namespace Salsify.Coder

/-! The boolean entropy encoder of `encoder/bool_encoder.hh`. -/

abbrev Probability := UInt8

/-- Shift that brings a range of one byte back to `128..255`. -/
def vp8Norm : List UInt8 :=
  [0, 7, 6, 6, 5, 5, 5, 5, 4, 4, 4, 4, 4, 4, 4, 4,
   3, 3, 3, 3, 3, 3, 3, 3, 3, 3, 3, 3, 3, 3, 3, 3,
   2, 2, 2, 2, 2, 2, 2, 2, 2, 2, 2, 2, 2, 2, 2, 2,
   2, 2, 2, 2, 2, 2, 2, 2, 2, 2, 2, 2, 2, 2, 2, 2,
   1, 1, 1, 1, 1, 1, 1, 1, 1, 1, 1, 1, 1, 1, 1, 1,
   1, 1, 1, 1, 1, 1, 1, 1, 1, 1, 1, 1, 1, 1, 1, 1,
   1, 1, 1, 1, 1, 1, 1, 1, 1, 1, 1, 1, 1, 1, 1, 1,
   1, 1, 1, 1, 1, 1, 1, 1, 1, 1, 1, 1, 1, 1, 1, 1,
   0, 0, 0, 0, 0, 0, 0, 0, 0, 0, 0, 0, 0, 0, 0, 0,
   0, 0, 0, 0, 0, 0, 0, 0, 0, 0, 0, 0, 0, 0, 0, 0,
   0, 0, 0, 0, 0, 0, 0, 0, 0, 0, 0, 0, 0, 0, 0, 0,
   0, 0, 0, 0, 0, 0, 0, 0, 0, 0, 0, 0, 0, 0, 0, 0,
   0, 0, 0, 0, 0, 0, 0, 0, 0, 0, 0, 0, 0, 0, 0, 0,
   0, 0, 0, 0, 0, 0, 0, 0, 0, 0, 0, 0, 0, 0, 0, 0,
   0, 0, 0, 0, 0, 0, 0, 0, 0, 0, 0, 0, 0, 0, 0, 0,
   0, 0, 0, 0, 0, 0, 0, 0, 0, 0, 0, 0, 0, 0, 0, 0]

structure BoolEncoder where
  output : List UInt8 := []
  range : UInt32 := 255
  bottom : UInt32 := 0
  bitCount : Int := -24
  deriving DecidableEq, Repr

/-- The walk of `add_one_to_output`, over the output read backwards.  There is
no result when the walk leaves the front of the buffer. -/
def carryBackwards : List UInt8 → Option (List UInt8)
  | [] => none
  | byte :: earlier =>
      if byte = 255 then
        (carryBackwards earlier).map (0 :: ·)
      else
        some ((byte + 1) :: earlier)

def addOneToOutput (output : List UInt8) : Option (List UInt8) :=
  (carryBackwards output.reverse).map List.reverse

def splitOf (range : UInt32) (probability : Probability) : UInt32 :=
  (1 : UInt32) + (((range - 1) * probability.toUInt32) >>> (8 : UInt32))

namespace BoolEncoder

/-- The branch of `put` that emits a byte, once `bitCount` has reached zero. -/
def emit (output : List UInt8) (bottom range shift : UInt32)
    (bitCount : Int) : Option BoolEncoder :=
  let offset := (shift.toNat - bitCount).toNat
  let carried :=
    if (bottom <<< UInt32.ofNat (offset - 1)) &&& 0x80000000 ≠ 0 then
      addOneToOutput output
    else
      some output
  let byte := (bottom >>> UInt32.ofNat (24 - offset)).toUInt8
  let rest := (bottom <<< UInt32.ofNat offset) &&& 0xffffff
  carried.map fun output => {
    output := output ++ [byte]
    range := range
    bottom := rest <<< UInt32.ofNat bitCount.toNat
    bitCount := bitCount - 8 }

def put (encoder : BoolEncoder) (value : Bool)
    (probability : Probability := 128) : Option BoolEncoder := do
  let split := splitOf encoder.range probability
  let bottom := if value then encoder.bottom + split else encoder.bottom
  let range := if value then encoder.range - split else split
  let norm ← vp8Norm[range.toNat]?
  let shift := norm.toUInt32
  let range := range <<< shift
  let bitCount := encoder.bitCount + shift.toNat
  if 0 ≤ bitCount then
    emit encoder.output bottom range shift bitCount
  else
    some {
      output := encoder.output
      range := range
      bottom := bottom <<< shift
      bitCount := bitCount }

def putAll (encoder : BoolEncoder) (symbols : List (Probability × Bool)) :
    Option BoolEncoder :=
  symbols.foldlM (fun current symbol => current.put symbol.2 symbol.1) encoder

def flushSymbols : List (Probability × Bool) :=
  List.replicate 32 (128, false)

def flush (encoder : BoolEncoder) : Option BoolEncoder :=
  encoder.putAll flushSymbols

/-- The finished byte string, and the fresh encoder left in its place. -/
def finish (encoder : BoolEncoder) : Option (List UInt8 × BoolEncoder) := do
  let flushed ← encoder.flush
  some (flushed.output, {})

@[simp] theorem putAll_nil (encoder : BoolEncoder) :
    encoder.putAll [] = some encoder := rfl

@[simp] theorem putAll_cons (encoder : BoolEncoder) (probability : Probability)
    (value : Bool) (symbols : List (Probability × Bool)) :
    encoder.putAll ((probability, value) :: symbols) =
      (encoder.put value probability).bind (putAll · symbols) := rfl

end BoolEncoder

end Salsify.Coder
