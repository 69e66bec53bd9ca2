import Salsify.Coder.BoolEncoder

namespace Salsify.Coder

/-! The boolean entropy decoder of `decoder/bool_decoder.hh`. -/

structure BoolDecoder where
  chunk : List UInt8
  range : UInt32
  value : UInt32
  bitCount : Int
  valid : Bool
  completeChunk : Bool
  deriving DecidableEq, Repr

namespace BoolDecoder

def loadOctet (decoder : BoolDecoder) : BoolDecoder :=
  match decoder.chunk with
  | byte :: rest =>
      { decoder with
        value := decoder.value ||| byte.toUInt32
        chunk := rest }
  | [] =>
      if decoder.completeChunk then decoder else { decoder with valid := false }

def ofChunk (chunk : List UInt8) (completeChunk : Bool := true) : BoolDecoder :=
  let first := loadOctet {
    chunk := chunk
    range := 255
    value := 0
    bitCount := 0
    valid := true
    completeChunk := completeChunk }
  loadOctet { first with value := first.value <<< (8 : UInt32) }

/-- One turn of the renormalisation loop of `get`. -/
def shiftOnce (decoder : BoolDecoder) : BoolDecoder :=
  let shifted : BoolDecoder := { decoder with
    value := decoder.value <<< (1 : UInt32)
    range := decoder.range <<< (1 : UInt32)
    bitCount := decoder.bitCount + 1 }
  if shifted.bitCount = 8 then
    loadOctet { shifted with bitCount := 0 }
  else
    shifted

/-- The loop `while ( range_ < 128 )`, for at most `fuel` turns. -/
def renormalize : Nat → BoolDecoder → BoolDecoder
  | 0, decoder => decoder
  | fuel + 1, decoder =>
      if decoder.range < 128 then
        renormalize fuel decoder.shiftOnce
      else
        decoder

/-- Seven turns bring any range of one byte back to 128 or more. -/
def get (decoder : BoolDecoder) (probability : Probability := 128) :
    Bool × BoolDecoder :=
  let split := splitOf decoder.range probability
  let SPLIT := split <<< (8 : UInt32)
  if SPLIT ≤ decoder.value then
    (true, renormalize 7 { decoder with
      range := decoder.range - split
      value := decoder.value - SPLIT })
  else
    (false, renormalize 7 { decoder with range := split })

def getAll (decoder : BoolDecoder) :
    List Probability → List Bool × BoolDecoder
  | [] => ([], decoder)
  | probability :: rest =>
      let (bit, next) := decoder.get probability
      let (bits, last) := next.getAll rest
      (bit :: bits, last)

def zeroDecoder : BoolDecoder := ofChunk []

end BoolDecoder

end Salsify.Coder
