import Salsify.Codec.Macroblock

namespace Salsify.Codec

open Salsify.Coder (Probability)

/-! The coefficient tokens of `decoder/tokens.cc`. -/

def coefficientToBand : Vector (Fin 8) 16 :=
  #v[0, 1, 2, 3, 6, 4, 5, 6, 6, 6, 6, 6, 6, 6, 6, 7]

def zigzag : Vector (Fin 16) 16 :=
  #v[0, 1, 4, 8, 5, 2, 3, 6, 9, 12, 13, 10, 7, 11, 14, 15]

structure TokenDecoder where
  baseValue : Nat
  bitProbabilities : List Probability

namespace TokenDecoder

def readIncrement : List Probability → Nat → Parser Nat
  | [], increment => pure increment
  | probability :: rest, increment => do
      let bit ← boolean probability
      readIncrement rest (increment * 2 + bit.toNat)

def decode (decoder : TokenDecoder) : Parser Nat := do
  let increment ← readIncrement decoder.bitProbabilities 0
  return decoder.baseValue + increment

end TokenDecoder

def tokenDecoder1 : TokenDecoder := ⟨7, [165, 145]⟩
def tokenDecoder2 : TokenDecoder := ⟨11, [173, 148, 140]⟩
def tokenDecoder3 : TokenDecoder := ⟨19, [176, 155, 140, 135]⟩
def tokenDecoder4 : TokenDecoder := ⟨35, [180, 157, 141, 134, 130]⟩
def tokenDecoder5 : TokenDecoder :=
  ⟨67, [254, 254, 243, 230, 196, 177, 153, 140, 133, 130, 129]⟩

/-- The next bit chooses between two parsers, the one for zero first. -/
def branch {α : Type} (probability : Probability) (zero one : Parser α) :
    Parser α :=
  .get probability fun bit => if bit then one else zero

def parseLargeValue (prob : SafeArray Probability 11) : Parser Nat :=
  branch (prob 3)
    (branch (prob 4)
      (pure 2)
      (branch (prob 5) (pure 3) (pure 4)))
    (branch (prob 6)
      (branch (prob 7)
        ((fun bit : Bool => 5 + bit.toNat) <$> boolean 159)
        tokenDecoder1.decode)
      (branch (prob 8)
        (branch (prob 9) tokenDecoder2.decode tokenDecoder3.decode)
        (branch (prob 10) tokenDecoder4.decode tokenDecoder5.decode)))

/-- A magnitude, and the context it leaves for the next coefficient. -/
def parseValue (prob : SafeArray Probability 11) : Parser (Nat × Fin 3) :=
  branch (prob 2) (pure (1, 1)) ((fun value => (value, 2)) <$> parseLargeValue prob)

def BlockType.code : BlockType → Fin 4
  | .yAfterY2 => 0
  | .y2 => 1
  | .uv => 2
  | .yWithoutY2 => 3

namespace Block

variable {Mode : Type}

def setCoefficient (block : Block Mode) (index : Fin 16) (value : Int) :
    Block Mode :=
  { block with
    coefficients := Function.update block.coefficients (zigzag.get index) value
    hasNonzero := true }

/-- The loop of `parse_tokens` over the coefficients that are left. -/
def parseCoefficients
    (probs : SafeArray (SafeArray (SafeArray Probability 11) 3) 8) :
    List (Fin 16) → Bool → Fin 3 → Block Mode → Parser (Block Mode)
  | [], _, _, block => pure block
  | index :: rest, lastWasZero, tokenContext, block =>
      let prob := probs (coefficientToBand.get index) tokenContext
      let afterEob :=
        branch (prob 1)
          (parseCoefficients probs rest true 0 block)
          (do
            let (value, nextContext) ← parseValue prob
            let negative ← boolean
            parseCoefficients probs rest false nextContext
              (block.setCoefficient index (if negative then -value else value)))
      if lastWasZero then afterEob
      else branch (prob 0) (pure block) afterEob

def firstCoefficient (type : BlockType) : Nat :=
  if type = .yAfterY2 then 1 else 0

/-- The context is the number of neighbours with a nonzero coefficient. -/
def neighbourContext (above left : Bool) : Fin 3 :=
  match above, left with
  | false, false => 0
  | true, true => 2
  | _, _ => 1

def parseTokens (tables : ProbabilityTables) (above left : Bool)
    (block : Block Mode) : Parser (Block Mode) :=
  parseCoefficients (tables.coeffProbs block.type.code)
    ((List.finRange 16).drop (firstCoefficient block.type)) false
    (neighbourContext above left) block

def hasNonzeroOf (block : Option (Block Mode)) : Bool :=
  block.elim false Block.hasNonzero

end Block

def parseSquareTokens {Mode : Type} {size : Nat} [NeZero size]
    (tables : ProbabilityTables) (above left : Option (Square (Block Mode) size)) :
    List (Fin size × Fin size) → Square (Block Mode) size →
    Parser (Square (Block Mode) size)
  | [], square => pure square
  | (column, row) :: rest, square => do
      let block ← (square column row).parseTokens tables
        (Block.hasNonzeroOf (Square.aboveOf above square column row))
        (Block.hasNonzeroOf (Square.leftOf left square column row))
      parseSquareTokens tables above left rest (square.set column row block)

def chromaBlocks : List (Fin 2 × Fin 2) := [(0, 0), (1, 0), (0, 1), (1, 1)]

structure TokenContext (Header : Type) where
  above : Option (Macroblock Header)
  left : Option (Macroblock Header)
  y2Above : Option Y2Block
  y2Left : Option Y2Block

namespace Macroblock

variable {Header : Type}

def anyNonzero {Mode : Type} {size : Nat} (square : Square (Block Mode) size) :
    Bool :=
  decide (∃ column row, (square column row).hasNonzero = true)

def parseY2Tokens (tables : ProbabilityTables) (context : TokenContext Header)
    (block : Y2Block) : Parser Y2Block :=
  if block.coded then
    block.parseTokens tables (Block.hasNonzeroOf context.y2Above)
      (Block.hasNonzeroOf context.y2Left)
  else
    pure block

def parseTokens (tables : ProbabilityTables) (context : TokenContext Header)
    (mb : Macroblock Header) : Parser (Macroblock Header) :=
  if mb.mbSkipCoeff.getD false then
    pure mb
  else do
    let Y2 ← parseY2Tokens tables context mb.Y2
    let Y ← parseSquareTokens tables (context.above.map Macroblock.Y)
      (context.left.map Macroblock.Y) subblocks mb.Y
    let U ← parseSquareTokens tables (context.above.map Macroblock.U)
      (context.left.map Macroblock.U) chromaBlocks mb.U
    let V ← parseSquareTokens tables (context.above.map Macroblock.V)
      (context.left.map Macroblock.V) chromaBlocks mb.V
    return { mb with
      Y2, Y, U, V
      hasNonzero := mb.hasNonzero || (Y2.coded && Y2.hasNonzero) ||
        anyNonzero Y || anyNonzero U || anyNonzero V }

end Macroblock

end Salsify.Codec
