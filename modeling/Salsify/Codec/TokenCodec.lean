import Salsify.Codec.ModeCodec
import Salsify.Codec.Tokens

namespace Salsify.Codec

open Salsify.Coder (Probability)
open Salsify.Net (Failure)
open BitParser (Echoes Yields Consumes Reaches echoes_pure consumes_pure
  reaches_pure reaches_get)
open BitWriter (concat)
open Square (Ordered Settled)

/-! The coefficient tokens, as `encoder/serializer.cc` writes them. -/

namespace TokenDecoder

def writeIncrement : List Probability → Nat → SymbolWriter
  | [], _ => .ok []
  | probability :: rest, increment =>
      (encodeBoolean probability (increment.testBit rest.length)).append
        (writeIncrement rest increment)

def encode (decoder : TokenDecoder) (value : Nat) : SymbolWriter :=
  if decoder.baseValue ≤ value then
    writeIncrement decoder.bitProbabilities (value - decoder.baseValue)
  else
    .error (.assertion "value >= base_value_")

def upperLimit (decoder : TokenDecoder) : Nat :=
  decoder.baseValue + 2 ^ decoder.bitProbabilities.length

end TokenDecoder

def encodeLargeValue (prob : SafeArray Probability 11) (tokenValue : Nat) :
    SymbolWriter :=
  if tokenValue = 2 then
    concat [encodeBoolean (prob 3) false, encodeBoolean (prob 4) false]
  else if tokenValue = 3 then
    concat [encodeBoolean (prob 3) false, encodeBoolean (prob 4) true,
      encodeBoolean (prob 5) false]
  else if tokenValue = 4 then
    concat [encodeBoolean (prob 3) false, encodeBoolean (prob 4) true,
      encodeBoolean (prob 5) true]
  else if tokenValue < tokenDecoder1.baseValue then
    concat [encodeBoolean (prob 3) true, encodeBoolean (prob 6) false,
      encodeBoolean (prob 7) false, encodeBoolean 159 (tokenValue = 6)]
  else if tokenValue < tokenDecoder1.upperLimit then
    concat [encodeBoolean (prob 3) true, encodeBoolean (prob 6) false,
      encodeBoolean (prob 7) true, tokenDecoder1.encode tokenValue]
  else if tokenValue < tokenDecoder2.upperLimit then
    concat [encodeBoolean (prob 3) true, encodeBoolean (prob 6) true,
      encodeBoolean (prob 8) false, encodeBoolean (prob 9) false,
      tokenDecoder2.encode tokenValue]
  else if tokenValue < tokenDecoder3.upperLimit then
    concat [encodeBoolean (prob 3) true, encodeBoolean (prob 6) true,
      encodeBoolean (prob 8) false, encodeBoolean (prob 9) true,
      tokenDecoder3.encode tokenValue]
  else if tokenValue < tokenDecoder4.upperLimit then
    concat [encodeBoolean (prob 3) true, encodeBoolean (prob 6) true,
      encodeBoolean (prob 8) true, encodeBoolean (prob 10) false,
      tokenDecoder4.encode tokenValue]
  else if tokenValue < tokenDecoder5.upperLimit then
    concat [encodeBoolean (prob 3) true, encodeBoolean (prob 6) true,
      encodeBoolean (prob 8) true, encodeBoolean (prob 10) true,
      tokenDecoder5.encode tokenValue]
  else
    .error (.runtimeError "token encoder: value too large")

def encodeValue (prob : SafeArray Probability 11) (tokenValue : Nat) :
    SymbolWriter :=
  if tokenValue = 1 then encodeBoolean (prob 2) false
  else (encodeBoolean (prob 2) true).append (encodeLargeValue prob tokenValue)

def contextAfter (tokenValue : Nat) : Fin 3 :=
  if tokenValue = 1 then 1 else 2

namespace Block

variable {Mode : Type}

def codedLength (block : Block Mode) : Nat :=
  ((List.finRange 16).drop (firstCoefficient block.type)).foldl
    (fun (codedLength : Nat) (index : Fin 16) =>
      if block.coefficients (zigzag.get index) ≠ 0 then index + 1 else codedLength) 0

def writeEndOfBlock
    (probs : SafeArray (SafeArray (SafeArray Probability 11) 3) 8)
    (codedLength : Nat) (left : List (Fin 16)) (lastWasZero : Bool)
    (tokenContext : Fin 3) : SymbolWriter :=
  if lastWasZero then
    .error (.assertion "last_was_zero == false")
  else if codedLength < 16 then
    match left with
    | [] => .error (.assertion "index < size()")
    | index :: _ =>
        encodeBoolean (probs (coefficientToBand.get index) tokenContext 0) false
  else
    .ok []

/-- The loop of `serialize_tokens` over the coefficients that are left. -/
def writeCoefficients
    (probs : SafeArray (SafeArray (SafeArray Probability 11) 3) 8)
    (coefficients : SafeArray Int 16) (codedLength : Nat) :
    List (Fin 16) → Bool → Fin 3 → SymbolWriter
  | [], lastWasZero, tokenContext =>
      writeEndOfBlock probs codedLength [] lastWasZero tokenContext
  | index :: rest, lastWasZero, tokenContext =>
      if index < codedLength then
        let prob := probs (coefficientToBand.get index) tokenContext
        let coefficient := coefficients (zigzag.get index)
        let tokenValue := coefficient.natAbs
        let notEob : SymbolWriter :=
          if lastWasZero then .ok [] else encodeBoolean (prob 0) true
        if tokenValue = 0 then
          concat [notEob, encodeBoolean (prob 1) false,
            writeCoefficients probs coefficients codedLength rest true 0]
        else
          concat [notEob, encodeBoolean (prob 1) true,
            encodeValue prob tokenValue,
            encodeBoolean 128 (coefficient < 0),
            writeCoefficients probs coefficients codedLength rest false
              (contextAfter tokenValue)]
      else
        writeEndOfBlock probs codedLength (index :: rest) lastWasZero
          tokenContext

def serializeTokens (tables : ProbabilityTables) (above left : Bool)
    (block : Block Mode) : SymbolWriter :=
  writeCoefficients (tables.coeffProbs block.type.code) block.coefficients
    block.codedLength
    ((List.finRange 16).drop (firstCoefficient block.type)) false
    (neighbourContext above left)

end Block

def serializeSquareTokens {Mode : Type} {size : Nat} [NeZero size]
    (tables : ProbabilityTables) (above left : Option (Square (Block Mode) size))
    (places : List (Fin size × Fin size)) (square : Square (Block Mode) size) :
    SymbolWriter :=
  concat (places.map fun place =>
    (square place.1 place.2).serializeTokens tables
      (Block.hasNonzeroOf (Square.aboveOf above square place.1 place.2))
      (Block.hasNonzeroOf (Square.leftOf left square place.1 place.2)))

namespace Macroblock

variable {Header : Type}

def serializeTokens (tables : ProbabilityTables) (context : TokenContext Header)
    (mb : Macroblock Header) : SymbolWriter :=
  if mb.mbSkipCoeff.getD false then
    .ok []
  else
    concat [
      if mb.Y2.coded then
        mb.Y2.serializeTokens tables (Block.hasNonzeroOf context.y2Above)
          (Block.hasNonzeroOf context.y2Left)
      else .ok [],
      serializeSquareTokens tables (context.above.map Macroblock.Y)
        (context.left.map Macroblock.Y) subblocks mb.Y,
      serializeSquareTokens tables (context.above.map Macroblock.U)
        (context.left.map Macroblock.U) chromaBlocks mb.U,
      serializeSquareTokens tables (context.above.map Macroblock.V)
        (context.left.map Macroblock.V) chromaBlocks mb.V]

end Macroblock

variable {Answers : Bool → Prop}

theorem branch_echoes {α : Type} {probability : Probability}
    {zero one zeroAgain oneAgain : Parser α} {write : α → SymbolWriter}
    {written : List (Probability × Bool)}
    (hzero : Echoes Answers (written ++ [(probability, false)]) zero zeroAgain
      write)
    (hone : Echoes Answers (written ++ [(probability, true)]) one oneAgain
      write) :
    Echoes Answers written (branch probability zero one)
      (branch probability zeroAgain oneAgain) write := by
  intro bit
  cases bit with
  | false =>
      refine Yields.mono hzero ?_
      rintro value ⟨rest, hrest, hreads⟩
      exact ⟨(probability, false) :: rest, by simp [hrest], false, rest, rfl,
        hreads⟩
  | true =>
      refine Yields.mono hone ?_
      rintro value ⟨rest, hrest, hreads⟩
      exact ⟨(probability, true) :: rest, by simp [hrest], true, rest, rfl,
        hreads⟩

theorem branch_yields {α : Type} {probability : Probability}
    {zero one : Parser α} {Post : α → Prop} (hzero : zero.Yields Answers Post)
    (hone : one.Yields Answers Post) :
    (branch probability zero one).Yields Answers Post := by
  intro bit
  cases bit with
  | false => exact hzero
  | true => exact hone

namespace TokenDecoder

theorem readIncrement_echoes (probabilities : List Probability) (start : Nat) :
    (readIncrement probabilities start).Yields Answers fun increment =>
      increment / 2 ^ probabilities.length = start ∧ ∃ symbols,
        writeIncrement probabilities increment = .ok symbols ∧
          (readIncrement probabilities start).Consumes symbols increment := by
  induction probabilities generalizing start with
  | nil => exact ⟨Nat.div_one start, [], rfl, rfl, rfl⟩
  | cons probability rest ih =>
      apply Yields.bind (boolean_echoes probability)
      rintro bit ⟨first, hfirst, hreads⟩
      refine Yields.mono (ih (start * 2 + bit.toNat)) ?_
      rintro increment ⟨hdiv, symbols, hsymbols, hrest⟩
      have hbit : increment.testBit rest.length = bit := by
        rw [Nat.testBit_eq_decide_div_mod_eq, hdiv]
        cases bit with
        | false => exact decide_eq_false (by simp)
        | true => exact decide_eq_true (by simp)
      refine ⟨?_, first ++ symbols, ?_, hreads.bind hrest⟩
      · rw [List.length_cons, Nat.pow_succ, ← Nat.div_div_eq_div_mul, hdiv]
        have := Bool.toNat_lt bit
        omega
      · rw [List.nil_append] at hfirst
        rw [writeIncrement, hbit, hfirst, hsymbols]
        rfl

theorem decode_echoes (decoder : TokenDecoder) :
    decoder.decode.Yields Answers fun value =>
      (decoder.baseValue ≤ value ∧ value < decoder.upperLimit) ∧ ∃ symbols,
        decoder.encode value = .ok symbols ∧
          decoder.decode.Consumes symbols value := by
  apply Yields.bind (readIncrement_echoes decoder.bitProbabilities 0)
  rintro increment ⟨hdiv, symbols, hsymbols, hreads⟩
  refine ⟨⟨Nat.le_add_right _ _, ?_⟩, symbols ++ [], ?_,
    hreads.bind (consumes_pure _)⟩
  · have hlt : increment < 2 ^ decoder.bitProbabilities.length :=
      (Nat.div_eq_zero_iff_lt (Nat.two_pow_pos _)).mp hdiv
    exact Nat.add_lt_add_left hlt decoder.baseValue
  · rw [encode, if_pos (Nat.le_add_right _ _), Nat.add_sub_cancel_left,
      hsymbols, List.append_nil]

theorem decode_echoes_after {decoder : TokenDecoder} {write : Nat → SymbolWriter}
    {written : List (Probability × Bool)}
    (h : ∀ value, decoder.baseValue ≤ value → value < decoder.upperLimit →
      write value =
        BitWriter.append (.ok written : SymbolWriter) (decoder.encode value)) :
    Echoes Answers written decoder.decode decoder.decode write := by
  refine Yields.mono decoder.decode_echoes ?_
  rintro value ⟨⟨hbase, hlimit⟩, symbols, hsymbols, hreads⟩
  exact ⟨symbols, by rw [h value hbase hlimit, hsymbols]; rfl, hreads⟩

end TokenDecoder

theorem upperLimits : tokenDecoder1.upperLimit = 11 ∧
    tokenDecoder2.upperLimit = 19 ∧ tokenDecoder3.upperLimit = 35 ∧
    tokenDecoder4.upperLimit = 67 ∧ tokenDecoder5.upperLimit = 2115 := by
  decide

theorem baseValues : tokenDecoder1.baseValue = 7 ∧
    tokenDecoder2.baseValue = 11 ∧ tokenDecoder3.baseValue = 19 ∧
    tokenDecoder4.baseValue = 35 ∧ tokenDecoder5.baseValue = 67 := by
  decide

theorem parseLargeValue_echoes (prob : SafeArray Probability 11) :
    Echoes Answers [] (parseLargeValue prob) (parseLargeValue prob)
      (encodeLargeValue prob) := by
  obtain ⟨limit1, limit2, limit3, limit4, limit5⟩ := upperLimits
  obtain ⟨base1, base2, base3, base4, base5⟩ := baseValues
  refine branch_echoes (branch_echoes (echoes_pure rfl)
    (branch_echoes (echoes_pure rfl) (echoes_pure rfl)))
    (branch_echoes (branch_echoes ?_ ?_)
      (branch_echoes (branch_echoes ?_ ?_) (branch_echoes ?_ ?_)))
  · intro bit
    cases bit with
    | false => exact ⟨[(159, false)], rfl, false, [], rfl, rfl, rfl⟩
    | true => exact ⟨[(159, true)], rfl, true, [], rfl, rfl, rfl⟩
  · apply TokenDecoder.decode_echoes_after
    intro value hbase hlimit
    rw [encodeLargeValue, if_neg (by omega), if_neg (by omega),
      if_neg (by omega), if_neg (by omega), if_pos hlimit]
    simp [encodeBoolean, BitWriter.put]
  · apply TokenDecoder.decode_echoes_after
    intro value hbase hlimit
    rw [encodeLargeValue, if_neg (by omega), if_neg (by omega),
      if_neg (by omega), if_neg (by omega), if_neg (by omega), if_pos hlimit]
    simp [encodeBoolean, BitWriter.put]
  · apply TokenDecoder.decode_echoes_after
    intro value hbase hlimit
    rw [encodeLargeValue, if_neg (by omega), if_neg (by omega),
      if_neg (by omega), if_neg (by omega), if_neg (by omega),
      if_neg (by omega), if_pos hlimit]
    simp [encodeBoolean, BitWriter.put]
  · apply TokenDecoder.decode_echoes_after
    intro value hbase hlimit
    rw [encodeLargeValue, if_neg (by omega), if_neg (by omega),
      if_neg (by omega), if_neg (by omega), if_neg (by omega),
      if_neg (by omega), if_neg (by omega), if_pos hlimit]
    simp [encodeBoolean, BitWriter.put]
  · apply TokenDecoder.decode_echoes_after
    intro value hbase hlimit
    rw [encodeLargeValue, if_neg (by omega), if_neg (by omega),
      if_neg (by omega), if_neg (by omega), if_neg (by omega),
      if_neg (by omega), if_neg (by omega), if_neg (by omega), if_pos hlimit]
    simp [encodeBoolean, BitWriter.put]

theorem parseLargeValue_range (prob : SafeArray Probability 11) :
    (parseLargeValue prob).Yields Answers fun value => 2 ≤ value := by
  have hdecode {decoder : TokenDecoder} (hbase : 2 ≤ decoder.baseValue) :
      decoder.decode.Yields Answers fun value => 2 ≤ value :=
    Yields.mono decoder.decode_echoes fun value h =>
      Nat.le_trans hbase h.1.1
  have hbit : ((fun bit : Bool => 5 + bit.toNat) <$> boolean 159).Yields Answers
      fun value => 2 ≤ value := by
    intro bit
    exact Nat.le_trans (by decide : 2 ≤ 5) (Nat.le_add_right 5 _)
  exact branch_yields (branch_yields (Nat.le_refl 2)
      (branch_yields (by decide : 2 ≤ 3) (by decide : 2 ≤ 4)))
    (branch_yields (branch_yields hbit (hdecode (by decide)))
      (branch_yields
        (branch_yields (hdecode (by decide)) (hdecode (by decide)))
        (branch_yields (hdecode (by decide)) (hdecode (by decide)))))

theorem parseValue_echoes (prob : SafeArray Probability 11) :
    (parseValue prob).Yields Answers fun result =>
      (result.1 ≠ 0 ∧ result.2 = contextAfter result.1) ∧ ∃ symbols,
        encodeValue prob result.1 = .ok symbols ∧
          (parseValue prob).Consumes symbols result := by
  intro bit
  cases bit with
  | false =>
      exact ⟨⟨Nat.one_ne_zero, rfl⟩, [(prob 2, false)], rfl, false, [], rfl,
        rfl, rfl⟩
  | true =>
      apply Yields.bind (Yields.and (parseLargeValue_echoes prob)
        (parseLargeValue_range prob))
      rintro value ⟨⟨symbols, hsymbols, hreads⟩, hvalue⟩
      have hone : value ≠ 1 := by omega
      have hzero : value ≠ 0 := by omega
      refine ⟨⟨hzero, (if_neg hone).symm⟩, (prob 2, true) :: symbols, ?_,
        true, symbols, rfl, hreads.map _⟩
      rw [List.nil_append] at hsymbols
      rw [encodeValue, if_neg hone, hsymbols]
      rfl

namespace Block

variable {Mode : Type}

theorem zigzag_injective (index other : Fin 16)
    (h : (zigzag.get index) = (zigzag.get other)) : index = other := by
  revert index other
  decide

def NoneFrom (index : Nat) (coefficients : SafeArray Int 16) : Prop :=
  ∀ other : Fin 16, index ≤ other → coefficients (zigzag.get other) = 0

/-- From the index on, the coded length reaches just past the last nonzero
coefficient. -/
def Measures (codedLength index : Nat) (coefficients : SafeArray Int 16) :
    Prop :=
  ∀ other : Fin 16, index ≤ other →
    (other < codedLength ↔ ¬ NoneFrom other coefficients)

def bare (block : Block Mode) : Block Mode :=
  { block with
    coefficients := fun _ => 0
    hasNonzero := false }

structure ParsedFrom (index : Nat) (block parsed : Block Mode) : Prop where
  bare : parsed.bare = block.bare
  before : ∀ other : Fin 16, other < index →
    parsed.coefficients (zigzag.get other) = block.coefficients (zigzag.get other)

theorem ParsedFrom.refl (index : Nat) (block : Block Mode) :
    ParsedFrom index block block :=
  ⟨rfl, fun _ _ => rfl⟩

theorem ParsedFrom.mono {index later : Nat} {block parsed : Block Mode}
    (h : ParsedFrom later block parsed) (hle : index ≤ later) :
    ParsedFrom index block parsed where
  bare := h.bare
  before other hother := h.before other (Nat.lt_of_lt_of_le hother hle)

theorem NoneFrom.succ {index : Fin 16} {coefficients : SafeArray Int 16}
    (h : NoneFrom (index + 1) coefficients)
    (hzero : coefficients (zigzag.get index) = 0) :
    NoneFrom index coefficients := by
  intro other hother
  rcases Nat.lt_or_eq_of_le hother with hlt | heq
  · exact h other hlt
  · rw [← Fin.ext heq]
    exact hzero

theorem setCoefficient_of_ne (block : Block Mode) {index other : Fin 16}
    (h : other ≠ index) (value : Int) :
    (block.setCoefficient index value).coefficients (zigzag.get other) =
      block.coefficients (zigzag.get other) :=
  Function.update_of_ne (fun heq => h (zigzag_injective other index heq)) _ _

theorem setCoefficient_self (block : Block Mode) (index : Fin 16)
    (value : Int) :
    (block.setCoefficient index value).coefficients (zigzag.get index) = value :=
  Function.update_self _ _ _

theorem ParsedFrom.of_set {index : Fin 16} {value : Int}
    {block parsed : Block Mode}
    (h : ParsedFrom (index + 1) (block.setCoefficient index value) parsed) :
    ParsedFrom index block parsed where
  bare := h.bare
  before other hother := by
    rw [h.before other (Nat.lt_succ_of_lt hother),
      block.setCoefficient_of_ne (Fin.ne_of_lt hother)]

/-- Before a coefficient that is written, the writer says that there is one,
unless that is known. -/
theorem writeCoefficients_notEob
    {probs : SafeArray (SafeArray (SafeArray Probability 11) 3) 8}
    {coefficients : SafeArray Int 16} {codedLength : Nat} {index : Fin 16}
    (rest : List (Fin 16)) (tokenContext : Fin 3) (h : index < codedLength) :
    writeCoefficients probs coefficients codedLength (index :: rest) false
        tokenContext =
      BitWriter.append
        (encodeBoolean (probs (coefficientToBand.get index) tokenContext 0) true)
        (writeCoefficients probs coefficients codedLength (index :: rest) true
          tokenContext) := by
  unfold writeCoefficients
  rw [if_pos h, if_pos h]
  dsimp only
  split
  · simp
  · simp

theorem writeCoefficients_zero
    {probs : SafeArray (SafeArray (SafeArray Probability 11) 3) 8}
    {coefficients : SafeArray Int 16} {codedLength : Nat} {index : Fin 16}
    (rest : List (Fin 16)) (tokenContext : Fin 3) (h : index < codedLength)
    (hzero : coefficients (zigzag.get index) = 0) :
    writeCoefficients probs coefficients codedLength (index :: rest) true
        tokenContext =
      BitWriter.append
        (encodeBoolean (probs (coefficientToBand.get index) tokenContext 1) false)
        (writeCoefficients probs coefficients codedLength rest true 0) := by
  rw [writeCoefficients, if_pos h, hzero]
  dsimp only
  rw [if_pos rfl, if_pos Int.natAbs_zero]
  simp

theorem writeCoefficients_value
    {probs : SafeArray (SafeArray (SafeArray Probability 11) 3) 8}
    {coefficients : SafeArray Int 16} {codedLength : Nat} {index : Fin 16}
    (rest : List (Fin 16)) (tokenContext : Fin 3) (h : index < codedLength)
    (hvalue : coefficients (zigzag.get index) ≠ 0) :
    writeCoefficients probs coefficients codedLength (index :: rest) true
        tokenContext =
      concat [
        encodeBoolean (probs (coefficientToBand.get index) tokenContext 1) true,
        encodeValue (probs (coefficientToBand.get index) tokenContext)
          (coefficients (zigzag.get index)).natAbs,
        encodeBoolean 128 (coefficients (zigzag.get index) < 0),
        writeCoefficients probs coefficients codedLength rest false
          (contextAfter (coefficients (zigzag.get index)).natAbs)] := by
  rw [writeCoefficients, if_pos h]
  dsimp only
  rw [if_pos rfl, if_neg (Int.natAbs_ne_zero.mpr hvalue),
    BitWriter.concat_cons, BitWriter.nil_append]

theorem writeCoefficients_end
    {probs : SafeArray (SafeArray (SafeArray Probability 11) 3) 8}
    {coefficients : SafeArray Int 16} {codedLength : Nat} {index : Fin 16}
    (rest : List (Fin 16)) (tokenContext : Fin 3) (h : ¬ index < codedLength) :
    writeCoefficients probs coefficients codedLength (index :: rest) false
        tokenContext =
      .ok [(probs (coefficientToBand.get index) tokenContext 0, false)] := by
  unfold writeCoefficients writeEndOfBlock
  rw [if_neg h, if_neg Bool.false_ne_true, if_pos (by omega)]
  rfl

/-- What a parsed block is written as, from the coefficient at the index on. -/
def Rewritten (probs : SafeArray (SafeArray (SafeArray Probability 11) 3) 8)
    (left : List (Fin 16)) (index : Nat) (lastWasZero : Bool)
    (tokenContext : Fin 3) (block parsed : Block Mode) : Prop :=
  ∀ codedLength, Measures codedLength index parsed.coefficients →
    (lastWasZero = false → 16 ≤ index → 16 ≤ codedLength) →
    (lastWasZero = true → ¬ NoneFrom index parsed.coefficients) →
    ∃ symbols,
      writeCoefficients probs parsed.coefficients codedLength left lastWasZero
          tokenContext = .ok symbols ∧
        (parseCoefficients probs left lastWasZero tokenContext block).Consumes
          symbols parsed

theorem drop_finRange {left : Fin 16} {rest : List (Fin 16)} {index : Nat}
    (h : left :: rest = (List.finRange 16).drop index) :
    left.val = index ∧ rest = (List.finRange 16).drop (index + 1) := by
  have hlt : index < (List.finRange 16).length := by
    have hlength := congrArg List.length h
    rw [List.length_cons, List.length_drop] at hlength
    omega
  rw [List.drop_eq_getElem_cons hlt, List.cons.injEq, List.getElem_finRange]
    at h
  exact ⟨congrArg Fin.val h.1, h.2⟩

theorem parseCoefficient_echoes
    (probs : SafeArray (SafeArray (SafeArray Probability 11) 3) 8)
    (index : Fin 16) (rest : List (Fin 16)) (tokenContext : Fin 3)
    (block : Block Mode) (hclear : NoneFrom index block.coefficients)
    (hrest : ∀ lastWasZero tokenContext (next : Block Mode),
      NoneFrom (index + 1) next.coefficients →
      (parseCoefficients probs rest lastWasZero tokenContext next).Yields
        Answers fun parsed => ParsedFrom (index + 1) next parsed ∧
          (NoneFrom (index + 1) parsed.coefficients → parsed = next) ∧
          Rewritten probs rest (index + 1) lastWasZero tokenContext next
            parsed) :
    (parseCoefficients probs (index :: rest) true tokenContext block).Yields
      Answers fun parsed => ParsedFrom index block parsed ∧
        (NoneFrom index parsed.coefficients → parsed = block) ∧
        Rewritten probs (index :: rest) index true tokenContext block
          parsed := by
  have hlater {coefficients : SafeArray Int 16} {from' : Nat}
      (h : NoneFrom from' coefficients) : NoneFrom (from' + 1) coefficients :=
    fun other hother => h other (Nat.le_of_succ_le hother)
  have hmeasuresLater {codedLength : Nat} {coefficients : SafeArray Int 16}
      (h : Measures codedLength index coefficients) :
      Measures codedLength (index + 1) coefficients :=
    fun other hother => h other (Nat.le_of_succ_le hother)
  intro bit
  cases bit with
  | false =>
      refine Yields.mono (hrest true 0 block (hlater hclear)) ?_
      rintro parsed ⟨hparsed, hnone, hwritten⟩
      have hzero : parsed.coefficients (zigzag.get index) = 0 := by
        rw [hparsed.before index (Nat.lt_succ_self index)]
        exact hclear index (Nat.le_refl index)
      refine ⟨hparsed.mono (Nat.le_succ index), fun h => hnone (hlater h), ?_⟩
      intro codedLength hmeasures _ hsome
      obtain ⟨symbols, hsymbols, hreads⟩ := hwritten codedLength
        (hmeasuresLater hmeasures) (fun h => nomatch h)
        (fun _ h => hsome rfl (h.succ hzero))
      have hlt : index < codedLength :=
        (hmeasures index (Nat.le_refl index)).mpr (hsome rfl)
      refine ⟨(probs (coefficientToBand.get index) tokenContext 1, false) ::
        symbols, ?_, false, symbols, rfl, hreads⟩
      rw [writeCoefficients_zero rest tokenContext hlt hzero, hsymbols]
      rfl
  | true =>
      apply Yields.bind (parseValue_echoes _)
      rintro ⟨value, nextContext⟩ ⟨⟨hvalue, hcontext⟩, bits, hbits,
        hreadsValue⟩ negative
      let coefficient : Int := if negative then -value else value
      have hcoefficient : coefficient ≠ 0 ∧ coefficient.natAbs = value ∧
          decide (coefficient < 0) = negative := by
        have hpositive : (0 : Int) < value :=
          Int.natCast_pos.mpr (Nat.pos_of_ne_zero hvalue)
        cases negative with
        | false => exact ⟨Int.ne_of_gt hpositive, rfl,
            decide_eq_false (Int.not_lt.mpr (Int.le_of_lt hpositive))⟩
        | true =>
            have hnegative : -(value : Int) < 0 := Int.neg_neg_of_pos hpositive
            exact ⟨Int.ne_of_lt hnegative, Int.natAbs_neg value,
              decide_eq_true hnegative⟩
      obtain ⟨hne, habs, hsign⟩ := hcoefficient
      have hclearNext : NoneFrom (index + 1)
          (block.setCoefficient index coefficient).coefficients := by
        intro other hother
        rw [block.setCoefficient_of_ne (Fin.ne_of_gt hother)]
        exact hclear other (Nat.le_of_succ_le hother)
      refine Yields.mono (hrest false nextContext _ hclearNext) ?_
      rintro parsed ⟨hparsed, -, hwritten⟩
      have hmine : parsed.coefficients (zigzag.get index) = coefficient := by
        rw [hparsed.before index (Nat.lt_succ_self index),
          setCoefficient_self]
      have hsome : ¬ NoneFrom index parsed.coefficients := by
        intro h
        rw [h index (Nat.le_refl index)] at hmine
        exact hne hmine.symm
      refine ⟨hparsed.of_set, fun h => absurd h hsome, ?_⟩
      intro codedLength hmeasures _ _
      have hlt : index < codedLength :=
        (hmeasures index (Nat.le_refl index)).mpr hsome
      obtain ⟨symbols, hsymbols, hreads⟩ := hwritten codedLength
        (hmeasuresLater hmeasures) (fun _ h => by omega)
        (fun h => nomatch h)
      refine ⟨(probs (coefficientToBand.get index) tokenContext 1, true) ::
        (bits ++ (128, negative) :: symbols), ?_, true, _, rfl,
        hreadsValue.bind ⟨negative, symbols, rfl, hreads⟩⟩
      rw [writeCoefficients_value rest tokenContext hlt (hmine ▸ hne), hmine,
        habs, hbits, hsign, ← hcontext, hsymbols]
      simp [encodeBoolean, BitWriter.put]

theorem parseCoefficients_echoes
    (probs : SafeArray (SafeArray (SafeArray Probability 11) 3) 8)
    (left : List (Fin 16)) {index : Nat}
    (hleft : left = (List.finRange 16).drop index) (lastWasZero : Bool)
    (tokenContext : Fin 3) (block : Block Mode)
    (hclear : NoneFrom index block.coefficients) :
    (parseCoefficients probs left lastWasZero tokenContext block).Yields Answers
      fun parsed => ParsedFrom index block parsed ∧
        (NoneFrom index parsed.coefficients → parsed = block) ∧
        Rewritten probs left index lastWasZero tokenContext block parsed := by
  induction left generalizing index lastWasZero tokenContext block with
  | nil =>
      have hindex : 16 ≤ index := by
        have hlength := congrArg List.length hleft
        simp at hlength
        omega
      refine ⟨.refl index block, fun _ => rfl, ?_⟩
      intro codedLength _ hlast hsome
      cases lastWasZero with
      | true => exact absurd hclear (hsome rfl)
      | false =>
          refine ⟨[], ?_, rfl, rfl⟩
          have hlength := hlast rfl hindex
          rw [writeCoefficients, writeEndOfBlock, if_neg Bool.false_ne_true,
            if_neg (by omega)]
  | cons first rest ih =>
      obtain ⟨rfl, hrest⟩ := drop_finRange hleft
      have hknown := parseCoefficient_echoes probs first
        rest tokenContext block hclear fun lastWasZero tokenContext next =>
          ih hrest lastWasZero tokenContext next
      cases lastWasZero with
      | true => exact hknown
      | false =>
          -- Trailing zeros are written as the end of the block.
          have hend : Rewritten probs (first :: rest) first false tokenContext
              block block := by
            intro codedLength hmeasures _ _
            have hlength : ¬ first < codedLength := fun h =>
              (hmeasures first (Nat.le_refl first)).mp h hclear
            exact ⟨_, writeCoefficients_end rest tokenContext hlength, false,
              [], rfl, rfl, rfl⟩
          intro bit
          cases bit with
          | false => exact ⟨.refl first block, fun _ => rfl, hend⟩
          | true =>
              refine Yields.mono hknown ?_
              rintro parsed ⟨hparsed, hnone, hwritten⟩
              refine ⟨hparsed, hnone, ?_⟩
              by_cases hclearParsed : NoneFrom first parsed.coefficients
              · rw [hnone hclearParsed]
                exact hend
              · intro codedLength hmeasures _ _
                obtain ⟨symbols, hsymbols, hreads⟩ := hwritten codedLength
                  hmeasures (fun h => nomatch h) fun _ => hclearParsed
                have hlt : first < codedLength :=
                  (hmeasures first (Nat.le_refl first)).mpr hclearParsed
                exact ⟨(probs (coefficientToBand.get first) tokenContext 0, true) ::
                  symbols, by
                    rw [writeCoefficients_notEob rest tokenContext hlt,
                      hsymbols]
                    rfl, true, symbols, rfl, hreads⟩

theorem mem_drop_finRange {start : Nat} {index : Fin 16} :
    index ∈ (List.finRange 16).drop start ↔ start ≤ index := by
  rw [List.mem_drop_iff_getElem]
  constructor
  · rintro ⟨offset, hoffset, rfl⟩
    rw [List.getElem_finRange]
    exact Nat.le_add_right start offset
  · intro hle
    refine ⟨index - start, ?_, ?_⟩
    · rw [List.length_finRange]
      omega
    · rw [List.getElem_finRange]
      apply Fin.ext
      change start + (index.val - start) = index.val
      omega

theorem lt_foldl_iff {length : Nat} {Nonzero : Fin length → Prop}
    [DecidablePred Nonzero] (indices : List (Fin length))
    (hsorted : indices.Pairwise (· < ·)) (index : Nat) :
    index < indices.foldl (fun (last : Nat) (other : Fin length) =>
        if Nonzero other then other + 1 else last) 0 ↔
      ∃ other ∈ indices, index ≤ other ∧ Nonzero other := by
  induction indices using List.reverseRecOn with
  | nil => simp
  | append_singleton front final ih =>
      rw [List.pairwise_append] at hsorted
      obtain ⟨hfront, -, hbefore⟩ := hsorted
      rw [List.foldl_append, List.foldl_cons, List.foldl_nil]
      constructor
      · intro h
        split at h
        · next hnonzero =>
            exact ⟨final, by simp, Nat.le_of_lt_succ h, hnonzero⟩
        · obtain ⟨other, hother, hle⟩ := (ih hfront).mp h
          exact ⟨other, List.mem_append_left _ hother, hle⟩
      · rintro ⟨other, hother, hle, hnonzero⟩
        rcases List.mem_append.mp hother with hother | hother
        · split
          · have hlt : other < final :=
              hbefore other hother final (List.mem_singleton.mpr rfl)
            have := Fin.lt_def.mp hlt
            omega
          · exact (ih hfront).mpr ⟨other, hother, hle, hnonzero⟩
        · obtain rfl := List.mem_singleton.mp hother
          rw [if_pos hnonzero]
          exact Nat.lt_succ_of_le hle

theorem codedLength_measures (block : Block Mode) :
    Measures block.codedLength (firstCoefficient block.type)
      block.coefficients := by
  intro index hindex
  have hsorted : ((List.finRange 16).drop
      (firstCoefficient block.type)).Pairwise (· < ·) :=
    (List.pairwise_lt_finRange 16).drop
  rw [codedLength, lt_foldl_iff _ hsorted]
  constructor
  · rintro ⟨other, -, hle, hne⟩ hnone
    exact hne (hnone other hle)
  · intro hsome
    by_contra hnone
    refine hsome fun other hle => by_contra fun hne => hnone ⟨other, ?_, hle,
      hne⟩
    exact mem_drop_finRange.mpr (Nat.le_trans hindex hle)

theorem parseTokens_echoes (tables : ProbabilityTables) (above left : Bool)
    (block : Block Mode) (hclear : block.coefficients = fun _ => 0) :
    (block.parseTokens tables above left).Yields Answers fun parsed =>
      parsed.bare = block.bare ∧ ∃ symbols,
        parsed.serializeTokens tables above left = .ok symbols ∧
          (block.parseTokens tables above left).Consumes symbols parsed := by
  refine Yields.mono (parseCoefficients_echoes
    (tables.coeffProbs block.type.code) _ rfl false
    (neighbourContext above left) block fun other _ => by rw [hclear]) ?_
  rintro parsed ⟨hparsed, -, hwritten⟩
  have hbareType : parsed.bare.type = block.bare.type :=
    congrArg Block.type hparsed.bare
  have htype : parsed.type = block.type := hbareType
  have hfirst : firstCoefficient block.type < 16 := by
    unfold firstCoefficient
    split <;> decide
  have hmeasures := parsed.codedLength_measures
  rw [htype] at hmeasures
  refine ⟨hparsed.bare, ?_⟩
  rw [serializeTokens, htype]
  exact hwritten parsed.codedLength hmeasures
    (fun _ h => absurd h (Nat.not_le_of_lt hfirst)) (fun h => nomatch h)

end Block

theorem branch_reaches_zero {α : Type} {probability : Probability}
    {zero one : Parser α} {value : α} (h : zero.Reaches value) :
    (branch probability zero one).Reaches value :=
  reaches_get false h

theorem branch_reaches_one {α : Type} {probability : Probability}
    {zero one : Parser α} {value : α} (h : one.Reaches value) :
    (branch probability zero one).Reaches value :=
  reaches_get true h

namespace TokenDecoder

theorem readIncrement_reaches (probabilities : List Probability)
    {start increment : Nat}
    (h : increment / 2 ^ probabilities.length = start) :
    (readIncrement probabilities start).Reaches increment := by
  induction probabilities generalizing start with
  | nil =>
      rw [List.length_nil, Nat.pow_zero, Nat.div_one] at h
      exact h ▸ reaches_pure increment
  | cons probability rest ih =>
      refine reaches_get (increment.testBit rest.length) (ih ?_)
      rw [Nat.toNat_testBit, ← h, List.length_cons, Nat.pow_succ,
        ← Nat.div_div_eq_div_mul]
      omega

theorem decode_reaches (decoder : TokenDecoder) {value : Nat}
    (hbase : decoder.baseValue ≤ value) (hlimit : value < decoder.upperLimit) :
    decoder.decode.Reaches value := by
  have hincrement : (value - decoder.baseValue) /
      2 ^ decoder.bitProbabilities.length = 0 := by
    rw [Nat.div_eq_zero_iff_lt (Nat.two_pow_pos _)]
    unfold upperLimit at hlimit
    omega
  apply (readIncrement_reaches decoder.bitProbabilities hincrement).bind
  rw [Nat.add_sub_cancel' hbase]
  exact reaches_pure value

end TokenDecoder

theorem parseLargeValue_reaches (prob : SafeArray Probability 11) {value : Nat}
    (hlow : 2 ≤ value) (hhigh : value ≤ 2114) :
    (parseLargeValue prob).Reaches value := by
  obtain ⟨limit1, limit2, limit3, limit4, limit5⟩ := upperLimits
  obtain ⟨base1, base2, base3, base4, base5⟩ := baseValues
  unfold parseLargeValue
  by_cases hsmall : value < 5
  · apply branch_reaches_zero
    rcases (by omega : value = 2 ∨ value = 3 ∨ value = 4) with rfl | rfl | rfl
    · exact branch_reaches_zero (reaches_pure 2)
    · exact branch_reaches_one (branch_reaches_zero (reaches_pure 3))
    · exact branch_reaches_one (branch_reaches_one (reaches_pure 4))
  apply branch_reaches_one
  by_cases h1 : value < tokenDecoder1.upperLimit
  · apply branch_reaches_zero
    by_cases hbase : value < tokenDecoder1.baseValue
    · apply branch_reaches_zero
      rcases (by omega : value = 5 ∨ value = 6) with rfl | rfl
      · exact reaches_get false (reaches_pure 5)
      · exact reaches_get true (reaches_pure 6)
    · exact branch_reaches_one (tokenDecoder1.decode_reaches (by omega) h1)
  apply branch_reaches_one
  by_cases h3 : value < tokenDecoder3.upperLimit
  · apply branch_reaches_zero
    by_cases h2 : value < tokenDecoder2.upperLimit
    · exact branch_reaches_zero (tokenDecoder2.decode_reaches (by omega) h2)
    · exact branch_reaches_one (tokenDecoder3.decode_reaches (by omega) h3)
  apply branch_reaches_one
  by_cases h4 : value < tokenDecoder4.upperLimit
  · exact branch_reaches_zero (tokenDecoder4.decode_reaches (by omega) h4)
  · exact branch_reaches_one
      (tokenDecoder5.decode_reaches (by omega) (by omega))

theorem parseValue_reaches (prob : SafeArray Probability 11) {value : Nat}
    (hlow : value ≠ 0) (hhigh : value ≤ 2114) :
    (parseValue prob).Reaches (value, contextAfter value) := by
  by_cases hone : value = 1
  · rw [hone]
    exact branch_reaches_zero (reaches_pure (1, 1))
  · have hcontext : contextAfter value = 2 := if_neg hone
    rw [hcontext]
    exact branch_reaches_one ((parseLargeValue_reaches prob (by omega)
      hhigh).map fun value => (value, 2))

namespace Block

variable {Mode : Type}

def calculateHasNonzero (block : Block Mode) : Block Mode :=
  { block with hasNonzero := decide (∃ index, block.coefficients index ≠ 0) }

/-- The coefficients of the block are the given ones up to the index, and none
from there on. -/
structure FilledTo (index : Nat) (coefficients : SafeArray Int 16)
    (block : Block Mode) : Prop where
  before : ∀ other : Fin 16, other < index →
    block.coefficients (zigzag.get other) = coefficients (zigzag.get other)
  after : NoneFrom index block.coefficients

instance (index : Nat) (coefficients : SafeArray Int 16) :
    Decidable (NoneFrom index coefficients) :=
  inferInstanceAs (Decidable (∀ other : Fin 16, index ≤ other →
    coefficients (zigzag.get other) = 0))

/-- The block once the coefficients from the index on have been read. -/
def filled (block : Block Mode) (coefficients : SafeArray Int 16)
    (index : Nat) : Block Mode :=
  { block with
    coefficients
    hasNonzero := block.hasNonzero || decide (¬ NoneFrom index coefficients) }

theorem zigzag_surjective (place : Fin 16) : ∃ index : Fin 16,
    (zigzag.get index) = place := by
  revert place
  decide

theorem filled_none {index : Nat} {coefficients : SafeArray Int 16}
    {block : Block Mode} (hfilled : FilledTo index coefficients block)
    (hnone : NoneFrom index coefficients) :
    block.filled coefficients index = block := by
  have hcoefficients : coefficients = block.coefficients := by
    funext place
    obtain ⟨other, rfl⟩ := zigzag_surjective place
    by_cases hother : other < index
    · exact (hfilled.before other hother).symm
    · rw [hnone other (Nat.not_lt.mp hother),
        hfilled.after other (Nat.not_lt.mp hother)]
  unfold filled
  rw [decide_eq_false (not_not.mpr hnone), Bool.or_false, hcoefficients]

theorem filled_zero {index : Fin 16} {coefficients : SafeArray Int 16}
    (block : Block Mode) (hzero : coefficients (zigzag.get index) = 0) :
    block.filled coefficients (index + 1) =
      block.filled coefficients index := by
  have hsame : NoneFrom (index + 1) coefficients ↔
      NoneFrom index coefficients :=
    ⟨fun h => h.succ hzero, fun h other hother =>
      h other (Nat.le_of_succ_le hother)⟩
  unfold filled
  rw [decide_eq_decide.mpr (not_congr hsame)]

theorem filled_value {index : Fin 16} {coefficients : SafeArray Int 16}
    (block : Block Mode) (hvalue : coefficients (zigzag.get index) ≠ 0) :
    (block.setCoefficient index (coefficients (zigzag.get index))).filled
        coefficients (index + 1) =
      block.filled coefficients index := by
  have hsome : ¬ NoneFrom index coefficients :=
    fun h => hvalue (h index (Nat.le_refl index))
  unfold filled
  rw [decide_eq_true hsome, Bool.or_true]
  rfl

theorem FilledTo.zero {index : Fin 16} {coefficients : SafeArray Int 16}
    {block : Block Mode} (h : FilledTo index coefficients block)
    (hzero : coefficients (zigzag.get index) = 0) :
    FilledTo (index + 1) coefficients block where
  before other hother := by
    rcases Nat.lt_succ_iff_lt_or_eq.mp hother with hlt | heq
    · exact h.before other hlt
    · rw [Fin.ext heq, hzero]
      exact h.after index (Nat.le_refl index)
  after other hother := h.after other (Nat.le_of_succ_le hother)

theorem FilledTo.value {index : Fin 16} {coefficients : SafeArray Int 16}
    {block : Block Mode} (h : FilledTo index coefficients block) :
    FilledTo (index + 1) coefficients
      (block.setCoefficient index (coefficients (zigzag.get index))) where
  before other hother := by
    rcases Nat.lt_succ_iff_lt_or_eq.mp hother with hlt | heq
    · rw [block.setCoefficient_of_ne (Fin.ne_of_lt hlt)]
      exact h.before other hlt
    · rw [Fin.ext heq, setCoefficient_self]
  after other hother := by
    rw [block.setCoefficient_of_ne (Fin.ne_of_gt hother)]
    exact h.after other (Nat.le_of_succ_le hother)

theorem parseCoefficients_reaches
    (probs : SafeArray (SafeArray (SafeArray Probability 11) 3) 8)
    {coefficients : SafeArray Int 16}
    (hbound : ∀ place, (coefficients place).natAbs ≤ 2114)
    (left : List (Fin 16)) {index : Nat}
    (hleft : left = (List.finRange 16).drop index) {lastWasZero : Bool}
    (tokenContext : Fin 3) {block : Block Mode}
    (hfilled : FilledTo index coefficients block)
    (hsome : lastWasZero = true → ¬ NoneFrom index coefficients) :
    (parseCoefficients probs left lastWasZero tokenContext block).Reaches
      (block.filled coefficients index) := by
  induction left generalizing index lastWasZero tokenContext block with
  | nil =>
      have hindex : 16 ≤ index := by
        have hlength := congrArg List.length hleft
        simp at hlength
        omega
      rw [filled_none hfilled fun other hother => by omega]
      exact reaches_pure block
  | cons first rest ih =>
      obtain ⟨rfl, hrest⟩ := drop_finRange hleft
      have hafter : ¬ NoneFrom first coefficients →
          (branch (probs (coefficientToBand.get first) tokenContext 1)
            (parseCoefficients probs rest true 0 block)
            (do
              let result ←
                parseValue (probs (coefficientToBand.get first) tokenContext)
              let negative ← boolean
              parseCoefficients probs rest false result.2
                (block.setCoefficient first
                  (if negative then -result.1 else result.1)))).Reaches
            (block.filled coefficients first) := by
        intro hnone
        by_cases hzero : coefficients (zigzag.get first) = 0
        · rw [← filled_zero block hzero]
          exact branch_reaches_zero (ih hrest 0 (hfilled.zero hzero)
            fun _ h => hnone (h.succ hzero))
        · rw [← filled_value block hzero]
          apply branch_reaches_one
          apply (parseValue_reaches _ (Int.natAbs_ne_zero.mpr hzero)
            (hbound _)).bind
          refine reaches_get (decide (coefficients (zigzag.get first) < 0)) ?_
          have hsigned : (if decide (coefficients (zigzag.get first) < 0) = true then
              -((coefficients (zigzag.get first)).natAbs : Int)
              else (coefficients (zigzag.get first)).natAbs) =
                coefficients (zigzag.get first) := by
            split
            · next hnegative =>
              have := of_decide_eq_true hnegative
              omega
            · next hnonneg =>
              have := of_decide_eq_false (eq_false_of_ne_true hnonneg)
              omega
          change (parseCoefficients probs rest false _
            (block.setCoefficient first
              (if decide (coefficients (zigzag.get first) < 0) = true then
                -((coefficients (zigzag.get first)).natAbs : Int)
                else (coefficients (zigzag.get first)).natAbs))).Reaches _
          rw [hsigned]
          refine ih hrest _ hfilled.value fun h => ?_
          cases h
      cases lastWasZero with
      | true => exact hafter (hsome rfl)
      | false =>
          by_cases hnone : NoneFrom first coefficients
          · rw [filled_none hfilled hnone]
            exact branch_reaches_zero (reaches_pure block)
          · exact branch_reaches_one (hafter hnone)

theorem noneFrom_first_iff {block : Block Mode}
    (hfirst : block.type = .yAfterY2 → block.coefficients 0 = 0) :
    NoneFrom (firstCoefficient block.type) block.coefficients ↔
      ∀ place, block.coefficients place = 0 := by
  constructor
  · intro hnone place
    obtain ⟨index, rfl⟩ := zigzag_surjective place
    by_cases hindex : firstCoefficient block.type ≤ index
    · exact hnone index hindex
    · unfold firstCoefficient at hindex
      split at hindex
      · next htype =>
        have hzero : index = 0 := Fin.ext (by omega)
        rw [hzero]
        exact hfirst htype
      · omega
  · exact fun hall index _ => hall _

theorem parseTokens_reaches (tables : ProbabilityTables) (above left : Bool)
    {block : Block Mode}
    (hbound : ∀ place, (block.coefficients place).natAbs ≤ 2114)
    (hfirst : block.type = .yAfterY2 → block.coefficients 0 = 0) :
    (block.bare.parseTokens tables above left).Reaches
      block.calculateHasNonzero := by
  have hfilledTo : FilledTo (firstCoefficient block.type) block.coefficients
      block.bare := by
    refine ⟨fun other hother => ?_, fun _ _ => rfl⟩
    unfold firstCoefficient at hother
    split at hother
    · next htype =>
      have hzero : other = 0 := Fin.ext (by omega)
      rw [hzero]
      exact (hfirst htype).symm
    · omega
  have hreaches : (block.bare.parseTokens tables above left).Reaches
      (block.bare.filled block.coefficients
        (firstCoefficient block.type)) :=
    parseCoefficients_reaches _ hbound _ rfl _ hfilledTo fun h => nomatch h
  have hlast : block.bare.filled block.coefficients
      (firstCoefficient block.type) = block.calculateHasNonzero := by
    have hsome := not_congr (noneFrom_first_iff hfirst)
    rw [not_forall] at hsome
    unfold filled calculateHasNonzero
    rw [decide_eq_decide.mpr hsome]
    rfl
  rw [hlast] at hreaches
  exact hreaches

theorem serializeTokens_ok (tables : ProbabilityTables) (above left : Bool)
    {block : Block Mode}
    (hbound : ∀ place, (block.coefficients place).natAbs ≤ 2114)
    (hfirst : block.type = .yAfterY2 → block.coefficients 0 = 0) :
    ∃ symbols, block.serializeTokens tables above left = .ok symbols := by
  obtain ⟨-, symbols, hsymbols, -⟩ :=
    (parseTokens_reaches tables above left hbound hfirst).of_yields
      (parseTokens_echoes tables above left block.bare rfl)
  exact ⟨symbols, hsymbols⟩

theorem serializeTokens_parse (tables : ProbabilityTables) (above left : Bool)
    (block : Block Mode)
    (hbound : ∀ place, (block.coefficients place).natAbs ≤ 2114)
    (hfirst : block.type = .yAfterY2 → block.coefficients 0 = 0) :
    ∃ symbols, block.serializeTokens tables above left = .ok symbols ∧
      (block.bare.parseTokens tables above left).Consumes symbols
        block.calculateHasNonzero := by
  obtain ⟨-, symbols, hsymbols, hconsumes⟩ :=
    (parseTokens_reaches tables above left hbound hfirst).of_yields
      (parseTokens_echoes tables above left block.bare rfl)
  exact ⟨symbols, hsymbols, hconsumes⟩

def largeBlock : YBlock where
  coefficients := Function.update (fun _ => 0) 15 (-2114)
  type := .yAfterY2
  predictionMode := .bDcPred

theorem largeBlock_parse :
    ∃ symbols, largeBlock.serializeTokens {} false true = .ok symbols ∧
      (largeBlock.bare.parseTokens {} false true).Consumes symbols
        largeBlock.calculateHasNonzero :=
  largeBlock.serializeTokens_parse {} false true (by decide) (by decide)

end Block

def bareSquare {Mode : Type} {size : Nat} (square : Square (Block Mode) size) :
    Square (Block Mode) size :=
  fun column row => (square column row).bare

theorem bareSquare_set {Mode : Type} {size : Nat}
    {square : Square (Block Mode) size} {column row : Fin size}
    {block : Block Mode} (h : block.bare = (square column row).bare) :
    bareSquare (square.set column row block) = bareSquare square := by
  funext i j
  unfold bareSquare Square.set
  split
  · next hplace => rw [h, hplace.1, hplace.2]
  · rfl

theorem parseSquareTokens_echoes {Mode : Type} {size : Nat} [NeZero size]
    (tables : ProbabilityTables)
    (above left : Option (Square (Block Mode) size)) :
    (places : List (Fin size × Fin size)) → Ordered places →
    (square : Square (Block Mode) size) →
    (∀ place ∈ places,
      (square place.1 place.2).coefficients = fun _ => 0) →
    (parseSquareTokens tables above left places square).Yields Answers
      fun last => bareSquare last = bareSquare square ∧
        Settled places square last ∧ ∃ symbols,
          serializeSquareTokens tables above left places last = .ok symbols ∧
            (parseSquareTokens tables above left places square).Consumes
              symbols last
  | [], _, _, _ => ⟨rfl, fun _ _ _ => rfl, [], rfl, rfl, rfl⟩
  | (column, row) :: rest, hplaces, square, hclear => by
      obtain ⟨hleft, habove, hfresh, hrest⟩ := hplaces
      rw [parseSquareTokens]
      apply Yields.bind (Block.parseTokens_echoes tables _ _ (square column row)
        (hclear _ List.mem_cons_self))
      rintro block ⟨hbare, bits, hbits, hreads⟩
      have hclearRest : ∀ place ∈ rest, ((square.set column row block) place.1
          place.2).coefficients = fun _ => 0 := by
        intro place hplace
        have hother : ¬ (place.1 = column ∧ place.2 = row) := fun h =>
          hfresh (by rw [← h.1, ← h.2]; exact hplace)
        rw [Square.set, if_neg hother]
        exact hclear place (List.mem_cons_of_mem _ hplace)
      refine Yields.mono (parseSquareTokens_echoes tables above left rest hrest
        _ hclearRest) ?_
      rintro last ⟨hlastBare, hlast, symbols, hsymbols, hconsumes⟩
      have hsettled := Square.settled_set square column row block hlast
      have hmine : last column row = block := by
        rw [hlast column row hfresh, Square.set_self]
      refine ⟨hlastBare.trans (bareSquare_set hbare), hsettled, bits ++ symbols,
        ?_, hreads.bind hconsumes⟩
      unfold serializeSquareTokens at hsymbols ⊢
      rw [List.map_cons, BitWriter.concat_cons, hsymbols, hmine,
        Square.aboveOf_settled habove hsettled,
        Square.leftOf_settled hleft hsettled, hbits]
      rfl

def ClearSquare {Mode : Type} {size : Nat} (square : Square (Block Mode) size) :
    Prop :=
  ∀ column row, (square column row).coefficients = fun _ => 0

theorem ClearSquare.set {Mode : Type} {size : Nat}
    {square : Square (Block Mode) size} (h : ClearSquare square)
    {column row : Fin size} {block : Block Mode}
    (hblock : block.coefficients = fun _ => 0) :
    ClearSquare (square.set column row block) := by
  intro i j
  unfold Square.set
  split
  · exact hblock
  · exact h i j

theorem chromaBlocks_ordered : Ordered chromaBlocks := by
  decide

namespace Macroblock

variable {Header : Type}

/-- The macroblock as its header leaves it, with no segment cached. -/
def bare (mb : Macroblock Header) : Macroblock Header :=
  { mb with
    segmentId := 0
    Y2 := mb.Y2.bare
    Y := bareSquare mb.Y
    U := bareSquare mb.U
    V := bareSquare mb.V
    hasNonzero := false }

structure Clear (mb : Macroblock Header) : Prop where
  Y2 : mb.Y2.coefficients = fun _ => 0
  Y : ClearSquare mb.Y
  U : ClearSquare mb.U
  V : ClearSquare mb.V

theorem parseY2Tokens_echoes (tables : ProbabilityTables)
    (context : TokenContext Header) {block : Y2Block}
    (hclear : block.coefficients = fun _ => 0) :
    (parseY2Tokens tables context block).Yields Answers fun parsed =>
      parsed.bare = block.bare ∧ ∃ symbols,
        (if parsed.coded then
          parsed.serializeTokens tables (Block.hasNonzeroOf context.y2Above)
            (Block.hasNonzeroOf context.y2Left)
        else .ok []) = .ok symbols ∧
        (parseY2Tokens tables context block).Consumes symbols parsed := by
  unfold parseY2Tokens
  by_cases hcoded : block.coded = true
  · rw [if_pos hcoded]
    refine Yields.mono (Block.parseTokens_echoes tables _ _ block hclear) ?_
    rintro parsed ⟨hbare, symbols, hsymbols, hreads⟩
    have hsameCoded : parsed.bare.coded = block.bare.coded :=
      congrArg Block.coded hbare
    have hparsedCoded : parsed.coded = true := hsameCoded.trans hcoded
    exact ⟨hbare, symbols, by rw [if_pos hparsedCoded, hsymbols], hreads⟩
  · rw [if_neg hcoded]
    exact ⟨rfl, [], if_neg hcoded, rfl, rfl⟩

theorem parseTokens_echoes (tables : ProbabilityTables)
    (context : TokenContext Header) {mb : Macroblock Header}
    (hclear : mb.Clear) :
    (mb.parseTokens tables context).Yields Answers fun parsed =>
      parsed.bare = mb.bare ∧ ∃ symbols,
        parsed.serializeTokens tables context = .ok symbols ∧
          (mb.parseTokens tables context).Consumes symbols parsed := by
  unfold Macroblock.parseTokens
  by_cases hskip : mb.mbSkipCoeff.getD false = true
  · rw [if_pos hskip]
    exact ⟨rfl, [], if_pos hskip, rfl, rfl⟩
  · rw [if_neg hskip]
    apply Yields.bind (parseY2Tokens_echoes tables context hclear.Y2)
    rintro Y2 ⟨hY2, first, hfirst, hreadsY2⟩
    apply Yields.bind (parseSquareTokens_echoes tables _ _ subblocks
      subblocks_ordered mb.Y fun place _ => hclear.Y place.1 place.2)
    rintro Y ⟨hY, -, second, hsecond, hreadsY⟩
    apply Yields.bind (parseSquareTokens_echoes tables _ _ chromaBlocks
      chromaBlocks_ordered mb.U fun place _ => hclear.U place.1 place.2)
    rintro U ⟨hU, -, third, hthird, hreadsU⟩
    apply Yields.bind (parseSquareTokens_echoes tables _ _ chromaBlocks
      chromaBlocks_ordered mb.V fun place _ => hclear.V place.1 place.2)
    rintro V ⟨hV, -, fourth, hfourth, hreadsV⟩
    refine ⟨?_, first ++ (second ++ (third ++ (fourth ++ []))), ?_,
      hreadsY2.bind (hreadsY.bind (hreadsU.bind (hreadsV.bind
        (consumes_pure _))))⟩
    · simp only [bare, hY2, hY, hU, hV]
    · rw [serializeTokens, if_neg hskip]
      simp only [BitWriter.concat_cons, BitWriter.concat_nil, hfirst, hsecond,
        hthird, hfourth, BitWriter.append_ok]

end Macroblock

end Salsify.Codec
