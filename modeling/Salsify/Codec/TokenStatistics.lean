import Salsify.Codec.TokenCodec

namespace Salsify.Codec

open Salsify.Coder (Probability)
open Salsify.Net (Failure)
open BitWriter (concat)
open Fallible

/-! The statistics from which the encoder chooses token probabilities, as
`encoder/serializer.cc` takes them. -/

/-- Where a coefficient probability is: `.at( type ).at( band ).at( context ).at(
node )`. -/
structure CoeffIndex where
  type : Fin 4
  band : Fin 8
  context : Fin 3
  node : Fin 11
  deriving DecidableEq

abbrev TokenBranchCounts :=
  SafeArray (SafeArray (SafeArray (SafeArray (Nat × Nat) 11) 3) 8) 4

namespace TokenBranchCounts

def count (counts : TokenBranchCounts) (index : CoeffIndex) (bit : Bool) : Nat :=
  let pair := counts index.type index.band index.context index.node
  if bit then pair.2 else pair.1

def increment (counts : TokenBranchCounts) (index : CoeffIndex) (bit : Bool) :
    TokenBranchCounts := fun type band context node =>
  let pair := counts type band context node
  if (⟨type, band, context, node⟩ : CoeffIndex) = index then
    if bit then (pair.1, pair.2 + 1) else (pair.1 + 1, pair.2)
  else
    pair

end TokenBranchCounts

def valueBranches (tokenValue : Nat) : Except Failure (List (Fin 11 × Bool)) :=
  if tokenValue = 1 then
    .ok [(2, false)]
  else if tokenValue = 2 then
    .ok [(2, true), (3, false), (4, false)]
  else if tokenValue = 3 then
    .ok [(2, true), (3, false), (4, true), (5, false)]
  else if tokenValue = 4 then
    .ok [(2, true), (3, false), (4, true), (5, true)]
  else if tokenValue < tokenDecoder1.baseValue then
    .ok [(2, true), (3, true), (6, false), (7, false)]
  else if tokenValue < tokenDecoder1.upperLimit then
    .ok [(2, true), (3, true), (6, false), (7, true)]
  else if tokenValue < tokenDecoder2.upperLimit then
    .ok [(2, true), (3, true), (6, true), (8, false), (9, false)]
  else if tokenValue < tokenDecoder3.upperLimit then
    .ok [(2, true), (3, true), (6, true), (8, false), (9, true)]
  else if tokenValue < tokenDecoder4.upperLimit then
    .ok [(2, true), (3, true), (6, true), (8, true), (10, false)]
  else if tokenValue < tokenDecoder5.upperLimit then
    .ok [(2, true), (3, true), (6, true), (8, true), (10, true)]
  else
    .error (.runtimeError "token encoder: value too large")

namespace Block

variable {Mode : Type}

def countEndOfBlock (type : Fin 4) (codedLength : Nat) (left : List (Fin 16))
    (lastWasZero : Bool) (tokenContext : Fin 3) (counts : TokenBranchCounts) :
    Except Failure TokenBranchCounts :=
  if lastWasZero then
    .error (.assertion "last_was_zero == false")
  else if codedLength < 16 then
    match left with
    | [] => .error (.assertion "index < size()")
    | index :: _ =>
        .ok (counts.increment
          ⟨type, coefficientToBand.get index, tokenContext, 0⟩ false)
  else
    .ok counts

/-- The loop of `accumulate_token_branches` over the coefficients that are
left. -/
def countCoefficients (type : Fin 4) (coefficients : SafeArray Int 16)
    (codedLength : Nat) :
    List (Fin 16) → Bool → Fin 3 → TokenBranchCounts →
      Except Failure TokenBranchCounts
  | [], lastWasZero, tokenContext, counts =>
      countEndOfBlock type codedLength [] lastWasZero tokenContext counts
  | index :: rest, lastWasZero, tokenContext, counts =>
      if index < codedLength then
        let node (number : Fin 11) : CoeffIndex :=
          ⟨type, coefficientToBand.get index, tokenContext, number⟩
        let tokenValue := (coefficients (zigzag.get index)).natAbs
        let begun :=
          if lastWasZero then counts else counts.increment (node 0) true
        if tokenValue = 0 then
          countCoefficients type coefficients codedLength rest true 0
            (begun.increment (node 1) false)
        else do
          let branches ← valueBranches tokenValue
          countCoefficients type coefficients codedLength rest false
            (contextAfter tokenValue)
            (branches.foldl
              (fun counts branch => counts.increment (node branch.1) branch.2)
              (begun.increment (node 1) true))
      else
        countEndOfBlock type codedLength (index :: rest) lastWasZero
          tokenContext counts

def accumulateTokenBranches (above left : Bool) (block : Block Mode) :
    TokenBranchCounts → Except Failure TokenBranchCounts :=
  countCoefficients block.type.code block.coefficients block.codedLength
    ((List.finRange 16).drop (firstCoefficient block.type)) false
    (neighbourContext above left)

end Block

def accumulateSquareBranches {Mode : Type} {size : Nat} [NeZero size]
    (above left : Option (Square (Block Mode) size))
    (places : List (Fin size × Fin size)) (square : Square (Block Mode) size)
    (counts : TokenBranchCounts) : Except Failure TokenBranchCounts :=
  places.foldlM (fun counts place =>
    (square place.1 place.2).accumulateTokenBranches
      (Block.hasNonzeroOf (Square.aboveOf above square place.1 place.2))
      (Block.hasNonzeroOf (Square.leftOf left square place.1 place.2)) counts)
    counts

def Macroblock.accumulateTokenBranches {Header : Type}
    (context : TokenContext Header) (mb : Macroblock Header)
    (counts : TokenBranchCounts) : Except Failure TokenBranchCounts := do
  let countsY ← accumulateSquareBranches (context.above.map Macroblock.Y)
    (context.left.map Macroblock.Y) subblocks mb.Y counts
  let countsU ← accumulateSquareBranches (context.above.map Macroblock.U)
    (context.left.map Macroblock.U) chromaBlocks mb.U countsY
  accumulateSquareBranches (context.above.map Macroblock.V)
    (context.left.map Macroblock.V) chromaBlocks mb.V countsU

namespace ProbabilityTables

def coeffProb (tables : ProbabilityTables) (index : CoeffIndex) : Probability :=
  tables.coeffProbs index.type index.band index.context index.node

def setCoeffProb (tables : ProbabilityTables) (index : CoeffIndex)
    (probability : Probability) : ProbabilityTables :=
  { tables with
    coeffProbs := fun type band context node =>
      if (⟨type, band, context, node⟩ : CoeffIndex) = index then probability
      else tables.coeffProbs type band context node }

theorem coeffProb_setCoeffProb (tables : ProbabilityTables)
    (index other : CoeffIndex) (probability : Probability) :
    (tables.setCoeffProb index probability).coeffProb other =
      if other = index then probability else tables.coeffProb other := by
  rfl

end ProbabilityTables

/-- How many bits of a value are written with the probability at an index:
those whose probability is another one after the one at the index is
replaced. -/
def bitsUsing (write : ProbabilityTables → SymbolWriter)
    (tables : ProbabilityTables) (index : CoeffIndex)
    (replacement : Probability) (bit : Bool) : Except Failure Nat := do
  let before ← write tables
  let after ← write (tables.setCoeffProb index replacement)
  return (before.zip after).countP fun symbols =>
    symbols.1.1 ≠ symbols.2.1 ∧ symbols.1.2 = bit

/-- What the statistics add for a macroblock is what its tokens are written
with. -/
def Macroblock.StatisticsMatch {Header : Type} (tables : ProbabilityTables)
    (context : TokenContext Header) (mb : Macroblock Header) : Prop :=
  ∀ counts, ∃ added, mb.accumulateTokenBranches context counts = .ok added ∧
    ∀ index replacement bit, replacement ≠ tables.coeffProb index →
      ∃ written,
        bitsUsing (fun tables => mb.serializeTokens tables context) tables index
            replacement bit = .ok written ∧
          added.count index bit = counts.count index bit + written

inductive Source
  | table (index : CoeffIndex)
  | fixed (probability : Probability)
  deriving DecidableEq

def Source.probability (tables : ProbabilityTables) : Source → Probability
  | .table index => tables.coeffProb index
  | .fixed probability => probability

def TokenBranchCounts.addAll (counts : TokenBranchCounts)
    (trace : List (Source × Bool)) : TokenBranchCounts :=
  trace.foldl (fun counts symbol =>
    match symbol.1 with
    | .table index => counts.increment index symbol.2
    | .fixed _ => counts) counts

def symbolsOf (tables : ProbabilityTables) (trace : List (Source × Bool)) :
    List (Probability × Bool) :=
  trace.map fun symbol => (symbol.1.probability tables, symbol.2)

/-- Whatever the tables, the bits of a trace are written, and they are what is
counted. -/
structure Traced (write : ProbabilityTables → SymbolWriter)
    (count : TokenBranchCounts → Except Failure TokenBranchCounts)
    (trace : List (Source × Bool)) : Prop where
  written : ∀ tables, write tables = .ok (symbolsOf tables trace)
  counted : ∀ counts, count counts = .ok (counts.addAll trace)

def Unwritable (write : ProbabilityTables → SymbolWriter) : Prop :=
  ∀ tables, ∃ failure, write tables = .error failure

theorem addAll_append (counts : TokenBranchCounts)
    (trace others : List (Source × Bool)) :
    counts.addAll (trace ++ others) = (counts.addAll trace).addAll others :=
  List.foldl_append

theorem symbolsOf_append (tables : ProbabilityTables)
    (trace others : List (Source × Bool)) :
    symbolsOf tables (trace ++ others) =
      symbolsOf tables trace ++ symbolsOf tables others :=
  List.map_append

theorem count_increment (counts : TokenBranchCounts) (index other : CoeffIndex)
    (bit bit' : Bool) :
    (counts.increment other bit').count index bit =
      counts.count index bit + if other = index ∧ bit' = bit then 1 else 0 := by
  unfold TokenBranchCounts.increment TokenBranchCounts.count
  dsimp only
  rcases eq_or_ne other index with rfl | hne
  · rw [if_pos rfl]
    cases bit <;> cases bit' <;> simp
  · rw [if_neg (Ne.symm hne)]
    simp [hne]

theorem count_addAll (counts : TokenBranchCounts)
    (trace : List (Source × Bool)) (index : CoeffIndex) (bit : Bool) :
    (counts.addAll trace).count index bit =
      counts.count index bit + trace.count (.table index, bit) := by
  induction trace generalizing counts with
  | nil => rfl
  | cons symbol trace ih =>
      obtain ⟨source, bit'⟩ := symbol
      rw [List.count_cons]
      cases source with
      | table other =>
          change ((counts.increment other bit').addAll trace).count index bit = _
          rw [ih, count_increment, Nat.add_assoc, Nat.add_comm (trace.count _)]
          simp [Prod.ext_iff]
      | fixed probability =>
          change (counts.addAll trace).count index bit = _
          rw [ih]
          simp

theorem bitsUsing_eq {write : ProbabilityTables → SymbolWriter}
    {trace : List (Source × Bool)} {tables : ProbabilityTables}
    {index : CoeffIndex} {replacement : Probability}
    (h : ∀ tables, write tables = .ok (symbolsOf tables trace))
    (hreplacement : replacement ≠ tables.coeffProb index) (bit : Bool) :
    bitsUsing write tables index replacement bit =
      .ok (trace.count (.table index, bit)) := by
  have hcount : ((symbolsOf tables trace).zip
      (symbolsOf (tables.setCoeffProb index replacement) trace)).countP
        (fun symbols => symbols.1.1 ≠ symbols.2.1 ∧ symbols.1.2 = bit) =
      trace.count (.table index, bit) := by
    rw [symbolsOf, symbolsOf, List.zip_map', List.countP_map, List.count]
    apply List.countP_congr
    rintro ⟨source, bit'⟩ -
    cases source with
    | table other =>
        rcases eq_or_ne other index with rfl | hne
        · simp [Source.probability, ProbabilityTables.coeffProb_setCoeffProb,
            hreplacement.symm]
        · simp [Source.probability, ProbabilityTables.coeffProb_setCoeffProb,
            hne]
    | fixed probability => simp [Source.probability]
  rw [bitsUsing, h, h, ok_bind, ok_bind, hcount]
  rfl

section Compose

variable {write write' : ProbabilityTables → SymbolWriter}
  {count count' : TokenBranchCounts → Except Failure TokenBranchCounts}
  {trace trace' : List (Source × Bool)}

theorem Traced.append (h : Traced write count trace)
    (h' : Traced write' count' trace') :
    Traced (fun tables => (write tables).append (write' tables))
      (fun counts => count counts >>= count') (trace ++ trace') where
  written tables := by
    rw [h.written, h'.written, BitWriter.append_ok, symbolsOf_append]
  counted counts := by
    rw [h.counted, ok_bind, h'.counted, addAll_append]

theorem Unwritable.append_left (h : Unwritable write) :
    Unwritable fun tables => (write tables).append (write' tables) := by
  intro tables
  obtain ⟨failure, hfailure⟩ := h tables
  refine ⟨failure, ?_⟩
  dsimp only
  rw [hfailure]
  rfl

theorem Traced.append_right (h : Traced write count trace)
    (h' : Unwritable write') :
    Unwritable fun tables => (write tables).append (write' tables) := by
  intro tables
  obtain ⟨failure, hfailure⟩ := h' tables
  refine ⟨failure, ?_⟩
  dsimp only
  rw [h.written, hfailure]
  rfl

end Compose

theorem TokenDecoder.writeIncrement_ok (probabilities : List Probability)
    (increment : Nat) :
    ∃ bits, writeIncrement probabilities increment = .ok bits := by
  induction probabilities with
  | nil => exact ⟨[], rfl⟩
  | cons probability rest ih =>
      obtain ⟨bits, hbits⟩ := ih
      exact ⟨_, by rw [writeIncrement, hbits]; rfl⟩

theorem TokenDecoder.encode_ok {decoder : TokenDecoder} {value : Nat}
    (h : decoder.baseValue ≤ value) :
    ∃ bits, decoder.encode value = .ok bits := by
  rw [encode, if_pos h]
  exact writeIncrement_ok _ _

/-- The branches of a value are written first, and then bits that no table has
a part in. -/
def WrittenAs (tokenValue : Nat) (branches : List (Fin 11 × Bool)) : Prop :=
  ∃ bits, ∀ prob, encodeValue prob tokenValue =
    .ok (branches.map (fun branch => (prob branch.1, branch.2)) ++ bits)

theorem encodeValue_branches (tokenValue : Nat) :
    (∃ failure, valueBranches tokenValue = .error failure ∧
      ∀ prob, encodeValue prob tokenValue = .error failure) ∨
      ∃ branches, valueBranches tokenValue = .ok branches ∧
        WrittenAs tokenValue branches := by
  rcases eq_or_ne tokenValue 1 with rfl | h1
  · exact .inr ⟨_, rfl, [], fun _ => rfl⟩
  rcases eq_or_ne tokenValue 2 with rfl | h2
  · exact .inr ⟨_, rfl, [], fun _ => rfl⟩
  rcases eq_or_ne tokenValue 3 with rfl | h3
  · exact .inr ⟨_, rfl, [], fun _ => rfl⟩
  rcases eq_or_ne tokenValue 4 with rfl | h4
  · exact .inr ⟨_, rfl, [], fun _ => rfl⟩
  have hwrite (prob : SafeArray Probability 11) :
      encodeValue prob tokenValue = BitWriter.append
        (encodeBoolean (prob 2) true) (encodeLargeValue prob tokenValue) :=
    if_neg h1
  simp only [encodeLargeValue, if_neg h2, if_neg h3, if_neg h4] at hwrite
  rw [valueBranches, if_neg h1, if_neg h2, if_neg h3, if_neg h4]
  rcases lt_or_ge tokenValue tokenDecoder1.baseValue with h | h5
  · refine .inr ⟨_, if_pos h, [(159, tokenValue = 6)], fun prob => ?_⟩
    rw [hwrite, if_pos h]
    rfl
  simp only [if_neg h5.not_gt] at hwrite ⊢
  rcases lt_or_ge tokenValue tokenDecoder1.upperLimit with h | h6
  · obtain ⟨bits, hbits⟩ := TokenDecoder.encode_ok h5
    refine .inr ⟨_, if_pos h, bits ++ [], fun prob => ?_⟩
    rw [hwrite, if_pos h, hbits]
    rfl
  simp only [if_neg h6.not_gt] at hwrite ⊢
  rcases lt_or_ge tokenValue tokenDecoder2.upperLimit with h | h7
  · obtain ⟨bits, hbits⟩ := TokenDecoder.encode_ok
      (show tokenDecoder2.baseValue ≤ tokenValue from h6)
    refine .inr ⟨_, if_pos h, bits ++ [], fun prob => ?_⟩
    rw [hwrite, if_pos h, hbits]
    rfl
  simp only [if_neg h7.not_gt] at hwrite ⊢
  rcases lt_or_ge tokenValue tokenDecoder3.upperLimit with h | h8
  · obtain ⟨bits, hbits⟩ := TokenDecoder.encode_ok
      (show tokenDecoder3.baseValue ≤ tokenValue from h7)
    refine .inr ⟨_, if_pos h, bits ++ [], fun prob => ?_⟩
    rw [hwrite, if_pos h, hbits]
    rfl
  simp only [if_neg h8.not_gt] at hwrite ⊢
  rcases lt_or_ge tokenValue tokenDecoder4.upperLimit with h | h9
  · obtain ⟨bits, hbits⟩ := TokenDecoder.encode_ok
      (show tokenDecoder4.baseValue ≤ tokenValue from h8)
    refine .inr ⟨_, if_pos h, bits ++ [], fun prob => ?_⟩
    rw [hwrite, if_pos h, hbits]
    rfl
  simp only [if_neg h9.not_gt] at hwrite ⊢
  rcases lt_or_ge tokenValue tokenDecoder5.upperLimit with h | h10
  · obtain ⟨bits, hbits⟩ := TokenDecoder.encode_ok
      (show tokenDecoder5.baseValue ≤ tokenValue from h9)
    refine .inr ⟨_, if_pos h, bits ++ [], fun prob => ?_⟩
    rw [hwrite, if_pos h, hbits]
    rfl
  simp only [if_neg h10.not_gt] at hwrite ⊢
  exact .inl ⟨_, rfl, fun prob => by rw [hwrite]; rfl⟩

theorem traced_put (index : CoeffIndex) (bit : Bool) :
    Traced (fun tables => encodeBoolean (tables.coeffProb index) bit)
      (fun counts => .ok (counts.increment index bit))
      [(.table index, bit)] :=
  ⟨fun _ => rfl, fun _ => rfl⟩

theorem traced_nothing : Traced (fun _ => .ok []) .ok [] :=
  ⟨fun _ => rfl, fun _ => rfl⟩

theorem traced_value {tokenValue : Nat} {branches : List (Fin 11 × Bool)}
    (h : WrittenAs tokenValue branches) (node : Fin 11 → CoeffIndex)
    (sign : Bool) :
    ∃ trace, Traced
      (fun tables => BitWriter.append
        (encodeValue (fun number => tables.coeffProb (node number)) tokenValue)
        (encodeBoolean 128 sign))
      (fun counts => .ok (branches.foldl
        (fun counts branch => counts.increment (node branch.1) branch.2) counts))
      trace := by
  obtain ⟨bits, hbits⟩ := h
  let fixed (symbol : Probability × Bool) : Source × Bool :=
    (.fixed symbol.1, symbol.2)
  have hfixed (counts : TokenBranchCounts)
      (symbols : List (Probability × Bool)) :
      counts.addAll (symbols.map fixed) = counts := by
    induction symbols with
    | nil => rfl
    | cons symbol symbols ih => exact ih
  refine ⟨branches.map (fun branch => (.table (node branch.1), branch.2)) ++
    (bits ++ [(128, sign)]).map fixed, fun tables => ?_, fun counts => ?_⟩
  · rw [hbits, symbolsOf_append, symbolsOf, symbolsOf, List.map_map,
      List.map_map]
    change BitWriter.append (.ok _) (.ok [(128, sign)]) = _
    rw [BitWriter.append_ok, List.append_assoc]
    congr 2
    exact (List.map_id _).symm
  · rw [addAll_append, hfixed, TokenBranchCounts.addAll, List.foldl_map]

namespace Block

variable {Mode : Type}

/-- What is written for the coefficients that are left is traced, with a bit
from the tables unless the last one was zero. -/
def TracedFrom (type : Fin 4) (coefficients : SafeArray Int 16)
    (codedLength : Nat) (left : List (Fin 16)) (lastWasZero : Bool)
    (tokenContext : Fin 3) : Prop :=
  Unwritable (fun tables => writeCoefficients (tables.coeffProbs type)
      coefficients codedLength left lastWasZero tokenContext) ∨
    ∃ trace, Traced
        (fun tables => writeCoefficients (tables.coeffProbs type) coefficients
          codedLength left lastWasZero tokenContext)
        (countCoefficients type coefficients codedLength left lastWasZero
          tokenContext) trace ∧
      (lastWasZero = false → left ≠ [] →
        ∃ index bit, (Source.table index, bit) ∈ trace)

theorem endOfBlock_traced (type : Fin 4) (codedLength : Nat)
    (left : List (Fin 16)) (lastWasZero : Bool) (tokenContext : Fin 3) :
    Unwritable (fun tables => writeEndOfBlock (tables.coeffProbs type)
        codedLength left lastWasZero tokenContext) ∨
      ∃ trace, Traced
        (fun tables => writeEndOfBlock (tables.coeffProbs type) codedLength left
          lastWasZero tokenContext)
        (countEndOfBlock type codedLength left lastWasZero tokenContext)
        trace ∧
        (codedLength < 16 → ∃ index bit, (Source.table index, bit) ∈ trace) := by
  unfold writeEndOfBlock countEndOfBlock
  cases lastWasZero with
  | true => exact .inl fun _ => ⟨_, rfl⟩
  | false =>
      rcases Nat.lt_or_ge codedLength 16 with hlt | hge
      · simp only [Bool.false_eq_true, if_false, if_pos hlt]
        cases left with
        | nil => exact .inl fun _ => ⟨_, rfl⟩
        | cons index rest =>
            exact .inr ⟨_, traced_put ⟨type, _, tokenContext, 0⟩ false,
              fun _ => ⟨_, _, List.mem_singleton.mpr rfl⟩⟩
      · simp only [Bool.false_eq_true, if_false, if_neg hge.not_gt]
        exact .inr ⟨[], traced_nothing, fun hlt => absurd hlt hge.not_gt⟩

/-- Before a token, the writer says that there is one, unless the last one was
zero. -/
theorem notEob_traced (index : CoeffIndex) (lastWasZero : Bool) :
    ∃ trace, Traced
      (fun tables => if lastWasZero then .ok []
        else encodeBoolean (tables.coeffProb index) true)
      (fun counts =>
        .ok (if lastWasZero then counts else counts.increment index true))
      trace ∧ (lastWasZero = false → (Source.table index, true) ∈ trace) := by
  cases lastWasZero with
  | true => exact ⟨[], traced_nothing, nofun⟩
  | false => exact ⟨_, traced_put index true, fun _ => List.mem_singleton.mpr rfl⟩

theorem tracedFrom_zero {type : Fin 4} {coefficients : SafeArray Int 16}
    {codedLength : Nat} {index : Fin 16} {rest : List (Fin 16)}
    {lastWasZero : Bool} {tokenContext : Fin 3} (hlt : index < codedLength)
    (hzero : (coefficients (zigzag.get index)).natAbs = 0)
    (h : TracedFrom type coefficients codedLength rest true 0) :
    TracedFrom type coefficients codedLength (index :: rest) lastWasZero
      tokenContext := by
  let node (number : Fin 11) : CoeffIndex :=
    ⟨type, coefficientToBand.get index, tokenContext, number⟩
  obtain ⟨begun, hbegun, hmem⟩ := notEob_traced (node 0) lastWasZero
  have hput := traced_put (node 1) false
  have hwrite : (fun tables : ProbabilityTables =>
      writeCoefficients (tables.coeffProbs type) coefficients codedLength
        (index :: rest) lastWasZero tokenContext) =
      fun tables => BitWriter.append
        (if lastWasZero then .ok []
          else encodeBoolean (tables.coeffProb (node 0)) true)
        (BitWriter.append (encodeBoolean (tables.coeffProb (node 1)) false)
          (writeCoefficients (tables.coeffProbs type) coefficients codedLength
            rest true 0)) := by
    funext tables
    rw [writeCoefficients, if_pos hlt]
    dsimp only
    rw [if_pos hzero, BitWriter.concat_cons, BitWriter.concat_cons,
      BitWriter.concat_cons, BitWriter.concat_nil, BitWriter.append_nil]
    rfl
  have hcount : countCoefficients type coefficients codedLength (index :: rest)
      lastWasZero tokenContext = fun counts =>
        countCoefficients type coefficients codedLength rest true 0
          ((if lastWasZero then counts
            else counts.increment (node 0) true).increment (node 1) false) := by
    funext counts
    rw [countCoefficients, if_pos hlt]
    dsimp only
    rw [if_pos hzero]
  unfold TracedFrom
  rw [hwrite, hcount]
  rcases h with hfails | ⟨trace, htrace, -⟩
  · exact .inl (hbegun.append_right (hput.append_right hfails))
  · exact .inr ⟨_, hbegun.append (hput.append htrace), fun hfirst _ =>
      ⟨_, _, List.mem_append_left _ (hmem hfirst)⟩⟩

theorem tracedFrom_value {type : Fin 4} {coefficients : SafeArray Int 16}
    {codedLength : Nat} {index : Fin 16} {rest : List (Fin 16)}
    {lastWasZero : Bool} {tokenContext : Fin 3} (hlt : index < codedLength)
    (hvalue : (coefficients (zigzag.get index)).natAbs ≠ 0)
    (h : TracedFrom type coefficients codedLength rest false
      (contextAfter (coefficients (zigzag.get index)).natAbs)) :
    TracedFrom type coefficients codedLength (index :: rest) lastWasZero
      tokenContext := by
  let node (number : Fin 11) : CoeffIndex :=
    ⟨type, coefficientToBand.get index, tokenContext, number⟩
  let coefficient := coefficients (zigzag.get index)
  obtain ⟨begun, hbegun, hmem⟩ := notEob_traced (node 0) lastWasZero
  have hput := traced_put (node 1) true
  have hwrite : (fun tables : ProbabilityTables =>
      writeCoefficients (tables.coeffProbs type) coefficients codedLength
        (index :: rest) lastWasZero tokenContext) =
      fun tables => BitWriter.append
        (if lastWasZero then .ok []
          else encodeBoolean (tables.coeffProb (node 0)) true)
        (BitWriter.append (encodeBoolean (tables.coeffProb (node 1)) true)
          (BitWriter.append
            (BitWriter.append
              (encodeValue (fun number => tables.coeffProb (node number))
                coefficient.natAbs)
              (encodeBoolean 128 (coefficient < 0)))
            (writeCoefficients (tables.coeffProbs type) coefficients codedLength
              rest false (contextAfter coefficient.natAbs)))) := by
    funext tables
    rw [writeCoefficients, if_pos hlt]
    dsimp only
    rw [if_neg hvalue, BitWriter.concat_cons, BitWriter.concat_cons,
      BitWriter.concat_cons, BitWriter.concat_cons, BitWriter.concat_cons,
      BitWriter.concat_nil, BitWriter.append_nil, BitWriter.append_assoc]
    rfl
  have hcount : countCoefficients type coefficients codedLength (index :: rest)
      lastWasZero tokenContext = fun counts =>
        valueBranches coefficient.natAbs >>= fun branches =>
          countCoefficients type coefficients codedLength rest false
            (contextAfter coefficient.natAbs)
            (branches.foldl
              (fun counts branch => counts.increment (node branch.1) branch.2)
              ((if lastWasZero then counts
                else counts.increment (node 0) true).increment (node 1)
                  true)) := by
    funext counts
    rw [countCoefficients, if_pos hlt]
    dsimp only
    rw [if_neg hvalue]
  unfold TracedFrom
  rw [hwrite, hcount]
  rcases encodeValue_branches coefficient.natAbs with ⟨failure, -, hfails⟩ |
    ⟨branches, hbranches, hwritten⟩
  · have hfails : Unwritable fun tables => encodeValue
        (fun number => tables.coeffProb (node number)) coefficient.natAbs :=
      fun tables => ⟨failure, hfails _⟩
    exact .inl (hbegun.append_right
      (hput.append_right hfails.append_left.append_left))
  · obtain ⟨value, htraced⟩ := traced_value hwritten node (coefficient < 0)
    rw [hbranches]
    rcases h with hfails | ⟨trace, htrace, -⟩
    · exact .inl (hbegun.append_right (hput.append_right
        (htraced.append_right hfails)))
    · exact .inr ⟨_, hbegun.append (hput.append (htraced.append htrace)),
        fun hfirst _ => ⟨_, _, List.mem_append_left _ (hmem hfirst)⟩⟩

theorem writeCoefficients_traced (type : Fin 4) (coefficients : SafeArray Int 16)
    (codedLength : Nat) (left : List (Fin 16)) (lastWasZero : Bool)
    (tokenContext : Fin 3) :
    TracedFrom type coefficients codedLength left lastWasZero tokenContext := by
  induction left generalizing lastWasZero tokenContext with
  | nil =>
      rcases endOfBlock_traced type codedLength [] lastWasZero tokenContext with
        hfails | ⟨trace, htrace, -⟩
      · exact .inl hfails
      · exact .inr ⟨trace, htrace, fun _ hne => absurd rfl hne⟩
  | cons index rest ih =>
      rcases Nat.lt_or_ge index codedLength with hlt | hge
      · rcases eq_or_ne (coefficients (zigzag.get index)).natAbs 0 with
          hzero | hvalue
        · exact tracedFrom_zero hlt hzero (ih true 0)
        · exact tracedFrom_value hlt hvalue (ih false _)
      · have hshort : codedLength < 16 := Nat.lt_of_le_of_lt hge index.isLt
        have hwrite : (fun tables : ProbabilityTables =>
            writeCoefficients (tables.coeffProbs type) coefficients codedLength
              (index :: rest) lastWasZero tokenContext) =
            fun tables => writeEndOfBlock (tables.coeffProbs type) codedLength
              (index :: rest) lastWasZero tokenContext := by
          funext tables
          rw [writeCoefficients, if_neg hge.not_gt]
        have hcount : countCoefficients type coefficients codedLength
            (index :: rest) lastWasZero tokenContext =
            countEndOfBlock type codedLength (index :: rest) lastWasZero
              tokenContext := by
          funext counts
          rw [countCoefficients, if_neg hge.not_gt]
        unfold TracedFrom
        rw [hwrite, hcount]
        rcases endOfBlock_traced type codedLength (index :: rest) lastWasZero
          tokenContext with hfails | ⟨trace, htrace, hmem⟩
        · exact .inl hfails
        · exact .inr ⟨trace, htrace, fun _ _ => hmem hshort⟩

theorem serializeTokens_traced (above left : Bool) (block : Block Mode) :
    Unwritable (fun tables => block.serializeTokens tables above left) ∨
      ∃ trace, Traced (fun tables => block.serializeTokens tables above left)
          (block.accumulateTokenBranches above left) trace ∧
        ∃ index bit, (Source.table index, bit) ∈ trace := by
  have hne : (List.finRange 16).drop (firstCoefficient block.type) ≠ [] := by
    unfold firstCoefficient
    split <;> decide
  rcases writeCoefficients_traced block.type.code block.coefficients
    block.codedLength ((List.finRange 16).drop (firstCoefficient block.type))
    false (neighbourContext above left) with hfails | ⟨trace, htrace, hmem⟩
  · exact .inl hfails
  · exact .inr ⟨trace, htrace, hmem rfl hne⟩

end Block

theorem serializeSquareTokens_traced {Mode : Type} {size : Nat} [NeZero size]
    (above left : Option (Square (Block Mode) size))
    (places : List (Fin size × Fin size)) (square : Square (Block Mode) size) :
    Unwritable
        (fun tables => serializeSquareTokens tables above left places square) ∨
      ∃ trace, Traced
        (fun tables => serializeSquareTokens tables above left places square)
        (accumulateSquareBranches above left places square) trace := by
  induction places with
  | nil => exact .inr ⟨[], traced_nothing⟩
  | cons place rest ih =>
      rcases (square place.1 place.2).serializeTokens_traced
        (Block.hasNonzeroOf (Square.aboveOf above square place.1 place.2))
        (Block.hasNonzeroOf (Square.leftOf left square place.1 place.2)) with
        hfails | ⟨first, hfirst, -⟩
      · exact .inl hfails.append_left
      · rcases ih with hfails | ⟨trace, htrace⟩
        · exact .inl (hfirst.append_right hfails)
        · refine .inr ⟨first ++ trace, ?_⟩
          have hcount : accumulateSquareBranches above left (place :: rest)
              square = fun counts =>
                (square place.1 place.2).accumulateTokenBranches
                  (Block.hasNonzeroOf
                    (Square.aboveOf above square place.1 place.2))
                  (Block.hasNonzeroOf
                    (Square.leftOf left square place.1 place.2)) counts >>=
                accumulateSquareBranches above left rest square := by
            funext counts
            exact List.foldlM_cons
          rw [hcount]
          exact hfirst.append htrace

namespace Macroblock

variable {Header : Type}

def serializeCounted (tables : ProbabilityTables) (context : TokenContext Header)
    (mb : Macroblock Header) : SymbolWriter :=
  BitWriter.append
    (serializeSquareTokens tables (context.above.map Macroblock.Y)
      (context.left.map Macroblock.Y) subblocks mb.Y)
    (BitWriter.append
      (serializeSquareTokens tables (context.above.map Macroblock.U)
        (context.left.map Macroblock.U) chromaBlocks mb.U)
      (serializeSquareTokens tables (context.above.map Macroblock.V)
        (context.left.map Macroblock.V) chromaBlocks mb.V))

theorem serializeTokens_eq {mb : Macroblock Header}
    (hskip : mb.mbSkipCoeff.getD false = false) (tables : ProbabilityTables)
    (context : TokenContext Header) :
    mb.serializeTokens tables context = BitWriter.append
      (if mb.Y2.coded then
        mb.Y2.serializeTokens tables (Block.hasNonzeroOf context.y2Above)
          (Block.hasNonzeroOf context.y2Left)
      else .ok []) (mb.serializeCounted tables context) := by
  rw [serializeTokens, hskip, if_neg Bool.false_ne_true, BitWriter.concat_cons,
    BitWriter.concat_cons, BitWriter.concat_cons, BitWriter.concat_cons,
    BitWriter.concat_nil, BitWriter.append_nil]
  rfl

theorem serializeCounted_traced (context : TokenContext Header)
    (mb : Macroblock Header) :
    Unwritable (fun tables => mb.serializeCounted tables context) ∨
      ∃ trace, Traced (fun tables => mb.serializeCounted tables context)
        (mb.accumulateTokenBranches context) trace := by
  rcases serializeSquareTokens_traced (context.above.map Macroblock.Y)
    (context.left.map Macroblock.Y) subblocks mb.Y with hfails | ⟨Y, hY⟩
  · exact .inl hfails.append_left
  rcases serializeSquareTokens_traced (context.above.map Macroblock.U)
    (context.left.map Macroblock.U) chromaBlocks mb.U with hfails | ⟨U, hU⟩
  · exact .inl (hY.append_right hfails.append_left)
  rcases serializeSquareTokens_traced (context.above.map Macroblock.V)
    (context.left.map Macroblock.V) chromaBlocks mb.V with hfails | ⟨V, hV⟩
  · exact .inl (hY.append_right (hU.append_right hfails))
  · exact .inr ⟨_, hY.append (hU.append hV)⟩

theorem statisticsMatch_of_traced {tables : ProbabilityTables}
    {context : TokenContext Header} {mb : Macroblock Header}
    {trace counted : List (Source × Bool)}
    (htrace : ∀ tables,
      mb.serializeTokens tables context = .ok (symbolsOf tables trace))
    (hcounted : ∀ counts, mb.accumulateTokenBranches context counts =
      .ok (counts.addAll counted)) :
    mb.StatisticsMatch tables context ↔ ∀ index bit,
      counted.count (.table index, bit) = trace.count (.table index, bit) := by
  constructor
  · intro hmatch index bit
    obtain ⟨added, hadded, hbits⟩ := hmatch fun _ _ _ _ => (0, 0)
    obtain ⟨written, hwritten, hcount⟩ := hbits index
      (tables.coeffProb index + 1) bit (by simp)
    rw [bitsUsing_eq htrace (by simp)] at hwritten
    rw [hcounted] at hadded
    cases hwritten
    cases hadded
    rw [count_addAll] at hcount
    exact Nat.add_left_cancel hcount
  · intro hsame counts
    refine ⟨_, hcounted counts, fun index replacement bit hreplacement => ?_⟩
    refine ⟨_, bitsUsing_eq htrace hreplacement bit, ?_⟩
    rw [count_addAll, hsame]

/-- The statistics are right exactly where there are no second-order luma
coefficients: the block that holds them is not counted. -/
theorem statisticsMatch_iff {tables : ProbabilityTables}
    {context : TokenContext Header} {mb : Macroblock Header}
    {symbols : List (Probability × Bool)}
    (hskip : mb.mbSkipCoeff.getD false = false)
    (hwritten : mb.serializeTokens tables context = .ok symbols) :
    mb.StatisticsMatch tables context ↔ mb.Y2.coded = false := by
  have hwrite := serializeTokens_eq hskip
  rcases mb.serializeCounted_traced context with hfails | ⟨counted, hcounted⟩
  · obtain ⟨failure, hfailure⟩ := hfails tables
    dsimp only at hfailure
    rw [hwrite, hfailure] at hwritten
    obtain ⟨first, -, hrest⟩ := bind_eq_ok hwritten
    cases hrest
  cases hcoded : mb.Y2.coded with
  | false =>
      have htrace (tables : ProbabilityTables) :
          mb.serializeTokens tables context =
            .ok (symbolsOf tables counted) := by
        rw [hwrite, hcoded, if_neg Bool.false_ne_true, hcounted.written]
        rfl
      rw [statisticsMatch_of_traced htrace hcounted.counted]
      exact ⟨fun _ => rfl, fun _ _ _ => rfl⟩
  | true =>
      rcases mb.Y2.serializeTokens_traced (Block.hasNonzeroOf context.y2Above)
        (Block.hasNonzeroOf context.y2Left) with hfails |
        ⟨second, hsecond, index, bit, hmem⟩
      · obtain ⟨failure, hfailure⟩ := hfails tables
        dsimp only at hfailure
        rw [hwrite, hcoded, if_pos rfl, hfailure] at hwritten
        cases hwritten
      · have htrace (tables : ProbabilityTables) :
            mb.serializeTokens tables context =
              .ok (symbolsOf tables (second ++ counted)) := by
          rw [hwrite, hcoded, if_pos rfl, hsecond.written, hcounted.written,
            BitWriter.append_ok, symbolsOf_append]
        rw [statisticsMatch_of_traced htrace hcounted.counted]
        constructor
        · intro hsame
          have hcount := hsame index bit
          rw [List.count_append] at hcount
          have hpos := List.count_pos_iff.mpr hmem
          omega
        · intro hfalse
          cases hfalse

/-- The first macroblock of a key frame, with a luma coefficient in its
second-order block, if that is coded. -/
def flatMacroblock (coded : Bool) : KeyFrameMacroblock where
  column := 0
  row := 0
  segmentIdUpdate := none
  mbSkipCoeff := some false
  header := {}
  Y2 := {
    coefficients := Function.update (fun _ => 0) 0 1
    type := .y2
    predictionMode := if coded then .dcPred else .bPred
    coded := coded
    hasNonzero := true }
  hasNonzero := true

def noNeighbours : TokenContext KeyFrameMacroblockHeader where
  above := none
  left := none
  y2Above := none
  y2Left := none

theorem statisticsMatch_uncoded :
    (flatMacroblock false).StatisticsMatch {} noNeighbours :=
  (statisticsMatch_iff rfl rfl).mpr rfl

theorem statistics_mismatch :
    ¬ (flatMacroblock true).StatisticsMatch {} noNeighbours := by
  intro hmatch
  obtain ⟨added, hadded, hbits⟩ := hmatch fun _ _ _ _ => (0, 0)
  obtain ⟨written, hwritten, hcount⟩ := hbits ⟨1, 0, 0, 0⟩ 0 true (by decide)
  have hone : bitsUsing
      (fun tables => (flatMacroblock true).serializeTokens tables noNeighbours)
      {} ⟨1, 0, 0, 0⟩ 0 true = .ok 1 := by
    decide +kernel
  have hnone : ((flatMacroblock true).accumulateTokenBranches noNeighbours
      fun _ _ _ _ => (0, 0)).map (fun added =>
        added.count ⟨1, 0, 0, 0⟩ true) = .ok 0 := by
    decide +kernel
  rw [hadded] at hnone
  have hzero : added.count ⟨1, 0, 0, 0⟩ true = 0 := Except.ok.inj hnone
  cases hone.symm.trans hwritten
  rw [hzero] at hcount
  cases hcount

end Macroblock

end Salsify.Codec
