import Salsify.Codec.Quantization
import Salsify.Codec.TokenCodec

namespace Salsify.Codec

/-! The forward transforms of `decoder/dct.cc` and the quantization of what they
give. What is stored into an `int16_t` goes through `store`, which is `int16` in
the program and `id` in exact arithmetic. The sums between the stores stay below
`2 ^ 31`. -/

abbrev Butterfly := Int → Int → Int → Int → Fin 4 → Int

def dctRow : Butterfly := fun x0 x1 x2 x3 =>
  let a1 := (x0 + x3) * 8
  let b1 := (x1 + x2) * 8
  let c1 := (x1 - x2) * 8
  let d1 := (x0 - x3) * 8
  ![a1 + b1, (c1 * 2217 + d1 * 5352 + 14500) >>> (12 : Nat),
    a1 - b1, (d1 * 2217 - c1 * 5352 + 7500) >>> (12 : Nat)]

def dctColumn : Butterfly := fun x0 x4 x8 x12 =>
  let a1 := x0 + x12
  let b1 := x4 + x8
  let c1 := x4 - x8
  let d1 := x0 - x12
  ![(a1 + b1 + 7) >>> (4 : Nat),
    ((c1 * 2217 + d1 * 5352 + 12000) >>> (16 : Nat)) + (if d1 ≠ 0 then 1 else 0),
    (a1 - b1 + 7) >>> (4 : Nat), (d1 * 2217 - c1 * 5352 + 51000) >>> (16 : Nat)]

def whtRow : Butterfly := fun x0 x1 x2 x3 =>
  let a1 := (x0 + x2) * 4
  let d1 := (x1 + x3) * 4
  let c1 := (x1 - x3) * 4
  let b1 := (x0 - x2) * 4
  ![a1 + d1 + (if a1 ≠ 0 then 1 else 0), b1 + c1, b1 - c1, a1 - d1]

def roundedEighth (value : Int) : Int :=
  (value + (if value < 0 then 1 else 0) + 3) >>> (3 : Nat)

def whtColumn : Butterfly := fun x0 x4 x8 x12 =>
  let a1 := x0 + x8
  let d1 := x4 + x12
  let c1 := x4 - x12
  let b1 := x0 - x8
  ![roundedEighth (a1 + d1), roundedEighth (b1 + c1), roundedEighth (b1 - c1),
    roundedEighth (a1 - d1)]

def columnOf (index : Fin 16) : Fin 4 := ⟨index % 4, Nat.mod_lt _ (by decide)⟩
def rowOf (index : Fin 16) : Fin 4 := ⟨index / 4, by omega⟩

def indexOf (column row : Fin 4) : Fin 16 := ⟨row * 4 + column, by omega⟩

section Passes

variable (store : Int → Int)

/-- The first loop of a transform, over the rows. -/
def firstPass (butterfly : Butterfly) (input : SafeArray Int 16) :
    SafeArray Int 16 := fun index =>
  let value (column : Fin 4) := input (indexOf column (rowOf index))
  store (butterfly (value 0) (value 1) (value 2) (value 3) (columnOf index))

/-- The second loop, over the columns. Each turn overwrites what it has read. -/
def secondPass (butterfly : Butterfly) (coefficients : SafeArray Int 16) :
    SafeArray Int 16 := fun index =>
  let value (row : Fin 4) := coefficients (indexOf (columnOf index) row)
  store (butterfly (value 0) (value 1) (value 2) (value 3) (rowOf index))

def residual (block prediction : Square UInt8 4) : SafeArray Int 16 :=
  fun index => store ((block (columnOf index) (rowOf index)).toNat -
    (prediction (columnOf index) (rowOf index)).toNat)

def subtractDct (block prediction : Square UInt8 4) : SafeArray Int 16 :=
  secondPass store dctColumn
    (firstPass store dctRow (residual store block prediction))

def wht (input : SafeArray Int 16) : SafeArray Int 16 :=
  secondPass store whtColumn (firstPass store whtRow input)

def factorFor (factors : Nat × Nat) (index : Fin 16) : Nat :=
  if index = 0 then factors.1 else factors.2

/-- The division rounds towards zero. -/
def quantize (factors : Nat × Nat) (coefficients : SafeArray Int 16) :
    SafeArray Int 16 := fun index =>
  store ((coefficients index).tdiv (factorFor factors index))

def dequantize (factors : Nat × Nat) (coefficients : SafeArray Int 16) :
    SafeArray Int 16 := fun index =>
  store (coefficients index * factorFor factors index)

end Passes

namespace Quantizer

def y2 (quantizer : Quantizer) : Nat × Nat := (quantizer.y2Dc, quantizer.y2Ac)
def y (quantizer : Quantizer) : Nat × Nat := (quantizer.yDc, quantizer.yAc)
def uv (quantizer : Quantizer) : Nat × Nat := (quantizer.uvDc, quantizer.uvAc)

end Quantizer

def InRange (bound value : Int) : Prop := -bound ≤ value ∧ value ≤ bound

def Within (bound : Int) (values : SafeArray Int 16) : Prop :=
  ∀ index, InRange bound (values index)

def Butterfly.Grows (butterfly : Butterfly) (before after : Int) : Prop :=
  ∀ x0 x1 x2 x3, InRange before x0 → InRange before x1 → InRange before x2 →
    InRange before x3 → ∀ index, InRange after (butterfly x0 x1 x2 x3 index)

theorem forall_four {Holds : Int → Prop} {y0 y1 y2 y3 : Int} (h0 : Holds y0)
    (h1 : Holds y1) (h2 : Holds y2) (h3 : Holds y3) :
    ∀ index : Fin 4, Holds (![y0, y1, y2, y3] index)
  | 0 => h0
  | 1 => h1
  | 2 => h2
  | 3 => h3

theorem dctRow_grows : dctRow.Grows 255 8160 := by
  intro x0 x1 x2 x3 ⟨_, _⟩ ⟨_, _⟩ ⟨_, _⟩ ⟨_, _⟩
  apply forall_four
  all_goals
    rw [InRange]
    try rw [Int.shiftRight_eq_div_pow]
    omega

theorem dctColumn_grows : dctColumn.Grows 8160 2040 := by
  intro x0 x1 x2 x3 ⟨_, _⟩ ⟨_, _⟩ ⟨_, _⟩ ⟨_, _⟩
  apply forall_four
  all_goals
    rw [InRange, Int.shiftRight_eq_div_pow]
    try split
    all_goals omega

theorem whtRow_grows : whtRow.Grows 2040 32641 := by
  intro x0 x1 x2 x3 ⟨_, _⟩ ⟨_, _⟩ ⟨_, _⟩ ⟨_, _⟩
  apply forall_four
  all_goals
    rw [InRange]
    try split
    all_goals omega

theorem roundedEighth_inRange {value : Int} (h : InRange 130564 value) :
    InRange 16320 (roundedEighth value) := by
  obtain ⟨hlow, hhigh⟩ := h
  rw [InRange, roundedEighth, Int.shiftRight_eq_div_pow]
  split
  · omega
  · omega

theorem whtColumn_grows : whtColumn.Grows 32641 16320 := by
  intro x0 x1 x2 x3 ⟨_, _⟩ ⟨_, _⟩ ⟨_, _⟩ ⟨_, _⟩
  apply forall_four
  all_goals
    apply roundedEighth_inRange
    rw [InRange]
    omega

theorem int16_of_natAbs {value : Int} (h : value.natAbs ≤ 32767) :
    int16 value = value :=
  int16_of_inRange (by omega) (by omega)

theorem int16_eq {bound value : Int} (h : InRange bound value)
    (hbound : bound ≤ 32767) : int16 value = value := by
  obtain ⟨hlow, hhigh⟩ := h
  exact int16_of_natAbs (by omega)

variable {butterfly : Butterfly} {before after : Int}

theorem firstPass_grows (h : butterfly.Grows before after)
    (hafter : after ≤ 32767) {input : SafeArray Int 16}
    (hinput : Within before input) :
    firstPass int16 butterfly input = firstPass id butterfly input ∧
      Within after (firstPass id butterfly input) := by
  have hrange : Within after (firstPass id butterfly input) := fun index =>
    h _ _ _ _ (hinput _) (hinput _) (hinput _) (hinput _) (columnOf index)
  exact ⟨funext fun index => int16_eq (hrange index) hafter, hrange⟩

theorem secondPass_grows (h : butterfly.Grows before after)
    (hafter : after ≤ 32767) {coefficients : SafeArray Int 16}
    (hcoefficients : Within before coefficients) :
    secondPass int16 butterfly coefficients =
        secondPass id butterfly coefficients ∧
      Within after (secondPass id butterfly coefficients) := by
  have hrange : Within after (secondPass id butterfly coefficients) :=
    fun index => h _ _ _ _ (hcoefficients _) (hcoefficients _)
      (hcoefficients _) (hcoefficients _) (rowOf index)
  exact ⟨funext fun index => int16_eq (hrange index) hafter, hrange⟩

theorem residual_range (block prediction : Square UInt8 4) :
    residual int16 block prediction = residual id block prediction ∧
      Within 255 (residual id block prediction) := by
  have hrange : Within 255 (residual id block prediction) := by
    intro index
    have hblock := (block (columnOf index) (rowOf index)).toNat_lt
    have hprediction := (prediction (columnOf index) (rowOf index)).toNat_lt
    unfold residual InRange
    dsimp only [id]
    omega
  exact ⟨funext fun index => int16_eq (hrange index) (by decide), hrange⟩

theorem dcQlookup_range (index : Fin 128) :
    4 ≤ dcQlookup[index] ∧ dcQlookup[index] ≤ 157 := by
  revert index
  decide

theorem acQlookup_range (index : Fin 128) :
    4 ≤ acQlookup[index] ∧ acQlookup[index] ≤ 284 := by
  revert index
  decide

theorem quantizer_y (indices : QuantIndices) (index : Fin 16) :
    4 ≤ factorFor (Quantizer.ofIndices indices).y index := by
  have hdc := (dcQlookup_range (indices.tableIndex .yDc)).1
  have hac := (acQlookup_range (indices.tableIndex .yAc)).1
  unfold factorFor
  split
  · exact hdc
  · exact hac

theorem quantizer_uv (indices : QuantIndices) (index : Fin 16) :
    4 ≤ factorFor (Quantizer.ofIndices indices).uv index := by
  have hdc := (dcQlookup_range (indices.tableIndex .uvDc)).1
  have hac := (acQlookup_range (indices.tableIndex .uvAc)).1
  unfold factorFor
  split
  · change 4 ≤ if 132 < dcQlookup[indices.tableIndex .uvDc] then 132
      else dcQlookup[indices.tableIndex .uvDc]
    split
    · decide
    · exact hdc
  · exact hac

theorem quantizer_y2 (indices : QuantIndices) (index : Fin 16) :
    8 ≤ factorFor (Quantizer.ofIndices indices).y2 index := by
  have hdc := (dcQlookup_range (indices.tableIndex .y2Dc)).1
  unfold factorFor
  split
  · change 8 ≤ dcQlookup[indices.tableIndex .y2Dc] * 2
    omega
  · change 8 ≤ if acQlookup[indices.tableIndex .y2Ac] * 155 / 100 < 8 then 8
      else acQlookup[indices.tableIndex .y2Ac] * 155 / 100
    split
    · exact Nat.le_refl 8
    · next hlarge => exact Nat.not_lt.mp hlarge

/-- The coefficients are quantized and taken back without loss of bits, and can
be written. -/
structure Quantizable (factors : Nat × Nat) (coefficients : SafeArray Int 16) :
    Prop where
  exact : quantize int16 factors coefficients =
    quantize id factors coefficients
  small : ∀ index, (quantize int16 factors coefficients index).natAbs ≤ 2114
  back : dequantize int16 factors (quantize int16 factors coefficients) =
    dequantize id factors (quantize int16 factors coefficients)

theorem quantizable_of {factors : Nat × Nat} {coefficients : SafeArray Int 16}
    {bound least : Nat} (hfactors : ∀ index, least ≤ factorFor factors index)
    (hleast : 0 < least) (hbound : bound ≤ 32767)
    (hlimit : bound / least ≤ 2114) (h : Within bound coefficients) :
    Quantizable factors coefficients := by
  have hquotient (index : Fin 16) :
      (quantize id factors coefficients index).natAbs =
        (coefficients index).natAbs / factorFor factors index :=
    Int.natAbs_tdiv _ _
  have habs (index : Fin 16) : (coefficients index).natAbs ≤ bound := by
    obtain ⟨hlow, hhigh⟩ := h index
    omega
  have hexact : quantize int16 factors coefficients =
      quantize id factors coefficients := by
    funext index
    apply int16_of_natAbs
    change (quantize id factors coefficients index).natAbs ≤ 32767
    rw [hquotient]
    exact Nat.le_trans (Nat.div_le_self _ _)
      (Nat.le_trans (habs index) hbound)
  refine ⟨hexact, fun index => ?_, ?_⟩
  · rw [hexact, hquotient]
    calc (coefficients index).natAbs / factorFor factors index
        ≤ bound / factorFor factors index := Nat.div_le_div_right (habs index)
      _ ≤ bound / least := Nat.div_le_div_left (hfactors index) hleast
      _ ≤ 2114 := hlimit
  · rw [hexact]
    funext index
    apply int16_of_natAbs
    rw [Int.natAbs_mul, hquotient, Int.natAbs_natCast]
    exact Nat.le_trans (Nat.div_mul_le_self _ _)
      (Nat.le_trans (habs index) hbound)

theorem subtractDct_exact (block prediction : Square UInt8 4) :
    residual int16 block prediction = residual id block prediction ∧
      firstPass int16 dctRow (residual int16 block prediction) =
        firstPass id dctRow (residual id block prediction) ∧
      subtractDct int16 block prediction = subtractDct id block prediction ∧
      Within 2040 (subtractDct id block prediction) := by
  obtain ⟨hresidual, hinput⟩ := residual_range block prediction
  obtain ⟨hfirst, hrows⟩ := firstPass_grows dctRow_grows (by decide) hinput
  obtain ⟨hsecond, hcolumns⟩ :=
    secondPass_grows dctColumn_grows (by decide) hrows
  refine ⟨hresidual, by rw [hresidual, hfirst], ?_, hcolumns⟩
  rw [subtractDct, hresidual, hfirst]
  exact hsecond

theorem wht_exact {input : SafeArray Int 16} (h : Within 2040 input) :
    firstPass int16 whtRow input = firstPass id whtRow input ∧
      wht int16 input = wht id input ∧ Within 16320 (wht id input) := by
  obtain ⟨hfirst, hrows⟩ := firstPass_grows whtRow_grows (by decide) h
  obtain ⟨hsecond, hcolumns⟩ :=
    secondPass_grows whtColumn_grows (by decide) hrows
  refine ⟨hfirst, ?_, hcolumns⟩
  rw [wht, hfirst]
  exact hsecond

def walshInput (blocks predictions : Fin 16 → Square UInt8 4) :
    SafeArray Int 16 :=
  fun index => subtractDct int16 (blocks index) (predictions index) 0

/-- Every block with such coefficients, or with zeros in place of some, can be
written. -/
def Writable (coefficients : SafeArray Int 16) : Prop :=
  ∀ {Mode : Type} (tables : ProbabilityTables) (above left : Bool)
    (block : Block Mode),
    (∀ index, block.coefficients index = coefficients index ∨
      block.coefficients index = 0) →
    (block.type = .yAfterY2 → block.coefficients 0 = 0) →
    ∃ symbols, block.serializeTokens tables above left = .ok symbols

theorem Quantizable.writable {factors : Nat × Nat}
    {coefficients : SafeArray Int 16} (h : Quantizable factors coefficients) :
    Writable (quantize int16 factors coefficients) := by
  intro Mode tables above left block hcoefficients hfirst
  refine Block.serializeTokens_ok tables above left (fun index => ?_) hfirst
  rcases hcoefficients index with hsame | hzero
  · rw [hsame]
    exact h.small index
  · rw [hzero]
    exact Nat.zero_le 2114

/-- Nothing is lost on the way from the samples to the tokens. -/
theorem forward_exact (indices : QuantIndices) :
    let quantizer := Quantizer.ofIndices indices
    (∀ block prediction : Square UInt8 4,
      residual int16 block prediction = residual id block prediction ∧
      firstPass int16 dctRow (residual int16 block prediction) =
        firstPass id dctRow (residual id block prediction) ∧
      subtractDct int16 block prediction = subtractDct id block prediction ∧
      ∀ factors, factors = quantizer.y ∨ factors = quantizer.uv →
        Quantizable factors (subtractDct int16 block prediction) ∧
        Writable (quantize int16 factors
          (subtractDct int16 block prediction))) ∧
    ∀ blocks predictions : Fin 16 → Square UInt8 4,
      firstPass int16 whtRow (walshInput blocks predictions) =
        firstPass id whtRow (walshInput blocks predictions) ∧
      wht int16 (walshInput blocks predictions) =
        wht id (walshInput blocks predictions) ∧
      Quantizable quantizer.y2 (wht int16 (walshInput blocks predictions)) ∧
      Writable (quantize int16 quantizer.y2
        (wht int16 (walshInput blocks predictions))) := by
  intro quantizer
  constructor
  · intro block prediction
    obtain ⟨hresidual, hfirst, hsecond, hrange⟩ :=
      subtractDct_exact block prediction
    refine ⟨hresidual, hfirst, hsecond, fun factors hfactors => ?_⟩
    have hleast (index : Fin 16) : 4 ≤ factorFor factors index := by
      rcases hfactors with rfl | rfl
      · exact quantizer_y indices index
      · exact quantizer_uv indices index
    have hquantizable : Quantizable factors
        (subtractDct int16 block prediction) := by
      rw [hsecond]
      exact quantizable_of hleast (by decide) (by decide) (by decide) hrange
    exact ⟨hquantizable, hquantizable.writable⟩
  · intro blocks predictions
    have hinput : Within 2040 (walshInput blocks predictions) := by
      intro index
      obtain ⟨-, -, hsecond, hrange⟩ :=
        subtractDct_exact (blocks index) (predictions index)
      rw [walshInput, hsecond]
      exact hrange 0
    obtain ⟨hfirst, hsecond, hrange⟩ := wht_exact hinput
    have hquantizable : Quantizable quantizer.y2
        (wht int16 (walshInput blocks predictions)) := by
      rw [hsecond]
      exact quantizable_of (quantizer_y2 indices) (by decide) (by decide)
        (by decide) hrange
    exact ⟨hfirst, hsecond, hquantizable, hquantizable.writable⟩

end Salsify.Codec
