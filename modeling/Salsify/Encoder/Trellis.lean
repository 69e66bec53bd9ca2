import Salsify.Codec.ForwardTransform
import Salsify.Encoder.TokenCosts

namespace Salsify.Encoder

open Salsify.Codec (SafeArray Block BlockType Quantizer QuantIndices zigzag
  coefficientToBand factorFor int16)
open Salsify.Net (Failure)
open Fallible (ok_bind bind_eq_ok)

/-! The choice of quantized coefficients in `Encoder::trellis_quantize`. -/

/-- The multipliers, in the range in which `update_rd_multipliers` leaves
them. -/
structure Multipliers where
  rate : UInt32 := 300
  distortion : UInt32 := 1
  rate_le : rate.toNat ≤ 1000 := by decide
  distortion_le : distortion.toNat ≤ 100 := by decide

def Multipliers.rdcost (multipliers : Multipliers) (rate distortion : UInt32) :
    UInt32 :=
  (128 + rate * multipliers.rate) / 256 + distortion * multipliers.distortion

/-- `best_next` and `min_choice`: where the smallest of two costs is, unless both
are the largest number. -/
def smallest (costs : SafeArray UInt32 2) : Option (Fin 2) :=
  let best := (List.finRange 2).foldl
    (fun (best : Option (Fin 2) × UInt32) next =>
      if costs next < best.2 then (some next, costs next) else best)
    (none, 4294967295)
  best.1

structure TrellisNode where
  rate : UInt32
  distortion : UInt32
  cost : UInt32
  coeff : Int
  token : Token
  next : Option (Fin 2)

abbrev TrellisRow := SafeArray TrellisNode 2

/-- The cost of the sentinel is not set, and not read. -/
def sentinelRow : TrellisRow := fun _ =>
  { rate := 0, distortion := 0, cost := 0, coeff := 0, token := .eob,
    next := none }

/-- The level `q - q_shift`, towards zero. There is none for zero. -/
def candidateCoeff (quantized qShift : Int) : Option Int :=
  if quantized < 0 then some (min 0 (quantized + qShift))
  else if quantized > 0 ∨ qShift = 0 then some (max 0 (quantized - qShift))
  else none

def trellisFactors (quantizer : Quantizer) : BlockType → Nat × Nat
  | .uv => quantizer.uv
  | .y2 => quantizer.y2
  | _ => quantizer.y

section Trellis

variable {Mode : Type} (tokenCosts : TokenCosts) (multipliers : Multipliers)
  (quantizer : Quantizer) (block : Block Mode)

def originalCoeff (index : Fin 16) : Int :=
  block.coefficients (zigzag.get index)

def trellisFactor (index : Fin 16) : Nat :=
  factorFor (trellisFactors quantizer block.type) index

def quantizedCoeff (index : Fin 16) : Int :=
  (originalCoeff block index).tdiv (trellisFactor quantizer block index)

/-- What a token costs in a context, which is nothing after the last
coefficient. -/
def entryCost (index : Nat) (context : Fin 3) (token : Token) : UInt32 :=
  if h : index < 16 then
    (tokenCosts block.type.code (coefficientToBand.get ⟨index, h⟩) context
      token).toUInt32
  else 0

def squaredError (index : Fin 16) (candidate : Int) : UInt32 :=
  let diff := int16 (originalCoeff block index -
    candidate * trellisFactor quantizer block index)
  UInt32.ofNat (diff * diff).toNat

/-! `distortions`, `rates` and `rd_costs` of a candidate, by the node that
follows it. -/

def distortions (index : Fin 16) (candidate : Int) (nextRow : TrellisRow)
    (next : Fin 2) : UInt32 :=
  (nextRow next).distortion + squaredError quantizer block index candidate

def rates (index : Fin 16) (candidate : Int) (nextRow : TrellisRow)
    (next : Fin 2) : UInt32 :=
  (nextRow next).rate + entryCost tokenCosts block (index + 1)
    (prevTokenClass (tokenForCoeff candidate)) (nextRow next).token

def rdCosts (index : Fin 16) (candidate : Int) (nextRow : TrellisRow)
    (next : Fin 2) : UInt32 :=
  multipliers.rdcost (rates tokenCosts block index candidate nextRow next)
    (distortions quantizer block index candidate nextRow next)

/-- The node of a zero that the end of the block is moved back to. -/
def endNode (sse : UInt32) : TrellisNode where
  rate := 0
  distortion := sse
  cost := multipliers.rdcost 0 sse
  coeff := 0
  token := .eob
  next := none

/-- A node for a candidate, before the nodes of the next coefficient. -/
def evaluateCandidate (index : Fin 16) (candidate : Int)
    (nextRow : TrellisRow) : Except Failure TrellisNode :=
  let sse := squaredError quantizer block index candidate
  let rdCosts := rdCosts tokenCosts multipliers quantizer block index candidate
    nextRow
  match smallest rdCosts with
  | none => .error (.assertion "index < size()")
  | some bestNext =>
      if candidate ≠ 0 ∨ (nextRow bestNext).token ≠ .eob then do
        let base ← coeffBaseCost candidate
        return {
          rate := rates tokenCosts block index candidate nextRow bestNext +
            base.toUInt32
          distortion :=
            distortions quantizer block index candidate nextRow bestNext
          cost := rdCosts bestNext
          coeff := candidate
          token := tokenForCoeff candidate
          next := some bestNext }
      else
        .ok (endNode multipliers sse)

/-- The first of the levels is the quantized coefficient itself. -/
def buildRow (index : Fin 16) (nextRow : TrellisRow) :
    Except Failure TrellisRow := do
  let quantized := quantizedCoeff quantizer block index
  let first ← evaluateCandidate tokenCosts multipliers quantizer block index
    quantized nextRow
  match candidateCoeff quantized 1 with
  | none => return fun _ => first
  | some candidate =>
      let second ← evaluateCandidate tokenCosts multipliers quantizer block
        index candidate nextRow
      return ![first, second]

/-- The rows of the given number of coefficients from an index on and of the
sentinel, built from the last one back. -/
def buildRows : (count index : Nat) →
    Except Failure (TrellisRow × List TrellisRow)
  | 0, _ => .ok (sentinelRow, [])
  | count + 1, index => do
      let (nextRow, later) ← buildRows count (index + 1)
      let row ← buildRow tokenCosts multipliers quantizer block
        (Fin.ofNat 16 index) nextRow
      return (row, nextRow :: later)

/-- The first token is paid for in the context of the block. -/
def payFirst (first : Nat) (tokenContext : Fin 3) (row : TrellisRow) :
    TrellisRow := fun level =>
  let node := row level
  let rate := node.rate +
    entryCost tokenCosts block first tokenContext node.token
  { node with
    rate := rate
    cost := multipliers.rdcost rate node.distortion }

end Trellis

/-- The coefficients up to the end of the block, along the links. -/
def followLinks : List TrellisRow → TrellisRow → Fin 2 →
    Except Failure (List Int)
  | later, row, level =>
      if (row level).token = .eob then .ok []
      else
        match later, (row level).next with
        | nextRow :: later, some next => do
            let values ← followLinks later nextRow next
            return (row level).coeff :: values
        | _, _ => .error (.assertion "index < size()")

theorem followLinks_eob {later : List TrellisRow} {row : TrellisRow}
    {level : Fin 2} (h : (row level).token = .eob) :
    followLinks later row level = .ok [] := by
  unfold followLinks
  exact if_pos h

theorem followLinks_next {later : List TrellisRow} {nextRow row : TrellisRow}
    {level next : Fin 2} (htoken : (row level).token ≠ .eob)
    (hnext : (row level).next = some next) :
    followLinks (nextRow :: later) row level = (do
      let values ← followLinks later nextRow next
      return (row level).coeff :: values) := by
  rw [followLinks.eq_def]
  dsimp only
  rw [if_neg htoken, hnext]

def writeBack {Mode : Type} (block : Block Mode) (first : Nat)
    (values : List Int) : Block Mode :=
  { block with
    coefficients := ((List.finRange 16).drop first).foldl
      (fun coefficients index => Function.update coefficients
        (zigzag.get index) (values.getD (index - first) 0))
      block.coefficients }

structure TrellisResult where
  row : TrellisRow
  later : List TrellisRow
  first : TrellisRow
  minChoice : Fin 2

section Quantize

variable {Mode : Type} (tokenCosts : TokenCosts) (multipliers : Multipliers)
  (quantizer : Quantizer) (tokenContext : Fin 3) (block : Block Mode)

def buildTrellis : Except Failure TrellisResult := do
  let firstIndex := Block.firstCoefficient block.type
  let (row, later) ← buildRows tokenCosts multipliers quantizer block
    (block.codedLength - firstIndex) firstIndex
  let first := payFirst tokenCosts multipliers block firstIndex tokenContext row
  match smallest fun level => (first level).cost with
  | none => .error (.undefinedBehaviour "min_choice")
  | some minChoice => return { row, later, first, minChoice }

def trellisQuantize : Except Failure (Block Mode) :=
  if block.codedLength = 0 then
    .ok { block with coefficients := fun _ => 0 }
  else do
    let result ← buildTrellis tokenCosts multipliers quantizer tokenContext block
    let values ← followLinks result.later result.first result.minChoice
    return writeBack block (Block.firstCoefficient block.type) values

end Quantize

theorem smallest_of_lt {costs : SafeArray UInt32 2}
    (h : costs 0 < 4294967295) :
    smallest costs = some (if costs 1 < costs 0 then 1 else 0) := by
  change (if costs 1 < (if costs 0 < 4294967295 then (some 0, costs 0)
    else (none, 4294967295) : Option (Fin 2) × UInt32).2 then (some 1, costs 1)
    else (if costs 0 < 4294967295 then (some 0, costs 0)
      else (none, 4294967295) : Option (Fin 2) × UInt32)).1 = _
  rw [if_pos h]
  split <;> rfl

theorem smallest_le {costs : SafeArray UInt32 2} (h : costs 0 < 4294967295)
    {least : Fin 2} (hleast : smallest costs = some least) (other : Fin 2) :
    costs least ≤ costs other := by
  rw [smallest_of_lt h] at hleast
  cases hleast
  match other with
  | 0 =>
      split
      · next hless => exact UInt32.le_of_lt hless
      · exact UInt32.le_refl _
  | 1 =>
      split
      · exact UInt32.le_refl _
      · next hless => exact UInt32.not_lt.mp hless

def IsCandidate (quantized candidate : Int) : Prop :=
  candidate = quantized ∨ candidateCoeff quantized 1 = some candidate

theorem IsCandidate.towards_zero {quantized candidate : Int}
    (h : IsCandidate quantized candidate) :
    candidate = quantized ∨ 0 < quantized ∧ candidate = quantized - 1 ∨
      quantized < 0 ∧ candidate = quantized + 1 := by
  rcases h with rfl | h
  · exact .inl rfl
  · unfold candidateCoeff at h
    split at h
    · next hnegative =>
        cases h
        omega
    · split at h
      · cases h
        omega
      · cases h

theorem error_lt {original candidate : Int} {factor : Nat} (hpos : 0 < factor)
    (h : IsCandidate (original.tdiv factor) candidate) :
    (original - candidate * factor).natAbs < 2 * factor := by
  have hsum := Int.tmod_add_mul_tdiv original factor
  have hrest : (original.tmod factor).natAbs < factor := by
    rw [Int.natAbs_tmod]
    exact Nat.mod_lt _ (by omega)
  rw [Int.mul_comm] at hsum
  rcases h.towards_zero with rfl | ⟨-, rfl⟩ | ⟨-, rfl⟩
  · omega
  · rw [Int.sub_mul, Int.one_mul]
    omega
  · rw [Int.add_mul, Int.one_mul]
    omega

section Exact

variable {Mode : Type} (indices : QuantIndices) (block : Block Mode)

theorem trellisFactor_range (index : Fin 16) :
    4 ≤ trellisFactor (.ofIndices indices) block index ∧
      trellisFactor (.ofIndices indices) block index ≤ 440 := by
  have hdc (plane : Codec.Plane) :=
    (Codec.dcQlookup_range (indices.tableIndex plane)).2
  have hac (plane : Codec.Plane) :=
    (Codec.acQlookup_range (indices.tableIndex plane)).2
  have hy : factorFor (Quantizer.ofIndices indices).y index ≤ 440 := by
    have hyDc := hdc .yDc
    have hyAc := hac .yAc
    unfold factorFor
    split
    · exact hyDc.trans (by decide)
    · exact hyAc.trans (by decide)
  unfold trellisFactor trellisFactors
  split
  · refine ⟨Codec.quantizer_uv indices index, ?_⟩
    have huvAc := hac .uvAc
    unfold factorFor
    split
    · change (if 132 < Codec.dcQlookup[indices.tableIndex .uvDc] then 132
        else Codec.dcQlookup[indices.tableIndex .uvDc]) ≤ 440
      split <;> omega
    · exact huvAc.trans (by decide)
  · have hleast := Codec.quantizer_y2 indices index
    refine ⟨by omega, ?_⟩
    have hy2Dc := hdc .y2Dc
    have hy2Ac := hac .y2Ac
    unfold factorFor
    split
    · change Codec.dcQlookup[indices.tableIndex .y2Dc] * 2 ≤ 440
      omega
    · change (if Codec.acQlookup[indices.tableIndex .y2Ac] * 155 / 100 < 8
        then 8 else Codec.acQlookup[indices.tableIndex .y2Ac] * 155 / 100) ≤ 440
      split <;> omega
  · exact ⟨Codec.quantizer_y indices index, hy⟩

theorem Multipliers.rdcost_toNat (multipliers : Multipliers)
    {rate distortion : UInt32} (hrate : rate.toNat ≤ 2228190)
    (hdistortion : distortion.toNat ≤ 12390400) :
    (multipliers.rdcost rate distortion).toNat =
        (128 + rate.toNat * multipliers.rate.toNat) / 256 +
          distortion.toNat * multipliers.distortion.toNat ∧
      multipliers.rdcost rate distortion < 4294967295 := by
  have hrates := Nat.mul_le_mul hrate multipliers.rate_le
  have hdistortions := Nat.mul_le_mul hdistortion multipliers.distortion_le
  have hexact : (multipliers.rdcost rate distortion).toNat =
      (128 + rate.toNat * multipliers.rate.toNat) / 256 +
        distortion.toNat * multipliers.distortion.toNat := by
    unfold rdcost
    rw [UInt32.toNat_add, UInt32.toNat_div, UInt32.toNat_add, UInt32.toNat_mul,
      UInt32.toNat_mul]
    change ((128 + rate.toNat * multipliers.rate.toNat % 2 ^ 32) % 2 ^ 32 / 256 +
      distortion.toNat * multipliers.distortion.toNat % 2 ^ 32) % 2 ^ 32 = _
    generalize rate.toNat * multipliers.rate.toNat = first at *
    generalize distortion.toNat * multipliers.distortion.toNat = second at *
    omega
  refine ⟨hexact, ?_⟩
  rw [UInt32.lt_iff_toNat_lt, hexact]
  change _ < 4294967295
  generalize rate.toNat * multipliers.rate.toNat = first at *
  generalize distortion.toNat * multipliers.distortion.toNat = second at *
  omega

def errorOf (quantizer : Quantizer) (index : Fin 16) (value : Int) : Nat :=
  (originalCoeff block index - value * trellisFactor quantizer block index).natAbs
    ^ 2

theorem squaredError_toNat {index : Fin 16} {candidate : Int}
    (h : IsCandidate (quantizedCoeff (.ofIndices indices) block index)
      candidate) :
    (squaredError (.ofIndices indices) block index candidate).toNat =
        errorOf block (.ofIndices indices) index candidate ∧
      errorOf block (.ofIndices indices) index candidate ≤ 774400 := by
  obtain ⟨hlow, hhigh⟩ := trellisFactor_range indices block index
  have herror := error_lt (by omega) h
  unfold squaredError errorOf
  generalize originalCoeff block index - candidate *
    trellisFactor (.ofIndices indices) block index = diff at *
  have hsmall : diff.natAbs ≤ 880 := by omega
  have hsquare : diff.natAbs ^ 2 ≤ 774400 :=
    (Nat.pow_le_pow_left hsmall 2).trans (by decide)
  have hproduct : (diff * diff).toNat = diff.natAbs ^ 2 := by
    rw [← Int.natAbs_mul_self, Int.toNat_natCast, Nat.pow_two]
  rw [Codec.int16_of_natAbs (by omega)]
  dsimp only
  rw [UInt32.toNat_ofNat', hproduct, Nat.mod_eq_of_lt (by omega)]
  exact ⟨rfl, hsquare⟩

end Exact

end Salsify.Encoder
