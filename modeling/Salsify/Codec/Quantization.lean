import Salsify.Codec.DecoderState

namespace Salsify.Codec

/-! The quantizers of `decoder/quantization.cc`, and those that
`Frame::calculate_segment_quantizers` makes. -/

def dcQlookup : Vector Nat 128 :=
  #v[4, 5, 6, 7, 8, 9, 10, 10, 11, 12, 13, 14, 15,
    16, 17, 17, 18, 19, 20, 20, 21, 21, 22, 22, 23, 23,
    24, 25, 25, 26, 27, 28, 29, 30, 31, 32, 33, 34, 35,
    36, 37, 37, 38, 39, 40, 41, 42, 43, 44, 45, 46, 46,
    47, 48, 49, 50, 51, 52, 53, 54, 55, 56, 57, 58, 59,
    60, 61, 62, 63, 64, 65, 66, 67, 68, 69, 70, 71, 72,
    73, 74, 75, 76, 76, 77, 78, 79, 80, 81, 82, 83, 84,
    85, 86, 87, 88, 89, 91, 93, 95, 96, 98, 100, 101, 102,
    104, 106, 108, 110, 112, 114, 116, 118, 122, 124, 126, 128, 130,
    132, 134, 136, 138, 140, 143, 145, 148, 151, 154, 157]

def acQlookup : Vector Nat 128 :=
  #v[4, 5, 6, 7, 8, 9, 10, 11, 12, 13, 14, 15, 16,
    17, 18, 19, 20, 21, 22, 23, 24, 25, 26, 27, 28, 29,
    30, 31, 32, 33, 34, 35, 36, 37, 38, 39, 40, 41, 42,
    43, 44, 45, 46, 47, 48, 49, 50, 51, 52, 53, 54, 55,
    56, 57, 58, 60, 62, 64, 66, 68, 70, 72, 74, 76, 78,
    80, 82, 84, 86, 88, 90, 92, 94, 96, 98, 100, 102, 104,
    106, 108, 110, 112, 114, 116, 119, 122, 125, 128, 131, 134, 137,
    140, 143, 146, 149, 152, 155, 158, 161, 164, 167, 170, 173, 177,
    181, 185, 189, 193, 197, 201, 205, 209, 213, 217, 221, 225, 229,
    234, 239, 245, 249, 254, 259, 264, 269, 274, 279, 284]

def clampQ (q : Int16) : Fin 128 :=
  if q < 0 then 0
  else if 127 < q then 127
  else Fin.ofNat 128 q.toInt.toNat

inductive Plane
  | yAc
  | yDc
  | y2Ac
  | y2Dc
  | uvAc
  | uvDc
  deriving DecidableEq

/-- What is added to `y_ac_qi`. -/
def QuantIndices.delta (indices : QuantIndices) : Plane → Int
  | .yAc => 0
  | .yDc => (indices.yDc.getD 0).toInt
  | .y2Ac => (indices.y2Ac.getD 0).toInt
  | .y2Dc => (indices.y2Dc.getD 0).toInt
  | .uvAc => (indices.uvAc.getD 0).toInt
  | .uvDc => (indices.uvDc.getD 0).toInt

def QuantIndices.tableIndex (indices : QuantIndices) (plane : Plane) :
    Fin 128 :=
  clampQ (Int16.ofInt (indices.yAcQi.toNat + indices.delta plane))

structure Quantizer where
  yAc : Nat := 0
  yDc : Nat := 0
  y2Ac : Nat := 0
  y2Dc : Nat := 0
  uvAc : Nat := 0
  uvDc : Nat := 0

def Quantizer.ofIndices (indices : QuantIndices) : Quantizer :=
  let y2Ac := acQlookup[indices.tableIndex .y2Ac] * 155 / 100
  let uvDc := dcQlookup[indices.tableIndex .uvDc]
  { yAc := acQlookup[indices.tableIndex .yAc]
    yDc := dcQlookup[indices.tableIndex .yDc]
    y2Ac := if y2Ac < 8 then 8 else y2Ac
    y2Dc := dcQlookup[indices.tableIndex .y2Dc] * 2
    uvAc := acQlookup[indices.tableIndex .uvAc]
    uvDc := if 132 < uvDc then 132 else uvDc }

variable {width height : Nat}

/-- The indices of a segment. The sum is stored as an `Unsigned<7>`, which holds
a byte. -/
def segmentIndices (indices : QuantIndices)
    (segmentation : Segmentation width height) (segment : Fin 4) :
    QuantIndices :=
  { indices with
    yAcQi := UInt8.ofInt
      ((segmentation.segmentQuantizerAdjustments segment).toInt +
        (if segmentation.absoluteSegmentAdjustments then 0
          else indices.yAcQi).toNat) }

def calculateSegmentQuantizers (indices : QuantIndices) :
    Option (Segmentation width height) → SafeArray Quantizer 4
  | none => fun _ => {}
  | some segmentation => fun segment =>
      .ofIndices (segmentIndices indices segmentation segment)

def segmentBase (indices : QuantIndices)
    (segmentation : Segmentation width height) (segment : Fin 4) : Int :=
  (segmentation.segmentQuantizerAdjustments segment).toInt +
    (if segmentation.absoluteSegmentAdjustments then 0
      else indices.yAcQi).toNat

theorem clampQ_ofInt {q : Int} (hlow : -2 ^ 15 ≤ q) (hhigh : q < 2 ^ 15) :
    ((clampQ (Int16.ofInt q) : Nat) : Int) = max 0 (min 127 q) := by
  have htoInt := Int16.toInt_ofInt_of_le hlow hhigh
  have hnegative : Int16.ofInt q < 0 ↔ q < 0 := by
    rw [Int16.lt_iff_toInt_lt, htoInt]
    rfl
  have hlarge : 127 < Int16.ofInt q ↔ 127 < q := by
    rw [Int16.lt_iff_toInt_lt, htoInt]
    rfl
  unfold clampQ
  by_cases hq : q < 0
  · rw [if_pos (hnegative.mpr hq), max_eq_left (by omega)]
    rfl
  rw [if_neg (hnegative.not.mpr hq)]
  by_cases hq' : 127 < q
  · rw [if_pos (hlarge.mpr hq'), min_eq_left (by omega)]
    rfl
  · rw [if_neg (hlarge.not.mpr hq'), htoInt, Fin.val_ofNat,
      Nat.mod_eq_of_lt (by omega)]
    omega

theorem delta_range (indices : QuantIndices) (plane : Plane) :
    -128 ≤ indices.delta plane ∧ indices.delta plane ≤ 127 := by
  have hrange (value : Int8) : -128 ≤ value.toInt ∧ value.toInt ≤ 127 :=
    ⟨value.le_toInt, value.toInt_le⟩
  cases plane with
  | yAc => exact hrange 0
  | yDc => exact hrange _
  | y2Ac => exact hrange _
  | y2Dc => exact hrange _
  | uvAc => exact hrange _
  | uvDc => exact hrange _

theorem tableIndex_eq (indices : QuantIndices) (plane : Plane) :
    ((indices.tableIndex plane : Nat) : Int) =
      max 0 (min 127 (indices.yAcQi.toNat + indices.delta plane)) := by
  have hdelta := delta_range indices plane
  have hbyte := indices.yAcQi.toNat_lt
  exact clampQ_ofInt (by omega) (by omega)

theorem segmentIndices_yAcQi (indices : QuantIndices)
    (segmentation : Segmentation width height) (segment : Fin 4) :
    (((segmentIndices indices segmentation segment).yAcQi.toNat : Nat) : Int) =
      segmentBase indices segmentation segment % 2 ^ 8 := by
  have hnonneg := Int.emod_nonneg (segmentBase indices segmentation segment)
    (show (2 : Int) ^ 8 ≠ 0 by decide)
  have hlt := Int.emod_lt_of_pos (segmentBase indices segmentation segment)
    (show (0 : Int) < 2 ^ 8 by decide)
  have hbyte : (segmentIndices indices segmentation segment).yAcQi.toNat =
      (segmentBase indices segmentation segment % 2 ^ 8).toNat % 2 ^ 8 :=
    UInt8.toNat_ofNat'
  rw [hbyte]
  omega

theorem segmentBase_range (indices : QuantIndices)
    (segmentation : Segmentation width height) (segment : Fin 4) :
    -128 ≤ segmentBase indices segmentation segment ∧
      segmentBase indices segmentation segment ≤ 382 := by
  have hlow := (segmentation.segmentQuantizerAdjustments segment).le_toInt
  have hhigh : (segmentation.segmentQuantizerAdjustments segment).toInt ≤ 127 :=
    (segmentation.segmentQuantizerAdjustments segment).toInt_le
  have hbyte := (if segmentation.absoluteSegmentAdjustments then 0
    else indices.yAcQi).toNat_lt
  unfold segmentBase
  omega

def IndexExact (indices : QuantIndices)
    (segmentation : Segmentation width height) (segment : Fin 4) : Prop :=
  ∀ plane,
    (((segmentIndices indices segmentation segment).tableIndex plane : Nat) :
      Int) = max 0 (min 127
        (segmentBase indices segmentation segment + indices.delta plane))

theorem indexExact_iff (indices : QuantIndices)
    (segmentation : Segmentation width height) (segment : Fin 4) :
    IndexExact indices segmentation segment ↔
      0 ≤ segmentBase indices segmentation segment ∧
        segmentBase indices segmentation segment < 256 := by
  have hstored := segmentIndices_yAcQi indices segmentation segment
  have hrange := segmentBase_range indices segmentation segment
  constructor
  · intro hexact
    have hyAc := hexact .yAc
    rw [tableIndex_eq, hstored] at hyAc
    have hdelta : (segmentIndices indices segmentation segment).delta .yAc = 0 :=
      rfl
    have hdelta' : indices.delta .yAc = 0 := rfl
    omega
  · rintro ⟨hnonneg, hlt⟩ plane
    have hdelta : (segmentIndices indices segmentation segment).delta plane =
        indices.delta plane := by
      cases plane <;> rfl
    have hsame : segmentBase indices segmentation segment % 2 ^ 8 =
        segmentBase indices segmentation segment :=
      Int.emod_eq_of_lt hnonneg hlt
    rw [tableIndex_eq, hstored, hdelta, hsame]

theorem segments_indexExact_iff (indices : QuantIndices)
    (segmentation : Segmentation width height) :
    (∀ segment, IndexExact indices segmentation segment) ↔
      ∀ segment, 0 ≤ segmentBase indices segmentation segment ∧
        segmentBase indices segmentation segment < 256 :=
  forall_congr' (indexExact_iff indices segmentation)

/-- Every segment is to be ten steps finer than the frame, which is at 4. -/
theorem relative_adjustment_wraps :
    ¬ ∀ segment, IndexExact
      { yAcQi := 4, yDc := none, y2Dc := none, y2Ac := none, uvDc := none
        uvAc := none }
      ({ segmentQuantizerAdjustments := fun _ => -10, map := fun _ _ => 3 } :
        Segmentation 1 1) segment := by
  intro h
  exact absurd (h 0 .yAc) (by decide)

end Salsify.Codec
