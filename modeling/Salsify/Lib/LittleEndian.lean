import Mathlib.Data.Nat.Digits.Lemmas

namespace Salsify.LittleEndian

/-! Numbers as fixed-width little-endian byte strings. -/

def toBytes : Nat → Nat → List UInt8
  | 0, _ => []
  | width + 1, value => UInt8.ofNat value :: toBytes width (value / 256)

def ofBytes (bytes : List UInt8) : Nat :=
  Nat.ofDigits 256 (bytes.map UInt8.toNat)

@[simp] theorem toBytes_length (width value : Nat) :
    (toBytes width value).length = width := by
  induction width generalizing value with
  | zero => rfl
  | succ width ih => simp [toBytes, ih]

theorem ofBytes_lt (bytes : List UInt8) :
    ofBytes bytes < 256 ^ bytes.length := by
  have h := @Nat.ofDigits_lt_base_pow_length 256 (bytes.map UInt8.toNat)
    (by omega) (by
      intro digit hdigit
      obtain ⟨byte, -, rfl⟩ := List.mem_map.mp hdigit
      exact byte.toNat_lt)
  simpa [ofBytes] using h

theorem ofBytes_toBytes (width value : Nat) :
    ofBytes (toBytes width value) = value % 256 ^ width := by
  induction width generalizing value with
  | zero => simp [ofBytes, toBytes, Nat.mod_one]
  | succ width ih =>
      have htail := ih (value / 256)
      simp only [ofBytes] at htail
      simp only [ofBytes, toBytes, List.map_cons, Nat.ofDigits_cons, htail,
        UInt8.toNat_ofNat']
      rw [pow_succ' 256 width, Nat.mod_mul]

theorem ofBytes_toBytes_of_lt {width value : Nat} (hlt : value < 256 ^ width) :
    ofBytes (toBytes width value) = value := by
  rw [ofBytes_toBytes, Nat.mod_eq_of_lt hlt]

theorem toBytes_ofBytes (bytes : List UInt8) :
    toBytes bytes.length (ofBytes bytes) = bytes := by
  induction bytes with
  | nil => rfl
  | cons byte bytes ih =>
      have hbyte : UInt8.ofNat (byte.toNat + 256 * ofBytes bytes) = byte := by
        apply UInt8.toNat_inj.mp
        have hlt := byte.toNat_lt
        rw [UInt8.toNat_ofNat']
        omega
      have hrest : (byte.toNat + 256 * ofBytes bytes) / 256 = ofBytes bytes := by
        have hlt := byte.toNat_lt
        omega
      have hcons : ofBytes (byte :: bytes) =
          byte.toNat + 256 * ofBytes bytes := by
        simp only [ofBytes, List.map_cons, Nat.ofDigits_cons]
      rw [hcons, List.length_cons, toBytes, hbyte, hrest, ih]

end Salsify.LittleEndian
