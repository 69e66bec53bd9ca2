import Salsify.Coder.RoundTrip

namespace Salsify.Coder

/-! A decoder past the end of its chunk, which reads on from zeros. -/

namespace BoolDecoder

/-- The same decoder, of a chunk that it takes for complete. -/
def told (decoder : BoolDecoder) : BoolDecoder :=
  { decoder with valid := true, completeChunk := true }

theorem loadOctet_told (decoder : BoolDecoder) :
    decoder.told.loadOctet = decoder.loadOctet.told := by
  obtain ⟨chunk, range, value, bitCount, valid, completeChunk⟩ := decoder
  cases chunk with
  | cons byte rest => rfl
  | nil => cases completeChunk <;> rfl

theorem ofChunk_told (chunk : List UInt8) :
    ofChunk chunk = (ofChunk chunk false).told := by
  unfold ofChunk
  rw [← loadOctet_told]
  cases chunk <;> rfl

theorem shiftOnce_told (decoder : BoolDecoder) :
    decoder.told.shiftOnce = decoder.shiftOnce.told := by
  by_cases hlast : decoder.bitCount + 1 = 8
  · have htold : decoder.told.bitCount + 1 = 8 := hlast
    rw [shiftOnce, if_pos htold, shiftOnce, if_pos hlast, ← loadOctet_told]
    rfl
  · have htold : ¬ decoder.told.bitCount + 1 = 8 := hlast
    rw [shiftOnce, if_neg htold, shiftOnce, if_neg hlast]
    rfl

theorem renormalize_told (fuel : Nat) (decoder : BoolDecoder) :
    renormalize fuel decoder.told = (renormalize fuel decoder).told := by
  induction fuel generalizing decoder with
  | zero => rfl
  | succ fuel ih =>
      by_cases hsmall : decoder.range < 128
      · have htold : decoder.told.range < 128 := hsmall
        rw [renormalize, if_pos htold, renormalize, if_pos hsmall,
          shiftOnce_told, ih]
      · have htold : ¬ decoder.told.range < 128 := hsmall
        rw [renormalize, if_neg htold, renormalize, if_neg hsmall]

theorem get_told (decoder : BoolDecoder) (probability : Probability) :
    decoder.told.get probability =
      ((decoder.get probability).1, (decoder.get probability).2.told) := by
  by_cases hone : splitOf decoder.range probability <<< (8 : UInt32) ≤
      decoder.value
  · have htold : splitOf decoder.told.range probability <<< (8 : UInt32) ≤
        decoder.told.value := hone
    rw [get, if_pos htold, get, if_pos hone, ← renormalize_told]
    rfl
  · have htold : ¬ splitOf decoder.told.range probability <<< (8 : UInt32) ≤
        decoder.told.value := hone
    rw [get, if_neg htold, get, if_neg hone, ← renormalize_told]
    rfl

/-! Once asked for data beyond the end, the decoder stays so. -/

structure Reports (decoder : BoolDecoder) : Prop where
  missing : decoder.valid = false → decoder.chunk = []
  range : Normal decoder.range.toNat

theorem loadOctet_missing {decoder : BoolDecoder}
    (h : decoder.valid = false → decoder.chunk = []) :
    decoder.loadOctet.valid = false → decoder.loadOctet.chunk = [] := by
  obtain ⟨chunk, range, value, bitCount, valid, completeChunk⟩ := decoder
  cases chunk with
  | cons byte rest =>
      intro hvalid
      cases h hvalid
  | nil => cases completeChunk <;> exact fun _ => rfl

theorem shiftOnce_missing {decoder : BoolDecoder}
    (h : decoder.valid = false → decoder.chunk = []) :
    decoder.shiftOnce.valid = false → decoder.shiftOnce.chunk = [] := by
  by_cases hlast : decoder.bitCount + 1 = 8
  · rw [shiftOnce, if_pos hlast]
    exact loadOctet_missing h
  · rw [shiftOnce, if_neg hlast]
    exact h

theorem renormalize_missing (fuel : Nat) {decoder : BoolDecoder}
    (h : decoder.valid = false → decoder.chunk = []) :
    (renormalize fuel decoder).valid = false →
      (renormalize fuel decoder).chunk = [] := by
  induction fuel generalizing decoder with
  | zero => exact h
  | succ fuel ih =>
      rw [renormalize]
      split
      · exact ih (shiftOnce_missing h)
      · exact h

theorem Reports.get {decoder : BoolDecoder} (h : decoder.Reports)
    (probability : Probability) : (decoder.get probability).2.Reports := by
  refine ⟨?_, get_range h.range probability⟩
  rw [BoolDecoder.get]
  split
  · exact renormalize_missing 7 h.missing
  · exact renormalize_missing 7 h.missing

structure Spent (decoder : BoolDecoder) : Prop where
  chunk : decoder.chunk = []
  value : decoder.value = 0
  range : Normal decoder.range.toNat

theorem loadOctet_spent {decoder : BoolDecoder} (hchunk : decoder.chunk = [])
    (hvalue : decoder.value = 0) :
    decoder.loadOctet.chunk = [] ∧ decoder.loadOctet.value = 0 := by
  obtain ⟨chunk, range, value, bitCount, valid, completeChunk⟩ := decoder
  cases hchunk
  cases completeChunk
  · exact ⟨rfl, hvalue⟩
  · exact ⟨rfl, hvalue⟩

theorem spent_ofChunk (completeChunk : Bool) :
    Spent (ofChunk [] completeChunk) := by
  have hrange : Normal 255 := by
    constructor <;> decide
  cases completeChunk <;> exact ⟨rfl, rfl, hrange⟩

theorem shiftOnce_spent {decoder : BoolDecoder} (hchunk : decoder.chunk = [])
    (hvalue : decoder.value = 0) :
    decoder.shiftOnce.chunk = [] ∧ decoder.shiftOnce.value = 0 := by
  have hshifted : decoder.value <<< (1 : UInt32) = 0 := by
    rw [hvalue]
    rfl
  by_cases hlast : decoder.bitCount + 1 = 8
  · rw [shiftOnce, if_pos hlast]
    exact loadOctet_spent hchunk hshifted
  · rw [shiftOnce, if_neg hlast]
    exact ⟨hchunk, hshifted⟩

theorem renormalize_spent (fuel : Nat) {decoder : BoolDecoder}
    (hchunk : decoder.chunk = []) (hvalue : decoder.value = 0) :
    (renormalize fuel decoder).chunk = [] ∧
      (renormalize fuel decoder).value = 0 := by
  induction fuel generalizing decoder with
  | zero => exact ⟨hchunk, hvalue⟩
  | succ fuel ih =>
      rw [renormalize]
      split
      · exact ih (shiftOnce_spent hchunk hvalue).1
          (shiftOnce_spent hchunk hvalue).2
      · exact ⟨hchunk, hvalue⟩

theorem Spent.get {decoder : BoolDecoder} (h : decoder.Spent)
    (probability : Probability) :
    (decoder.get probability).1 = false ∧
      (decoder.get probability).2.Spent := by
  have hzero : ¬ splitOf decoder.range probability <<< (8 : UInt32) ≤
      decoder.value := by
    have hpos := split_pos decoder.range.toNat probability
    have hlt := split_lt h.range probability
    have hbyte := h.range.2
    have hsplit := splitOf_toNat h.range probability
    have hshift := shiftLeft_toNat (splitOf decoder.range probability) 8
      (by omega) (by omega)
    have hzero : (0 : UInt32).toNat = 0 := rfl
    rw [h.value, UInt32.le_iff_toNat_le, hzero]
    change ¬ (splitOf decoder.range probability <<< UInt32.ofNat 8).toNat ≤ 0
    omega
  have hrange := get_range h.range probability
  rw [BoolDecoder.get, if_neg hzero] at hrange ⊢
  have hchunk : ({ decoder with
      range := splitOf decoder.range probability } : BoolDecoder).chunk = [] :=
    h.chunk
  have hrest := renormalize_spent 7 hchunk h.value
  exact ⟨rfl, hrest.1, hrest.2, hrange⟩

end BoolDecoder

end Salsify.Coder
