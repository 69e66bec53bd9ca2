import Salsify.Coder.BoolDecoder
import Salsify.Coder.EncoderInterval

namespace Salsify.Coder

open Salsify.IntervalCoding

/-! The decoder's two-byte window follows the encoder's intervals over the bytes
of the encoder, so it reads back the bits that were put. -/

namespace BoolDecoder

/-- The window holds the stream of `bytes` as seen from the bottom of
`interval`, with `loaded` bytes taken so far. -/
structure Tracks (bytes : List UInt8) (interval : Interval)
    (decoder : BoolDecoder) : Prop where
  range_eq : decoder.range.toNat = interval.range
  window : ∃ loaded count : Nat, decoder.chunk = bytes.drop loaded ∧
    decoder.bitCount = count ∧ count < 8 ∧
    interval.depth + 8 = 8 * loaded + count ∧
    decoder.value.toNat + interval.low * 256 =
      (BitStream.ofBytes bytes).top (8 * loaded) * 2 ^ count

def unitInterval : Interval := ⟨0, 255, 8⟩

theorem loadOctet_value {bytes : List UInt8} (decoder : BoolDecoder)
    (loaded : Nat) {high : Nat} (hchunk : decoder.chunk = bytes.drop loaded)
    (hvalue : decoder.value.toNat = high * 256) :
    decoder.loadOctet.value.toNat = high * 256 +
        ((bytes.drop loaded).head?.elim 0 UInt8.toNat) ∧
      decoder.loadOctet.chunk = bytes.drop (loaded + 1) ∧
      decoder.loadOctet.range = decoder.range ∧
      decoder.loadOctet.bitCount = decoder.bitCount := by
  cases hrest : bytes.drop loaded with
  | nil =>
      have hpast : bytes.drop (loaded + 1) = [] := by
        rw [← List.tail_drop, hrest]
        rfl
      rw [hrest] at hchunk
      unfold loadOctet
      rw [hchunk, hpast]
      cases decoder.completeChunk <;> simp [hvalue, hchunk]
  | cons byte rest =>
      have hnext : bytes.drop (loaded + 1) = rest := by
        rw [← List.tail_drop, hrest]
        rfl
      rw [hrest] at hchunk
      unfold loadOctet
      rw [hchunk, hnext]
      refine ⟨?_, rfl, rfl, rfl⟩
      have hbyte := byte.toNat_lt
      simp only [UInt32.toNat_or, UInt8.toNat_toUInt32, hvalue,
        List.head?_cons, Option.elim_some]
      rw [Nat.mul_comm, show (256 : Nat) = 2 ^ 8 from rfl,
        Nat.two_pow_add_eq_or_of_lt (by omega)]

theorem tracks_ofChunk (bytes : List UInt8) (completeChunk : Bool) :
    Tracks bytes unitInterval (ofChunk bytes completeChunk) := by
  have htopZero : (BitStream.ofBytes bytes).top (8 * 0) = 0 := by
    have hlt := bytesValue_lt bytes
    rw [pow_256] at hlt
    simpa [BitStream.ofBytes] using hlt
  obtain ⟨hfirst, hchunk, hrange, hcount⟩ := loadOctet_value
    ⟨bytes, 255, 0, 0, true, completeChunk⟩ 0 rfl
    (Nat.zero_mul 256).symm
  have htopOne : (BitStream.ofBytes bytes).top (8 * 1) =
      (BitStream.ofBytes bytes).top (8 * 0) * 256 +
        (bytes.drop 0).head?.elim 0 UInt8.toNat :=
    BitStream.top_ofBytes_succ bytes 0
  rw [htopZero] at htopOne
  rw [← htopOne] at hfirst
  have hbyte : (BitStream.ofBytes bytes).top (8 * 1) < 256 := by
    rw [htopOne]
    cases (bytes.drop 0).head? with
    | none => simp
    | some byte =>
        have := byte.toNat_lt
        simp only [Option.elim_some]
        omega
  have hshifted := shiftLeft_toNat
    (loadOctet ⟨bytes, 255, 0, 0, true, completeChunk⟩).value 8
    (by omega) (by
      rw [hfirst]
      omega)
  rw [hfirst] at hshifted
  obtain ⟨hsecond, hchunk', hrange', hcount'⟩ := loadOctet_value
    { loadOctet ⟨bytes, 255, 0, 0, true, completeChunk⟩ with
      value := (loadOctet ⟨bytes, 255, 0, 0, true, completeChunk⟩).value <<<
        (8 : UInt32) } 1 hchunk hshifted
  refine ⟨congrArg UInt32.toNat (hrange'.trans hrange), 2, 0, hchunk',
    hcount'.trans hcount, by omega, rfl, ?_⟩
  have htopTwo := BitStream.top_ofBytes_succ bytes 1
  simp only [unitInterval, Nat.zero_mul, Nat.add_zero, pow_zero, Nat.mul_one]
  exact hsecond.trans htopTwo.symm

theorem Tracks.le_top_iff {bytes : List UInt8} {interval : Interval}
    {decoder : BoolDecoder} (h : Tracks bytes interval decoder) (cut : Nat) :
    cut ≤ (BitStream.ofBytes bytes).top interval.depth ↔
      cut * 256 ≤ decoder.value.toNat + interval.low * 256 := by
  obtain ⟨loaded, count, -, -, hcount, hdepth, hvalue⟩ := h.window
  have hfull : 8 * loaded = interval.depth + (8 - count) := by omega
  have hpow : 256 = 2 ^ (8 - count) * 2 ^ count := by
    rw [← pow_add, show 8 - count + count = 8 by omega]
    rfl
  rw [hvalue, ← (BitStream.ofBytes bytes).top_add interval.depth (8 - count),
    ← hfull, Nat.le_div_iff_mul_le (Nat.two_pow_pos _)]
  rw [hpow, ← Nat.mul_assoc, Nat.mul_le_mul_right_iff (Nat.two_pow_pos _)]

theorem Tracks.value_lt {bytes : List UInt8} {interval : Interval}
    {decoder : BoolDecoder} (h : Tracks bytes interval decoder)
    (hcontains : interval.Contains (BitStream.ofBytes bytes)) :
    decoder.value.toNat < interval.range * 256 := by
  have hhigh := Nat.not_le_of_lt hcontains.2
  rw [h.le_top_iff] at hhigh
  omega

theorem Tracks.shiftOnce {bytes : List UInt8} {interval : Interval}
    {decoder : BoolDecoder} (h : Tracks bytes interval decoder)
    (hcontains : interval.Contains (BitStream.ofBytes bytes))
    (hrange : interval.range < 128) :
    Tracks bytes (interval.scale 1) decoder.shiftOnce := by
  have hvalueLt := h.value_lt hcontains
  obtain ⟨loaded, count, hchunk, hbitCount, hcount, hdepth, hvalue⟩ := h.window
  have hdouble : (decoder.value <<< (1 : UInt32)).toNat =
      decoder.value.toNat * 2 :=
    shiftLeft_toNat _ 1 (by omega) (by omega)
  have hdoubleRange : (decoder.range <<< (1 : UInt32)).toNat =
      interval.range * 2 := by
    have hr := h.range_eq
    have hs := shiftLeft_toNat decoder.range 1
      (by omega) (by omega)
    rw [hr] at hs
    exact hs
  by_cases hlast : count = 7
  · -- The eighth shift brings in the next byte.
    subst count
    have hwhole : (decoder.value <<< (1 : UInt32)).toNat =
        ((BitStream.ofBytes bytes).top (8 * loaded) - interval.low * 2) *
          256 := by
      rw [hdouble, Nat.sub_mul]
      omega
    obtain ⟨hloaded, hchunk', hrange', hcount'⟩ := loadOctet_value
      { decoder with
        value := decoder.value <<< (1 : UInt32)
        range := decoder.range <<< (1 : UInt32)
        bitCount := 0 } loaded hchunk hwhole
    have hstep : decoder.shiftOnce = loadOctet { decoder with
        value := decoder.value <<< (1 : UInt32)
        range := decoder.range <<< (1 : UInt32)
        bitCount := 0 } := by
      simp [BoolDecoder.shiftOnce, hbitCount]
    rw [hstep]
    refine ⟨by rw [hrange']; exact hdoubleRange, loaded + 1, 0, hchunk',
      hcount', by omega, ?_, ?_⟩
    · simp only [Interval.scale]
      omega
    · rw [hloaded, BitStream.top_ofBytes_succ]
      simp only [Interval.scale]
      omega
  · have hstep : decoder.shiftOnce = { decoder with
        value := decoder.value <<< (1 : UInt32)
        range := decoder.range <<< (1 : UInt32)
        bitCount := decoder.bitCount + 1 } := by
      have hne : ¬ decoder.bitCount + 1 = 8 := by omega
      simp [BoolDecoder.shiftOnce, hne]
    rw [hstep]
    refine ⟨hdoubleRange, loaded, count + 1, hchunk, ?_, by omega, ?_, ?_⟩
    · simp only [hbitCount, Nat.cast_add, Nat.cast_one]
    · simp only [Interval.scale]
      omega
    · have htwice : (BitStream.ofBytes bytes).top (8 * loaded) *
            2 ^ (count + 1) =
          (decoder.value.toNat + interval.low * 256) * 2 := by
        rw [hvalue, pow_succ, Nat.mul_assoc]
      rw [htwice, hdouble]
      simp only [Interval.scale]
      omega

/-- The loop of `get` shifts exactly as often as the table of the encoder. -/
theorem Tracks.renormalize {bytes : List UInt8} {interval : Interval}
    {decoder : BoolDecoder} (h : Tracks bytes interval decoder)
    (hcontains : interval.Contains (BitStream.ofBytes bytes))
    {fuel shift : Nat} (hfuel : shift ≤ fuel)
    (hnormal : Normal (interval.range * 2 ^ shift)) :
    Tracks bytes (interval.scale shift) (renormalize fuel decoder) := by
  induction fuel generalizing interval decoder shift with
  | zero =>
      obtain rfl : shift = 0 := by omega
      simpa [Interval.scale, BoolDecoder.renormalize] using h
  | succ fuel ih =>
      have hlt : decoder.range < 128 ↔ interval.range < 128 := by
        rw [UInt32.lt_iff_toNat_lt, h.range_eq]
        rfl
      by_cases hsmall : interval.range < 128
      · obtain ⟨fewer, rfl⟩ : ∃ fewer, shift = fewer + 1 := by
          cases shift with
          | zero =>
              have := hnormal.1
              simp only [pow_zero, Nat.mul_one] at this
              omega
          | succ fewer => exact ⟨fewer, rfl⟩
        have hscale : (interval.scale 1).scale fewer =
            interval.scale (fewer + 1) := by
          simp only [Interval.scale, pow_succ, pow_zero, Interval.mk.injEq]
          exact ⟨by ring, by ring, by omega⟩
        rw [BoolDecoder.renormalize, if_pos (hlt.mpr hsmall), ← hscale]
        apply ih (h.shiftOnce hcontains hsmall)
          (Interval.contains_scale.mpr hcontains) (by omega)
        rw [show (interval.scale 1).range * 2 ^ fewer =
          interval.range * 2 ^ (fewer + 1) by
            simp only [Interval.scale, pow_succ, pow_zero]
            ring]
        exact hnormal
      · have hzero : shift = 0 := by
          by_contra hne
          have hpow : 2 ^ 1 ≤ 2 ^ shift :=
            Nat.pow_le_pow_right (by omega) (by omega)
          have hmul := Nat.mul_le_mul_left interval.range hpow
          have := hnormal.2
          omega
        subst shift
        rw [BoolDecoder.renormalize, if_neg (mt hlt.mp hsmall)]
        simpa [Interval.scale] using h

/-- One `get` reads what the stream says about the current interval. -/
theorem Tracks.get {bytes : List UInt8} {interval : Interval}
    {decoder : BoolDecoder} (h : Tracks bytes interval decoder)
    (hnormal : Normal interval.range) {probability : Probability} {bit : Bool}
    (hcontains : (interval.advance boolModel probability bit).Contains
      (BitStream.ofBytes bytes)) :
    (decoder.get probability).1 = bit ∧
      Tracks bytes (interval.advance boolModel probability bit)
        (decoder.get probability).2 := by
  have hlt := split_lt hnormal probability
  have hpos := split_pos interval.range probability
  have hhigh := hnormal.2
  have hrange := h.range_eq
  have hsplit := splitOf_toNat (by rwa [hrange]) probability
  rw [hrange] at hsplit
  have hSPLIT : (splitOf decoder.range probability <<< (8 : UInt32)).toNat =
      split interval.range probability * 256 := by
    have hs := shiftLeft_toNat (splitOf decoder.range probability) 8
      (by omega) (by omega)
    rw [hsplit] at hs
    exact hs
  have hread : splitOf decoder.range probability <<< (8 : UInt32) ≤
      decoder.value ↔ bit = true := by
    have hbit := Interval.read_eq hcontains
    rw [UInt32.le_iff_toNat_le, hSPLIT, ← hbit, Interval.read,
      decide_eq_true_iff, h.le_top_iff]
    change _ ↔ (interval.low + split interval.range probability) * 256 ≤ _
    omega
  have hpiece := Interval.contains_scale.mp hcontains
  obtain ⟨loaded, count, hchunk, hbitCount, hcount, hdepth, hvalue⟩ := h.window
  cases bit with
  | false =>
      have hzero : ¬ splitOf decoder.range probability <<< (8 : UInt32) ≤
          decoder.value := by simpa using hread
      have hnarrowed : Tracks bytes (interval.narrow
            (split interval.range probability) false)
          { decoder with range := splitOf decoder.range probability } :=
        ⟨hsplit, loaded, count, hchunk, hbitCount, hcount, hdepth, hvalue⟩
      have hbyte : split interval.range probability < 256 := by omega
      rw [BoolDecoder.get, if_neg hzero]
      exact ⟨rfl, hnarrowed.renormalize hpiece
        (normOf_le hpos hbyte) (normal_normOf hpos hbyte)⟩
  | true =>
      have hone : splitOf decoder.range probability <<< (8 : UInt32) ≤
          decoder.value := hread.mpr rfl
      have hnarrow : (decoder.range - splitOf decoder.range probability).toNat =
          interval.range - split interval.range probability := by
        rw [UInt32.toNat_sub_of_le _ _ (by
          rw [UInt32.le_iff_toNat_le, hsplit, hrange]
          omega), hsplit, hrange]
      have hrest : (decoder.value - splitOf decoder.range probability <<<
            (8 : UInt32)).toNat =
          decoder.value.toNat - split interval.range probability * 256 := by
        rw [UInt32.toNat_sub_of_le _ _ hone, hSPLIT]
      rw [BoolDecoder.get, if_pos hone]
      rw [UInt32.le_iff_toNat_le, hSPLIT] at hone
      have hnarrowed : Tracks bytes (interval.narrow
            (split interval.range probability) true)
          { decoder with
            range := decoder.range - splitOf decoder.range probability
            value := decoder.value -
              splitOf decoder.range probability <<< (8 : UInt32) } := by
        refine ⟨hnarrow, loaded, count, hchunk, hbitCount, hcount, hdepth, ?_⟩
        simp only [hrest, Interval.narrow]
        omega
      have hhighPos : 0 < interval.range - split interval.range probability := by
        omega
      have hbyte : interval.range - split interval.range probability < 256 := by
        omega
      exact ⟨rfl, hnarrowed.renormalize hpiece
        (normOf_le hhighPos hbyte) (normal_normOf hhighPos hbyte)⟩

theorem loadOctet_range (decoder : BoolDecoder) :
    decoder.loadOctet.range = decoder.range := by
  unfold loadOctet
  split
  · rfl
  · split <;> rfl

theorem shiftOnce_range (decoder : BoolDecoder) :
    decoder.shiftOnce.range = decoder.range <<< (1 : UInt32) := by
  by_cases hlast : decoder.bitCount + 1 = 8
  · rw [BoolDecoder.shiftOnce, if_pos hlast, loadOctet_range]
  · rw [BoolDecoder.shiftOnce, if_neg hlast]

/-- The fuel of the loop is enough: it stops because the range is back at 128
or more. -/
theorem renormalize_range {fuel : Nat} {decoder : BoolDecoder}
    (hbyte : decoder.range.toNat < 256)
    (hfuel : 128 ≤ decoder.range.toNat * 2 ^ fuel) :
    Normal (BoolDecoder.renormalize fuel decoder).range.toNat := by
  induction fuel generalizing decoder with
  | zero =>
      rw [pow_zero, Nat.mul_one] at hfuel
      exact ⟨hfuel, hbyte⟩
  | succ fuel ih =>
      rw [BoolDecoder.renormalize]
      split
      · next hsmall =>
          rw [UInt32.lt_iff_toNat_lt] at hsmall
          have hsmall : decoder.range.toNat < 128 := hsmall
          have hdouble : decoder.shiftOnce.range.toNat =
              decoder.range.toNat * 2 := by
            rw [shiftOnce_range]
            exact shiftLeft_toNat _ 1 (by omega) (by omega)
          apply ih (by omega)
          rw [hdouble, Nat.mul_assoc, ← pow_succ']
          exact hfuel
      · next hlarge =>
          rw [UInt32.lt_iff_toNat_lt, Nat.not_lt] at hlarge
          exact ⟨hlarge, hbyte⟩

/-- Every `get` leaves the range where the next one expects it. -/
theorem get_range {decoder : BoolDecoder}
    (hnormal : Normal decoder.range.toNat) (probability : Probability) :
    Normal (decoder.get probability).2.range.toNat := by
  have hsplit := splitOf_toNat hnormal probability
  have hpos := split_pos decoder.range.toNat probability
  have hlt := split_lt hnormal probability
  have hhigh := hnormal.2
  by_cases hone : splitOf decoder.range probability <<< (8 : UInt32) ≤
      decoder.value
  · have hrest : (decoder.range - splitOf decoder.range probability).toNat =
        decoder.range.toNat - split decoder.range.toNat probability := by
      rw [UInt32.toNat_sub_of_le _ _ (by
        rw [UInt32.le_iff_toNat_le, hsplit]
        omega), hsplit]
    rw [BoolDecoder.get, if_pos hone]
    exact renormalize_range (by simp only [hrest]; omega)
      (by simp only [hrest]; omega)
  · rw [BoolDecoder.get, if_neg hone]
    exact renormalize_range (by simp only [hsplit]; omega)
      (by simp only [hsplit]; omega)

/-- The decoder will return these bits if asked for these probabilities. -/
def Delivers (decoder : BoolDecoder) (symbols : List (Probability × Bool)) :
    Prop :=
  ∃ bytes interval, Tracks bytes interval decoder ∧ Normal interval.range ∧
    (interval.advanceAll boolModel symbols).Contains (BitStream.ofBytes bytes)

theorem Delivers.get {decoder : BoolDecoder} {probability : Probability}
    {bit : Bool} {symbols : List (Probability × Bool)}
    (h : decoder.Delivers ((probability, bit) :: symbols)) :
    (decoder.get probability).1 = bit ∧
      (decoder.get probability).2.Delivers symbols := by
  obtain ⟨bytes, interval, htracks, hnormal, hcontains⟩ := h
  have hnext := Interval.normal_advance boolModel hnormal
    probability bit
  obtain ⟨hbit, htracks⟩ := htracks.get hnormal
    (Interval.Contains.of_advanceAll boolModel hnext hcontains)
  exact ⟨hbit, bytes, _, htracks, hnext, hcontains⟩

theorem Delivers.of_append {decoder : BoolDecoder}
    {symbols : List (Probability × Bool)} (rest : List (Probability × Bool))
    (h : decoder.Delivers (symbols ++ rest)) : decoder.Delivers symbols := by
  obtain ⟨bytes, interval, htracks, hnormal, hcontains⟩ := h
  rw [Interval.advanceAll_append] at hcontains
  exact ⟨bytes, interval, htracks, hnormal, Interval.Contains.of_advanceAll
    boolModel (Interval.normal_advanceAll boolModel hnormal symbols)
    hcontains⟩

theorem Delivers.getAll {decoder : BoolDecoder}
    {symbols : List (Probability × Bool)} (h : decoder.Delivers symbols) :
    (decoder.getAll (symbols.map Prod.fst)).1 = symbols.map Prod.snd := by
  induction symbols generalizing decoder with
  | nil => rfl
  | cons symbol symbols ih =>
      obtain ⟨hbit, hrest⟩ := h.get
      simp only [List.map_cons, BoolDecoder.getAll, hbit, ih hrest]

end BoolDecoder

def encode (symbols : List (Probability × Bool)) : Option (List UInt8) := do
  let encoder ← BoolEncoder.putAll {} symbols
  let (bytes, _) ← encoder.finish
  some bytes

theorem encode_delivers (symbols : List (Probability × Bool))
    (completeChunk : Bool) :
    ∃ bytes, encode symbols = some bytes ∧
      (BoolDecoder.ofChunk bytes completeChunk).Delivers symbols := by
  obtain ⟨encoder, hput, hvalid, hinterval⟩ :=
    BoolEncoder.putAll_spec BoolEncoder.valid_fresh symbols
  obtain ⟨flushed, hflush, -, hflushed, hcontains⟩ :=
    BoolEncoder.flush_spec hvalid
  refine ⟨flushed.output, by simp [encode, hput, BoolEncoder.finish, hflush],
    BoolDecoder.Delivers.of_append BoolEncoder.flushSymbols
      ⟨flushed.output, BoolDecoder.unitInterval,
        BoolDecoder.tracks_ofChunk _ _, ⟨by decide, by decide⟩, ?_⟩⟩
  rw [Interval.advanceAll_append]
  rwa [hflushed, hinterval] at hcontains

theorem encode_ne_nil {symbols : List (Probability × Bool)} {bytes : List UInt8}
    (h : encode symbols = some bytes) : bytes ≠ [] := by
  obtain ⟨encoder, hput, hvalid, -⟩ :=
    BoolEncoder.putAll_spec BoolEncoder.valid_fresh symbols
  obtain ⟨flushed, hflush, hflushed, hinterval⟩ :=
    BoolEncoder.putAll_spec hvalid BoolEncoder.flushSymbols
  have hfinish : encoder.finish = some (flushed.output, {}) := by
    rw [BoolEncoder.finish, BoolEncoder.flush, hflush]
    rfl
  have houtput : encode symbols = some flushed.output := by
    simp [encode, hput, hfinish]
  obtain rfl : flushed.output = bytes := Option.some.inj (houtput.symm.trans h)
  obtain ⟨shift, -, hdepth, hshift, -⟩ :=
    BoolEncoder.advanceAll_zeros encoder.interval hvalid.normal 32
  rw [show List.replicate 32 (128, false) = BoolEncoder.flushSymbols from rfl,
    ← hinterval] at hdepth
  obtain ⟨hlow, -, -⟩ := hvalid.width_spec
  obtain ⟨-, hhigh, -⟩ := hflushed.width_spec
  intro hnil
  simp only [BoolEncoder.interval, hnil, List.length_nil] at hdepth
  omega

theorem carryBackwards_length {backwards carried : List UInt8}
    (h : carryBackwards backwards = some carried) :
    carried.length = backwards.length := by
  induction backwards generalizing carried with
  | nil => cases h
  | cons byte earlier ih =>
      rw [carryBackwards] at h
      split at h
      · obtain ⟨rest, hrest, rfl⟩ := Option.map_eq_some_iff.mp h
        exact congrArg Nat.succ (ih hrest)
      · cases h
        rfl

theorem addOneToOutput_length {output carried : List UInt8}
    (h : addOneToOutput output = some carried) :
    carried.length = output.length := by
  obtain ⟨backwards, hbackwards, rfl⟩ := Option.map_eq_some_iff.mp h
  rw [List.length_reverse, carryBackwards_length hbackwards,
    List.length_reverse]

namespace BoolEncoder

theorem emit_length {output : List UInt8} {bottom range shift : UInt32}
    {bitCount : Int} {next : BoolEncoder}
    (h : emit output bottom range shift bitCount = some next) :
    next.output.length = output.length + 1 := by
  obtain ⟨carried, hcarried, rfl⟩ := Option.map_eq_some_iff.mp h
  rw [List.length_append, List.length_singleton]
  split at hcarried
  · rw [addOneToOutput_length hcarried]
  · cases hcarried
    rfl

theorem put_length {encoder next : BoolEncoder} {value : Bool}
    {probability : Probability} (h : encoder.put value probability = some next) :
    next.output.length ≤ encoder.output.length + 1 := by
  obtain ⟨norm, -, h⟩ := Option.bind_eq_some_iff.mp h
  dsimp only at h
  split at h
  · exact Nat.le_of_eq (emit_length h)
  · cases h
    exact Nat.le_succ _

theorem putAll_length {symbols : List (Probability × Bool)}
    {encoder last : BoolEncoder} (h : encoder.putAll symbols = some last) :
    last.output.length ≤ encoder.output.length + symbols.length := by
  induction symbols generalizing encoder with
  | nil =>
      cases h
      exact Nat.le_refl _
  | cons symbol symbols ih =>
      obtain ⟨next, hnext, hrest⟩ := Option.bind_eq_some_iff.mp h
      have hput := put_length hnext
      have hlast := ih hrest
      rw [List.length_cons]
      omega

end BoolEncoder

theorem encode_length {symbols : List (Probability × Bool)} {bytes : List UInt8}
    (h : encode symbols = some bytes) : bytes.length ≤ symbols.length + 32 := by
  obtain ⟨encoder, hput, h⟩ := Option.bind_eq_some_iff.mp h
  obtain ⟨⟨output, fresh⟩, hfinish, h⟩ := Option.bind_eq_some_iff.mp h
  cases h
  obtain ⟨flushed, hflush, hfinish⟩ := Option.bind_eq_some_iff.mp hfinish
  cases hfinish
  have hfirst : encoder.output.length ≤ 0 + symbols.length :=
    BoolEncoder.putAll_length hput
  have hlast : flushed.output.length ≤ encoder.output.length + 32 :=
    BoolEncoder.putAll_length hflush
  omega

/-- Bits put with any probabilities come back from the finished bytes, and no
carry on the way runs off the front of the output. -/
theorem encode_getAll (symbols : List (Probability × Bool)) :
    ∃ bytes, encode symbols = some bytes ∧
      ((BoolDecoder.ofChunk bytes).getAll (symbols.map Prod.fst)).1 =
        symbols.map Prod.snd := by
  obtain ⟨bytes, hencode, hdelivers⟩ := encode_delivers symbols true
  exact ⟨bytes, hencode, hdelivers.getAll⟩

end Salsify.Coder
