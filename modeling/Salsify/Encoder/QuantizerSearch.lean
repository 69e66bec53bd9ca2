import Salsify.Codec.DecoderState
import Salsify.Lib.Bisection

namespace Salsify.Encoder

open Salsify.Codec
open Salsify.Bisection (Window search)

/-! The searches for a quantizer of `encoder/encoder.cc`: for a size, by an
estimate, and for a quality, by encoding. -/

def lowestIndex (lastYAcQi : Option UInt8) : Int :=
  match lastYAcQi with
  | none => 4
  | some last => if 4 ≤ (last.toNat : Int) - 16 then last.toNat - 16 else 4

def highestIndex (lastYAcQi : Option UInt8) : Int :=
  match lastYAcQi with
  | none => 127
  | some last => min 127 (last.toNat + 16)

/-- `numeric_limits<uint8_t>::max()`, where no index has been picked. -/
def noIndex : UInt8 := 255

/-- The loop of `encode_with_target_size`, with what it may still do. -/
def targetSizeLoop (estimate : Nat → Nat) (targetSize : Nat) :
    Nat → Int → Int → UInt8 → Option UInt8
  | 0, _, _, _ => none
  | fuel + 1, yQiMin, yQiMax, bestYQi =>
      if yQiMin ≤ yQiMax then
        let yQi := ((yQiMin + yQiMax) / 2).toNat
        if estimate yQi ≤ targetSize ∨ yQiMin = yQiMax ∧ bestYQi = noIndex then
          targetSizeLoop estimate targetSize fuel yQiMin (yQi - 1)
            (UInt8.ofNat yQi)
        else
          targetSizeLoop estimate targetSize fuel (yQi + 1) yQiMax bestYQi
      else
        some bestYQi

def targetSizeIndex (estimate : Nat → Nat) (targetSize : Nat)
    (lastYAcQi : Option UInt8) (fuel : Nat) : Option UInt8 :=
  targetSizeLoop estimate targetSize fuel (lowestIndex lastYAcQi)
    (highestIndex lastYAcQi) noIndex

def bestByte (best : Option Int) : UInt8 :=
  best.elim noIndex fun index => UInt8.ofNat index.toNat

theorem bestByte_eq_noIndex {best : Option Int}
    (h : ∀ index ∈ best, 0 ≤ index ∧ index ≤ 127) :
    bestByte best = noIndex ↔ best = none := by
  cases best with
  | none => exact ⟨fun _ => rfl, fun _ => rfl⟩
  | some index =>
      have hindex := h index rfl
      refine ⟨fun hbyte => ?_, fun hnone => nomatch hnone⟩
      have hnat := congrArg UInt8.toNat hbyte
      rw [bestByte, Option.elim_some, UInt8.toNat_ofNat'] at hnat
      change _ = 255 at hnat
      omega

theorem targetSizeLoop_empty (estimate : Nat → Nat) (targetSize fuel : Nat)
    {yQiMin yQiMax : Int} (h : yQiMax < yQiMin) (bestYQi : UInt8) :
    targetSizeLoop estimate targetSize (fuel + 1) yQiMin yQiMax bestYQi =
      some bestYQi := by
  rw [targetSizeLoop, if_neg (Int.not_le.mpr h)]

theorem targetSizeLoop_eq (estimate : Nat → Nat) (targetSize fuel : Nat)
    {window : Window} (h : Bisection.Inside 0 127 window) :
    targetSizeLoop estimate targetSize fuel window.low window.high
        (bestByte window.best) =
      (search (fun index => decide (estimate index.toNat ≤ targetSize)) false
        fuel window).map fun last => bestByte last.best := by
  induction fuel generalizing window with
  | zero => rfl
  | succ fuel ih =>
      rw [search]
      split
      · next hempty =>
          exact targetSizeLoop_empty estimate targetSize fuel hempty _
      · next hleft =>
          rw [Int.not_lt] at hleft
          have hmiddle := Window.middle_mem hleft
          have hlow := h.low
          have hturned := ih (h.turn (fun index =>
            decide (estimate index.toNat ≤ targetSize)) false hleft)
          have hyQi : ((window.middle.toNat : Nat) : Int) = window.middle := by
            omega
          have hmid : (window.low + window.high) / 2 = window.middle := rfl
          rw [targetSizeLoop, if_pos hleft]
          simp only [hmid, hyQi]
          cases hgood : decide (estimate window.middle.toNat ≤ targetSize) with
          | true =>
              rw [if_pos (.inl (of_decide_eq_true hgood)), ← hturned,
                Bisection.turn_other hgood, Bisection.remember_good hgood]
              rfl
          | false =>
              have hbad := of_decide_eq_false hgood
              rcases Classical.em (window.low = window.high ∧
                window.best = none) with ⟨hone, hnone⟩ | hother
              · -- the only index left is taken, and both searches end
                rw [if_pos (.inr ⟨hone, (bestByte_eq_noIndex h.best).mpr
                  hnone⟩), ← hturned, Bisection.turn_same hgood,
                  Bisection.remember_only hone hnone]
                cases fuel with
                | zero => rfl
                | succ fuel =>
                    rw [targetSizeLoop_empty _ _ _ (by omega),
                      targetSizeLoop_empty _ _ _ (by dsimp only; omega)]
                    rfl
              · rw [if_neg, ← hturned, Bisection.turn_same hgood,
                  Bisection.remember_bad hgood]
                · rcases Classical.em (window.best = none) with hnone | hsome
                  · have hne : window.low ≠ window.high := fun hone =>
                      hother ⟨hone, hnone⟩
                    omega
                  · exact .inr hsome
                · rintro (hfits | ⟨hone, hbyte⟩)
                  · exact hbad hfits
                  · exact hother ⟨hone,
                      (bestByte_eq_noIndex h.best).mp hbyte⟩

/-- The index is in the range, is not the sentinel, and if greater indices have
no greater estimates, is the least one that fits, or the last one. -/
structure Picked (estimate : Nat → Nat) (targetSize : Nat) (first last : Int)
    (index : UInt8) : Prop where
  range : first ≤ index.toNat ∧ (index.toNat : Int) ≤ last
  ne_sentinel : index ≠ noIndex
  least : (∀ i j : Nat, first ≤ i → i ≤ j → (j : Int) ≤ last →
      estimate j ≤ estimate i) →
    (∀ i : Nat, first ≤ i → i < index.toNat → targetSize < estimate i) ∧
      (estimate index.toNat ≤ targetSize ∨ (index.toNat : Int) = last)

theorem searchRange (lastYAcQi : Option UInt8)
    (h : ∀ last ∈ lastYAcQi, last < 128) :
    4 ≤ lowestIndex lastYAcQi ∧
      lowestIndex lastYAcQi ≤ highestIndex lastYAcQi ∧
      highestIndex lastYAcQi ≤ 127 := by
  cases lastYAcQi with
  | none => decide
  | some last =>
      have hlast : last.toNat < 128 := UInt8.lt_iff_toNat_lt.mp (h last rfl)
      unfold lowestIndex highestIndex
      dsimp only
      split <;> omega

theorem toNat_bestByte {index : Int} (hlow : 0 ≤ index) (hhigh : index ≤ 127) :
    ((bestByte (some index)).toNat : Int) = index := by
  rw [bestByte, Option.elim_some, UInt8.toNat_ofNat']
  omega

theorem targetSizeIndex_picked (estimate : Nat → Nat) (targetSize : Nat)
    (lastYAcQi : Option UInt8) (h : ∀ last ∈ lastYAcQi, last < 128) :
    ∃ index, (∀ fuel, 125 ≤ fuel →
        targetSizeIndex estimate targetSize lastYAcQi fuel = some index) ∧
      Picked estimate targetSize (lowestIndex lastYAcQi)
        (highestIndex lastYAcQi) index := by
  obtain ⟨hfirst, hrange, hlast⟩ := searchRange lastYAcQi h
  have hfuel : (highestIndex lastYAcQi - lowestIndex lastYAcQi + 1).toNat <
      125 := by
    omega
  obtain ⟨window, index, hsearch, hbest, hlow, hhigh⟩ :=
    Bisection.search_inside (fun index =>
      decide (estimate index.toNat ≤ targetSize)) hrange hfuel
  have hbyte := @toNat_bestByte index (by omega) (by omega)
  have hindex : (bestByte (some index)).toNat = index.toNat := by omega
  refine ⟨bestByte (some index), fun fuel hmore => ?_, ?_, ?_, ?_⟩
  · have heq := @targetSizeLoop_eq estimate targetSize fuel
      ⟨lowestIndex lastYAcQi, highestIndex lastYAcQi, none⟩
      ⟨by dsimp only; omega, hlast, fun _ hindex => nomatch hindex⟩
    rw [Bisection.search_more hmore hsearch, Option.map_some, hbest] at heq
    exact heq
  · rw [hbyte]
    exact ⟨hlow, hhigh⟩
  · intro hsentinel
    rw [bestByte_eq_noIndex] at hsentinel
    · cases hsentinel
    · intro other hother
      cases hother
      omega
  · intro hmono
    obtain ⟨other, least, hother, hfound, hbelow, hgood⟩ :=
      Bisection.search_least (fun index =>
        decide (estimate index.toNat ≤ targetSize)) hrange (by
          intro i j hi hij hj hfits
          have hle := hmono i.toNat j.toNat (by omega) (by omega) (by omega)
          rw [decide_eq_true_iff] at hfits ⊢
          exact hle.trans hfits) hfuel
    rw [hsearch] at hother
    cases hother
    rw [hbest] at hfound
    cases hfound
    rw [hindex]
    refine ⟨fun i hi hlt => ?_, ?_⟩
    · have hbad := of_decide_eq_false (hbelow i hi (by omega))
      exact Nat.not_le.mp hbad
    · rcases hgood with hgood | hgood
      · exact .inl (of_decide_eq_true hgood)
      · exact .inr (by omega)

theorem targetSizeIndex_picked_after :
    ∃ index, (∀ fuel, 125 ≤ fuel →
        targetSizeIndex (fun yQi => 1000 / (yQi + 1)) 100 (some 20) fuel =
          some index) ∧
      Picked (fun yQi => 1000 / (yQi + 1)) 100 4 36 index :=
  targetSizeIndex_picked _ 100 (some 20) fun last hlast => by
    cases hlast
    decide

inductive FrameKind
  | key
  | inter

/-- What an encode makes of the pixels, and what it compares them by. `π` is all
that it leaves behind for the next one: the frame objects, the spare raster and
the costs. -/
structure Coding (width height : Nat) (ρ R φ π Q : Type) where
  codeMacroblocks : FrameKind → DecoderState width height → ρ → R → UInt8 →
    π → (φ × R) × π
  loopfilter : φ → Nat → Option (Segmentation width height) →
    Option FilterAdjustments → R → R
  quality : R → R → Q
  /-- The value -1.0, which is less than any quality. -/
  lowest : Q

structure EncoderState (width height : Nat) (ρ π Q : Type) where
  decoderState : DecoderState width height
  references : ρ
  loopFilterLevel : Option Nat
  ssim : Option Q := none
  pool : π

structure EncodedFrame (φ : Type) where
  yAcQi : UInt8
  loopFilterLevel : Nat
  coded : φ

def noAdjustments : FilterAdjustments :=
  FilterAdjustments.update {} (some ⟨fun _ => some 0, fun _ => some 0⟩)

section Quality

variable {width height : Nat} {ρ R φ π Q : Type} [LinearOrder Q] [Zero Q]
variable (coding : Coding width height ρ R φ π Q)

/-- The levels from the first one that improve the quality. -/
def bestLevel (rate : Nat → Q) : List Nat → Nat × Q → Nat × Q
  | [], best => best
  | level :: rest, best =>
      if best.2 < rate level then bestLevel rate rest (level, rate level)
      else best

def levels (loopFilterLevel : Option Nat) : List Nat :=
  let minLevel := loopFilterLevel.elim 0 (· - 1)
  let maxLevel := loopFilterLevel.elim 63 fun level => min 63 (level + 1)
  (List.range (maxLevel + 1 - minLevel)).map (minLevel + ·)

def applyBestLoopfilterSettings (encoder : EncoderState width height ρ π Q)
    (original : R) (yAcQi : UInt8) (coded : φ) (reconstructed : R) :
    (EncodedFrame φ × R) × EncoderState width height ρ π Q :=
  let filtered (level : Nat) : R := coding.loopfilter coded level
    encoder.decoderState.segmentation (some noAdjustments) reconstructed
  let best := bestLevel (fun level => coding.quality (filtered level) original)
    (levels encoder.loopFilterLevel) (0, coding.lowest)
  ((⟨yAcQi, best.1, coded⟩, filtered best.1),
    { encoder with
      decoderState := { encoder.decoderState with
        filterAdjustments := some noAdjustments }
      ssim := some best.2 })

def startingState (kind : FrameKind) (decoderState : DecoderState width height) :
    DecoderState width height :=
  match kind with
  | .key => {}
  | .inter => decoderState

def encodeRaster (kind : FrameKind) (encoder : EncoderState width height ρ π Q)
    (raster : R) (yAcQi : UInt8) (updateState computeSsim : Bool) :
    (EncodedFrame φ × Q) × EncoderState width height ρ π Q :=
  let decoderState := startingState kind encoder.decoderState
  let coded := coding.codeMacroblocks kind decoderState encoder.references
    raster yAcQi encoder.pool
  let filtered := applyBestLoopfilterSettings coding
    { encoder with decoderState, pool := coded.2 } raster yAcQi coded.1.1
    coded.1.2
  let restored := if updateState then filtered.2
    else { filtered.2 with decoderState := encoder.decoderState }
  ((filtered.1.1, if computeSsim then coding.quality filtered.1.2 raster else 0),
    restored)

structure Trial (width height : Nat) (ρ : Type) where
  yAcQi : UInt8
  decoderState : DecoderState width height
  references : ρ

structure QualitySearch (width height : Nat) (ρ π Q : Type) where
  yAcQiMin : Int := 0
  yAcQiMax : Int := 127
  found : Bool := false
  bestYAcQi : Nat := 0
  encoder : EncoderState width height ρ π Q
  trials : List (Trial width height ρ) := []

/-- The search leaves `compute_ssim` at its default, which is false, and passes
true for `update_state`. -/
def searchTurn (kind : FrameKind) (raster : R) (minimumSsim : Q)
    (search : QualitySearch width height ρ π Q) :
    QualitySearch width height ρ π Q :=
  let yAcQi := UInt8.ofNat ((search.yAcQiMin + search.yAcQiMax) / 2).toNat
  let encoded := encodeRaster coding kind search.encoder raster yAcQi true false
  let currentSsim := encoded.1.2
  let answer : Bool := minimumSsim ≤ currentSsim ∨
    search.yAcQiMin = search.yAcQiMax ∧ search.found = false
  let bounds : Int × Int :=
    if search.yAcQiMin = search.yAcQiMax then
      (search.yAcQiMin, search.yAcQiMax)
    else if currentSsim < minimumSsim then
      (search.yAcQiMin, yAcQi.toNat - 1)
    else
      (yAcQi.toNat + 1, search.yAcQiMax)
  { yAcQiMin := bounds.1
    yAcQiMax := bounds.2
    found := search.found || answer
    bestYAcQi := if answer then yAcQi.toNat else search.bestYAcQi
    encoder := encoded.2
    trials := search.trials ++ [⟨yAcQi, search.encoder.decoderState,
      search.encoder.references⟩] }

def searchLoop (kind : FrameKind) (raster : R) (minimumSsim : Q) :
    Nat → QualitySearch width height ρ π Q →
      Option (QualitySearch width height ρ π Q)
  | 0, _ => none
  | fuel + 1, search =>
      if search.yAcQiMin ≤ search.yAcQiMax then
        let next := searchTurn coding kind raster minimumSsim search
        if search.yAcQiMin = search.yAcQiMax then some next
        else searchLoop kind raster minimumSsim fuel next
      else
        some search

structure QualityResult (width height : Nat) (ρ φ π Q : Type) where
  frame : EncodedFrame φ
  encoder : EncoderState width height ρ π Q
  trials : List (Trial width height ρ)

def encodeBest (kind : FrameKind) (raster : R)
    (search : QualitySearch width height ρ π Q) :
    QualityResult width height ρ φ π Q :=
  let encoded := encodeRaster coding kind search.encoder raster
    (UInt8.ofNat search.bestYAcQi) false false
  ⟨encoded.1.1, encoded.2, search.trials⟩

def encodeWithQuantizerSearch (kind : FrameKind)
    (encoder : EncoderState width height ρ π Q) (raster : R) (minimumSsim : Q)
    (fuel : Nat) : Option (QualityResult width height ρ φ π Q) :=
  (searchLoop coding kind raster minimumSsim fuel { encoder }).map
    (encodeBest coding kind raster)

def trialState (kind : FrameKind) (decoderState : DecoderState width height) :
    DecoderState width height :=
  { startingState kind decoderState with
    filterAdjustments := some noAdjustments }

theorem trialState_again (kind : FrameKind)
    (decoderState : DecoderState width height) :
    trialState kind (trialState kind decoderState) =
      trialState kind decoderState := by
  cases kind <;> rfl

variable {coding}

/-- Every trial starts from the state before the search, or from what a trial
leaves of it. -/
structure Swept (kind : FrameKind) (before : EncoderState width height ρ π Q)
    (search : QualitySearch width height ρ π Q) : Prop where
  references : search.encoder.references = before.references
  decoderState : search.encoder.decoderState =
    if search.trials = [] then before.decoderState
    else trialState kind before.decoderState
  trials : ∀ trial ∈ search.trials, trial.references = before.references ∧
    (trial.decoderState = before.decoderState ∨
      trial.decoderState = trialState kind before.decoderState)

omit [LinearOrder Q] [Zero Q] in
theorem swept_start (kind : FrameKind)
    (before : EncoderState width height ρ π Q) :
    Swept kind before { encoder := before } :=
  ⟨rfl, rfl, fun _ htrial => absurd htrial List.not_mem_nil⟩

theorem Swept.turn {kind : FrameKind}
    {before : EncoderState width height ρ π Q}
    {search : QualitySearch width height ρ π Q} (h : Swept kind before search)
    (raster : R) (minimumSsim : Q) :
    Swept kind before (searchTurn coding kind raster minimumSsim search) := by
  refine ⟨h.references, ?_, ?_⟩
  · have hnext : (searchTurn coding kind raster minimumSsim
        search).trials ≠ [] := List.concat_ne_nil _ _
    rw [if_neg hnext]
    change trialState kind search.encoder.decoderState = _
    rw [h.decoderState]
    split
    · rfl
    · exact trialState_again kind before.decoderState
  · intro trial htrial
    rcases List.mem_append.mp htrial with htrial | htrial
    · exact h.trials trial htrial
    · rw [List.mem_singleton.mp htrial]
      refine ⟨h.references, ?_⟩
      dsimp only
      rw [h.decoderState]
      split
      · exact .inl rfl
      · exact .inr rfl

/-- The bounds and the best index as a bisection has them. -/
def QualitySearch.window (search : QualitySearch width height ρ π Q) : Window where
  low := search.yAcQiMin
  high := search.yAcQiMax
  best := if search.found then some search.bestYAcQi else none

/-- No trial has a quality, so all have the verdict that zero has. -/
def verdict (minimumSsim : Q) : Int → Bool :=
  fun _ => decide (minimumSsim ≤ 0)

omit [LinearOrder Q] [Zero Q] in
theorem searchTurn_middle {search : QualitySearch width height ρ π Q}
    (h : Bisection.Inside 0 127 search.window)
    (hleft : search.yAcQiMin ≤ search.yAcQiMax) :
    ((UInt8.ofNat ((search.yAcQiMin + search.yAcQiMax) / 2).toNat).toNat :
      Int) = search.window.middle := by
  have hmiddle := @Window.middle_mem search.window hleft
  have hlow := h.low
  have hhigh := h.high
  have hmid : (search.yAcQiMin + search.yAcQiMax) / 2 =
      search.window.middle := rfl
  rw [hmid, UInt8.toNat_ofNat']
  omega

variable (coding) in
theorem searchTurn_best (kind : FrameKind) (raster : R) (minimumSsim : Q)
    {search : QualitySearch width height ρ π Q}
    (h : Bisection.Inside 0 127 search.window)
    (hleft : search.yAcQiMin ≤ search.yAcQiMax) :
    (searchTurn coding kind raster minimumSsim search).window.best =
      Bisection.remember (verdict minimumSsim) search.window := by
  have hmiddle := searchTurn_middle h hleft
  have hanswer : decide (minimumSsim ≤ 0 ∨
      search.yAcQiMin = search.yAcQiMax ∧ search.found = false) =
      (verdict minimumSsim search.window.middle ||
        (search.window.low == search.window.high &&
          search.window.best.isNone)) := by
    rw [Bool.decide_or, Bool.decide_and]
    congr 2
    unfold QualitySearch.window
    cases search.found <;> rfl
  unfold Bisection.remember
  rw [← hanswer, ← hmiddle]
  change (if (search.found || decide (minimumSsim ≤ 0 ∨
    search.yAcQiMin = search.yAcQiMax ∧ search.found = false)) = true then
      some (((if decide (minimumSsim ≤ 0 ∨ search.yAcQiMin = search.yAcQiMax ∧
        search.found = false) = true then _ else search.bestYAcQi : Nat) : Int))
    else none) = _
  cases decide (minimumSsim ≤ 0 ∨
    search.yAcQiMin = search.yAcQiMax ∧ search.found = false) with
  | true =>
      rw [Bool.or_true]
      rfl
  | false =>
      rw [Bool.or_false]
      rfl

variable (coding) in
/-- The bounds move as those of the bisection for the greatest index of this
verdict. -/
theorem searchTurn_window (kind : FrameKind) (raster : R) (minimumSsim : Q)
    {search : QualitySearch width height ρ π Q}
    (h : Bisection.Inside 0 127 search.window)
    (hlt : search.yAcQiMin < search.yAcQiMax) :
    (searchTurn coding kind raster minimumSsim search).window =
      Bisection.turn (verdict minimumSsim) true search.window := by
  have hbest := searchTurn_best coding kind raster minimumSsim h hlt.le
  have hmiddle := searchTurn_middle h hlt.le
  have hbounds : (searchTurn coding kind raster minimumSsim search).window =
      if (0 : Q) < minimumSsim then
        ⟨search.yAcQiMin, search.window.middle - 1, (searchTurn coding kind
          raster minimumSsim search).window.best⟩
      else ⟨search.window.middle + 1, search.yAcQiMax, (searchTurn coding kind
        raster minimumSsim search).window.best⟩ := by
    rw [← hmiddle]
    change Window.mk (if search.yAcQiMin = search.yAcQiMax then _
      else if (0 : Q) < minimumSsim then _ else _ : Int × Int).1
        (if search.yAcQiMin = search.yAcQiMax then _
      else if (0 : Q) < minimumSsim then _ else _ : Int × Int).2 _ = _
    rw [if_neg hlt.ne]
    split <;> rfl
  rw [hbounds, hbest]
  split
  · next hpositive =>
      rw [Bisection.turn_other (decide_eq_false (not_le.mpr hpositive))]
      rfl
  · next hnot =>
      rw [Bisection.turn_same (decide_eq_true (not_lt.mp hnot))]
      rfl

def QualitySearch.Clean (search : QualitySearch width height ρ π Q) : Prop :=
  search.found = false → search.bestYAcQi = 0

omit [LinearOrder Q] [Zero Q] in
theorem QualitySearch.Clean.best {search : QualitySearch width height ρ π Q}
    (h : search.Clean) :
    (search.bestYAcQi : Int) = search.window.best.getD 0 := by
  unfold window
  cases hfound : search.found with
  | true => rfl
  | false =>
      rw [h hfound]
      rfl

theorem searchTurn_clean (kind : FrameKind) (raster : R) (minimumSsim : Q)
    {search : QualitySearch width height ρ π Q} (h : search.Clean) :
    (searchTurn coding kind raster minimumSsim search).Clean := by
  intro hfound
  obtain ⟨hbefore, hanswer⟩ := Bool.or_eq_false_iff.mp hfound
  change (if _ = true then _ else search.bestYAcQi) = 0
  rw [if_neg, h hbefore]
  exact Bool.eq_false_iff.mp hanswer

structure Ended (kind : FrameKind) (before : EncoderState width height ρ π Q)
    (last : Window) (search : QualitySearch width height ρ π Q) : Prop where
  swept : Swept kind before search
  best : (search.bestYAcQi : Int) = last.best.getD 0

theorem searchLoop_spec (kind : FrameKind) (raster : R) (minimumSsim : Q)
    {before : EncoderState width height ρ π Q} {fuel : Nat}
    {search : QualitySearch width height ρ π Q} {last : Window}
    (hinside : Bisection.Inside 0 127 search.window)
    (hswept : Swept kind before search) (hclean : search.Clean)
    (h : Bisection.search (verdict minimumSsim) true fuel search.window =
      some last) :
    ∃ final, searchLoop coding kind raster minimumSsim fuel search =
        some final ∧
      Ended kind before last final ∧
      (search.trials ≠ [] ∨ search.yAcQiMin ≤ search.yAcQiMax →
        final.trials ≠ []) := by
  induction fuel generalizing search with
  | zero => cases h
  | succ fuel ih =>
      rw [Bisection.search] at h
      rw [searchLoop]
      split at h
      · next hempty =>
          cases h
          have hempty : ¬ search.yAcQiMin ≤ search.yAcQiMax :=
            Int.not_le.mpr hempty
          rw [if_neg hempty]
          exact ⟨search, rfl, ⟨hswept, hclean.best⟩, fun htrials =>
            htrials.resolve_right hempty⟩
      · next hleft =>
          have hleft : search.yAcQiMin ≤ search.yAcQiMax :=
            Int.not_lt.mp hleft
          have hnextSwept : Swept kind before
              (searchTurn coding kind raster minimumSsim search) :=
            hswept.turn raster minimumSsim
          have hnextClean : (searchTurn coding kind raster minimumSsim
              search).Clean :=
            searchTurn_clean kind raster minimumSsim hclean
          have htrials : (searchTurn coding kind raster minimumSsim
              search).trials ≠ [] := List.concat_ne_nil _ _
          rw [if_pos hleft]
          dsimp only
          split
          · next hone =>
              have hbest := searchTurn_best coding kind raster minimumSsim
                hinside hleft
              refine ⟨_, rfl, ⟨hnextSwept, ?_⟩, fun _ => htrials⟩
              rw [hnextClean.best, hbest, Bisection.search_only hone h]
          · next hmany =>
              have hwindow := searchTurn_window coding kind raster minimumSsim
                hinside (by omega)
              rw [← hwindow] at h
              have hnextInside : Bisection.Inside 0 127 (searchTurn coding kind
                  raster minimumSsim search).window := by
                rw [hwindow]
                exact hinside.turn _ true hleft
              obtain ⟨final, hfinal, hended, hmore⟩ :=
                ih hnextInside hnextSwept hnextClean h
              exact ⟨final, hfinal, hended, fun _ => hmore (.inl htrials)⟩

theorem searchLoop_more (kind : FrameKind) (raster : R) (minimumSsim : Q)
    {fuel more : Nat} (hmore : fuel ≤ more)
    {search final : QualitySearch width height ρ π Q}
    (h : searchLoop coding kind raster minimumSsim fuel search = some final) :
    searchLoop coding kind raster minimumSsim more search = some final := by
  induction fuel generalizing more search with
  | zero => cases h
  | succ fuel ih =>
      obtain ⟨more, rfl⟩ := Nat.exists_eq_add_of_le' hmore
      rw [← Nat.add_assoc, searchLoop] at *
      split
      · next hleft =>
          rw [if_pos hleft] at h
          dsimp only at h ⊢
          split
          · next hone => rwa [if_pos hone] at h
          · next hmany =>
              rw [if_neg hmany] at h
              exact ih (Nat.le_add_left fuel more) h
      · next hempty => rwa [if_neg hempty] at h

def qualityAt (coding : Coding width height ρ R φ π Q) (kind : FrameKind)
    (encoder : EncoderState width height ρ π Q) (raster : R) (yAcQi : Nat) : Q :=
  (encodeRaster coding kind encoder raster (UInt8.ofNat yAcQi) false true).1.2

structure Chosen (quality : Nat → Q) (minimumSsim : Q) (yAcQi : Nat) :
    Prop where
  le : yAcQi ≤ 127
  enough : minimumSsim ≤ quality yAcQi ∨ yAcQi = 0
  greatest : ∀ greater, yAcQi < greater → greater ≤ 127 →
    quality greater < minimumSsim

/-- The index is the one to choose, every trial starts from the state and the
references before the search, and no trial is applied to them. -/
structure Searched (quality : Nat → Q) (minimumSsim : Q)
    (before : EncoderState width height ρ π Q)
    (result : QualityResult width height ρ φ π Q) : Prop where
  chosen : Chosen quality minimumSsim result.frame.yAcQi.toNat
  trials : ∀ trial ∈ result.trials,
    trial.decoderState = before.decoderState ∧
      trial.references = before.references
  applied : result.encoder.decoderState = before.decoderState ∧
    result.encoder.references = before.references

/-- The index that the verdict of zero leads to is the one to choose. -/
def ZeroDecides (quality : Nat → Q) (minimumSsim : Q) : Prop :=
  if minimumSsim ≤ 0 then minimumSsim ≤ quality 127
  else quality 1 < minimumSsim

theorem chosen_iff {quality : Nat → Q} {minimumSsim : Q}
    (hmono : ∀ i j, i ≤ j → j ≤ 127 → quality j ≤ quality i) :
    Chosen quality minimumSsim (if minimumSsim ≤ 0 then 127 else 0) ↔
      ZeroDecides quality minimumSsim := by
  unfold ZeroDecides
  split
  · constructor
    · intro h
      exact h.enough.resolve_right (by decide)
    · intro henough
      exact ⟨le_rfl, .inl henough, fun greater hgreater hle =>
        absurd hle (Nat.not_le.mpr hgreater)⟩
  · constructor
    · intro h
      exact h.greatest 1 Nat.zero_lt_one (by decide)
    · intro hone
      exact ⟨Nat.zero_le _, .inr rfl, fun greater hgreater hle =>
        (hmono 1 greater hgreater hle).trans_lt hone⟩

/-- Where greater indices have no greater quality, the search is right exactly
when its verdict of zero happens to lead to the index to choose, and the decoder
state is already as a trial leaves it. -/
theorem quantizerSearch_iff (coding : Coding width height ρ R φ π Q)
    (kind : FrameKind) (encoder : EncoderState width height ρ π Q) (raster : R)
    (minimumSsim : Q)
    (hmono : ∀ i j, i ≤ j → j ≤ 127 →
      qualityAt coding kind encoder raster j ≤
        qualityAt coding kind encoder raster i) :
    ∃ result, (∀ fuel, 129 ≤ fuel →
        encodeWithQuantizerSearch coding kind encoder raster minimumSsim fuel =
          some result) ∧
      (Searched (qualityAt coding kind encoder raster) minimumSsim encoder
          result ↔
        ZeroDecides (qualityAt coding kind encoder raster) minimumSsim ∧
          trialState kind encoder.decoderState = encoder.decoderState) := by
  obtain ⟨window, index, hsearch, hbest, -, hhigh, hgreatest, hgood⟩ :=
    Bisection.search_greatest (verdict minimumSsim) (by decide : (0 : Int) ≤ 127)
      (fun _ _ _ _ _ h => h) (by decide : (127 - 0 + 1 : Int).toNat < 129)
  obtain ⟨final, hfinal, hended, htrials⟩ :=
    @searchLoop_spec _ _ _ _ _ _ _ _ _ coding kind raster minimumSsim encoder _
      { encoder } _ Bisection.inside_start (swept_start kind encoder)
      (fun _ => rfl) hsearch
  have hindex : final.bestYAcQi = if minimumSsim ≤ 0 then 127 else 0 := by
    have hfinalBest := hended.best
    rw [hbest] at hfinalBest
    split
    · next hzero =>
        have hge : 127 ≤ index := by
          by_contra hlt
          have hverdict := hgreatest 127 (Int.not_le.mp hlt) le_rfl
          exact absurd hzero (of_decide_eq_false hverdict)
        omega
    · next hzero =>
        have hnot : verdict minimumSsim index = false := decide_eq_false hzero
        rw [hnot] at hgood
        have hfirst := hgood.resolve_left Bool.false_ne_true
        omega
  have hbyte : (UInt8.ofNat final.bestYAcQi).toNat =
      if minimumSsim ≤ 0 then 127 else 0 := by
    rw [← hindex, UInt8.toNat_ofNat', Nat.mod_eq_of_lt]
    rw [hindex]
    split <;> decide
  have hstate : final.encoder.decoderState =
      trialState kind encoder.decoderState := by
    rw [hended.swept.decoderState, if_neg (htrials (.inr
      (by decide : (0 : Int) ≤ 127)))]
  refine ⟨encodeBest coding kind raster final, fun fuel hfuel => ?_, ?_, ?_⟩
  · rw [encodeWithQuantizerSearch, searchLoop_more kind raster minimumSsim hfuel
      hfinal, Option.map_some]
  · intro h
    have hchosen := h.chosen
    change Chosen _ _ (UInt8.ofNat final.bestYAcQi).toNat at hchosen
    rw [hbyte, chosen_iff hmono] at hchosen
    exact ⟨hchosen, hstate.symm.trans h.applied.1⟩
  · rintro ⟨hzero, hsame⟩
    refine ⟨?_, fun trial htrial => ?_, hstate.trans hsame,
      hended.swept.references⟩
    · change Chosen _ _ (UInt8.ofNat final.bestYAcQi).toNat
      rw [hbyte]
      exact (chosen_iff hmono).mpr hzero
    · obtain ⟨hreferences, hstart⟩ := hended.swept.trials trial htrial
      rw [hsame] at hstart
      exact ⟨hstart.elim id id, hreferences⟩

end Quality

/-- A reconstruction is its quality, and nothing else is looked at. -/
def plainCoding : Coding 16 16 Unit Int Unit Unit Int where
  codeMacroblocks := fun _ _ _ _ yAcQi _ => (((), 127 - yAcQi.toNat), ())
  loopfilter := fun _ _ _ _ reconstructed => reconstructed
  quality := fun reconstructed _ => reconstructed
  lowest := -1

def plainEncoder : EncoderState 16 16 Unit Unit Int where
  decoderState := { filterAdjustments := some noAdjustments }
  references := ()
  loopFilterLevel := none
  pool := ()

theorem qualityAt_plain {yAcQi : Nat} (h : yAcQi ≤ 127) :
    qualityAt plainCoding .inter plainEncoder 0 yAcQi = 127 - yAcQi := by
  change (127 : Int) - (UInt8.ofNat yAcQi).toNat = _
  rw [UInt8.toNat_ofNat', Nat.mod_eq_of_lt (by omega)]

theorem quantizerSearch_plain :
    ∃ result, (∀ fuel, 129 ≤ fuel →
        encodeWithQuantizerSearch plainCoding .inter plainEncoder 0 127 fuel =
          some result) ∧
      (Searched (qualityAt plainCoding .inter plainEncoder 0) 127 plainEncoder
          result ↔
        ZeroDecides (qualityAt plainCoding .inter plainEncoder 0) 127 ∧
          trialState .inter plainEncoder.decoderState =
            plainEncoder.decoderState) :=
  quantizerSearch_iff plainCoding .inter plainEncoder 0 127 fun i j hle hj => by
    rw [qualityAt_plain hj, qualityAt_plain (hle.trans hj)]
    omega

/-- The index 67 has a quality of 60, but the frame is encoded at 0. -/
theorem quantizerSearch_fails :
    ¬ ∃ result, encodeWithQuantizerSearch plainCoding .inter plainEncoder 0 60
        129 = some result ∧
      Searched (qualityAt plainCoding .inter plainEncoder 0) 60 plainEncoder
        result := by
  rintro ⟨result, hresult, hsearched⟩
  cases hresult
  exact absurd (hsearched.chosen.greatest 67 (by decide) (by decide))
    (by decide)

end Salsify.Encoder
