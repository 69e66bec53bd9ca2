import Salsify.Codec.FrameOutput
import Salsify.Codec.PartialFrame

namespace Salsify.Codec

open Salsify.Net (Chunk Failure)
open Fallible (ok_bind bind_eq_ok)

/-! Whole runs of the decoder, with the samples. -/

namespace SampleDecoder

variable {width height : Nat}

/-- The constructor from dimensions, whose references are one raster of any
contents. -/
def start (raster : VP8Raster width height) (errorConcealment : Bool) :
    SampleDecoder width height where
  state := {}
  references := { last := raster, golden := raster, alternative := raster }
  errorConcealment

theorem sound_start (raster : VP8Raster width height)
    (errorConcealment : Bool) : (start raster errorConcealment).Sound :=
  fun _ h => by cases h

structure Acceptable (width height : Nat) (received : Chunk)
    (chunk : UncompressedChunk) : Prop where
  parsed : UncompressedChunk.parse received width height true = .ok chunk
  supported : chunk.experimental = false
  decodable : DecoderState.Decodable (if chunk.keyFrame
    then KeyFrameHeader.front else InterFrameHeader.front) width height chunk

theorem getFrameOutput_ok_iff {decoder : SampleDecoder width height}
    (hsound : decoder.Sound) (hconcealment : decoder.errorConcealment = true)
    (recycled : VP8Raster width height) (received : Chunk) :
    (∃ output, decoder.getFrameOutput recycled received = .ok output) ↔
      ∃ chunk, Acceptable width height received chunk := by
  obtain ⟨levels, hstate⟩ :=
    getFrameOutput_state hsound hconcealment recycled received
  have hoption : (∃ output,
      decoder.getFrameOutput recycled received = .ok output) ↔
      ∃ next, decoder.state.getFrameOutput levels received = .ok next := by
    rw [← hstate]
    cases decoder.getFrameOutput recycled received with
    | error failure =>
        constructor <;> rintro ⟨_, h⟩ <;> cases h
    | ok output => exact ⟨fun _ => ⟨_, rfl⟩, fun _ => ⟨_, rfl⟩⟩
  rw [hoption]
  constructor
  · rintro ⟨next, h⟩
    obtain ⟨chunk, hparse, -⟩ := bind_eq_ok h
    obtain ⟨hsupported, hdecodable⟩ :=
      (DecoderState.getFrameOutput_ok_iff hparse).mp ⟨next, h⟩
    exact ⟨chunk, hparse, hsupported, hdecodable⟩
  · rintro ⟨chunk, h⟩
    exact (DecoderState.getFrameOutput_ok_iff h.parsed).mpr
      ⟨h.supported, h.decodable⟩

theorem run_cons_eq_ok {decoder last : SampleDecoder width height}
    {recycled : VP8Raster width height} {received : Chunk}
    {rest : List (VP8Raster width height × Chunk)}
    {outputs : List (Bool × VP8Raster width height)} :
    decoder.run ((recycled, received) :: rest) = .ok (outputs, last) ↔
      ∃ output next others,
        decoder.getFrameOutput recycled received = .ok (output, next) ∧
        next.run rest = .ok (others, last) ∧ outputs = output :: others := by
  constructor
  · intro h
    obtain ⟨⟨output, next⟩, houtput, h⟩ := bind_eq_ok h
    obtain ⟨⟨others, found⟩, hrest, h⟩ := bind_eq_ok h
    cases h
    exact ⟨output, next, others, houtput, hrest, rfl⟩
  · rintro ⟨output, next, others, houtput, hrest, rfl⟩
    simp only [run, houtput, ok_bind, hrest]
    rfl

theorem run_ok_iff {decoder : SampleDecoder width height}
    (hsound : decoder.Sound) (hconcealment : decoder.errorConcealment = true)
    (frames : List (VP8Raster width height × Chunk)) :
    (∃ result, decoder.run frames = .ok result) ↔
      ∀ frame ∈ frames, ∃ chunk, Acceptable width height frame.2 chunk := by
  induction frames generalizing decoder with
  | nil =>
      exact ⟨fun _ frame hframe => absurd hframe List.not_mem_nil,
        fun _ => ⟨_, rfl⟩⟩
  | cons frame rest ih =>
      obtain ⟨recycled, received⟩ := frame
      rw [List.forall_mem_cons,
        ← getFrameOutput_ok_iff hsound hconcealment recycled received]
      constructor
      · rintro ⟨⟨outputs, last⟩, h⟩
        obtain ⟨output, next, others, houtput, hrest, -⟩ := run_cons_eq_ok.mp h
        obtain ⟨hnext, hsame⟩ := getFrameOutput_sound hsound houtput
        exact ⟨⟨_, houtput⟩,
          (ih hnext (hsame.trans hconcealment)).mp ⟨_, hrest⟩⟩
      · rintro ⟨⟨⟨output, next⟩, houtput⟩, hrest⟩
        obtain ⟨hnext, hsame⟩ := getFrameOutput_sound hsound houtput
        obtain ⟨⟨others, last⟩, hothers⟩ :=
          (ih hnext (hsame.trans hconcealment)).mpr hrest
        exact ⟨_, run_cons_eq_ok.mpr
          ⟨output, next, others, houtput, hothers, rfl⟩⟩

theorem run_recycled {decoder : SampleDecoder width height}
    (hsound : decoder.Sound)
    {frames others : List (VP8Raster width height × Chunk)}
    (hsame : frames.map Prod.snd = others.map Prod.snd) :
    decoder.run frames = decoder.run others := by
  induction frames generalizing decoder others with
  | nil =>
      rw [List.map_eq_nil_iff.mp hsame.symm]
  | cons frame frames ih =>
      cases others with
      | nil => cases hsame
      | cons other others =>
          obtain ⟨recycled, received⟩ := frame
          obtain ⟨recycledOther, receivedOther⟩ := other
          obtain ⟨hreceived, hrest⟩ := List.cons.inj hsame
          dsimp only at hreceived
          subst hreceived
          have hfirst := getFrameOutput_recycled hsound recycled recycledOther
            received
          rw [run, run, hfirst]
          cases houtput : decoder.getFrameOutput recycledOther received with
          | error failure => rfl
          | ok output =>
              have hnext := (getFrameOutput_sound hsound houtput).1
              simp only [ok_bind]
              rw [ih hnext hrest]

theorem getFrameOutput_key {decoder other : SampleDecoder width height}
    (hconcealment : decoder.errorConcealment = other.errorConcealment)
    {received : Chunk} {chunk : UncompressedChunk}
    (hchunk : UncompressedChunk.parse received width height
      decoder.errorConcealment = .ok chunk) (hkey : chunk.keyFrame = true)
    (recycled : VP8Raster width height) :
    decoder.getFrameOutput recycled received =
      other.getFrameOutput recycled received := by
  unfold getFrameOutput
  rw [← hconcealment, hchunk, ok_bind, ok_bind, if_pos hkey, if_pos hkey]
  refine congrArg _ (funext fun result => ?_)
  obtain ⟨frame, state⟩ := result
  unfold decodeFrame
  dsimp only [DecodedFrame.decodeInto, DecodedFrame.copyTo]
  rw [hconcealment]
  rfl

theorem run_append_eq_ok {decoder last : SampleDecoder width height}
    {frames rest : List (VP8Raster width height × Chunk)}
    {outputs : List (Bool × VP8Raster width height)}
    (h : decoder.run (frames ++ rest) = .ok (outputs, last)) :
    ∃ firsts middle others, decoder.run frames = .ok (firsts, middle) ∧
      middle.run rest = .ok (others, last) ∧ outputs = firsts ++ others ∧
      firsts.length = frames.length := by
  induction frames generalizing decoder outputs with
  | nil => exact ⟨[], decoder, outputs, rfl, h, rfl, rfl⟩
  | cons frame frames ih =>
      obtain ⟨recycled, received⟩ := frame
      obtain ⟨output, next, others, houtput, hrest, rfl⟩ := run_cons_eq_ok.mp h
      obtain ⟨firsts, middle, others, hfirsts, hothers, rfl, hlength⟩ := ih hrest
      exact ⟨output :: firsts, middle, others,
        run_cons_eq_ok.mpr ⟨output, next, firsts, houtput, hfirsts, rfl⟩,
        hothers, rfl, congrArg Nat.succ hlength⟩

theorem run_sound {decoder last : SampleDecoder width height}
    (hsound : decoder.Sound)
    {frames : List (VP8Raster width height × Chunk)}
    {outputs : List (Bool × VP8Raster width height)}
    (h : decoder.run frames = .ok (outputs, last)) :
    last.Sound ∧ last.errorConcealment = decoder.errorConcealment := by
  induction frames generalizing decoder outputs with
  | nil =>
      cases h
      exact ⟨hsound, rfl⟩
  | cons frame frames ih =>
      obtain ⟨recycled, received⟩ := frame
      obtain ⟨output, next, others, houtput, hrest, -⟩ := run_cons_eq_ok.mp h
      obtain ⟨hnext, hsame⟩ := getFrameOutput_sound hsound houtput
      obtain ⟨hlast, hlastSame⟩ := ih hnext hrest
      exact ⟨hlast, hlastSame.trans hsame⟩

/-- Once they have decoded the same key frame, decoders agree whatever they have
or have not received before it. -/
theorem run_key_resyncs {decoder other last lastOther :
      SampleDecoder width height}
    (hsound : decoder.Sound) (hsoundOther : other.Sound)
    (hconcealment : decoder.errorConcealment = other.errorConcealment)
    {received : Chunk} {chunk : UncompressedChunk}
    (hchunk : UncompressedChunk.parse received width height
      decoder.errorConcealment = .ok chunk) (hkey : chunk.keyFrame = true)
    {before beforeOther after afterOther :
      List (VP8Raster width height × Chunk)}
    (hafter : after.map Prod.snd = afterOther.map Prod.snd)
    {recycled recycledOther : VP8Raster width height}
    {outputs outputsOther : List (Bool × VP8Raster width height)}
    (hrun : decoder.run (before ++ (recycled, received) :: after) =
      .ok (outputs, last))
    (hrunOther : other.run
      (beforeOther ++ (recycledOther, received) :: afterOther) =
        .ok (outputsOther, lastOther)) :
    last = lastOther ∧ outputs.drop before.length =
      outputsOther.drop beforeOther.length := by
  obtain ⟨firsts, middle, rest, hfirsts, hrest, rfl, hlength⟩ :=
    run_append_eq_ok hrun
  obtain ⟨firstsOther, middleOther, restOther, hfirstsOther, hrestOther, rfl,
    hlengthOther⟩ := run_append_eq_ok hrunOther
  obtain ⟨hmiddle, hsame⟩ := run_sound hsound hfirsts
  obtain ⟨-, hsameOther⟩ := run_sound hsoundOther hfirstsOther
  have hkeyFrame : middle.run ((recycled, received) :: after) =
      middleOther.run ((recycledOther, received) :: afterOther) := by
    calc
      middle.run ((recycled, received) :: after)
        = middle.run ((recycledOther, received) :: afterOther) :=
          run_recycled hmiddle (congrArg (List.cons received) hafter)
      _ = middleOther.run ((recycledOther, received) :: afterOther) := by
          rw [run, run, getFrameOutput_key (hsame.trans (hconcealment.trans
            hsameOther.symm)) (by rw [hsame]; exact hchunk) hkey]
  rw [hrest, hrestOther] at hkeyFrame
  obtain ⟨hrests, hlasts⟩ := Prod.mk.inj (Except.ok.inj hkeyFrame)
  exact ⟨hlasts, by
    rw [← hlength, ← hlengthOther, List.drop_left, List.drop_left, hrests]⟩

/-- What a pooled raster held before is nowhere in what is decoded into it. -/
theorem start_recycled (raster : VP8Raster width height)
    (errorConcealment : Bool) (frames :
      List ((VP8Raster width height × VP8Raster width height) × Chunk)) :
    (start raster errorConcealment).run
        (frames.map fun frame => (frame.1.1, frame.2)) =
      (start raster errorConcealment).run
        (frames.map fun frame => (frame.1.2, frame.2)) :=
  run_recycled (sound_start raster errorConcealment) (by
    rw [List.map_map, List.map_map]
    rfl)

/-- Whether a run succeeds is said frame by frame, with no regard to the
references, the tables or the segments that earlier frames have left. -/
theorem start_accepts_iff (raster : VP8Raster width height)
    (frames : List (VP8Raster width height × Chunk)) :
    (∃ result, (start raster true).run frames = .ok result) ↔
      ∀ frame ∈ frames, ∃ chunk, Acceptable width height frame.2 chunk :=
  run_ok_iff (sound_start raster true) rfl frames

/-- Decoders that have lost different frames agree from the next key frame that
both receive. -/
theorem start_key_resyncs {raster rasterOther : VP8Raster width height}
    {received : Chunk} {chunk : UncompressedChunk}
    (hchunk : UncompressedChunk.parse received width height true = .ok chunk)
    (hkey : chunk.keyFrame = true)
    {before beforeOther after afterOther :
      List (VP8Raster width height × Chunk)}
    (hafter : after.map Prod.snd = afterOther.map Prod.snd)
    {recycled recycledOther : VP8Raster width height}
    {outputs outputsOther : List (Bool × VP8Raster width height)}
    {last lastOther : SampleDecoder width height}
    (hrun : (start raster true).run (before ++ (recycled, received) :: after) =
      .ok (outputs, last))
    (hrunOther : (start rasterOther true).run
      (beforeOther ++ (recycledOther, received) :: afterOther) =
        .ok (outputsOther, lastOther)) :
    last = lastOther ∧ outputs.drop before.length =
      outputsOther.drop beforeOther.length :=
  run_key_resyncs (sound_start raster true) (sound_start rasterOther true) rfl
    hchunk hkey hafter hrun hrunOther

theorem acceptable_segmentedKeyFrame : ∃ chunk,
    Acceptable 16 16 DecoderState.segmentedKeyFrame chunk ∧
      chunk.keyFrame = true := by
  obtain ⟨chunk, hparse, hfields⟩ : ∃ chunk,
      UncompressedChunk.parse DecoderState.segmentedKeyFrame 16 16 true =
        .ok chunk ∧ (chunk.keyFrame && !chunk.experimental &&
          Fallible.check (fun result => !result.1.unsupported &&
              decide (PartitionsFit
                (2 ^ result.1.log2NumberOfDctPartitions.toNat) chunk.rest))
            (KeyFrameHeader.front.run boolDecoder
              (DecoderState.firstPartitionDecoder chunk))) = true :=
    Fallible.exists_of_check (by decide +kernel)
  rw [Bool.and_eq_true, Bool.and_eq_true, Bool.not_eq_true'] at hfields
  obtain ⟨⟨hkey, hsupported⟩, hfront⟩ := hfields
  obtain ⟨⟨headerFront, next⟩, hrun, hfront⟩ := Fallible.exists_of_check hfront
  rw [Bool.and_eq_true, Bool.not_eq_true', decide_eq_true_iff] at hfront
  refine ⟨chunk, ⟨hparse, hsupported, ?_⟩, hkey⟩
  rw [if_pos hkey]
  exact ⟨by decide, by decide, headerFront, next, hrun, hfront⟩

/-- Of two decoders, one misses the first frame. -/
theorem start_key_resyncs_missed :
    let raster : VP8Raster 16 16 := .blank (by decide) (by decide)
    ∃ outputs outputsOther last lastOther,
      (start raster true).run (([(raster, DecoderState.segmentedKeyFrame)]) ++
        (raster, DecoderState.segmentedKeyFrame) :: []) = .ok (outputs, last) ∧
      (start raster true).run
        ([] ++ (raster, DecoderState.segmentedKeyFrame) :: []) =
          .ok (outputsOther, lastOther) ∧
      last = lastOther ∧ outputs.drop 1 = outputsOther := by
  intro raster
  obtain ⟨chunk, hacceptable, hkey⟩ := acceptable_segmentedKeyFrame
  have hall (frames : List (VP8Raster 16 16 × Chunk))
      (h : ∀ frame ∈ frames, frame.2 = DecoderState.segmentedKeyFrame) :
      ∃ result, (start raster true).run frames = .ok result :=
    (run_ok_iff (sound_start raster true) rfl frames).mpr fun frame hframe =>
      ⟨chunk, h frame hframe ▸ hacceptable⟩
  obtain ⟨⟨outputs, last⟩, hrun⟩ := hall
    ([(raster, DecoderState.segmentedKeyFrame)] ++
      (raster, DecoderState.segmentedKeyFrame) :: []) (by simp)
  obtain ⟨⟨outputsOther, lastOther⟩, hrunOther⟩ := hall
    ([] ++ (raster, DecoderState.segmentedKeyFrame) :: []) (by simp)
  obtain ⟨hlast, houtputs⟩ := start_key_resyncs hacceptable.parsed hkey rfl hrun
    hrunOther
  exact ⟨outputs, outputsOther, last, lastOther, hrun, hrunOther, hlast,
    houtputs⟩

end SampleDecoder

end Salsify.Codec
