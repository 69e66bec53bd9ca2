import Salsify.Codec.FrameCodec
import Salsify.Codec.StateUpdate

namespace Salsify.Codec

open Salsify.Net (Chunk Failure)

/-! The bytes of `write_frame` of `encoder/encoder.cc`, which hands the tables
of its own decoder state to `serialize` by reference, after it has updated
them. -/

/-- What the `prob_tables` of `write_frame` refer to. -/
inductive TablesReference
  | decoderState
  | separate (tables : ProbabilityTables)

variable {width height : Nat}

def TablesReference.read (reference : TablesReference)
    (state : DecoderState width height) : ProbabilityTables :=
  match reference with
  | .decoderState => state.probabilityTables
  | .separate tables => tables

/-- `write_frame` on a key frame, of which the rasters are left out. -/
def KeyFrame.writeFrame (_ : DecoderState width height) (frame : KeyFrame)
    (probTables : TablesReference) :
    DecoderState width height × Except Failure Chunk :=
  let updated : DecoderState width height :=
    DecoderState.updateDecoderStateKey frame
  (updated, frame.serialize (probTables.read updated))

def InterFrame.writeFrame (state : DecoderState width height)
    (frame : InterFrame) (probTables : TablesReference) :
    DecoderState width height × Except Failure Chunk :=
  let updated := state.updateDecoderStateInter frame
  (updated, frame.serialize (probTables.read updated))

theorem KeyFrame.serialize_updated (frame : KeyFrame)
    (tables : ProbabilityTables) :
    frame.serialize (tables.coeffProbUpdate frame.header.tokenProbUpdate) =
      frame.serialize tables := by
  rw [KeyFrame.serialize, ProbabilityTables.coeffProbUpdate_again]
  rfl

theorem InterFrame.serialize_updated (frame : InterFrame)
    (tables : ProbabilityTables) :
    frame.serialize (tables.update frame.header) = frame.serialize tables := by
  rw [InterFrame.serialize, ProbabilityTables.update_again]
  rfl

/-- The reset of a key frame comes first, so that the tables before its updates
are the default ones. -/
theorem KeyFrame.writeFrame_aliased (state : DecoderState width height)
    (frame : KeyFrame) :
    (frame.writeFrame state .decoderState).2 = frame.serialize {} := by
  have htables : (DecoderState.updateDecoderStateKey frame :
        DecoderState width height).probabilityTables =
      if frame.header.refreshEntropyProbs then
        ({} : ProbabilityTables).coeffProbUpdate frame.header.tokenProbUpdate
      else {} := rfl
  change frame.serialize (DecoderState.updateDecoderStateKey frame :
    DecoderState width height).probabilityTables = _
  rw [htables]
  split
  · exact frame.serialize_updated {}
  · rfl

theorem InterFrame.writeFrame_aliased (state : DecoderState width height)
    (frame : InterFrame) :
    (frame.writeFrame state .decoderState).2 =
      frame.serialize state.probabilityTables := by
  have htables : (state.updateDecoderStateInter frame).probabilityTables =
      if frame.header.refreshEntropyProbs then
        state.probabilityTables.update frame.header
      else state.probabilityTables := rfl
  change frame.serialize
    (state.updateDecoderStateInter frame).probabilityTables = _
  rw [htables]
  split
  · exact frame.serialize_updated _
  · rfl

/-- The updates of a header overwrite, so that making them again changes
nothing, and neither do the bytes of a frame that is written with the tables it
has updated itself. -/
theorem writeFrame_alias_safe {width height : Nat} :
    (∀ (tables : ProbabilityTables) (updates : TokenProbUpdate),
      (tables.coeffProbUpdate updates).coeffProbUpdate updates =
        tables.coeffProbUpdate updates) ∧
    (∀ (tables : ProbabilityTables) (header : InterFrameHeader),
      (tables.update header).update header = tables.update header) ∧
    (∀ (state : DecoderState width height) (frame : KeyFrame)
        (tables : ProbabilityTables),
      (frame.writeFrame state (.separate
          (tables.coeffProbUpdate frame.header.tokenProbUpdate))).2 =
        (frame.writeFrame state (.separate tables)).2) ∧
    (∀ (state : DecoderState width height) (frame : InterFrame)
        (tables : ProbabilityTables),
      (frame.writeFrame state (.separate (tables.update frame.header))).2 =
        (frame.writeFrame state (.separate tables)).2) ∧
    (∀ (state : DecoderState width height) (frame : KeyFrame),
      (frame.writeFrame state .decoderState).2 =
        (frame.writeFrame state (.separate {})).2) ∧
    ∀ (state : DecoderState width height) (frame : InterFrame),
      (frame.writeFrame state .decoderState).2 =
        (frame.writeFrame state (.separate state.probabilityTables)).2 := by
  refine ⟨ProbabilityTables.coeffProbUpdate_again,
    ProbabilityTables.update_again, ?_, ?_, ?_, ?_⟩
  · exact fun _ frame tables => frame.serialize_updated tables
  · exact fun _ frame tables => frame.serialize_updated tables
  · exact fun state frame => frame.writeFrame_aliased state
  · exact fun state frame => frame.writeFrame_aliased state

end Salsify.Codec
