import Salsify.Codec.FrameHeader

namespace Salsify.Codec

open Salsify.Coder (Probability)

/-! The probability tables of `decoder/probability_tables.cc`. -/

structure ProbabilityTables where
  coeffProbs : SafeArray (SafeArray (SafeArray (SafeArray Probability 11) 3) 8) 4 :=
    fun i j k l => ((((kDefaultCoeffProbs.get i).get j).get k).get l)
  yModeProbs : SafeArray Probability 4 := fun i => kDefaultYModeProbs.get i
  uvModeProbs : SafeArray Probability 3 := fun i => kDefaultUvModeProbs.get i
  motionVectorProbs : SafeArray (SafeArray Probability 19) 2 :=
    fun i j => ((kDefaultMvProbs.get i).get j)

namespace ProbabilityTables

def coeffProbUpdate (tables : ProbabilityTables)
    (tokenProbUpdate : TokenProbUpdate) : ProbabilityTables :=
  { tables with
    coeffProbs := fun i j k l =>
      (tokenProbUpdate i j k l).getD (tables.coeffProbs i j k l) }

def update (tables : ProbabilityTables) (header : InterFrameHeader) :
    ProbabilityTables :=
  let updated := tables.coeffProbUpdate header.tokenProbUpdate
  { updated with
    yModeProbs := header.intra16x16Prob.getD updated.yModeProbs
    uvModeProbs := header.intraChromaProb.getD updated.uvModeProbs
    motionVectorProbs := fun i j =>
      ((header.mvProbUpdate i j).map readHalfProb).getD
        (updated.motionVectorProbs i j) }

theorem getD_again {α : Type} (update : Option α) (current : α) :
    update.getD (update.getD current) = update.getD current := by
  cases update <;> rfl

theorem coeffProbUpdate_again (tables : ProbabilityTables)
    (tokenProbUpdate : TokenProbUpdate) :
    (tables.coeffProbUpdate tokenProbUpdate).coeffProbUpdate tokenProbUpdate =
      tables.coeffProbUpdate tokenProbUpdate := by
  simp only [coeffProbUpdate, getD_again]

theorem update_again (tables : ProbabilityTables)
    (header : InterFrameHeader) :
    (tables.update header).update header = tables.update header := by
  simp only [update, coeffProbUpdate, getD_again]

end ProbabilityTables

end Salsify.Codec
