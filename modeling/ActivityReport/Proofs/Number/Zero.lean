import ActivityReport.Number.Amount
import Mathlib

/-!
# Taking nothing away

A double from which 0 is taken stays as it is, not-a-number and both zeros as well (`Number.sub_ofInt_zero`). The
difference is worked out on the parts of a double, which are packed into the word that they were unpacked from.
-/

namespace ActivityReport.Number

open Float.Model

/-- A double is packed into the word that it was unpacked from. -/
lemma pack_unpack (m : Float.Model) : Float.Model.pack m.unpack = m := by
  obtain ⟨⟨b⟩, valid⟩ := m
  unfold Float.Model.pack Float.Model.unpack
  congr 1
  exact congrArg UInt64.ofBitVec (UnpackedFloat.pack_unpack_of_valid valid)

lemma unpack_ofInt_zero : (ofInt 0).toModel.unpack = .zero .positive := rfl

/-- A double from which 0 is taken stays as it is. -/
theorem sub_ofInt_zero (x : Float) : x - ofInt 0 = x := by
  have same : ∀ u, UnpackedFloat.sub Format.binary64 u (.zero .positive) = u := by
    intro u
    cases u with
    | zero sign => cases sign <;> rfl
    | notANumber | infinity | finite => rfl
  obtain ⟨m⟩ := x
  refine congrArg Float.ofModel ?_
  show Float.Model.pack (UnpackedFloat.sub Format.binary64 m.unpack (ofInt 0).toModel.unpack) = m
  rw [unpack_ofInt_zero, same, pack_unpack]

end ActivityReport.Number
