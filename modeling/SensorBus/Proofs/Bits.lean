namespace SensorBus

def modified (old set clear : UInt8) : UInt8 := (old &&& ~~~clear) ||| set

theorem byte_ext {a b : UInt8}
    (same : ∀ (i : Nat) (lt : i < 8), a.toBitVec[i] = b.toBitVec[i]) : a = b :=
  UInt8.toBitVec_inj.1 (BitVec.eq_of_getElem_eq same)

theorem and_all (byte : UInt8) : byte &&& 0xFF = byte := UInt8.and_neg_one

theorem modified_all (old set : UInt8) : modified old set 0xFF = set := by
  have nothing : (~~~0xFF : UInt8) = 0 := rfl
  rw [modified, nothing, UInt8.and_zero, UInt8.zero_or]

theorem modified_modified (old set clear : UInt8) :
    modified (modified old set clear) set clear = modified old set clear := by
  apply byte_ext
  intro i lt
  simp only [modified, UInt8.toBitVec_or, UInt8.toBitVec_and, UInt8.toBitVec_not,
    BitVec.getElem_or, BitVec.getElem_and, BitVec.getElem_not]
  cases set.toBitVec[i] <;> cases clear.toBitVec[i] <;> simp

section

variable {old set clear mask : UInt8}

theorem modified_and_of_apart (cleared : clear &&& mask = 0) (unset : set &&& mask = 0) :
    modified old set clear &&& mask = old &&& mask := by
  apply byte_ext
  intro i lt
  have cleared := congrArg (·.toBitVec[i]) cleared
  have unset := congrArg (·.toBitVec[i]) unset
  simp only [modified, UInt8.toBitVec_or, UInt8.toBitVec_and, UInt8.toBitVec_not,
    BitVec.getElem_or, BitVec.getElem_and, BitVec.getElem_not] at cleared unset ⊢
  revert cleared unset
  cases set.toBitVec[i] <;> cases clear.toBitVec[i] <;> cases mask.toBitVec[i] <;> simp

theorem modified_and_self (within : set &&& clear = set) :
    modified old set clear &&& clear = set := by
  apply byte_ext
  intro i lt
  have within := congrArg (·.toBitVec[i]) within
  simp only [modified, UInt8.toBitVec_or, UInt8.toBitVec_and, UInt8.toBitVec_not,
    BitVec.getElem_or, BitVec.getElem_and, BitVec.getElem_not] at within ⊢
  revert within
  cases set.toBitVec[i] <;> cases clear.toBitVec[i] <;> simp

end

end SensorBus
