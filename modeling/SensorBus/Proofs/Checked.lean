import Mathlib.Algebra.Order.Ring.Abs
import SensorBus.Checked

namespace SensorBus

namespace IntRange

variable {range : IntRange} {operation : CheckedOperation} {x y : Int} {α : Type} {value : α}
  {next : Int → Checked α}

theorem contains_iff : range.contains x = true ↔ range.least ≤ x ∧ x ≤ range.greatest := by
  simp [contains]

theorem check_eq_ok_iff : range.check operation x = .ok y ↔ range.contains x = true ∧ x = y := by
  unfold check
  split <;> simp [*]

theorem check_bind_eq_ok_iff :
    (range.check operation x >>= next) = .ok value ↔
      range.contains x = true ∧ next x = .ok value := by
  unfold check
  split <;> simp [*, bind, Except.bind]

theorem contains_of_abs_le {bound : Int} (small : |x| ≤ bound)
    (fits : range.least ≤ -bound ∧ bound ≤ range.greatest) : range.contains x = true := by
  obtain ⟨least, greatest⟩ := abs_le.1 small
  exact contains_iff.2 ⟨fits.1.trans least, greatest.trans fits.2⟩

theorem contains_of_between {first last : Int} (low : first ≤ x) (high : x ≤ last)
    (atFirst : range.contains first = true) (atLast : range.contains last = true) :
    range.contains x = true :=
  contains_iff.2 ⟨(contains_iff.1 atFirst).1.trans low, high.trans (contains_iff.1 atLast).2⟩

theorem contains_mul_of_between {first last k : Int} (low : first ≤ x) (high : x ≤ last)
    (atFirst : range.contains (first * k) = true) (atLast : range.contains (last * k) = true) :
    range.contains (x * k) = true := by
  obtain nonneg | nonpos := le_total 0 k
  · exact contains_of_between (Int.mul_le_mul_of_nonneg_right low nonneg)
      (Int.mul_le_mul_of_nonneg_right high nonneg) atFirst atLast
  · exact contains_of_between (Int.mul_le_mul_of_nonpos_right high nonpos)
      (Int.mul_le_mul_of_nonpos_right low nonpos) atLast atFirst

def Holds (range : IntRange) (steps : List Int) : Prop := ∀ x ∈ steps, range.contains x = true

@[simp] theorem holds_nil : range.Holds [] := fun _ mem => nomatch mem

@[simp] theorem holds_cons {steps : List Int} :
    range.Holds (x :: steps) ↔ range.contains x = true ∧ range.Holds steps :=
  List.forall_mem_cons

@[simp] theorem holds_append {steps steps' : List Int} :
    range.Holds (steps ++ steps') ↔ range.Holds steps ∧ range.Holds steps' :=
  List.forall_mem_append

end IntRange

theorem Checked.ok_bind {α β : Type} (value : α) (next : α → Checked β) :
    ((.ok value : Checked α) >>= next) = next value :=
  rfl

theorem Checked.pure_eq_ok {α : Type} (value : α) : (pure value : Checked α) = .ok value :=
  rfl

theorem Checked.unless_eq_ok_iff {α : Type} {c : Prop} [Decidable c] {violation : Violation}
    {next : Checked α} {value : α} :
    (if c then next else throw violation >>= fun _ : PUnit => next) = .ok value ↔
      c ∧ next = .ok value := by
  by_cases fits : c
  · rw [if_pos fits, and_iff_right fits]
  · rw [if_neg fits]
    exact ⟨fun thrown => (nomatch thrown), fun both => absurd both.1 fits⟩

theorem shiftRight_eq (x : Int) (count : Nat) : shiftRight x count = x / 2 ^ count := by
  simp [shiftRight, Int.shiftRight_eq_div_pow]

theorem shiftLeft64_eq {x : Int} {count : Nat}
    (within : IntRange.signed64.contains (x * 2 ^ count) = true) :
    shiftLeft64 x count = x * 2 ^ count := by
  obtain ⟨least, greatest⟩ := IntRange.contains_iff.1 within
  rw [shiftLeft64, Int.shiftLeft_eq]
  apply Int.bmod_eq_of_le
  · exact least
  · exact Int.lt_of_le_of_lt greatest (by decide)

theorem abs_mul_le {α : Type} [CommRing α] [LinearOrder α] [IsStrictOrderedRing α] {x y a b : α}
    (left : |x| ≤ a) (right : |y| ≤ b) : |x * y| ≤ a * b := by
  rw [abs_mul]
  exact mul_le_mul left right (abs_nonneg y) ((abs_nonneg x).trans left)

theorem mul_self_le_of_between {x first last : Int} (low : first ≤ x) (high : x ≤ last) :
    x * x ≤ first * first ∨ x * x ≤ last * last := by
  obtain nonneg | nonpos := le_total 0 x
  · exact .inr (mul_self_le_mul_self nonneg high)
  · left
    rw [← neg_mul_neg x x, ← neg_mul_neg first first]
    exact mul_self_le_mul_self (neg_nonneg.2 nonpos) (neg_le_neg low)

end SensorBus
