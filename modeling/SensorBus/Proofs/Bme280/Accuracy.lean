import Mathlib.Algebra.Order.Field.Basic
import Mathlib.Algebra.Order.Ring.Rat
import Mathlib.Data.Rat.Cast.Order
import Mathlib.Tactic.FieldSimp
import Mathlib.Tactic.Linarith
import Mathlib.Tactic.NormNum
import Mathlib.Tactic.Ring
import SensorBus.Proofs.Bme280.Typical

namespace SensorBus.Bme280

theorem floor_error (x : Int) (count : Nat) :
    ((x / 2 ^ count : Int) : ℚ) ≤ x / 2 ^ count ∧
      (x : ℚ) / 2 ^ count < (x / 2 ^ count : Int) + 1 := by
  have pos : (0 : ℚ) < 2 ^ count := by positivity
  have low : x / 2 ^ count * 2 ^ count ≤ x := Int.ediv_mul_le x (by positivity)
  have high : x < (x / 2 ^ count + 1) * 2 ^ count :=
    Int.lt_ediv_add_one_mul_self x (by positivity)
  rw [le_div_iff₀ pos, div_lt_iff₀ pos]
  exact_mod_cast And.intro low high

theorem abs_floor_error (x : Int) (count : Nat) :
    |((x / 2 ^ count : Int) : ℚ) - x / 2 ^ count| ≤ 1 := by
  have error := floor_error x count
  rw [abs_le]
  constructor <;> linarith

theorem truncation_error (x : Int) {d : Int} (positive : 0 < d) :
    |((x.tdiv d : Int) : ℚ) - x / d| < 1 := by
  have pos : (0 : ℚ) < d := by exact_mod_cast positive
  have whole : (x : ℚ) = d * (x.tdiv d : Int) + (x.tmod d : Int) := by
    exact_mod_cast (Int.mul_tdiv_add_tmod x d).symm
  have below : |((x.tmod d : Int) : ℚ)| < d := by
    have rest : |x.tmod d| < d :=
      abs_lt.2 ⟨Int.lt_tmod_of_pos x positive, Int.tmod_lt_of_pos x positive⟩
    exact_mod_cast rest
  have error : ((x.tdiv d : Int) : ℚ) - x / d = -((x.tmod d : Int) : ℚ) / d := by
    rw [whole]
    field_simp
    ring
  rw [error, abs_div, abs_neg, abs_of_pos pos]
  exact (div_lt_one pos).2 below

theorem divisor_drift (n : ℚ) {d w : ℚ} (positive : 0 < d) (le : d ≤ w) :
    |n / d - n / w| ≤ |n| * (w - d) / (d * d) := by
  have positive' : 0 < w := positive.trans_le le
  have drift : n / d - n / w = n * (w - d) / (d * w) := by
    field_simp
  have square : d * d ≤ d * w := mul_le_mul_of_nonneg_left le positive.le
  have error : 0 ≤ |n| * (w - d) := mul_nonneg (abs_nonneg n) (sub_nonneg.2 le)
  rw [drift, abs_div, abs_mul, abs_of_nonneg (sub_nonneg.2 le),
    abs_of_pos (mul_pos positive positive')]
  exact div_le_div_of_nonneg_left error (mul_pos positive positive) square

namespace Formula

variable (c : Calibration) (x adc : ℚ)

def divisor : ℚ := (1 + c.p3.toInt * x ^ 2 / 2 ^ 55 + c.p2.toInt * x / 2 ^ 35) * c.p1.toNat

def uncorrected : ℚ :=
  6250 * (1048576 - adc - c.p6.toInt * x ^ 2 / 2 ^ 31 - c.p5.toInt * x / 2 ^ 14 - 16 * c.p4.toInt) /
    divisor c x

def pressure : ℚ :=
  uncorrected c x adc + (c.p9.toInt * uncorrected c x adc ^ 2 / 2 ^ 31 +
    c.p8.toInt * uncorrected c x adc / 2 ^ 15 + c.p7.toInt) / 16

end Formula

namespace Measurement

open Unbounded

section

variable {c : Calibration} {fine adc : Int}

theorem divisor_error (typical : c.Typical) :
    (divisor c fine : ℚ) ≤ 2 ^ 14 * Formula.divisor c fine ∧
      2 ^ 14 * Formula.divisor c fine < divisor c fine + 2 := by
  have p1 : (0 : ℚ) ≤ c.p1.toNat ∧ (c.p1.toNat : ℚ) ≤ 42000 := by
    exact_mod_cast And.intro (Nat.zero_le _) typical.p1.2
  obtain ⟨low, high⟩ := floor_error (fine * fine * c.p3.toInt) 8
  have product := floor_error ((2 ^ 47 + factor c fine) * c.p1.toNat) 33
  -- The square is rounded down first, and the error of that is scaled by `p1`.
  have scaled : 2 ^ 14 * Formula.divisor c fine =
      ((2 ^ 47 + factor c fine) * c.p1.toNat : Int) / 2 ^ 33 +
        ((fine * fine * c.p3.toInt : Int) / 2 ^ 8 - (fine * fine * c.p3.toInt / 2 ^ 8 : Int)) *
          c.p1.toNat / 2 ^ 33 := by
    unfold Formula.divisor factor
    push_cast
    ring
  have nonneg : (0 : ℚ) ≤ ((fine * fine * c.p3.toInt : Int) / 2 ^ 8 -
      (fine * fine * c.p3.toInt / 2 ^ 8 : Int)) * c.p1.toNat :=
    mul_nonneg (by linarith) p1.1
  have small : ((fine * fine * c.p3.toInt : Int) / 2 ^ 8 -
      (fine * fine * c.p3.toInt / 2 ^ 8 : Int)) * (c.p1.toNat : ℚ) ≤ 1 * 42000 :=
    mul_le_mul (by linarith) p1.2 p1.1 zero_le_one
  rw [scaled]
  unfold divisor
  constructor <;> linarith

theorem dividend_eq (nonzero : Formula.divisor c fine ≠ 0) : (dividend c fine adc : ℚ) =
    2 ^ 30 * (Formula.uncorrected c fine adc * Formula.divisor c fine) := by
  rw [Formula.uncorrected, div_mul_cancel₀ _ nonzero]
  unfold dividend offset
  push_cast
  ring

theorem quotient_error (typical : c.Typical) (near : |fine| ≤ 1044303)
    (reading : 0 ≤ adc ∧ adc ≤ 0xFFFFF) :
    |(quotient c fine adc : ℚ) - 2 ^ 16 * Formula.uncorrected c fine adc| ≤ 286 := by
  have above := (divisor_within typical near).2
  have positive : 0 < divisor c fine := by omega
  have truncated := truncation_error (dividend c fine adc) positive
  have above : (250000000 : ℚ) ≤ divisor c fine := by exact_mod_cast above
  have small : |(dividend c fine adc : ℚ)| ≤ 8900000000000000000 := by
    exact_mod_cast (dividend_within typical near reading).2
  obtain ⟨le, lt⟩ : (divisor c fine : ℚ) ≤ 2 ^ 14 * Formula.divisor c fine ∧ _ :=
    divisor_error typical
  have drift := divisor_drift (dividend c fine adc) (by linarith) le
  have bound : |(dividend c fine adc : ℚ)| * (2 ^ 14 * Formula.divisor c fine - divisor c fine) /
      (divisor c fine * divisor c fine) ≤ 8900000000000000000 * 2 / (250000000 * 250000000) := by
    have error : |(dividend c fine adc : ℚ)| * (2 ^ 14 * Formula.divisor c fine - divisor c fine) ≤
        8900000000000000000 * 2 := mul_le_mul small (by linarith) (by linarith) (by norm_num)
    have square : (250000000 * 250000000 : ℚ) ≤ divisor c fine * divisor c fine :=
      mul_le_mul above above (by norm_num) (by linarith)
    exact div_le_div₀ (by norm_num) error (by norm_num) square
  have exact : 2 ^ 16 * Formula.uncorrected c fine adc =
      dividend c fine adc / (2 ^ 14 * Formula.divisor c fine) := by
    have nonzero : Formula.divisor c fine ≠ 0 := by
      intro zero
      rw [zero] at le
      linarith
    rw [dividend_eq nonzero]
    field_simp
  rw [exact]
  rw [abs_le] at drift ⊢
  rw [abs_lt] at truncated
  unfold quotient
  constructor <;> linarith

/-- The correction is sensitive to the pressure by less than a thirtieth part for each of the two
terms; what is rounded off before the square is taken counts most. -/
theorem corrected_error {p : Int} (within : |p| ≤ 35600000000) {u : ℚ}
    (near : |(p : ℚ) - 2 ^ 16 * u| ≤ 286) :
    |(corrected c p : ℚ) - 2 ^ 8 * (u + (c.p9.toInt * u ^ 2 / 2 ^ 31 +
      c.p8.toInt * u / 2 ^ 15 + c.p7.toInt) / 16)| ≤ 37 := by
  have p9 : |(c.p9.toInt : ℚ)| ≤ 2 ^ 15 := by exact_mod_cast abs_toInt_le c.p9
  have p8 : |(c.p8.toInt : ℚ)| ≤ 2 ^ 15 := by exact_mod_cast abs_toInt_le c.p8
  have size : |(p : ℚ)| ≤ 35600000000 := by exact_mod_cast within
  have floored := floor_error p 13
  have square := floor_error (Unbounded.square c p) 25
  have linear := floor_error (Unbounded.linear c p) 19
  have sum := floor_error (p + Unbounded.square c p / 2 ^ 25 + Unbounded.linear c p / 2 ^ 19) 8
  rw [abs_le] at size
  have linear_error : |(c.p8.toInt : ℚ) * (p - 2 ^ 16 * u)| ≤ 2 ^ 15 * 286 := abs_mul_le p8 near
  rw [abs_le] at near
  have coarse_error : |((p / 2 ^ 13 : Int) : ℚ) - 2 ^ 3 * u| ≤ 104 / 100 := by
    rw [abs_le]
    constructor <;> linarith
  have coarse_size : |((p / 2 ^ 13 : Int) : ℚ) + 2 ^ 3 * u| ≤ 8691410 := by
    rw [abs_le]
    constructor <;> linarith
  have square_error : |(c.p9.toInt : ℚ) * ((((p / 2 ^ 13 : Int) : ℚ) - 2 ^ 3 * u) *
      (((p / 2 ^ 13 : Int) : ℚ) + 2 ^ 3 * u))| ≤ 2 ^ 15 * (104 / 100 * 8691410) :=
    abs_mul_le p9 (abs_mul_le coarse_error coarse_size)
  rw [abs_le] at linear_error square_error
  unfold corrected
  unfold Unbounded.square at square sum ⊢
  unfold Unbounded.linear at linear sum ⊢
  push_cast at square linear sum ⊢
  rw [abs_le]
  constructor <;> linarith

end

theorem pressure_error {m : Measurement} (typical : m.calibration.Typical) :
    |(Unbounded.pressure m : ℚ) -
      2 ^ 8 * Formula.pressure m.calibration (centred m) m.adcPressure| ≤ 37 := by
  have near := centred_within typical.toTypicalTemperature
  have reading := reading_within m
  exact corrected_error (quotient_within typical near reading)
    (quotient_error typical near reading)

/-- With a typical calibration the pressure in integers is within a pascal of the formula, as long
as that is not below a pascal. -/
theorem pressure_within_a_pascal {m : Measurement} (typical : m.calibration.Typical) :
    ∃ fine q, m.fineTemperature = .ok fine ∧ m.pressureQ24_8 = .ok q ∧
      (1 ≤ Formula.pressure m.calibration (fine - 128000 : Int) m.adcPressure →
        |(q : ℚ) / 256 - Formula.pressure m.calibration (fine - 128000 : Int) m.adcPressure| <
          1) := by
  refine ⟨_, _, fineTemperature_typical typical.toTypicalTemperature,
    pressureQ24_8_typical typical, fun one_le => ?_⟩
  have error := pressure_error typical
  rw [centred, abs_le] at error
  -- A pascal is more than the error, so the pressure is not negative and comes out as it is.
  have nonneg : 0 ≤ Unbounded.pressure m := by
    have : (0 : ℚ) ≤ Unbounded.pressure m := by linarith
    exact_mod_cast this
  have same : (((Unbounded.pressure m).toNat : Nat) : ℚ) = Unbounded.pressure m := by
    exact_mod_cast Int.toNat_of_nonneg nonneg
  rw [same, abs_lt]
  constructor <;> linarith

theorem extreme_within_a_pascal : extreme.calibration.Typical ∧
    ∃ fine q, extreme.fineTemperature = .ok fine ∧ extreme.pressureQ24_8 = .ok q ∧
      1 ≤ Formula.pressure extreme.calibration (fine - 128000 : Int) extreme.adcPressure ∧
      |(q : ℚ) / 256 -
        Formula.pressure extreme.calibration (fine - 128000 : Int) extreme.adcPressure| < 1 := by
  obtain ⟨fine, q, ok, pressure, error⟩ := pressure_within_a_pascal extreme_typical
  have counted : fine = 1145524 := by
    rw [fineTemperature_typical extreme_typical.toTypicalTemperature] at ok
    cases ok
    decide
  subst counted
  have one_le : 1 ≤ Formula.pressure extreme.calibration ((1145524 : Int) - 128000 : Int)
    extreme.adcPressure := by decide +kernel
  exact ⟨extreme_typical, _, q, ok, pressure, one_le, error one_le⟩

end Measurement

end SensorBus.Bme280
