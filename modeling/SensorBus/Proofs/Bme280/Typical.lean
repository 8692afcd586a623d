import SensorBus.Proofs.Bme280.Reading
import SensorBus.Proofs.Bme280.Unbounded

namespace SensorBus.Bme280

open IntRange

namespace Calibration

structure TypicalTemperature (c : Calibration) : Prop where
  t1 : 27000 ≤ c.t1.toNat ∧ c.t1.toNat ≤ 30000
  t2 : 20000 ≤ c.t2.toInt ∧ c.t2.toInt ≤ 27500
  t3 : |c.t3.toInt| ≤ 5000

/-- The last three terms of pressure, and those of humidity, may be anything. -/
structure Typical (c : Calibration) : Prop extends TypicalTemperature c where
  p1 : 30000 ≤ c.p1.toNat ∧ c.p1.toNat ≤ 42000
  p2 : |c.p2.toInt| ≤ 12000
  p3 : |c.p3.toInt| ≤ 4000
  p4 : |c.p4.toInt| ≤ 12000
  p5 : |c.p5.toInt| ≤ 500
  p6 : |c.p6.toInt| ≤ 100

end Calibration

theorem abs_toInt_le (w : Int16) : |w.toInt| ≤ 2 ^ 15 := by
  have := w.le_toInt
  have := w.toInt_lt
  rw [abs_le]
  omega

namespace Measurement

namespace Unbounded

theorem slope_within {m : Measurement} (typical : m.calibration.TypicalTemperature) :
    -(60000 * 27500) ≤ slope m ∧ slope m ≤ 77071 * 27500 := by
  have adc : m.adcTemperature ≤ 0xFFFFF := joinAdc_le ..
  obtain ⟨t1, t2, -⟩ := typical
  have nonneg : 0 ≤ m.calibration.t2.toInt := by omega
  unfold slope
  constructor
  · calc
      -60000 * 27500 ≤ -60000 * m.calibration.t2.toInt :=
        Int.mul_le_mul_of_nonpos_left (by decide) t2.2
      _ ≤ _ := Int.mul_le_mul_of_nonneg_right (by omega) nonneg
  · calc
      _ ≤ 77071 * m.calibration.t2.toInt := Int.mul_le_mul_of_nonneg_right (by omega) nonneg
      _ ≤ 77071 * 27500 := Int.mul_le_mul_of_nonneg_left t2.2 (by decide)

theorem delta_within {m : Measurement} (typical : m.calibration.TypicalTemperature) :
    |delta m| ≤ 38535 := by
  have adc : m.adcTemperature ≤ 0xFFFFF := joinAdc_le ..
  have t1 := typical.t1
  unfold delta
  rw [abs_le]
  omega

theorem fineTemperature_within {m : Measurement} (typical : m.calibration.TypicalTemperature) :
    signed32.Holds (fineSteps m) ∧ -916303 ≤ fineTemperature m ∧ fineTemperature m ≤ 1145528 := by
  have adc : m.adcTemperature ≤ 0xFFFFF := joinAdc_le ..
  have slope := slope_within typical
  have delta := delta_within typical
  obtain ⟨t1, -, t3⟩ := typical
  have square := abs_mul_le delta delta
  have curve : |curve m| ≤ 362536 * 5000 := by
    refine abs_mul_le ?_ t3
    rw [abs_le] at square ⊢
    omega
  rw [abs_le] at delta square curve
  have fine : -916303 ≤ fineTemperature m ∧ fineTemperature m ≤ 1145528 := by
    unfold fineTemperature
    omega
  refine ⟨?_, fine⟩
  simp only [fineSteps, holds_cons, holds_nil, and_true, contains_iff, signed32]
  omega

theorem centred_within {m : Measurement} (typical : m.calibration.TypicalTemperature) :
    |centred m| ≤ 1044303 := by
  have fine := (fineTemperature_within typical).2
  rw [abs_le]
  unfold centred
  omega

theorem temperatureSteps_within {m : Measurement} (typical : m.calibration.TypicalTemperature) :
    signed32.Holds (temperatureSteps m) := by
  have fine := (fineTemperature_within typical).2
  simp only [temperatureSteps, holds_cons, holds_nil, and_true, contains_iff, signed32]
  omega

section

variable {c : Calibration} {fine adc : Int}

theorem offset_within (typical : c.Typical) (near : |fine| ≤ 1044303) :
    signed64.Holds (offsetSteps c fine) ∧ |offset c fine| ≤ 590000000000000 := by
  have fine2 := abs_mul_le near near
  have square := abs_mul_le fine2 typical.p6
  have linear := abs_mul_le near typical.p5
  have p4 := typical.p4
  rw [abs_le] at fine2 square linear p4
  have whole : |offset c fine| ≤ 590000000000000 := by
    rw [abs_le]
    unfold offset
    omega
  refine ⟨?_, whole⟩
  rw [abs_le] at whole
  simp only [offsetSteps, holds_cons, holds_nil, and_true, contains_iff, signed64]
  omega

theorem factor_within (typical : c.Typical) (near : |fine| ≤ 1044303) :
    |factor c fine| ≤ 68400000000000 := by
  have square := abs_mul_le (abs_mul_le near near) typical.p3
  have linear := abs_mul_le near typical.p2
  rw [abs_le] at square linear ⊢
  unfold factor
  omega

theorem product_within (typical : c.Typical) (near : |fine| ≤ 1044303) :
    72000000000000 * 30000 ≤ (2 ^ 47 + factor c fine) * c.p1.toNat ∧
      (2 ^ 47 + factor c fine) * c.p1.toNat ≤ 209200000000000 * 42000 := by
  have factor := factor_within typical near
  have p1 := typical.p1
  rw [abs_le] at factor
  constructor
  · exact Int.mul_le_mul (by omega) (by omega) (by omega) (by omega)
  · exact Int.mul_le_mul (by omega) (by omega) (by omega) (by omega)

theorem divisor_within (typical : c.Typical) (near : |fine| ≤ 1044303) :
    signed64.Holds (divisorSteps c fine) ∧ 250000000 ≤ divisor c fine := by
  have fine2 := abs_mul_le near near
  have square := abs_mul_le fine2 typical.p3
  have linear := abs_mul_le near typical.p2
  have factor := factor_within typical near
  have product := product_within typical near
  rw [abs_le] at fine2 square linear factor
  refine ⟨?_, by unfold divisor; omega⟩
  simp only [divisorSteps, holds_cons, holds_nil, and_true, contains_iff, signed64]
  omega

theorem dividend_within (typical : c.Typical) (near : |fine| ≤ 1044303)
    (reading : 0 ≤ adc ∧ adc ≤ 0xFFFFF) :
    signed64.Holds (dividendSteps c fine adc) ∧ |dividend c fine adc| ≤ 8900000000000000000 := by
  have offset := (offset_within typical near).2
  rw [abs_le] at offset ⊢
  refine ⟨?_, by unfold dividend; omega⟩
  simp only [dividendSteps, holds_cons, holds_nil, and_true, contains_iff, signed64, dividend]
  omega

theorem quotient_within (typical : c.Typical) (near : |fine| ≤ 1044303)
    (reading : 0 ≤ adc ∧ adc ≤ 0xFFFFF) : |quotient c fine adc| ≤ 35600000000 := by
  have above := (divisor_within typical near).2
  have small := (dividend_within typical near reading).2
  rw [Int.abs_eq_natAbs] at small ⊢
  have size : (quotient c fine adc).natAbs =
    (dividend c fine adc).natAbs / (divisor c fine).natAbs := Int.natAbs_tdiv _ _
  have below : (dividend c fine adc).natAbs / (divisor c fine).natAbs ≤
      8900000000000000000 / 250000000 := Nat.div_le_div (by omega) (by omega) (by decide)
  omega

end

theorem corrected_within (c : Calibration) {p : Int} (within : |p| ≤ 35600000000) :
    signed64.Holds (correctedSteps c p) ∧ corrected c p ≤ 0xFFFFFFFF := by
  have coarse : |p / 2 ^ 13| ≤ 4345704 := by
    rw [abs_le] at within ⊢
    omega
  have half := abs_mul_le (abs_toInt_le c.p9) coarse
  have square := abs_mul_le half coarse
  have linear := abs_mul_le (abs_toInt_le c.p8) within
  have p7 := abs_toInt_le c.p7
  rw [abs_le] at within half square linear p7
  simp only [correctedSteps, holds_cons, holds_nil, and_true, contains_iff, signed64, corrected]
  unfold Unbounded.square Unbounded.linear
  omega

theorem reading_within (m : Measurement) :
    0 ≤ (m.adcPressure : Int) ∧ (m.adcPressure : Int) ≤ 0xFFFFF :=
  ⟨Int.natCast_nonneg _, Int.ofNat_le.2 (joinAdc_le ..)⟩

theorem pressureSteps_within {m : Measurement} (typical : m.calibration.Typical) :
    signed64.Holds (pressureSteps m) := by
  have near := centred_within typical.toTypicalTemperature
  have reading := reading_within m
  have quotient := quotient_within typical near reading
  simp only [pressureSteps, holds_append, holds_cons]
  refine ⟨⟨⟨⟨?_, ?_⟩, ?_⟩, ?_⟩, ?_, ?_⟩
  · exact contains_of_abs_le near (by decide)
  · exact (offset_within typical near).1
  · exact (divisor_within typical near).1
  · exact (dividend_within typical near reading).1
  · exact contains_of_abs_le quotient (by decide)
  · exact (corrected_within m.calibration quotient).1

theorem divisor_pos {m : Measurement} (typical : m.calibration.Typical) :
    0 < divisor m.calibration (centred m) := by
  have := (divisor_within typical (centred_within typical.toTypicalTemperature)).2
  omega

theorem pressure_le {m : Measurement} (typical : m.calibration.Typical) :
    pressure m ≤ 0xFFFFFFFF :=
  have near := centred_within typical.toTypicalTemperature
  (corrected_within m.calibration (quotient_within typical near (reading_within m))).2

end Unbounded

theorem fineTemperature_typical {m : Measurement} (typical : m.calibration.TypicalTemperature) :
    m.fineTemperature = .ok (Unbounded.fineTemperature m) :=
  fineTemperature_eq_ok_iff.2 ⟨(Unbounded.fineTemperature_within typical).1, rfl⟩

theorem pressureQ24_8_typical {m : Measurement} (typical : m.calibration.Typical) :
    m.pressureQ24_8 = .ok (Unbounded.pressure m).toNat :=
  pressureQ24_8_eq_ok (fineTemperature_typical typical.toTypicalTemperature)
    (Unbounded.pressureSteps_within typical) (Unbounded.divisor_pos typical)
    (Unbounded.pressure_le typical)

/-- With a typical calibration nothing that the formulas for temperature and pressure come to leaves
the range of its type, so that the checked formulas, part by part, give what the unbounded ones
give. They divide by a positive number, and only a negative pressure comes out as zero. -/
theorem typical_in_range {m : Measurement} (typical : m.calibration.Typical) :
    signed32.Holds ((m.calibration.t1.toNat : Int) * 2 :: Unbounded.fineSteps m ++
        Unbounded.temperatureSteps m) ∧
      signed64.Holds (Unbounded.pressureSteps m) ∧
      (∀ shift ∈ Unbounded.leftShifts m,
        shiftLeft64 shift.1 shift.2 = shift.1 * 2 ^ shift.2) ∧
      pressureOffset m.calibration (Unbounded.centred m) =
        .ok (Unbounded.offset m.calibration (Unbounded.centred m)) ∧
      pressureDivisor m.calibration (Unbounded.centred m) =
        .ok (Unbounded.divisor m.calibration (Unbounded.centred m)) ∧
      pressureFrom m.calibration m.adcPressure
          (Unbounded.offset m.calibration (Unbounded.centred m))
          (Unbounded.divisor m.calibration (Unbounded.centred m)) =
        .ok (Unbounded.pressure m) ∧
      0 < Unbounded.divisor m.calibration (Unbounded.centred m) ∧
      Unbounded.pressure m ≤ 0xFFFFFFFF ∧
      m.fineTemperature = .ok (Unbounded.fineTemperature m) ∧
      m.temperature = .ok (Unbounded.temperature m) ∧
      m.pressureQ24_8 = .ok (Unbounded.pressure m).toNat ∧
      m.pressure = .ok ((Unbounded.pressure m).toNat / 2 ^ 8) := by
  have doubled : signed32.contains ((m.calibration.t1.toNat : Int) * 2) = true := by
    have := typical.t1
    simp only [contains_iff, signed32]
    omega
  have fine := (Unbounded.fineTemperature_within typical.toTypicalTemperature).1
  have degrees := Unbounded.temperatureSteps_within typical.toTypicalTemperature
  have near := Unbounded.centred_within typical.toTypicalTemperature
  have reading := Unbounded.reading_within m
  have steps := Unbounded.pressureSteps_within typical
  have ok := fineTemperature_typical typical.toTypicalTemperature
  have pressure := pressureQ24_8_typical typical
  refine ⟨holds_append.2 ⟨holds_cons.2 ⟨doubled, fine⟩, degrees⟩, steps, leftShifts_eq steps,
    pressureOffset_eq_ok (Unbounded.offset_within typical near).1,
    pressureDivisor_eq_ok (Unbounded.divisor_within typical near).1,
    pressureFrom_eq_ok (Unbounded.dividend_within typical near reading).1
      (Unbounded.corrected_within _ (Unbounded.quotient_within typical near reading)).1,
    Unbounded.divisor_pos typical, Unbounded.pressure_le typical, ok,
    temperature_eq_ok ok degrees, pressure, ?_⟩
  rw [Measurement.pressure, pressure]
  exact congrArg Except.ok (Nat.shiftRight_eq_div_pow _ 8)

def extreme : Measurement where
  raw := #v[0, 0, 0, 0xFF, 0xFF, 0xF0, 0, 0]
  calibration :=
    { t1 := 27000, t2 := 27500, t3 := 5000, p1 := 42000, p2 := 12000, p3 := 4000, p4 := -12000,
      p5 := -500, p6 := -100, p7 := 32767, p8 := 32767, p9 := 32767 }

theorem extreme_typical : extreme.calibration.Typical :=
  ⟨⟨by decide, by decide, by decide⟩, by decide, by decide, by decide, by decide, by decide,
    by decide⟩

theorem extreme_in_range : extreme.calibration.Typical ∧
    extreme.fineTemperature = .ok 1145524 ∧ extreme.temperature = .ok 22374 ∧
      extreme.pressureQ24_8 = .ok 41214273 ∧ extreme.pressure = .ok 160993 := by
  have degrees : Unbounded.fineTemperature extreme = 1145524 ∧
    Unbounded.temperature extreme = 22374 := by decide
  have pascals : Unbounded.pressure extreme = 41214273 := by decide
  obtain ⟨-, -, -, -, -, -, -, -, fine, temperature, q24_8, pressure⟩ :=
    typical_in_range extreme_typical
  rw [degrees.1] at fine
  rw [degrees.2] at temperature
  rw [pascals] at q24_8 pressure
  exact ⟨extreme_typical, fine, temperature, q24_8, pressure⟩

end Measurement

end SensorBus.Bme280
