import SensorBus.Bme280.Compensation
import SensorBus.Proofs.Checked

/-!
The formulas for temperature and pressure in unbounded integers, where nothing is checked and no
shift drops anything. Beside each formula stands what its operations come to, in the order of
evaluation; where all of that is within the range of its type, the checked formula gives the same.
Shifts to the right are left out there: they take nothing out of a range.
-/

namespace SensorBus.Bme280.Measurement

open IntRange

namespace Unbounded

section

variable (m : Measurement)

def slope : Int :=
  ((m.adcTemperature : Int) / 2 ^ 3 - m.calibration.t1.toNat * 2) * m.calibration.t2.toInt

def delta : Int := (m.adcTemperature : Int) / 2 ^ 4 - m.calibration.t1.toNat

def curve : Int := delta m * delta m / 2 ^ 12 * m.calibration.t3.toInt

def fineTemperature : Int := slope m / 2 ^ 11 + curve m / 2 ^ 14

def fineSteps : List Int :=
  [(m.adcTemperature : Int) / 2 ^ 3 - m.calibration.t1.toNat * 2, slope m, delta m,
    delta m * delta m, curve m, fineTemperature m]

def temperature : Int := (fineTemperature m * 5 + 128) / 2 ^ 8

def temperatureSteps : List Int := [fineTemperature m * 5, fineTemperature m * 5 + 128]

end

section

variable (c : Calibration) (fine adc : Int)

def offset : Int :=
  fine * fine * c.p6.toInt + fine * c.p5.toInt * 2 ^ 17 + c.p4.toInt * 2 ^ 35

def offsetSteps : List Int :=
  [fine * fine, fine * fine * c.p6.toInt, fine * c.p5.toInt, fine * c.p5.toInt * 2 ^ 17,
    fine * fine * c.p6.toInt + fine * c.p5.toInt * 2 ^ 17, c.p4.toInt * 2 ^ 35, offset c fine]

def factor : Int := fine * fine * c.p3.toInt / 2 ^ 8 + fine * c.p2.toInt * 2 ^ 12

def divisor : Int := (2 ^ 47 + factor c fine) * c.p1.toNat / 2 ^ 33

def divisorSteps : List Int :=
  [fine * fine, fine * fine * c.p3.toInt, fine * c.p2.toInt, fine * c.p2.toInt * 2 ^ 12,
    factor c fine, 2 ^ 47 + factor c fine, (2 ^ 47 + factor c fine) * c.p1.toNat]

def dividend : Int := ((1048576 - adc) * 2 ^ 31 - offset c fine) * 3125

def dividendSteps : List Int :=
  [1048576 - adc, (1048576 - adc) * 2 ^ 31, (1048576 - adc) * 2 ^ 31 - offset c fine,
    dividend c fine adc]

def quotient : Int := (dividend c fine adc).tdiv (divisor c fine)

end

section

variable (c : Calibration) (p : Int)

def square : Int := c.p9.toInt * (p / 2 ^ 13) * (p / 2 ^ 13)

def linear : Int := c.p8.toInt * p

def corrected : Int :=
  (p + square c p / 2 ^ 25 + linear c p / 2 ^ 19) / 2 ^ 8 + c.p7.toInt * 2 ^ 4

def correctedSteps : List Int :=
  [c.p9.toInt * (p / 2 ^ 13), square c p, linear c p, p + square c p / 2 ^ 25,
    p + square c p / 2 ^ 25 + linear c p / 2 ^ 19, c.p7.toInt * 2 ^ 4, corrected c p]

end

section

variable (m : Measurement)

def centred : Int := fineTemperature m - 128000

def pressureSteps : List Int :=
  let p := quotient m.calibration (centred m) m.adcPressure
  centred m :: offsetSteps m.calibration (centred m) ++ divisorSteps m.calibration (centred m) ++
    dividendSteps m.calibration (centred m) m.adcPressure ++ p :: correctedSteps m.calibration p

/-- What is shifted to the left, and how far: the shifts are the operations that nothing checks. -/
def leftShifts : List (Int × Nat) :=
  [(centred m * m.calibration.p5.toInt, 17), (m.calibration.p4.toInt, 35),
    (centred m * m.calibration.p2.toInt, 12), (1048576 - m.adcPressure, 31),
    (m.calibration.p7.toInt, 4)]

def pressure : Int :=
  corrected m.calibration (quotient m.calibration (centred m) m.adcPressure)

end

end Unbounded

section

variable {m : Measurement}

theorem fineTemperature_eq_ok_iff {fine : Int} : m.fineTemperature = .ok fine ↔
    signed32.Holds (Unbounded.fineSteps m) ∧ Unbounded.fineTemperature m = fine := by
  simp only [fineTemperature, subtract, multiply, add, check_bind_eq_ok_iff, check_eq_ok_iff,
    shiftRight_eq, Unbounded.fineSteps, holds_cons, holds_nil, and_true, and_assoc]
  rfl

theorem temperature_eq_ok {fine : Int} (ok : m.fineTemperature = .ok fine)
    (holds : signed32.Holds (Unbounded.temperatureSteps m)) :
    m.temperature = .ok (Unbounded.temperature m) := by
  obtain ⟨-, rfl⟩ := fineTemperature_eq_ok_iff.1 ok
  simp only [Unbounded.temperatureSteps, holds_cons, holds_nil, and_true] at holds
  rw [temperature, ok]
  refine check_bind_eq_ok_iff.2 ⟨holds.1, check_bind_eq_ok_iff.2 ⟨holds.2, ?_⟩⟩
  exact congrArg Except.ok (shiftRight_eq _ _)

end

section

variable {c : Calibration} {fine adc : Int}

theorem pressureOffset_eq_ok (holds : signed64.Holds (Unbounded.offsetSteps c fine)) :
    pressureOffset c fine = .ok (Unbounded.offset c fine) := by
  simp only [Unbounded.offsetSteps, holds_cons, holds_nil, and_true] at holds
  obtain ⟨fine2, square, linear, shifted, sum, constant, whole⟩ := holds
  simp only [pressureOffset, multiply, add, check_bind_eq_ok_iff, check_eq_ok_iff,
    shiftLeft64_eq shifted, shiftLeft64_eq constant]
  exact ⟨fine2, square, linear, sum, whole, rfl⟩

theorem pressureDivisor_eq_ok (holds : signed64.Holds (Unbounded.divisorSteps c fine)) :
    pressureDivisor c fine = .ok (Unbounded.divisor c fine) := by
  simp only [Unbounded.divisorSteps, holds_cons, holds_nil, and_true] at holds
  obtain ⟨fine2, square, linear, shifted, factor, sum, product⟩ := holds
  simp only [pressureDivisor, multiply, add, check_bind_eq_ok_iff,
    shiftLeft64_eq shifted, shiftRight_eq]
  exact ⟨fine2, square, linear, factor, sum, product, rfl⟩

theorem pressureFrom_eq_ok (dividend : signed64.Holds (Unbounded.dividendSteps c fine adc))
    (corrected : signed64.Holds (Unbounded.correctedSteps c (Unbounded.quotient c fine adc))) :
    pressureFrom c adc (Unbounded.offset c fine) (Unbounded.divisor c fine) =
      .ok (Unbounded.corrected c (Unbounded.quotient c fine adc)) := by
  simp only [Unbounded.dividendSteps, holds_cons, holds_nil, and_true] at dividend
  simp only [Unbounded.correctedSteps, holds_cons, holds_nil, and_true] at corrected
  obtain ⟨reading, shifted, difference, scaled⟩ := dividend
  obtain ⟨half, square, linear, sum, whole, constant, result⟩ := corrected
  simp only [pressureFrom, multiply, add, subtract, check_bind_eq_ok_iff, check_eq_ok_iff,
    shiftLeft64_eq shifted, shiftLeft64_eq constant, shiftRight_eq]
  exact ⟨reading, difference, scaled, half, square, linear, sum, whole, result, rfl⟩

end

section

variable {m : Measurement}

theorem leftShifts_eq (holds : signed64.Holds (Unbounded.pressureSteps m)) :
    ∀ shift ∈ Unbounded.leftShifts m,
      shiftLeft64 shift.1 shift.2 = shift.1 * 2 ^ shift.2 := by
  intro shift mem
  apply shiftLeft64_eq
  apply holds
  simp only [Unbounded.leftShifts, List.mem_cons, List.not_mem_nil, or_false] at mem
  obtain rfl | rfl | rfl | rfl | rfl := mem <;>
    simp [Unbounded.pressureSteps, Unbounded.offsetSteps, Unbounded.divisorSteps,
      Unbounded.dividendSteps, Unbounded.correctedSteps]

theorem pressureQ24_8_eq_ok {fine : Int} (ok : m.fineTemperature = .ok fine)
    (holds : signed64.Holds (Unbounded.pressureSteps m))
    (positive : 0 < Unbounded.divisor m.calibration (Unbounded.centred m))
    (le : Unbounded.pressure m ≤ 0xFFFFFFFF) :
    m.pressureQ24_8 = .ok (Unbounded.pressure m).toNat := by
  obtain ⟨-, rfl⟩ := fineTemperature_eq_ok_iff.1 ok
  simp only [Unbounded.pressureSteps, holds_cons, holds_append] at holds
  obtain ⟨⟨⟨⟨centred, offset⟩, divisor⟩, dividend⟩, -, corrected⟩ := holds
  have counted : signed64.subtract (Unbounded.fineTemperature m) 128000 =
      .ok (Unbounded.centred m) := check_eq_ok_iff.2 ⟨centred, rfl⟩
  have offset := pressureOffset_eq_ok offset
  have divisor := pressureDivisor_eq_ok divisor
  have whole := pressureFrom_eq_ok dividend corrected
  simp only [pressureQ24_8, ok, counted, offset, divisor, bind, Except.bind, if_neg positive.ne',
    whole]
  by_cases negative : Unbounded.pressure m < 0
  · have outside : ¬ unsigned32.contains (Unbounded.pressure m) = true := fun within =>
      absurd (contains_iff.1 within).1 (not_le.2 negative)
    rw [Int.toNat_of_nonpos negative.le]
    exact congrArg Except.ok (if_neg outside)
  · have within : unsigned32.contains (Unbounded.pressure m) = true :=
      contains_iff.2 ⟨not_lt.1 negative, le⟩
    exact congrArg Except.ok (if_pos within)

end

end SensorBus.Bme280.Measurement
