import Mathlib.Tactic.Linarith
import Mathlib.Tactic.Ring
import SensorBus.Proofs.Bme280.Reading
import SensorBus.Proofs.Bme280.Typical

/-!
How results follow their readings. For typical calibrations the temperature rises with its reading:
its linear term takes a step for every eight counts, its square, which may fall, one for every
sixteen, and the least of the former is greater than the greatest of the latter. The pressure falls
where its reading rises. The correction at the end of the formula is not monotone by itself, for it
squares what may be negative and rounds it, but the division before it turns one step of the reading
into thousands.
-/

namespace SensorBus.Bme280

open IntRange

theorem tdiv_add_le {x y d k : Int} (positive : 0 < d) (gap : y + (k + 1) * d ≤ x) :
    y.tdiv d + k ≤ x.tdiv d := by
  have low := Int.tmod_lt_of_pos x positive
  have high := Int.lt_tmod_of_pos y positive
  have whole := Int.mul_tdiv_add_tmod x d
  have whole' := Int.mul_tdiv_add_tmod y d
  have below : d * (y.tdiv d + k) < d * (x.tdiv d + 1) := by linarith
  exact Int.lt_add_one_iff.1 (lt_of_mul_lt_mul_left below positive.le)

namespace Measurement

namespace Unbounded

variable {m m' : Measurement}

theorem slope_step (typical : m.calibration.TypicalTemperature)
    (calibration : m'.calibration = m.calibration) {count : Nat}
    (step : m'.adcTemperature / 2 ^ 3 = m.adcTemperature / 2 ^ 3 + count) :
    slope m / 2 ^ 11 + 9 * count ≤ slope m' / 2 ^ 11 := by
  have reading : (m'.adcTemperature : Int) / 2 ^ 3 = m.adcTemperature / 2 ^ 3 + count := by
    exact_mod_cast step
  have least := mul_le_mul_of_nonneg_right typical.t2.1 (Int.natCast_nonneg count)
  have rises : slope m + 20000 * count ≤ slope m' := by
    calc
      slope m + 20000 * count ≤ slope m + m.calibration.t2.toInt * count := by omega
      _ = slope m' := by
        unfold slope
        rw [calibration, reading]
        ring
  omega

theorem delta_square_step (typical : m.calibration.TypicalTemperature)
    (calibration : m'.calibration = m.calibration) {count : Nat}
    (step : m'.adcTemperature / 2 ^ 4 = m.adcTemperature / 2 ^ 4 + count) :
    |delta m' * delta m' / 2 ^ 12 - delta m * delta m / 2 ^ 12| ≤ 19 * (count : Int) := by
  have typical' : m'.calibration.TypicalTemperature := by rwa [calibration]
  have apart : delta m' - delta m = count := by
    unfold delta
    rw [calibration]
    omega
  have roots : |delta m' + delta m| ≤ 77070 := by
    have size := delta_within typical
    have size' := delta_within typical'
    rw [abs_le] at *
    omega
  have squares : |delta m' * delta m' - delta m * delta m| ≤ 77070 * count := by
    have scaled := abs_mul_le roots (le_refl |(count : Int)|)
    rw [Nat.abs_cast, ← apart] at scaled
    rwa [← mul_self_sub_mul_self, apart] at scaled
  rw [abs_le] at squares ⊢
  omega

theorem curve_step (typical : m.calibration.TypicalTemperature)
    (calibration : m'.calibration = m.calibration) {count : Nat}
    (step : m'.adcTemperature / 2 ^ 4 = m.adcTemperature / 2 ^ 4 + count) :
    curve m / 2 ^ 14 ≤ curve m' / 2 ^ 14 + 6 * count := by
  have scaled := abs_mul_le (delta_square_step typical calibration step) typical.t3
  have difference : (delta m' * delta m' / 2 ^ 12 - delta m * delta m / 2 ^ 12) *
      m.calibration.t3.toInt = curve m' - curve m := by
    unfold curve
    rw [calibration]
    ring
  rw [difference, abs_le] at scaled
  omega

theorem fineTemperature_le_of_reading_le (typical : m.calibration.TypicalTemperature)
    (calibration : m'.calibration = m.calibration) (le : m.adcTemperature ≤ m'.adcTemperature) :
    fineTemperature m ≤ fineTemperature m' := by
  obtain ⟨eighths, step⟩ := Nat.exists_eq_add_of_le (Nat.div_le_div_right le (c := 2 ^ 3))
  obtain ⟨sixteenths, step'⟩ := Nat.exists_eq_add_of_le (Nat.div_le_div_right le (c := 2 ^ 4))
  have slope := slope_step typical calibration step
  have curve := curve_step typical calibration step'
  have fewer : sixteenths ≤ eighths := by omega
  unfold fineTemperature
  omega

end Unbounded

/-- With one typical calibration the higher of two readings does not give the lower temperature. -/
theorem temperature_monotone {m m' : Measurement} (typical : m.calibration.TypicalTemperature)
    (calibration : m'.calibration = m.calibration) (le : m.adcTemperature ≤ m'.adcTemperature) :
    ∃ fine fine' degrees degrees',
      m.fineTemperature = .ok fine ∧ m'.fineTemperature = .ok fine' ∧ fine ≤ fine' ∧
        m.temperature = .ok degrees ∧ m'.temperature = .ok degrees' ∧ degrees ≤ degrees' := by
  have typical' : m'.calibration.TypicalTemperature := by rwa [calibration]
  have ok := fineTemperature_typical typical
  have ok' := fineTemperature_typical typical'
  have rises := Unbounded.fineTemperature_le_of_reading_le typical calibration le
  refine ⟨_, _, _, _, ok, ok', rises,
    temperature_eq_ok ok (Unbounded.temperatureSteps_within typical),
    temperature_eq_ok ok' (Unbounded.temperatureSteps_within typical'), ?_⟩
  unfold Unbounded.temperature
  omega

/-- At the next reading the linear term takes its shortest step up and the square its longest one
down. -/
def flat : Measurement where
  raw := #v[0, 0, 0, 0xEC, 0x51, 0xF0, 0, 0]
  calibration := { t1 := 27000, t2 := 20000, t3 := -5000 }

theorem flat_typical : flat.calibration.TypicalTemperature :=
  ⟨by decide, by decide, by decide⟩

theorem flat_rises : flat.calibration.TypicalTemperature ∧
    (flat.setAdcTemperature 0xEC520).calibration = flat.calibration ∧
      flat.adcTemperature ≤ (flat.setAdcTemperature 0xEC520).adcTemperature ∧
      ∃ fine fine' degrees degrees', flat.fineTemperature = .ok fine ∧
        (flat.setAdcTemperature 0xEC520).fineTemperature = .ok fine' ∧ fine ≤ fine' ∧
        flat.temperature = .ok degrees ∧
        (flat.setAdcTemperature 0xEC520).temperature = .ok degrees' ∧ degrees ≤ degrees' ∧
          fine = 570649 ∧ fine' = 570652 ∧ degrees = 11145 ∧ degrees' = 11146 := by
  have calibration := calibration_setAdcTemperature flat 0xEC520
  have le : flat.adcTemperature ≤ (flat.setAdcTemperature 0xEC520).adcTemperature := by decide
  obtain ⟨fine, fine', degrees, degrees', ok, ok', rises, warm, warm', warmer⟩ :=
    temperature_monotone flat_typical calibration le
  refine ⟨flat_typical, calibration, le, _, _, _, _, ok, ok', rises, warm, warm', warmer, ?_⟩
  have values : flat.fineTemperature = .ok 570649 ∧ flat.temperature = .ok 11145 := by decide
  have values' : (flat.setAdcTemperature 0xEC520).fineTemperature = .ok 570652 ∧
    (flat.setAdcTemperature 0xEC520).temperature = .ok 11146 := by decide
  rw [values.1] at ok
  rw [values.2] at warm
  rw [values'.1] at ok'
  rw [values'.2] at warm'
  cases ok
  cases ok'
  cases warm
  cases warm'
  exact ⟨rfl, rfl, rfl, rfl⟩

namespace Unbounded

variable {c : Calibration} {fine adc adc' : Int}

theorem divisor_le (typical : c.Typical) (near : |fine| ≤ 1044303) :
    divisor c fine ≤ 1022900000 := by
  have product := (product_within typical near).2
  unfold divisor
  omega

theorem dividend_step (lt : adc < adc') :
    dividend c fine adc' + 2 ^ 31 * 3125 ≤ dividend c fine adc := by
  unfold dividend
  omega

theorem quotient_step (typical : c.Typical) (near : |fine| ≤ 1044303) (lt : adc < adc') :
    quotient c fine adc' + 6500 ≤ quotient c fine adc := by
  have positive : 0 < divisor c fine := by
    have := (divisor_within typical near).2
    omega
  have le := divisor_le typical near
  have step : dividend c fine adc' + 2 ^ 31 * 3125 ≤ dividend c fine adc := dividend_step lt
  exact tdiv_add_le positive (by omega)

theorem quotient_ge (typical : c.Typical) (near : |fine| ≤ 1044303) (reading : adc ≤ 0xFFFFF) :
    -7400000000 ≤ quotient c fine adc := by
  have above := (divisor_within typical near).2
  have offset := (offset_within typical near).2
  rw [abs_le] at offset
  have least : -7400000000 * divisor c fine ≤ dividend c fine adc := by
    unfold dividend
    omega
  calc
    -7400000000 = (-7400000000 * divisor c fine).tdiv (divisor c fine) :=
      (Int.mul_tdiv_cancel _ (by omega)).symm
    _ ≤ _ := Int.tdiv_le_tdiv (by omega) least

theorem square_step {p p' : Int} (p9 : 0 ≤ c.p9.toInt) (least : -7400000000 ≤ p') (le : p' ≤ p) :
    square c p' - square c p ≤ 2 ^ 15 * ((p / 2 ^ 13 - p' / 2 ^ 13) * 1806642) := by
  have coarse : 0 ≤ p / 2 ^ 13 - p' / 2 ^ 13 := by omega
  calc
    square c p' - square c p =
        c.p9.toInt * ((p / 2 ^ 13 - p' / 2 ^ 13) * -(p / 2 ^ 13 + p' / 2 ^ 13)) := by
      unfold square
      ring
    _ ≤ c.p9.toInt * ((p / 2 ^ 13 - p' / 2 ^ 13) * 1806642) :=
      mul_le_mul_of_nonneg_left (mul_le_mul_of_nonneg_left (by omega) coarse) p9
    _ ≤ 2 ^ 15 * ((p / 2 ^ 13 - p' / 2 ^ 13) * 1806642) :=
      mul_le_mul_of_nonneg_right c.p9.toInt_lt.le (by omega)

theorem linear_step (c : Calibration) {p p' : Int} (le : p' ≤ p) :
    linear c p' - linear c p ≤ 2 ^ 15 * (p - p') := by
  have p8 := c.p8.le_toInt
  calc
    linear c p' - linear c p = -c.p8.toInt * (p - p') := by
      unfold linear
      ring
    _ ≤ 2 ^ 15 * (p - p') := mul_le_mul_of_nonneg_right (by omega) (by omega)

theorem corrected_step {p p' : Int} (p9 : 0 ≤ c.p9.toInt) (least : -7400000000 ≤ p')
    (step : p' + 6500 ≤ p) : corrected c p' ≤ corrected c p := by
  have square := square_step p9 least (by omega : p' ≤ p)
  have linear := linear_step c (by omega : p' ≤ p)
  have sum : p' + Unbounded.square c p' / 2 ^ 25 + Unbounded.linear c p' / 2 ^ 19 ≤
      p + Unbounded.square c p / 2 ^ 25 + Unbounded.linear c p / 2 ^ 19 := by
    omega
  unfold corrected
  omega

/-- A smaller step may lead up. -/
example :
    let c : Calibration := { p9 := 32767 }
    corrected c (-7372800000) < corrected c (-7372800001) := by
  decide

theorem pressure_le_of_reading_le {m m' : Measurement} (typical : m.calibration.Typical)
    (p9 : 0 ≤ m.calibration.p9.toInt) (calibration : m'.calibration = m.calibration)
    (temperature : m'.adcTemperature = m.adcTemperature) (le : m.adcPressure ≤ m'.adcPressure) :
    pressure m' ≤ pressure m := by
  have near := centred_within typical.toTypicalTemperature
  have same : centred m' = centred m := by
    simp only [centred, fineTemperature, slope, curve, delta, calibration, temperature]
  unfold pressure
  rw [calibration, same]
  obtain lt | eq := lt_or_eq_of_le le
  · have step := quotient_step typical near (Int.ofNat_lt.2 lt)
    exact corrected_step p9 (quotient_ge typical near (reading_within m').2) step
  · rw [eq]

end Unbounded

/-- With one typical calibration and one temperature the higher of two readings does not give the
higher pressure, as long as the correction does not take the square away. -/
theorem pressure_antitone {m m' : Measurement} (typical : m.calibration.Typical)
    (p9 : 0 ≤ m.calibration.p9.toInt) (calibration : m'.calibration = m.calibration)
    (temperature : m'.adcTemperature = m.adcTemperature) (le : m.adcPressure ≤ m'.adcPressure) :
    ∃ q q', m.pressureQ24_8 = .ok q ∧ m'.pressureQ24_8 = .ok q' ∧ q' ≤ q := by
  have typical' : m'.calibration.Typical := by rwa [calibration]
  exact ⟨_, _, pressureQ24_8_typical typical, pressureQ24_8_typical typical',
    Int.toNat_le_toNat (Unbounded.pressure_le_of_reading_le typical p9 calibration temperature le)⟩

def steep : Measurement where
  raw := #v[0xBE, 0x6E, 0, 0xFF, 0xFF, 0xF0, 0, 0]
  calibration :=
    { t1 := 27000, t2 := 27500, t3 := 5000, p1 := 42000, p2 := 12000, p3 := 4000, p4 := 12000,
      p5 := 500, p6 := 100, p7 := 32767, p8 := 32767, p9 := 32767 }

theorem steep_typical : steep.calibration.Typical :=
  ⟨⟨by decide, by decide, by decide⟩, by decide, by decide, by decide, by decide, by decide,
    by decide⟩

theorem steep_falls : steep.calibration.Typical ∧ 0 ≤ steep.calibration.p9.toInt ∧
    (steep.setAdcPressure 780001).calibration = steep.calibration ∧
      (steep.setAdcPressure 780001).adcTemperature = steep.adcTemperature ∧
      steep.adcPressure ≤ (steep.setAdcPressure 780001).adcPressure ∧
      ∃ q q', steep.pressureQ24_8 = .ok q ∧
        (steep.setAdcPressure 780001).pressureQ24_8 = .ok q' ∧ q' ≤ q ∧
          q = 450269 ∧ q' = 450241 := by
  have p9 : 0 ≤ steep.calibration.p9.toInt := by decide
  have calibration := calibration_setAdcPressure steep 780001
  have temperature := adcTemperature_setAdcPressure steep 780001
  have le : steep.adcPressure ≤ (steep.setAdcPressure 780001).adcPressure := by decide
  obtain ⟨q, q', ok, ok', falls⟩ :=
    pressure_antitone steep_typical p9 calibration temperature le
  have pascals : Unbounded.pressure steep = 450269 ∧
    Unbounded.pressure (steep.setAdcPressure 780001) = 450241 := by decide
  have typical' : (steep.setAdcPressure 780001).calibration.Typical := by
    rw [calibration]
    exact steep_typical
  have first := pressureQ24_8_typical steep_typical
  have second := pressureQ24_8_typical typical'
  rw [pascals.1, ok] at first
  rw [pascals.2, ok'] at second
  cases first
  cases second
  exact ⟨steep_typical, p9, calibration, temperature, le, _, _, ok, ok', falls, rfl, rfl⟩

end Measurement

end SensorBus.Bme280
