import SensorBus.Proofs.Bme280.Accuracy
import SensorBus.Proofs.Bme280.Reading

namespace SensorBus.Bme280

open IntRange

namespace Measurement

namespace Unbounded

variable {first m last : Measurement}

theorem fineTemperature_bounds (slope : signed32.contains (slope m) = true)
    (curve : signed32.contains (curve m) = true) :
    -1179648 ≤ fineTemperature m ∧ fineTemperature m ≤ 1179646 := by
  simp only [contains_iff, signed32] at slope curve
  unfold fineTemperature
  omega

theorem temperatureSteps_of_bounds
    (bounds : -1179648 ≤ fineTemperature m ∧ fineTemperature m ≤ 1179646) :
    signed32.Holds (temperatureSteps m) := by
  simp only [temperatureSteps, holds_cons, holds_nil, and_true, contains_iff, signed32]
  omega

structure Between (first m last : Measurement) : Prop where
  atFirst : first.calibration = m.calibration
  atLast : last.calibration = m.calibration
  low : first.adcTemperature ≤ m.adcTemperature
  high : m.adcTemperature ≤ last.adcTemperature

theorem doubled_between (between : Between first m last) :
    (first.adcTemperature : Int) / 2 ^ 3 - first.calibration.t1.toNat * 2 ≤
        (m.adcTemperature : Int) / 2 ^ 3 - m.calibration.t1.toNat * 2 ∧
      (m.adcTemperature : Int) / 2 ^ 3 - m.calibration.t1.toNat * 2 ≤
        (last.adcTemperature : Int) / 2 ^ 3 - last.calibration.t1.toNat * 2 := by
  obtain ⟨atFirst, atLast, low, high⟩ := between
  rw [atFirst, atLast]
  omega

theorem delta_between (between : Between first m last) :
    delta first ≤ delta m ∧ delta m ≤ delta last := by
  obtain ⟨atFirst, atLast, low, high⟩ := between
  unfold delta
  rw [atFirst, atLast]
  omega

theorem slope_between (between : Between first m last)
    (atFirst : signed32.contains (slope first) = true)
    (atLast : signed32.contains (slope last) = true) : signed32.contains (slope m) = true := by
  obtain ⟨low, high⟩ := doubled_between between
  unfold slope at *
  rw [between.atFirst] at atFirst low
  rw [between.atLast] at atLast high
  exact contains_mul_of_between low high atFirst atLast

theorem curve_of_square_le {other : Measurement} (same : other.calibration = m.calibration)
    (le : delta m * delta m ≤ delta other * delta other)
    (square : signed32.contains (delta other * delta other) = true)
    (curve : signed32.contains (curve other) = true) :
    signed32.contains (delta m * delta m) = true ∧
      signed32.contains (Unbounded.curve m) = true := by
  have nonneg : 0 ≤ delta m * delta m := mul_self_nonneg _
  have atZero : signed32.contains (0 * m.calibration.t3.toInt) = true := by
    rw [zero_mul]
    decide
  unfold Unbounded.curve at *
  rw [same] at curve
  exact ⟨contains_of_between nonneg le (by decide) square,
    contains_mul_of_between (Int.ediv_nonneg nonneg (by decide))
      (Int.ediv_le_ediv (by decide) le) atZero curve⟩

/-- What stays in range at two readings does so between them. -/
theorem fineSteps_between (between : Between first m last)
    (atFirst : signed32.Holds (fineSteps first)) (atLast : signed32.Holds (fineSteps last)) :
    signed32.Holds (fineSteps m) := by
  simp only [fineSteps, holds_cons, holds_nil, and_true] at atFirst atLast ⊢
  obtain ⟨doubled, slope, delta, square, curve, -⟩ := atFirst
  obtain ⟨doubled', slope', delta', square', curve', -⟩ := atLast
  have doubled := contains_of_between (doubled_between between).1 (doubled_between between).2
    doubled doubled'
  have slope := slope_between between slope slope'
  obtain ⟨low, high⟩ := delta_between between
  have delta := contains_of_between low high delta delta'
  obtain ⟨square, curve⟩ : signed32.contains (Unbounded.delta m * Unbounded.delta m) = true ∧
      signed32.contains (Unbounded.curve m) = true := by
    obtain le | le := mul_self_le_of_between low high
    · exact curve_of_square_le between.atFirst le square curve
    · exact curve_of_square_le between.atLast le square' curve'
  have bounds := fineTemperature_bounds slope curve
  have fine : signed32.contains (fineTemperature m) = true :=
    contains_of_between bounds.1 bounds.2 (by decide) (by decide)
  exact ⟨doubled, slope, delta, square, curve, fine⟩

end Unbounded

theorem isOk_fineTemperature_iff {m : Measurement} :
    m.fineTemperature.isOk = true ↔ signed32.Holds (Unbounded.fineSteps m) := by
  cases ok : m.fineTemperature with
  | ok fine => exact iff_of_true rfl (fineTemperature_eq_ok_iff.1 ok).1
  | error violation =>
    refine iff_of_false Bool.false_ne_true fun holds => ?_
    rw [fineTemperature_eq_ok_iff.2 ⟨holds, rfl⟩] at ok
    cases ok

theorem temperature_of_fineTemperature {m : Measurement} {fine : Int}
    (ok : m.fineTemperature = .ok fine) :
    -1179648 ≤ fine ∧ fine ≤ 1179646 ∧ m.temperature = .ok ((fine * 5 + 128) / 2 ^ 8) := by
  obtain ⟨holds, rfl⟩ := fineTemperature_eq_ok_iff.1 ok
  simp only [Unbounded.fineSteps, holds_cons, holds_nil, and_true] at holds
  obtain ⟨-, slope, -, -, curve, -⟩ := holds
  have bounds := Unbounded.fineTemperature_bounds slope curve
  exact ⟨bounds.1, bounds.2, temperature_eq_ok ok (Unbounded.temperatureSteps_of_bounds bounds)⟩

/-- Two readings decide whether a calibration has a temperature for all of them: the lowest and the
highest. Where there is a fine temperature, it leaves room enough for the temperature. -/
theorem two_readings_decide (m : Measurement) :
    ((∀ m' : Measurement, m'.calibration = m.calibration →
        m'.fineTemperature.isOk = true ∧ m'.temperature.isOk = true) ↔
      (m.setAdcTemperature 0).fineTemperature.isOk = true ∧
        (m.setAdcTemperature 0xFFFFF).fineTemperature.isOk = true) ∧
    ∀ fine, m.fineTemperature = .ok fine →
      -1179648 ≤ fine ∧ fine ≤ 1179646 ∧ m.temperature = .ok ((fine * 5 + 128) / 2 ^ 8) := by
  refine ⟨⟨fun all => ?_, fun ends m' same => ?_⟩, fun fine ok => temperature_of_fineTemperature ok⟩
  · exact ⟨(all _ (calibration_setAdcTemperature m 0)).1,
      (all _ (calibration_setAdcTemperature m 0xFFFFF)).1⟩
  · have between : Unbounded.Between (m.setAdcTemperature 0) m' (m.setAdcTemperature 0xFFFFF) := by
      refine ⟨same.symm, same.symm, by simp, ?_⟩
      rw [adcTemperature_setAdcTemperature]
      exact joinAdc_le ..
    have holds := Unbounded.fineSteps_between between (isOk_fineTemperature_iff.1 ends.1)
      (isOk_fineTemperature_iff.1 ends.2)
    have ok : m'.fineTemperature = .ok (Unbounded.fineTemperature m') :=
      fineTemperature_eq_ok_iff.2 ⟨holds, rfl⟩
    rw [ok, (temperature_of_fineTemperature ok).2.2]
    exact ⟨rfl, rfl⟩

/-- One of the two is not enough. -/
example :
    let m : Measurement := { calibration := { t1 := 20000, t2 := 32767 } }
    (m.setAdcTemperature 0).fineTemperature.isOk = true ∧
      (m.setAdcTemperature 0xFFFFF).fineTemperature.isOk = false := by
  decide

end Measurement

namespace Formula

variable (c : Calibration) (adc : ℚ)

def deviation : ℚ := adc / 2 ^ 4 - c.t1.toNat

def fineTemperature : ℚ :=
  (adc / 2 ^ 14 - c.t1.toNat / 2 ^ 10) * c.t2.toInt +
    (adc / 2 ^ 17 - c.t1.toNat / 2 ^ 13) ^ 2 * c.t3.toInt

def temperature : ℚ := fineTemperature c adc / 5120

end Formula

namespace Measurement

open Unbounded

variable {m : Measurement}

theorem slope_error (typical : m.calibration.TypicalTemperature) :
    |((Unbounded.slope m / 2 ^ 11 : Int) : ℚ) - ((m.adcTemperature : ℚ) / 2 ^ 14 -
      m.calibration.t1.toNat / 2 ^ 10) * m.calibration.t2.toInt| ≤ 29 / 2 := by
  have t2 : |(m.calibration.t2.toInt : ℚ)| ≤ 27500 := by
    have within : |m.calibration.t2.toInt| ≤ 27500 := by
      have := typical.t2
      rw [abs_le]
      omega
    exact_mod_cast within
  have reading := abs_mul_le (abs_floor_error m.adcTemperature 3) t2
  have product := floor_error (Unbounded.slope m) 11
  unfold Unbounded.slope at *
  push_cast at *
  rw [abs_le] at reading ⊢
  constructor <;> linarith

theorem delta_error (m : Measurement) :
    |(delta m : ℚ) - Formula.deviation m.calibration m.adcTemperature| ≤ 1 := by
  have reading := abs_floor_error m.adcTemperature 4
  unfold delta Formula.deviation
  push_cast at *
  rw [abs_le] at *
  constructor <;> linarith

theorem delta_square_error (typical : m.calibration.TypicalTemperature) :
    |((delta m * delta m / 2 ^ 12 : Int) : ℚ) -
      Formula.deviation m.calibration m.adcTemperature ^ 2 / 2 ^ 12| ≤ 20 := by
  have error := delta_error m
  have root : |(delta m : ℚ)| ≤ 38535 := by exact_mod_cast delta_within typical
  have size : |(delta m : ℚ) + Formula.deviation m.calibration m.adcTemperature| ≤ 77071 := by
    rw [abs_le] at *
    constructor <;> linarith
  have scaled := abs_mul_le error size
  have squared := floor_error (delta m * delta m) 12
  push_cast at squared ⊢
  rw [abs_le] at scaled ⊢
  constructor <;> linarith

theorem curve_error (typical : m.calibration.TypicalTemperature) :
    |((curve m / 2 ^ 14 : Int) : ℚ) - ((m.adcTemperature : ℚ) / 2 ^ 17 -
      m.calibration.t1.toNat / 2 ^ 13) ^ 2 * m.calibration.t3.toInt| ≤ 15 / 2 := by
  have t3 : |(m.calibration.t3.toInt : ℚ)| ≤ 5000 := by exact_mod_cast typical.t3
  have scaled := abs_mul_le (delta_square_error typical) t3
  have product := floor_error (curve m) 14
  have deviation : (m.adcTemperature : ℚ) / 2 ^ 17 - m.calibration.t1.toNat / 2 ^ 13 =
      Formula.deviation m.calibration m.adcTemperature / 2 ^ 13 := by
    unfold Formula.deviation
    ring
  rw [deviation]
  unfold curve at *
  push_cast at *
  rw [abs_le] at scaled ⊢
  constructor <;> linarith

theorem fineTemperature_error (typical : m.calibration.TypicalTemperature) :
    |(Unbounded.fineTemperature m : ℚ) -
      Formula.fineTemperature m.calibration m.adcTemperature| ≤ 22 := by
  have slope := slope_error typical
  have curve := curve_error typical
  unfold Unbounded.fineTemperature Formula.fineTemperature
  push_cast at *
  rw [abs_le] at *
  constructor <;> linarith

/-- With a typical calibration the temperature in integers is within a hundredth of a degree of the
formula. -/
theorem temperature_within_a_hundredth (typical : m.calibration.TypicalTemperature) :
    ∃ hundredths, m.temperature = .ok hundredths ∧
      |(hundredths : ℚ) - 100 * Formula.temperature m.calibration m.adcTemperature| < 1 := by
  have ok := temperature_of_fineTemperature (fineTemperature_typical typical)
  refine ⟨_, ok.2.2, ?_⟩
  have error := fineTemperature_error typical
  have rounded := floor_error (Unbounded.fineTemperature m * 5 + 128) 8
  unfold Formula.temperature
  push_cast at *
  rw [abs_le] at error
  rw [abs_lt]
  constructor <;> linarith

def rough : Measurement where
  raw := #v[0, 0, 0, 0xFE, 0x55, 0xF0, 0, 0]
  calibration := { t1 := 27000, t2 := 27460, t3 := 5000 }

theorem rough_typical : rough.calibration.TypicalTemperature :=
  ⟨by decide, by decide, by decide⟩

theorem rough_within_a_hundredth : rough.calibration.TypicalTemperature ∧
    rough.temperature = .ok 22073 ∧
      8 / 10 < |22073 - 100 * Formula.temperature rough.calibration rough.adcTemperature| ∧
      |22073 - 100 * Formula.temperature rough.calibration rough.adcTemperature| < 1 := by
  obtain ⟨hundredths, ok, error⟩ := temperature_within_a_hundredth rough_typical
  have degrees : rough.temperature = .ok 22073 := by decide
  rw [degrees] at ok
  cases ok
  exact ⟨rough_typical, degrees, by decide +kernel, error⟩

end Measurement

end SensorBus.Bme280
