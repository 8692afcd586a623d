import SensorBus.Proofs.Bme280.Temperature

/-!
Humidity: no calibration that a chip can hold takes the formula out of 64 bits. The fourth and the
fifth parameter have twelve bits there and the fine temperature has little more than twenty, which
keeps the square of their product in range.
-/

namespace SensorBus.Bme280

open IntRange

namespace Calibration

structure TwelveBit (c : Calibration) : Prop where
  h4 : -2048 ≤ c.h4.toInt ∧ c.h4.toInt ≤ 2047
  h5 : -2048 ≤ c.h5.toInt ∧ c.h5.toInt ≤ 2047

theorem toInt_nibbles (high : Int8) {low : Nat} (lt : low < 16) :
    (Int16.ofInt (16 * high.toInt + low)).toInt = 16 * high.toInt + low := by
  have := high.le_toInt
  have := high.toInt_lt
  exact Int16.toInt_ofInt_of_le (by omega) (by omega)

theorem twelveBit_nibbles (high : Int8) {low : Nat} (lt : low < 16) :
    -2048 ≤ (Int16.ofInt (16 * high.toInt + low)).toInt ∧
      (Int16.ofInt (16 * high.toInt + low)).toInt ≤ 2047 := by
  have := high.le_toInt
  have := high.toInt_lt
  rw [toInt_nibbles high lt]
  omega

theorem twelveBit_withHighBlock (c : Calibration) (block : Vector UInt8 7) :
    (c.withHighBlock block).TwelveBit := by
  have := block[4].toNat_lt
  exact ⟨twelveBit_nibbles _ (Nat.mod_lt _ (by decide)), twelveBit_nibbles _ (by omega)⟩

end Calibration

theorem abs_toInt_byte_le (b : Int8) : |b.toInt| ≤ 2 ^ 7 := by
  have := b.le_toInt
  have := b.toInt_lt
  rw [abs_le]
  omega

theorem abs_toNat_byte_le (b : UInt8) : |(b.toNat : Int)| ≤ 255 := by
  have := b.toNat_lt
  rw [abs_le]
  omega

namespace Measurement

namespace Unbounded.Humidity

section

variable (c : Calibration) (adc fine : Int)

def offset : Int := adc * 2 ^ 14 - c.h4.toInt * 2 ^ 20 - c.h5.toInt * fine + 16384

def offsetSteps : List Int :=
  [adc * 2 ^ 14, c.h4.toInt * 2 ^ 20, adc * 2 ^ 14 - c.h4.toInt * 2 ^ 20, c.h5.toInt * fine,
    adc * 2 ^ 14 - c.h4.toInt * 2 ^ 20 - c.h5.toInt * fine, offset c adc fine]

def bend : Int := fine * c.h6.toInt / 2 ^ 10 * (fine * c.h3.toNat / 2 ^ 11 + 32768)

def slope : Int := (bend c fine / 2 ^ 10 + 2097152) * c.h2.toInt + 8192

def slopeSteps : List Int :=
  [fine * c.h6.toInt, fine * c.h3.toNat, fine * c.h3.toNat / 2 ^ 11 + 32768, bend c fine,
    bend c fine / 2 ^ 10 + 2097152, (bend c fine / 2 ^ 10 + 2097152) * c.h2.toInt, slope c fine]

def product : Int := offset c adc fine / 2 ^ 15 * (slope c fine / 2 ^ 14)

end

section

variable (c : Calibration) (p : Int)

def square : Int := p / 2 ^ 15 * (p / 2 ^ 15)

def curve : Int := square p / 2 ^ 7 * c.h1.toNat

def corrected : Int := p - curve c p / 2 ^ 4

def correctedSteps : List Int := [square p, curve c p, corrected c p]

end

end Unbounded.Humidity

namespace Unbounded

variable (m : Measurement)

def fromFifteen : Int := fineTemperature m - 76800

def humiditySteps : List Int :=
  let p := Humidity.product m.calibration m.adcHumidity (fromFifteen m)
  fromFifteen m :: Humidity.offsetSteps m.calibration m.adcHumidity (fromFifteen m) ++
    Humidity.slopeSteps m.calibration (fromFifteen m) ++
    p :: Humidity.correctedSteps m.calibration p

def humidity : Int :=
  Humidity.corrected m.calibration (Humidity.product m.calibration m.adcHumidity (fromFifteen m))

end Unbounded

theorem humidityFrom_eq_ok {c : Calibration} {adc fine : Int}
    (offset : signed64.Holds (Unbounded.Humidity.offsetSteps c adc fine))
    (slope : signed64.Holds (Unbounded.Humidity.slopeSteps c fine))
    (product : signed64.contains (Unbounded.Humidity.product c adc fine) = true)
    (corrected : signed64.Holds
      (Unbounded.Humidity.correctedSteps c (Unbounded.Humidity.product c adc fine))) :
    humidityFrom c adc fine =
      .ok (Unbounded.Humidity.corrected c (Unbounded.Humidity.product c adc fine)) := by
  simp only [Unbounded.Humidity.offsetSteps, Unbounded.Humidity.slopeSteps,
    Unbounded.Humidity.correctedSteps, holds_cons, holds_nil, and_true] at offset slope corrected
  obtain ⟨reading, constant, difference, linear, whole, offset⟩ := offset
  obtain ⟨low, high, sum, bend, factor, scaled, slope⟩ := slope
  obtain ⟨square, curve, corrected⟩ := corrected
  simp only [humidityFrom, multiply, add, subtract, check_bind_eq_ok_iff, check_eq_ok_iff,
    shiftLeft64_eq reading, shiftLeft64_eq constant, shiftRight_eq]
  exact ⟨difference, linear, whole, offset, low, high, sum, bend, factor, scaled, slope, product,
    square, curve, corrected, rfl⟩

namespace Unbounded.Humidity

variable {c : Calibration} {adc fine : Int}

theorem offset_within (bits : c.TwelveBit) (near : |fine| ≤ 1256448)
    (reading : 0 ≤ adc ∧ adc ≤ 0xFFFF) :
    signed64.Holds (offsetSteps c adc fine) ∧ |offset c adc fine| ≤ 5800000000 := by
  obtain ⟨h4, h5⟩ := bits
  have h5 : |c.h5.toInt| ≤ 2048 := abs_le.2 ⟨h5.1, by omega⟩
  have linear := abs_mul_le h5 near
  rw [abs_le] at linear
  simp only [offsetSteps, holds_cons, holds_nil, and_true, contains_iff, signed64, abs_le]
  unfold offset
  omega

theorem slope_within (c : Calibration) (near : |fine| ≤ 1256448) :
    signed64.Holds (slopeSteps c fine) ∧ |slope c fine| ≤ 1020000000000 := by
  have h2 := abs_toInt_le c.h2
  have low := abs_mul_le near (abs_toInt_byte_le c.h6)
  have high := abs_mul_le near (abs_toNat_byte_le c.h3)
  have bend : |bend c fine| ≤ 157056 * 189211 := by
    refine abs_mul_le ?_ ?_ <;>
    · rw [abs_le] at *
      omega
  have scaled : |(Humidity.bend c fine / 2 ^ 10 + 2097152) * c.h2.toInt| ≤ 31117391 * 2 ^ 15 := by
    refine abs_mul_le ?_ h2
    rw [abs_le] at *
    omega
  rw [abs_le] at low high bend scaled
  simp only [slopeSteps, holds_cons, holds_nil, and_true, contains_iff, signed64, abs_le]
  unfold slope
  omega

theorem product_within (bits : c.TwelveBit) (near : |fine| ≤ 1256448)
    (reading : 0 ≤ adc ∧ adc ≤ 0xFFFF) : |product c adc fine| ≤ 177003 * 62256000 := by
  have offset := (offset_within bits near reading).2
  have slope := (slope_within c near).2
  refine abs_mul_le ?_ ?_ <;>
  · rw [abs_le] at *
    omega

theorem correctedSteps_within (c : Calibration) {p : Int} (within : |p| ≤ 177003 * 62256000) :
    signed64.Holds (correctedSteps c p) := by
  have coarse : |p / 2 ^ 15| ≤ 336289000 := by
    rw [abs_le] at *
    omega
  have square := abs_mul_le coarse coarse
  have curve : |curve c p| ≤ 883520000000000 * 255 := by
    refine abs_mul_le ?_ (abs_toNat_byte_le c.h1)
    rw [abs_le] at square ⊢
    unfold Humidity.square
    omega
  rw [abs_le] at within square curve
  simp only [correctedSteps, holds_cons, holds_nil, and_true, contains_iff, signed64, corrected]
  unfold Humidity.square
  omega

end Unbounded.Humidity

theorem Unbounded.humiditySteps_within {m : Measurement} (bits : m.calibration.TwelveBit)
    (bounds : -1179648 ≤ fineTemperature m ∧ fineTemperature m ≤ 1179646) :
    signed64.Holds (humiditySteps m) := by
  have near : |fromFifteen m| ≤ 1256448 := by
    rw [abs_le]
    unfold fromFifteen
    omega
  have reading : 0 ≤ (m.adcHumidity : Int) ∧ (m.adcHumidity : Int) ≤ 0xFFFF := by
    have := m.raw[6].toNat_lt
    have := m.raw[7].toNat_lt
    unfold adcHumidity
    omega
  have product := Humidity.product_within bits near reading
  simp only [humiditySteps, holds_append, holds_cons]
  refine ⟨⟨⟨?_, ?_⟩, ?_⟩, ?_, ?_⟩
  · exact contains_of_abs_le near (by decide)
  · exact (Humidity.offset_within bits near reading).1
  · exact (Humidity.slope_within _ near).1
  · exact contains_of_abs_le product (by decide)
  · exact Humidity.correctedSteps_within _ product

theorem humidityQ22_10_eq_ok {m : Measurement} {fine : Int} (chip : m.chip = .bme280)
    (ok : m.fineTemperature = .ok fine) (holds : signed64.Holds (Unbounded.humiditySteps m)) :
    m.humidityQ22_10 =
      .ok (some ((min (max (Unbounded.humidity m) 0) 419430400).toNat / 2 ^ 12)) := by
  obtain ⟨-, rfl⟩ := fineTemperature_eq_ok_iff.1 ok
  simp only [Unbounded.humiditySteps, holds_append, holds_cons] at holds
  obtain ⟨⟨⟨counted, offset⟩, slope⟩, product, corrected⟩ := holds
  have whole := humidityFrom_eq_ok offset slope product corrected
  have counted : signed64.subtract (Unbounded.fineTemperature m) 76800 =
      .ok (Unbounded.fromFifteen m) := check_eq_ok_iff.2 ⟨counted, rfl⟩
  have present : m.chip.hasHumidity = true := by
    rw [chip]
    rfl
  rw [humidityQ22_10, if_pos present, ok, Checked.ok_bind, counted, Checked.ok_bind, whole,
    Checked.ok_bind, Checked.pure_eq_ok, Nat.shiftRight_eq_div_pow, Unbounded.humidity]

theorem humidity_eq_ok {m : Measurement} {q : Nat} (ok : m.humidityQ22_10 = .ok (some q))
    (le : q ≤ 102400) : m.humidity = .ok (some (q * 1000 / 2 ^ 10)) := by
  have product : unsigned32.multiply q 1000 = .ok ((q : Int) * 1000) := by
    refine check_eq_ok_iff.2 ⟨contains_iff.2 ?_, rfl⟩
    simp only [unsigned32]
    omega
  have natural : ((q : Int) * 1000).toNat = q * 1000 := by omega
  rw [humidity, ok, Checked.ok_bind]
  change (unsigned32.multiply q 1000 >>= _) = _
  rw [product, Checked.ok_bind, Checked.pure_eq_ok, natural, Nat.shiftRight_eq_div_pow]

/-- Whatever the two blocks of a chip's calibration hold and whatever was read, as long as there is
a fine temperature the formula for humidity stays in its range. The result is cut to between 0 and
100 percent, which leaves room in 32 bits to count it in thousandths. -/
theorem humidity_in_range {m : Measurement} {low : Vector UInt8 26} {high : Vector UInt8 7}
    {fine : Int} (chip : m.chip = .bme280)
    (decoded : m.calibration = (Calibration.ofLowBlock low).withHighBlock high)
    (ok : m.fineTemperature = .ok fine) :
    signed64.Holds (Unbounded.humiditySteps m) ∧
      ∃ q, q = (min (max (Unbounded.humidity m) 0) 419430400).toNat / 2 ^ 12 ∧ q ≤ 102400 ∧
        m.humidityQ22_10 = .ok (some q) ∧
        ∃ h, h = q * 1000 / 2 ^ 10 ∧ h ≤ 100000 ∧ m.humidity = .ok (some h) := by
  have bits : m.calibration.TwelveBit := by
    rw [decoded]
    exact Calibration.twelveBit_withHighBlock _ _
  obtain ⟨least, greatest, -⟩ := temperature_of_fineTemperature ok
  obtain ⟨-, rfl⟩ := fineTemperature_eq_ok_iff.1 ok
  have holds := Unbounded.humiditySteps_within bits ⟨least, greatest⟩
  have q22_10 := humidityQ22_10_eq_ok chip ok holds
  have le : (min (max (Unbounded.humidity m) 0) 419430400).toNat / 2 ^ 12 ≤ 102400 := by omega
  exact ⟨holds, _, rfl, le, q22_10, _, rfl, by omega, humidity_eq_ok q22_10 le⟩

/-- The fine temperature is almost the highest that there is, the parameters of twelve bits are the
lowest, and the curve takes almost all of the product. -/
def scorching : Measurement where
  raw := #v[0, 0, 0, 0xFF, 0xFF, 0xF0, 0xFF, 0xFF]
  calibration :=
    (Calibration.ofLowBlock #v[0x70, 0x6B, 0x48, 0x6E, 0xC1, 0x17, 0, 0, 0, 0, 0, 0, 0, 0, 0, 0, 0,
      0, 0, 0, 0, 0, 0, 0, 0, 0x5A]).withHighBlock #v[0x2C, 0x01, 0x14, 0x80, 0x00, 0x80, 0x7F]

theorem scorching_in_range : scorching.chip = .bme280 ∧ scorching.fineTemperature = .ok 1179599 ∧
    signed64.Holds (Unbounded.humiditySteps scorching) ∧
      scorching.humidityQ22_10 = .ok (some 49898) ∧ scorching.humidity = .ok (some 48728) := by
  have fine : scorching.fineTemperature = .ok 1179599 := by decide
  have whole : Unbounded.humidity scorching = 204384900 := by decide
  obtain ⟨holds, q, cut, -, q22_10, h, scaled, -, thousandths⟩ := humidity_in_range rfl rfl fine
  rw [whole] at cut
  subst scaled cut
  exact ⟨rfl, fine, holds, q22_10, thousandths⟩

/-- With sixteen bits in those two parameters the square leaves the range. -/
example :
    let m : Measurement :=
      { raw := #v[0, 0, 0, 0xFF, 0xFF, 0xF0, 0xFF, 0xFF]
        calibration :=
          { t1 := 27504, t2 := 28232, t3 := 6081, h2 := 32767, h3 := 255, h4 := -32768,
            h5 := -32768, h6 := 127 } }
    m.fineTemperature.isOk = true ∧ m.humidityQ22_10 = .error (.overflow .multiply) := by
  decide

end Measurement

end SensorBus.Bme280
