import SensorBus.Bme280.Measurement
import SensorBus.Proofs.Bits

namespace SensorBus.Bme280

theorem joinAdc_le (high middle low : UInt8) : joinAdc high middle low ≤ 0xFFFFF := by
  have := high.toNat_lt
  have := middle.toNat_lt
  have := low.toNat_lt
  unfold joinAdc
  omega

theorem joinAdc_eq_or (high middle low : UInt8) :
    joinAdc high middle low =
      high.toNat <<< 12 ||| (middle.toNat <<< 4 ||| low.toNat >>> 4) := by
  have lower : low.toNat >>> 4 < 2 ^ 4 := by
    have := low.toNat_lt
    rw [Nat.shiftRight_eq_div_pow]
    omega
  have below : middle.toNat <<< 4 + low.toNat >>> 4 < 2 ^ 12 := by
    have := middle.toNat_lt
    rw [Nat.shiftLeft_eq]
    omega
  rw [← Nat.shiftLeft_add_eq_or_of_lt lower, ← Nat.shiftLeft_add_eq_or_of_lt below,
    Nat.shiftLeft_eq, Nat.shiftLeft_eq, Nat.shiftRight_eq_div_pow, joinAdc]
  omega

theorem splitAdc_eq_shifts (adc : UInt32) :
    splitAdc adc =
      ((adc >>> 12).toUInt8, (adc >>> 4).toUInt8, ((adc &&& 0xF) <<< 4).toUInt8) := by
  have high : (adc >>> 12).toNat = adc.toNat / 4096 := Nat.shiftRight_eq_div_pow adc.toNat 12
  have middle : (adc >>> 4).toNat = adc.toNat / 16 := Nat.shiftRight_eq_div_pow adc.toNat 4
  have nibble : (adc &&& 0xF).toNat = adc.toNat % 16 :=
    Nat.and_two_pow_sub_one_eq_mod adc.toNat 4
  have low : ((adc &&& 0xF) <<< 4).toNat = 16 * (adc.toNat % 16) := by
    have count : UInt32.toNat 4 % 32 = 4 := rfl
    rw [UInt32.toNat_shiftLeft, nibble, count, Nat.shiftLeft_eq]
    omega
  rw [splitAdc, ← high, ← middle, ← low]
  rfl

theorem joinAdc_splitAdc (adc : UInt32) :
    joinAdc (splitAdc adc).1 (splitAdc adc).2.1 (splitAdc adc).2.2 = adc.toNat % 0x100000 := by
  simp only [joinAdc, splitAdc, UInt8.toNat_ofNat']
  omega

theorem and_highNibble (byte : UInt8) : byte &&& 0xF0 = .ofNat (16 * (byte.toNat / 16)) := by
  have shifts : UInt8.ofNat (16 * (byte.toNat / 16)) = byte >>> 4 <<< 4 := by
    have count : UInt8.toNat 4 % 8 = 4 := rfl
    rw [← UInt8.toNat_inj, UInt8.toNat_shiftLeft, UInt8.toNat_shiftRight, UInt8.toNat_ofNat',
      count, Nat.shiftRight_eq_div_pow, Nat.shiftLeft_eq, Nat.mul_comm]
  rw [shifts]
  apply byte_ext
  intro i lt
  have count : UInt8.toBitVec 4 % 8 = 4#8 := rfl
  have mask : (0xF0 : UInt8).toBitVec[i] = decide (4 ≤ i) := by
    revert i
    decide
  simp only [UInt8.toBitVec_and, UInt8.toBitVec_shiftLeft, UInt8.toBitVec_shiftRight, count,
    BitVec.shiftLeft_eq', BitVec.ushiftRight_eq', BitVec.getElem_and, BitVec.getElem_shiftLeft,
    BitVec.getElem_ushiftRight, mask]
  by_cases kept : 4 ≤ i
  · simp [kept, lt, Nat.not_lt.2 kept]
  · simp [kept, Nat.lt_of_not_le kept]

theorem splitAdc_joinAdc (high middle low : UInt8) :
    splitAdc (.ofNat (joinAdc high middle low)) = (high, middle, low &&& 0xF0) := by
  have := high.toNat_lt
  have := middle.toNat_lt
  have := low.toNat_lt
  have whole : (UInt32.ofNat (joinAdc high middle low)).toNat = joinAdc high middle low :=
    UInt32.toNat_ofNat_of_lt' (Nat.lt_of_le_of_lt (joinAdc_le ..) (by decide))
  have first : joinAdc high middle low / 4096 = high.toNat := by
    unfold joinAdc
    omega
  have second : joinAdc high middle low / 16 = 256 * high.toNat + middle.toNat := by
    unfold joinAdc
    omega
  have third : joinAdc high middle low % 16 = low.toNat / 16 := by
    unfold joinAdc
    omega
  rw [splitAdc, whole, first, second, third, and_highNibble]
  simp

namespace Raw

variable {raw raw' : Raw} {start start' : Fin 6} {adc adc' : UInt32} {i : Nat}

def put (raw : Raw) (start : Fin 6) (adc : UInt32) : Raw :=
  ((raw.set start.val (splitAdc adc).1).set (start.val + 1) (splitAdc adc).2.1).set
    (start.val + 2) (splitAdc adc).2.2

theorem put_outside (lt : i < 8) (outside : i < start.val ∨ start.val + 2 < i) :
    (raw.put start adc)[i] = raw[i] := by
  rw [put, Vector.getElem_set_ne _ _ (by omega), Vector.getElem_set_ne _ _ (by omega),
    Vector.getElem_set_ne _ _ (by omega)]

theorem put_congr (lt : i < 8) (same : raw[i] = raw'[i]) :
    (raw.put start adc)[i] = (raw'.put start adc)[i] := by
  simp only [put, Vector.getElem_set, same]

theorem joinAdc_put (raw : Raw) (start : Fin 6) (adc : UInt32) :
    joinAdc (raw.put start adc)[start.val] (raw.put start adc)[start.val + 1]
      (raw.put start adc)[start.val + 2] = adc.toNat % 0x100000 := by
  rw [← joinAdc_splitAdc]
  simp [put]

theorem put_comm (apart : start.val + 2 < start'.val) :
    (raw.put start' adc').put start adc = (raw.put start adc).put start' adc' := by
  apply Vector.ext
  intro i lt
  -- One of the two numbers has nothing to do with the byte.
  by_cases first : i ≤ start.val + 2
  · have outside : i < start'.val ∨ start'.val + 2 < i := .inl (Nat.lt_of_le_of_lt first apart)
    rw [put_outside lt outside]
    exact put_congr lt (put_outside lt outside)
  · have outside : i < start.val ∨ start.val + 2 < i := .inr (Nat.lt_of_not_le first)
    rw [put_outside lt outside]
    exact put_congr lt (put_outside lt outside).symm

end Raw

namespace Measurement

variable (m : Measurement) (adc adc' : UInt32)

theorem raw_setAdcPressure : (m.setAdcPressure adc).raw = m.raw.put 0 adc := rfl

theorem raw_setAdcTemperature : (m.setAdcTemperature adc).raw = m.raw.put 3 adc := rfl

@[simp] theorem calibration_setAdcPressure : (m.setAdcPressure adc).calibration = m.calibration :=
  rfl

@[simp] theorem calibration_setAdcTemperature :
    (m.setAdcTemperature adc).calibration = m.calibration :=
  rfl

@[simp] theorem adcPressure_setAdcPressure :
    (m.setAdcPressure adc).adcPressure = adc.toNat % 0x100000 :=
  m.raw.joinAdc_put 0 adc

@[simp] theorem adcTemperature_setAdcTemperature :
    (m.setAdcTemperature adc).adcTemperature = adc.toNat % 0x100000 :=
  m.raw.joinAdc_put 3 adc

@[simp] theorem adcTemperature_setAdcPressure :
    (m.setAdcPressure adc).adcTemperature = m.adcTemperature := by
  simp (disch := decide) only [adcTemperature, raw_setAdcPressure, Raw.put_outside]

@[simp] theorem adcPressure_setAdcTemperature :
    (m.setAdcTemperature adc).adcPressure = m.adcPressure := by
  simp (disch := decide) only [adcPressure, raw_setAdcTemperature, Raw.put_outside]

@[simp] theorem adcHumidity_setAdcPressure :
    (m.setAdcPressure adc).adcHumidity = m.adcHumidity := by
  simp (disch := decide) only [adcHumidity, raw_setAdcPressure, Raw.put_outside]

@[simp] theorem adcHumidity_setAdcTemperature :
    (m.setAdcTemperature adc).adcHumidity = m.adcHumidity := by
  simp (disch := decide) only [adcHumidity, raw_setAdcTemperature, Raw.put_outside]

theorem setAdcPressure_setAdcTemperature :
    (m.setAdcTemperature adc').setAdcPressure adc =
      (m.setAdcPressure adc).setAdcTemperature adc' := by
  have raw : (m.raw.put 3 adc').put 0 adc = (m.raw.put 0 adc).put 3 adc' :=
    Raw.put_comm (by decide)
  exact congrArg (fun raw => { m with raw }) raw

/-- Whatever two numbers are put in, and in whichever order, the lowest twenty bits of each come out
again, and the rest of the measurement stays. Any three bytes come out of their number, but for the
four bits that are no part of it. -/
theorem readings_keep_twenty_bits (m : Measurement) (a b : UInt32) :
    let both := (m.setAdcPressure a).setAdcTemperature b
    (m.setAdcTemperature b).setAdcPressure a = both ∧
      both.adcPressure = a.toNat % 0x100000 ∧ both.adcTemperature = b.toNat % 0x100000 ∧
      both.adcHumidity = m.adcHumidity ∧ both.chip = m.chip ∧
      both.calibration = m.calibration ∧
      ∀ high middle low : UInt8,
        splitAdc (.ofNat (joinAdc high middle low)) = (high, middle, low &&& 0xF0) := by
  intro both
  have pressure : both.adcPressure = a.toNat % 0x100000 := calc
    both.adcPressure = (m.setAdcPressure a).adcPressure := adcPressure_setAdcTemperature _ b
    _ = a.toNat % 0x100000 := m.adcPressure_setAdcPressure a
  have humidity : both.adcHumidity = m.adcHumidity := calc
    both.adcHumidity = (m.setAdcPressure a).adcHumidity := adcHumidity_setAdcTemperature _ b
    _ = m.adcHumidity := m.adcHumidity_setAdcPressure a
  exact ⟨m.setAdcPressure_setAdcTemperature a b, pressure, adcTemperature_setAdcTemperature _ b,
    humidity, rfl, rfl, splitAdc_joinAdc⟩

end Measurement

end SensorBus.Bme280
