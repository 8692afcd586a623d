import SensorBus.Bme280.Measurement
import SensorBus.Checked

/-!
Compensation in integers: from raw readings to physical quantities, by fixed-point formulas that
are sized for readings of twenty bits. Temperature is worked out in 32 bits and the rest in 64;
each operation is checked, in the order of evaluation. Shifting to the right rounds down.
-/

namespace SensorBus.Bme280.Measurement

open IntRange

def fineTemperature (m : Measurement) : Checked Int := do
  let c := m.calibration
  let adc : Int := m.adcTemperature
  let t1 : Int := c.t1.toNat
  let slope ← signed32.multiply (← signed32.subtract (shiftRight adc 3) (t1 * 2)) c.t2.toInt
  let delta ← signed32.subtract (shiftRight adc 4) t1
  let square ← signed32.multiply delta delta
  let curve ← signed32.multiply (shiftRight square 12) c.t3.toInt
  signed32.add (shiftRight slope 11) (shiftRight curve 14)

/-- In hundredths of a degree Celsius. -/
def temperature (m : Measurement) : Checked Int := do
  let scaled ← signed32.multiply (← m.fineTemperature) 5
  return shiftRight (← signed32.add scaled 128) 8

def pressureOffset (c : Calibration) (fine : Int) : Checked Int := do
  let square ← signed64.multiply (← signed64.multiply fine fine) c.p6.toInt
  let linear ← signed64.multiply fine c.p5.toInt
  let offset ← signed64.add square (shiftLeft64 linear 17)
  signed64.add offset (shiftLeft64 c.p4.toInt 35)

def pressureDivisor (c : Calibration) (fine : Int) : Checked Int := do
  let square ← signed64.multiply (← signed64.multiply fine fine) c.p3.toInt
  let linear ← signed64.multiply fine c.p2.toInt
  let factor ← signed64.add (shiftRight square 8) (shiftLeft64 linear 12)
  let product ← signed64.multiply (← signed64.add 0x800000000000 factor) c.p1.toNat
  return shiftRight product 33

def pressureFrom (c : Calibration) (adc offset divisor : Int) : Checked Int := do
  let reading ← signed64.subtract 1048576 adc
  let shifted ← signed64.subtract (shiftLeft64 reading 31) offset
  let pressure := (← signed64.multiply shifted 3125).tdiv divisor
  let coarse := shiftRight pressure 13
  let square ← signed64.multiply (← signed64.multiply c.p9.toInt coarse) coarse
  let linear ← signed64.multiply c.p8.toInt pressure
  let sum ← signed64.add (← signed64.add pressure (shiftRight square 25)) (shiftRight linear 19)
  signed64.add (shiftRight sum 8) (shiftLeft64 c.p7.toInt 4)

/-- In pascals times 256, in 32 bits. It is zero where the calibration would divide by zero, and
where the formula leaves the range. -/
def pressureQ24_8 (m : Measurement) : Checked Nat := do
  let c := m.calibration
  let fine ← signed64.subtract (← m.fineTemperature) 128000
  let offset ← pressureOffset c fine
  let divisor ← pressureDivisor c fine
  if divisor = 0 then return 0
  let pressure ← pressureFrom c m.adcPressure offset divisor
  return if unsigned32.contains pressure then pressure.toNat else 0

def pressure (m : Measurement) : Checked Nat := do
  return (← m.pressureQ24_8) >>> 8

def humidityFrom (c : Calibration) (adc fine : Int) : Checked Int := do
  let reading ← signed64.subtract (shiftLeft64 adc 14) (shiftLeft64 c.h4.toInt 20)
  let linear ← signed64.multiply c.h5.toInt fine
  let offset ← signed64.add (← signed64.subtract reading linear) 16384
  let low ← signed64.multiply fine c.h6.toInt
  let high ← signed64.add (shiftRight (← signed64.multiply fine c.h3.toNat) 11) 32768
  let product ← signed64.multiply (shiftRight low 10) high
  let factor ← signed64.add (shiftRight product 10) 2097152
  let slope ← signed64.add (← signed64.multiply factor c.h2.toInt) 8192
  let humidity ← signed64.multiply (shiftRight offset 15) (shiftRight slope 14)
  let square ← signed64.multiply (shiftRight humidity 15) (shiftRight humidity 15)
  let curve ← signed64.multiply (shiftRight square 7) c.h1.toNat
  signed64.subtract humidity (shiftRight curve 4)

/-- In percent times 1024, at most 100 percent; none without a humidity channel. -/
def humidityQ22_10 (m : Measurement) : Checked (Option Nat) :=
  if m.chip.hasHumidity then do
    let fine ← signed64.subtract (← m.fineTemperature) 76800
    let humidity ← humidityFrom m.calibration m.adcHumidity fine
    return some ((min (max humidity 0) 419430400).toNat >>> 12)
  else return none

/-- In thousandths of a percent. -/
def humidity (m : Measurement) : Checked (Option Nat) := do
  match ← m.humidityQ22_10 with
  | none => return none
  | some q => return some ((← unsigned32.multiply q 1000).toNat >>> 10)

end SensorBus.Bme280.Measurement
