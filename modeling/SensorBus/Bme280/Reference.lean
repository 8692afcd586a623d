import SensorBus.Bme280.Measurement

namespace SensorBus.Bme280.Measurement.Reference

def terms (m : Measurement) : Float :=
  let c := m.calibration
  let adc := Float.ofNat m.adcTemperature
  let t1 := Float.ofNat c.t1.toNat
  let linear := (adc / 16384.0 - t1 / 1024.0) * Float.ofInt c.t2.toInt
  let delta := adc / 131072.0 - t1 / 8192.0
  let square := delta * delta * Float.ofInt c.t3.toInt
  linear + square

def fineTemperature (m : Measurement) : Int32 := (terms m).toInt32

def temperature (m : Measurement) : Float := terms m / 5120.0

/-- In pascals; zero where the calibration would divide by zero. -/
def pressure (m : Measurement) : Float :=
  let c := m.calibration
  let fine := Float.ofInt (fineTemperature m).toInt / 2.0 - 64000.0
  let square := fine * fine * Float.ofInt c.p6.toInt / 32768.0
  let linear := square + fine * Float.ofInt c.p5.toInt * 2.0
  let offset := linear / 4.0 + Float.ofInt c.p4.toInt * 65536.0
  let factor := (Float.ofInt c.p3.toInt * fine * fine / 524288.0 + Float.ofInt c.p2.toInt * fine) /
    524288.0
  let divisor := (1.0 + factor / 32768.0) * Float.ofNat c.p1.toNat
  if divisor == 0.0 then 0.0
  else
    let reading := 1048576.0 - Float.ofNat m.adcPressure
    let pressure := (reading - offset / 4096.0) * 6250.0 / divisor
    let square := Float.ofInt c.p9.toInt * pressure * pressure / 2147483648.0
    let linear := pressure * Float.ofInt c.p8.toInt / 32768.0
    pressure + (square + linear + Float.ofInt c.p7.toInt) / 16.0

def clamp (x low high : Float) : Float :=
  let x := if x < low then low else x
  if x > high then high else x

def humidity (m : Measurement) : Option Float :=
  if m.chip.hasHumidity then
    let c := m.calibration
    let adc := Float.ofNat m.adcHumidity
    let fine := Float.ofInt (fineTemperature m).toInt - 76800.0
    let reading := adc -
      (Float.ofInt c.h4.toInt * 64.0 + Float.ofInt c.h5.toInt / 16384.0 * fine)
    let slope := Float.ofInt c.h2.toInt / 65536.0 *
      (1.0 + Float.ofInt c.h6.toInt / 67108864.0 * fine *
        (1.0 + Float.ofNat c.h3.toNat / 67108864.0 * fine))
    let humidity := reading * slope
    let humidity := humidity * (1.0 - Float.ofNat c.h1.toNat * humidity / 524288.0)
    some (clamp humidity 0.0 100.0)
  else none

end SensorBus.Bme280.Measurement.Reference
