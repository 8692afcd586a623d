import SensorBus.Bme280.Calibration
import SensorBus.Bme280.Config

/-!
One measurement: eight raw bytes, three for pressure, three for temperature and two for humidity,
with the calibration and the chip they belong to. Pressure and temperature are numbers of twenty
bits, the highest byte first, the lowest four bits at the top of the third byte.
-/

namespace SensorBus.Bme280

abbrev Raw := Vector UInt8 8

def joinAdc (high middle low : UInt8) : Nat :=
  4096 * high.toNat + 16 * middle.toNat + low.toNat / 16

/-- The three bytes of a number; what is beyond twenty bits is dropped. -/
def splitAdc (adc : UInt32) : UInt8 × UInt8 × UInt8 :=
  (.ofNat (adc.toNat / 4096), .ofNat (adc.toNat / 16), .ofNat (16 * (adc.toNat % 16)))

structure Measurement where
  raw : Raw := Vector.replicate 8 0
  calibration : Calibration := {}
  chip : Chip := .bme280
  deriving DecidableEq

namespace Measurement

def adcPressure (m : Measurement) : Nat := joinAdc m.raw[0] m.raw[1] m.raw[2]

def adcTemperature (m : Measurement) : Nat := joinAdc m.raw[3] m.raw[4] m.raw[5]

def adcHumidity (m : Measurement) : Nat := 256 * m.raw[6].toNat + m.raw[7].toNat

def setAdcPressure (m : Measurement) (adc : UInt32) : Measurement :=
  let (high, middle, low) := splitAdc adc
  { m with raw := ((m.raw.set 0 high).set 1 middle).set 2 low }

def setAdcTemperature (m : Measurement) (adc : UInt32) : Measurement :=
  let (high, middle, low) := splitAdc adc
  { m with raw := ((m.raw.set 3 high).set 4 middle).set 5 low }

end Measurement

end SensorBus.Bme280
