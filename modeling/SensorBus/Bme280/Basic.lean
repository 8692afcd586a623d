import SensorBus.Bme280.Measurement
import SensorBus.I2c.Device

/-!
A BME280 or BMP280 on a shared bus. What the driver knows changes in whole steps: the chip as soon
as it has been identified, the calibration when all of it has been read, the settings when all of
them have been written, the measurement when it has been read.
-/

namespace SensorBus

structure Bme280 where
  chip : Bme280.Chip := .bme280
  calibration : Bme280.Calibration := {}
  config : Bme280.Config := {}
  measurement : Bme280.Measurement := {}
  deriving DecidableEq

namespace Bme280

abbrev Attempt (α : Type) := I2c.Attempt Bme280 α

namespace Register

def lowCalibration : UInt8 := 0x88
def chipId : UInt8 := 0xD0
def reset : UInt8 := 0xE0
def highCalibration : UInt8 := 0xE1
def ctrlHum : UInt8 := 0xF2
def status : UInt8 := 0xF3
def ctrlMeas : UInt8 := 0xF4
def config : UInt8 := 0xF5
def data : UInt8 := 0xF7

end Register

def resetCommand : UInt8 := 0xB6

def measuring : UInt8 := 0x08

def updating : UInt8 := 0x01

def pollAttempts : Nat := 10

def block (n : Nat) (bytes : List UInt8) : Vector UInt8 n :=
  Vector.ofFn fun i => bytes.getD i 0

def maxMeasurementTime (driver : Bme280) : Nat := driver.config.maxMeasurementTime driver.chip

variable (device : I2c.Device)

def awaitClear (mask : UInt8) : (attempts : Nat) → Attempt Unit
  | 0 => throw .timeout
  | attempts + 1 => do
    let status ← device.readRegister Register.status
    if status &&& mask = 0 then return ()
    I2c.pause (.milliseconds 1)
    awaitClear mask attempts

def readCalibration : Attempt Unit := do
  let low ← device.registers Register.lowCalibration 26
  let calibration := Calibration.ofLowBlock (block 26 low)
  if (← get).chip.hasHumidity then
    let high ← device.registers Register.highCalibration 7
    modify fun driver => { driver with calibration := calibration.withHighBlock (block 7 high) }
  else modify fun driver => { driver with calibration }

/-- Write the settings. That for humidity counts from the write of the last register on. -/
def configure (config : Config) : Attempt Unit := do
  if (← get).chip.hasHumidity then device.writeRegister Register.ctrlHum config.ctrlHum
  device.writeRegister Register.config config.configByte
  device.writeRegister Register.ctrlMeas config.ctrlMeas
  modify fun driver => { driver with config }

def identify : Attempt Unit := do
  let chip ← Chip.ofId (← device.readRegister Register.chipId)
  modify fun driver => { driver with chip }

def start (config : Config) : Attempt Chip := do
  identify device
  device.writeRegister Register.reset resetCommand
  I2c.pause (.milliseconds 2)
  awaitClear device updating pollAttempts
  readCalibration device
  configure device config
  return (← get).chip

/-- Read the latest measurement. Without humidity its two bytes are zero. -/
def readData : Attempt Measurement := do
  let driver ← get
  let bytes ← device.registers Register.data (if driver.chip.hasHumidity then 8 else 6)
  let measurement : Measurement :=
    { raw := block 8 bytes, calibration := driver.calibration, chip := driver.chip }
  modify fun driver => { driver with measurement }
  return measurement

def measureForced : Attempt Measurement := do
  let driver ← get
  device.writeRegister Register.ctrlMeas (driver.config.measurementControl .forced)
  I2c.pause (.microseconds driver.maxMeasurementTime)
  awaitClear device measuring pollAttempts
  readData device

def isMeasuring : Attempt Bool := do
  let status ← device.readRegister Register.status
  return status &&& measuring != 0

end Bme280

end SensorBus
