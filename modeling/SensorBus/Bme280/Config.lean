import SensorBus.Error

namespace SensorBus.Bme280

/-- The BMP280 is the part without humidity. -/
inductive Chip
  | bme280
  | bmp280
  deriving DecidableEq

namespace Chip

def id : Chip → UInt8
  | .bme280 => 0x60
  | .bmp280 => 0x58

def ofId (id : UInt8) : Except Error Chip :=
  if id = 0x60 then .ok .bme280
  else if id = 0x58 then .ok .bmp280
  else .error (.unexpectedIdentity id)

def all : List Chip := [.bme280, .bmp280]

def hasHumidity : Chip → Bool
  | .bme280 => true
  | .bmp280 => false

def name : Chip → String
  | .bme280 => "Bme280"
  | .bmp280 => "Bmp280"

end Chip

inductive Oversampling
  | skipped
  | x1
  | x2
  | x4
  | x8
  | x16
  deriving DecidableEq

namespace Oversampling

def all : List Oversampling := [.skipped, .x1, .x2, .x4, .x8, .x16]

def code : Oversampling → UInt8
  | .skipped => 0
  | .x1 => 1
  | .x2 => 2
  | .x4 => 3
  | .x8 => 4
  | .x16 => 5

def samples : Oversampling → Nat
  | .skipped => 0
  | .x1 => 1
  | .x2 => 2
  | .x4 => 4
  | .x8 => 8
  | .x16 => 16

end Oversampling

inductive Mode
  | sleep
  | forced
  | normal
  deriving DecidableEq

def Mode.all : List Mode := [.sleep, .forced, .normal]

def Mode.name : Mode → String
  | .sleep => "Sleep"
  | .forced => "Forced"
  | .normal => "Normal"

def Mode.code : Mode → UInt8
  | .sleep => 0b00
  | .forced => 0b01
  | .normal => 0b11

inductive Filter
  | off
  | x2
  | x4
  | x8
  | x16
  deriving DecidableEq

def Filter.all : List Filter := [.off, .x2, .x4, .x8, .x16]

def Filter.coefficient : Filter → Nat
  | .off => 0
  | .x2 => 2
  | .x4 => 4
  | .x8 => 8
  | .x16 => 16

def Filter.code : Filter → UInt8
  | .off => 0
  | .x2 => 1
  | .x4 => 2
  | .x8 => 3
  | .x16 => 4

inductive Standby
  | ms0_5
  | ms62_5
  | ms125
  | ms250
  | ms500
  | ms1000
  | ms10
  | ms20
  deriving DecidableEq

def Standby.all : List Standby :=
  [.ms0_5, .ms62_5, .ms125, .ms250, .ms500, .ms1000, .ms10, .ms20]

def Standby.text : Standby → String
  | .ms0_5 => "0.5"
  | .ms62_5 => "62.5"
  | .ms125 => "125"
  | .ms250 => "250"
  | .ms500 => "500"
  | .ms1000 => "1000"
  | .ms10 => "10"
  | .ms20 => "20"

def Standby.code : Standby → UInt8
  | .ms0_5 => 0
  | .ms62_5 => 1
  | .ms125 => 2
  | .ms250 => 3
  | .ms500 => 4
  | .ms1000 => 5
  | .ms10 => 6
  | .ms20 => 7

structure Config where
  temperature : Oversampling := .x1
  pressure : Oversampling := .x1
  humidity : Oversampling := .x1
  mode : Mode := .normal
  filter : Filter := .off
  standby : Standby := .ms1000
  deriving DecidableEq

namespace Config

def measurementControl (config : Config) (mode : Mode) : UInt8 :=
  (config.temperature.code <<< 5) ||| (config.pressure.code <<< 2) ||| mode.code

def ctrlMeas (config : Config) : UInt8 := config.measurementControl config.mode

def ctrlHum (config : Config) : UInt8 := config.humidity.code

def configByte (config : Config) : UInt8 :=
  (config.standby.code <<< 5) ||| (config.filter.code <<< 2)

def channelTime (channel : Oversampling) : Nat :=
  if channel = .skipped then 0 else 2300 * channel.samples + 575

/-- The longest that one measurement takes, in microseconds. -/
def maxMeasurementTime (config : Config) (chip : Chip) : Nat :=
  1250 + 2300 * config.temperature.samples + channelTime config.pressure +
    if chip.hasHumidity then channelTime config.humidity else 0

end Config

end SensorBus.Bme280
