import SensorBus.Error
import SensorBus.Violation

namespace SensorBus.I2c

structure Address where
  raw : UInt8
  raw_le : raw ≤ 0x7F
  deriving DecidableEq

namespace Address

def max : UInt8 := 0x7F

def ofRaw (raw : UInt8) : Except Error Address :=
  if h : raw ≤ 0x7F then .ok ⟨raw, h⟩ else .error (.invalidAddress raw)

def ofConstant (raw : UInt8) : Except Violation Address :=
  if h : raw ≤ 0x7F then .ok ⟨raw, h⟩ else .error .wideAddress

def detail (address : Address) : String := s!"Address({address.raw.toNat})"

end Address

end SensorBus.I2c
