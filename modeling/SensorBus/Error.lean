import SensorBus.Hex
import SensorBus.I2c.ErrorKind
import SensorBus.Spi.ErrorKind

namespace SensorBus

inductive Error
  | i2c (kind : I2c.ErrorKind)
  | spi (kind : Spi.ErrorKind)
  | invalidAddress (raw : UInt8)
  | transactionBusy
  | bufferTooSmall (needed capacity : Nat)
  | unexpectedIdentity (id : UInt8)
  | timeout
  deriving DecidableEq

namespace Error

def name : Error → String
  | .i2c _ => "I2c"
  | .spi _ => "Spi"
  | .invalidAddress _ => "InvalidAddress"
  | .transactionBusy => "TransactionBusy"
  | .bufferTooSmall .. => "BufferTooSmall"
  | .unexpectedIdentity _ => "UnexpectedIdentity"
  | .timeout => "Timeout"

def message : Error → String
  | .i2c kind => s!"I2C bus error: {kind.name}"
  | .spi kind => s!"SPI bus error: {kind.name}"
  | .invalidAddress raw => s!"invalid 7-bit I2C address 0x{Hex.byte raw}"
  | .transactionBusy => "transaction is busy"
  | .bufferTooSmall needed capacity =>
    s!"buffer too small: needed {needed} bytes, have {capacity}"
  | .unexpectedIdentity id => s!"unexpected device identity 0x{Hex.byte id}"
  | .timeout => "device timed out"

def detail : Error → String
  | .i2c kind => s!"I2c({kind.name})"
  | .spi kind => s!"Spi({kind.name})"
  | .invalidAddress raw => s!"InvalidAddress({raw.toNat})"
  | .transactionBusy => "TransactionBusy"
  | .bufferTooSmall needed capacity =>
    "BufferTooSmall \x7b needed: " ++ s!"{needed}, capacity: {capacity}" ++ " \x7d"
  | .unexpectedIdentity id => s!"UnexpectedIdentity({id.toNat})"
  | .timeout => "Timeout"

def isAddressNack : Error → Bool
  | .i2c (.noAcknowledge .address) | .i2c (.noAcknowledge .unknown) => true
  | _ => false

/-- The error that brought this one about. Bus error kinds are plain codes, so there is none. -/
def cause? : Error → Option Error := fun _ => none

end Error

end SensorBus
