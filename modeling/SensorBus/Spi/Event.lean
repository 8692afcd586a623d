import SensorBus.Spi.ErrorKind

namespace SensorBus.Spi

structure Mode where
  number : Nat
  deriving DecidableEq

inductive Transfer
  | read (buffer : List UInt8)
  | write (words : List UInt8)
  | both (buffer words : List UInt8)
  | inPlace (words : List UInt8)
  | delay (nanoseconds : Nat)
  deriving DecidableEq

namespace Transfer

def isDelay : Transfer → Bool
  | .delay _ => true
  | _ => false

def buffer? : Transfer → Option (List UInt8)
  | .read buffer | .both buffer _ | .inPlace buffer => some buffer
  | .write _ | .delay _ => none

end Transfer

/-- What a bus and its chip-select pins see, in order. The flag of an edge says whether the pin
took it. -/
inductive Event
  | configured (mode : Mode)
  | selected (chip : UInt8) (taken : Bool)
  | deselected (chip : UInt8) (taken : Bool)
  | read (length : Nat)
  | write (words : List UInt8)
  | both (length : Nat) (words : List UInt8)
  | inPlace (words : List UInt8)
  | flushed
  deriving DecidableEq

/-- A chip-select pin gives no reason for its failure. -/
inductive PinError
  | other
  deriving DecidableEq

def PinError.name : PinError → String
  | .other => "Other"

inductive DeviceError (π : Type)
  | bus (kind : ErrorKind)
  | pin (error : π)
  | delayNotSupported
  deriving DecidableEq

namespace DeviceError

variable {π : Type}

def kind : DeviceError π → ErrorKind
  | .bus kind => kind
  | .pin _ | .delayNotSupported => .other

def detail (pinDetail : π → String) : DeviceError π → String
  | .bus kind => s!"Spi({kind.name})"
  | .pin error => s!"Cs({pinDetail error})"
  | .delayNotSupported => "DelayNotSupported"

end DeviceError

end SensorBus.Spi
