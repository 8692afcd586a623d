import SensorBus.Error
import SensorBus.Job.Operation

namespace SensorBus.Lis3

inductive Request
  | probe
  | read (register : UInt8) (buffer : List UInt8)
  | write (register : UInt8) (values : List UInt8)
  deriving DecidableEq

def interface : Interface where
  Request := Request
  Reply
    | .probe => Except Error Bool
    | .read .. => Except Error Unit × List UInt8
    | .write .. => Except Error Unit

abbrev Attempt (σ α : Type) := ExceptT Error (Operation interface σ) α

def whoAmI : UInt8 := 0x0F

variable {σ : Type}

def probe : Attempt σ Bool := .mk (Operation.request (I := interface) .probe)

def writeRegisters (register : UInt8) (values : List UInt8) : Attempt σ Unit :=
  .mk (Operation.request (I := interface) (.write register values))

def writeRegister (register value : UInt8) : Attempt σ Unit := writeRegisters register [value]

def readRegisters (register : UInt8) (buffer : List UInt8) :
    Operation interface σ (Except Error Unit × List UInt8) :=
  Operation.request (I := interface) (.read register buffer)

def registers (register : UInt8) (count : Nat) : Attempt σ (List UInt8) := .mk do
  let (result, values) ← readRegisters register (List.replicate count 0)
  return result.map fun _ => values

def readRegister (register : UInt8) : Attempt σ UInt8 := do
  let values ← registers register 1
  return values.headD 0

def updateRegister (register set clear : UInt8) : Attempt σ UInt8 := do
  let old ← if clear = 0xFF then pure 0 else readRegister register
  let value := (old &&& ~~~clear) ||| set
  writeRegister register value
  return value

end SensorBus.Lis3
