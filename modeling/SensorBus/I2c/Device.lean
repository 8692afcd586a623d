import SensorBus.I2c.SharedBus

namespace SensorBus.I2c

structure Device where
  address : Address
  timing : Option Timing := none

abbrev Attempt (σ α : Type) := ExceptT Error (Operation interface σ) α

def pause {σ : Type} (duration : Delay) : Attempt σ Unit :=
  .mk (.ok <$> Operation.request (I := interface) (.delay duration))

namespace Device

variable {σ : Type}

def run (device : Device) (t : Transaction) : Operation interface σ Outcome :=
  Operation.request (I := interface) (.transact device.timing t)

def writePrefixed (device : Device) (head payload : List UInt8) : Attempt σ Unit := .mk do
  let (result, _) ← device.run { address := device.address, body := .write head payload }
  return result

def write (device : Device) (bytes : List UInt8) : Attempt σ Unit :=
  device.writePrefixed [] bytes

def ping (device : Device) : Attempt σ Bool := .mk do
  match ← (device.write []).run with
  | .ok () => return .ok true
  | .error error => return if error.isAddressNack then .ok false else .error error

def read (device : Device) (buffer : List UInt8) :
    Operation interface σ (Except Error Unit × List UInt8) := do
  let (result, t) ← device.run { address := device.address, body := .read buffer }
  return (result, t.body.buffer?.getD [])

def writeRead (device : Device) (bytes buffer : List UInt8) :
    Operation interface σ (Except Error Unit × List UInt8) := do
  let (result, t) ← device.run { address := device.address, body := .writeRead bytes buffer }
  return (result, t.body.buffer?.getD [])

def writeRegister (device : Device) (register value : UInt8) : Attempt σ Unit :=
  device.write [register, value]

def writeRegisters (device : Device) (register : UInt8) (values : List UInt8) : Attempt σ Unit :=
  device.writePrefixed [register] values

def readRegisters (device : Device) (register : UInt8) (buffer : List UInt8) :
    Operation interface σ (Except Error Unit × List UInt8) :=
  device.writeRead [register] buffer

def registers (device : Device) (register : UInt8) (count : Nat) :
    Attempt σ (List UInt8) := .mk do
  let (result, values) ← device.readRegisters register (List.replicate count 0)
  return result.map fun _ => values

def readRegister (device : Device) (register : UInt8) : Attempt σ UInt8 := do
  let values ← device.registers register 1
  return values.headD 0

/-- Clear some bits of a register, then set some. Where every bit is cleared, nothing is read. -/
def updateRegister (device : Device) (register set clear : UInt8) : Attempt σ UInt8 := do
  let old ← if clear = 0xFF then pure 0 else device.readRegister register
  let value := (old &&& ~~~clear) ||| set
  device.writeRegister register value
  return value

end Device

end SensorBus.I2c
