import SensorBus.I2c.Device
import SensorBus.Lis3.Registers
import SensorBus.Spi.SharedBus

namespace SensorBus.Lis3

namespace OverI2c

def autoIncrement : UInt8 := 0x80

def registerByte (register : UInt8) (length : Nat) : UInt8 :=
  if length > 1 then register ||| autoIncrement else register

def handler {σ : Type} (device : I2c.Device) : Handler interface I2c.interface σ
  | .probe => device.ping
  | .read register buffer => device.readRegisters (registerByte register buffer.length) buffer
  | .write register values => device.writeRegisters (registerByte register values.length) values

end OverI2c

namespace OverSpi

def readBit : UInt8 := 0x80

def autoIncrement : UInt8 := 0x40

def commandByte (register : UInt8) (length : Nat) : UInt8 :=
  if length > 1 then register ||| autoIncrement else register

def result (outcome : Spi.Outcome) : Except Error Unit :=
  outcome.1.mapError fun error => .spi error.kind

def read {σ : Type} (device : Spi.Device) (register : UInt8) (buffer : List UInt8) :
    Operation Spi.interface σ (Except Error Unit × List UInt8) :=
  if buffer.isEmpty then return (.ok (), buffer)
  else do
    let command := commandByte register buffer.length ||| readBit
    let outcome ← device.transaction [.write [command], .read buffer]
    return (result outcome, (outcome.2.filterMap Spi.Transfer.buffer?).headD buffer)

/-- Nothing acknowledges on this bus: a chip is there if its identity reads as neither all zeros nor
all ones. -/
def handler {σ : Type} (device : Spi.Device) : Handler interface Spi.interface σ
  | .probe => do
    let (result, values) ← read device whoAmI [0]
    let id := values.headD 0
    return result.map fun _ => id != 0x00 && id != 0xFF
  | .read register buffer => read device register buffer
  | .write register values => do
    let command := commandByte register values.length
    let outcome ← device.transaction [.write [command], .write values]
    return result outcome

end OverSpi

end SensorBus.Lis3
