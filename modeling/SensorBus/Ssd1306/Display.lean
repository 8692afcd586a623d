import SensorBus.I2c.Device
import SensorBus.Ssd1306.Command
import SensorBus.Ssd1306.Frame

/-!
A display on a shared bus. Each command is one transaction, in which a control byte precedes every
byte of the command; the frame is sent in one transaction too. What takes several commands stops
at the first that fails.

The bytes of a command are collected in a buffer. A command that the buffer has no room for is
refused before anything is sent.
-/

namespace SensorBus.Ssd1306

abbrev Attempt (α : Type) := I2c.Attempt Frame α

def maxArguments : Nat := 6

/-- Precedes a single byte of a command. -/
def controlCommand : UInt8 := 0x80

/-- Precedes pixels, up to the stop. -/
def controlData : UInt8 := 0x40

structure Buffer (capacity : Nat) where
  bytes : List UInt8 := []
  length_le : bytes.length ≤ capacity := by exact Nat.zero_le _
  deriving DecidableEq

namespace Buffer

variable {capacity : Nat}

def append? (buffer : Buffer capacity) (bytes : List UInt8) : Option (Buffer capacity) :=
  if length_le : (buffer.bytes ++ bytes).length ≤ capacity then
    some { bytes := buffer.bytes ++ bytes, length_le }
  else none

def addCommand? (buffer : Buffer capacity) : List UInt8 → Option (Buffer capacity)
  | [] => some buffer
  | byte :: rest => do
    let buffer ← buffer.append? [controlCommand, byte]
    buffer.addCommand? rest

end Buffer

def commandCapacity : Nat := 2 * (1 + maxArguments)

variable (device : I2c.Device)

def ping : Attempt Bool := device.ping

def writeRawCommand (opcode : UInt8) (arguments : List UInt8) : Attempt Unit :=
  match ({} : Buffer commandCapacity).addCommand? (opcode :: arguments) with
  | some buffer => device.write buffer.bytes
  | none => throw (.bufferTooSmall (2 * (1 + arguments.length)) commandCapacity)

def writeCommand (command : Command) (arguments : List UInt8) : Attempt Unit :=
  writeRawCommand device command.opcode arguments

def send : List Instruction → Attempt Unit
  | [] => pure ()
  | ⟨command, arguments⟩ :: rest => do
    writeCommand device command arguments
    send rest

def setDisplayOn (on : Bool) : Attempt Unit :=
  writeCommand device (if on then .setDisplayOn else .setDisplayOff) []

def setContrast (contrast : UInt8) : Attempt Unit :=
  writeCommand device .setContrastControl [contrast]

def setInverted (inverted : Bool) : Attempt Unit :=
  writeCommand device (if inverted then .setInvertDisplay else .setNormalDisplay) []

def setRotation (rotation : Rotation) : Attempt Unit :=
  send device (Instruction.rotate rotation)

def powerUp : Attempt Unit := do
  send device Instruction.setUp
  setRotation device .normal
  send device Instruction.switchOn

def startScroll (direction : ScrollDirection) (first last : UInt8) (interval : ScrollInterval) :
    Attempt Unit :=
  send device (Instruction.scroll direction first last interval)

def stopScroll : Attempt Unit := writeCommand device .deactivateScroll []

def writeDisplay : Attempt Unit := do
  device.writePrefixed [controlData] (← get).bytes.toList

end SensorBus.Ssd1306
