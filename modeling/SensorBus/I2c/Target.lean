import SensorBus.I2c.Event
import SensorBus.RegisterFile

/-!
Targets: devices with 256 byte registers and an incrementing pointer.

The first byte written in an exchange selects a register, less the bits that the target's mask
takes away; every later one is stored at the pointer. Reading goes on from the pointer, which
survives from one exchange to the next. A register may have a script, whose values it takes one by
one as it is read.
-/

namespace SensorBus.I2c

structure Target where
  registers : RegisterFile 256 := .blank
  mask : UInt8 := 0xFF
  pointer : UInt8 := 0
  scripts : Vector (List UInt8) 256 := Vector.replicate 256 []

/-- A bus error that strikes in an exchange after that many segments. -/
structure Fault where
  kind : ErrorKind
  after : Nat := 0
  deriving DecidableEq

namespace Target

def load (target : Target) (start : Nat) (bytes : List UInt8) : Target :=
  { target with registers := target.registers.load start bytes }

def addScript (target : Target) (register : UInt8) (values : List UInt8) : Target :=
  have lt := register.toNat_lt
  { target with
    scripts := target.scripts.set register.toNat (target.scripts[register.toNat] ++ values) lt }

def select (target : Target) (byte : UInt8) : Target :=
  { target with pointer := byte &&& target.mask }

def store (target : Target) (byte : UInt8) : Target :=
  { target with
    registers := target.registers.set target.pointer.toNat byte target.pointer.toNat_lt
    pointer := target.pointer + 1 }

/-- Take the bytes of one write. The flag says whether this exchange has selected a register. -/
def write (target : Target) (selected : Bool) : List UInt8 → Target × Bool
  | [] => (target, selected)
  | byte :: rest =>
    if selected then (target.store byte).write true rest else (target.select byte).write true rest

def readByte (target : Target) : UInt8 × Target :=
  have lt := target.pointer.toNat_lt
  match target.scripts[target.pointer.toNat] with
  | [] => (target.registers[target.pointer.toNat], { target with pointer := target.pointer + 1 })
  | byte :: rest =>
    (byte, { target with
      registers := target.registers.set target.pointer.toNat byte lt
      scripts := target.scripts.set target.pointer.toNat rest lt
      pointer := target.pointer + 1 })

def read (target : Target) : (length : Nat) → List UInt8 × Target
  | 0 => ([], target)
  | length + 1 =>
    let (byte, target) := target.readByte
    let (bytes, target) := target.read length
    (byte :: bytes, target)

structure Exchanged where
  target : Target
  result : Except ErrorKind Unit := .ok ()
  received : List UInt8 := []
  events : List Event := []

def exchange (target : Target) (selected : Bool) (fault : Option Fault) :
    List Segment → Exchanged
  | [] => { target }
  | segment :: rest =>
    match fault with
    | some ⟨kind, 0⟩ => { target, result := .error kind }
    | _ =>
      let fault := fault.map fun fault => { fault with after := fault.after - 1 }
      match segment with
      | .write bytes =>
        let (target, selected) := target.write selected bytes
        let exchanged := target.exchange selected fault rest
        { exchanged with events := .write bytes :: exchanged.events }
      | .read length =>
        let (bytes, target) := target.read length
        let exchanged := target.exchange selected fault rest
        { exchanged with
          received := bytes ++ exchanged.received
          events := .read length :: exchanged.events }

end Target

end SensorBus.I2c
