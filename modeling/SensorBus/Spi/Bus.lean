import SensorBus.RegisterFile
import SensorBus.Spi.Event

/-!
A bus with one file of 64 registers behind all its chip selects.

The first word taken after a chip was selected is a command, whose low six bits select a register;
later words are stored from there on. Words are given from the pointer on, which survives from one
transaction to the next. Every call on the bus takes one entry off the queue of faults, every edge
of a chip select one off the queue of pin faults; an empty queue has no fault.
-/

namespace SensorBus.Spi

structure Bus where
  registers : RegisterFile 64 := .blank
  pointer : UInt8 := 0
  /-- The selected chip has not taken its command yet. -/
  awaitsCommand : Bool := true
  /-- How often each call is suspended before it is carried out. -/
  yields : Nat := 0
  faults : List (Option ErrorKind) := []
  pinFaults : List Bool := []
  mode : Mode := ⟨0⟩
  log : List Event := []

namespace Bus

def note (bus : Bus) (event : Event) : Bus :=
  { bus with log := bus.log ++ [event] }

def apply (bus : Bus) (mode : Mode) : Bus :=
  { bus.note (.configured mode) with mode }

def takeWord (bus : Bus) (word : UInt8) : Bus :=
  if bus.awaitsCommand then { bus with pointer := word &&& 0x3F, awaitsCommand := false }
  else
    { bus with
      registers := bus.registers.load (bus.pointer &&& 0x3F).toNat [word]
      pointer := bus.pointer + 1 }

def take (bus : Bus) (words : List UInt8) : Bus := words.foldl takeWord bus

def give (bus : Bus) : (length : Nat) → List UInt8 × Bus
  | 0 => ([], bus)
  | length + 1 =>
    let word := bus.registers.slice (bus.pointer &&& 0x3F).toNat 1
    let (words, bus) := give { bus with pointer := bus.pointer + 1 } length
    (word ++ words, bus)

def popFault (bus : Bus) : Option ErrorKind × Bus :=
  (bus.faults.head?.join, { bus with faults := bus.faults.tail })

def perform (bus : Bus) : Transfer → Transfer × Bus
  | .read buffer =>
    let (words, bus) := (bus.note (.read buffer.length)).give buffer.length
    (.read words, bus)
  | .write words => (.write words, (bus.note (.write words)).take words)
  | .both buffer words =>
    let bus := (bus.note (.both buffer.length words)).take words
    let (received, bus) := bus.give buffer.length
    (.both received words, bus)
  | .inPlace words =>
    let bus := (bus.note (.inPlace words)).take words
    let (received, bus) := bus.give words.length
    (.inPlace received, bus)
  | .delay nanoseconds => (.delay nanoseconds, bus)

/-- A call that fails is not logged and leaves its buffer as it was. -/
def call (bus : Bus) (transfer : Transfer) : Except ErrorKind Unit × Transfer × Bus :=
  match bus.popFault with
  | (some kind, bus) => (.error kind, transfer, bus)
  | (none, bus) =>
    let (transfer, bus) := bus.perform transfer
    (.ok (), transfer, bus)

def flush (bus : Bus) : Except ErrorKind Unit × Bus :=
  match bus.popFault with
  | (some kind, bus) => (.error kind, bus)
  | (none, bus) => (.ok (), bus.note .flushed)

def popPinFault (bus : Bus) : Bool × Bus :=
  (bus.pinFaults.headD false, { bus with pinFaults := bus.pinFaults.tail })

/-- The flag says whether the pin took the edge. -/
def select (bus : Bus) (chip : UInt8) : Bool × Bus :=
  let (failed, bus) := popPinFault { bus with awaitsCommand := true }
  (!failed, bus.note (.selected chip !failed))

def deselect (bus : Bus) (chip : UInt8) : Bool × Bus :=
  let (failed, bus) := bus.popPinFault
  (!failed, bus.note (.deselected chip !failed))

def poke (bus : Bus) (register : Nat) (words : List UInt8) : Bus :=
  { bus with registers := bus.registers.load register words }

def peek (bus : Bus) (register length : Nat) : List UInt8 := bus.registers.slice register length

def addFaults (bus : Bus) (faults : List (Option ErrorKind)) (pinFaults : List Bool) : Bus :=
  { bus with faults := bus.faults ++ faults, pinFaults := bus.pinFaults ++ pinFaults }

end Bus

end SensorBus.Spi
