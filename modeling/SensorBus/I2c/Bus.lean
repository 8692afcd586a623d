import SensorBus.I2c.Target

/-!
A bus with register-file targets. Its faults are queued: every exchange takes one entry off the
queue, and an empty queue has no fault.
-/

namespace SensorBus.I2c

structure Bus where
  targets : Vector (Option Target) 256 := Vector.replicate 256 none
  faults : List (Option Fault) := []
  /-- How often an exchange is suspended between its start and its first segment. -/
  yields : Nat := 0
  /-- Whether a delay is suspended as often as an exchange is, or not at all. -/
  delaysSuspend : Bool := true
  /-- In hertz; zero until a timing is applied. -/
  frequency : Nat := 0
  log : List Event := []

namespace Bus

def target? (bus : Bus) (raw : UInt8) : Option Target :=
  have lt := raw.toNat_lt
  bus.targets[raw.toNat]

def setTarget (bus : Bus) (raw : UInt8) (target : Option Target) : Bus :=
  { bus with targets := bus.targets.set raw.toNat target raw.toNat_lt }

def note (bus : Bus) (events : List Event) : Bus :=
  { bus with log := bus.log ++ events }

def apply (bus : Bus) (timing : Timing) : Bus :=
  { bus.note [.timed timing] with frequency := timing.hertz }

/-- All that follows the start of an exchange, the stop included, which comes after a failure
too. -/
def transfer (bus : Bus) (address : Address) (segments : List Segment) :
    Except ErrorKind Unit × List UInt8 × Bus :=
  let fault := bus.faults.head?.join
  let bus := { bus with faults := bus.faults.tail }
  match fault, bus.target? address.raw with
  | some ⟨kind, 0⟩, _ => (.error kind, [], bus.note [.stop address])
  | _, none => (.error (.noAcknowledge .address), [], bus.note [.stop address])
  | _, some target =>
    let exchanged := target.exchange false fault segments
    (exchanged.result, exchanged.received,
      (bus.setTarget address.raw exchanged.target).note (exchanged.events ++ [.stop address]))

def report (bus : Bus) (t : Transaction) (event : Event) : Bus :=
  if t.reports then bus.note [event] else bus

def attach (bus : Bus) (t : Transaction) : Bool × Transaction × Bus :=
  let (accepted, attached) := t.attach
  (accepted, attached, bus.report t (.attaching accepted))

def detach (bus : Bus) (t : Transaction) (cause : DetachCause) : Transaction × Bus :=
  (t.detach cause, bus.report t (.detaching cause))

def poke (bus : Bus) (raw register : UInt8) (bytes : List UInt8) : Bus :=
  match bus.target? raw with
  | some target => bus.setTarget raw (target.load register.toNat bytes)
  | none => bus

def peek? (bus : Bus) (raw register : UInt8) (length : Nat) : Option (List UInt8) :=
  (bus.target? raw).map fun target => target.registers.slice register.toNat length

def addFaults (bus : Bus) (faults : List (Option Fault)) : Bus :=
  { bus with faults := bus.faults ++ faults }

def unplug (bus : Bus) (raw : UInt8) : Bool × Bus :=
  ((bus.target? raw).isSome, bus.setTarget raw none)

end Bus

end SensorBus.I2c
