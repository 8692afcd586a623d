import SensorBus.Job.Fiber
import SensorBus.Spi.Bus

/-!
A bus that several chip-selected devices share behind a lock.

A transaction takes the lock, applies the device's mode if another one was applied last, selects
the chip, makes its calls up to the first that fails, flushes in any case, deselects the chip and
lets the lock go. One that is dropped while its chip is selected deselects it first. A transaction
with a delay is rejected before it asks for the lock.
-/

namespace SensorBus.Spi

structure Device where
  chip : UInt8
  mode : Option Mode := none
  deriving DecidableEq

abbrev Outcome := Except (DeviceError PinError) Unit × List Transfer

structure SharedBus where
  bus : Bus
  /-- The mode applied last, since the bus was shared or reset. -/
  applied : Option Mode := none
  locked : Bool := false

inductive Request
  | transact (device : Device) (transfers : List Transfer)

def interface : Interface where
  Request := Request
  Reply _ := Outcome

/-- The call before which a transaction is suspended: one of its operations, between those that are
carried out and those to come, or the flush, with the result of the operations. -/
inductive Stage
  | calling (past : List Transfer) (transfer : Transfer) (rest : List Transfer)
  | flushing (transfers : List Transfer) (result : Except ErrorKind Unit)

structure Selected where
  chip : UInt8
  stage : Stage
  left : Nat

namespace Bus

/-- The first failure counts, in the order of the calls, the flush and the deselecting edge. -/
def outcome (result flushed : Except ErrorKind Unit) (deselected : Bool) :
    Except (DeviceError PinError) Unit :=
  match result, flushed, deselected with
  | .error kind, _, _ => .error (.bus kind)
  | .ok (), .error kind, _ => .error (.bus kind)
  | .ok (), .ok (), false => .error (.pin .other)
  | .ok (), .ok (), true => .ok ()

def close (bus : Bus) (chip : UInt8) (transfers : List Transfer)
    (result : Except ErrorKind Unit) : Outcome × Bus :=
  let (flushed, bus) := bus.flush
  let (deselected, bus) := bus.deselect chip
  ((outcome result flushed deselected, transfers), bus)

def approachFlush (bus : Bus) (chip : UInt8) (transfers : List Transfer)
    (result : Except ErrorKind Unit) : Poll Selected Outcome × Bus :=
  match bus.yields with
  | 0 =>
    let (outcome, bus) := bus.close chip transfers result
    (.ready outcome, bus)
  | left + 1 => (.pending { chip, stage := .flushing transfers result, left }, bus)

def proceed (chip : UInt8) (past : List Transfer) :
    List Transfer → Bus → Poll Selected Outcome × Bus
  | [], bus => bus.approachFlush chip past (.ok ())
  | transfer :: rest, bus =>
    match bus.yields with
    | 0 =>
      match bus.call transfer with
      | (.ok (), transfer, bus) => proceed chip (past ++ [transfer]) rest bus
      | (.error kind, transfer, bus) =>
        bus.approachFlush chip (past ++ transfer :: rest) (.error kind)
    | left + 1 => (.pending { chip, stage := .calling past transfer rest, left }, bus)

def resume (bus : Bus) (chip : UInt8) : Stage → Poll Selected Outcome × Bus
  | .calling past transfer rest =>
    match bus.call transfer with
    | (.ok (), transfer, bus) => proceed chip (past ++ [transfer]) rest bus
    | (.error kind, transfer, bus) =>
      bus.approachFlush chip (past ++ transfer :: rest) (.error kind)
  | .flushing transfers result =>
    let (outcome, bus) := bus.close chip transfers result
    (.ready outcome, bus)

def callAll (bus : Bus) : List Transfer → Except ErrorKind Unit × List Transfer × Bus
  | [] => (.ok (), [], bus)
  | transfer :: rest =>
    match bus.call transfer with
    | (.ok (), transfer, bus) =>
      let (result, rest, bus) := bus.callAll rest
      (result, transfer :: rest, bus)
    | (.error kind, transfer, bus) => (.error kind, transfer :: rest, bus)

def conclude (bus : Bus) (chip : UInt8) : Stage → Outcome × Bus
  | .calling past transfer rest =>
    let (result, transfers, bus) := bus.callAll (transfer :: rest)
    bus.close chip (past ++ transfers) result
  | .flushing transfers result => bus.close chip transfers result

end Bus

namespace SharedBus

def reset (shared : SharedBus) : SharedBus := { shared with applied := none }

def configure (shared : SharedBus) : Option Mode → SharedBus
  | none => shared
  | some mode =>
    if shared.applied = some mode then shared
    else { shared with bus := shared.bus.apply mode, applied := some mode }

end SharedBus

inductive Turn
  | waiting (device : Device) (transfers : List Transfer)
  | holding (selected : Selected)

namespace Turn

def ofPoll (shared : SharedBus) : Poll Selected Outcome × Bus → Poll Turn Outcome × SharedBus
  | (.ready outcome, bus) => (.ready outcome, { shared with bus, locked := false })
  | (.pending selected, bus) =>
    (.pending (.holding selected), { shared with bus, locked := true })

def select (device : Device) (shared : SharedBus) : Bool × SharedBus :=
  let shared := shared.configure device.mode
  let (taken, bus) := shared.bus.select device.chip
  (taken, { shared with bus })

def poll : Turn → SharedBus → Poll Turn Outcome × SharedBus
  | .waiting device transfers, shared =>
    if transfers.any Transfer.isDelay then
      (.ready (.error .delayNotSupported, transfers), shared)
    else if shared.locked then (.pending (.waiting device transfers), shared)
    else
      match select device shared with
      | (false, shared) => (.ready (.error (.pin .other), transfers), shared)
      | (true, shared) => ofPoll shared (Bus.proceed device.chip [] transfers shared.bus)
  | .holding ⟨chip, stage, 0⟩, shared => ofPoll shared (shared.bus.resume chip stage)
  | .holding ⟨chip, stage, left + 1⟩, shared => (.pending (.holding ⟨chip, stage, left⟩), shared)

def finish : Turn → SharedBus → Outcome × SharedBus
  | .waiting device transfers, shared =>
    if transfers.any Transfer.isDelay then ((.error .delayNotSupported, transfers), shared)
    else
      match select device shared with
      | (false, shared) => ((.error (.pin .other), transfers), shared)
      | (true, shared) =>
        let (result, transfers, bus) := shared.bus.callAll transfers
        let (outcome, bus) := bus.close device.chip transfers result
        (outcome, { shared with bus, locked := false })
  | .holding selected, shared =>
    let (outcome, bus) := shared.bus.conclude selected.chip selected.stage
    (outcome, { shared with bus, locked := false })

def drop : Turn → SharedBus → SharedBus
  | .waiting .., shared => shared
  | .holding selected, shared =>
    { shared with bus := (shared.bus.deselect selected.chip).2, locked := false }

end Turn

def SharedBus.medium : Medium interface SharedBus where
  Flight _ := Turn
  launch | .transact device transfers => .waiting device transfers
  poll _ := Turn.poll
  finish _ := Turn.finish
  drop _ := Turn.drop

namespace Device

def transaction {σ : Type} (device : Device) (transfers : List Transfer) :
    Operation interface σ Outcome :=
  Operation.request (I := interface) (.transact device transfers)

end Device

end SensorBus.Spi
