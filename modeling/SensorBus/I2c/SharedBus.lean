import SensorBus.I2c.Master
import SensorBus.Job.Fiber

/-!
A master that several devices share behind a lock. Each transaction holds the lock from its start
to its end; one that finds the lock held waits, and takes the lock when it is polled while the lock
is free.
-/

namespace SensorBus.I2c

structure SharedBus where
  master : Master
  locked : Bool := false

inductive Request
  | transact (timing : Option Timing) (t : Transaction)
  | delay (duration : Delay)

def interface : Interface where
  Request := Request
  Reply
    | .transact .. => Outcome
    | .delay _ => Unit

inductive Turn
  | waiting (timing : Option Timing) (t : Transaction)
  | holding (exchange : Exchange)

namespace Turn

def transaction : Turn → Transaction
  | .waiting _ t => t
  | .holding exchange => exchange.abandoned

def ofPoll : Poll Exchange Outcome × Master → Poll Turn Outcome × SharedBus
  | (.ready outcome, master) => (.ready outcome, { master, locked := false })
  | (.pending exchange, master) => (.pending (.holding exchange), { master, locked := true })

def poll : Turn → SharedBus → Poll Turn Outcome × SharedBus
  | .waiting timing t, shared =>
    if shared.locked then (.pending (.waiting timing t), shared)
    else ofPoll (shared.master.begin timing t)
  | .holding exchange, shared => ofPoll (shared.master.poll exchange)

/-- Where the lock is held by another, finishing goes on as if it were free. -/
def finish : Turn → SharedBus → Outcome × SharedBus
  | .waiting timing t, shared =>
    let (outcome, master) := shared.master.run timing t
    (outcome, { master, locked := false })
  | .holding exchange, shared =>
    let (outcome, master) := shared.master.complete exchange.transaction
    (outcome, { master, locked := false })

def drop : Turn → SharedBus → SharedBus
  | .waiting .., shared => shared
  | .holding exchange, shared =>
    { master := shared.master.abandon exchange, locked := false }

end Turn

inductive Pause
  | fresh
  | suspended (left : Nat)

namespace Pause

def note (duration : Delay) (shared : SharedBus) : SharedBus :=
  { shared with
    master := { shared.master with bus := shared.master.bus.note [.delayed duration] } }

def poll (duration : Delay) : Pause → SharedBus → Poll Pause Unit × SharedBus
  | .fresh, shared =>
    let shared := note duration shared
    match shared.master.bus.delaysSuspend, shared.master.bus.yields with
    | true, left + 1 => (.pending (.suspended left), shared)
    | _, _ => (.ready (), shared)
  | .suspended 0, shared => (.ready (), shared)
  | .suspended (left + 1), shared => (.pending (.suspended left), shared)

def finish (duration : Delay) : Pause → SharedBus → Unit × SharedBus
  | .fresh, shared => ((), note duration shared)
  | .suspended _, shared => ((), shared)

end Pause

namespace SharedBus

def Flight : Request → Type
  | .transact .. => Turn
  | .delay _ => Pause

def medium : Medium interface SharedBus where
  Flight := Flight
  launch
    | .transact timing t => Turn.waiting timing t
    | .delay _ => Pause.fresh
  poll
    | .transact .., flight, shared => Turn.poll flight shared
    | .delay duration, flight, shared => Pause.poll duration flight shared
  finish
    | .transact .., flight, shared => Turn.finish flight shared
    | .delay duration, flight, shared => Pause.finish duration flight shared
  drop
    | .transact .., flight, shared => Turn.drop flight shared
    | .delay _, _, shared => shared

end SharedBus

abbrev BusFiber (σ α : Type) := Fiber SharedBus.medium σ α

def BusFiber.transaction? {σ α : Type} : BusFiber σ α → Option Transaction
  | .asking _ (.transact ..) flight _ => some (Turn.transaction flight)
  | _ => none

end SensorBus.I2c
