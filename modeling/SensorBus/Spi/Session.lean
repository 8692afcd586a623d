import SensorBus.Job.Join
import SensorBus.Lendable
import SensorBus.Spi.SharedBus

namespace SensorBus.Spi

structure Call where
  device : Nat
  transfers : List Transfer
  deriving DecidableEq

structure Session where
  shared : SharedBus
  devices : List (Lendable Device) := []

structure Errand where
  device : Nat
  fiber : Fiber SharedBus.medium Unit Outcome

instance : Job Errand SharedBus Outcome where
  poll errand shared :=
    let (value, fiber, shared) := errand.fiber.poll shared
    (value, { errand with fiber }, shared)
  finish errand shared :=
    let (value, fiber, shared) := errand.fiber.finish shared
    (value, { errand with fiber }, shared)
  drop errand shared := errand.fiber.drop shared

namespace Session

def engage (session : Session) (call : Call) : Except Refusal (Errand × Session) :=
  match Lendable.free? session.devices call.device with
  | none => .error .borrowed
  | some device =>
    .ok ({ device := call.device, fiber := .fresh () (device.transaction call.transfers) },
      { session with devices := Lendable.mark session.devices call.device true })

def release (session : Session) (errand : Errand) : Session :=
  { session with devices := Lendable.mark session.devices errand.device false }

def call (session : Session) (c : Call) (polls : Option Nat) :
    Except Refusal (Job.Ending Outcome) × Session :=
  match session.engage c with
  | .error refusal => (.error refusal, session)
  | .ok (errand, session) =>
    let (ending, errand, shared) := Job.carryOut polls errand session.shared
    (.ok ending, release { session with shared } errand)

def mapBus (session : Session) (f : Bus → Bus) : Session :=
  { session with shared := { session.shared with bus := f session.shared.bus } }

def reset (session : Session) : Session :=
  { session with shared := session.shared.reset }

inductive Side
  | call (c : Call)
  | underWay (errand : Errand)
  | over

namespace Side

def pollErrand (errand : Errand) (session : Session) :
    Option (Except Refusal Outcome) × Side × Session :=
  match Job.poll errand session.shared with
  | (some outcome, errand, shared) =>
    (some (.ok outcome), .over, release { session with shared } errand)
  | (none, errand, shared) => (none, .underWay errand, { session with shared })

def poll : Side → Session → Option (Except Refusal Outcome) × Side × Session
  | .call c, session =>
    match session.engage c with
    | .error refusal => (some (.error refusal), .over, session)
    | .ok (errand, session) => pollErrand errand session
  | .underWay errand, session => pollErrand errand session
  | .over, session => (none, .over, session)

def finishErrand (errand : Errand) (session : Session) :
    Option (Except Refusal Outcome) × Side × Session :=
  let (value, errand, shared) := Job.finish errand session.shared
  (value.map .ok, .over, release { session with shared } errand)

def finish : Side → Session → Option (Except Refusal Outcome) × Side × Session
  | .call c, session =>
    match session.engage c with
    | .error refusal => (some (.error refusal), .over, session)
    | .ok (errand, session) => finishErrand errand session
  | .underWay errand, session => finishErrand errand session
  | .over, session => (none, .over, session)

def drop : Side → Session → Session
  | .underWay errand, session =>
    release { session with shared := Job.drop errand session.shared } errand
  | _, session => session

instance : Job Side Session (Except Refusal Outcome) where
  poll := poll
  finish := finish
  drop := drop

end Side

/-- Run two calls side by side to their ends. In every round the one that holds the lock goes on,
and a transaction makes one call more than it has operations, so the rounds are bounded. -/
def join (session : Session) (left right : Call) :
    Except Refusal (Except Refusal Outcome × Except Refusal Outcome) × Session :=
  let calls := left.transfers.length + right.transfers.length + 2
  let rounds := calls * (session.shared.bus.yields + 1) + 1
  let pair : Join Side Side _ _ := { left := .call left, right := .call right }
  match pair.poll? rounds session with
  | (some outcomes, session) => (.ok outcomes, session)
  | (none, session) => (.error .locked, session)

end Session

end SensorBus.Spi
