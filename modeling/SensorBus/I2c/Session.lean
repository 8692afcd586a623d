import SensorBus.I2c.Device
import SensorBus.Job.Join
import SensorBus.Job.Slot
import SensorBus.Lendable

/-!
A shared bus together with the handles, transactions and slots of those who use it.

An operation borrows its handle, and the transaction it runs, from when it is made until it has
ended or was stopped. What is borrowed refuses everything else in the meantime.
-/

namespace SensorBus.I2c

inductive Action
  | ping
  | write (bytes : List UInt8)
  | writePrefixed (head payload : List UInt8)
  | read (length : Nat)
  | writeRead (bytes : List UInt8) (length : Nat)
  | writeRegister (register value : UInt8)
  | writeRegisters (register : UInt8) (values : List UInt8)
  | readRegister (register : UInt8)
  | readRegisters (register : UInt8) (length : Nat)
  | updateRegister (register set clear : UInt8)
  | run (transaction : Nat)
  deriving DecidableEq

structure Call where
  handle : Nat
  action : Action
  deriving DecidableEq

inductive Answer
  | done (result : Except Error Unit)
  | present (result : Except Error Bool)
  | byte (result : Except Error UInt8)
  | buffer (result : Except Error Unit) (bytes : List UInt8)

def Device.operation (device : Device) (lent : Option Transaction) :
    Action → Operation interface Unit (Answer × Option Transaction)
  | .ping => return (.present (← device.ping.run), none)
  | .write bytes => return (.done (← (device.write bytes).run), none)
  | .writePrefixed head payload => return (.done (← (device.writePrefixed head payload).run), none)
  | .read length => do
    let (result, bytes) ← device.read (List.replicate length 0)
    return (.buffer result bytes, none)
  | .writeRead bytes length => do
    let (result, bytes) ← device.writeRead bytes (List.replicate length 0)
    return (.buffer result bytes, none)
  | .writeRegister register value =>
    return (.done (← (device.writeRegister register value).run), none)
  | .writeRegisters register values =>
    return (.done (← (device.writeRegisters register values).run), none)
  | .readRegister register => return (.byte (← (device.readRegister register).run), none)
  | .readRegisters register length => do
    let (result, bytes) ← device.readRegisters register (List.replicate length 0)
    return (.buffer result bytes, none)
  | .updateRegister register set clear =>
    return (.byte (← (device.updateRegister register set clear).run), none)
  | .run _ =>
    match lent with
    | some t => do
      let (result, t) ← device.run t
      return (.done result, some t)
    | none => return (.done (.ok ()), none)

structure Errand where
  handle : Nat
  transaction : Option Nat
  fiber : BusFiber Unit (Answer × Option Transaction)

instance : Job Errand SharedBus (Answer × Option Transaction) where
  poll errand shared :=
    let (value, fiber, shared) := errand.fiber.poll shared
    (value, { errand with fiber }, shared)
  finish errand shared :=
    let (value, fiber, shared) := errand.fiber.finish shared
    (value, { errand with fiber }, shared)
  drop errand shared := errand.fiber.drop shared

structure Session where
  shared : SharedBus
  handles : List (Lendable Device) := []
  transactions : List (Lendable Transaction) := []
  slots : List (Slot Errand) := []

namespace Session

def engage (session : Session) (call : Call) : Except Refusal (Errand × Session) :=
  match Lendable.free? session.handles call.handle with
  | none => .error .borrowed
  | some device =>
    let handles := Lendable.mark session.handles call.handle true
    match call.action with
    | .run i =>
      match Lendable.free? session.transactions i with
      | none => .error .borrowed
      | some t =>
        .ok ({ handle := call.handle, transaction := some i,
               fiber := .fresh () (device.operation (some t) call.action) },
          { session with handles, transactions := Lendable.mark session.transactions i true })
    | action =>
      .ok ({ handle := call.handle, transaction := none,
             fiber := .fresh () (device.operation none action) },
        { session with handles })

def release (session : Session) (errand : Errand) (t : Option Transaction) : Session :=
  let transactions :=
    match errand.transaction, t with
    | some i, some t => Lendable.mark (Lendable.put session.transactions i t) i false
    | some i, none => Lendable.mark session.transactions i false
    | none, _ => session.transactions
  { session with handles := Lendable.mark session.handles errand.handle false, transactions }

def endingAnswer : Job.Ending (Answer × Option Transaction) → Job.Ending Answer
  | .value (answer, _) => .value answer
  | .finished (answer, _) polls => .finished answer polls
  | .stopped => .stopped

def endingTransaction (errand : Errand) :
    Job.Ending (Answer × Option Transaction) → Option Transaction
  | .value (_, t) | .finished (_, t) _ => t
  | .stopped => errand.fiber.transaction?

def call (session : Session) (c : Call) (polls : Option Nat) :
    Except Refusal (Job.Ending Answer) × Session :=
  if session.shared.locked then (.error .locked, session)
  else
    match session.engage c with
    | .error refusal => (.error refusal, session)
    | .ok (errand, session) =>
      let (ending, errand, shared) := Job.carryOut polls errand session.shared
      (.ok (endingAnswer ending),
        release { session with shared } errand (endingTransaction errand ending))

def slot (session : Session) (i : Nat) : Slot Errand := (session.slots[i]?).join

def running (session : Session) : List Bool := session.slots.map Slot.isRunning

def start (session : Session) (i : Nat) (c : Call) : Except Refusal Bool × Session :=
  match session.engage c with
  | .error refusal => (.error refusal, session)
  | .ok (errand, engaged) =>
    match Slot.start errand (session.slot i) engaged.shared with
    | (true, slot, shared) =>
      (.ok true, { engaged with shared, slots := engaged.slots.set i slot })
    | (false, _, shared) => (.ok false, release { engaged with shared } errand none)

def resume (session : Session) (i : Nat) : Resume Answer × Session :=
  match session.slot i, Slot.resume (session.slot i) session.shared with
  | some errand, (.finished (answer, t), slot, shared) =>
    (.finished answer,
      release { session with shared, slots := session.slots.set i slot } errand t)
  | some _, (.running, slot, shared) =>
    (.running, { session with shared, slots := session.slots.set i slot })
  | _, _ => (.idle, session)

def stop (session : Session) (i : Nat) : Bool × Session :=
  match session.slot i with
  | none => (false, session)
  | some errand =>
    let (stopped, slot, shared) := Slot.stop (some errand) session.shared
    (stopped, release { session with shared, slots := session.slots.set i slot } errand
      errand.fiber.transaction?)

def finish (session : Session) (i : Nat) : Except Refusal (Option Answer) × Session :=
  if (session.slots.eraseIdx i).any Slot.isRunning then (.error .othersRunning, session)
  else
    match session.slot i with
    | none => (.ok none, session)
    | some errand =>
      let (value, slot, shared) := Slot.finish (some errand) session.shared
      (.ok (value.map (·.1)),
        release { session with shared, slots := session.slots.set i slot } errand
          (value.bind (·.2)))

def address (session : Session) (handle : Nat) : Except Refusal Address :=
  match Lendable.free? session.handles handle with
  | some device => .ok device.address
  | none => .error .borrowed

def setAddress (session : Session) (handle : Nat) (raw : UInt8) :
    Except Refusal (Except Error Address) × Session :=
  match Lendable.free? session.handles handle with
  | none => (.error .borrowed, session)
  | some device =>
    match Address.ofRaw raw with
    | .error error => (.ok (.error error), session)
    | .ok address =>
      (.ok (.ok address),
        { session with
          handles := Lendable.put session.handles handle { device with address } })

def withTransaction {α : Type} (session : Session) (i : Nat)
    (f : Transaction → Bus → α × Transaction × Bus) : Except Refusal α × Session :=
  match Lendable.free? session.transactions i with
  | none => (.error .borrowed, session)
  | some t =>
    let (value, t, bus) := f t session.shared.master.bus
    (.ok value,
      { session with
        shared := { session.shared with master := { session.shared.master with bus } }
        transactions := Lendable.put session.transactions i t })

def mapBus (session : Session) (f : Bus → Bus) : Session :=
  { session with
    shared := { session.shared with
      master := { session.shared.master with bus := f session.shared.master.bus } } }

/-- The master can be reached only while nobody holds the lock. -/
def reset (session : Session) : Except Refusal Unit × Session :=
  if session.shared.locked then (.error .locked, session)
  else
    (.ok (),
      { session with shared := { session.shared with master := session.shared.master.reset } })

def lastError (session : Session) : Except Refusal (Option ErrorKind) :=
  if session.shared.locked then .error .locked else .ok session.shared.master.lastError

def runDirectly (session : Session) (i : Nat) (timing : Option Timing) (polls : Option Nat) :
    Except Refusal (Job.Ending (Except Error Unit)) × Session :=
  if session.shared.locked then (.error .locked, session)
  else
    match Lendable.free? session.transactions i with
    | none => (.error .borrowed, session)
    | some t =>
      let (ending, run, master) := Job.carryOut polls (Run.fresh timing t) session.shared.master
      (.ok ending,
        { session with
          shared := { session.shared with master }
          transactions := Lendable.put session.transactions i run.transaction })

structure Branch where
  current : Option Errand := none
  queue : List Call
  answers : List (Except Refusal Answer) := []

namespace Branch

def drain (answers : List (Except Refusal Answer)) :
    List Call → Session → Option (List (Except Refusal Answer)) × Branch × Session
  | [], session => (some answers, { queue := [], answers }, session)
  | c :: queue, session =>
    match session.engage c with
    | .error refusal => drain (answers ++ [.error refusal]) queue session
    | .ok (errand, session) =>
      match Job.poll errand session.shared with
      | (some (answer, t), errand, shared) =>
        drain (answers ++ [.ok answer]) queue (release { session with shared } errand t)
      | (none, errand, shared) =>
        (none, { current := some errand, queue, answers }, { session with shared })

def poll (branch : Branch) (session : Session) :
    Option (List (Except Refusal Answer)) × Branch × Session :=
  match branch.current with
  | none => drain branch.answers branch.queue session
  | some errand =>
    match Job.poll errand session.shared with
    | (some (answer, t), errand, shared) =>
      drain (branch.answers ++ [.ok answer]) branch.queue
        (release { session with shared } errand t)
    | (none, errand, shared) =>
      (none, { branch with current := some errand }, { session with shared })

def finishQueue (answers : List (Except Refusal Answer)) :
    List Call → Session → List (Except Refusal Answer) × Session
  | [], session => (answers, session)
  | c :: queue, session =>
    match session.call c none with
    | (.ok (.value answer), session) => finishQueue (answers ++ [.ok answer]) queue session
    | (.ok _, session) => finishQueue answers queue session
    | (.error refusal, session) => finishQueue (answers ++ [.error refusal]) queue session

def finish (branch : Branch) (session : Session) :
    Option (List (Except Refusal Answer)) × Branch × Session :=
  let (answers, session) :=
    match branch.current with
    | none => finishQueue branch.answers branch.queue session
    | some errand =>
      match Job.finish errand session.shared with
      | (some (answer, t), errand, shared) =>
        finishQueue (branch.answers ++ [.ok answer]) branch.queue
          (release { session with shared } errand t)
      | (none, errand, shared) =>
        finishQueue branch.answers branch.queue (release { session with shared } errand none)
  (some answers, { queue := [], answers }, session)

def drop (branch : Branch) (session : Session) : Session :=
  match branch.current with
  | none => session
  | some errand =>
    release { session with shared := Job.drop errand session.shared } errand
      errand.fiber.transaction?

end Branch

instance : Job Branch Session (List (Except Refusal Answer)) where
  poll := Branch.poll
  finish := Branch.finish
  drop := Branch.drop

/-- Run two lists of calls side by side to their ends. In every round the one that holds the lock
goes on, and no call needs more than two transactions, so the rounds are bounded. -/
def join (session : Session) (left right : List Call) :
    Except Refusal (List (Except Refusal Answer) × List (Except Refusal Answer)) × Session :=
  if session.shared.locked then (.error .locked, session)
  else
    let rounds := 2 * (left.length + right.length) * (session.shared.master.bus.yields + 1) + 1
    let pair : Join Branch Branch _ _ := { left := { queue := left }, right := { queue := right } }
    match pair.poll? rounds session with
    | (some answers, session) => (.ok answers, session)
    | (none, session) => (.error .locked, session)

end Session

end SensorBus.I2c
