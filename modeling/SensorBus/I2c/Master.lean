import SensorBus.I2c.Bus
import SensorBus.Job.Basic

/-!
The master owns the bus and runs one transaction at a time.

A run attaches the transaction, applies the timing if another one was applied last, puts the start
on the bus, and detaches the transaction with the cause of its end. A refused attachment touches
neither the bus nor the timing. A run that is dropped while it is suspended detaches with
`errorCondition`.
-/

namespace SensorBus.I2c

structure Master where
  bus : Bus
  /-- The timing applied last, since the master was made or reset. -/
  applied : Option Timing := none
  lastError : Option ErrorKind := none

abbrev Outcome := Except Error Unit × Transaction

structure Exchange where
  transaction : Transaction
  left : Nat

namespace Master

def reset (master : Master) : Master :=
  { master with applied := none, lastError := none }

def time (master : Master) : Option Timing → Master
  | none => master
  | some timing =>
    if master.applied = some timing then master
    else { master with bus := master.bus.apply timing, applied := some timing }

def complete (master : Master) (t : Transaction) : Outcome × Master :=
  let (result, received, bus) := master.bus.transfer t.address t.sequence.segments
  let t := t.receive received
  match result with
  | .ok () =>
    let (t, bus) := bus.detach t .normalStop
    ((.ok (), t), { master with bus })
  | .error kind =>
    let (t, bus) := bus.detach t .errorCondition
    ((.error (.i2c kind), t), { master with bus, lastError := some kind })

def begin (master : Master) (timing : Option Timing) (t : Transaction) :
    Poll Exchange Outcome × Master :=
  match master.bus.attach t with
  | (false, t, bus) =>
    let (t, bus) := bus.detach t .failedToAttach
    (.ready (.error .transactionBusy, t), { master with bus })
  | (true, t, bus) =>
    let master := Master.time { master with bus } timing
    let bus := (master.bus.report t .sequenced).note [.start t.address]
    match bus.yields with
    | 0 =>
      let (outcome, master) := Master.complete { master with bus } t
      (.ready outcome, master)
    | left + 1 => (.pending { transaction := t, left }, { master with bus })

def poll (master : Master) (exchange : Exchange) : Poll Exchange Outcome × Master :=
  match exchange with
  | ⟨t, 0⟩ =>
    let (outcome, master) := master.complete t
    (.ready outcome, master)
  | ⟨t, left + 1⟩ => (.pending ⟨t, left⟩, master)

/-- Give an exchange up while it is suspended. The bus is left without a stop. -/
def abandon (master : Master) (exchange : Exchange) : Master :=
  { master with bus := (master.bus.detach exchange.transaction .errorCondition).2 }

def run (master : Master) (timing : Option Timing) (t : Transaction) : Outcome × Master :=
  match master.begin timing t with
  | (.ready outcome, master) => (outcome, master)
  | (.pending exchange, master) => master.complete exchange.transaction

end Master

def Exchange.abandoned (exchange : Exchange) : Transaction :=
  exchange.transaction.detach .errorCondition

inductive Run
  | fresh (timing : Option Timing) (t : Transaction)
  | exchanging (exchange : Exchange)
  | spent (t : Transaction)

namespace Run

def transaction : Run → Transaction
  | .fresh _ t | .spent t => t
  | .exchanging exchange => exchange.abandoned

def ofPoll : Poll Exchange Outcome × Master → Option (Except Error Unit) × Run × Master
  | (.ready (result, t), master) => (some result, .spent t, master)
  | (.pending exchange, master) => (none, .exchanging exchange, master)

def poll : Run → Master → Option (Except Error Unit) × Run × Master
  | .fresh timing t, master => ofPoll (master.begin timing t)
  | .exchanging exchange, master => ofPoll (master.poll exchange)
  | .spent t, master => (none, .spent t, master)

def finish : Run → Master → Option (Except Error Unit) × Run × Master
  | .fresh timing t, master =>
    let ((result, t), master) := master.run timing t
    (some result, .spent t, master)
  | .exchanging exchange, master =>
    let ((result, t), master) := master.complete exchange.transaction
    (some result, .spent t, master)
  | .spent t, master => (none, .spent t, master)

def drop : Run → Master → Master
  | .exchanging exchange, master => master.abandon exchange
  | _, master => master

instance : Job Run Master (Except Error Unit) where
  poll := poll
  finish := finish
  drop := drop

end Run

end SensorBus.I2c
