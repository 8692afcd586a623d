import SensorBus.I2c.Session
import SensorBus.Proofs.Job.Pool
import SensorBus.Proofs.Job.Requests

namespace SensorBus.I2c

/-- What is done with a handle: operations one after the other, each chosen by the answers so far.
`Action.run` is lent a transaction, and gives it back with its answer. -/
inductive Program (α : Type)
  | result (value : α)
  | call (action : Action) (lent : Option Transaction)
      (next : Answer × Option Transaction → Program α)

def Program.operation {α : Type} (device : Device) : Program α → Operation interface Unit α
  | .result value => pure value
  | .call action lent next =>
    device.operation lent action >>= fun answer => (next answer).operation device

def Program.Lends {α : Type} (kind : Transaction → Prop) : Program α → Prop
  | .result _ => True
  | .call action lent next =>
    (∀ place t, action = .run place → lent = some t → kind t) ∧ ∀ answer, (next answer).Lends kind

theorem Program.lends_any {α : Type} (program : Program α) : program.Lends fun _ => True := by
  induction program with
  | result => trivial
  | call action lent next ih => exact ⟨fun _ _ _ _ => trivial, ih⟩

def Device.Own (device : Device) (kind : Transaction → Prop) : interface.Request → Prop
  | .transact timing t => timing = device.timing ∧ kind t
  | .delay _ => False

section

variable {device : Device} {kind : Transaction → Prop}
  (built : ∀ t : Transaction, t.address = device.address → kind t)

include built

theorem Device.writePrefixed_asks {σ : Type} (head payload : List UInt8) :
    (device.writePrefixed head payload : Attempt σ Unit).run.Asks (device.Own kind) :=
  .bind (.request ⟨rfl, built _ rfl⟩) fun _ => .pure _

theorem Device.read_asks {σ : Type} (buffer : List UInt8) :
    (device.read buffer : Operation interface σ _).Asks (device.Own kind) :=
  .bind (.request ⟨rfl, built _ rfl⟩) fun _ => .pure _

theorem Device.writeRead_asks {σ : Type} (bytes buffer : List UInt8) :
    (device.writeRead bytes buffer : Operation interface σ _).Asks (device.Own kind) :=
  .bind (.request ⟨rfl, built _ rfl⟩) fun _ => .pure _

theorem Device.ping_asks {σ : Type} :
    (device.ping : Attempt σ Bool).run.Asks (device.Own kind) := by
  refine .bind (device.writePrefixed_asks built [] []) fun result => ?_
  cases result with
  | ok => exact .pure _
  | error error =>
    dsimp only
    split <;> exact .pure _

theorem Device.readRegister_asks {σ : Type} (register : UInt8) :
    (device.readRegister register : Attempt σ UInt8).run.Asks (device.Own kind) := by
  refine .attempt ?_ fun values => .pure _
  exact .bind (device.writeRead_asks built _ _) fun _ => .pure _

theorem Device.updateRegister_asks {σ : Type} (register set clear : UInt8) :
    (device.updateRegister register set clear : Attempt σ UInt8).run.Asks (device.Own kind) := by
  have written (old : UInt8) : (do
      device.writeRegister register ((old &&& ~~~clear) ||| set)
      return (old &&& ~~~clear) ||| set : Attempt σ UInt8).run.Asks (device.Own kind) :=
    .attempt (device.writePrefixed_asks built [] _) fun _ => .pure _
  unfold updateRegister
  split
  · exact .attempt (.pure _) written
  · exact .attempt (device.readRegister_asks built register) written

theorem Device.operation_asks (action : Action) (lent : Option Transaction)
    (lends : ∀ place t, action = .run place → lent = some t → kind t) :
    (device.operation lent action).Asks (device.Own kind) := by
  cases action with
  | ping => exact .bind (device.ping_asks built) fun _ => .pure _
  | write | writePrefixed | writeRegister | writeRegisters =>
    exact .bind (device.writePrefixed_asks built _ _) fun _ => .pure _
  | read => exact .bind (device.read_asks built _) fun _ => .pure _
  | writeRead | readRegisters => exact .bind (device.writeRead_asks built _ _) fun _ => .pure _
  | readRegister => exact .bind (device.readRegister_asks built _) fun _ => .pure _
  | updateRegister => exact .bind (device.updateRegister_asks built _ _ _) fun _ => .pure _
  | run place =>
    cases lent with
    | none => exact .pure _
    | some t => exact .bind (.request ⟨rfl, lends place t rfl rfl⟩) fun _ => .pure _

theorem Program.operation_asks {α : Type} (program : Program α) (lends : program.Lends kind) :
    (program.operation device).Asks (device.Own kind) := by
  induction program with
  | result value => exact .pure value
  | call action lent next ih =>
    exact .bind (device.operation_asks built action lent lends.1) fun answer =>
      ih answer (lends.2 answer)

end

theorem Program.operation_timed {α : Type} {device : Device} (program : Program α) :
    (program.operation device ()).Asks (device.Own fun _ => True) :=
  program.operation_asks (fun _ _ => trivial) program.lends_any ()

/-- What may happen to a shared bus between the polls: the bus changes in any way but for its log,
or the master is reset, which takes the lock. -/
inductive Intervention
  | change (f : Bus → Bus)
  | reset

def SharedBus.intervene : Intervention → SharedBus → SharedBus
  | .change f, shared =>
    { shared with
      master := { shared.master with
        bus := { f shared.master.bus with log := shared.master.bus.log } } }
  | .reset, shared =>
    if shared.locked then shared else { shared with master := shared.master.reset }

abbrev BusMember (σ α : Type) := Member (BusFiber σ α) α

abbrev BusPool (σ α : Type) := Pool (BusFiber σ α) SharedBus α

/-- Programs that have not been polled yet, on a bus that nobody has locked. A handle that goes on
after an operation was dropped counts as one more of them. -/
def BusPool.launch {α : Type} (master : Master) (programs : List (Device × Program α)) :
    BusPool Unit α :=
  Pool.launch { master } (programs.map fun (device, program) => ((), program.operation device))

def Turn.exchange? : Turn → Option Exchange
  | .waiting .. => none
  | .holding exchange => some exchange

def BusFiber.exchange? {σ α : Type} : BusFiber σ α → Option Exchange
  | .asking _ (.transact ..) flight _ => Turn.exchange? flight
  | _ => none

/-- The exchange in which a member stands, or stood when it was dropped. -/
def BusMember.exchange? {σ α : Type} : BusMember σ α → Option Exchange
  | .live fiber | .dropped fiber => BusFiber.exchange? fiber
  | .ended .. => none

end SensorBus.I2c
