import SensorBus.Proofs.Lis302dl.Bench
import SensorBus.Proofs.Spi.Blocks
import SensorBus.Proofs.Spi.Storing

/-!
Over SPI a write can store its value and fail all the same, in the flush or the deselecting edge,
and then the copy of a control register is behind. The next update that succeeds makes up for it.
-/

namespace SensorBus.Lis302dl

open Spi

structure Update (control : Control) (driver : Lis302dl) (value : UInt8)
    (next : Outcome → Progress Spi.interface Lis302dl (Except Error Unit)) : Prop where
  well : ∀ transfers, ∃ updated, next (.ok (), transfers) = .done updated (.ok ()) ∧
    updated.cached control = value
  ill : ∀ error transfers, ∃ error', next (.error error, transfers) = .done driver (.error error')

theorem Action.update {action : Action} {control : Control}
    (updates : action.updates = some control) (device : Device) (driver : Lis302dl) :
    ∃ value next, Update control driver value next ∧
      action.over (Lis3.OverSpi.handler device) driver =
        .ask driver (.transact device [.write [control.register], .write [value]]) next := by
  -- The value comes from the copy alone, so an update is one transaction and what it comes to.
  cases action <;> cases updates
  all_goals
    refine ⟨_, _, ?_, rfl⟩
    exact ⟨fun _ => ⟨_, rfl, rfl⟩, fun _ _ => ⟨_, rfl⟩⟩

def InStep (control : Control) (driver : Lis302dl) (shared : SharedBus) : Prop :=
  shared.bus.peek control.register.toNat 1 = [driver.cached control]

theorem Update.ends {control : Control} {driver : Lis302dl} {value : UInt8}
    {next : Outcome → Progress Spi.interface Lis302dl (Except Error Unit)}
    (update : Update control driver value next) {outcome : Outcome} {shared : SharedBus}
    (stored : outcome.1 = .ok () → Stored control.register value shared.bus) :
    ∃ driver' result, next outcome = .done driver' result ∧
      (result = .ok () → InStep control driver' shared) := by
  obtain ⟨error | ⟨⟩, transfers⟩ := outcome
  · obtain ⟨error', ends⟩ := update.ill error transfers
    exact ⟨driver, .error error', ends, nofun⟩
  · obtain ⟨updated, ends, copied⟩ := update.well transfers
    have low : control.register &&& 0x3F = control.register := by cases control <;> rfl
    have holds : shared.bus.peek (control.register &&& 0x3F).toNat 1 = [value] := stored rfl
    rw [low, ← copied] at holds
    exact ⟨updated, .ok (), ends, fun _ => holds⟩

def Updating (control : Control) : Work SharedBus.medium → SharedBus → Prop
  | .fresh driver op, _ => ∃ device value next, Update control driver value next ∧
    op driver = .ask driver (.transact device [.write [control.register], .write [value]]) next
  | .asking driver _ flight next, shared =>
    ∃ value, Update control driver value next ∧ Storing control.register value flight shared
  | .spent _, _ => False

def Updated (control : Control) :
    Option (Except Error Unit) × Work SharedBus.medium × SharedBus → Prop
  | (none, fiber, shared) => Updating control fiber shared
  | (some result, fiber, shared) => result = .ok () → InStep control fiber.state shared

section

variable {control : Control} {shared : SharedBus} {fiber : Work SharedBus.medium}

theorem goOn_updated {driver : Lis302dl} {value : UInt8} {r : Spi.interface.Request}
    {next : Outcome → Progress Spi.interface Lis302dl (Except Error Unit)}
    (update : Update control driver value next) {polled : Poll Turn Outcome × SharedBus}
    (stores : Stores control.register value polled) :
    Updated control (Fiber.goOn (M := SharedBus.medium) ⟨driver, r, next⟩ polled) := by
  cases stores with
  | suspended storing => exact ⟨value, update, storing⟩
  | @ended outcome after stored =>
    obtain ⟨driver', result, ends, inStep⟩ := update.ends stored
    change Updated control ((next outcome).advance SharedBus.medium after)
    rw [ends]
    exact inStep

theorem poll_updated (updating : Updating control fiber shared) :
    Updated control (fiber.poll shared) := by
  cases fiber with
  | fresh driver op =>
    obtain ⟨device, value, next, update, asks⟩ := updating
    rw [Fiber.poll, asks]
    refine (congrArg (Updated control) (Fiber.advance_ask ..)).mpr ?_
    exact goOn_updated update (poll_stores .waiting)
  | asking driver r flight next =>
    obtain ⟨value, update, storing⟩ := updating
    have polled : (Fiber.asking driver r flight next : Fiber _ _ _).poll shared = _ :=
      Fiber.poll_fiber ⟨driver, r, next⟩ flight shared
    rw [polled]
    exact goOn_updated update (poll_stores storing)
  | spent => exact updating.elim

theorem run_updated {driver : Lis302dl} {value : UInt8}
    {next : Outcome → Progress Spi.interface Lis302dl (Except Error Unit)}
    (update : Update control driver value next) {turn : Turn}
    (storing : Storing control.register value turn shared) :
    let ran := (next (turn.finish shared).1).run SharedBus.medium (turn.finish shared).2
    ran.1 = .ok () → InStep control ran.2.1 ran.2.2 := by
  obtain ⟨driver', result, ends, inStep⟩ := update.ends (finish_stored storing)
  rw [ends]
  exact inStep

theorem finish_updated (updating : Updating control fiber shared) :
    Updated control (fiber.finish shared) := by
  cases fiber with
  | fresh driver op =>
    obtain ⟨device, value, next, update, asks⟩ := updating
    simp only [Fiber.finish, Operation.run, asks]
    exact run_updated update .waiting
  | asking driver r flight next =>
    obtain ⟨value, update, storing⟩ := updating
    exact run_updated update storing
  | spent => exact updating.elim

end

/-- As long as the operation has its chip selected, the others leave the registers alone, and what
the chip has taken so far. -/
def Undisturbed (fiber : Work SharedBus.medium) (shared shared' : SharedBus) : Prop :=
  SharedBus.discipline.fiberHolds fiber = true →
    shared'.bus.registers = shared.bus.registers ∧ shared'.bus.pointer = shared.bus.pointer ∧
      shared'.bus.awaitsCommand = shared.bus.awaitsCommand

theorem Undisturbed.updating {control : Control} {fiber : Work SharedBus.medium}
    {shared shared' : SharedBus} (undisturbed : Undisturbed fiber shared shared')
    (updating : Updating control fiber shared) : Updating control fiber shared' := by
  cases fiber with
  | fresh | spent => exact updating
  | asking driver r flight next =>
    obtain ⟨value, update, storing⟩ := updating
    refine ⟨value, update, ?_⟩
    cases storing with
    | waiting => exact .waiting
    | selected awaits =>
      obtain ⟨-, -, same⟩ := undisturbed rfl
      exact .selected (same.trans awaits)
    | commanded pointer taken =>
      obtain ⟨-, same, same'⟩ := undisturbed rfl
      exact .commanded (same.trans pointer) (same'.trans taken)
    | called stored =>
      obtain ⟨same, -, -⟩ := undisturbed rfl
      refine .called fun well => ?_
      unfold Stored Bus.peek
      rw [same]
      exact stored well

namespace Bench

structure Recovers (bench : Bench SharedBus.medium) : Prop where
  updating : ∀ action control, bench.action = some action → action.updates = some control →
    Updating control bench.fiber bench.bus
  ended : ∀ action control, bench.ended = some (action, .ok ()) → action.updates = some control →
    InStep control bench.driver bench.bus

theorem settle_recovers {bench : Bench SharedBus.medium} (recovers : bench.Recovers)
    {came : Option (Except Error Unit) × Work SharedBus.medium × SharedBus}
    (updated : ∀ control, Updating control bench.fiber bench.bus → Updated control came) :
    (bench.settle came).Recovers := by
  obtain ⟨_ | result, fiber, shared⟩ := came
  · exact ⟨fun action control underWay updates =>
      updated control (recovers.updating action control underWay updates), nofun⟩
  · refine ⟨nofun, fun action control ended updates => ?_⟩
    obtain ⟨action', underWay, eq⟩ := Option.map_eq_some_iff.1 ended
    cases eq
    exact updated control (recovers.updating action control underWay updates) rfl

theorem step_recovers {device : Device} (bench : Bench SharedBus.medium)
    (recovers : bench.Recovers) (s : Step SharedBus.medium Undisturbed) :
    (bench.step (Lis3.OverSpi.handler device) s).Recovers := by
  cases s with
  | start action =>
    refine ⟨fun action' control underWay updates => ?_, nofun⟩
    cases underWay
    exact ⟨device, action.update updates device bench.driver⟩
  | poll => exact settle_recovers recovers fun control => poll_updated
  | finish => exact settle_recovers recovers fun control => finish_updated
  | drop => exact ⟨nofun, nofun⟩
  | others act abides =>
    exact ⟨fun action control underWay updates => (abides bench.fiber bench.bus).updating
      (recovers.updating action control underWay updates), nofun⟩

theorem run_recovers (device : Device) (driver : Lis302dl) (shared : SharedBus)
    (steps : List (Step SharedBus.medium Undisturbed)) :
    ((rest SharedBus.medium driver shared).run (Lis3.OverSpi.handler device) steps).Recovers := by
  have resting : (rest SharedBus.medium driver shared).Recovers := ⟨nofun, nofun⟩
  exact run_induction Recovers step_recovers resting steps

end Bench

end SensorBus.Lis302dl
