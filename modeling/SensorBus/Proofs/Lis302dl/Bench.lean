import SensorBus.Lis3.Transport
import SensorBus.Proofs.Job.Keeping
import SensorBus.Proofs.Lis302dl.Action

namespace SensorBus.Lis302dl

variable {I : Interface} {W : Type} {M : Medium I W}

def Action.over (action : Action) (handler : Handler Lis3.interface I Lis302dl) :
    Operation I Lis302dl (Except Error Unit) :=
  Operation.via handler action.attempt.run

abbrev Work (M : Medium I W) := Fiber M Lis302dl (Except Error Unit)

/-- A driver and its bus, with the operation that is under way, and the one that the last step has
ended, with its result. -/
structure Bench (M : Medium I W) where
  fiber : Work M
  bus : W
  action : Option Action := none
  ended : Option (Action × Except Error Unit) := none

namespace Bench

def rest (M : Medium I W) (driver : Lis302dl) (bus : W) : Bench M := { fiber := .spent driver, bus }

def driver (bench : Bench M) : Lis302dl := bench.fiber.state

inductive Step (M : Medium I W) (abide : Work M → W → W → Prop)
  | start (action : Action)
  | poll
  | finish
  | drop
  | others (act : Work M → W → W) (abides : ∀ fiber bus, abide fiber bus (act fiber bus))

variable {abide : Work M → W → W → Prop} {handler : Handler Lis3.interface I Lis302dl}

def settle (bench : Bench M) : Option (Except Error Unit) × Work M × W → Bench M
  | (none, fiber, bus) => { fiber, bus, action := bench.action }
  | (some result, fiber, bus) => { fiber, bus, ended := bench.action.map (·, result) }

def step (handler : Handler Lis3.interface I Lis302dl) (bench : Bench M) : Step M abide → Bench M
  | .start action =>
    { fiber := .fresh bench.driver (action.over handler)
      bus := bench.fiber.drop bench.bus
      action }
  | .poll => bench.settle (bench.fiber.poll bench.bus)
  | .finish => bench.settle (bench.fiber.finish bench.bus)
  | .drop => rest M bench.driver (bench.fiber.drop bench.bus)
  | .others act _ => { bench with bus := act bench.fiber bench.bus, ended := none }

def run (handler : Handler Lis3.interface I Lis302dl) (bench : Bench M)
    (steps : List (Step M abide)) : Bench M :=
  steps.foldl (step handler) bench

theorem run_induction (holds : Bench M → Prop)
    (kept : ∀ bench, holds bench → ∀ s : Step M abide, holds (bench.step handler s))
    {bench : Bench M} (start : holds bench) (steps : List (Step M abide)) :
    holds (bench.run handler steps) := by
  induction steps generalizing bench with
  | nil => exact start
  | cons s steps ih => exact ih (kept bench start s)

end Bench

def Spares {α : Type} (start driver : Lis302dl) : Except Error α → Prop
  | .ok _ => True
  | .error _ => driver = start

theorem Follows.keeps {α : Type} {start : Lis302dl} {controls : Controls}
    {p : Progress Lis3.interface Lis302dl (Except Error α)} (follows : Follows start controls p) :
    p.Keeps start (Spares start) := by
  induction p generalizing controls with
  | done state value =>
    cases value with
    | ok => trivial
    | error => exact follows.1
  | ask state r next ih =>
    cases r with
    | probe =>
      obtain ⟨same, -, each⟩ := follows
      exact ⟨same, fun reply => ih reply (each reply)⟩
    | read register buffer =>
      obtain ⟨same, -, -, -, each⟩ := follows
      exact ⟨same, fun reply => ih reply (each reply)⟩
    | write register values =>
      obtain ⟨same, -, -, value, -, stored, failed⟩ := follows
      refine ⟨same, fun reply => ?_⟩
      cases reply with
      | ok => exact ih _ stored
      | error error => exact ih _ (failed error)

def Discreet (handler : Handler Lis3.interface I Lis302dl) : Prop :=
  ∀ r state, (handler r state).Keeps state fun _ _ => True

theorem discreet_overI2c (device : I2c.Device) : Discreet (Lis3.OverI2c.handler device) := by
  intro r state
  cases r with
  | probe =>
    refine ⟨rfl, fun reply => ?_⟩
    obtain ⟨error | ⟨⟩, t⟩ := reply <;> trivial
  | read | write => exact ⟨rfl, fun _ => trivial⟩

theorem discreet_overSpi (device : Spi.Device) : Discreet (Lis3.OverSpi.handler device) := by
  have read (register : UInt8) (buffer : List UInt8) (state : Lis302dl) :
      (Lis3.OverSpi.read device register buffer state).Keeps state fun _ _ => True := by
    unfold Lis3.OverSpi.read
    split
    · trivial
    · exact ⟨rfl, fun _ => trivial⟩
  intro r state
  cases r with
  | probe => exact (read _ _ state).bind fun _ _ _ => trivial
  | read register buffer => exact read register buffer state
  | write register values => exact ⟨rfl, fun _ => trivial⟩

namespace Bench

variable {abide : Work M → W → W → Prop} {handler : Handler Lis3.interface I Lis302dl}

inductive Careful : Bench M → Prop
  | idle {driver : Lis302dl} {bus : W} {ended : Option (Action × Except Error Unit)} :
      Careful { fiber := .spent driver, bus, ended }
  | underWay {fiber : Work M} {bus : W} {action : Action}
      {ended : Option (Action × Except Error Unit)}
      (keeps : fiber.Keeps fiber.state (Spares fiber.state)) :
      Careful { fiber, bus, action, ended }

theorem settle_careful (bench : Bench M) {action : Action} (underWay : bench.action = action)
    {start : Lis302dl}
    {came : Option (Except Error Unit) × Work M × W}
    (comes : Fiber.Comes start (Spares start) came) :
    (bench.settle came).Careful ∧ ((bench.settle came).driver = start ∨
      (bench.settle came).ended = some (action, .ok ())) := by
  rcases came with ⟨_ | error | ⟨⟩, fiber, bus⟩
  -- Still under way, failed, or ended with success: only the last may have changed the driver.
  · have same : fiber.state = start := comes.state
    subst same
    have keeps : fiber.Keeps fiber.state (Spares fiber.state) := comes
    refine ⟨?_, .inl rfl⟩
    simp only [settle, underWay]
    exact .underWay keeps
  · obtain ⟨state, rfl, same⟩ := comes
    exact ⟨.idle, .inl same⟩
  · obtain ⟨state, rfl, -⟩ := comes
    refine ⟨.idle, .inr ?_⟩
    simp only [settle, underWay]
    rfl

theorem step_careful (discreet : Discreet handler) {bench : Bench M} (careful : bench.Careful)
    (s : Step M abide) : (bench.step handler s).Careful ∧
      ((bench.step handler s).driver = bench.driver ∨
        ∃ action, (bench.step handler s).ended = some (action, .ok ())) := by
  cases s with
  | start action =>
    exact ⟨.underWay ⟨rfl, (action.follows bench.driver).keeps.via discreet⟩, .inl rfl⟩
  | drop => exact ⟨.idle, .inl rfl⟩
  | others act abides =>
    cases careful with
    | idle => exact ⟨.idle, .inl rfl⟩
    | underWay keeps => exact ⟨.underWay keeps, .inl rfl⟩
  | poll =>
    cases careful with
    | idle => exact ⟨.idle, .inl rfl⟩
    | @underWay fiber bus action ended keeps =>
      have comes := Fiber.poll_comes keeps bus
      obtain ⟨careful, spared⟩ :=
        settle_careful ⟨fiber, bus, action, ended⟩ rfl comes
      exact ⟨careful, spared.imp_right fun eq => ⟨action, eq⟩⟩
  | finish =>
    cases careful with
    | idle => exact ⟨.idle, .inl rfl⟩
    | @underWay fiber bus action ended keeps =>
      have comes := Fiber.finish_comes keeps bus
      obtain ⟨careful, spared⟩ :=
        settle_careful ⟨fiber, bus, action, ended⟩ rfl comes
      exact ⟨careful, spared.imp_right fun eq => ⟨action, eq⟩⟩

theorem run_spares (discreet : Discreet handler) (driver : Lis302dl) (bus : W)
    (steps : List (Step M abide)) (s : Step M abide) :
    (((rest M driver bus).run handler steps).step handler s).driver =
        ((rest M driver bus).run handler steps).driver ∨
      ∃ action, (((rest M driver bus).run handler steps).step handler s).ended =
        some (action, .ok ()) := by
  have resting : (rest M driver bus).Careful := .idle
  have kept (bench : Bench M) (careful : bench.Careful) (s : Step M abide) :
      (bench.step handler s).Careful := (step_careful discreet careful s).1
  have careful := run_induction Careful kept resting steps
  exact (step_careful discreet careful s).2

end Bench

end SensorBus.Lis302dl
