import SensorBus.Job.Basic
import SensorBus.Job.Operation

/-!
Operations carried out on a world.

A medium says how each request of an interface is carried out: it goes through a flight, which can
be polled, finished and dropped. `Progress.run` carries a computation out in one go; a `Fiber` is a
computation that is stepped, with its flight when it stands at a request.
-/

namespace SensorBus

structure Medium (I : Interface) (W : Type) where
  Flight : I.Request → Type
  launch : (r : I.Request) → Flight r
  poll : (r : I.Request) → Flight r → W → Poll (Flight r) (I.Reply r) × W
  finish : (r : I.Request) → Flight r → W → I.Reply r × W
  drop : (r : I.Request) → Flight r → W → W

def Medium.perform {I : Interface} {W : Type} (M : Medium I W) (r : I.Request) (world : W) :
    I.Reply r × W :=
  M.finish r (M.launch r) world

variable {I : Interface} {W : Type} {σ α : Type}

def Progress.run (M : Medium I W) : Progress I σ α → W → α × σ × W
  | .done state value, world => (value, state, world)
  | .ask _ request next, world =>
    let (reply, world) := M.perform request world
    (next reply).run M world

def Operation.run (M : Medium I W) (op : Operation I σ α) (state : σ) (world : W) : α × σ × W :=
  (op state).run M world

inductive Fiber (M : Medium I W) (σ α : Type)
  | fresh (state : σ) (op : Operation I σ α)
  | asking (state : σ) (request : I.Request) (flight : M.Flight request)
      (next : I.Reply request → Progress I σ α)
  | spent (state : σ)

def Progress.advance (M : Medium I W) : Progress I σ α → W → Option α × Fiber M σ α × W
  | .done state value, world => (some value, .spent state, world)
  | .ask state request next, world =>
    match M.poll request (M.launch request) world with
    | (.ready reply, world) => (next reply).advance M world
    | (.pending flight, world) => (none, .asking state request flight next, world)

namespace Fiber

variable {M : Medium I W}

def state : Fiber M σ α → σ
  | .fresh state _ | .asking state .. | .spent state => state

def poll : Fiber M σ α → W → Option α × Fiber M σ α × W
  | .fresh state op, world => (op state).advance M world
  | .asking state request flight next, world =>
    match M.poll request flight world with
    | (.ready reply, world) => (next reply).advance M world
    | (.pending flight, world) => (none, .asking state request flight next, world)
  | .spent state, world => (none, .spent state, world)

def finish : Fiber M σ α → W → Option α × Fiber M σ α × W
  | .fresh state op, world =>
    let (value, state, world) := op.run M state world
    (some value, .spent state, world)
  | .asking _ request flight next, world =>
    let (reply, world) := M.finish request flight world
    let (value, state, world) := (next reply).run M world
    (some value, .spent state, world)
  | .spent state, world => (none, .spent state, world)

def drop : Fiber M σ α → W → W
  | .asking _ request flight _, world => M.drop request flight world
  | _, world => world

instance : Job (Fiber M σ α) W α where
  poll := poll
  finish := finish
  drop := drop

end Fiber

def Operation.carryOut (M : Medium I W) (polls : Option Nat) (op : Operation I σ α) (state : σ)
    (world : W) : Job.Ending α × σ × W :=
  let fiber : Fiber M σ α := .fresh state op
  let (ending, fiber, world) := Job.carryOut polls fiber world
  (ending, fiber.state, world)

end SensorBus
