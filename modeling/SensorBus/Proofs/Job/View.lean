import SensorBus.Job.Fiber

namespace SensorBus

variable {I : Interface} {F G V W σ α : Type}

def Poll.map (f : F → G) : Poll F α → Poll G α
  | .ready value => .ready value
  | .pending rest => .pending (f rest)

structure Medium.View (N : Medium I V) (M : Medium I W) where
  world : V → W
  flight : (r : I.Request) → N.Flight r → M.Flight r
  launch : ∀ r, flight r (N.launch r) = M.launch r
  poll : ∀ r f v,
    M.poll r (flight r f) (world v) = ((N.poll r f v).1.map (flight r), world (N.poll r f v).2)
  finish : ∀ r f v,
    M.finish r (flight r f) (world v) = ((N.finish r f v).1, world (N.finish r f v).2)
  drop : ∀ r f v, M.drop r (flight r f) (world v) = world (N.drop r f v)

namespace Medium.View

variable {N : Medium I V} {M : Medium I W} (view : N.View M)

theorem run (p : Progress I σ α) (v : V) :
    p.run M (view.world v) =
      ((p.run N v).1, (p.run N v).2.1, view.world (p.run N v).2.2) := by
  induction p generalizing v with
  | done state value => rfl
  | ask state r next ih =>
    have performed := view.finish r (N.launch r) v
    rw [view.launch] at performed
    simp only [Progress.run, Medium.perform, performed]
    exact ih _ _

def fiber : Fiber N σ α → Fiber M σ α
  | .fresh state op => .fresh state op
  | .asking state r flight next => .asking state r (view.flight r flight) next
  | .spent state => .spent state

def came : Option α × Fiber N σ α × V → Option α × Fiber M σ α × W
  | (value, fiber, v) => (value, view.fiber fiber, view.world v)

theorem state_fiber (fiber : Fiber N σ α) : (view.fiber fiber).state = fiber.state := by
  cases fiber <;> rfl

theorem advance (p : Progress I σ α) (v : V) :
    p.advance M (view.world v) = view.came (p.advance N v) := by
  induction p generalizing v with
  | done state value => rfl
  | ask state r next ih =>
    have polled := view.poll r (N.launch r) v
    rw [view.launch] at polled
    rcases came : N.poll r (N.launch r) v with ⟨reply | flight, after⟩ <;> rw [came] at polled <;>
      simp only [Progress.advance, came, polled, Poll.map]
    · exact ih reply after
    · rfl

theorem poll_fiber (fiber : Fiber N σ α) (v : V) :
    Job.poll (view.fiber fiber) (view.world v) = view.came (Job.poll fiber v) := by
  cases fiber with
  | fresh state op => exact view.advance (op state) v
  | spent state => rfl
  | asking state r flight next =>
    have polled := view.poll r flight v
    change Fiber.poll (.asking state r (view.flight r flight) next) (view.world v) =
      view.came (Fiber.poll (.asking state r flight next) v)
    rcases came : N.poll r flight v with ⟨reply | flight', after⟩ <;> rw [came] at polled <;>
      simp only [Fiber.poll, came, polled, Poll.map]
    · exact view.advance (next reply) after
    · rfl

theorem drop_fiber (fiber : Fiber N σ α) (v : V) :
    Job.drop (view.fiber fiber) (view.world v) = view.world (Job.drop fiber v) := by
  cases fiber with
  | fresh | spent => rfl
  | asking state r flight next => exact view.drop r flight v

theorem finish_fiber (fiber : Fiber N σ α) (v : V) :
    Job.finish (view.fiber fiber) (view.world v) = view.came (Job.finish fiber v) := by
  cases fiber with
  | fresh state op =>
    change Fiber.finish (.fresh state op) (view.world v) =
      view.came (Fiber.finish (.fresh state op) v)
    simp only [Fiber.finish, Operation.run, view.run]
    rfl
  | spent state => rfl
  | asking state r flight next =>
    change Fiber.finish (.asking state r (view.flight r flight) next) (view.world v) =
      view.came (Fiber.finish (.asking state r flight next) v)
    simp only [Fiber.finish, view.finish, view.run]
    rfl

theorem advance_fiber (limit : Nat) (fiber : Fiber N σ α) (v : V) :
    Job.advance limit (view.fiber fiber) (view.world v) =
      ((Job.advance limit fiber v).1, view.fiber (Job.advance limit fiber v).2.1,
        view.world (Job.advance limit fiber v).2.2) := by
  induction limit generalizing fiber v with
  | zero => rfl
  | succ limit ih =>
    rcases polled : Job.poll fiber v with ⟨_ | value, fiber', after⟩ <;>
      simp only [Job.advance, view.poll_fiber, polled, came]
    · rw [ih]

theorem carryOut (polls : Option Nat) (op : Operation I σ α) (state : σ) (v : V) :
    op.carryOut M polls state (view.world v) =
      ((op.carryOut N polls state v).1, (op.carryOut N polls state v).2.1,
        view.world (op.carryOut N polls state v).2.2) := by
  have same : (.fresh state op : Fiber M σ α) = view.fiber (.fresh state op) := rfl
  cases polls with
  | none =>
    simp only [Operation.carryOut, Job.carryOut, same, view.finish_fiber, came, view.drop_fiber,
      view.state_fiber]
  | some limit =>
    simp only [Operation.carryOut, Job.carryOut, Job.attempt, same, view.advance_fiber,
      view.drop_fiber, view.state_fiber]

end Medium.View

end SensorBus
