import SensorBus.Job.Fiber

namespace SensorBus

variable {I J : Interface} {W σ α β : Type}

/-- At every request the private state is as it was at the start; at the end it is as `ends` says.
-/
def Progress.Keeps (start : σ) (ends : σ → α → Prop) : Progress I σ α → Prop
  | .done state value => ends state value
  | .ask state _ next => state = start ∧ ∀ reply, (next reply).Keeps start ends

namespace Progress.Keeps

variable {start : σ} {ends : σ → α → Prop}

theorem bind {between : σ → β → Prop} {p : Progress I σ β} {rest : β → σ → Progress I σ α}
    (first : p.Keeps start between)
    (second : ∀ value state, between state value → (rest value state).Keeps start ends) :
    (p.bind rest).Keeps start ends := by
  induction p with
  | done state value => exact second value state first
  | ask state r next ih => exact ⟨first.1, fun reply => ih reply (first.2 reply)⟩

theorem via {handler : Handler I J σ}
    (handled : ∀ r state, (handler r state).Keeps state fun _ _ => True) {p : Progress I σ α}
    (keeps : p.Keeps start ends) : (p.via handler).Keeps start ends := by
  induction p with
  | done state value => exact keeps
  | ask state r next ih =>
    obtain ⟨rfl, rest⟩ := keeps
    exact (handled r state).bind fun reply _ _ => ih reply (rest reply)

theorem run {M : Medium I W} {p : Progress I σ α} (keeps : p.Keeps start ends) (world : W) :
    ends (p.run M world).2.1 (p.run M world).1 := by
  induction p generalizing world with
  | done state value => exact keeps
  | ask state r next ih => exact ih _ (keeps.2 _) _

end Progress.Keeps

namespace Fiber

variable {M : Medium I W} {start : σ} {ends : σ → α → Prop}

def Keeps (start : σ) (ends : σ → α → Prop) : Fiber M σ α → Prop
  | .fresh state op => state = start ∧ (op state).Keeps start ends
  | .asking state _ _ next => state = start ∧ ∀ reply, (next reply).Keeps start ends
  | .spent _ => False

theorem Keeps.state {fiber : Fiber M σ α} (keeps : fiber.Keeps start ends) :
    fiber.state = start := by
  cases fiber with
  | fresh | asking => exact keeps.1
  | spent => exact keeps.elim

def Comes (start : σ) (ends : σ → α → Prop) : Option α × Fiber M σ α × W → Prop
  | (none, fiber, _) => fiber.Keeps start ends
  | (some value, fiber, _) => ∃ state, fiber = .spent state ∧ ends state value

theorem advance_comes {p : Progress I σ α} (keeps : p.Keeps start ends) (world : W) :
    Comes start ends (p.advance M world) := by
  induction p generalizing world with
  | done state value => exact ⟨state, rfl, keeps⟩
  | ask state r next ih =>
    rcases polled : M.poll r (M.launch r) world with ⟨reply | flight, after⟩ <;>
      simp only [Progress.advance, polled]
    · exact ih reply (keeps.2 reply) after
    · exact keeps

theorem poll_comes {fiber : Fiber M σ α} (keeps : fiber.Keeps start ends) (world : W) :
    Comes start ends (fiber.poll world) := by
  cases fiber with
  | fresh state op => exact advance_comes keeps.2 world
  | spent => exact keeps.elim
  | asking state r flight next =>
    rcases polled : M.poll r flight world with ⟨reply | flight, after⟩ <;>
      simp only [poll, polled]
    · exact advance_comes (keeps.2 reply) after
    · exact keeps

theorem finish_comes {fiber : Fiber M σ α} (keeps : fiber.Keeps start ends) (world : W) :
    Comes start ends (fiber.finish world) := by
  cases fiber with
  | fresh state op => exact ⟨_, rfl, keeps.2.run world⟩
  | spent => exact keeps.elim
  | asking state r flight next => exact ⟨_, rfl, (keeps.2 _).run _⟩

end Fiber

end SensorBus
