import SensorBus.Job.Fiber

/-!
Computations that are followed poll by poll beside a shadow of the world: as much of the world as
its requests depend on. The replies depend on the shadow, and it changes with them; as long as a
request is suspended, and where one is dropped, it stays as it is.
-/

namespace SensorBus

variable {I J : Interface} {W S T σ α β : Type}

abbrev Effect (I : Interface) (S : Type) := (r : I.Request) → S → I.Reply r → S → Prop

namespace Progress

/-- All requests are of a kind. However they come out, the private state and the shadow are at every
request as `holds` says, and at the end as `ends` says. -/
def Minds (kind : I.Request → Prop) (effect : Effect I S) (holds : σ → S → Prop)
    (ends : α → σ → S → Prop) : S → Progress I σ α → Prop
  | shadow, .done state value => ends value state shadow
  | shadow, .ask state r next =>
    kind r ∧ holds state shadow ∧
      ∀ reply after, effect r shadow reply after → Minds kind effect holds ends after (next reply)

namespace Minds

variable {kind : I.Request → Prop} {effect : Effect I S} {holds : σ → S → Prop}
  {ends : α → σ → S → Prop} {shadow : S}

theorem bind {ends' : β → σ → S → Prop} {p : Progress I σ α} {rest : α → σ → Progress I σ β}
    (first : p.Minds kind effect holds ends shadow)
    (second : ∀ value state shadow, ends value state shadow →
      (rest value state).Minds kind effect holds ends' shadow) :
    (p.bind rest).Minds kind effect holds ends' shadow := by
  induction p generalizing shadow with
  | done state value => exact second value state shadow first
  | ask state r next ih =>
    obtain ⟨asked, held, goesOn⟩ := first
    exact ⟨asked, held, fun reply after came => ih reply (goesOn reply after came)⟩

theorem mono {holds' : σ → S → Prop} {ends' : α → σ → S → Prop} {p : Progress I σ α}
    (minds : p.Minds kind effect holds ends shadow)
    (held : ∀ state shadow, holds state shadow → holds' state shadow)
    (ended : ∀ value state shadow, ends value state shadow → ends' value state shadow) :
    p.Minds kind effect holds' ends' shadow := by
  induction p generalizing shadow with
  | done state value => exact ended value state shadow minds
  | ask state r next ih =>
    obtain ⟨asked, here, goesOn⟩ := minds
    exact ⟨asked, held _ _ here, fun reply after came => ih reply (goesOn reply after came)⟩

end Minds

end Progress

def Handler.Minds (handler : Handler I J σ) (asks : I.Request → Prop) (comes : Effect I S)
    (kind : J.Request → Prop) (effect : Effect J S) : Prop :=
  ∀ (r : I.Request) (state : σ) (shadow : S) (holds : σ → S → Prop), asks r → holds state shadow →
    (handler r state).Minds kind effect holds
      (fun reply state' after => state' = state ∧ comes r shadow reply after) shadow

theorem Handler.Minds.via {handler : Handler I J σ} {asks : I.Request → Prop} {comes : Effect I S}
    {kind : J.Request → Prop} {effect : Effect J S} {holds : σ → S → Prop}
    {ends : α → σ → S → Prop} (minds : handler.Minds asks comes kind effect) {p : Progress I σ α}
    {shadow : S} (plain : p.Minds asks comes holds ends shadow) :
    (p.via handler).Minds kind effect holds ends shadow := by
  induction p generalizing shadow with
  | done state value => exact plain
  | ask state r next ih =>
    obtain ⟨asked, held, goesOn⟩ := plain
    refine (minds r state shadow holds asked held).bind fun reply state' after came => ?_
    exact ih reply (goesOn reply after came.2)

/-- Which shadow a world has. A request of the kind has its effect on the shadow when it is
answered, and none before. -/
structure Shadow (M : Medium I W) (S : Type) where
  kind : I.Request → Prop
  effect : Effect I S
  carried (r : I.Request) : M.Flight r → Prop
  agrees : S → W → Prop
  launch : ∀ r, carried r (M.launch r)
  ready : ∀ {shadow r flight world reply after}, kind r → carried r flight → agrees shadow world →
    M.poll r flight world = (.ready reply, after) →
    ∃ left, effect r shadow reply left ∧ agrees left after
  pending : ∀ {shadow r flight world flight' after}, kind r → carried r flight →
    agrees shadow world → M.poll r flight world = (.pending flight', after) →
    carried r flight' ∧ agrees shadow after
  finish : ∀ {shadow r flight world}, kind r → carried r flight → agrees shadow world →
    ∃ left, effect r shadow (M.finish r flight world).1 left ∧
      agrees left (M.finish r flight world).2
  drop : ∀ {shadow r flight world}, kind r → carried r flight → agrees shadow world →
    agrees shadow (M.drop r flight world)

namespace Shadow

variable {M : Medium I W} (D : Shadow M S) (holds : σ → S → Prop) (ends : α → σ → S → Prop)

def Follows (shadow : S) : Fiber M σ α → Prop
  | .fresh state op => holds state shadow ∧ (op state).Minds D.kind D.effect holds ends shadow
  | .asking state r flight next =>
    D.carried r flight ∧ (Progress.ask state r next).Minds D.kind D.effect holds ends shadow
  | .spent _ => False

def Comes : Option α × Fiber M σ α × W → Prop
  | (none, fiber, world) => ∃ shadow, D.agrees shadow world ∧ D.Follows holds ends shadow fiber
  | (some value, fiber, world) =>
    ∃ state shadow, fiber = .spent state ∧ D.agrees shadow world ∧ ends value state shadow

variable {D holds ends} {shadow : S} {world : W} {fiber : Fiber M σ α}

theorem Follows.held (follows : D.Follows holds ends shadow fiber) : holds fiber.state shadow := by
  cases fiber with
  | fresh => exact follows.1
  | asking => exact follows.2.2.1
  | spent => exact follows.elim

theorem advance_comes {p : Progress I σ α} (agrees : D.agrees shadow world)
    (minds : p.Minds D.kind D.effect holds ends shadow) :
    D.Comes holds ends (p.advance M world) := by
  induction p generalizing shadow world with
  | done state value => exact ⟨state, shadow, rfl, agrees, minds⟩
  | ask state r next ih =>
    obtain ⟨kind, held, goesOn⟩ := minds
    rcases polled : M.poll r (M.launch r) world with ⟨reply | flight, after⟩ <;>
      simp only [Progress.advance, polled]
    · obtain ⟨left, came, agrees⟩ := D.ready kind (D.launch r) agrees polled
      exact ih reply agrees (goesOn reply left came)
    · obtain ⟨carried, agrees⟩ := D.pending kind (D.launch r) agrees polled
      exact ⟨shadow, agrees, carried, kind, held, goesOn⟩

theorem poll_comes (agrees : D.agrees shadow world) (follows : D.Follows holds ends shadow fiber) :
    D.Comes holds ends (fiber.poll world) := by
  cases fiber with
  | fresh state op => exact advance_comes agrees follows.2
  | spent => exact follows.elim
  | asking state r flight next =>
    obtain ⟨carried, kind, held, goesOn⟩ := follows
    rcases polled : M.poll r flight world with ⟨reply | flight', after⟩ <;>
      simp only [Fiber.poll, polled]
    · obtain ⟨left, came, agrees⟩ := D.ready kind carried agrees polled
      exact advance_comes agrees (goesOn reply left came)
    · obtain ⟨carried, agrees⟩ := D.pending kind carried agrees polled
      exact ⟨shadow, agrees, carried, kind, held, goesOn⟩

theorem run_comes {p : Progress I σ α} (agrees : D.agrees shadow world)
    (minds : p.Minds D.kind D.effect holds ends shadow) :
    ∃ left, D.agrees left (p.run M world).2.2 ∧
      ends (p.run M world).1 (p.run M world).2.1 left := by
  induction p generalizing shadow world with
  | done state value => exact ⟨shadow, agrees, minds⟩
  | ask state r next ih =>
    obtain ⟨kind, -, goesOn⟩ := minds
    obtain ⟨left, came, agrees⟩ := D.finish kind (D.launch r) agrees
    exact ih _ agrees (goesOn _ left came)

theorem finish_comes (agrees : D.agrees shadow world)
    (follows : D.Follows holds ends shadow fiber) : D.Comes holds ends (fiber.finish world) := by
  cases fiber with
  | fresh state op =>
    obtain ⟨left, agrees, ended⟩ := run_comes agrees follows.2
    exact ⟨_, left, rfl, agrees, ended⟩
  | spent => exact follows.elim
  | asking state r flight next =>
    obtain ⟨carried, kind, -, goesOn⟩ := follows
    obtain ⟨left, came, agrees⟩ := D.finish kind carried agrees
    obtain ⟨left, agrees, ended⟩ := run_comes agrees (goesOn _ left came)
    exact ⟨_, left, rfl, agrees, ended⟩

theorem drop_agrees (agrees : D.agrees shadow world)
    (follows : D.Follows holds ends shadow fiber) : D.agrees shadow (fiber.drop world) := by
  cases fiber with
  | fresh => exact agrees
  | spent => exact follows.elim
  | asking state r flight next =>
    obtain ⟨carried, kind, -⟩ := follows
    exact D.drop kind carried agrees

end Shadow

end SensorBus
