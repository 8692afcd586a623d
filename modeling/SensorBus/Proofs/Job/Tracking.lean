import SensorBus.Proofs.Job.Record

namespace SensorBus

variable {I : Interface} {W σ α : Type} {M : Medium I W}

def Fiber.underWay : Fiber M σ α → Record I
  | .asking _ r _ _ => [⟨r, none⟩]
  | _ => []

/-- Which worlds agree with a record. The requests of a kind keep them in agreement, and come to
lawful replies. -/
structure Tracking (M : Medium I W) where
  kind : I.Request → Prop
  lawful (r : I.Request) : I.Reply r → Prop
  carried (r : I.Request) : M.Flight r → Prop
  agrees : Record I → W → Prop
  launch : ∀ r, carried r (M.launch r)
  ready : ∀ {past r flight world reply after}, kind r → carried r flight → agrees past world →
    M.poll r flight world = (.ready reply, after) →
    lawful r reply ∧ agrees (past ++ [⟨r, some reply⟩]) after
  pending : ∀ {past r flight world flight' after}, kind r → carried r flight →
    agrees past world → M.poll r flight world = (.pending flight', after) →
    carried r flight' ∧ agrees past after
  finish : ∀ {past r flight world}, kind r → carried r flight → agrees past world →
    lawful r (M.finish r flight world).1 ∧
      agrees (past ++ [⟨r, some (M.finish r flight world).1⟩]) (M.finish r flight world).2
  drop : ∀ {past r flight world}, kind r → carried r flight → agrees past world →
    agrees (past ++ [⟨r, none⟩]) (M.drop r flight world)

namespace Tracking

variable (T : Tracking M) (holds : σ → Record I → Prop) (ends : α → σ → Record I → Prop)

def Follows : Fiber M.recorded σ α → W × Record I → Prop
  | .fresh state op, world =>
    T.agrees world.2 world.1 ∧ holds state world.2 ∧
      (op state).Along T.lawful holds ends world.2
  | .asking state r flight next, world =>
    T.agrees world.2 world.1 ∧ T.carried r flight ∧ holds state (world.2 ++ [⟨r, none⟩]) ∧
      ∀ reply, T.lawful r reply →
        (next reply).Along T.lawful holds ends (world.2 ++ [⟨r, some reply⟩])
  | .spent _, _ => False

def Comes : Option α × Fiber M.recorded σ α × (W × Record I) → Prop
  | (none, fiber, world) => T.Follows holds ends fiber world
  | (some value, fiber, world) =>
    ∃ state, fiber = .spent state ∧ T.agrees world.2 world.1 ∧ ends value state world.2

variable {T holds ends} {fiber : Fiber M.recorded σ α} {world : W × Record I}

theorem Follows.agrees (follows : T.Follows holds ends fiber world) :
    T.agrees world.2 world.1 := by
  cases fiber with
  | fresh | asking => exact follows.1
  | spent => exact follows.elim

theorem Follows.held (follows : T.Follows holds ends fiber world) :
    holds fiber.state (world.2 ++ fiber.underWay) := by
  cases fiber with
  | fresh state op =>
    have nothing : (.fresh state op : Fiber M.recorded σ α).underWay = [] := rfl
    rw [nothing, List.append_nil]
    exact follows.2.1
  | asking => exact follows.2.2.1
  | spent => exact follows.elim

theorem Follows.of_agrees {other : W} (follows : T.Follows holds ends fiber world)
    (agrees : T.agrees world.2 other) : T.Follows holds ends fiber (other, world.2) := by
  cases fiber with
  | fresh | asking => exact ⟨agrees, follows.2⟩
  | spent => exact follows.elim

variable (admits : ∀ state past r, holds state (past ++ [⟨r, none⟩]) → T.kind r)

include admits

theorem advance_comes {p : Progress I σ α} (world : W × Record I)
    (agrees : T.agrees world.2 world.1) (along : p.Along T.lawful holds ends world.2) :
    T.Comes holds ends (p.advance M.recorded world) := by
  induction p generalizing world with
  | done state value => exact ⟨state, rfl, agrees, along⟩
  | ask state r next ih =>
    obtain ⟨held, rest⟩ := along
    have kind := admits _ _ _ held
    rcases polled : M.poll r (M.launch r) world.1 with ⟨reply | flight, after⟩ <;>
      simp only [Progress.advance, Medium.recorded, polled]
    · obtain ⟨law, agrees⟩ := T.ready kind (T.launch r) agrees polled
      exact ih reply _ agrees (rest reply law)
    · obtain ⟨carried, agrees⟩ := T.pending kind (T.launch r) agrees polled
      exact ⟨agrees, carried, held, rest⟩

theorem poll_comes (follows : T.Follows holds ends fiber world) :
    T.Comes holds ends (fiber.poll world) := by
  cases fiber with
  | fresh state op => exact advance_comes admits world follows.1 follows.2.2
  | spent => exact follows.elim
  | asking state r flight next =>
    obtain ⟨agrees, carried, held, rest⟩ := follows
    have kind := admits _ _ _ held
    rcases polled : M.poll r flight world.1 with ⟨reply | flight', after⟩ <;>
      simp only [Fiber.poll, Medium.recorded, polled]
    · obtain ⟨law, agrees⟩ := T.ready kind carried agrees polled
      exact advance_comes admits (after, _) agrees (rest reply law)
    · obtain ⟨carried, agrees⟩ := T.pending kind carried agrees polled
      exact ⟨agrees, carried, held, rest⟩

theorem run_comes {p : Progress I σ α} (world : W × Record I)
    (agrees : T.agrees world.2 world.1)
    (along : p.Along T.lawful holds ends world.2) :
    T.agrees (p.run M.recorded world).2.2.2 (p.run M.recorded world).2.2.1 ∧
      ends (p.run M.recorded world).1 (p.run M.recorded world).2.1
        (p.run M.recorded world).2.2.2 := by
  induction p generalizing world with
  | done state value => exact ⟨agrees, along⟩
  | ask state r next ih =>
    obtain ⟨held, rest⟩ := along
    obtain ⟨law, agrees⟩ := T.finish (admits _ _ _ held) (T.launch r) agrees
    exact ih _ _ agrees (rest _ law)

theorem finish_comes (follows : T.Follows holds ends fiber world) :
    T.Comes holds ends (fiber.finish world) := by
  cases fiber with
  | fresh state op => exact ⟨_, rfl, run_comes admits world follows.1 follows.2.2⟩
  | spent => exact follows.elim
  | asking state r flight next =>
    obtain ⟨agrees, carried, held, rest⟩ := follows
    obtain ⟨law, agrees⟩ := T.finish (admits _ _ _ held) carried agrees
    exact ⟨_, rfl, run_comes admits (_, _) agrees (rest _ law)⟩

theorem drop_agrees (follows : T.Follows holds ends fiber world) :
    T.agrees (fiber.drop world).2 (fiber.drop world).1 ∧
      (fiber.drop world).2 = world.2 ++ fiber.underWay := by
  cases fiber with
  | fresh state op => exact ⟨follows.1, (List.append_nil _).symm⟩
  | spent => exact follows.elim
  | asking state r flight next =>
    obtain ⟨agrees, carried, held, -⟩ := follows
    exact ⟨T.drop (admits _ _ _ held) carried agrees, rfl⟩

end Tracking

end SensorBus
