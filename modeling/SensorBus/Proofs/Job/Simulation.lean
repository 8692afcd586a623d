import SensorBus.Proofs.Job.Requests
import SensorBus.Job.Fiber

namespace SensorBus

variable {I J : Interface} {V W σ α β : Type}

theorem Progress.run_bind (M : Medium I W) (p : Progress I σ α) (rest : α → σ → Progress I σ β)
    (world : W) :
    (p.bind rest).run M world =
      (rest (p.run M world).1 (p.run M world).2.1).run M (p.run M world).2.2 := by
  induction p generalizing world with
  | done state value => rfl
  | ask state r next ih => exact ih _ _

theorem Progress.via_request (p : Progress I σ α) :
    p.via (fun r => Operation.request (I := I) r) = p := by
  induction p with
  | done state value => rfl
  | ask state r next ih => exact congrArg (Progress.ask state r) (funext ih)

theorem Operation.via_request (op : Operation I σ α) :
    op.via (fun r => Operation.request (I := I) r) = op := by
  funext state
  exact (op state).via_request

/-- A computation has come to the same value and private state as another one, and to a world that
corresponds to the other's. -/
def ComesTo (corresponds : W → V → Prop) (came : α × σ × W) (value : α) (state : σ) (plain : V) :
    Prop :=
  ∃ world, came = (value, state, world) ∧ corresponds world plain

def Handler.Simulates (handler : Handler I J σ) (M : Medium J W) (N : Medium I V)
    (kind : I.Request → Prop) (corresponds : W → V → Prop) : Prop :=
  ∀ (r : I.Request) (state : σ) (world : W) (plain : V), kind r → corresponds world plain →
    ComesTo corresponds ((handler r state).run M world) (N.perform r plain).1 state
      (N.perform r plain).2

namespace Handler.Simulates

variable {handler : Handler I J σ} {M : Medium J W} {N : Medium I V} {kind : I.Request → Prop}
  {corresponds : W → V → Prop}

theorem run_via (simulates : handler.Simulates M N kind corresponds) {p : Progress I σ α}
    (asks : p.Asks kind) {world : W} {plain : V} (start : corresponds world plain) :
    ComesTo corresponds ((p.via handler).run M world) (p.run N plain).1 (p.run N plain).2.1
      (p.run N plain).2.2 := by
  induction p generalizing world plain with
  | done state value => exact ⟨world, rfl, start⟩
  | ask state r next ih =>
    obtain ⟨asked, rest⟩ := asks
    obtain ⟨between, came, goesOn⟩ := simulates r state world plain asked start
    rw [Progress.via, Progress.run_bind, came]
    exact ih _ (rest _) goesOn

theorem run (simulates : handler.Simulates M N kind corresponds) {op : Operation I σ α}
    (asks : op.Asks kind) (state : σ) {world : W} {plain : V} (start : corresponds world plain) :
    ComesTo corresponds ((op.via handler).run M state world) (op.run N state plain).1
      (op.run N state plain).2.1 (op.run N state plain).2.2 :=
  simulates.run_via (asks state) start

end Handler.Simulates

end SensorBus
