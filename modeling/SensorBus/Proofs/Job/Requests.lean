import SensorBus.Job.Operation

namespace SensorBus

variable {I : Interface} {σ α β ε : Type} {kind : I.Request → Prop}

def Progress.Asks (kind : I.Request → Prop) : Progress I σ α → Prop
  | .done .. => True
  | .ask _ r next => kind r ∧ ∀ reply, (next reply).Asks kind

theorem Progress.asks_any (p : Progress I σ α) : p.Asks fun _ => True := by
  induction p with
  | done => trivial
  | ask state r next ih => exact ⟨trivial, ih⟩

namespace Progress.Asks

theorem bind {p : Progress I σ α} {rest : α → σ → Progress I σ β} (first : p.Asks kind)
    (second : ∀ value state, (rest value state).Asks kind) : (p.bind rest).Asks kind := by
  induction p with
  | done state value => exact second value state
  | ask state r next ih => exact ⟨first.1, fun reply => ih reply (first.2 reply)⟩

theorem mono {other : I.Request → Prop} (weaker : ∀ r, kind r → other r) {p : Progress I σ α}
    (asks : p.Asks kind) : p.Asks other := by
  induction p with
  | done => trivial
  | ask state r next ih => exact ⟨weaker r asks.1, fun reply => ih reply (asks.2 reply)⟩

theorem via {J : Interface} {handler : Handler J I σ}
    (handled : ∀ r state, (handler r state).Asks kind) (p : Progress J σ α) :
    (p.via handler).Asks kind := by
  induction p with
  | done => trivial
  | ask state r next ih => exact (handled r state).bind fun reply _ => ih reply

end Progress.Asks

def Operation.Asks (kind : I.Request → Prop) (op : Operation I σ α) : Prop :=
  ∀ state, (op state).Asks kind

namespace Operation.Asks

theorem pure (value : α) : Asks kind (Pure.pure value : Operation I σ α) :=
  fun _ => trivial

theorem request {r : I.Request} (asked : kind r) :
    Asks kind (Operation.request r : Operation I σ (I.Reply r)) :=
  fun _ => ⟨asked, fun _ => trivial⟩

theorem bind {op : Operation I σ α} {rest : α → Operation I σ β} (first : op.Asks kind)
    (second : ∀ value, (rest value).Asks kind) : Asks kind (op >>= rest) :=
  fun state => (first state).bind fun value state => second value state

theorem attempt {x : ExceptT ε (Operation I σ) α} {rest : α → ExceptT ε (Operation I σ) β}
    (first : x.run.Asks kind) (second : ∀ value, (rest value).run.Asks kind) :
    (x >>= rest).run.Asks kind := by
  rw [ExceptT.run_bind]
  apply bind first
  intro result
  cases result with
  | ok value => exact second value
  | error error => exact pure _

theorem map {f : α → β} {x : ExceptT ε (Operation I σ) α} (asks : x.run.Asks kind) :
    (f <$> x).run.Asks kind := by
  rw [map_eq_pure_bind]
  exact attempt asks fun value => pure (Except.ok (f value))

end Operation.Asks

/-- From `start` the computation has come to where it stands by requests that left all this behind,
each what its reply says. -/
inductive Transcript (leaves : (r : I.Request) → I.Reply r → List β → Prop)
    (start : Progress I σ α) : List β → Progress I σ α → Prop
  | nil : Transcript leaves start [] start
  | reply {past left : List β} {state : σ} {r : I.Request} {next : I.Reply r → Progress I σ α}
      {reply : I.Reply r} (before : Transcript leaves start past (.ask state r next))
      (left_by : leaves r reply left) : Transcript leaves start (past ++ left) (next reply)

namespace Transcript

variable {leaves : (r : I.Request) → I.Reply r → List β → Prop}
  {start p : Progress I σ α} {left : List β}

theorem asks (transcript : Transcript leaves start left p) (asks : start.Asks kind) :
    p.Asks kind := by
  induction transcript with
  | nil => exact asks
  | reply before left_by ih => exact ih.2 _

theorem forall_mem {P : β → Prop} (transcript : Transcript leaves start left p)
    (asks : start.Asks kind)
    (each : ∀ r reply left, kind r → leaves r reply left → ∀ x ∈ left, P x) : ∀ x ∈ left, P x := by
  induction transcript with
  | nil => exact fun _ mem => nomatch mem
  | reply before left_by ih =>
    intro x mem
    obtain mem | mem := List.mem_append.1 mem
    · exact ih x mem
    · exact each _ _ _ (before.asks asks).1 left_by x mem

end Transcript

end SensorBus
