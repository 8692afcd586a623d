/-!
Operations: computations that talk to the outside by requests.

An interface lists the requests and the type of each one's reply. An operation on a private state
is described by its `Progress`: a tree whose inner nodes are requests, with one branch for each
possible reply. Every node carries the private state as it stands there, so a computation that is
given up at a request leaves that state behind.
-/

namespace SensorBus

structure Interface where
  Request : Type
  Reply : Request → Type

inductive Progress (I : Interface) (σ α : Type)
  | done (state : σ) (value : α)
  | ask (state : σ) (request : I.Request) (next : I.Reply request → Progress I σ α)

namespace Progress

variable {I J : Interface} {σ α β : Type}

def bind : Progress I σ α → (α → σ → Progress I σ β) → Progress I σ β
  | .done state value, rest => rest value state
  | .ask state request next, rest => .ask state request fun reply => (next reply).bind rest

@[simp] theorem bind_done (p : Progress I σ α) :
    p.bind (fun value state => .done state value) = p := by
  induction p with
  | done => rfl
  | ask state request next ih => simp [bind, ih]

theorem bind_assoc (p : Progress I σ α) (f : α → σ → Progress I σ β) (g : β → σ → Progress I σ γ) :
    (p.bind f).bind g = p.bind fun value state => (f value state).bind g := by
  induction p with
  | done => rfl
  | ask state request next ih => simp [bind, ih]

end Progress

def Operation (I : Interface) (σ α : Type) := σ → Progress I σ α

namespace Operation

variable {I J : Interface} {σ α β : Type}

instance : Monad (Operation I σ) where
  pure value := fun state => .done state value
  bind op rest := fun state => (op state).bind rest

instance : LawfulMonad (Operation I σ) := LawfulMonad.mk' _
  (fun op => funext fun state => (op state).bind_done)
  (fun _ _ => rfl)
  (fun op f g => funext fun state => (op state).bind_assoc f g)

instance : MonadStateOf σ (Operation I σ) where
  get := fun state => .done state state
  set state := fun _ => .done state ⟨⟩
  modifyGet f := fun state => .done (f state).2 (f state).1

def request (r : I.Request) : Operation I σ (I.Reply r) :=
  fun state => .ask state r fun reply => .done state reply

end Operation

def Handler (I J : Interface) (σ : Type) := (r : I.Request) → Operation J σ (I.Reply r)

/-- Make every request through `J`. The private state is the computation's own: what the handler
leaves in it has no say. -/
def Progress.via {I J : Interface} {σ α : Type} (handler : Handler I J σ) :
    Progress I σ α → Progress J σ α
  | .done state value => .done state value
  | .ask state request next => (handler request state).bind fun reply _ => (next reply).via handler

def Operation.via {I J : Interface} {σ α : Type} (handler : Handler I J σ)
    (op : Operation I σ α) : Operation J σ α :=
  fun state => (op state).via handler

end SensorBus
