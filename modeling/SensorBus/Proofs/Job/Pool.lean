import Mathlib.Logic.Relation
import SensorBus.Job.Fiber

/-!
Pools: jobs on one world that are polled in any order. A member may be dropped where it stands, and
between the polls the surroundings may act on the world.

A step of fibers is broken up into moves, each of which polls one flight once.
-/

namespace SensorBus

inductive Member (F α : Type)
  | live (job : F)
  | ended (job : F) (value : α)
  | dropped (job : F)

theorem ne_of_distinct {ι κ : Type} {f : ι → κ} {list : List ι} (distinct : (list.map f).Nodup)
    {i j : Nat} {first second : ι} (at_i : list[i]? = some first) (at_j : list[j]? = some second)
    (ne : i ≠ j) : f first ≠ f second := by
  intro same
  have lt : i < (list.map f).length := by
    rw [List.length_map]
    exact (List.getElem?_eq_some_iff.1 at_i).1
  refine ne ((List.getElem?_inj lt distinct).1 ?_)
  rw [List.getElem?_map, List.getElem?_map, at_i, at_j]
  exact congrArg some same

structure Pool (F W α : Type) where
  members : List (Member F α)
  world : W

namespace Pool

inductive Step (E : Type)
  | poll (i : Nat)
  | drop (i : Nat)
  | act (e : E)

section

variable {F W α E : Type} [Job F W α]

/-- The pool after a poll of a member. One that has ended is dropped at once. -/
def settle (members : List (Member F α)) (i : Nat) : Option α × F × W → Pool F W α
  | (some value, job, world) => ⟨members.set i (.ended job value), Job.drop job world⟩
  | (none, job, world) => ⟨members.set i (.live job), world⟩

def poll (pool : Pool F W α) (i : Nat) : Pool F W α :=
  match pool.members[i]? with
  | some (.live job) => settle pool.members i (Job.poll job pool.world)
  | _ => pool

def drop (pool : Pool F W α) (i : Nat) : Pool F W α :=
  match pool.members[i]? with
  | some (.live job) => ⟨pool.members.set i (.dropped job), Job.drop job pool.world⟩
  | _ => pool

def step (act : E → W → W) (pool : Pool F W α) : Step E → Pool F W α
  | .poll i => pool.poll i
  | .drop i => pool.drop i
  | .act e => { pool with world := act e pool.world }

def run (act : E → W → W) (pool : Pool F W α) (steps : List (Step E)) : Pool F W α :=
  steps.foldl (step act) pool

@[simp] theorem settle_set (members : List (Member F α)) (i : Nat) (member : Member F α)
    (polled : Option α × F × W) :
    settle (members.set i member) i polled = settle members i polled := by
  rcases polled with ⟨_ | value, job, world⟩ <;> simp [settle]

end

end Pool

section

variable {I : Interface} {W σ α E : Type} {M : Medium I W}

inductive Fiber.StandsAt : Fiber M σ α → σ → (r : I.Request) → M.Flight r →
    (I.Reply r → Progress I σ α) → Prop
  | launched {start state : σ} {op : Operation I σ α} {r : I.Request}
      {next : I.Reply r → Progress I σ α} (h : op start = .ask state r next) :
      StandsAt (.fresh start op) state r (M.launch r) next
  | asking {state : σ} {r : I.Request} {flight : M.Flight r}
      {next : I.Reply r → Progress I σ α} :
      StandsAt (.asking state r flight next) state r flight next

namespace Pool

def launch (world : W) (starts : List (σ × Operation I σ α)) : Pool (Fiber M σ α) W α where
  members := starts.map fun (state, op) => .live (.fresh state op)
  world

/-- A move of this member. Between two requests it waits as a fresh fiber. -/
inductive Move (i : Nat) : Pool (Fiber M σ α) W α → Pool (Fiber M σ α) W α → Prop
  | reply {members : List (Member (Fiber M σ α) α)} {world world' : W} {fiber : Fiber M σ α}
      {state : σ} {r : I.Request} {flight : M.Flight r} {next : I.Reply r → Progress I σ α}
      {reply : I.Reply r} (live : members[i]? = some (.live fiber))
      (stands : fiber.StandsAt state r flight next)
      (polled : M.poll r flight world = (.ready reply, world')) :
      Move i ⟨members, world⟩ ⟨members.set i (.live (.fresh state fun _ => next reply)), world'⟩
  | suspend {members : List (Member (Fiber M σ α) α)} {world world' : W} {fiber : Fiber M σ α}
      {state : σ} {r : I.Request} {flight flight' : M.Flight r}
      {next : I.Reply r → Progress I σ α} (live : members[i]? = some (.live fiber))
      (stands : fiber.StandsAt state r flight next)
      (polled : M.poll r flight world = (.pending flight', world')) :
      Move i ⟨members, world⟩ ⟨members.set i (.live (.asking state r flight' next)), world'⟩
  | finish {members : List (Member (Fiber M σ α) α)} {world : W} {start state : σ}
      {op : Operation I σ α} {value : α} (live : members[i]? = some (.live (.fresh start op)))
      (done : op start = .done state value) :
      Move i ⟨members, world⟩ ⟨members.set i (.ended (.spent state) value), world⟩
  | drop {members : List (Member (Fiber M σ α) α)} {world : W} {fiber : Fiber M σ α}
      (live : members[i]? = some (.live fiber)) :
      Move i ⟨members, world⟩ ⟨members.set i (.dropped fiber), fiber.drop world⟩

open Relation (ReflTransGen)

theorem getElem?_set_of_live {members : List (Member (Fiber M σ α) α)} {i : Nat}
    {member : Member (Fiber M σ α) α} (live : members[i]? = some member)
    (member' : Member (Fiber M σ α) α) : (members.set i member')[i]? = some member' := by
  rw [List.getElem?_set_self (List.getElem?_eq_some_iff.1 live).1]

theorem advance_moves (p : Progress I σ α) {i : Nat} {start : σ} {op : Operation I σ α}
    {members : List (Member (Fiber M σ α) α)} {world : W}
    (live : members[i]? = some (.live (.fresh start op))) (h : op start = p) :
    ReflTransGen (Move i) ⟨members, world⟩ (settle members i (p.advance M world)) := by
  -- Each reply is one move, and leaves a fresh fiber from which the rest moves on.
  induction p generalizing start op members world with
  | done state value => exact .single (.finish live h)
  | ask state r next ih =>
    rcases polled : M.poll r (M.launch r) world with ⟨reply | flight, world'⟩ <;>
      simp only [Progress.advance, polled]
    case ready =>
      have fresh := getElem?_set_of_live live (.live (.fresh state fun _ => next reply))
      rw [← settle_set]
      exact .head (.reply live (.launched h) polled) (ih reply fresh rfl)
    case pending => exact .single (.suspend live (.launched h) polled)

theorem asking_moves {i : Nat} {state : σ} {r : I.Request} {flight : M.Flight r}
    {next : I.Reply r → Progress I σ α} {members : List (Member (Fiber M σ α) α)} {world : W}
    (live : members[i]? = some (.live (.asking state r flight next))) :
    ReflTransGen (Move i) ⟨members, world⟩
      (settle members i ((Fiber.asking state r flight next).poll world)) := by
  rcases polled : M.poll r flight world with ⟨reply | flight', world'⟩ <;>
    simp only [Fiber.poll, polled]
  case ready =>
    have fresh := getElem?_set_of_live live (.live (.fresh state fun _ => next reply))
    rw [← settle_set]
    exact .head (.reply live .asking polled) (advance_moves (next reply) fresh rfl)
  case pending => exact .single (.suspend live .asking polled)

theorem poll_moves (pool : Pool (Fiber M σ α) W α) (i : Nat) :
    ReflTransGen (Move i) pool (pool.poll i) := by
  rcases pool with ⟨members, world⟩
  unfold poll
  split
  case h_2 => exact .refl
  case h_1 fiber live =>
    cases fiber with
    | fresh start op => exact advance_moves _ live rfl
    | asking => exact asking_moves live
    | spent state =>
      obtain ⟨lt, eq⟩ := List.getElem?_eq_some_iff.1 live
      have same : members.set i (.live (.spent state)) = members := by
        rw [← eq, List.set_getElem_self]
      change ReflTransGen _ _ (⟨members.set i (.live (.spent state)), world⟩ : Pool _ _ _)
      rw [same]

theorem drop_moves (pool : Pool (Fiber M σ α) W α) (i : Nat) :
    ReflTransGen (Move i) pool (pool.drop i) := by
  unfold drop
  split
  case h_1 fiber live => exact .single (.drop live)
  case h_2 => exact .refl

section

variable {Inv : Pool (Fiber M σ α) W α → Prop} {pool last : Pool (Fiber M σ α) W α} {i : Nat}

theorem keeps_of_moves (move : ∀ {p q}, Move i p q → Inv p → Inv q) (start : Inv pool)
    (moves : ReflTransGen (Move i) pool last) : Inv last := by
  induction moves with
  | refl => exact start
  | tail _ moved ih => exact move moved ih

theorem run_keeps {act : E → W → W} (move : ∀ {i p q}, Move i p q → Inv p → Inv q)
    (acts : ∀ e p, Inv p → Inv { p with world := act e p.world }) (start : Inv pool)
    (steps : List (Step E)) : Inv (pool.run act steps) := by
  induction steps generalizing pool with
  | nil => exact start
  | cons s steps ih =>
    refine ih ?_
    cases s with
    | poll i => exact keeps_of_moves move start (pool.poll_moves i)
    | drop i => exact keeps_of_moves move start (pool.drop_moves i)
    | act e => exact acts e pool start

end

end Pool

end

end SensorBus
