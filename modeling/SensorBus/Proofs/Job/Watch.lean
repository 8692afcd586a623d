import SensorBus.Proofs.Job.Pool
import SensorBus.Proofs.Job.View

namespace SensorBus

variable {I : Interface} {W σ α κ E : Type} {M : Medium I W}

def Medium.watched (see : I.Request → W → W → List κ) (M : Medium I W) :
    Medium I (W × List κ) where
  Flight := M.Flight
  launch := M.launch
  poll r flight world :=
    let (answer, after) := M.poll r flight world.1
    (answer, after, world.2 ++ see r world.1 after)
  finish r flight world :=
    let (reply, after) := M.finish r flight world.1
    (reply, after, world.2 ++ see r world.1 after)
  drop r flight world :=
    let after := M.drop r flight world.1
    (after, world.2 ++ see r world.1 after)

section

variable {see : I.Request → W → W → List κ}

theorem Medium.watched_poll {r : I.Request} {flight : M.Flight r} {world after : W × List κ}
    {answer : Poll (M.Flight r) (I.Reply r)}
    (polled : (M.watched see).poll r flight world = (answer, after)) :
    M.poll r flight world.1 = (answer, after.1) ∧
      after = (after.1, world.2 ++ see r world.1 after.1) := by
  cases polled
  exact ⟨rfl, rfl⟩

def Medium.unwatching (M : Medium I W) : (M.watched see).View M where
  world := Prod.fst
  flight _ flight := flight
  launch _ := rfl
  poll r flight world := by
    rcases polled : M.poll r flight world.1 with ⟨reply | flight', after⟩ <;>
      simp only [watched, polled] <;> rfl
  finish _ _ _ := rfl
  drop _ _ _ := rfl

namespace Fiber

def unwatched : Fiber (M.watched see) σ α → Fiber M σ α
  | .fresh state op => .fresh state op
  | .asking state r flight next => .asking state r flight next
  | .spent state => .spent state

def forget : Option α × Fiber (M.watched see) σ α × (W × List κ) → Option α × Fiber M σ α × W
  | (value, fiber, world) => (value, fiber.unwatched, world.1)

theorem forget_eq (came : Option α × Fiber (M.watched see) σ α × (W × List κ)) :
    forget came = M.unwatching.came came := by
  obtain ⟨value, fiber, world⟩ := came
  cases fiber <;> rfl

theorem poll_unwatched (fiber : Fiber (M.watched see) σ α) (world : W × List κ) :
    forget (fiber.poll world) = fiber.unwatched.poll world.1 := by
  have same : fiber.unwatched = M.unwatching.fiber fiber := by cases fiber <;> rfl
  rw [forget_eq, same]
  exact (M.unwatching.poll_fiber fiber world).symm

theorem drop_unwatched (fiber : Fiber (M.watched see) σ α) (world : W × List κ) :
    (fiber.drop world).1 = fiber.unwatched.drop world.1 := by
  cases fiber <;> rfl

end Fiber

def Member.unwatched : Member (Fiber (M.watched see) σ α) α → Member (Fiber M σ α) α
  | .live fiber => .live fiber.unwatched
  | .ended fiber value => .ended fiber.unwatched value
  | .dropped fiber => .dropped fiber.unwatched

def watchedAct (act : E → W → W) (noted : E → W → List κ) (e : E) (world : W × List κ) :
    W × List κ :=
  (act e world.1, world.2 ++ noted e world.1)

namespace Pool

def unwatched (pool : Pool (Fiber (M.watched see) σ α) (W × List κ) α) :
    Pool (Fiber M σ α) W α :=
  ⟨pool.members.map Member.unwatched, pool.world.1⟩

theorem settle_unwatched (members : List (Member (Fiber (M.watched see) σ α) α)) (i : Nat)
    (polled : Option α × Fiber (M.watched see) σ α × (W × List κ)) :
    (settle members i polled).unwatched =
      settle (members.map Member.unwatched) i (Fiber.forget polled) := by
  rcases polled with ⟨_ | value, fiber, world⟩
  · simp only [settle, unwatched, List.map_set]
    rfl
  · simp only [settle, unwatched, List.map_set]
    exact congrArg _ (fiber.drop_unwatched world)

theorem poll_unwatched (pool : Pool (Fiber (M.watched see) σ α) (W × List κ) α) (i : Nat) :
    (pool.poll i).unwatched = pool.unwatched.poll i := by
  rcases pool with ⟨members, world⟩
  simp only [poll, unwatched, List.getElem?_map]
  rcases members[i]? with _ | ⟨fiber | ⟨fiber, value⟩ | fiber⟩
  case some.live =>
    refine (settle_unwatched members i _).trans ?_
    exact congrArg _ (fiber.poll_unwatched world)
  all_goals rfl

theorem drop_unwatched (pool : Pool (Fiber (M.watched see) σ α) (W × List κ) α) (i : Nat) :
    (pool.drop i).unwatched = pool.unwatched.drop i := by
  rcases pool with ⟨members, world⟩
  simp only [drop, unwatched, List.getElem?_map]
  rcases members[i]? with _ | ⟨fiber | ⟨fiber, value⟩ | fiber⟩
  case some.live =>
    simp only [List.map_set]
    exact congrArg _ (fiber.drop_unwatched world)
  all_goals rfl

theorem run_unwatched (act : E → W → W) (noted : E → W → List κ) (steps : List (Step E))
    (pool : Pool (Fiber (M.watched see) σ α) (W × List κ) α) :
    (pool.run (watchedAct act noted) steps).unwatched = pool.unwatched.run act steps := by
  induction steps generalizing pool with
  | nil => rfl
  | cons s steps ih =>
    refine (ih _).trans ?_
    cases s with
    | poll i => exact congrArg (run act · steps) (pool.poll_unwatched i)
    | drop i => exact congrArg (run act · steps) (pool.drop_unwatched i)
    | act e => rfl

theorem launch_unwatched (world : W) (starts : List (σ × Operation I σ α)) :
    (launch (world, []) starts : Pool (Fiber (M.watched see) σ α) (W × List κ) α).unwatched =
      launch world starts := by
  simp only [launch, unwatched, List.map_map]
  rfl

end Pool

end

/-- The flights of a medium keep `inv`, as long as they `fit` their requests. -/
structure Medium.Guards (M : Medium I W) (fits : (r : I.Request) → M.Flight r → Prop)
    (inv : W → Prop) : Prop where
  launch : ∀ r, fits r (M.launch r)
  ready : ∀ {r flight world reply after}, fits r flight → inv world →
    M.poll r flight world = (.ready reply, after) → inv after
  pending : ∀ {r flight world flight' after}, fits r flight → inv world →
    M.poll r flight world = (.pending flight', after) → fits r flight' ∧ inv after
  drop : ∀ {r flight world}, fits r flight → inv world → inv (M.drop r flight world)

namespace Pool

variable {fits : (r : I.Request) → M.Flight r → Prop} {inv : W → Prop} {act : E → W → W}

def Fits (fits : (r : I.Request) → M.Flight r → Prop) : Member (Fiber M σ α) α → Prop
  | .live (.asking _ r flight _) => fits r flight
  | _ => True

structure Guarded (fits : (r : I.Request) → M.Flight r → Prop) (inv : W → Prop)
    (pool : Pool (Fiber M σ α) W α) : Prop where
  world : inv pool.world
  members : ∀ member ∈ pool.members, Fits fits member

namespace Guarded

variable {members : List (Member (Fiber M σ α) α)} {world after : W}

theorem set (guarded : Guarded fits inv ⟨members, world⟩) (i : Nat) (kept : inv after)
    {member : Member (Fiber M σ α) α} (fit : Fits fits member) :
    Guarded fits inv ⟨members.set i member, after⟩ where
  world := kept
  members other mem := by
    obtain mem | rfl := List.mem_or_eq_of_mem_set mem
    · exact guarded.members other mem
    · exact fit

theorem stands (guards : M.Guards fits inv) (guarded : Guarded fits inv ⟨members, world⟩)
    {i : Nat} {fiber : Fiber M σ α} {state : σ} {r : I.Request} {flight : M.Flight r}
    {next : I.Reply r → Progress I σ α} (live : members[i]? = some (.live fiber))
    (stands : fiber.StandsAt state r flight next) : fits r flight := by
  cases stands with
  | launched => exact guards.launch r
  | asking => exact guarded.members _ (List.mem_of_getElem? live)

theorem move (guards : M.Guards fits inv) {i : Nat} {p q : Pool (Fiber M σ α) W α}
    (moved : Move i p q) (guarded : Guarded fits inv p) : Guarded fits inv q := by
  cases moved with
  | reply live stands polled =>
    have fit := guarded.stands guards live stands
    exact guarded.set _ (guards.ready fit guarded.world polled) trivial
  | suspend live stands polled =>
    have fit := guarded.stands guards live stands
    obtain ⟨fit, kept⟩ := guards.pending fit guarded.world polled
    exact guarded.set _ kept fit
  | finish => exact guarded.set _ guarded.world trivial
  | @drop members world fiber live =>
    refine guarded.set _ ?_ trivial
    cases fiber with
    | asking state r flight next =>
      exact guards.drop (guarded.stands guards live .asking) guarded.world
    | fresh | spent => exact guarded.world

end Guarded

theorem run_guarded (guards : M.Guards fits inv) (acts : ∀ e world, inv world → inv (act e world))
    {world : W} (start : inv world) (starts : List (σ × Operation I σ α)) (steps : List (Step E)) :
    inv ((launch world starts : Pool (Fiber M σ α) W α).run act steps).world := by
  have guarded : Guarded fits inv (launch world starts : Pool (Fiber M σ α) W α) := by
    refine ⟨start, fun member mem => ?_⟩
    obtain ⟨⟨state, op⟩, -, rfl⟩ := List.mem_map.1 mem
    trivial
  have acts e p (guarded : Guarded fits inv p) :
      Guarded fits inv ({ p with world := act e p.world } : Pool (Fiber M σ α) W α) :=
    ⟨acts e p.world guarded.world, guarded.members⟩
  exact (run_keeps (Guarded.move guards) acts guarded steps).world

end Pool

end SensorBus
