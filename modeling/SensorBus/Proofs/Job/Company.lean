import SensorBus.Proofs.Job.Pool
import SensorBus.Proofs.Job.Shadow

namespace SensorBus

variable {I : Interface} {W S E σ α ι : Type} {M : Medium I W}

namespace Shadow

structure Spares (D : Shadow M S) (kept : W → Prop) : Prop where
  poll : ∀ {shadow r flight world answer after}, D.kind r → D.carried r flight →
    D.agrees shadow world → kept world → M.poll r flight world = (answer, after) → kept after
  drop : ∀ {shadow r flight world}, D.kind r → D.carried r flight → D.agrees shadow world →
    kept world → kept (M.drop r flight world)

inductive Knows (D : Shadow M S) (ends : α → σ → S → Prop) (world : W) :
    Member (Fiber M σ α) α → Prop
  | live {shadow : S} {fiber : Fiber M σ α} (agrees : D.agrees shadow world)
      (follows : D.Follows (fun _ _ => True) ends shadow fiber) : Knows D ends world (.live fiber)
  | ended {shadow : S} {fiber : Fiber M σ α} {value : α} {state : σ}
      (agrees : D.agrees shadow world) (ended : ends value state shadow) :
      Knows D ends world (.ended fiber value)
  | dropped {fiber : Fiber M σ α} : Knows D ends world (.dropped fiber)

section

variable {D : Shadow M S} {holds : σ → S → Prop} {ends : α → σ → S → Prop} {world after : W}

theorem Knows.of_agrees {member : Member (Fiber M σ α) α} (knows : D.Knows ends world member)
    (agrees : ∀ shadow, D.agrees shadow world → D.agrees shadow after) :
    D.Knows ends after member := by
  cases knows with
  | live here follows => exact .live (agrees _ here) follows
  | ended here ended => exact .ended (agrees _ here) ended
  | dropped => exact .dropped

theorem Follows.stands {shadow : S} {fiber : Fiber M σ α} {state : σ} {r : I.Request}
    {flight : M.Flight r} {next : I.Reply r → Progress I σ α}
    (follows : D.Follows holds ends shadow fiber) (stands : fiber.StandsAt state r flight next) :
    D.carried r flight ∧ (Progress.ask state r next).Minds D.kind D.effect holds ends shadow := by
  cases stands with
  | launched asks =>
    have minds := follows.2
    rw [asks] at minds
    exact ⟨D.launch r, minds⟩
  | asking => exact follows

theorem Spares.and {first second : W → Prop} (spares : D.Spares first) (spares' : D.Spares second) :
    D.Spares fun world => first world ∧ second world where
  poll kind carried agrees here polled :=
    ⟨spares.poll kind carried agrees here.1 polled, spares'.poll kind carried agrees here.2 polled⟩
  drop kind carried agrees here :=
    ⟨spares.drop kind carried agrees here.1, spares'.drop kind carried agrees here.2⟩

theorem Spares.dropped {kept : W → Prop} (spares : D.Spares kept) {shadow : S}
    {fiber : Fiber M σ α} (agrees : D.agrees shadow world)
    (follows : D.Follows holds ends shadow fiber) (here : kept world) :
    kept (fiber.drop world) := by
  cases fiber with
  | fresh => exact here
  | spent => exact follows.elim
  | asking state r flight next =>
    obtain ⟨carried, kind, -⟩ := follows
    exact spares.drop kind carried agrees here

end

end Shadow

structure Company (M : Medium I W) (ι S σ α : Type) where
  shadow : ι → Shadow M S
  ends : ι → α → σ → S → Prop

namespace Company

variable (C : Company M ι S σ α) (tags : List ι) (kept : W → Prop)

/-- No member touches what shows in the shadow of another or what is to be kept, and neither do the
surroundings. -/
structure Apart (act : E → W → W) : Prop where
  spares : ∀ tag ∈ tags, (C.shadow tag).Spares kept
  apart : ∀ {i j : Nat} {a b : ι}, tags[i]? = some a → tags[j]? = some b → i ≠ j → ∀ shadow,
    (C.shadow a).Spares ((C.shadow b).agrees shadow)
  keeps : ∀ e world, kept world → kept (act e world)
  agrees : ∀ tag shadow e world, (C.shadow tag).agrees shadow world →
    (C.shadow tag).agrees shadow (act e world)

structure Along (pool : Pool (Fiber M σ α) W α) : Prop where
  kept : kept pool.world
  knows : ∀ (i : Nat) (member : Member (Fiber M σ α) α), pool.members[i]? = some member →
    ∃ tag, tags[i]? = some tag ∧ (C.shadow tag).Knows (C.ends tag) pool.world member

namespace Along

variable {C tags kept} {act : E → W → W} {members : List (Member (Fiber M σ α) α)}
  {world world' : W} {i : Nat}

theorem goes (along : C.Along tags kept ⟨members, world⟩) (apart : C.Apart tags kept act) {tag : ι}
    (at_i : tags[i]? = some tag)
    (keeps : ∀ {spared : W → Prop}, (C.shadow tag).Spares spared → spared world → spared world')
    {member' : Member (Fiber M σ α) α}
    (knows : (C.shadow tag).Knows (C.ends tag) world' member') :
    C.Along tags kept ⟨members.set i member', world'⟩ where
  kept := keeps (apart.spares tag (List.mem_of_getElem? at_i)) along.kept
  knows j member at_j := by
    by_cases eq : i = j
    · subst eq
      rw [List.getElem?_set, if_pos rfl] at at_j
      split at at_j
      · cases at_j
        exact ⟨tag, at_i, knows⟩
      · cases at_j
    · rw [List.getElem?_set_ne eq] at at_j
      obtain ⟨other, at_other, known⟩ := along.knows j member at_j
      refine ⟨other, at_other, known.of_agrees fun shadow agrees => ?_⟩
      exact keeps (apart.apart at_i at_other eq shadow) agrees

theorem move (apart : C.Apart tags kept act) {i : Nat} {p q : Pool (Fiber M σ α) W α}
    (moved : Pool.Move i p q) (along : C.Along tags kept p) : C.Along tags kept q := by
  cases moved with
  | reply live stands polled =>
    obtain ⟨tag, at_i, ⟨agrees, follows⟩⟩ := along.knows _ _ live
    obtain ⟨carried, kind, -, goesOn⟩ := follows.stands stands
    obtain ⟨left, came, agrees'⟩ := (C.shadow tag).ready kind carried agrees polled
    exact along.goes apart at_i (fun spares kept => spares.poll kind carried agrees kept polled)
      (.live agrees' ⟨trivial, goesOn _ left came⟩)
  | suspend live stands polled =>
    obtain ⟨tag, at_i, ⟨agrees, follows⟩⟩ := along.knows _ _ live
    obtain ⟨carried, minds⟩ := follows.stands stands
    obtain ⟨carried', agrees'⟩ := (C.shadow tag).pending minds.1 carried agrees polled
    exact along.goes apart at_i (fun spares kept => spares.poll minds.1 carried agrees kept polled)
      (.live agrees' ⟨carried', minds⟩)
  | finish live done =>
    obtain ⟨tag, at_i, ⟨agrees, follows⟩⟩ := along.knows _ _ live
    have minds := follows.2
    rw [done] at minds
    exact along.goes apart at_i (fun _ kept => kept) (.ended agrees minds)
  | drop live =>
    obtain ⟨tag, at_i, ⟨agrees, follows⟩⟩ := along.knows _ _ live
    exact along.goes apart at_i (fun spares kept => spares.dropped agrees follows kept) .dropped

theorem acts (apart : C.Apart tags kept act) (e : E) (p : Pool (Fiber M σ α) W α)
    (along : C.Along tags kept p) : C.Along tags kept { p with world := act e p.world } := by
  refine ⟨apart.keeps e _ along.kept, fun i member at_i => ?_⟩
  obtain ⟨tag, at_tag, known⟩ := along.knows i member at_i
  exact ⟨tag, at_tag, known.of_agrees fun shadow => apart.agrees tag shadow e _⟩

theorem run (apart : C.Apart tags kept act) {pool : Pool (Fiber M σ α) W α}
    (along : C.Along tags kept pool) (steps : List (Pool.Step E)) :
    C.Along tags kept (pool.run act steps) :=
  Pool.run_keeps (move apart) (acts apart) along steps

theorem launch (op : ι → Operation I σ α) (state : σ) (here : kept world)
    (minds : ∀ tag ∈ tags, ∃ shadow, (C.shadow tag).agrees shadow world ∧
      (op tag state).Minds (C.shadow tag).kind (C.shadow tag).effect (fun _ _ => True)
        (C.ends tag) shadow) :
    C.Along tags kept (Pool.launch world (tags.map fun tag => (state, op tag))) where
  kept := here
  knows i member at_i := by
    simp only [Pool.launch, List.map_map, List.getElem?_map, Option.map_eq_some_iff] at at_i
    obtain ⟨tag, at_i, rfl⟩ := at_i
    obtain ⟨shadow, agrees, minds⟩ := minds tag (List.mem_of_getElem? at_i)
    exact ⟨tag, at_i, .live agrees ⟨trivial, minds⟩⟩

end Along

end Company

end SensorBus
