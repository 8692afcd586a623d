import SensorBus.Proofs.Job.Ledger
import SensorBus.Proofs.Job.Requests

/-!
Disciplines: how the requests of a medium take turns with a lock, and what each of them puts on the
record of the world in its turn. If the flights of a medium keep to a discipline one by one, then in
every run of a pool the record is a sequence of blocks, each written in one turn.
-/

namespace SensorBus

variable {I : Interface} {W σ α β Ev Act : Type} {M : Medium I W}

/-- For each request the blocks that it has written: when it has its reply, while its flight is
suspended, and once its flight was dropped there. A block is a stretch of events, and the record
says how these take one world to another. -/
structure Discipline (M : Medium I W) (β Ev : Type) where
  leaves (r : I.Request) : I.Reply r → List β → Prop
  midway (r : I.Request) : M.Flight r → List β → Prop
  dropped (r : I.Request) : M.Flight r → List β → Prop
  holds (r : I.Request) : M.Flight r → Bool
  locked : W → Bool
  events : β → List Ev
  record : W → List Ev → W → Prop

namespace Discipline

variable (D : Discipline M β Ev)

/-- How a flight with these blocks goes on: it leaves the record alone, or it finds the lock free
and writes a block, or it has the lock and adds to its block. -/
inductive Goes (holds : Bool) (written : List β) (world world' : W) (keeps : Bool)
    (after : List β → Prop) : Prop
  | quietly (same : keeps = holds) (stands : after written)
      (locked : D.locked world' = D.locked world) (quiet : D.record world [] world')
  | begins {block : β} (free : D.locked world = false) (stands : after (written ++ [block]))
      (locked : D.locked world' = keeps) (adds : D.record world (D.events block) world')
  | goesOn {past : List β} {block block' : β} {tail : List Ev} (held : holds = true)
      (last : written = past ++ [block]) (stands : after (past ++ [block']))
      (events : D.events block' = D.events block ++ tail) (locked : D.locked world' = keeps)
      (adds : D.record world tail world')

def Stands (r : I.Request) (flight : M.Flight r) (written : List β) : Prop :=
  flight = M.launch r ∧ written = [] ∨ D.midway r flight written

def answers (r : I.Request) : Poll (M.Flight r) (I.Reply r) → List β → Prop
  | .ready reply => D.leaves r reply
  | .pending flight => D.midway r flight

def keeps (r : I.Request) : Poll (M.Flight r) (I.Reply r) → Bool
  | .ready _ => false
  | .pending flight => D.holds r flight

structure Lawful (act : Act → W → W) : Prop where
  nothing : ∀ world, D.record world [] world
  trans : ∀ {origin world world' events tail}, D.record origin events world →
    D.record world tail world' → D.record origin (events ++ tail) world'
  launch : ∀ r, D.holds r (M.launch r) = false
  poll : ∀ r flight written world answer world', D.Stands r flight written →
    M.poll r flight world = (answer, world') →
    D.Goes (D.holds r flight) written world world' (D.keeps r answer) (D.answers r answer)
  drop : ∀ r flight written world, D.midway r flight written →
    D.Goes (D.holds r flight) written world (M.drop r flight world) false (D.dropped r flight)
  act : ∀ a world, D.locked (act a world) = D.locked world

/-- How these steps have taken a pool from `origin` to where it stands: what the member of a step
has done is on record, and the surroundings act in their own steps only. -/
inductive Course (act : Act → W → W) (origin : Pool (Fiber M σ α) W α) :
    List (Pool.Step Act) → List (Nat × Ev) → Pool (Fiber M σ α) W α → Prop
  | rest : Course act origin [] [] origin
  | polled {steps : List (Pool.Step Act)} {events : List (Nat × Ev)}
      {pool : Pool (Fiber M σ α) W α} {tail : List Ev} (before : Course act origin steps events pool)
      (i : Nat) (adds : D.record pool.world tail (pool.poll i).world) :
      Course act origin (steps ++ [.poll i]) (events ++ tail.map (i, ·)) (pool.poll i)
  | dropped {steps : List (Pool.Step Act)} {events : List (Nat × Ev)}
      {pool : Pool (Fiber M σ α) W α} {tail : List Ev} (before : Course act origin steps events pool)
      (i : Nat) (adds : D.record pool.world tail (pool.drop i).world) :
      Course act origin (steps ++ [.drop i]) (events ++ tail.map (i, ·)) (pool.drop i)
  | acted {steps : List (Pool.Step Act)} {events : List (Nat × Ev)}
      {pool : Pool (Fiber M σ α) W α} (before : Course act origin steps events pool) (a : Act) :
      Course act origin (steps ++ [.act a]) events { pool with world := act a pool.world }

end Discipline

def Fiber.Kept (leaves : (r : I.Request) → I.Reply r → List β → Prop)
    (midway : (r : I.Request) → M.Flight r → List β → Prop) (start : Progress I σ α) :
    Fiber M σ α → List β → Prop
  | .fresh state op, blocks => Transcript leaves start blocks (op state)
  | .asking state r flight next, blocks =>
    ∃ past written, blocks = past ++ written ∧ Transcript leaves start past (.ask state r next) ∧
      midway r flight written
  | .spent _, _ => False

namespace Discipline

variable (D : Discipline M β Ev)

def Kept (start : Progress I σ α) : Member (Fiber M σ α) α → List β → Prop
  | .live fiber, blocks => fiber.Kept D.leaves D.midway start blocks
  | .dropped fiber, blocks => fiber.Kept D.leaves D.dropped start blocks
  | .ended _ value, blocks => ∃ state, Transcript D.leaves start blocks (.done state value)

def fiberHolds : Fiber M σ α → Bool
  | .asking _ r flight _ => D.holds r flight
  | _ => false

def memberHolds : Member (Fiber M σ α) α → Bool
  | .live fiber => D.fiberHolds fiber
  | _ => false

def Holds (pool : Pool (Fiber M σ α) W α) (i : Nat) : Prop :=
  ∃ member, pool.members[i]? = some member ∧ D.memberHolds member = true

def bookkeeping (starts : List (Progress I σ α)) : Bookkeeping (Fiber M σ α) α β where
  kept i member blocks := ∃ start, starts[i]? = some start ∧ D.Kept start member blocks
  holds := D.memberHolds

structure Orderly (starts : List (Progress I σ α)) (pool : Pool (Fiber M σ α) W α)
    (blocks : List (Nat × β)) (holder : Option Nat) : Prop where
  ledger : Ledger (D.bookkeeping starts) pool.members (D.locked pool.world) blocks holder

def written (blocks : List (Nat × β)) : List (Nat × Ev) :=
  blocks.flatMap fun entry => (D.events entry.2).map (entry.1, ·)

theorem Course.adds_up {D : Discipline M β Ev} {act : Act → W → W}
    {origin pool : Pool (Fiber M σ α) W α} {steps : List (Pool.Step Act)} {blocks : List (Nat × β)}
    (course : D.Course act origin steps (D.written blocks) pool) {κ : Type} (shown : W → List κ)
    (shows : Ev → Option κ) (record : ∀ {world tail world'}, D.record world tail world' →
      shown world' = shown world ++ tail.filterMap shows)
    (acts : ∀ a world, shown (act a world) = shown world) :
    shown pool.world = shown origin.world ++
      blocks.flatMap fun entry => (D.events entry.2).filterMap shows := by
  have blockwise : (D.written blocks).filterMap (fun event => shows event.2) =
      blocks.flatMap fun entry => (D.events entry.2).filterMap shows := by
    simp only [written, List.filterMap_flatMap, List.filterMap_map]
    rfl
  rw [← blockwise]
  generalize D.written blocks = events at course
  induction course with
  | rest => exact (List.append_nil _).symm
  | polled before i adds ih | dropped before i adds ih =>
    rw [record adds, ih, List.filterMap_append, List.filterMap_map, List.append_assoc]
    rfl
  | acted before a ih => rw [acts, ih]

structure Adds (starts : List (Progress I σ α)) (i : Nat) (blocks : List (Nat × β)) (world : W)
    (pool : Pool (Fiber M σ α) W α) (blocks' : List (Nat × β)) (tail : List Ev) : Prop where
  orderly : ∃ holder, D.Orderly starts pool blocks' holder
  written : D.written blocks' = D.written blocks ++ tail.map (i, ·)
  record : D.record world tail pool.world

end Discipline

section

variable {D : Discipline M β Ev} {act : Act → W → W}

theorem Fiber.Kept.launched {start p : Progress I σ α} {state : σ} {op : Operation I σ α}
    {blocks : List β}
    (kept : (Fiber.fresh state op : Fiber M σ α).Kept D.leaves D.midway start blocks)
    (h : op state = p) : Transcript D.leaves start blocks p := by
  rw [← h]
  exact kept

theorem Fiber.Kept.stands {start : Progress I σ α} {fiber : Fiber M σ α} {blocks : List β}
    {state : σ} {r : I.Request} {flight : M.Flight r} {next : I.Reply r → Progress I σ α}
    (lawful : D.Lawful act) (kept : fiber.Kept D.leaves D.midway start blocks)
    (stands : fiber.StandsAt state r flight next) :
    D.fiberHolds fiber = D.holds r flight ∧
      ∃ past written, blocks = past ++ written ∧
        Transcript D.leaves start past (.ask state r next) ∧ D.Stands r flight written := by
  cases stands with
  | launched h =>
    exact ⟨(lawful.launch r).symm, blocks, [], (List.append_nil _).symm, kept.launched h,
      .inl ⟨rfl, rfl⟩⟩
  | asking =>
    obtain ⟨past, written, split, before, midway⟩ := kept
    exact ⟨rfl, past, written, split, before, .inr midway⟩

namespace Discipline.Orderly

variable {starts : List (Progress I σ α)} {members : List (Member (Fiber M σ α) α)}
  {world world' : W} {blocks : List (Nat × β)} {holder : Option Nat} {i : Nat}

theorem goes (orderly : D.Orderly starts ⟨members, world⟩ blocks holder)
    {member member' : Member (Fiber M σ α) α} {past written : List β} {after : List β → Prop}
    (at_i : members[i]? = some member) (split : own i blocks = past ++ written)
    (goes : D.Goes (D.memberHolds member) written world world' (D.memberHolds member') after)
    (kept : ∀ written', after written' →
      (D.bookkeeping starts).kept i member' (past ++ written')) :
    ∃ blocks' tail, D.Adds starts i blocks world ⟨members.set i member', world'⟩ blocks' tail := by
  cases goes with
  | quietly same stands locked quiet =>
    have ledger := orderly.ledger.quiet at_i same (split ▸ kept written stands) locked
    exact ⟨blocks, [], ⟨_, ⟨ledger⟩⟩, (List.append_nil _).symm, quiet⟩
  | @begins block free stands locked adds =>
    have kept := kept _ stands
    rw [← List.append_assoc, ← split] at kept
    refine ⟨_, _, ⟨_, ⟨orderly.ledger.append free at_i kept locked⟩⟩, ?_, adds⟩
    simp [Discipline.written]
  | @goesOn before block block' tail held last stands events locked adds =>
    -- Whoever has the lock wrote the last entry of the ledger, so its own last block is that entry.
    obtain ⟨entries, entry, rfl, own_eq, rewrite⟩ := orderly.ledger.rewrite at_i held
    rw [last, ← List.append_assoc, own_eq] at split
    obtain ⟨eq, same⟩ := List.append_inj' split rfl
    cases same
    have kept := kept _ stands
    rw [← List.append_assoc, ← eq] at kept
    refine ⟨_, tail, ⟨_, ⟨rewrite member' block' _ kept locked⟩⟩, ?_, adds⟩
    simp [Discipline.written, events]

theorem poll (lawful : D.Lawful act) (orderly : D.Orderly starts ⟨members, world⟩ blocks holder)
    {fiber : Fiber M σ α} {state : σ} {r : I.Request} {flight : M.Flight r}
    {next : I.Reply r → Progress I σ α} {answer : Poll (M.Flight r) (I.Reply r)}
    (live : members[i]? = some (.live fiber)) (stands : fiber.StandsAt state r flight next)
    (polled : M.poll r flight world = (answer, world')) {fiber' : Fiber M σ α}
    (same : D.fiberHolds fiber' = D.keeps r answer)
    (kept : ∀ start past written, Transcript D.leaves start past (.ask state r next) →
      D.answers r answer written → fiber'.Kept D.leaves D.midway start (past ++ written)) :
    ∃ blocks' tail,
      D.Adds starts i blocks world ⟨members.set i (.live fiber'), world'⟩ blocks' tail := by
  obtain ⟨start, at_start, account⟩ := orderly.ledger.kept i _ live
  obtain ⟨holds, past, written, split, before, place⟩ := Fiber.Kept.stands lawful account stands
  have goes := lawful.poll r flight written world answer world' place polled
  rw [← holds, ← same] at goes
  exact orderly.goes live split goes fun written' stands =>
    ⟨start, at_start, kept start past written' before stands⟩

theorem rest (lawful : D.Lawful act) (orderly : D.Orderly starts ⟨members, world⟩ blocks holder)
    {member member' : Member (Fiber M σ α) α} (at_i : members[i]? = some member)
    (same : D.memberHolds member' = D.memberHolds member)
    (kept : (D.bookkeeping starts).kept i member' (own i blocks)) :
    ∃ blocks' tail, D.Adds starts i blocks world ⟨members.set i member', world⟩ blocks' tail :=
  ⟨blocks, [], ⟨_, ⟨orderly.ledger.quiet at_i same kept rfl⟩⟩, (List.append_nil _).symm,
    lawful.nothing world⟩

theorem drop (lawful : D.Lawful act) (orderly : D.Orderly starts ⟨members, world⟩ blocks holder)
    {fiber : Fiber M σ α} (live : members[i]? = some (.live fiber)) :
    ∃ blocks' tail, D.Adds starts i blocks world
      ⟨members.set i (.dropped fiber), fiber.drop world⟩ blocks' tail := by
  obtain ⟨start, at_start, kept⟩ := orderly.ledger.kept i _ live
  cases fiber with
  | fresh => exact orderly.rest lawful live rfl ⟨start, at_start, kept⟩
  | spent => cases kept
  | asking state r flight next =>
    obtain ⟨past, written, split, before, midway⟩ := kept
    exact orderly.goes live split (lawful.drop r flight written world midway)
      fun written' dropped => ⟨start, at_start, past, written', rfl, before, dropped⟩

theorem move (lawful : D.Lawful act) {p q : Pool (Fiber M σ α) W α} (moved : Pool.Move i p q)
    (orderly : D.Orderly starts p blocks holder) :
    ∃ blocks' tail, D.Adds starts i blocks p.world q blocks' tail := by
  cases moved with
  | reply live stands polled =>
    exact orderly.poll lawful live stands polled rfl fun start past written before left =>
      .reply before left
  | suspend live stands polled =>
    exact orderly.poll lawful live stands polled rfl fun start past written before midway =>
      ⟨past, written, rfl, before, midway⟩
  | finish live done =>
    obtain ⟨start, at_start, kept⟩ := orderly.ledger.kept _ _ live
    exact orderly.rest lawful live rfl ⟨start, at_start, _, kept.launched done⟩
  | drop live => exact orderly.drop lawful live

theorem moves (lawful : D.Lawful act) {p q : Pool (Fiber M σ α) W α}
    (moved : Relation.ReflTransGen (Pool.Move i) p q) (orderly : D.Orderly starts p blocks holder) :
    ∃ blocks' tail, D.Adds starts i blocks p.world q blocks' tail := by
  induction moved with
  | refl =>
    exact ⟨blocks, [], ⟨_, orderly⟩, (List.append_nil _).symm, lawful.nothing p.world⟩
  | tail _ moved ih =>
    obtain ⟨between, tail, ⟨holder, orderly⟩, written, record⟩ := ih
    obtain ⟨blocks', more, adds⟩ := orderly.move lawful moved
    refine ⟨blocks', tail ++ more, adds.orderly, ?_, lawful.trans record adds.record⟩
    rw [adds.written, written, List.map_append, List.append_assoc]

theorem launch (starts : List (σ × Operation I σ α)) (free : D.locked world = false) :
    D.Orderly (starts.map fun (state, op) => op state) (Pool.launch world starts) [] none where
  ledger := by
    rw [show D.locked (Pool.launch world starts).world = false from free]
    refine .launch (fun i member at_i => ?_) fun i member at_i => ?_ <;>
      simp only [Pool.launch, List.getElem?_map, Option.map_eq_some_iff] at at_i <;>
      obtain ⟨⟨state, op⟩, at_start, rfl⟩ := at_i
    · exact ⟨op state, by rw [List.getElem?_map, at_start]; rfl, .nil⟩
    · rfl

/-- Every run keeps to the discipline that the single flights keep to. -/
theorem run (lawful : D.Lawful act) {origin pool : Pool (Fiber M σ α) W α}
    {past : List (Pool.Step Act)} (orderly : D.Orderly starts pool blocks holder)
    (course : D.Course act origin past (D.written blocks) pool) (steps : List (Pool.Step Act)) :
    ∃ blocks' holder', D.Orderly starts (pool.run act steps) blocks' holder' ∧
      D.Course act origin (past ++ steps) (D.written blocks') (pool.run act steps) := by
  induction steps generalizing pool past blocks holder with
  | nil =>
    rw [List.append_nil]
    exact ⟨blocks, holder, orderly, course⟩
  | cons s steps ih =>
    rw [List.append_cons]
    cases s with
    | poll i =>
      obtain ⟨blocks', tail, ⟨holder', orderly'⟩, written, record⟩ :=
        orderly.moves lawful (pool.poll_moves i)
      exact ih orderly' (written ▸ course.polled i record)
    | drop i =>
      obtain ⟨blocks', tail, ⟨holder', orderly'⟩, written, record⟩ :=
        orderly.moves lawful (pool.drop_moves i)
      exact ih orderly' (written ▸ course.dropped i record)
    | act a =>
      have ledger := orderly.ledger
      rw [← lawful.act a] at ledger
      exact ih ⟨ledger⟩ (course.acted a)

theorem run_launch (lawful : D.Lawful act) (starts : List (σ × Operation I σ α)) (world : W)
    (free : D.locked world = false) (steps : List (Pool.Step Act)) :
    let origin : Pool (Fiber M σ α) W α := .launch world starts
    ∃ blocks holder,
      D.Orderly (starts.map fun (state, op) => op state) (origin.run act steps) blocks holder ∧
        D.Course act origin steps (D.written blocks) (origin.run act steps) :=
  run lawful (launch starts free) .rest steps

variable {pool : Pool (Fiber M σ α) W α}

theorem kept (orderly : D.Orderly starts pool blocks holder)
    {member : Member (Fiber M σ α) α} (at_i : pool.members[i]? = some member) :
    ∃ start, starts[i]? = some start ∧ D.Kept start member (own i blocks) :=
  orderly.ledger.kept i member at_i

theorem holds_iff (orderly : D.Orderly starts pool blocks holder) :
    D.Holds pool i ↔ holder = some i :=
  orderly.ledger.holds_iff i

theorem alone (orderly : D.Orderly starts pool blocks holder) {j : Nat}
    (first : D.Holds pool i) (second : D.Holds pool j) : i = j := by
  rw [orderly.holds_iff] at first second
  exact Option.some.inj (first.symm.trans second)

theorem locked_iff (orderly : D.Orderly starts pool blocks holder) :
    D.locked pool.world = true ↔ ∃ i, D.Holds pool i := by
  rw [orderly.ledger.locked, Option.isSome_iff_exists]
  exact exists_congr fun i => orderly.holds_iff.symm

theorem last (orderly : D.Orderly starts pool blocks holder) (holds : D.Holds pool i) :
    ∃ past block, blocks = past ++ [(i, block)] :=
  orderly.ledger.last i (orderly.holds_iff.1 holds)

theorem member (orderly : D.Orderly starts pool blocks holder) {block : β}
    (mem : (i, block) ∈ blocks) : ∃ member, pool.members[i]? = some member :=
  ⟨_, List.getElem?_eq_getElem (orderly.ledger.owned i block mem)⟩

end Discipline.Orderly

end

end SensorBus
