import SensorBus.Proofs.I2c.Blocks
import SensorBus.Proofs.I2c.Stepping

/-!
Operations that share a bus come to their ends if they are polled in rounds, each of which polls
everybody. In a round somebody goes on: the one that has the lock, or the first one that finds it
free.
-/

namespace SensorBus

theorem Pool.run_polls {F W α E : Type} [Job F W α] (act : E → W → W) (pool : Pool F W α)
    (order : List Nat) : pool.run act (order.map .poll) = order.foldl Pool.poll pool :=
  List.foldl_map

namespace I2c

variable {σ α : Type} {yields k : Nat}

def Transacts : Nat → Progress interface σ α → Prop
  | _, .done .. => True
  | n + 1, .ask _ (.transact ..) next => ∀ reply, Transacts n (next reply)
  | _, .ask .. => False

theorem Transacts.cases_ask {n : Nat} {state : σ} {r : interface.Request}
    {next : interface.Reply r → Progress interface σ α}
    (transacts : Transacts n (.ask state r next)) :
    ∃ m timing t, n = m + 1 ∧ r = .transact timing t ∧ ∀ reply, Transacts m (next reply) := by
  cases n with
  | zero => cases r <;> exact transacts.elim
  | succ n =>
    cases r with
    | delay => exact transacts.elim
    | transact timing t => exact ⟨n, timing, t, rfl, rfl, transacts⟩

/-- On a bus that yields so often a fiber needs so many polls at most, of those that find the lock
free or in its hands. A transaction needs one for each time that the bus yields and one more, in
which the next one begins. -/
inductive BusFiber.Owes (yields : Nat) : BusFiber σ α → Nat → Prop
  | fresh {state : σ} {op : Operation interface σ α} {n k : Nat}
      (transacts : Transacts n (op state)) (enough : n * (yields + 1) + 1 ≤ k) :
      Owes yields (.fresh state op) k
  | waiting {state : σ} {timing : Option Timing} {t : Transaction}
      {next : Outcome → Progress interface σ α} {n k : Nat}
      (transacts : ∀ reply, Transacts n (next reply)) (enough : (n + 1) * (yields + 1) + 1 ≤ k) :
      Owes yields (.asking state (.transact timing t) (Turn.waiting timing t) next) k
  | holding {state : σ} {timing : Option Timing} {t : Transaction} {exchange : Exchange}
      {next : Outcome → Progress interface σ α} {n k : Nat}
      (transacts : ∀ reply, Transacts n (next reply))
      (enough : n * (yields + 1) + exchange.left + 2 ≤ k) :
      Owes yields (.asking state (.transact timing t) (Turn.holding exchange) next) k

def BusFiber.Pays (yields k : Nat) : Option α × BusFiber σ α × SharedBus → Prop
  | (some _, fiber, shared) => (∃ state, fiber = .spent state) ∧ shared.master.bus.yields = yields
  | (none, fiber, shared) => BusFiber.Owes yields fiber k ∧ shared.master.bus.yields = yields

namespace BusFiber

theorem Owes.mono {fiber : BusFiber σ α} {k' : Nat} (owes : Owes yields fiber k) (le : k ≤ k') :
    Owes yields fiber k' := by
  cases owes with
  | fresh transacts enough => exact .fresh transacts (Nat.le_trans enough le)
  | waiting transacts enough => exact .waiting transacts (Nat.le_trans enough le)
  | holding transacts enough => exact .holding transacts (Nat.le_trans enough le)

theorem Owes.pos {fiber : BusFiber σ α} (owes : Owes yields fiber k) : 0 < k := by
  cases owes <;> omega

theorem Pays.mono {polled : Option α × BusFiber σ α × SharedBus} {k' : Nat}
    (pays : Pays yields k polled) (le : k ≤ k') : Pays yields k' polled := by
  obtain ⟨_ | value, fiber, shared⟩ := polled
  · exact ⟨pays.1.mono le, pays.2⟩
  · exact pays

variable {shared : SharedBus}

theorem yields_complete {timing : Option Timing} {t : Transaction} :
    ((shared.master.opened timing t).complete t.attached).2.bus.yields =
      shared.master.bus.yields :=
  ((shared.master.opened timing t).complete_keeps t.attached).1.trans
    (shared.master.opened_yields timing t)

theorem advance_pays {p : Progress interface σ α} {n : Nat} (transacts : Transacts n p)
    (free : shared.locked = false) (same : shared.master.bus.yields = yields) :
    Pays yields (n * (yields + 1)) (p.advance SharedBus.medium shared) := by
  induction p generalizing n shared with
  | done state value => exact ⟨⟨state, rfl⟩, same⟩
  | ask state r next ih =>
    rcases polled : SharedBus.medium.poll r (SharedBus.medium.launch r) shared with
      ⟨reply | flight, after⟩ <;> simp only [Progress.advance, polled] <;>
      obtain ⟨n, timing, t, rfl, rfl, rest⟩ := transacts.cases_ask
    all_goals
      have grows : n * (yields + 1) ≤ (n + 1) * (yields + 1) := Nat.mul_le_mul_right _ n.le_succ
      have waited := Turn.poll_waiting shared timing t
      rw [show (Turn.waiting timing t).poll shared = _ from polled] at waited
    case ready =>
      cases waited with
      | refused =>
        refine Pays.mono (ih _ (rest _) ?_ same) grows
        rfl
      | through =>
        refine Pays.mono (ih _ (rest _) ?_ (yields_complete.trans same)) grows
        rfl
    case pending =>
      cases waited with
      | held locked =>
        rw [free] at locked
        cases locked
      | begun _ _ left suspends =>
        refine ⟨.holding rest ?_, (shared.master.opened_yields timing t).trans same⟩
        rw [Nat.succ_mul]
        dsimp only
        omega

theorem poll_launched {state : σ} {r : interface.Request}
    {next : interface.Reply r → Progress interface σ α} :
    (Fiber.asking state r (SharedBus.medium.launch r) next).poll shared =
      (Progress.ask state r next).advance SharedBus.medium shared := by
  simp only [Fiber.poll, Progress.advance]

theorem poll_pays {fiber : BusFiber σ α} (owes : Owes yields fiber (k + 1))
    (goesOn : shared.locked = false ∨ SharedBus.discipline.fiberHolds fiber = true)
    (same : shared.master.bus.yields = yields) : Pays yields k (fiber.poll shared) := by
  cases owes with
  | @fresh _ _ n _ transacts enough =>
    have free : shared.locked = false := goesOn.resolve_right nofun
    exact Pays.mono (advance_pays transacts free same) (Nat.le_of_succ_le_succ enough)
  | @waiting state timing t next n _ transacts enough =>
    have free : shared.locked = false := goesOn.resolve_right nofun
    -- Like a computation that is about to ask for the transaction.
    have asks : Transacts (n + 1) (.ask state (.transact timing t) next) := transacts
    have pays := advance_pays asks free same
    exact (congrArg (Pays yields k) poll_launched).mpr
      (pays.mono (Nat.le_of_succ_le_succ enough))
  | @holding state timing t exchange next n _ transacts enough =>
    obtain ⟨t', _ | left⟩ := exchange
    · have keeps := shared.master.complete_keeps t'
      refine Pays.mono (advance_pays (transacts _) rfl (keeps.1.trans same)) ?_
      dsimp only at enough
      omega
    · exact ⟨.holding transacts (by dsimp only at enough ⊢; omega), same⟩

theorem advance_waits {p : Progress interface σ α} {n : Nat} (transacts : Transacts n p)
    (locked : shared.locked = true) (same : shared.master.bus.yields = yields) :
    Pays yields (n * (yields + 1) + 1) (p.advance SharedBus.medium shared) ∧
      (p.advance SharedBus.medium shared).2.2 = shared := by
  cases p with
  | done state value => exact ⟨⟨⟨state, rfl⟩, same⟩, rfl⟩
  | ask state r next =>
    have polled : SharedBus.medium.poll r (SharedBus.medium.launch r) shared =
        (.pending (SharedBus.medium.launch r), shared) := by
      obtain ⟨n, timing, t, rfl, rfl, rest⟩ := transacts.cases_ask
      change (Turn.waiting timing t).poll shared = (.pending (.waiting timing t), shared)
      simp only [Turn.poll, locked, if_true]
    simp only [Progress.advance, polled, and_true]
    obtain ⟨n, timing, t, rfl, rfl, rest⟩ := transacts.cases_ask
    exact ⟨.waiting rest (Nat.le_refl _), same⟩

theorem poll_waits {fiber : BusFiber σ α} (owes : Owes yields fiber k)
    (locked : shared.locked = true) (waits : SharedBus.discipline.fiberHolds fiber = false)
    (same : shared.master.bus.yields = yields) :
    Pays yields k (fiber.poll shared) ∧ (fiber.poll shared).2.2 = shared := by
  cases owes with
  | fresh transacts enough =>
    obtain ⟨pays, unchanged⟩ := advance_waits transacts locked same
    exact ⟨pays.mono enough, unchanged⟩
  | @waiting state timing t next n _ transacts enough =>
    have asks : Transacts (n + 1) (.ask state (.transact timing t) next) := transacts
    obtain ⟨pays, unchanged⟩ := advance_waits asks locked same
    exact (congrArg (fun polled => Pays yields k polled ∧ polled.2.2 = shared) poll_launched).mpr
      ⟨pays.mono enough, unchanged⟩
  | holding => cases waits

end BusFiber

def BusMember.Owes (yields : Nat) : BusMember σ α → Nat → Prop
  | .live fiber, k => BusFiber.Owes yields fiber k
  | .ended .., _ => True
  | .dropped _, _ => False

def OwesInAll (yields : Nat) : List (BusMember σ α) → Nat → Prop
  | [], _ => True
  | member :: rest, k => ∃ first others, BusMember.Owes yields member first ∧
      OwesInAll yields rest others ∧ first + others ≤ k

section

variable {members : List (BusMember σ α)} {i : Nat}

theorem OwesInAll.mono {k' : Nat} (owes : OwesInAll yields members k) (le : k ≤ k') :
    OwesInAll yields members k' := by
  cases members with
  | nil => trivial
  | cons member rest =>
    obtain ⟨first, others, here, there, sum⟩ := owes
    exact ⟨first, others, here, there, Nat.le_trans sum le⟩

theorem OwesInAll.replace {member : BusMember σ α} (owes : OwesInAll yields members k)
    (at_i : members[i]? = some member) : ∃ own others, BusMember.Owes yields member own ∧
      own + others ≤ k ∧ ∀ member' own', BusMember.Owes yields member' own' →
        OwesInAll yields (members.set i member') (own' + others) := by
  induction members generalizing i k with
  | nil => cases at_i
  | cons head rest ih =>
    obtain ⟨first, others, here, there, sum⟩ := owes
    cases i with
    | zero =>
      cases at_i
      exact ⟨first, others, here, sum, fun member' own' owes =>
        ⟨own', others, owes, there, Nat.le_refl _⟩⟩
    | succ i =>
      obtain ⟨own, others', owes, sum', replaced⟩ := ih there at_i
      refine ⟨own, first + others', owes, by omega, fun member' own' owes => ?_⟩
      exact ⟨first, own' + others', here, replaced member' own' owes, by omega⟩

theorem OwesInAll.of_nobody (owes : OwesInAll yields members k)
    (nobody : ∀ fiber, .live fiber ∉ members) : OwesInAll yields members 0 := by
  induction members generalizing k with
  | nil => trivial
  | cons head rest ih =>
    obtain ⟨first, others, here, there, -⟩ := owes
    have rest := ih there fun fiber mem => nobody fiber (List.mem_cons_of_mem head mem)
    cases head with
    | live fiber => exact absurd List.mem_cons_self (nobody fiber)
    | ended => exact ⟨0, 0, trivial, rest, Nat.le_refl 0⟩
    | dropped => exact here.elim

theorem OwesInAll.ended (owes : OwesInAll yields members 0) {member : BusMember σ α}
    (mem : member ∈ members) : ∃ fiber value, member = .ended fiber value := by
  obtain ⟨i, at_i⟩ := List.mem_iff_getElem?.1 mem
  obtain ⟨own, others, owed, sum, -⟩ := owes.replace at_i
  cases member with
  | live fiber =>
    have pos := BusFiber.Owes.pos owed
    omega
  | ended fiber value => exact ⟨fiber, value, rfl⟩
  | dropped => exact owed.elim

end

structure BusPool.Owes (yields k : Nat) (pool : BusPool σ α) : Prop where
  same : pool.world.master.bus.yields = yields
  members : OwesInAll yields pool.members k

def BusPool.Ready (pool : BusPool σ α) (i : Nat) : Prop :=
  ∃ fiber, pool.members[i]? = some (.live fiber) ∧
    (pool.world.locked = false ∨ SharedBus.discipline.fiberHolds fiber = true)

namespace BusPool

variable {pool : BusPool σ α} {members : List (BusMember σ α)} {i j : Nat}

theorem Owes.mono {k' : Nat} (owes : BusPool.Owes yields k pool) (le : k ≤ k') :
    BusPool.Owes yields k' pool :=
  ⟨owes.same, owes.members.mono le⟩

theorem settle_owes {own others : Nat} {polled : Option α × BusFiber σ α × SharedBus}
    (pays : BusFiber.Pays yields own polled)
    (replaced : ∀ member own, BusMember.Owes yields member own →
      OwesInAll yields (members.set i member) (own + others)) :
    BusPool.Owes yields (own + others) (Pool.settle members i polled) := by
  rcases polled with ⟨_ | value, fiber, shared⟩
  · obtain ⟨owes, same⟩ := pays
    exact ⟨same, replaced (.live fiber) own owes⟩
  · obtain ⟨⟨state, rfl⟩, same⟩ := pays
    exact ⟨same, replaced (.ended (.spent state) value) own trivial⟩

theorem settle_world {own : Nat} {polled : Option α × BusFiber σ α × SharedBus}
    (pays : BusFiber.Pays yields own polled) :
    (Pool.settle members i polled).world = polled.2.2 := by
  rcases polled with ⟨_ | value, fiber, shared⟩
  · rfl
  · obtain ⟨⟨state, rfl⟩, same⟩ := pays
    rfl

theorem settle_others (polled : Option α × BusFiber σ α × SharedBus) (ne : j ≠ i) :
    (Pool.settle members i polled).members[j]? = members[j]? := by
  rcases polled with ⟨_ | value, fiber, shared⟩ <;> exact List.getElem?_set_ne ne.symm

theorem poll_ready (owes : BusPool.Owes yields (k + 1) pool) (ready : BusPool.Ready pool i) :
    BusPool.Owes yields k (pool.poll i) := by
  obtain ⟨fiber, live, goesOn⟩ := ready
  obtain ⟨own, others, owed, sum, replaced⟩ := owes.members.replace live
  obtain ⟨own, rfl⟩ := Nat.exists_eq_succ_of_ne_zero (Nat.ne_of_gt (BusFiber.Owes.pos owed))
  have pays := BusFiber.poll_pays owed goesOn owes.same
  simp only [Pool.poll, live]
  exact (settle_owes pays replaced).mono (by omega)

theorem poll_unready (owes : BusPool.Owes yields k pool) (unready : ¬ BusPool.Ready pool i) :
    BusPool.Owes yields k (pool.poll i) ∧ (pool.poll i).world = pool.world ∧
      ∀ j, j ≠ i → (pool.poll i).members[j]? = pool.members[j]? := by
  unfold Pool.poll
  split
  case h_1 fiber live =>
    have blocked := mt (fun goesOn => ⟨fiber, live, goesOn⟩) unready
    obtain ⟨locked, waits⟩ := not_or.1 blocked
    rw [Bool.not_eq_false] at locked
    rw [Bool.not_eq_true] at waits
    obtain ⟨own, others, owed, sum, replaced⟩ := owes.members.replace live
    obtain ⟨pays, unchanged⟩ := BusFiber.poll_waits owed locked waits owes.same
    exact ⟨(settle_owes pays replaced).mono sum, (settle_world pays).trans unchanged,
      fun j ne => settle_others _ ne⟩
  case h_2 => exact ⟨owes, rfl, fun _ _ => rfl⟩

theorem poll_owes (owes : BusPool.Owes yields k pool) (i : Nat) :
    BusPool.Owes yields k (pool.poll i) := by
  by_cases ready : BusPool.Ready pool i
  · cases k with
    | zero =>
      obtain ⟨fiber, live, -⟩ := ready
      obtain ⟨_, _, ended⟩ := owes.members.ended (List.mem_of_getElem? live)
      cases ended
    | succ k => exact (poll_ready owes ready).mono k.le_succ
  · exact (poll_unready owes ready).1

theorem polls_owe (owes : BusPool.Owes yields k pool) (order : List Nat) :
    BusPool.Owes yields k (order.foldl Pool.poll pool) := by
  induction order generalizing pool with
  | nil => exact owes
  | cons i rest ih => exact ih (poll_owes owes i)

theorem round_owes {round : List Nat} (owes : BusPool.Owes yields (k + 1) pool)
    (ready : BusPool.Ready pool j) (mem : j ∈ round) :
    BusPool.Owes yields k (round.foldl Pool.poll pool) := by
  induction round generalizing pool with
  | nil => cases mem
  | cons i rest ih =>
    by_cases first : BusPool.Ready pool i
    · exact polls_owe (poll_ready owes first) rest
    · have ne : j ≠ i := by
        rintro rfl
        exact first ready
      obtain ⟨owes, world, others⟩ := poll_unready owes first
      refine ih owes ?_ ((List.mem_cons.1 mem).resolve_left ne)
      obtain ⟨fiber, live, goesOn⟩ := ready
      exact ⟨fiber, (others j ne).trans live, world ▸ goesOn⟩

theorem exists_ready {starts : List (Progress interface σ α)}
    {blocks : List (Nat × Block)} {holder : Option Nat}
    (orderly : SharedBus.discipline.Orderly starts pool blocks holder)
    {fiber : BusFiber σ α} (live : pool.members[i]? = some (.live fiber)) :
    ∃ j, BusPool.Ready pool j := by
  cases locked : pool.world.locked with
  | false => exact ⟨i, fiber, live, .inl locked⟩
  | true =>
    obtain ⟨j, member, at_j, holds⟩ := orderly.locked_iff.1 locked
    cases member with
    | live fiber => exact ⟨j, fiber, at_j, .inr holds⟩
    | ended | dropped => cases holds

theorem length_polls (pool : BusPool σ α) (order : List Nat) :
    (order.foldl Pool.poll pool).members.length = pool.members.length := by
  induction order generalizing pool with
  | nil => rfl
  | cons i rest ih =>
    refine (ih (pool.poll i)).trans ?_
    unfold Pool.poll
    split
    case h_2 => rfl
    case h_1 fiber live =>
      rcases Job.poll fiber pool.world with ⟨_ | value, job, world⟩ <;> exact List.length_set

theorem polls_orderly {starts : List (Progress interface σ α)}
    (orderly : ∃ blocks holder, SharedBus.discipline.Orderly starts pool blocks holder)
    (order : List Nat) : ∃ blocks holder, SharedBus.discipline.Orderly starts
      (order.foldl Pool.poll pool) blocks holder := by
  induction order generalizing pool with
  | nil => exact orderly
  | cons i rest ih =>
    obtain ⟨blocks, holder, orderly⟩ := orderly
    obtain ⟨blocks', tail, adds⟩ := orderly.moves SharedBus.lawful (pool.poll_moves i)
    exact ih ⟨blocks', adds.orderly⟩

theorem everybody_owes {starts : List (Progress interface σ α)}
    {blocks : List (Nat × Block)} {holder : Option Nat} {round : List Nat}
    (orderly : SharedBus.discipline.Orderly starts pool blocks holder)
    (owes : BusPool.Owes yields (k + 1) pool) (everybody : ∀ i < pool.members.length, i ∈ round) :
    BusPool.Owes yields k (round.foldl Pool.poll pool) := by
  by_cases nobody : ∀ fiber, .live fiber ∉ pool.members
  · exact (polls_owe ⟨owes.same, owes.members.of_nobody nobody⟩ round).mono k.zero_le
  · simp only [Classical.not_forall, Classical.not_not] at nobody
    obtain ⟨fiber, mem⟩ := nobody
    obtain ⟨i, live⟩ := List.mem_iff_getElem?.1 mem
    obtain ⟨j, ready⟩ := exists_ready orderly live
    obtain ⟨next, at_j, -⟩ := id ready
    exact round_owes owes ready (everybody j (List.getElem?_eq_some_iff.1 at_j).1)

theorem rounds_end {starts : List (Progress interface σ α)}
    (orderly : ∃ blocks holder, SharedBus.discipline.Orderly starts pool blocks holder)
    {rounds : List (List Nat)} (owes : BusPool.Owes yields rounds.length pool)
    (everybody : ∀ round ∈ rounds, ∀ i < pool.members.length, i ∈ round) :
    ∀ member ∈ (rounds.flatten.foldl Pool.poll pool).members,
      ∃ fiber value, member = .ended fiber value := by
  induction rounds generalizing pool with
  | nil => exact fun member mem => owes.members.ended mem
  | cons round rest ih =>
    rw [List.flatten_cons, List.foldl_append]
    obtain ⟨blocks, holder, here⟩ := id orderly
    have fewer := everybody_owes here owes (everybody round List.mem_cons_self)
    refine ih (polls_orderly orderly round) fewer fun other mem i lt => ?_
    rw [length_polls] at lt
    exact everybody other (List.mem_cons_of_mem _ mem) i lt

theorem launch_owes {n : Nat} (shared : SharedBus) {starts : List (σ × Operation interface σ α)}
    (transacts : ∀ start ∈ starts, Transacts n (start.2 start.1)) :
    BusPool.Owes shared.master.bus.yields
      (starts.length * (n * (shared.master.bus.yields + 1) + 1)) (Pool.launch shared starts) := by
  refine ⟨rfl, ?_⟩
  induction starts with
  | nil => trivial
  | cons start rest ih =>
    have others := ih fun start mem => transacts start (List.mem_cons_of_mem _ mem)
    refine ⟨_, _, .fresh (transacts start List.mem_cons_self) (Nat.le_refl _), others, ?_⟩
    rw [List.length_cons, Nat.succ_mul]
    omega

end BusPool

/-- Operations of at most so many transactions each have all ended after rounds enough for each of
them to wait for all the others. -/
theorem all_end_in_rounds {n : Nat} {master : Master} {starts : List (σ × Operation interface σ α)}
    (transacts : ∀ start ∈ starts, Transacts n (start.2 start.1)) {rounds : List (List Nat)}
    (enough : starts.length * (n * (master.bus.yields + 1) + 1) ≤ rounds.length)
    (everybody : ∀ round ∈ rounds, ∀ i < starts.length, i ∈ round) :
    ∀ member ∈ (rounds.flatten.foldl Pool.poll
        (Pool.launch (M := SharedBus.medium) { master } starts)).members,
      ∃ fiber value, member = .ended fiber value := by
  have orderly : SharedBus.discipline.Orderly _ (Pool.launch { master } starts) [] none :=
    .launch starts rfl
  have owes := BusPool.launch_owes { master } transacts
  refine BusPool.rounds_end ⟨_, _, orderly⟩ (owes.mono enough) fun round mem i lt => ?_
  exact everybody round mem i (by simpa [Pool.launch] using lt)

end I2c

end SensorBus
