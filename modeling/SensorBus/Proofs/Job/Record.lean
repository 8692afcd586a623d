import SensorBus.Proofs.Job.Stepping
import SensorBus.Proofs.Job.View

namespace SensorBus

variable {I : Interface} {F W σ α β : Type}

structure Entry (I : Interface) where
  request : I.Request
  reply : Option (I.Reply request)

abbrev Record (I : Interface) := List (Entry I)

def Record.requests (record : Record I) : List I.Request := record.map Entry.request

def Record.Each (holds : Record I → Entry I → Prop) (record : Record I) : Prop :=
  ∀ past entry rest, record = past ++ entry :: rest → holds past entry

section

variable {holds : Record I → Entry I → Prop} {record first second : Record I} {entry : Entry I}

theorem Record.Each.nil : Record.Each holds [] := fun past entry rest eq => by
  cases past <;> cases eq

theorem Record.Each.of_mem (each : Record.Each holds record) (mem : entry ∈ record) :
    ∃ past, holds past entry := by
  obtain ⟨past, rest, split⟩ := List.append_of_mem mem
  exact ⟨past, each past entry rest split⟩

theorem Record.each_append : Record.Each holds (first ++ second) ↔
    first.Each holds ∧ second.Each fun past => holds (first ++ past) := by
  constructor
  · intro each
    refine ⟨fun past entry rest eq => ?_, fun past entry rest eq => ?_⟩
    · exact each past entry (rest ++ second) (by rw [eq]; simp)
    · exact each (first ++ past) entry rest (by rw [eq]; simp)
  · rintro ⟨each, each'⟩ past entry rest whole
    obtain ⟨between, rfl, eq⟩ | ⟨between, eq, same⟩ := List.append_eq_append_iff.1 whole
    · exact each' between entry rest eq
    · cases between with
      | nil =>
        have last : holds (first ++ []) entry := each' [] entry rest same.symm
        rwa [eq, List.append_nil, List.append_nil] at last
      | cons other between =>
        cases same
        exact each past entry between eq

theorem Record.each_concat : Record.Each holds (record ++ [entry]) ↔
    record.Each holds ∧ holds record entry := by
  rw [each_append]
  refine and_congr_right fun _ => ⟨fun each => ?_, fun last past other rest eq => ?_⟩
  · have last : holds (record ++ []) entry := each [] entry [] rfl
    rwa [List.append_nil] at last
  · obtain ⟨rfl, single⟩ : past = [] ∧ [entry] = other :: rest := by cases past <;> simp_all
    cases single
    rwa [List.append_nil]

end

/-- The medium with a record beside its world, to which it adds every request that is answered or
dropped. -/
def Medium.recorded (M : Medium I W) : Medium I (W × Record I) where
  Flight := M.Flight
  launch := M.launch
  poll r flight world :=
    match M.poll r flight world.1 with
    | (.ready reply, after) => (.ready reply, after, world.2 ++ [⟨r, some reply⟩])
    | (.pending flight, after) => (.pending flight, after, world.2)
  finish r flight world :=
    let (reply, after) := M.finish r flight world.1
    (reply, after, world.2 ++ [⟨r, some reply⟩])
  drop r flight world := (M.drop r flight world.1, world.2 ++ [⟨r, none⟩])

variable {M : Medium I W}

def Medium.unrecorded (M : Medium I W) : M.recorded.View M where
  world := Prod.fst
  flight _ flight := flight
  launch _ := rfl
  poll r flight world := by
    rcases polled : M.poll r flight world.1 with ⟨reply | flight', after⟩ <;>
      simp only [recorded, polled] <;> rfl
  finish _ _ _ := rfl
  drop _ _ _ := rfl

theorem Medium.perform_recorded (r : I.Request) (world : W × Record I) :
    M.recorded.perform r world =
      ((M.perform r world.1).1, (M.perform r world.1).2,
        world.2 ++ [⟨r, some (M.perform r world.1).1⟩]) := rfl

namespace Progress

section

variable {holds : W → Prop} (each : ∀ r world, holds world → holds (M.perform r world).2)

include each

theorem holds_run (p : Progress I σ α) {world : W} (start : holds world) :
    holds (p.run M world).2.2 := by
  induction p generalizing world with
  | done state value => exact start
  | ask state r next ih => exact ih _ (each r world start)

theorem holds_queries {p : Progress I σ α} {world : W} (start : holds world)
    {query : Query I σ α} {between : W} (mem : (query, between) ∈ p.queries M world) :
    holds between := by
  induction p generalizing world with
  | done state value => cases mem
  | ask state r next ih =>
    obtain eq | mem := List.mem_cons.1 mem
    · cases eq
      exact start
    · exact ih _ (each r world start) mem

end

theorem requests_run (p : Progress I σ α) (world : W × Record I) :
    (p.run M.recorded world).2.2.2.requests =
      world.2.requests ++ (p.queries M world.1).map (·.1.request) := by
  induction p generalizing world with
  | done state value => simp [run, queries]
  | ask state r next ih =>
    have rest := ih (M.perform r world.1).1 (M.recorded.perform r world).2
    simp only [run, queries, Medium.perform_recorded] at rest ⊢
    rw [rest]
    simp [Record.requests]

theorem requests_queries {p : Progress I σ α} {world : W × Record I}
    {query : Query I σ α} {between : W × Record I}
    (mem : (query, between) ∈ p.queries M.recorded world) :
    between.2.requests ++ [query.request] <+:
      world.2.requests ++ (p.queries M world.1).map (·.1.request) := by
  induction p generalizing world with
  | done state value => cases mem
  | ask state r next ih =>
    obtain eq | mem := List.mem_cons.1 mem
    · cases eq
      simp [queries]
    · have later : (query, between) ∈
        (next (M.perform r world.1).1).queries M.recorded (M.recorded.perform r world).2 := mem
      have rest := ih _ later
      rw [Medium.perform_recorded] at rest
      simpa [queries, Record.requests] using rest

/-- As long as the replies are lawful, the private state and the record are at every request as
`holds` says, and at the end as `ends` says. -/
def Along (lawful : (r : I.Request) → I.Reply r → Prop) (holds : σ → Record I → Prop)
    (ends : α → σ → Record I → Prop) : Record I → Progress I σ α → Prop
  | past, .done state value => ends value state past
  | past, .ask state r next =>
    holds state (past ++ [⟨r, none⟩]) ∧
      ∀ reply, lawful r reply → Along lawful holds ends (past ++ [⟨r, some reply⟩]) (next reply)

def Behind (base : Record I) (holds : σ → Record I → Prop) (state : σ) (record : Record I) : Prop :=
  ∃ own, record = base ++ own ∧ holds state own

namespace Along

variable {lawful : (r : I.Request) → I.Reply r → Prop} {holds : σ → Record I → Prop}
  {past : Record I} {ends : α → σ → Record I → Prop} {p : Progress I σ α}

theorem behind (base : Record I) (along : p.Along lawful holds ends past) :
    p.Along lawful (Behind base holds) (fun value => Behind base (ends value)) (base ++ past) := by
  induction p generalizing past with
  | done state value => exact ⟨past, rfl, along⟩
  | ask state r next ih =>
    refine ⟨⟨past ++ [⟨r, none⟩], List.append_assoc .., along.1⟩, fun reply law => ?_⟩
    rw [List.append_assoc]
    exact ih reply (along.2 reply law)

theorem run (laws : ∀ r world, lawful r (M.perform r world).1) (world : W × Record I)
    (along : p.Along lawful holds ends world.2) :
    ends (p.run M.recorded world).1 (p.run M.recorded world).2.1
      (p.run M.recorded world).2.2.2 := by
  induction p generalizing world with
  | done state value => exact along
  | ask state r next ih => exact ih _ _ (along.2 _ (laws r world.1))

theorem queries (laws : ∀ r world, lawful r (M.perform r world).1) {world : W × Record I}
    (along : p.Along lawful holds ends world.2) {query : Query I σ α} {between : W × Record I}
    (mem : (query, between) ∈ p.queries M.recorded world) :
    holds query.state (between.2 ++ [⟨query.request, none⟩]) := by
  induction p generalizing world with
  | done state value => cases mem
  | ask state r next ih =>
    obtain eq | mem := List.mem_cons.1 mem
    · cases eq
      exact along.1
    · exact ih _ (along.2 _ (laws r world.1)) mem

end Along

end Progress

def Job.Ending.result? : Job.Ending α → Option α
  | .value answer | .finished answer _ => some answer
  | .stopped => none

theorem Job.advance_waits [Job F W α] {value : α} {spent : F} {after : W} {job : F} {world : W}
    {places : List (F × W)} (waits : Waits value spent after places (poll job world))
    (limit : Nat) :
    (∃ polls, advance limit job world = (some (value, polls), spent, after)) ∨
      ∃ place ∈ (job, world) :: places, advance limit job world = (none, place) := by
  induction limit generalizing job world places with
  | zero => exact .inr ⟨_, List.mem_cons_self, rfl⟩
  | succ limit ih =>
    generalize polled : poll job world = answer at waits
    cases waits with
    | ends => exact .inl ⟨1, by simp only [advance, polled]⟩
    | suspended rest =>
      obtain ⟨polls, ended⟩ | ⟨place, mem, stands⟩ := ih rest
      · exact .inl ⟨polls + 1, by simp only [advance, polled, ended, Option.map_some]⟩
      · exact .inr ⟨place, .tail _ mem, by simp only [advance, polled, stands, Option.map_none]⟩

namespace Medium.Punctual

variable {alone : W → Prop} {places : (r : I.Request) → W → List (M.Flight r × W)}

theorem recorded (punctual : M.Punctual alone places) :
    M.recorded.Punctual (fun world => alone world.1) fun r world =>
      (places r world.1).map fun (flight, midway) => (flight, midway, world.2) where
  alone r world start := punctual.alone r world.1 start
  waits r world start := by
    have waits := punctual.waits r world.1 start
    have polled : M.recorded.poll r (M.recorded.launch r) world =
        match M.poll r (M.launch r) world.1 with
        | (.ready reply, after) => (.ready reply, after, world.2 ++ [⟨r, some reply⟩])
        | (.pending flight, after) => (.pending flight, after, world.2) := rfl
    rw [polled, perform_recorded]
    generalize M.poll r (M.launch r) world.1 = answer at waits ⊢
    generalize places r world.1 = stops at waits ⊢
    induction waits with
    | ready => exact .ready
    | pending rest ih => exact .pending ih

theorem carryOut (punctual : M.Punctual alone places) (op : Operation I σ α) (state : σ)
    (world : W) (start : alone world) (polls : Option Nat) :
    ((op.carryOut M polls state world).1.result? = some (op.run M state world).1 ∧
        (op.carryOut M polls state world).2 = (op.run M state world).2) ∨
      op.carryOut M polls state world = (.stopped, state, world) ∨
      ∃ query between flight midway, (query, between) ∈ (op state).queries M world ∧
        (flight, midway) ∈ places query.request between ∧
        op.carryOut M polls state world =
          (.stopped, query.state, M.drop query.request flight midway) := by
  cases polls with
  | none => exact .inl ⟨rfl, rfl⟩
  | some limit =>
    have waits : Job.Waits _ _ _ _ (Job.poll (Fiber.fresh state op : Fiber M σ α) world) :=
      punctual.advance (op state) start
    obtain ⟨polls, ended⟩ | ⟨place, mem, stands⟩ := Job.advance_waits waits limit
    · refine .inl ⟨?_, ?_⟩
      all_goals
        simp only [Operation.carryOut, Job.carryOut, Job.attempt, ended]
        rfl
    · have stopped : op.carryOut M (some limit) state world =
          (.stopped, place.1.state, Job.drop place.1 place.2) := by
        simp only [Operation.carryOut, Job.carryOut, Job.attempt, stands]
        rfl
      obtain rfl | mem := List.mem_cons.1 mem
      · exact .inr (.inl stopped)
      · obtain ⟨⟨query, between⟩, asked, here⟩ := List.mem_flatMap.1 mem
        obtain ⟨⟨flight, midway⟩, found, rfl⟩ := List.mem_map.1 here
        exact .inr (.inr ⟨query, between, flight, midway, asked, found, stopped⟩)

theorem requests_carryOut (punctual : M.Punctual alone places) (op : Operation I σ α) (state : σ)
    {world : W} (start : alone world) (polls : Option Nat) :
    (op.carryOut M.recorded polls state (world, [])).2.2.2.requests <+:
      ((op state).queries M world).map (·.1.request) := by
  obtain ⟨-, left⟩ | stopped | ⟨query, between, flight, midway, asked, here, stopped⟩ :=
    punctual.recorded.carryOut op state (world, []) start polls
  · have whole := (op state).requests_run (M := M) (world, [])
    rw [left]
    change ((op state).run M.recorded (world, [])).2.2.2.requests <+: _
    rw [whole]
    exact List.prefix_refl _
  · rw [stopped]
    exact List.nil_prefix
  · obtain ⟨⟨flight', midway'⟩, -, eq⟩ := List.mem_map.1 here
    cases eq
    have before := Progress.requests_queries asked
    rw [stopped]
    simpa [Medium.recorded, Record.requests] using before

theorem along_carryOut (punctual : M.Punctual alone places)
    {lawful : (r : I.Request) → I.Reply r → Prop} {holds : σ → Record I → Prop}
    {ends : α → σ → Record I → Prop} (laws : ∀ r world, lawful r (M.perform r world).1)
    {op : Operation I σ α} {state : σ} (along : (op state).Along lawful holds ends [])
    (initially : holds state []) {world : W} (start : alone world) (polls : Option Nat) :
    let came := op.carryOut M.recorded polls state (world, [])
    (∃ value, came.1.result? = some value ∧ ends value came.2.1 came.2.2.2) ∨
      came.1 = .stopped ∧ holds came.2.1 came.2.2.2 := by
  intro came
  obtain ⟨result, left⟩ | stopped | ⟨query, between, flight, midway, asked, here, stopped⟩ :=
    punctual.recorded.carryOut op state (world, []) start polls
  · refine .inl ⟨_, result, ?_⟩
    have ended := Progress.Along.run laws (world, []) along
    change ends _ (op.carryOut M.recorded polls state (world, [])).2.1
      (op.carryOut M.recorded polls state (world, [])).2.2.2
    rw [left]
    exact ended
  · refine .inr ?_
    change (op.carryOut M.recorded polls state (world, [])).1 = _ ∧ holds
      (op.carryOut M.recorded polls state (world, [])).2.1
      (op.carryOut M.recorded polls state (world, [])).2.2.2
    rw [stopped]
    exact ⟨rfl, initially⟩
  · obtain ⟨⟨flight', midway'⟩, -, eq⟩ := List.mem_map.1 here
    cases eq
    refine .inr ?_
    change (op.carryOut M.recorded polls state (world, [])).1 = _ ∧ holds
      (op.carryOut M.recorded polls state (world, [])).2.1
      (op.carryOut M.recorded polls state (world, [])).2.2.2
    have held := along.queries laws asked
    rw [stopped]
    exact ⟨rfl, held⟩

end Medium.Punctual

end SensorBus
