import SensorBus.Job.Fiber
import SensorBus.Job.Slot
import SensorBus.Proofs.Job.Requests

/-!
Stepping an operation that has its world to itself, against carrying it out in one go. The requests
are the same ones, in the same worlds; stepping only stands still in between, as often as the single
requests are suspended.
-/

namespace SensorBus

variable {I : Interface} {F W σ α : Type}

/-- A poll came to this, and the polls after it find the job at these places, until it ends with the
value. -/
inductive Job.Waits [Job F W α] (value : α) (spent : F) (after : W) :
    List (F × W) → Option α × F × W → Prop
  | ends : Waits value spent after [] (some value, spent, after)
  | suspended {job : F} {world : W} {places : List (F × W)}
      (rest : Waits value spent after places (Job.poll job world)) :
      Waits value spent after ((job, world) :: places) (none, job, world)

namespace Slot

variable [Job F W α]

def resumes : Nat → Slot F → W → List (Resume α × Bool) × Slot F × W
  | 0, slot, world => ([], slot, world)
  | count + 1, slot, world =>
    let (answer, slot, world) := slot.resume world
    let (answers, last, world) := resumes count slot world
    ((answer, slot.isRunning) :: answers, last, world)

theorem resumes_add (m n : Nat) (slot : Slot F) (world : W) :
    slot.resumes (m + n) world =
      ((slot.resumes m world).1 ++
          ((slot.resumes m world).2.1.resumes n (slot.resumes m world).2.2).1,
        ((slot.resumes m world).2.1.resumes n (slot.resumes m world).2.2).2) := by
  induction m generalizing slot world with
  | zero =>
    rw [Nat.zero_add]
    rfl
  | succ m ih =>
    rw [Nat.succ_add]
    simp only [resumes, ih]
    rfl

theorem resumes_one (slot : Slot F) (world : W) :
    slot.resumes 1 world =
      ([((slot.resume world).1, (slot.resume world).2.1.isRunning)], (slot.resume world).2) := rfl

theorem resumes_none (count : Nat) (world : W) :
    Slot.resumes count (none : Slot F) world =
      (List.replicate count (.idle, false), none, world) := by
  induction count with
  | zero => rfl
  | succ count ih =>
    simp only [resumes, resume, ih]
    rfl

theorem resume_suspended {job job' : F} {world world' : W}
    (polled : Job.poll job world = (none, job', world')) :
    Slot.resume (some job) world = (.running, some job', world') := by
  simp only [resume, polled]

theorem resume_ended {job spent : F} {world after : W} {value : α}
    (polled : Job.poll job world = (some value, spent, after)) :
    Slot.resume (some job) world = (.finished value, none, Job.drop spent after) := by
  simp only [resume, polled]

theorem resumes_waits {value : α} {spent : F} {after : W} {job : F} {world : W}
    {places : List (F × W)} (waits : Job.Waits value spent after places (Job.poll job world))
    {k : Nat} {place : F × W} (here : ((job, world) :: places)[k]? = some place) :
    Slot.resumes k (some job) world =
        (List.replicate k (.running, true), some place.1, place.2) ∧
      Job.Waits value spent after (places.drop k) (Job.poll place.1 place.2) := by
  induction k generalizing job world places with
  | zero =>
    cases here
    exact ⟨rfl, waits⟩
  | succ k ih =>
    generalize polled : Job.poll job world = answer at waits
    cases waits with
    | ends => simp at here
    | @suspended job' world' places rest =>
      obtain ⟨resumed, waits⟩ := ih rest here
      refine ⟨?_, waits⟩
      rw [resumes, resume_suspended polled]
      simp only [resumed]
      rfl

theorem resumes_places {value : α} {spent : F} {after : W} {job : F} {world : W}
    {places : List (F × W)} (waits : Job.Waits value spent after places (Job.poll job world)) :
    ∃ last midway, Slot.resumes places.length (some job) world =
        (List.replicate places.length (.running, true), some last, midway) ∧
      Job.poll last midway = (some value, spent, after) := by
  obtain ⟨⟨last, midway⟩, here⟩ :
      ∃ place, ((job, world) :: places)[places.length]? = some place :=
    ⟨_, List.getElem?_eq_getElem (Nat.lt_succ_self _)⟩
  obtain ⟨resumed, waits⟩ := resumes_waits waits here
  refine ⟨last, midway, resumed, ?_⟩
  rw [List.drop_length] at waits
  generalize Job.poll last midway = answer at waits
  cases waits with
  | ends => rfl

theorem resumes_ended {value : α} {spent : F} {after : W} {job : F} {world : W}
    {places : List (F × W)} (waits : Job.Waits value spent after places (Job.poll job world))
    (more : Nat) :
    Slot.resumes (places.length + (1 + more)) (some job) world =
      (List.replicate places.length (.running, true) ++
          (.finished value, false) :: List.replicate more (.idle, false),
        none, Job.drop spent after) := by
  obtain ⟨last, midway, resumed, polled⟩ := resumes_places waits
  rw [resumes_add, resumed, resumes_add, resumes_one, resume_ended polled, resumes_none]
  rfl

theorem le_of_running {value : α} {spent : F} {after : W} {job : F} {world : W}
    {places : List (F × W)} (waits : Job.Waits value spent after places (Job.poll job world))
    {k : Nat} (running : (Slot.resumes k (some job) world).2.1.isRunning = true) :
    k ≤ places.length := by
  refine Nat.le_of_not_lt fun late => ?_
  obtain ⟨more, rfl⟩ := Nat.exists_eq_add_of_lt late
  rw [Nat.add_assoc, Nat.add_comm more, resumes_ended waits more] at running
  cases running

end Slot

structure Query (I : Interface) (σ α : Type) where
  state : σ
  request : I.Request
  next : I.Reply request → Progress I σ α

variable {M : Medium I W}

def Query.fiber (query : Query I σ α) (flight : M.Flight query.request) : Fiber M σ α :=
  .asking query.state query.request flight query.next

def Progress.queries (M : Medium I W) : Progress I σ α → W → List (Query I σ α × W)
  | .done .., _ => []
  | .ask state r next, world =>
    let (reply, after) := M.perform r world
    (⟨state, r, next⟩, world) :: (next reply).queries M after

def Progress.calls (M : Medium I W) (count : I.Request → W → Nat) : Progress I σ α → W → Nat
  | .done .., _ => 0
  | .ask _ r next, world =>
    let (reply, after) := M.perform r world
    count r world + (next reply).calls M count after

inductive Medium.Waits (M : Medium I W) (r : I.Request) (reply : I.Reply r) (after : W) :
    List (M.Flight r × W) → Poll (M.Flight r) (I.Reply r) × W → Prop
  | ready : Waits M r reply after [] (.ready reply, after)
  | pending {flight : M.Flight r} {world : W} {places : List (M.Flight r × W)}
      (rest : Waits M r reply after places (M.poll r flight world)) :
      Waits M r reply after ((flight, world) :: places) (.pending flight, world)

def Medium.countdown (M : Medium I W) (r : I.Request) (flight : Nat → M.Flight r) (world : W)
    (count : Nat) : List (M.Flight r × W) :=
  (List.range count).reverse.map fun left => (flight left, world)

section

variable {r : I.Request} {flight : Nat → M.Flight r} {world : W}

theorem Medium.length_countdown (count : Nat) :
    (M.countdown r flight world count).length = count := by
  simp [countdown]

theorem Medium.countdown_succ (count : Nat) :
    M.countdown r flight world (count + 1) =
      (flight count, world) :: M.countdown r flight world count := by
  simp [countdown, List.range_succ]

theorem Medium.Waits.countdown {reply : I.Reply r} {after : W} {later : List (M.Flight r × W)}
    (last : M.Waits r reply after later (M.poll r (flight 0) world))
    (step : ∀ left, M.poll r (flight (left + 1)) world = (.pending (flight left), world))
    (left : Nat) :
    M.Waits r reply after (M.countdown r flight world (left + 1) ++ later)
      (.pending (flight left), world) := by
  induction left with
  | zero => exact .pending last
  | succ left ih =>
    rw [Medium.countdown_succ]
    rw [← step left] at ih
    exact .pending ih

theorem Medium.Waits.countdown_ready {reply : I.Reply r} {after : W}
    (last : M.poll r (flight 0) world = (.ready reply, after))
    (step : ∀ left, M.poll r (flight (left + 1)) world = (.pending (flight left), world))
    (left : Nat) :
    M.Waits r reply after (M.countdown r flight world (left + 1))
      (.pending (flight left), world) := by
  have answered : M.Waits r reply after [] (M.poll r (flight 0) world) := by
    rw [last]
    exact .ready
  have waits := answered.countdown step left
  rwa [List.append_nil] at waits

end

/-- A request that finds the world as `alone` says is suspended at just these places, and comes to
what performing it at once comes to. -/
structure Medium.Punctual (M : Medium I W) (alone : W → Prop)
    (places : (r : I.Request) → W → List (M.Flight r × W)) : Prop where
  waits : ∀ (r : I.Request) (world : W), alone world →
    M.Waits r (M.perform r world).1 (M.perform r world).2 (places r world)
      (M.poll r (M.launch r) world)
  alone : ∀ (r : I.Request) (world : W), alone world → alone (M.perform r world).2

namespace Fiber

def goOn (query : Query I σ α) :
    Poll (M.Flight query.request) (I.Reply query.request) × W → Option α × Fiber M σ α × W
  | (.ready reply, world) => (query.next reply).advance M world
  | (.pending flight, world) => (none, query.fiber flight, world)

theorem advance_ask (state : σ) (r : I.Request) (next : I.Reply r → Progress I σ α) (world : W) :
    (Progress.ask state r next).advance M world =
      goOn ⟨state, r, next⟩ (M.poll r (M.launch r) world) := by
  rcases polled : M.poll r (M.launch r) world with ⟨reply | flight, after⟩ <;>
    simp only [Progress.advance, polled, goOn, Query.fiber]

theorem poll_fiber (query : Query I σ α) (flight : M.Flight query.request) (world : W) :
    Job.poll (query.fiber flight) world = goOn query (M.poll query.request flight world) := by
  change (query.fiber flight).poll world = _
  rcases polled : M.poll query.request flight world with ⟨reply | flight', after⟩ <;>
    simp only [poll, polled, goOn, Query.fiber]

theorem goOn_waits (query : Query I σ α) {reply : I.Reply query.request} {between after : W}
    {value : α} {spent : Fiber M σ α} {places : List (M.Flight query.request × W)}
    {later : List (Fiber M σ α × W)}
    {answer : Poll (M.Flight query.request) (I.Reply query.request) × W}
    (waits : M.Waits query.request reply between places answer)
    (rest : Job.Waits value spent after later ((query.next reply).advance M between)) :
    Job.Waits value spent after
      (places.map (fun (flight, world) => (query.fiber flight, world)) ++ later)
      (goOn query answer) := by
  induction waits with
  | ready => exact rest
  | @pending flight world places polled ih =>
    rw [← poll_fiber] at ih
    exact .suspended ih

end Fiber

def Progress.suspensions (M : Medium I W) (places : (r : I.Request) → W → List (M.Flight r × W))
    (p : Progress I σ α) (world : W) : List (Fiber M σ α × W) :=
  (p.queries M world).flatMap fun (query, world) =>
    (places query.request world).map fun (flight, world) => (query.fiber flight, world)

namespace Medium.Punctual

variable {alone : W → Prop} {places : (r : I.Request) → W → List (M.Flight r × W)}

theorem advance (punctual : M.Punctual alone places) (p : Progress I σ α) {world : W}
    (start : alone world) :
    Job.Waits (p.run M world).1 (.spent (p.run M world).2.1) (p.run M world).2.2
      (p.suspensions M places world) (p.advance M world) := by
  induction p generalizing world with
  | done state value => exact .ends
  | ask state r next ih =>
    have rest := ih (M.perform r world).1 (punctual.alone r world start)
    rw [Fiber.advance_ask]
    exact Fiber.goOn_waits ⟨state, r, next⟩ (punctual.waits r world start) rest

theorem alone_of_mem (punctual : M.Punctual alone places) {p : Progress I σ α} {world : W}
    (start : alone world) {query : Query I σ α} {between : W}
    (mem : (query, between) ∈ p.queries M world) : alone between := by
  induction p generalizing world with
  | done state value => cases mem
  | ask state r next ih =>
    obtain eq | mem := List.mem_cons.1 mem
    · cases eq
      exact start
    · exact ih _ (punctual.alone r world start) mem

theorem length_suspensions (punctual : M.Punctual alone places) (p : Progress I σ α) {world : W}
    (start : alone world) {yields : Nat} {count : I.Request → W → Nat}
    (each : ∀ r world, alone world → (places r world).length = yields * count r world) :
    (p.suspensions M places world).length = yields * p.calls M count world := by
  induction p generalizing world with
  | done state value => rfl
  | ask state r next ih =>
    have rest := ih (M.perform r world).1 (punctual.alone r world start)
    simp only [Progress.suspensions, Progress.calls, Progress.queries, List.flatMap_cons,
      List.length_append, List.length_map, each r world start, Nat.mul_add] at rest ⊢
    rw [rest]

end Medium.Punctual

/-- Stepped in a slot, the operation is suspended so many times, with the slot running after each
resume. The next resume ends it with the value, and leaves this private state and this world; the
one after that finds the slot empty. -/
structure Operation.Steps (M : Medium I W) (op : Operation I σ α) (state : σ) (world : W)
    (count : Nat) (value : α) (driver : σ) (after : W) : Prop where
  suspended : ∃ (last : Fiber M σ α) (midway : W),
    Slot.resumes count (some (.fresh state op : Fiber M σ α)) world =
        (List.replicate count (.running, true), some last, midway) ∧
      Job.poll last midway = (some value, .spent driver, after)
  ended : Slot.resumes (count + 2) (some (.fresh state op : Fiber M σ α)) world =
    (List.replicate count (.running, true) ++ [(.finished value, false), (.idle, false)],
      none, after)

theorem Medium.Punctual.steps {alone : W → Prop}
    {places : (r : I.Request) → W → List (M.Flight r × W)} (punctual : M.Punctual alone places)
    (op : Operation I σ α) (state : σ) {world : W} (start : alone world) :
    op.Steps M state world ((op state).suspensions M places world).length
      (op.run M state world).1 (op.run M state world).2.1 (op.run M state world).2.2 := by
  have waits : Job.Waits _ _ _ _ (Job.poll (Fiber.fresh state op : Fiber M σ α) world) :=
    punctual.advance (op state) start
  exact ⟨Slot.resumes_places waits, Slot.resumes_ended waits 1⟩

theorem block_of_getElem? {α β γ : Type} {block : α → List β} {has : α → Option γ} {size : Nat}
    {l : List α} (each : ∀ x ∈ l, (block x).length = if (has x).isSome then size else 0) {k : Nat}
    {b : β} (here : (l.flatMap block)[k]? = some b) :
    ∃ x ∈ l, ∃ c, has x = some c ∧ b ∈ block x ∧ (l.filterMap has)[k / size]? = some c := by
  induction l generalizing k with
  | nil => cases here
  | cons x l ih =>
    have length := each x List.mem_cons_self
    rw [List.flatMap_cons] at here
    cases found : has x with
    | none =>
      rw [found] at length
      rw [List.eq_nil_of_length_eq_zero length, List.nil_append] at here
      obtain ⟨x', mem, c, own, at_b, index⟩ := ih (fun x mem => each x (.tail _ mem)) here
      refine ⟨x', .tail _ mem, c, own, at_b, ?_⟩
      rwa [List.filterMap_cons_none found]
    | some c =>
      replace length : (block x).length = size := by simpa [found] using length
      rw [List.filterMap_cons_some found]
      -- The place is in the first block, or one block further on than in the rest.
      by_cases inside : k < size
      · rw [List.getElem?_append_left (length ▸ inside)] at here
        refine ⟨x, List.mem_cons_self, c, found, List.mem_of_getElem? here, ?_⟩
        rw [Nat.div_eq_of_lt inside]
        rfl
      · have le : size ≤ k := Nat.le_of_not_lt inside
        rw [List.getElem?_append_right (length ▸ le), length] at here
        obtain ⟨x', mem, c', own, at_b, index⟩ := ih (fun x mem => each x (.tail _ mem)) here
        refine ⟨x', .tail _ mem, c', own, at_b, ?_⟩
        have pos : 0 < size := by
          have same : (block x').length = size := by simpa [own] using each x' (.tail _ mem)
          exact same ▸ List.length_pos_of_mem at_b
        rw [Nat.div_eq_sub_div pos le]
        exact index

theorem Progress.Asks.queries {kind : I.Request → Prop} {p : Progress I σ α} (asks : p.Asks kind)
    {world : W} {place : Query I σ α × W} (mem : place ∈ p.queries M world) :
    kind place.1.request := by
  induction p generalizing world with
  | done state value => cases mem
  | ask state r next ih =>
    obtain rfl | mem := List.mem_cons.1 mem
    · exact asks.1
    · exact ih _ (asks.2 _) mem

theorem Medium.Punctual.stands {alone : W → Prop}
    {places : (r : I.Request) → W → List (M.Flight r × W)} (punctual : M.Punctual alone places)
    (op : Operation I σ α) (state : σ) {world : W} (start : alone world) {k : Nat}
    (running : (Slot.resumes (k + 1) (some (.fresh state op : Fiber M σ α))
      world).2.1.isRunning = true) :
    ∃ fiber midway, ((op state).suspensions M places world)[k]? = some (fiber, midway) ∧
      Slot.resumes (k + 1) (some (.fresh state op)) world =
        (List.replicate (k + 1) (.running, true), some fiber, midway) := by
  have waits : Job.Waits _ _ _ _ (Job.poll (Fiber.fresh state op : Fiber M σ α) world) :=
    punctual.advance (op state) start
  have here := List.getElem?_eq_getElem (Slot.le_of_running waits running)
  exact ⟨_, _, here, (Slot.resumes_waits (k := k + 1) waits here).1⟩

end SensorBus
