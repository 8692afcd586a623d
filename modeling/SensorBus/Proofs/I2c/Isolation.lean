import SensorBus.Proofs.I2c.Meeting
import SensorBus.Proofs.I2c.Program

namespace SensorBus.I2c

variable {σ α : Type}

/-- What a computation comes to whose transactions all meet the same target, one after the other. -/
def converse : Progress interface σ α → Option Target → α × Option Target
  | .done _ value, target? => (value, target?)
  | .ask _ (.transact _ t) next, target? =>
    converse (next (t.meet target?).1) (t.meet target?).2
  | .ask _ (.delay _) next, target? => converse (next ()) target?

abbrev Device.Private (device : Device) : interface.Request → Prop :=
  device.Own fun t => t.address = device.address

theorem run_converses {device : Device} (p : Progress interface σ α)
    (asks : p.Asks device.Private) (shared : SharedBus)
    (faultless : shared.master.bus.Faultless) :
    ((p.run SharedBus.medium shared).1,
        (p.run SharedBus.medium shared).2.2.master.bus.target? device.address.raw) =
      converse p (shared.master.bus.target? device.address.raw) := by
  induction p generalizing shared with
  | done state value => rfl
  | ask state r next ih =>
    cases r with
    | delay => exact asks.1.elim
    | transact timing t =>
      rcases ran : shared.master.run timing t with ⟨outcome, master⟩
      obtain ⟨replied, met⟩ : outcome = (t.meet (shared.master.bus.target? t.address.raw)).1 ∧
          shared.master.bus.Met t master.bus := by
        have meets := shared.master.run_meets faultless timing t
        rwa [ran] at meets
      have own : t.address = device.address := asks.1.2
      -- Of what the transaction leaves behind, the rest of the computation meets this target only.
      have target := met.target?_self
      rw [own] at replied target
      have step : (Progress.ask (I := interface) state (.transact timing t) next).run
          SharedBus.medium shared =
            (next outcome).run SharedBus.medium { master, locked := false } := by
        simp only [Progress.run, Medium.perform, SharedBus.medium, Turn.finish, ran]
      rw [step, ih outcome (asks.2 outcome) { master, locked := false } met.faultless, target,
        replied]
      rfl

inductive BusMember.Heads (device : Device) (target? : Option Target) (result : α × Option Target) :
    BusMember σ α → Prop
  | fresh {state : σ} {op : Operation interface σ α} (asks : (op state).Asks device.Private)
      (heads : converse (op state) target? = result) :
      Heads device target? result (.live (.fresh state op))
  | asking {state : σ} {r : Request} {flight : SharedBus.Flight r}
      {next : interface.Reply r → Progress interface σ α} (carried : InFlight r flight)
      (asks : (Progress.ask state r next).Asks device.Private)
      (heads : converse (.ask state r next) target? = result) :
      Heads device target? result (.live (.asking state r flight next))
  | ended {fiber : BusFiber σ α} {value : α} (reached : (value, target?) = result) :
      Heads device target? result (.ended fiber value)
  | dropped {fiber : BusFiber σ α} : Heads device target? result (.dropped fiber)

theorem BusMember.Heads.stands {device : Device} {target? : Option Target}
    {result : α × Option Target} {fiber : BusFiber σ α} {state : σ} {r : Request}
    {flight : SharedBus.Flight r} {next : interface.Reply r → Progress interface σ α}
    (heads : BusMember.Heads device target? result (.live fiber))
    (stands : Fiber.StandsAt fiber state r flight next) :
    InFlight r flight ∧ (Progress.ask state r next).Asks device.Private ∧
      converse (.ask state r next) target? = result := by
  cases stands with
  | launched h =>
    cases heads with
    | fresh asks heads =>
      rw [h] at asks heads
      cases r with
      | transact => exact ⟨.waiting, asks, heads⟩
      | delay => exact asks.1.elim
  | asking =>
    cases heads with
    | asking carried asks heads => exact ⟨carried, asks, heads⟩

structure BusPool.Isolated (programs : List (Device × Program α)) (origin : Bus)
    (pool : BusPool Unit α) : Prop where
  faultless : pool.world.master.bus.Faultless
  heads : ∀ (i : Nat) (member : BusMember Unit α), pool.members[i]? = some member →
    ∃ (device : Device) (program : Program α), programs[i]? = some (device, program) ∧
      BusMember.Heads device (pool.world.master.bus.target? device.address.raw)
        (converse (program.operation device ()) (origin.target? device.address.raw)) member

/-- Between the polls only the number of suspensions to come may change. -/
def SharedBus.setYields (yields : Nat) (shared : SharedBus) : SharedBus :=
  { shared with
    master := { shared.master with bus := { shared.master.bus with yields } } }

theorem BusFiber.drop_same (fiber : BusFiber σ α) (shared : SharedBus) :
    (fiber.drop shared).master.bus.targets = shared.master.bus.targets ∧
      (fiber.drop shared).master.bus.faults = shared.master.bus.faults := by
  cases fiber with
  | fresh | spent => exact ⟨rfl, rfl⟩
  | asking state r flight next =>
    cases r with
    | delay => exact ⟨rfl, rfl⟩
    | transact =>
      cases (flight : Turn) with
      | waiting => exact ⟨rfl, rfl⟩
      | holding exchange =>
        have same := shared.master.abandon_eq exchange
        exact ⟨congrArg (·.bus.targets) same, congrArg (·.bus.faults) same⟩

theorem Address.eq_of_raw_eq {first second : Address} (raw : first.raw = second.raw) :
    first = second := by
  cases first
  cases second
  cases raw
  rfl

theorem raw_ne_of_distinct {programs : List (Device × Program α)}
    (distinct : (programs.map fun entry => entry.1.address).Nodup) {i j : Nat}
    {first second : Device} {program program' : Program α}
    (at_i : programs[i]? = some (first, program))
    (at_j : programs[j]? = some (second, program')) (ne : i ≠ j) :
    first.address.raw ≠ second.address.raw := by
  have ne := ne_of_distinct distinct at_i at_j ne
  exact fun raw => ne (Address.eq_of_raw_eq raw)

namespace BusPool.Isolated

variable {programs : List (Device × Program α)} {origin : Bus}
  {members : List (BusMember Unit α)} {shared shared' : SharedBus} {i : Nat}

theorem goes (isolated : BusPool.Isolated programs origin ⟨members, shared⟩)
    (distinct : (programs.map fun entry => entry.1.address).Nodup) {device : Device}
    {program : Program α} (at_i : programs[i]? = some (device, program))
    {member' : BusMember Unit α} (faultless : shared'.master.bus.Faultless)
    (frame : ∀ raw, device.address.raw ≠ raw →
      shared'.master.bus.target? raw = shared.master.bus.target? raw)
    (heads : BusMember.Heads device (shared'.master.bus.target? device.address.raw)
      (converse (program.operation device ()) (origin.target? device.address.raw)) member') :
    BusPool.Isolated programs origin ⟨members.set i member', shared'⟩ where
  faultless := faultless
  heads j member at_j := by
    by_cases eq : i = j
    · subst eq
      rw [List.getElem?_set, if_pos rfl] at at_j
      split at at_j
      · cases at_j
        exact ⟨device, program, at_i, heads⟩
      · cases at_j
    · rw [List.getElem?_set_ne eq] at at_j
      obtain ⟨other, otherProgram, at_other, heads⟩ := isolated.heads j member at_j
      refine ⟨other, otherProgram, at_other, ?_⟩
      rw [frame _ (raw_ne_of_distinct distinct at_i at_other eq)]
      exact heads

theorem move (distinct : (programs.map fun entry => entry.1.address).Nodup)
    {i : Nat} {p q : BusPool Unit α} (moved : Pool.Move i p q)
    (isolated : BusPool.Isolated programs origin p) : BusPool.Isolated programs origin q := by
  cases moved with
  | @reply members shared shared' fiber state r flight next reply live stands polled =>
    obtain ⟨device, program, at_i, heads⟩ := isolated.heads i _ live
    obtain ⟨carried, asks, heads⟩ := heads.stands stands
    cases r with
    | delay => exact asks.1.elim
    | transact timing t =>
      have own : t.address = device.address := asks.1.2
      have serves := Turn.poll_serves carried isolated.faultless
      rw [show Turn.poll flight shared = _ from polled] at serves
      cases serves with
      | replies replied met =>
        refine isolated.goes distinct at_i met.faultless (fun raw ne => ?_)
          (.fresh (asks.2 _) ?_)
        · exact met.target?_of_ne (own ▸ ne)
        · rw [← heads, ← own, met.target?_self, replied]
          rfl
  | @suspend members shared shared' fiber state r flight flight' next live stands polled =>
    obtain ⟨device, program, at_i, heads⟩ := isolated.heads i _ live
    obtain ⟨carried, asks, heads⟩ := heads.stands stands
    cases r with
    | delay => exact asks.1.elim
    | transact timing t =>
      have serves := Turn.poll_serves carried isolated.faultless
      rw [show Turn.poll flight shared = _ from polled] at serves
      cases serves with
      | suspends carried same faultless =>
        refine isolated.goes distinct at_i faultless (fun raw _ => Bus.target?_congr same raw)
          (.asking carried asks ?_)
        rw [Bus.target?_congr same]
        exact heads
  | finish live done =>
    obtain ⟨device, program, at_i, heads⟩ := isolated.heads _ _ live
    cases heads with
    | fresh asks heads =>
      rw [done] at heads
      exact isolated.goes distinct at_i isolated.faultless (fun _ _ => rfl) (.ended heads)
  | @drop members shared fiber live =>
    obtain ⟨device, program, at_i, heads⟩ := isolated.heads i _ live
    obtain ⟨targets, faults⟩ := BusFiber.drop_same fiber shared
    refine isolated.goes distinct at_i ?_ (fun raw _ => Bus.target?_congr targets raw) .dropped
    intro fault mem
    rw [faults] at mem
    exact isolated.faultless fault mem

theorem acts (yields : Nat) (p : BusPool Unit α) (isolated : BusPool.Isolated programs origin p) :
    BusPool.Isolated programs origin { p with world := p.world.setYields yields } :=
  ⟨isolated.faultless, isolated.heads⟩

theorem launch (master : Master) (faultless : master.bus.Faultless)
    (own : ∀ device program, (device, program) ∈ programs →
      program.Lends fun t => t.address = device.address) :
    BusPool.Isolated programs master.bus (BusPool.launch master programs) where
  faultless := faultless
  heads i member at_i := by
    simp only [BusPool.launch, Pool.launch, List.map_map, List.getElem?_map,
      Option.map_eq_some_iff] at at_i
    obtain ⟨⟨device, program⟩, at_i, rfl⟩ := at_i
    have lends := own device program (List.mem_of_getElem? at_i)
    exact ⟨device, program, at_i, .fresh (program.operation_asks (fun _ h => h) lends ()) rfl⟩

end BusPool.Isolated

/-- A program that has ended ended with the value, and left the target, that it would have had and
left if it had been run by itself. -/
theorem BusPool.ends_as_if_alone (master : Master) (faultless : master.bus.Faultless)
    (programs : List (Device × Program α))
    (distinct : (programs.map fun entry => entry.1.address).Nodup)
    (own : ∀ device program, (device, program) ∈ programs →
      program.Lends fun t => t.address = device.address)
    (steps : List (Pool.Step Nat)) (i : Nat) (device : Device) (program : Program α)
    (at_i : programs[i]? = some (device, program)) (job : BusFiber Unit α) (value : α)
    (ended : ((BusPool.launch master programs).run SharedBus.setYields steps).members[i]? =
      some (.ended job value)) :
    (value, ((BusPool.launch master programs).run SharedBus.setYields
        steps).world.master.bus.target? device.address.raw) =
      (((program.operation device).run SharedBus.medium () { master }).1,
        ((program.operation device).run SharedBus.medium ()
          { master }).2.2.master.bus.target? device.address.raw) := by
  have isolated := Pool.run_keeps (BusPool.Isolated.move distinct) BusPool.Isolated.acts
    (BusPool.Isolated.launch master faultless own) steps
  obtain ⟨other, otherProgram, at_other, heads⟩ := isolated.heads i _ ended
  rw [at_i] at at_other
  cases at_other
  have lends := own device program (List.mem_of_getElem? at_i)
  have alone := run_converses (program.operation device ())
    (program.operation_asks (fun _ h => h) lends ()) { master } faultless
  cases heads with
  | ended reached => exact reached.trans alone.symm

def Program.readBack (register value : UInt8) : Program (Answer × Answer) :=
  .call (.writeRegister register value) none fun written =>
    .call (.readRegister register) none fun read => .result (written.1, read.1)

theorem Program.readBack_lends (kind : Transaction → Prop) (register value : UInt8) :
    (readBack register value).Lends kind :=
  ⟨fun _ _ run => (nomatch run), fun _ => ⟨fun _ _ run => (nomatch run), fun _ => trivial⟩⟩

-- Two handles with yields, of which one is dropped while it has the lock.

namespace TwoHandles

def master : Master :=
  { bus := { targets := (Vector.replicate 256 none).set 0x10 (some {}), yields := 1 } }

def device : Device := { address := ⟨0x10, by decide⟩ }

def other : Device := { address := ⟨0x20, by decide⟩ }

def programs : List (Device × Program (Answer × Answer)) :=
  [(device, .readBack 1 7), (other, .readBack 1 9)]

def pool : BusPool Unit (Answer × Answer) :=
  (BusPool.launch master programs).run SharedBus.setYields
    [.poll 0, .poll 1, .poll 0, .poll 1, .drop 1, .poll 0, .poll 0]

theorem lends (handle : Device) (program : Program (Answer × Answer))
    (mem : (handle, program) ∈ programs) : program.Lends fun t => t.address = handle.address := by
  obtain mem | mem := List.mem_cons.1 mem
  · cases mem
    exact Program.readBack_lends _ 1 7
  · cases List.mem_singleton.1 mem
    exact Program.readBack_lends _ 1 9

theorem first_ends_as_if_alone :
    pool.members[0]? = some (.ended (.spent ()) (.done (.ok ()), .byte (.ok 7))) ∧
      ((.done (.ok ()), .byte (.ok 7)), pool.world.master.bus.target? device.address.raw) =
        ((((Program.readBack 1 7).operation device).run SharedBus.medium () { master }).1,
          (((Program.readBack 1 7).operation device).run SharedBus.medium ()
            { master }).2.2.master.bus.target? device.address.raw) := by
  have faultless : master.bus.Faultless := fun _ mem => nomatch mem
  have distinct : (programs.map fun entry => entry.1.address).Nodup := by decide
  have ended : pool.members[0]? =
      some (.ended (.spent ()) (.done (.ok ()), .byte (.ok 7))) := rfl
  exact ⟨ended, BusPool.ends_as_if_alone master faultless programs distinct lends _ 0 device _ rfl
    _ _ ended⟩

end TwoHandles

end SensorBus.I2c
