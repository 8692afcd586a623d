import SensorBus.Proofs.I2c.Meeting
import SensorBus.Proofs.I2c.Stepping
import SensorBus.Proofs.Lis302dl.Bench
import SensorBus.Proofs.Lis3.OverI2c

namespace SensorBus.Lis302dl

open I2c

def controlsOf (target : Target) : Controls := fun control =>
  have lt := control.register.toNat_lt
  target.registers[control.register.toNat]

theorem store_controls (target : Target) (value : UInt8) :
    controlsOf (target.store value) = (controlsOf target).write target.pointer value := by
  funext control
  simp only [controlsOf, Target.store, Controls.write, Vector.getElem_set, eq_comm,
    UInt8.toNat_inj]

theorem readByte_controls {target : Target}
    (apart : ∀ control : Control, control.register ≠ target.pointer) :
    controlsOf target.readByte.2 = controlsOf target ∧
      target.readByte.2.pointer = target.pointer + 1 ∧ target.readByte.2.mask = target.mask := by
  simp only [Target.readByte]
  split
  · exact ⟨rfl, rfl, rfl⟩
  · refine ⟨funext fun control => ?_, rfl, rfl⟩
    have ne : target.pointer.toNat ≠ control.register.toNat := fun eq =>
      apart control (UInt8.toNat_inj.1 eq.symm)
    simp [controlsOf, ne]

theorem Apart.head {register : UInt8} {length : Nat} (apart : Apart register (length + 1))
    (control : Control) : control.register ≠ register := by
  have single : Apart register 1 := by
    unfold Apart at apart ⊢
    omega
  exact single.ne control

theorem Apart.tail {register : UInt8} {length : Nat} (apart : Apart register (length + 1)) :
    Apart (register + 1) length := by
  have next : (register + 1).toNat = register.toNat + 1 := by
    unfold Apart at apart
    rw [UInt8.toNat_add]
    exact Nat.mod_eq_of_lt (by change register.toNat + 1 < 256; omega)
  unfold Apart at apart ⊢
  omega

theorem read_controls {target : Target} {length : Nat} (apart : Apart target.pointer length) :
    controlsOf (target.read length).2 = controlsOf target ∧
      (target.read length).2.mask = target.mask := by
  induction length generalizing target with
  | zero => exact ⟨rfl, rfl⟩
  | succ length ih =>
    obtain ⟨same, pointer, mask⟩ := readByte_controls apart.head
    have rest := apart.tail
    rw [← pointer] at rest
    obtain ⟨same', mask'⟩ := ih rest
    exact ⟨same'.trans same, mask'.trans mask⟩

/-- On a device that masks its pointer the transaction leaves `stored` in the control registers if
it succeeds, and what was there before if it fails. -/
def Turns (t : Transaction) (controls stored : Controls) : Prop :=
  ∀ (target : Target) (fault : Option Fault), target.mask = 0x7F → controlsOf target = controls →
    let exchanged := target.exchange false fault t.sequence.segments
    exchanged.target.mask = 0x7F ∧
      (exchanged.result = .ok () ∧ controlsOf exchanged.target = stored ∨
        (∃ kind, exchanged.result = .error kind) ∧ controlsOf exchanged.target = controls)

theorem turns_of_one {t : Transaction} {segment : Segment} {controls : Controls}
    (segments : t.sequence.segments = [segment])
    (kept : ∀ target : Target, target.mask = 0x7F → controlsOf target = controls →
      (target.carry false segment).1.mask = 0x7F ∧
        controlsOf (target.carry false segment).1 = controls) : Turns t controls controls := by
  intro target fault mask held
  rw [segments]
  obtain ⟨kind, rfl⟩ | passes := Target.strikes_or_passes fault
  · rw [Target.exchange_cons_strikes]
    exact ⟨mask, .inr ⟨⟨kind, rfl⟩, held⟩⟩
  · rw [Target.exchange_cons_passes target false passes]
    obtain ⟨mask, held⟩ := kept target mask held
    exact ⟨mask, .inl ⟨rfl, held⟩⟩

theorem turns_of_two {t : Transaction} {register : UInt8} {segment : Segment}
    {controls stored : Controls} (segments : t.sequence.segments = [.write [register], segment])
    (carried : ∀ target : Target, target.mask = 0x7F → controlsOf target = controls →
      target.pointer = register &&& 0x7F →
      (target.carry true segment).1.mask = 0x7F ∧
        controlsOf (target.carry true segment).1 = stored) : Turns t controls stored := by
  intro target fault mask held
  rw [segments]
  obtain ⟨kind, rfl⟩ | passes := Target.strikes_or_passes fault
  · rw [Target.exchange_cons_strikes]
    exact ⟨mask, .inr ⟨⟨kind, rfl⟩, held⟩⟩
  · rw [Target.exchange_cons_passes target false passes]
    -- The register byte only moves the pointer, so a fault behind it leaves the registers alone.
    have selected : target.carry false (.write [register]) = (target.select register, true, []) :=
      rfl
    simp only [selected]
    generalize fault.map _ = fault
    obtain ⟨kind, rfl⟩ | passes := Target.strikes_or_passes fault
    · rw [Target.exchange_cons_strikes]
      exact ⟨mask, .inr ⟨⟨kind, rfl⟩, held⟩⟩
    · rw [Target.exchange_cons_passes _ true passes]
      have pointer : (target.select register).pointer = register &&& 0x7F := by
        rw [← mask]
        rfl
      obtain ⟨mask, held⟩ := carried (target.select register) mask held pointer
      exact ⟨mask, .inl ⟨rfl, held⟩⟩

def face (device : Device) (master : Master) : Option (UInt8 × Controls) :=
  (master.bus.target? device.address.raw).map fun target => (target.mask, controlsOf target)

def Shows (device : Device) (master : Master) (controls : Controls) : Prop :=
  face device master = some (0x7F, controls)

section

variable {device : Device} {master after : Master} {controls stored : Controls} {t : Transaction}

theorem Shows.of_same (shows : Shows device master controls)
    (same : after.bus.targets = master.bus.targets) : Shows device after controls := by
  unfold Shows face at shows ⊢
  rwa [Bus.target?_congr same]

theorem shows_setTarget {bus : Bus} {target : Target} {events : List Event}
    {applied : Option Timing} {lastError : Option ErrorKind} (mask : target.mask = 0x7F) :
    Shows device ⟨(bus.setTarget device.address.raw (some target)).note events, applied, lastError⟩
      (controlsOf target) := by
  have found : ((bus.setTarget device.address.raw (some target)).note events).target?
      device.address.raw = some target :=
    bus.target?_setTarget_self device.address.raw (some target)
  simp [Shows, face, found, mask]

inductive CameOut (device : Device) (controls stored : Controls) : Outcome → Master → Prop
  | well {t : Transaction} {master : Master} (shows : Shows device master stored) :
      CameOut device controls stored (.ok (), t) master
  | ill {error : Error} {t : Transaction} {master : Master} (shows : Shows device master controls) :
      CameOut device controls stored (.error error, t) master

theorem complete_cameOut (address : t.address = device.address) (turns : Turns t controls stored)
    (shows : Shows device master controls) :
    CameOut device controls stored (master.complete t).1 (master.complete t).2 := by
  obtain ⟨target, present, eq⟩ := Option.map_eq_some_iff.1 shows
  obtain ⟨mask, held⟩ := Prod.mk.inj eq
  rw [← address] at present
  obtain ⟨kind, strikes⟩ | passes := Target.strikes_or_passes master.bus.faults.head?.join
  · rw [master.complete_error t (Bus.transfer_strikes strikes t.address t.sequence.segments)]
    exact .ill (shows.of_same rfl)
  · have transferred := Bus.transfer_present passes present t.sequence.segments
    obtain ⟨mask, turned⟩ := turns target master.bus.faults.head?.join mask held
    obtain ⟨ok, rfl⟩ | ⟨⟨kind, error⟩, rfl⟩ := turned
    · simp only [ok] at transferred
      rw [master.complete_ok t transferred, Bus.note_note, address]
      exact .well (shows_setTarget mask)
    · simp only [error] at transferred
      rw [master.complete_error t transferred, Bus.note_note, address]
      exact .ill (shows_setTarget mask)

theorem attached_cameOut (address : t.address = device.address) (turns : Turns t controls stored)
    (shows : Shows device master controls) :
    CameOut device controls stored (master.complete t.attached).1
      (master.complete t.attached).2 :=
  complete_cameOut address turns shows

theorem opened_cameOut (address : t.address = device.address) (turns : Turns t controls stored)
    (shows : Shows device master controls) (timing : Option Timing) :
    CameOut device controls stored ((master.opened timing t).complete t.attached).1
      ((master.opened timing t).complete t.attached).2 :=
  attached_cameOut address turns (shows.of_same (master.opened_targets timing t))

inductive Goes (device : Device) (controls stored : Controls) :
    Poll Turn Outcome × SharedBus → Prop
  | suspended {turn : Turn} {after : SharedBus} (shows : Shows device after.master controls) :
      Goes device controls stored (.pending turn, after)
  | ended {outcome : Outcome} {after : SharedBus}
      (cameOut : CameOut device controls stored outcome after.master) :
      Goes device controls stored (.ready outcome, after)

variable {shared : SharedBus} {timing : Option Timing} {turn : Turn}

theorem poll_goes (carried : InFlight (.transact timing t) turn)
    (address : t.address = device.address) (turns : Turns t controls stored)
    (shows : Shows device shared.master controls) :
    Goes device controls stored (turn.poll shared) := by
  cases carried with
  | waiting =>
    have waited := Turn.poll_waiting shared timing t
    generalize (Turn.waiting timing t).poll shared = polled at waited ⊢
    cases waited with
    | held locked => exact .suspended shows
    | refused free refused => exact .ended (.ill (shows.of_same rfl))
    | through free accepted => exact .ended (opened_cameOut address turns shows timing)
    | begun free accepted left =>
      exact .suspended (shows.of_same (shared.master.opened_targets timing t))
  | @holding _ _ left accepted =>
    cases left with
    | zero => exact .ended (attached_cameOut address turns shows)
    | succ left => exact .suspended shows

theorem finish_cameOut (carried : InFlight (.transact timing t) turn)
    (address : t.address = device.address) (turns : Turns t controls stored)
    (shows : Shows device shared.master controls) :
    CameOut device controls stored (turn.finish shared).1 (turn.finish shared).2.master := by
  cases carried with
  | waiting =>
    change CameOut device controls stored (shared.master.run timing t).1
      (shared.master.run timing t).2
    cases accepted : t.attach.1 with
    | false =>
      rw [Master.run_refused _ timing t accepted]
      exact .ill (shows.of_same rfl)
    | true =>
      rw [Master.run_accepted _ timing t accepted]
      exact opened_cameOut address turns shows timing
  | holding accepted => exact attached_cameOut address turns shows

theorem drop_shows (turn : Turn) (shows : Shows device shared.master controls) :
    Shows device (turn.drop shared).master controls := by
  cases turn with
  | waiting => exact shows
  | holding exchange =>
    have same := shared.master.abandon_eq exchange
    exact shows.of_same (congrArg (·.bus.targets) same)

end

section

variable {t : Transaction} {controls : Controls} {register : UInt8}

theorem turns_probe (body : t.body = .write [] []) : Turns t controls controls := by
  have segments : t.sequence.segments = [.write []] := by
    rw [Transaction.sequence, body]
    rfl
  exact turns_of_one segments fun _ mask held => ⟨mask, held⟩

theorem turns_read {buffer : List UInt8}
    (body : t.body = .writeRead [Lis3.OverI2c.registerByte register buffer.length] buffer)
    (pos : 0 < buffer.length) (apart : Apart register buffer.length) :
    Turns t controls controls := by
  have low : register < 0x80 := by
    unfold Apart at apart
    exact UInt8.lt_iff_toNat_lt.2 (by change register.toNat < 128; omega)
  have segments : t.sequence.segments =
      [.write [Lis3.OverI2c.registerByte register buffer.length], .read buffer.length] := by
    rw [Transaction.sequence, body]
    cases buffer with
    | nil => cases pos
    | cons => rfl
  refine turns_of_two segments fun target mask held pointer => ?_
  rw [Lis3.OverI2c.mask_registerByte low] at pointer
  rw [← pointer] at apart
  obtain ⟨same, mask'⟩ := read_controls apart
  exact ⟨mask'.trans mask, same.trans held⟩

theorem turns_write {value : UInt8}
    (body : t.body = .write [Lis3.OverI2c.registerByte register 1] [value])
    (low : register < 0x40) : Turns t controls (controls.write register value) := by
  have segments : t.sequence.segments =
      [.write [Lis3.OverI2c.registerByte register 1], .write [value]] := by
    rw [Transaction.sequence, body]
    rfl
  refine turns_of_two segments fun target mask held pointer => ⟨mask, ?_⟩
  rw [Lis3.OverI2c.mask_registerByte (UInt8.lt_trans low (by decide))] at pointer
  rw [← held, ← pointer]
  exact store_controls target value

end

def FollowsOn {α : Type} (device : Device) : Controls → Progress I2c.interface Lis302dl α → Prop
  | controls, .done state _ => state.cached = controls
  | controls, .ask state (.transact _ t) next =>
    state.cached = controls ∧ t.address = device.address ∧ ∃ stored, Turns t controls stored ∧
      (∀ t', FollowsOn device stored (next (.ok (), t'))) ∧
      ∀ error t', FollowsOn device controls (next (.error error, t'))
  | _, .ask _ (.delay _) _ => False

theorem Follows.over {α : Type} {start : Lis302dl} {controls : Controls}
    {p : Progress Lis3.interface Lis302dl (Except Error α)} (follows : Follows start controls p)
    (device : Device) : FollowsOn device controls (p.via (Lis3.OverI2c.handler device)) := by
  induction p generalizing controls with
  | done state value =>
    cases value with
    | ok => exact follows
    | error =>
      obtain ⟨rfl, held⟩ := follows
      exact held
  | ask state r next ih =>
    cases r with
    | probe =>
      obtain ⟨rfl, held, each⟩ := follows
      exact ⟨held, rfl, controls, turns_probe rfl, fun t => ih _ (each _),
        fun error t => ih _ (each _)⟩
    | read register buffer =>
      obtain ⟨rfl, held, pos, apart, each⟩ := follows
      exact ⟨held, rfl, controls, turns_read rfl pos apart, fun t => ih _ (each _),
        fun error t => ih _ (each _)⟩
    | write register values =>
      obtain ⟨rfl, held, low, value, rfl, stored, failed⟩ := follows
      exact ⟨held, rfl, controls.write register value, turns_write rfl low,
        fun t => ih _ stored, fun error t => ih _ (failed error)⟩

def GoesOn {α : Type} (device : Device) : BusFiber Lis302dl α → Prop
  | .fresh state op => FollowsOn device state.cached (op state)
  | .asking state r flight next =>
    FollowsOn device state.cached (.ask state r next) ∧ InFlight r flight
  | .spent _ => True

structure Coherent {α : Type} (device : Device) (fiber : BusFiber Lis302dl α) (shared : SharedBus) :
    Prop where
  shows : Shows device shared.master fiber.state.cached
  goesOn : GoesOn device fiber

section

variable {α : Type} {device : Device} {controls : Controls} {shared : SharedBus}

theorem goOn_coherent {state : Lis302dl} {timing : Option Timing} {t : Transaction} {turn : Turn}
    {next : Outcome → Progress I2c.interface Lis302dl α}
    (follows : FollowsOn device controls (.ask state (.transact timing t) next))
    (carried : InFlight (.transact timing t) turn) (shows : Shows device shared.master controls)
    (rest : ∀ outcome controls after, FollowsOn device controls (next outcome) →
      Shows device after.master controls →
      Coherent device ((next outcome).advance SharedBus.medium after).2.1
        ((next outcome).advance SharedBus.medium after).2.2) :
    Coherent device
      (Fiber.goOn (M := SharedBus.medium) ⟨state, .transact timing t, next⟩
        (turn.poll shared)).2.1
      (Fiber.goOn (M := SharedBus.medium) ⟨state, .transact timing t, next⟩
        (turn.poll shared)).2.2 := by
  obtain ⟨held, address, stored, turns, well, ill⟩ := follows
  have goes := poll_goes carried address turns shows
  rcases polled : turn.poll shared with ⟨outcome | turn', after⟩ <;> rw [polled] at goes
  · cases goes with
    | ended cameOut =>
      obtain ⟨error | ⟨⟩, t'⟩ := outcome
      · cases cameOut with
        | ill shows => exact rest _ _ after (ill error t') shows
      · cases cameOut with
        | well shows => exact rest _ _ after (well t') shows
  · cases goes with
    | suspended shows =>
      subst held
      exact ⟨shows, ⟨rfl, address, stored, turns, well, ill⟩, carried.poll polled⟩

theorem advance_coherent {p : Progress I2c.interface Lis302dl α}
    (follows : FollowsOn device controls p) (shows : Shows device shared.master controls) :
    Coherent device (p.advance SharedBus.medium shared).2.1
      (p.advance SharedBus.medium shared).2.2 := by
  -- The requests that are answered at once may each have changed the control registers.
  induction p generalizing controls shared with
  | done state value =>
    subst follows
    exact ⟨shows, trivial⟩
  | ask state r next ih =>
    rw [Fiber.advance_ask]
    cases r with
    | delay => exact follows.elim
    | transact timing t =>
      exact goOn_coherent follows .waiting shows fun outcome controls after follows shows =>
        ih outcome follows shows

theorem poll_coherent {fiber : BusFiber Lis302dl α} (coherent : Coherent device fiber shared) :
    Coherent device (fiber.poll shared).2.1 (fiber.poll shared).2.2 := by
  obtain ⟨shows, goesOn⟩ := coherent
  cases fiber with
  | fresh state op => exact advance_coherent goesOn shows
  | spent state => exact ⟨shows, trivial⟩
  | asking state r flight next =>
    obtain ⟨follows, carried⟩ := goesOn
    have polled : (Fiber.asking state r flight next : BusFiber Lis302dl α).poll shared = _ :=
      Fiber.poll_fiber ⟨state, r, next⟩ flight shared
    rw [polled]
    cases r with
    | delay => exact follows.elim
    | transact timing t =>
      exact goOn_coherent follows carried shows fun _ _ _ => advance_coherent

theorem finish_follows {timing : Option Timing} {t : Transaction} {turn : Turn} {state : Lis302dl}
    {next : Outcome → Progress I2c.interface Lis302dl α}
    (follows : FollowsOn device controls (.ask state (.transact timing t) next))
    (carried : InFlight (.transact timing t) turn) (shows : Shows device shared.master controls) :
    ∃ controls, FollowsOn device controls (next (turn.finish shared).1) ∧
      Shows device (turn.finish shared).2.master controls := by
  obtain ⟨-, address, stored, turns, well, ill⟩ := follows
  have cameOut := finish_cameOut carried address turns shows
  rcases finished : turn.finish shared with ⟨⟨error | ⟨⟩, t'⟩, after⟩ <;> rw [finished] at cameOut
  · cases cameOut with
    | ill shows => exact ⟨_, ill error t', shows⟩
  · cases cameOut with
    | well shows => exact ⟨_, well t', shows⟩

theorem run_shows {p : Progress I2c.interface Lis302dl α}
    (follows : FollowsOn device controls p) (shows : Shows device shared.master controls) :
    Shows device (p.run SharedBus.medium shared).2.2.master
      (p.run SharedBus.medium shared).2.1.cached := by
  induction p generalizing controls shared with
  | done state value =>
    subst follows
    exact shows
  | ask state r next ih =>
    cases r with
    | delay => exact follows.elim
    | transact timing t =>
      obtain ⟨controls, follows, shows⟩ := finish_follows follows .waiting shows
      exact ih _ follows shows

theorem finish_coherent {fiber : BusFiber Lis302dl α} (coherent : Coherent device fiber shared) :
    Coherent device (fiber.finish shared).2.1 (fiber.finish shared).2.2 := by
  obtain ⟨shows, goesOn⟩ := coherent
  cases fiber with
  | fresh state op => exact ⟨run_shows goesOn shows, trivial⟩
  | spent state => exact ⟨shows, trivial⟩
  | asking state r flight next =>
    obtain ⟨follows, carried⟩ := goesOn
    cases r with
    | delay => exact follows.elim
    | transact timing t =>
      obtain ⟨controls, follows, shows⟩ := finish_follows follows carried shows
      exact ⟨run_shows follows shows, trivial⟩

theorem drop_coherent {fiber : BusFiber Lis302dl α} (coherent : Coherent device fiber shared) :
    Shows device (fiber.drop shared).master fiber.state.cached := by
  obtain ⟨shows, goesOn⟩ := coherent
  cases fiber with
  | fresh | spent => exact shows
  | asking state r flight next =>
    cases r with
    | delay => exact shows
    | transact timing t => exact drop_shows flight shows

end

def Untouched (device : Device) (_ : Work SharedBus.medium) (shared shared' : SharedBus) : Prop :=
  face device shared'.master = face device shared.master

namespace Bench

variable {device : Device}

theorem settle_coherent {bench : Bench SharedBus.medium}
    {came : Option (Except Error Unit) × Work SharedBus.medium × SharedBus}
    (coherent : Coherent device came.2.1 came.2.2) :
    Coherent device (bench.settle came).fiber (bench.settle came).bus := by
  obtain ⟨_ | result, fiber, shared⟩ := came <;> exact coherent

theorem step_coherent (bench : Bench SharedBus.medium)
    (coherent : Coherent device bench.fiber bench.bus)
    (s : Step SharedBus.medium (Untouched device)) :
    Coherent device (bench.step (Lis3.OverI2c.handler device) s).fiber
      (bench.step (Lis3.OverI2c.handler device) s).bus := by
  cases s with
  | start action => exact ⟨drop_coherent coherent, (action.follows bench.driver).over device⟩
  | poll => exact settle_coherent (poll_coherent coherent)
  | finish => exact settle_coherent (finish_coherent coherent)
  | drop => exact ⟨drop_coherent coherent, trivial⟩
  | others act abides =>
    exact ⟨(abides bench.fiber bench.bus).trans coherent.shows, coherent.goesOn⟩

theorem run_shows {driver : Lis302dl} {shared : SharedBus}
    (shows : Shows device shared.master driver.cached)
    (steps : List (Step SharedBus.medium (Untouched device))) :
    Shows device ((rest SharedBus.medium driver shared).run (Lis3.OverI2c.handler device)
        steps).bus.master
      ((rest SharedBus.medium driver shared).run (Lis3.OverI2c.handler device)
        steps).driver.cached := by
  have resting : Coherent device (rest SharedBus.medium driver shared).fiber shared :=
    ⟨shows, trivial⟩
  exact (run_induction (fun bench => Coherent device bench.fiber bench.bus) step_coherent resting
    steps).shows

end Bench

end SensorBus.Lis302dl
