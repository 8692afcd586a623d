import SensorBus.Proofs.I2c.Facing
import SensorBus.Proofs.I2c.Strikes
import SensorBus.Proofs.Job.Shadow

namespace SensorBus.I2c

theorem Pause.poll_same (pause : Pause) (duration : Delay) (shared : SharedBus) :
    (pause.poll duration shared).2.master.bus.targets = shared.master.bus.targets ∧
      (pause.poll duration shared).2.master.bus.faults = shared.master.bus.faults := by
  cases pause with
  | fresh =>
    simp only [Pause.poll]
    split <;> exact ⟨rfl, rfl⟩
  | suspended left => cases left <;> exact ⟨rfl, rfl⟩

theorem Turn.drop_same (turn : Turn) (shared : SharedBus) :
    (turn.drop shared).master.bus.targets = shared.master.bus.targets ∧
      (turn.drop shared).master.bus.faults = shared.master.bus.faults := by
  cases turn with
  | waiting => exact ⟨rfl, rfl⟩
  | holding exchange =>
    have same := shared.master.abandon_eq exchange
    exact ⟨congrArg (·.bus.targets) same, congrArg (·.bus.faults) same⟩

/-- What shows of the target at a device's address. Some faults may strike, and whatever they leave
of the transactions, the target still shows something. -/
structure Likeness (device : Device) (S : Type) where
  possible : Fault → Prop
  kind : Transaction → Prop
  shows : S → Target → Prop
  address : ∀ {t}, kind t → t.address = device.address
  accepted : ∀ {t}, kind t → t.attach.1 = true
  closed : ∀ {t shadow target fault}, kind t → shows shadow target → (∀ f ∈ fault, possible f) →
    ∃ left, shows left (target.exchange false fault t.sequence.segments).target

namespace Likeness

variable {device : Device} {S : Type} (likeness : Likeness device S)

def asks : interface.Request → Prop
  | .transact _ t => likeness.kind t
  | .delay _ => True

def effect : Effect interface S
  | .transact _ t, shadow, (result, t'), left => ∃ target fault, likeness.shows shadow target ∧
    (∀ f ∈ fault, likeness.possible f) ∧
    let exchanged := target.exchange false fault t.sequence.segments
    likeness.shows left exchanged.target ∧ result = exchanged.result.mapError .i2c ∧
      t'.body = t.body.receive exchanged.received
  | .delay _, shadow, (), left => left = shadow

structure Agrees (shadow : S) (master : Master) : Prop where
  faces : device.Faces (likeness.shows shadow) master
  possible : ∀ fault, some fault ∈ master.bus.faults → likeness.possible fault

variable {likeness} {shadow : S} {master : Master} {shared : SharedBus} {timing : Option Timing}
  {t : Transaction} {turn : Turn}

theorem Agrees.of_same {other : Master} (agrees : likeness.Agrees shadow master)
    (targets : other.bus.targets = master.bus.targets)
    (faults : other.bus.faults = master.bus.faults) : likeness.Agrees shadow other where
  faces := agrees.faces.of_same targets
  possible := by
    rw [faults]
    exact agrees.possible

theorem Agrees.opened (agrees : likeness.Agrees shadow master) (timing : Option Timing)
    (t : Transaction) : likeness.Agrees shadow (master.opened timing t) :=
  agrees.of_same (master.opened_targets timing t) (master.opened_faults timing t)

theorem Agrees.next (agrees : likeness.Agrees shadow master) :
    ∀ fault ∈ master.bus.faults.head?.join, likeness.possible fault := by
  intro fault mem
  rw [Option.mem_def, Option.join_eq_some_iff] at mem
  exact agrees.possible fault (List.mem_of_mem_head? mem)

theorem complete_effect (kind : likeness.kind t) (agrees : likeness.Agrees shadow master) :
    ∃ left, likeness.effect (.transact timing t) shadow (master.complete t.attached).1 left ∧
      likeness.Agrees left (master.complete t.attached).2 := by
  have next := agrees.next
  obtain ⟨⟨target, present, shown⟩, possible⟩ := agrees
  rw [← likeness.address kind, ← t.attached_address] at present
  obtain ⟨result, body, left⟩ := Master.complete_exchange present
  obtain ⟨after, shown'⟩ := likeness.closed kind shown next
  refine ⟨after, ⟨target, _, shown, next, shown', result, body⟩, ?_, ?_⟩
  · rw [t.attached_address, likeness.address kind] at left
    exact ⟨_, left.present, shown'⟩
  · intro fault mem
    rw [left.faults] at mem
    exact possible fault (List.mem_of_mem_tail mem)

inductive Goes (likeness : Likeness device S) (shadow : S) (timing : Option Timing)
    (t : Transaction) : Poll Turn Outcome × SharedBus → Prop
  | suspended {turn : Turn} {after : SharedBus} (agrees : likeness.Agrees shadow after.master) :
      Goes likeness shadow timing t (.pending turn, after)
  | ended {outcome : Outcome} {after : SharedBus} {left : S}
      (came : likeness.effect (.transact timing t) shadow outcome left)
      (agrees : likeness.Agrees left after.master) :
      Goes likeness shadow timing t (.ready outcome, after)

theorem poll_goes (carried : InFlight (.transact timing t) turn) (kind : likeness.kind t)
    (agrees : likeness.Agrees shadow shared.master) :
    likeness.Goes shadow timing t (turn.poll shared) := by
  cases carried with
  | waiting =>
    have waited := Turn.poll_waiting shared timing t
    generalize (Turn.waiting timing t).poll shared = polled at waited ⊢
    cases waited with
    | held locked => exact .suspended agrees
    | refused free refused =>
      rw [likeness.accepted kind] at refused
      cases refused
    | through free accepted =>
      obtain ⟨left, came, agrees⟩ := complete_effect kind (agrees.opened timing t)
      exact .ended came agrees
    | begun free accepted left => exact .suspended (agrees.opened timing t)
  | @holding _ _ left accepted =>
    cases left with
    | zero =>
      obtain ⟨left, came, agrees⟩ := complete_effect kind agrees
      exact .ended came agrees
    | succ left => exact .suspended agrees

theorem finish_effect (carried : InFlight (.transact timing t) turn) (kind : likeness.kind t)
    (agrees : likeness.Agrees shadow shared.master) :
    ∃ left, likeness.effect (.transact timing t) shadow (turn.finish shared).1 left ∧
      likeness.Agrees left (turn.finish shared).2.master := by
  cases carried with
  | waiting =>
    have ran := Master.run_accepted shared.master timing t (likeness.accepted kind)
    simp only [Turn.finish, ran]
    exact complete_effect kind (agrees.opened timing t)
  | holding => exact complete_effect kind agrees

theorem drop_agrees (turn : Turn) (agrees : likeness.Agrees shadow shared.master) :
    likeness.Agrees shadow (turn.drop shared).master :=
  agrees.of_same (turn.drop_same shared).1 (turn.drop_same shared).2

theorem poll_delay (duration : Delay) (pause : Pause)
    (agrees : likeness.Agrees shadow shared.master) :
    likeness.Agrees shadow (Pause.poll duration pause shared).2.master :=
  agrees.of_same (pause.poll_same duration shared).1 (pause.poll_same duration shared).2

end Likeness

def Likeness.shadow {device : Device} {S : Type} (likeness : Likeness device S) :
    Shadow SharedBus.medium S where
  kind := likeness.asks
  effect := likeness.effect
  carried := Carried
  agrees shadow shared := likeness.Agrees shadow shared.master
  launch := carried_launch
  ready {shadow r flight shared reply after} kind carried agrees polled := by
    cases r with
    | transact timing t =>
      have goes := poll_goes carried kind agrees
      have polled : Turn.poll flight shared = (.ready reply, after) := polled
      rw [polled] at goes
      cases goes with
      | ended came agrees => exact ⟨_, came, agrees⟩
    | delay duration =>
      have left := poll_delay duration flight agrees
      have polled : Pause.poll duration flight shared = (.ready reply, after) := polled
      rw [polled] at left
      exact ⟨shadow, rfl, left⟩
  pending {shadow r flight shared flight' after} kind carried agrees polled := by
    cases r with
    | transact timing t =>
      have goes := poll_goes carried kind agrees
      have polled : Turn.poll flight shared = (.pending flight', after) := polled
      rw [polled] at goes
      cases goes with
      | suspended agrees => exact ⟨InFlight.poll carried polled, agrees⟩
    | delay duration =>
      have left := poll_delay duration flight agrees
      have polled : Pause.poll duration flight shared = (.pending flight', after) := polled
      rw [polled] at left
      exact ⟨trivial, left⟩
  finish {shadow r flight shared} kind carried agrees := by
    cases r with
    | transact timing t => exact finish_effect carried kind agrees
    | delay duration =>
      have noted : likeness.Agrees shadow (Pause.note duration shared).master :=
        agrees.of_same rfl rfl
      cases flight with
      | fresh => exact ⟨shadow, rfl, noted⟩
      | suspended => exact ⟨shadow, rfl, agrees⟩
  drop {shadow r flight shared} kind carried agrees := by
    cases r with
    | transact timing t => exact drop_agrees flight agrees
    | delay duration => exact agrees

end SensorBus.I2c
