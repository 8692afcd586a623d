import SensorBus.Proofs.I2c.Accesses
import SensorBus.Proofs.I2c.Meeting
import SensorBus.Proofs.Job.Tracking

namespace SensorBus.I2c

def Device.Faces (device : Device) (view : Target → Prop) (master : Master) : Prop :=
  ∃ target, master.bus.target? device.address.raw = some target ∧ view target

/-- A target that was like `before` is like `after` if the transaction succeeds, and still like
`before` if it fails. -/
def Turns (t : Transaction) (before after : Target → Prop) : Prop :=
  ∀ (target : Target) (fault : Option Fault), before target →
    let exchanged := target.exchange false fault t.sequence.segments
    exchanged.result = .ok () ∧ after exchanged.target ∨
      (∃ kind, exchanged.result = .error kind) ∧ before exchanged.target

inductive CameOut (device : Device) (t : Transaction) (before after : Target → Prop) :
    Outcome → Master → Prop
  | well {t' : Transaction} {master : Master} (kept : t.Kept t')
      (faces : device.Faces after master) : CameOut device t before after (.ok (), t') master
  | ill {error : Error} {t' : Transaction} {master : Master} (kept : t.Kept t')
      (faces : device.Faces before master) : CameOut device t before after (.error error, t') master

section

variable {device : Device} {t : Transaction} {before after : Target → Prop} {master : Master}
  {shared : SharedBus} {timing : Option Timing} {turn : Turn}

theorem Device.Faces.of_same {view : Target → Prop} {other : Master}
    (faces : device.Faces view master) (same : other.bus.targets = master.bus.targets) :
    device.Faces view other := by
  obtain ⟨target, present, viewed⟩ := faces
  exact ⟨target, (Bus.target?_congr same _).trans present, viewed⟩

theorem faces_setTarget {view : Target → Prop} {bus : Bus} {target : Target} {events : List Event}
    {applied : Option Timing} {lastError : Option ErrorKind} (viewed : view target) :
    device.Faces view
      ⟨(bus.setTarget device.address.raw (some target)).note events, applied, lastError⟩ :=
  ⟨target, bus.target?_setTarget_self device.address.raw (some target), viewed⟩

theorem complete_cameOut (address : t.address = device.address) (turns : Turns t before after)
    (faces : device.Faces before master) :
    CameOut device t before after (master.complete t).1 (master.complete t).2 := by
  have kept := master.kept_complete t
  obtain ⟨target, present, viewed⟩ := faces
  rw [← address] at present
  obtain ⟨kind, strikes⟩ | passes := Target.strikes_or_passes master.bus.faults.head?.join
  · rw [master.complete_error t (Bus.transfer_strikes strikes _ _)] at kept ⊢
    rw [address] at present
    exact .ill kept ⟨target, present, viewed⟩
  · have transferred := Bus.transfer_present passes present t.sequence.segments
    obtain ⟨ok, viewed⟩ | ⟨⟨kind, error⟩, viewed⟩ :=
      turns target master.bus.faults.head?.join viewed
    · simp only [ok] at transferred
      rw [master.complete_ok t transferred, Bus.note_note, address] at kept ⊢
      exact .well kept (faces_setTarget viewed)
    · simp only [error] at transferred
      rw [master.complete_error t transferred, Bus.note_note, address] at kept ⊢
      exact .ill kept (faces_setTarget viewed)

theorem CameOut.attached {outcome : Outcome}
    (cameOut : CameOut device t.attached before after outcome master) :
    CameOut device t before after outcome master := by
  cases cameOut with
  | well kept faces => exact .well (t.kept_attached.trans kept) faces
  | ill kept faces => exact .ill (t.kept_attached.trans kept) faces

theorem attached_cameOut (address : t.address = device.address) (turns : Turns t before after)
    (faces : device.Faces before master) :
    CameOut device t before after (master.complete t.attached).1
      (master.complete t.attached).2 := by
  have cameOut : CameOut device t.attached before after (master.complete t.attached).1 _ :=
    complete_cameOut address turns faces
  exact cameOut.attached

theorem opened_cameOut (address : t.address = device.address) (turns : Turns t before after)
    (faces : device.Faces before master) (timing : Option Timing) :
    CameOut device t before after ((master.opened timing t).complete t.attached).1
      ((master.opened timing t).complete t.attached).2 :=
  attached_cameOut address turns (faces.of_same (master.opened_targets timing t))

theorem refused_cameOut (faces : device.Faces before master) (events : List Event) :
    CameOut device t before after (.error .transactionBusy, t.detach .failedToAttach)
      { master with bus := master.bus.note events } :=
  .ill ((Transaction.Kept.refl t).detach _) (faces.of_same rfl)

inductive Goes (device : Device) (t : Transaction) (before after : Target → Prop) :
    Poll Turn Outcome × SharedBus → Prop
  | suspended {turn : Turn} {left : SharedBus} (faces : device.Faces before left.master) :
      Goes device t before after (.pending turn, left)
  | ended {outcome : Outcome} {left : SharedBus}
      (cameOut : CameOut device t before after outcome left.master) :
      Goes device t before after (.ready outcome, left)

theorem poll_goes (carried : InFlight (.transact timing t) turn)
    (address : t.address = device.address) (turns : Turns t before after)
    (faces : device.Faces before shared.master) :
    Goes device t before after (turn.poll shared) := by
  cases carried with
  | waiting =>
    have waited := Turn.poll_waiting shared timing t
    generalize (Turn.waiting timing t).poll shared = polled at waited ⊢
    cases waited with
    | held locked => exact .suspended faces
    | refused free refused => exact .ended (refused_cameOut faces _)
    | through free accepted => exact .ended (opened_cameOut address turns faces timing)
    | begun free accepted left =>
      exact .suspended (faces.of_same (shared.master.opened_targets timing t))
  | @holding _ _ left accepted =>
    cases left with
    | zero => exact .ended (attached_cameOut address turns faces)
    | succ left => exact .suspended faces

theorem finish_cameOut (carried : InFlight (.transact timing t) turn)
    (address : t.address = device.address) (turns : Turns t before after)
    (faces : device.Faces before shared.master) :
    CameOut device t before after (turn.finish shared).1 (turn.finish shared).2.master := by
  cases carried with
  | waiting =>
    change CameOut device t before after (shared.master.run timing t).1
      (shared.master.run timing t).2
    cases accepted : t.attach.1 with
    | false =>
      rw [Master.run_refused _ timing t accepted]
      exact refused_cameOut faces _
    | true =>
      rw [Master.run_accepted _ timing t accepted]
      exact opened_cameOut address turns faces timing
  | holding accepted => exact attached_cameOut address turns faces

theorem drop_faces (turn : Turn) (faces : device.Faces before shared.master) :
    device.Faces before (turn.drop shared).master := by
  cases turn with
  | waiting => exact faces
  | holding exchange =>
    have same := shared.master.abandon_eq exchange
    exact faces.of_same (congrArg (·.bus.targets) same)

end

def Succeeded : Entry interface → Prop
  | ⟨.transact .., some (.ok (), _)⟩ => True
  | _ => False

theorem writeOf?_of_failed {entry : Entry interface} (failed : ¬ Succeeded entry) :
    writeOf? entry = none := by
  rcases entry with ⟨⟨timing, t⟩ | duration, reply⟩
  · rcases reply with _ | ⟨error | ⟨⟩, t'⟩
    · rfl
    · rfl
    · exact absurd trivial failed
  · rfl

/-- What a record tells of the target at the device's address, where the requests are of a kind.
Only a transaction that succeeds makes a difference. -/
structure Facing (device : Device) where
  kind : interface.Request → Prop
  view : Record interface → Target → Prop
  address : ∀ {timing t}, kind (.transact timing t) → t.address = device.address
  turns : ∀ {timing t} past, kind (.transact timing t) → Turns t (view past) fun target =>
    ∀ t', view (past ++ [⟨.transact timing t, some (.ok (), t')⟩]) target
  quiet : ∀ {past entry target}, ¬ Succeeded entry → view past target →
    view (past ++ [entry]) target

def Carried : (r : interface.Request) → SharedBus.medium.Flight r → Prop
  | .transact timing t, flight => InFlight (.transact timing t) flight
  | .delay _, _ => True

theorem carried_launch (r : interface.Request) : Carried r (SharedBus.medium.launch r) := by
  cases r with
  | transact => exact .waiting
  | delay => trivial

namespace Facing

variable {device : Device} (facing : Facing device)

def agrees (past : Record interface) (shared : SharedBus) : Prop :=
  device.Faces (facing.view past) shared.master

variable {facing} {past : Record interface} {shared : SharedBus}

theorem agrees_quiet {entry : Entry interface} (failed : ¬ Succeeded entry)
    (agrees : facing.agrees past shared) : facing.agrees (past ++ [entry]) shared := by
  obtain ⟨target, present, viewed⟩ := agrees
  exact ⟨target, present, facing.quiet failed viewed⟩

theorem poll_delay (duration : Delay) (pause : Pause) (agrees : facing.agrees past shared) :
    facing.agrees past (Pause.poll duration pause shared).2 := by
  cases pause with
  | fresh =>
    simp only [Pause.poll]
    split <;> exact agrees
  | suspended left => cases left <;> exact agrees

theorem answered {timing : Option Timing} {t : Transaction} {outcome : Outcome}
    (cameOut : CameOut device t (facing.view past)
      (fun target => ∀ t', facing.view (past ++ [⟨.transact timing t, some (.ok (), t')⟩]) target)
      outcome shared.master) :
    t.Kept outcome.2 ∧ facing.agrees (past ++ [⟨.transact timing t, some outcome⟩]) shared := by
  obtain ⟨master, locked⟩ := shared
  cases cameOut with
  | @well t' _ kept faces =>
    obtain ⟨target, present, viewed⟩ := faces
    exact ⟨kept, target, present, viewed t'⟩
  | ill kept faces => exact ⟨kept, agrees_quiet id faces⟩

def tracking (facing : Facing device) : Tracking SharedBus.medium where
  kind := facing.kind
  lawful := Lawful
  carried := Carried
  agrees := facing.agrees
  launch := carried_launch
  ready {past r flight shared reply after} kind carried agrees polled := by
    cases r with
    | transact timing t =>
      have goes := poll_goes carried (facing.address kind) (facing.turns past kind) agrees
      have polled : Turn.poll flight shared = (.ready reply, after) := polled
      rw [polled] at goes
      cases goes with
      | ended cameOut => exact answered cameOut
    | delay duration =>
      have left := poll_delay duration flight agrees
      have polled : Pause.poll duration flight shared = (.ready reply, after) := polled
      rw [polled] at left
      exact ⟨trivial, agrees_quiet id left⟩
  pending {past r flight shared flight' after} kind carried agrees polled := by
    cases r with
    | transact timing t =>
      have goes := poll_goes carried (facing.address kind) (facing.turns past kind) agrees
      have polled : Turn.poll flight shared = (.pending flight', after) := polled
      rw [polled] at goes
      cases goes with
      | suspended faces => exact ⟨InFlight.poll carried polled, faces⟩
    | delay duration =>
      have left := poll_delay duration flight agrees
      have polled : Pause.poll duration flight shared = (.pending flight', after) := polled
      rw [polled] at left
      exact ⟨trivial, left⟩
  finish {past r flight shared} kind carried agrees := by
    cases r with
    | transact timing t =>
      exact answered
        (finish_cameOut carried (facing.address kind) (facing.turns past kind) agrees)
    | delay duration => cases flight <;> exact ⟨trivial, agrees_quiet id agrees⟩
  drop {past r flight shared} kind carried agrees := by
    cases r with
    | transact timing t =>
      exact agrees_quiet id (drop_faces flight agrees)
    | delay duration => exact agrees_quiet id agrees

end Facing

end SensorBus.I2c
