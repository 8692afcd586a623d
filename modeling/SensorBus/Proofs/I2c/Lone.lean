import SensorBus.Proofs.I2c.Bytes
import SensorBus.Proofs.I2c.Registers
import SensorBus.Proofs.Job.Simulation

namespace SensorBus

section

variable {I : Interface} {W σ α β ε : Type} {M : Medium I W} {state middle : σ} {world between : W}
  {x : ExceptT ε (Operation I σ) α} {rest : α → ExceptT ε (Operation I σ) β}

theorem run_attempt :
    (x >>= rest).run.run M state world =
      let came := x.run.run M state world
      (ExceptT.bindCont rest came.1).run M came.2.1 came.2.2 :=
  Progress.run_bind M (x.run state) _ world

theorem run_attempt_get {next : σ → ExceptT ε (Operation I σ) β} :
    (get >>= next).run.run M state world = (next state).run.run M state world := rfl

theorem run_attempt_ok {value : α}
    (came : x.run.run M state world = (.ok value, middle, between)) :
    (x >>= rest).run.run M state world = (rest value).run.run M middle between := by
  rw [run_attempt, came]
  rfl

theorem run_attempt_error {error : ε}
    (came : x.run.run M state world = (.error error, middle, between)) :
    (x >>= rest).run.run M state world = (.error error, middle, between) := by
  rw [run_attempt, came]
  rfl

end

namespace I2c

namespace Master

variable (master : Master) (timing : Option Timing) {t : Transaction}

theorem run_applied (accepted : t.attach.1 = true) :
    (master.run timing t).2.applied = (timing <|> master.applied) := by
  rw [run_accepted master timing t accepted]
  have opened : (master.opened timing t).applied = (timing <|> master.applied) := by
    simp [Master.opened, time_eq]
  obtain ⟨received, body, bus, -, -, ⟨-, whole⟩ | ⟨kind, failed⟩⟩ :=
    (master.opened timing t).complete_cases t.attached
  · rw [whole, ← opened]
  · rw [failed, ← opened]

theorem due_run (accepted : t.attach.1 = true) : (master.run timing t).2.due timing = none := by
  rw [due, master.run_applied timing accepted]
  cases timing <;> simp

theorem run_log (accepted : t.attach.1 = true) (silent : t.reports = false)
    (ok : (master.run timing t).1.1 = .ok ()) :
    (master.run timing t).2.bus.log =
      master.bus.log ++ (master.due timing).toList.map .timed ++
        (.start t.address :: t.events ++ [.stop t.address]) := by
  have told (marks : List Event) : t.told marks = [] := by simp [Transaction.told, silent]
  rw [run_accepted master timing t accepted] at ok ⊢
  obtain ⟨received, body, bus, -, log, ⟨rfl, whole⟩ | ⟨kind, failed⟩⟩ :=
    (master.opened timing t).complete_cases t.attached
  · rw [whole, Bus.note_log, log, opened_log, Transaction.attached_told, told, told, told]
    simp only [List.append_nil, List.nil_append, List.append_assoc]
    rfl
  · rw [failed] at ok
    cases ok

end Master

namespace Device

variable (device : Device)

def ahead (shared : SharedBus) : List Event :=
  shared.master.bus.log ++ (shared.master.due device.timing).toList.map .timed

/-- The target stands like this at the device's address, the timing is the device's, and this is
all of the log. -/
structure Stands (shared : SharedBus) (scene : Target × List Event) : Prop where
  finds : device.Finds shared scene.1
  due : shared.master.due device.timing = none
  log : shared.master.bus.log = scene.2

def exchanged (body : List Event) : List Event :=
  .start device.address :: body ++ [.stop device.address]

def readEvents (register : UInt8) (count : Nat) : List Event :=
  device.exchanged [.write [register], .read count]

def writeEvents (register value : UInt8) : List Event :=
  device.exchanged [.write [register, value]]

end Device

variable {device : Device} {shared : SharedBus} {target : Target} {σ : Type} (state : σ)

theorem Device.Stands.ahead {scene : Target × List Event} (stands : device.Stands shared scene) :
    device.ahead shared = scene.2 := by
  rw [Device.ahead, stands.due, stands.log]
  exact List.append_nil _

namespace Device.Finds

variable (finds : device.Finds shared target)

include finds

theorem performs {t : Transaction} (address : t.address = device.address)
    (accepted : t.attach.1 = true) (silent : t.reports = false) {segments : List Segment}
    (carries : t.sequence.segments = segments) :
    ∃ after, SharedBus.medium.perform (.transact device.timing t) shared =
        ((.ok (), (t.attached.receive (target.exchange false none segments).received).detach
          .normalStop), after) ∧
      device.Stands after ((target.exchange false none segments).target,
        device.ahead shared ++ device.exchanged (segments.map Segment.event)) := by
  obtain ⟨after, performed, left⟩ := finds.transact device.timing address accepted carries
  have ran : SharedBus.medium.perform (.transact device.timing t) shared =
    ((shared.master.run device.timing t).1, ⟨(shared.master.run device.timing t).2, false⟩) := rfl
  obtain ⟨outcome, rfl⟩ := Prod.mk.inj (ran.symm.trans performed)
  refine ⟨_, performed, left, shared.master.due_run device.timing accepted, ?_⟩
  have log := shared.master.run_log device.timing accepted silent (by rw [outcome])
  rw [address, Transaction.events, carries] at log
  exact log

theorem registers (register : UInt8) {count : Nat} (pos : 0 < count) :
    ComesTo device.Stands ((device.registers register count).run.run SharedBus.medium state shared)
      (.ok ((target.select register).read count).1) state
      (((target.select register).read count).2,
        device.ahead shared ++ device.readEvents register count) := by
  obtain ⟨after, performed, stands⟩ := finds.performs rfl rfl rfl
    (t := { address := device.address, body := .writeRead [register] (List.replicate count 0) })
    (Device.reading_segments pos register)
  obtain ⟨left, received⟩ := target.exchange_read register count
  have ran : (device.registers register count).run.run SharedBus.medium state shared =
    let performed := SharedBus.medium.perform (device.reading register count) shared
    (performed.1.1.map fun _ => performed.1.2.body.buffer?.getD [], state, performed.2) := rfl
  rw [received] at performed
  rw [left] at stands
  refine ⟨after, ran.trans ?_, stands⟩
  simp only [Device.reading, performed]
  simp [Transaction.detach, Transaction.receive, Transaction.attached, Body.receive, Body.buffer?,
    Target.length_read, Except.map]

theorem readRegister (register : UInt8) :
    ComesTo device.Stands ((device.readRegister register).run.run SharedBus.medium state shared)
      (.ok (target.select register).readByte.1) state
      ((target.select register).readByte.2,
        device.ahead shared ++ device.readEvents register 1) := by
  obtain ⟨after, came, stands⟩ := finds.registers state register Nat.one_pos
  exact ⟨after, run_attempt_ok came, stands⟩

theorem writeRegister (register value : UInt8) :
    ComesTo device.Stands
      ((device.writeRegister register value).run.run SharedBus.medium state shared) (.ok ()) state
      ((target.write false [register, value]).1,
        device.ahead shared ++ device.writeEvents register value) := by
  obtain ⟨after, performed, stands⟩ := finds.performs rfl rfl rfl
    (t := { address := device.address, body := .write [] [register, value] }) rfl
  have ran : (device.writeRegister register value).run.run SharedBus.medium state shared =
    let performed := SharedBus.medium.perform (device.writing register value) shared
    (performed.1.1, state, performed.2) := rfl
  refine ⟨after, ran.trans ?_, stands⟩
  simp only [Device.writing, performed]

end Device.Finds

theorem Device.Stands.pause {scene : Target × List Event} (stands : device.Stands shared scene)
    (duration : Delay) :
    ComesTo device.Stands ((I2c.pause duration).run.run SharedBus.medium state shared) (.ok ())
      state (scene.1, scene.2 ++ [.delayed duration]) := by
  have finds := stands.finds
  refine ⟨Pause.note duration shared, rfl, ⟨finds.free, finds.faultless, finds.present⟩,
    stands.due, ?_⟩
  rw [← stands.log]
  rfl

end I2c

end SensorBus
