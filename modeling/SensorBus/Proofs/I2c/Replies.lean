import SensorBus.Proofs.I2c.Facing
import SensorBus.Proofs.Job.Endings

namespace SensorBus.I2c

section

variable {α : Type}

def OfBus : Except Error α → Prop
  | .ok _ => True
  | .error error => ∃ kind, error = .i2c kind

theorem ofBus_mapError (result : Except ErrorKind α) : OfBus (result.mapError Error.i2c) := by
  cases result with
  | ok => trivial
  | error kind => exact ⟨kind, rfl⟩

end

theorem Master.complete_ofBus (master : Master) (t : Transaction) :
    OfBus (master.complete t).1.1 := by
  rw [master.complete_fst]
  exact ofBus_mapError _

def Acceptable : interface.Request → Prop
  | .transact _ t => t.attach.1 = true
  | .delay _ => True

def reported : Effect interface Unit
  | .transact .., _, outcome, _ => OfBus outcome.1
  | .delay _, _, _, _ => True

section

variable {timing : Option Timing} {t : Transaction} {turn : Turn} {shared after : SharedBus}
  {outcome : Outcome}

theorem InFlight.poll_ofBus (carried : InFlight (.transact timing t) turn)
    (accepted : t.attach.1 = true) (polled : turn.poll shared = (.ready outcome, after)) :
    OfBus outcome.1 := by
  cases carried with
  | waiting =>
    have waited := Turn.poll_waiting shared timing t
    rw [polled] at waited
    cases waited with
    | refused _ refused =>
      rw [accepted] at refused
      cases refused
    | through => exact Master.complete_ofBus _ _
  | @holding _ _ left accepted =>
    cases left with
    | zero =>
      cases polled
      exact Master.complete_ofBus _ _
    | succ left => cases polled

theorem InFlight.finish_ofBus (carried : InFlight (.transact timing t) turn)
    (accepted : t.attach.1 = true) : OfBus (turn.finish shared).1.1 := by
  cases carried with
  | waiting =>
    change OfBus (shared.master.run timing t).1.1
    rw [Master.run_accepted _ timing t accepted]
    exact Master.complete_ofBus _ _
  | holding => exact Master.complete_ofBus _ _

end

def SharedBus.unseen : Shadow medium Unit where
  kind := Acceptable
  effect := reported
  carried := Carried
  agrees _ _ := True
  launch := carried_launch
  ready {_ r _ _ _ _} kind carried _ polled := by
    refine ⟨(), ?_, trivial⟩
    cases r with
    | transact => exact InFlight.poll_ofBus carried kind polled
    | delay => trivial
  pending {_ r _ _ _ _} _ carried _ polled := by
    refine ⟨?_, trivial⟩
    cases r with
    | transact => exact InFlight.poll carried polled
    | delay => trivial
  finish {_ r _ _} kind carried _ := by
    refine ⟨(), ?_, trivial⟩
    cases r with
    | transact => exact InFlight.finish_ofBus carried kind
    | delay => trivial
  drop _ _ _ := trivial

/-- However its transactions come out, the computation leaves the private state alone, and it ends
well or with an error that the bus has reported. -/
def Relays {σ α : Type} (start : σ) (p : Progress interface σ (Except Error α)) : Prop :=
  p.Minds Acceptable reported (fun state _ => state = start)
    (fun result state _ => OfBus result ∧ state = start) ()

namespace Relays

variable {σ α β : Type} {start : σ}

theorem pure (value : α) : Relays start ((Pure.pure value : Attempt σ α).run start) :=
  ⟨trivial, rfl⟩

theorem attempt {x : Attempt σ α} {rest : α → Attempt σ β} (first : Relays start (x.run start))
    (second : ∀ value, Relays start ((rest value).run start)) :
    Relays start ((x >>= rest).run start) := by
  refine Progress.Minds.bind first fun result state shadow ended => ?_
  obtain ⟨ofBus, rfl⟩ := ended
  cases result with
  | ok value => exact second value
  | error error => exact ⟨ofBus, rfl⟩

theorem writePrefixed (device : Device) (head payload : List UInt8) :
    Relays start ((device.writePrefixed head payload : Attempt σ Unit).run start) :=
  ⟨rfl, rfl, fun _ _ ofBus => ⟨ofBus, rfl⟩⟩

theorem write (device : Device) (bytes : List UInt8) :
    Relays start ((device.write bytes : Attempt σ Unit).run start) :=
  writePrefixed device [] bytes

theorem ping (device : Device) : Relays start ((device.ping : Attempt σ Bool).run start) := by
  refine Progress.Minds.bind (write device []) fun result state shadow ended => ?_
  obtain ⟨ofBus, rfl⟩ := ended
  cases result with
  | ok => exact ⟨trivial, rfl⟩
  | error error =>
    dsimp only
    split
    · exact ⟨trivial, rfl⟩
    · exact ⟨ofBus, rfl⟩

end Relays

end SensorBus.I2c
