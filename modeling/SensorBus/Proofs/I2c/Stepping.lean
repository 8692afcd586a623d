import SensorBus.Proofs.I2c.Turn
import SensorBus.Proofs.Job.Stepping

namespace SensorBus.I2c

namespace Bus

theorem transfer_keeps (bus : Bus) (address : Address) (segments : List Segment) :
    (bus.transfer address segments).2.2.yields = bus.yields ∧
      (bus.transfer address segments).2.2.delaysSuspend = bus.delaysSuspend := by
  simp only [transfer]
  split <;> exact ⟨rfl, rfl⟩

end Bus

namespace Master

variable (master : Master) (timing : Option Timing) (t : Transaction)

theorem complete_keeps :
    (master.complete t).2.bus.yields = master.bus.yields ∧
      (master.complete t).2.bus.delaysSuspend = master.bus.delaysSuspend := by
  have keeps := master.bus.transfer_keeps t.address t.sequence.segments
  rcases transferred : master.bus.transfer t.address t.sequence.segments with
    ⟨kind | ⟨⟩, received, bus⟩ <;> rw [transferred] at keeps
  · rw [complete_error master t transferred]
    exact keeps
  · rw [complete_ok master t transferred]
    exact keeps

theorem opened_delaysSuspend :
    (master.opened timing t).bus.delaysSuspend = master.bus.delaysSuspend := by
  simp [opened, time_eq, Bus.note]

end Master

namespace SharedBus

/-- Nobody has locked the bus, which suspends exchanges and delays like this. -/
structure Alone (yields : Nat) (delaysSuspend : Bool) (shared : SharedBus) : Prop where
  free : shared.locked = false
  yields : shared.master.bus.yields = yields
  delaysSuspend : shared.master.bus.delaysSuspend = delaysSuspend

/-- The bus yields once for a transaction, unless it refuses to be attached, and once for a delay if
delays are suspended. -/
def yieldsFor : interface.Request → SharedBus → Nat
  | .transact _ t, _ => if t.attach.1 then 1 else 0
  | .delay _, shared => if shared.master.bus.delaysSuspend then 1 else 0

def places : (r : interface.Request) → SharedBus → List (medium.Flight r × SharedBus)
  | .transact timing t, shared =>
    if t.attach.1 then
      medium.countdown (.transact timing t) (fun left => Turn.holding ⟨t.attached, left⟩)
        { master := shared.master.opened timing t, locked := true } shared.master.bus.yields
    else []
  | .delay duration, shared =>
    if shared.master.bus.delaysSuspend then
      medium.countdown (.delay duration) Pause.suspended (Pause.note duration shared)
        shared.master.bus.yields
    else []

theorem length_places {yields : Nat} {delaysSuspend : Bool} (r : interface.Request)
    (shared : SharedBus) (alone : Alone yields delaysSuspend shared) :
    (places r shared).length = yields * yieldsFor r shared := by
  cases r with
  | transact timing t =>
    simp only [places, yieldsFor]
    split
    · exact (Medium.length_countdown _).trans (alone.yields.trans (Nat.mul_one _).symm)
    · rfl
  | delay duration =>
    simp only [places, yieldsFor]
    split
    · exact (Medium.length_countdown _).trans (alone.yields.trans (Nat.mul_one _).symm)
    · rfl

variable {shared : SharedBus} {timing : Option Timing} {t : Transaction}

theorem transact_waits (free : shared.locked = false) :
    medium.Waits (.transact timing t) (medium.perform (.transact timing t) shared).1
      (medium.perform (.transact timing t) shared).2 (places (.transact timing t) shared)
      (medium.poll (.transact timing t) (medium.launch (.transact timing t)) shared) := by
  have performed : medium.perform (.transact timing t) shared =
    ((shared.master.run timing t).1, ⟨(shared.master.run timing t).2, false⟩) := rfl
  have polled : medium.poll (.transact timing t) (medium.launch (.transact timing t)) shared =
      Turn.ofPoll (shared.master.begin timing t) := by
    change Turn.poll (.waiting timing t) shared = _
    simp only [Turn.poll, free, Bool.false_eq_true, if_false]
  rw [performed, polled]
  cases accepted : t.attach.1 with
  | false =>
    rw [Master.run_refused _ timing t accepted, Master.begin_refused _ timing t accepted]
    simp only [places, accepted]
    exact .ready
  | true =>
    rw [Master.run_accepted _ timing t accepted, Master.begin_accepted _ timing t accepted]
    simp only [places, accepted, if_true]
    cases shared.master.bus.yields with
    | zero => exact .ready
    | succ left => exact .countdown_ready rfl (fun _ => rfl) left

theorem transact_alone {yields : Nat} {delaysSuspend : Bool}
    (alone : Alone yields delaysSuspend shared) :
    Alone yields delaysSuspend (medium.perform (.transact timing t) shared).2 := by
  have performed : (medium.perform (.transact timing t) shared).2 =
    ⟨(shared.master.run timing t).2, false⟩ := rfl
  rw [performed]
  cases accepted : t.attach.1 with
  | false =>
    rw [Master.run_refused _ timing t accepted]
    exact ⟨rfl, alone.yields, alone.delaysSuspend⟩
  | true =>
    rw [Master.run_accepted _ timing t accepted]
    obtain ⟨yields, delays⟩ := (shared.master.opened timing t).complete_keeps t.attached
    rw [Master.opened_yields] at yields
    rw [Master.opened_delaysSuspend] at delays
    exact ⟨rfl, yields.trans alone.yields, delays.trans alone.delaysSuspend⟩

theorem delay_waits (duration : Delay) (shared : SharedBus) :
    medium.Waits (.delay duration) () (Pause.note duration shared) (places (.delay duration) shared)
      (Pause.poll duration .fresh shared) := by
  have yields : (Pause.note duration shared).master.bus.yields = shared.master.bus.yields := rfl
  have delays : (Pause.note duration shared).master.bus.delaysSuspend =
    shared.master.bus.delaysSuspend := rfl
  simp only [Pause.poll, places, yields, delays]
  cases shared.master.bus.delaysSuspend with
  | false => exact .ready
  | true =>
    cases shared.master.bus.yields with
    | zero => exact .ready
    | succ left => exact .countdown_ready rfl (fun _ => rfl) left

theorem punctual (yields : Nat) (delaysSuspend : Bool) :
    medium.Punctual (Alone yields delaysSuspend) places where
  waits r shared alone := by
    cases r with
    | transact timing t => exact transact_waits alone.free
    | delay duration => exact delay_waits duration shared
  alone r shared alone := by
    cases r with
    | transact timing t => exact transact_alone alone
    | delay duration => exact ⟨alone.free, alone.yields, alone.delaysSuspend⟩

end SharedBus

end SensorBus.I2c
