import SensorBus.I2c.SharedBus
import SensorBus.Proofs.I2c.Exchange

namespace SensorBus.I2c

def Event.onBus : Event → Bool
  | .start _ | .write _ | .read _ | .stop _ | .timed _ => true
  | .delayed _ | .attaching _ | .sequenced | .detaching _ => false

def Bus.traffic (bus : Bus) : List Event := bus.log.filter Event.onBus

def SharedBus.traffic (shared : SharedBus) : List Event := shared.master.bus.traffic

theorem Segment.onBus_event (segment : Segment) : segment.event.onBus = true := by
  cases segment <;> rfl

theorem Transaction.filter_onBus_of_prefix {t : Transaction} {body : List Event}
    (before : body <+: t.events) : body.filter Event.onBus = body := by
  rw [List.filter_eq_self]
  intro event mem
  obtain ⟨segment, -, rfl⟩ := List.mem_map.1 (before.subset mem)
  exact segment.onBus_event

theorem Transaction.filter_onBus_told (t : Transaction) (event : Event)
    (off : event.onBus = false) : (t.told [event]).filter Event.onBus = [] := by
  unfold told
  split <;> simp [off]

namespace Master

theorem opened_traffic (master : Master) (timing : Option Timing) (t : Transaction) :
    (master.opened timing t).bus.traffic =
      master.bus.traffic ++ ((master.due timing).toList.map .timed ++ [.start t.address]) := by
  have timed : ((master.due timing).toList.map Event.timed).filter Event.onBus =
      (master.due timing).toList.map .timed := by
    cases master.due timing <;> rfl
  simp only [Bus.traffic, opened_log, List.filter_append, timed,
    t.filter_onBus_told (.attaching true) rfl, t.filter_onBus_told .sequenced rfl,
    List.nil_append, List.append_nil]
  rfl

theorem complete_traffic (master : Master) (t : Transaction) : ∃ body, body <+: t.events ∧
    (master.complete t).2.bus.traffic = master.bus.traffic ++ (body ++ [.stop t.address]) ∧
      ((master.complete t).1.1 = .ok () ∧ body = t.events ∨
        ∃ kind, (master.complete t).1.1 = .error (.i2c kind)) := by
  obtain ⟨received, body, bus, before, log, ends⟩ := master.complete_cases t
  have own := Transaction.filter_onBus_of_prefix before
  refine ⟨body, before, ?_⟩
  obtain ⟨whole, eq⟩ | ⟨kind, eq⟩ := ends <;> rw [eq]
  · refine ⟨?_, .inl ⟨rfl, whole⟩⟩
    simp only [Bus.traffic, Bus.note_log, log, List.filter_append, own,
      t.filter_onBus_told (.detaching _) rfl, List.append_nil]
    rfl
  · refine ⟨?_, .inr ⟨kind, rfl⟩⟩
    simp only [Bus.traffic, Bus.note_log, log, List.filter_append, own,
      t.filter_onBus_told (.detaching _) rfl, List.append_nil]
    rfl

theorem abandon_traffic (master : Master) (exchange : Exchange) :
    (master.abandon exchange).bus.traffic = master.bus.traffic := by
  simp only [abandon_eq, Bus.traffic, Bus.note_log, List.filter_append,
    exchange.transaction.filter_onBus_told (.detaching _) rfl, List.append_nil]

end Master

namespace Turn

inductive Waited (shared : SharedBus) (timing : Option Timing) (t : Transaction) :
    Poll Turn Outcome × SharedBus → Prop
  | held (locked : shared.locked = true) :
      Waited shared timing t (.pending (.waiting timing t), shared)
  | refused (free : shared.locked = false) (refused : t.attach.1 = false) :
      Waited shared timing t (.ready (.error .transactionBusy, t.detach .failedToAttach),
        { master := { shared.master with
            bus := shared.master.bus.note
              (t.told [.attaching false] ++ t.told [.detaching .failedToAttach]) }
          locked := false })
  | through (free : shared.locked = false) (accepted : t.attach.1 = true) :
      Waited shared timing t (.ready ((shared.master.opened timing t).complete t.attached).1,
        { master := ((shared.master.opened timing t).complete t.attached).2, locked := false })
  | begun (free : shared.locked = false) (accepted : t.attach.1 = true) (left : Nat)
      (suspends : shared.master.bus.yields = left + 1) :
      Waited shared timing t (.pending (.holding ⟨t.attached, left⟩),
        { master := shared.master.opened timing t, locked := true })

theorem poll_waiting (shared : SharedBus) (timing : Option Timing) (t : Transaction) :
    Waited shared timing t (poll (.waiting timing t) shared) := by
  cases locked : shared.locked with
  | true =>
    simp only [poll, locked, if_true]
    exact .held locked
  | false =>
    cases attach : t.attach.1 with
    | false =>
      simp only [poll, locked, shared.master.begin_refused timing t attach, ofPoll]
      exact .refused locked attach
    | true =>
      have begun := shared.master.begin_accepted timing t attach
      cases yields : shared.master.bus.yields with
      | zero =>
        rw [yields] at begun
        simp only [poll, locked, begun, ofPoll]
        exact .through locked attach
      | succ left =>
        rw [yields] at begun
        simp only [poll, locked, begun, ofPoll]
        exact .begun locked attach left yields

end Turn

end SensorBus.I2c
