import SensorBus.Proofs.I2c.Stepping
import SensorBus.Proofs.Job.Record

namespace SensorBus.I2c

def Event.started? : Event → Option Address
  | .start address => some address
  | _ => none

def SharedBus.starts (shared : SharedBus) : List Address :=
  shared.traffic.filterMap Event.started?

def begun? : Entry interface → Option Address
  | ⟨.transact _ t, _⟩ => if t.attach.1 then some t.address else none
  | ⟨.delay _, _⟩ => none

theorem started?_of_prefix {t : Transaction} {body : List Event} (before : body <+: t.events) :
    body.filterMap Event.started? = [] := by
  refine List.filterMap_eq_nil_iff.2 fun event mem => ?_
  obtain ⟨segment, -, rfl⟩ := List.mem_map.1 (before.subset mem)
  cases segment <;> rfl

namespace Master

variable (master : Master) (timing : Option Timing) (t : Transaction)

theorem opened_starts : (master.opened timing t).bus.traffic.filterMap Event.started? =
    master.bus.traffic.filterMap Event.started? ++ [t.address] := by
  have timed : ((master.due timing).toList.map Event.timed).filterMap Event.started? = [] := by
    cases master.due timing <;> rfl
  rw [opened_traffic, List.filterMap_append, List.filterMap_append, timed]
  rfl

theorem complete_starts : (master.complete t).2.bus.traffic.filterMap Event.started? =
    master.bus.traffic.filterMap Event.started? := by
  obtain ⟨body, before, traffic, -⟩ := master.complete_traffic t
  rw [traffic, List.filterMap_append, List.filterMap_append, started?_of_prefix before]
  exact List.append_nil _

end Master

namespace SharedBus

theorem perform_starts (r : interface.Request) (shared : SharedBus)
    (reply : Option (interface.Reply r)) :
    (medium.perform r shared).2.starts = shared.starts ++ (begun? ⟨r, reply⟩).toList := by
  cases r with
  | delay duration =>
    have quiet : (medium.perform (.delay duration) shared).2.traffic = shared.traffic :=
      (List.filter_append ..).trans (List.append_nil _)
    rw [starts, quiet]
    exact (List.append_nil _).symm
  | transact timing t =>
    change (shared.master.run timing t).2.bus.traffic.filterMap Event.started? = _
    cases accepted : t.attach.1 with
    | false =>
      have quiet : ((shared.master.run timing t).2.bus.traffic) = shared.traffic := by
        rw [shared.master.run_refused timing t accepted]
        simp only [Bus.traffic, Bus.note_log, List.filter_append,
          t.filter_onBus_told (.attaching _) rfl, t.filter_onBus_told (.detaching _) rfl,
          List.append_nil]
        rfl
      rw [quiet]
      simp [begun?, accepted, starts]
    | true =>
      rw [Master.run_accepted _ timing t accepted, Master.complete_starts, Master.opened_starts]
      simp [begun?, accepted, starts, traffic]

theorem drop_starts {r : interface.Request} {shared midway : SharedBus} {flight : medium.Flight r}
    (here : (flight, midway) ∈ places r shared) :
    (medium.drop r flight midway).starts = shared.starts ++ (begun? ⟨r, none⟩).toList := by
  cases r with
  | delay duration =>
    simp only [places] at here
    split at here
    case isFalse => cases here
    case isTrue =>
      obtain ⟨left, -, eq⟩ := List.mem_map.1 here
      cases eq
      have quiet : (Pause.note duration shared).traffic = shared.traffic :=
        (List.filter_append ..).trans (List.append_nil _)
      change (Pause.note duration shared).traffic.filterMap _ = _
      rw [quiet]
      exact (List.append_nil _).symm
  | transact timing t =>
    simp only [places] at here
    split at here
    case isFalse => cases here
    case isTrue accepted =>
      obtain ⟨left, -, eq⟩ := List.mem_map.1 here
      cases eq
      change ((shared.master.opened timing t).abandon ⟨t.attached, left⟩).bus.traffic.filterMap _ =
        _
      rw [Master.abandon_traffic, Master.opened_starts]
      simp [begun?, accepted, starts, traffic]

/-- Since there were these, the bus has seen a start for each transaction on the record. -/
def Tallies (before : List Address) (world : SharedBus × Record interface) : Prop :=
  world.1.starts = before ++ world.2.filterMap begun?

theorem Tallies.append {before : List Address} {shared after : SharedBus}
    {record : Record interface} {entry : Entry interface}
    (tallies : Tallies before (shared, record))
    (starts : after.starts = shared.starts ++ (begun? entry).toList) :
    Tallies before (after, record ++ [entry]) := by
  have tallied : shared.starts = before ++ record.filterMap begun? := tallies
  have last : [entry].filterMap begun? = (begun? entry).toList := by
    cases begun : begun? entry <;> simp [begun]
  rw [Tallies, starts, tallied, List.filterMap_append, last, List.append_assoc]

theorem tallies_carryOut {σ α : Type} (op : Operation interface σ α) (state : σ) (master : Master)
    (polls : Option Nat) :
    Tallies (SharedBus.starts { master })
      (op.carryOut medium.recorded polls state ({ master }, [])).2.2 := by
  have each : ∀ r (world : SharedBus × Record interface),
      Tallies (SharedBus.starts { master }) world →
      Tallies (SharedBus.starts { master }) (medium.recorded.perform r world).2 :=
    fun r world tallies => tallies.append (perform_starts r world.1 _)
  have initially : Tallies (SharedBus.starts { master }) ({ master }, []) :=
    (List.append_nil _).symm
  have alone : Alone master.bus.yields master.bus.delaysSuspend { master } := ⟨rfl, rfl, rfl⟩
  obtain ⟨-, left⟩ | stopped | ⟨query, between, flight, midway, asked, here, stopped⟩ :=
    (punctual master.bus.yields master.bus.delaysSuspend).recorded.carryOut op state
      ({ master }, []) alone polls
  · rw [left]
    exact Progress.holds_run each (op state) initially
  · rw [stopped]
    exact initially
  · have tallies := Progress.holds_queries each initially asked
    obtain ⟨⟨flight', midway'⟩, place, eq⟩ := List.mem_map.1 here
    cases eq
    rw [stopped]
    exact tallies.append (drop_starts place)

end SharedBus

end SensorBus.I2c
