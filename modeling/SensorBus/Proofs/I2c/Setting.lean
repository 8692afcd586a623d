import SensorBus.Proofs.I2c.Meeting
import SensorBus.Proofs.I2c.Program
import SensorBus.Proofs.Job.Setting

namespace SensorBus.I2c

def Event.sighting? (r : interface.Request) : Event → Option (Sighting interface Timing)
  | .timed timing => some (.applied r timing)
  | .start _ => some (.started r)
  | _ => none

/-- A transaction carries the timing of its handle, and goes onto the bus unless it refuses to be
attached. The log shows what happens; a reset shows if it takes place. -/
def SharedBus.settings : Settings interface SharedBus Intervention Timing where
  terms :=
    { setting
        | .transact timing _ => timing
        | .delay _ => none
      goes
        | .transact _ t => t.attach.1
        | .delay _ => false }
  applied shared := shared.master.applied
  sightings r before after :=
    (after.master.bus.log.drop before.master.bus.log.length).filterMap (Event.sighting? r)
  noted
    | .change _, _ => []
    | .reset, shared => if shared.locked then [] else [.forgotten]

theorem SharedBus.sightings_of_log {r : interface.Request} {before after : SharedBus}
    {events : List Event} (log : after.master.bus.log = before.master.bus.log ++ events) :
    settings.sightings r before after = events.filterMap (Event.sighting? r) := by
  simp [settings, log]

section

variable (r : interface.Request)

theorem Transaction.sighting_told (t : Transaction) (event : Event)
    (quiet : event.sighting? r = none) :
    (t.told [event]).filterMap (Event.sighting? r) = [] := by
  unfold told
  split <;> simp [quiet]

theorem Transaction.sighting_refused (t : Transaction) :
    (t.told [.attaching false] ++ t.told [.detaching .failedToAttach]).filterMap
      (Event.sighting? r) = [] := by
  rw [List.filterMap_append, t.sighting_told r (.attaching false) rfl,
    t.sighting_told r (.detaching .failedToAttach) rfl]
  rfl

theorem Transaction.sighting_body {t : Transaction} {body : List Event}
    (part : body <+: t.events) : body.filterMap (Event.sighting? r) = [] := by
  rw [List.filterMap_eq_nil_iff]
  intro event mem
  obtain ⟨segment, -, rfl⟩ := List.mem_map.1 (part.subset mem)
  cases segment <;> rfl

theorem Master.sighting_due (master : Master) (timing : Option Timing) :
    ((master.due timing).toList.map Event.timed).filterMap (Event.sighting? r) =
      (Chronicle.due master.applied timing).toList.map (.applied r) := by
  change _ = (master.due timing).toList.map (Sighting.applied r)
  cases master.due timing <;> rfl

theorem Master.complete_quiet (master : Master) (t : Transaction) : ∃ rest,
    (master.complete t).2.bus.log = master.bus.log ++ rest ∧
      rest.filterMap (Event.sighting? r) = [] ∧
      (master.complete t).2.applied = master.applied := by
  obtain ⟨received, body, bus, part, log, ends⟩ := master.complete_cases t
  have quiet (cause : DetachCause) : (body ++ [Event.stop t.address] ++
      t.told [.detaching cause]).filterMap (Event.sighting? r) = [] := by
    rw [List.filterMap_append, List.filterMap_append, Transaction.sighting_body r part,
      t.sighting_told r (.detaching cause) rfl]
    rfl
  obtain ⟨-, eq⟩ | ⟨kind, eq⟩ := ends
  · refine ⟨_, ?_, quiet .normalStop, by rw [eq]⟩
    rw [eq]
    simp [log]
  · refine ⟨_, ?_, quiet .errorCondition, by rw [eq]⟩
    rw [eq]
    simp [log]

end

namespace SharedBus

variable {r : interface.Request} {shared after : SharedBus} {rest : List Event}

theorem shows_of_opened {timing : Option Timing} {t : Transaction}
    (goes : settings.terms.goes r = true) (carries : settings.terms.setting r = timing)
    (quiet : rest.filterMap (Event.sighting? r) = [])
    (log : after.master.bus.log = (shared.master.opened timing t).bus.log ++ rest)
    (applied : after.master.applied = (shared.master.opened timing t).applied) :
    settings.Shows r shared after := by
  subst carries
  refine .opens goes ?_ ?_
  · rw [Master.opened_log, List.append_assoc] at log
    rw [sightings_of_log log]
    simp only [List.filterMap_append, Master.sighting_due, quiet,
      t.sighting_told r (.attaching true) rfl, t.sighting_told r .sequenced rfl]
    simp [Chronicle.opening, Event.sighting?, settings]
  · simp [applied, Master.opened, Master.time_eq, settings]

theorem shows_of_log (log : after.master.bus.log = shared.master.bus.log ++ rest)
    (quiet : rest.filterMap (Event.sighting? r) = [])
    (applied : after.master.applied = shared.master.applied) : settings.Shows r shared after :=
  .nothing ((sightings_of_log log).trans quiet) applied

theorem shows_of_same (log : after.master.bus.log = shared.master.bus.log)
    (applied : after.master.applied = shared.master.applied) : settings.Shows r shared after :=
  shows_of_log (log.trans (List.append_nil _).symm) rfl applied

theorem transact_shows {timing : Option Timing} {t : Transaction} {turn : Turn}
    (carried : InFlight (.transact timing t) turn) :
    settings.Shows (.transact timing t) shared (turn.poll shared).2 := by
  cases carried with
  | waiting =>
    have waited := Turn.poll_waiting shared timing t
    generalize (Turn.waiting timing t).poll shared = polled at waited ⊢
    cases waited with
    | held locked => exact shows_of_same rfl rfl
    | refused free refused => exact shows_of_log rfl (t.sighting_refused _) rfl
    | through free accepted =>
      obtain ⟨rest, log, quiet, applied⟩ :=
        (shared.master.opened timing t).complete_quiet _ t.attached
      exact shows_of_opened accepted rfl quiet log applied
    | begun free accepted left =>
      exact shows_of_opened accepted rfl rfl (List.append_nil _).symm rfl
  | @holding _ _ left accepted =>
    cases left with
    | zero =>
      obtain ⟨rest, log, quiet, applied⟩ := shared.master.complete_quiet _ t.attached
      exact shows_of_log log quiet applied
    | succ left => exact shows_of_same rfl rfl

theorem delay_shows (duration : Delay) (pause : Pause) :
    settings.Shows (.delay duration) shared (pause.poll duration shared).2 := by
  cases pause with
  | fresh =>
    simp only [Pause.poll]
    split <;> exact shows_of_log rfl rfl rfl
  | suspended left => cases left <;> exact shows_of_same rfl rfl

theorem drop_shows (r : interface.Request) (flight : SharedBus.Flight r) (shared : SharedBus) :
    settings.Shows r shared (SharedBus.medium.drop r flight shared) := by
  cases r with
  | delay => exact shows_of_same rfl rfl
  | transact timing t =>
    cases (flight : Turn) with
    | waiting => exact shows_of_same rfl rfl
    | holding exchange =>
      have eq := shared.master.abandon_eq exchange
      refine shows_of_log (congrArg (·.bus.log) eq) ?_ (congrArg (·.applied) eq)
      exact exchange.transaction.sighting_told _ (.detaching _) rfl

theorem intervene_acts (intervention : Intervention) (shared : SharedBus) :
    settings.Acts intervention shared (shared.intervene intervention) := by
  cases intervention with
  | change f => exact .nothing rfl rfl
  | reset =>
    cases locked : shared.locked with
    | true =>
      refine .nothing ?_ ?_
      · simp [settings, locked]
      · simp [settings, SharedBus.intervene, locked]
    | false =>
      refine .forgets ?_ ?_
      · simp [settings, locked]
      · simp [settings, SharedBus.intervene, locked, Master.reset]

def Carries : (r : interface.Request) → SharedBus.Flight r → Prop
  | .transact timing t, flight => InFlight (.transact timing t) flight
  | .delay _, _ => True

theorem settings_lawful : settings.Lawful SharedBus.medium SharedBus.intervene Carries where
  launch r := by
    cases r with
    | transact => exact .waiting
    | delay => trivial
  poll {r flight shared answer after} carries polled := by
    rw [show after = (SharedBus.medium.poll r flight shared).2 by rw [polled]]
    cases r with
    | transact timing t => exact transact_shows carries
    | delay duration => exact delay_shows duration flight
  pending {r flight shared flight' after} carries polled := by
    cases r with
    | transact timing t => exact InFlight.poll carries polled
    | delay duration => trivial
  drop := drop_shows
  act := intervene_acts

end SharedBus

end SensorBus.I2c
