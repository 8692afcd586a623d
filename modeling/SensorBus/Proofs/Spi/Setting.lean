import SensorBus.Proofs.Job.Setting
import SensorBus.Proofs.Spi.Blocks

namespace SensorBus.Spi

def Event.sighting? (r : interface.Request) : Event → Option (Sighting interface Mode)
  | .configured mode => some (.applied r mode)
  | .selected .. => some (.started r)
  | _ => none

/-- A transaction carries the mode of its device, and goes onto the bus unless it has a delay. The
log shows what happens; a reset shows if it takes place. -/
def SharedBus.settings : Settings interface SharedBus Intervention Mode where
  terms :=
    { setting | .transact device _ => device.mode
      goes | .transact _ transfers => !transfers.any Transfer.isDelay }
  applied := SharedBus.applied
  sightings r before after :=
    (after.bus.log.drop before.bus.log.length).filterMap (Event.sighting? r)
  noted
    | .change _, _ => []
    | .reset, shared => if shared.locked then [] else [.forgotten]

theorem SharedBus.sightings_of_log {r : interface.Request} {before after : SharedBus}
    {events : List Event} (log : after.bus.log = before.bus.log ++ events) :
    settings.sightings r before after = events.filterMap (Event.sighting? r) := by
  simp [settings, log]

def Attempt.isInner : Attempt → Bool
  | .call .. | .flush _ | .deselect .. => true
  | .configure _ | .select .. => false

theorem Attempt.sighting_inner (r : interface.Request) {attempts : List Attempt}
    (inner : ∀ attempt ∈ attempts, attempt.isInner = true) :
    (attempts.filterMap Attempt.event?).filterMap (Event.sighting? r) = [] := by
  rw [List.filterMap_filterMap, List.filterMap_eq_nil_iff]
  intro attempt mem
  have inner := inner attempt mem
  cases attempt with
  | configure | select => cases inner
  | deselect => rfl
  | flush result => cases result <;> rfl
  | call transfer result =>
    cases result with
    | error => rfl
    | ok => cases transfer <;> rfl

theorem Carried.inner {bus : Bus} {chip : UInt8} {transfers : List Transfer}
    {called : List Called} {answer : Poll Selected Outcome × Bus}
    (carried : Carried bus chip transfers called answer) : ∃ attempts,
      (∀ attempt ∈ attempts, attempt.isInner = true) ∧ bus.History attempts answer.2 := by
  have calls (more : List Called) : ∀ attempt ∈ more.map Called.attempt,
      attempt.isInner = true := by
    intro attempt mem
    obtain ⟨called, -, rfl⟩ := List.mem_map.1 mem
    rfl
  cases carried with
  | suspended history => exact ⟨_, calls _, history⟩
  | closed history =>
    refine ⟨_, fun attempt mem => ?_, history⟩
    obtain mem | mem := List.mem_append.1 mem
    · exact calls _ attempt mem
    · simp only [List.mem_cons, List.not_mem_nil, or_false] at mem
      obtain rfl | rfl := mem <;> rfl

namespace SharedBus

theorem configure_eq (shared : SharedBus) (mode : Option Mode) :
    (shared.configure mode).bus.log =
        shared.bus.log ++ (Chronicle.due shared.applied mode).toList.map .configured ∧
      (shared.configure mode).applied = (mode <|> shared.applied) := by
  cases mode with
  | none => simp [configure, Chronicle.due]
  | some mode =>
    by_cases same : shared.applied = some mode
    · simp [configure, Chronicle.due, same]
    · simp [configure, Chronicle.due, same, Bus.apply, Bus.note]

variable {r : interface.Request} {shared after : SharedBus} {device : Device}
  {transfers : List Transfer}

theorem shows_of_history {attempts : List Attempt}
    (inner : ∀ attempt ∈ attempts, attempt.isInner = true)
    (history : shared.bus.History attempts after.bus) (applied : after.applied = shared.applied) :
    settings.Shows r shared after :=
  .nothing ((sightings_of_log history.log).trans (Attempt.sighting_inner r inner)) applied

theorem shows_of_same (same : after.bus = shared.bus) (applied : after.applied = shared.applied) :
    settings.Shows r shared after :=
  .nothing (sightings_of_log ((congrArg Bus.log same).trans (List.append_nil _).symm)) applied

theorem sighting_configured (r : interface.Request) (mode : Option Mode) :
    (mode.toList.map Event.configured).filterMap (Event.sighting? r) =
      mode.toList.map (.applied r) := by
  cases mode <;> rfl

theorem shows_of_selected {attempts : List Attempt} (goes : settings.terms.goes r = true)
    (carries : settings.terms.setting r = device.mode)
    (inner : ∀ attempt ∈ attempts, attempt.isInner = true)
    (history : (Turn.select device shared).2.bus.History attempts after.bus)
    (applied : after.applied = (Turn.select device shared).2.applied) :
    settings.Shows r shared after := by
  obtain ⟨configured, remembered⟩ := shared.configure_eq device.mode
  refine .opens goes ?_ ?_
  · have log := history.log
    have select : (Turn.select device shared).2.bus.log =
        (shared.configure device.mode).bus.log ++
          [.selected device.chip (Turn.select device shared).1] := rfl
    rw [select, configured, List.append_assoc, List.append_assoc] at log
    rw [sightings_of_log log]
    rw [List.filterMap_append, List.filterMap_append, Attempt.sighting_inner r inner,
      sighting_configured, carries, List.append_nil]
    rfl
  · rw [carries]
    exact applied.trans remembered

theorem ofPoll_applied (shared : SharedBus) (polled : Poll Selected Outcome × Bus) :
    (Turn.ofPoll shared polled).2.bus = polled.2 ∧
      (Turn.ofPoll shared polled).2.applied = shared.applied := by
  rcases polled with ⟨_ | _, bus⟩ <;> exact ⟨rfl, rfl⟩

theorem waiting_shows :
    settings.Shows (.transact device transfers) shared
      ((Turn.waiting device transfers).poll shared).2 := by
  cases plain : transfers.any Transfer.isDelay with
  | true =>
    simp only [Turn.poll, plain, if_true]
    exact shows_of_same rfl rfl
  | false =>
    have goes : settings.terms.goes (.transact device transfers) = true := by
      simp [settings, plain]
    cases free : shared.locked with
    | true =>
      simp only [Turn.poll, plain, free, Bool.false_eq_true, if_false, if_true]
      exact shows_of_same rfl rfl
    | false =>
      simp only [Turn.poll, plain, free, Bool.false_eq_true, if_false]
      rcases selected : Turn.select device shared with ⟨taken, shared'⟩
      have eq : shared' = (Turn.select device shared).2 := by rw [selected]
      cases taken with
      | false =>
        have inner : ∀ attempt ∈ ([] : List Attempt), attempt.isInner = true :=
          List.forall_mem_nil _
        refine shows_of_selected goes rfl inner ?_ (congrArg _ eq)
        rw [eq]
        exact .nil
      | true =>
        obtain ⟨bus, applied⟩ :=
          ofPoll_applied shared' (Bus.proceed device.chip [] transfers shared'.bus)
        have carried : Carried shared'.bus device.chip transfers [] _ :=
          Bus.proceed_carried transfers [] [] shared'.bus
        obtain ⟨attempts, inner, history⟩ := carried.inner
        refine shows_of_selected goes rfl inner ?_ (applied.trans (congrArg _ eq))
        rw [bus, ← eq]
        exact history

theorem holding_shows {called : List Called} {stage : Stage} {left : Nat}
    (reached : stage.Reached transfers called) :
    settings.Shows r shared ((Turn.holding ⟨device.chip, stage, left⟩).poll shared).2 := by
  cases left with
  | succ left => exact shows_of_same rfl rfl
  | zero =>
    obtain ⟨bus, applied⟩ := ofPoll_applied shared (shared.bus.resume device.chip stage)
    have carried : Carried shared.bus device.chip transfers called _ :=
      shared.bus.resume_carried reached
    obtain ⟨attempts, inner, history⟩ := carried.inner
    refine shows_of_history inner ?_ applied
    exact bus ▸ history

theorem drop_shows (r : interface.Request) (turn : Turn) (shared : SharedBus) :
    settings.Shows r shared (turn.drop shared) := by
  cases turn with
  | waiting => exact shows_of_same rfl rfl
  | holding selected =>
    have history := Bus.History.single (.deselect shared.bus selected.chip)
    refine shows_of_history (fun attempt mem => ?_) history rfl
    cases List.mem_singleton.1 mem
    rfl

theorem intervene_acts (intervention : Intervention) (shared : SharedBus) :
    settings.Acts intervention shared (shared.intervene intervention) := by
  cases intervention with
  | change f => exact .nothing rfl rfl
  | reset =>
    cases locked : shared.locked with
    | true =>
      refine .nothing ?_ ?_
      · simp [settings, locked]
      · simp [settings, SharedBus.intervene, locked]
    | false =>
      refine .forgets ?_ ?_
      · simp [settings, locked]
      · simp [settings, SharedBus.intervene, locked, SharedBus.reset]

def Carries (r : interface.Request) (turn : Turn) : Prop :=
  ∃ written, SharedBus.discipline.Stands r turn written

theorem settings_lawful : settings.Lawful SharedBus.medium SharedBus.intervene Carries where
  launch r := ⟨[], .inl ⟨rfl, rfl⟩⟩
  poll {r turn shared answer after} carries polled := by
    rw [show after = (SharedBus.medium.poll r turn shared).2 by rw [polled]]
    obtain ⟨written, ⟨rfl, -⟩ | midway⟩ := carries
    · cases r with
      | transact device transfers => exact waiting_shows
    · cases midway with
      | waiting => exact waiting_shows
      | holding plain applies reached => exact holding_shows reached
  pending {r turn shared turn' after} carries polled := by
    obtain ⟨written, stands⟩ := carries
    cases lawful.poll r turn written shared _ after stands polled with
    | quietly same stands => exact ⟨_, .inr stands⟩
    | begins free stands => exact ⟨_, .inr stands⟩
    | goesOn held last stands => exact ⟨_, .inr stands⟩
  drop := drop_shows
  act := intervene_acts

end SharedBus

end SensorBus.Spi
