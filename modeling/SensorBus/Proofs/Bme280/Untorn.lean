import SensorBus.Proofs.Bme280.Learning
import SensorBus.Proofs.I2c.Starts

namespace SensorBus.Bme280

open I2c

/-- The parts of the driver after a call, told from the result, if it has come to one, and from the
record: each is the old one or entirely new. -/
structure Untorn (call : Call) (driver after : Bme280) (result? : Option (Except Error Answer))
    (record : Record interface) : Prop where
  config : after.config =
    match result?, call.sets? with
    | some (.ok _), some config => config
    | _, _ => driver.config
  measurement : after.measurement =
    match result? with
    | some (.ok (.measurement measurement)) => measurement
    | _ => driver.measurement
  gives : ∀ answer, result? = some (.ok answer) → call.Gives answer
  chip : after.chip = (known record).chip.getD driver.chip
  calibration : after.calibration =
    ((known record).calibration? after.chip).getD driver.calibration
  low : ∀ bytes, (known record).low = some bytes → bytes.length = 26
  high : ∀ bytes, (known record).high = some bytes → bytes.length = 7
  unread : (∀ config, call ≠ .start config) → known record = {}

section

variable {device : Device} {call : Call} {driver after : Bme280} {record : Record interface}

theorem Observed.untorn (observed : Observed device call driver after record) :
    Untorn call driver after none record := by
  obtain ⟨rfl, proper, low, high⟩ := observed
  exact ⟨rfl, rfl, fun _ h => (nomatch h), rfl, rfl, low, high, proper.unread⟩

theorem Ended.untorn {result : Except Error Answer}
    (ended : Ended device call driver result after record) :
    Untorn call driver after (some result) record := by
  obtain ⟨⟨before, ⟨rfl, proper, low, high⟩, rfl⟩, gives, -, -⟩ := ended
  cases result with
  | error error =>
    exact ⟨rfl, rfl, fun _ h => (nomatch h), rfl, rfl, low, high, fun other => proper.unread other⟩
  | ok answer =>
    refine ⟨?_, ?_, fun _ h => ?_, rfl, rfl, low, high, fun other => proper.unread other⟩
    · cases call <;> rfl
    · cases answer <;> rfl
    · cases h
      exact gives answer rfl

end

/-- However often a call is polled and wherever it is dropped, whatever faults strike: it asks for
the first of the requests that it would make without faults, the first transaction that fails is the
last and gives the result, and each part of the driver is the old one or entirely new. The record
that this is about has no say in what happens, and shows just the transactions that have begun. -/
theorem never_torn (device : Device) (call : Call) (driver : Bme280) (master : Master)
    (polls : Option Nat) :
    let came := (call.operation device).carryOut SharedBus.medium.recorded polls driver
      ({ master }, [])
    let whole := (call.operation device).run SharedBus.medium.recorded driver
      ({ master := master.faultless }, [])
    (call.operation device).carryOut SharedBus.medium polls driver { master } =
        (came.1, came.2.1, came.2.2.1) ∧
      SharedBus.Tallies (SharedBus.starts { master }) came.2.2 ∧
      came.2.2.2.requests <+: whole.2.2.2.requests ∧
      FailedLast came.1.result? came.2.2.2 ∧
      Untorn call driver came.2.1 came.1.result? came.2.2.2 := by
  intro came whole
  obtain ⟨before, failed⟩ := (call.failsFast device).carryOut driver master polls
  refine ⟨SharedBus.medium.unrecorded.carryOut polls (call.operation device) driver
    ({ master }, []), SharedBus.tallies_carryOut (call.operation device) driver master polls,
    before, failed, ?_⟩
  have alone : SharedBus.Alone master.bus.yields master.bus.delaysSuspend { master } :=
    ⟨rfl, rfl, rfl⟩
  have observed := Observed.nil device call driver
  obtain ⟨result, ended, left⟩ | ⟨stopped, left⟩ :=
    (SharedBus.punctual master.bus.yields master.bus.delaysSuspend).along_carryOut
      SharedBus.lawful_perform (call.learns device driver) observed alone polls
  · have ended : came.1.result? = some result := ended
    rw [ended]
    exact left.untorn
  · have stopped : came.1 = .stopped := stopped
    rw [stopped]
    exact left.untorn

end SensorBus.Bme280
