import SensorBus.Proofs.Bme280.Learning
import SensorBus.Proofs.I2c.Lone

namespace SensorBus

namespace I2c.Target

/-- What a register shows on successive reads of nothing else. -/
def shows (target : Target) (register : UInt8) : Nat → UInt8
  | 0 => (target.select register).readByte.1
  | i + 1 => (target.select register).readByte.2.shows register i

theorem readByte_scripted {target : Target} {value : UInt8} {rest : List UInt8}
    (scripted : target.script target.pointer = value :: rest) :
    target.readByte.1 = value ∧ target.readByte.2.script target.pointer = rest := by
  simp only [script] at scripted
  simp only [readByte]
  split
  · next empty =>
    rw [scripted] at empty
    cases empty
  · next found =>
    rw [scripted] at found
    cases found
    simp [script]

theorem shows_of_script {target : Target} {register : UInt8}
    (unmasked : register &&& target.mask = register) {values : List UInt8}
    (scripted : target.script register = values) (i : Nat) (lt : i < values.length) :
    target.shows register i = values[i] := by
  induction values generalizing target i with
  | nil => cases lt
  | cons value rest ih =>
    have pointer : (target.select register).pointer = register := unmasked
    have there : (target.select register).script (target.select register).pointer =
        value :: rest := by
      rw [pointer]
      exact scripted
    obtain ⟨shown, left⟩ := readByte_scripted there
    rw [pointer] at left
    cases i with
    | zero => exact shown
    | succ i =>
      have mask := (target.select register).readByte_pointer.2
      exact ih (by rw [mask]; exact unmasked) left i (Nat.lt_of_succ_lt_succ lt)

end I2c.Target

namespace Bme280

open I2c

section

variable {device : Device} {shared : SharedBus} {target : Target} {log : List Event}
  {mask : UInt8} (driver : Bme280)

def BusyFor (target : Target) (mask : UInt8) (reads : Nat) : Prop :=
  ∀ i < reads, target.shows Register.status i &&& mask ≠ 0

/-- So many reads of the status in a row that have the bit set, and the next one that has not. -/
structure ClearAfter (target : Target) (mask : UInt8) (reads : Nat) : Prop where
  busy : BusyFor target mask reads
  clear : target.shows Register.status reads &&& mask = 0

def statusRead (device : Device) : List Event := device.readEvents Register.status 1

def busyPolls (device : Device) (count : Nat) : List Event :=
  (List.replicate count (statusRead device ++ [.delayed (.milliseconds 1)])).flatten

theorem awaitClear_once (stands : device.Stands shared (target, log))
    (busy : (target.select Register.status).readByte.1 &&& mask ≠ 0) (attempts : Nat) :
    ∃ after, (awaitClear device mask (attempts + 1)).run.run SharedBus.medium driver shared =
        (awaitClear device mask attempts).run.run SharedBus.medium driver after ∧
      device.Stands after ((target.select Register.status).readByte.2,
        log ++ (statusRead device ++ [.delayed (.milliseconds 1)])) := by
  obtain ⟨between, read, stands'⟩ := stands.finds.readRegister driver Register.status
  rw [stands.ahead] at stands'
  obtain ⟨after, paused, left⟩ := stands'.pause driver (.milliseconds 1)
  rw [List.append_assoc] at left
  refine ⟨after, ?_, left⟩
  dsimp only at read
  rw [awaitClear, run_attempt_ok read, if_neg busy]
  exact run_attempt_ok paused

theorem awaitClear_busyFor {reads : Nat} (stands : device.Stands shared (target, log))
    (busy : BusyFor target mask reads) (attempts : Nat) :
    ∃ left after,
      (awaitClear device mask (reads + attempts)).run.run SharedBus.medium driver shared =
        (awaitClear device mask attempts).run.run SharedBus.medium driver after ∧
      device.Stands after (left, log ++ busyPolls device reads) ∧
      ∀ i, left.shows Register.status i = target.shows Register.status (reads + i) := by
  -- On the busy reads; the attempts that are left over stay the same.
  induction reads generalizing target log shared with
  | zero =>
    refine ⟨target, shared, ?_, ?_, fun i => ?_⟩
    · rw [Nat.zero_add]
    · simpa [busyPolls] using stands
    · rw [Nat.zero_add]
  | succ reads ih =>
    obtain ⟨between, once, stands⟩ :=
      awaitClear_once driver stands (busy 0 (Nat.succ_pos _)) (reads + attempts)
    obtain ⟨left, after, came, stands, shows⟩ :=
      ih stands fun i lt => busy (i + 1) (Nat.succ_lt_succ lt)
    refine ⟨left, after, ?_, ?_, fun i => ?_⟩
    · rw [Nat.succ_add, once, came]
    · rw [List.append_assoc] at stands
      simpa [busyPolls, List.replicate_succ] using stands
    · rw [shows, Nat.succ_add]
      rfl

theorem awaitClear_timeout {attempts : Nat} (stands : device.Stands shared (target, log))
    (busy : BusyFor target mask attempts) :
    ∃ left, ComesTo device.Stands
      ((awaitClear device mask attempts).run.run SharedBus.medium driver shared)
      (.error .timeout) driver (left, log ++ busyPolls device attempts) := by
  obtain ⟨left, after, came, stands, -⟩ := awaitClear_busyFor driver stands busy 0
  exact ⟨left, after, came, stands⟩

theorem awaitClear_clear {reads attempts : Nat} (stands : device.Stands shared (target, log))
    (clear : ClearAfter target mask reads) (lt : reads < attempts) :
    ∃ left, ComesTo device.Stands
      ((awaitClear device mask attempts).run.run SharedBus.medium driver shared) (.ok ()) driver
      (left, log ++ (busyPolls device reads ++ statusRead device)) := by
  obtain ⟨attempts, rfl⟩ := Nat.exists_eq_add_of_lt lt
  obtain ⟨left, between, came, stands, shows⟩ :=
    awaitClear_busyFor driver stands clear.busy (attempts + 1)
  have free : (left.select Register.status).readByte.1 &&& mask = 0 := by
    have shown : (left.select Register.status).readByte.1 = _ := shows 0
    rw [shown]
    exact clear.clear
  obtain ⟨after, read, stands'⟩ := stands.finds.readRegister driver Register.status
  rw [stands.ahead, List.append_assoc] at stands'
  refine ⟨_, after, ?_, stands'⟩
  dsimp only at read
  rw [Nat.add_assoc, came, awaitClear, run_attempt_ok read, if_pos free]
  rfl

def calibrationReads (device : Device) (chip : Chip) : List Event :=
  device.readEvents Register.lowCalibration 26 ++
    if chip.hasHumidity then device.readEvents Register.highCalibration 7 else []

def settingsWrites (device : Device) (config : Config) (chip : Chip) : List Event :=
  (config.settings chip).flatMap fun access => device.writeEvents access.1 access.2

theorem identify_comes (finds : device.Finds shared target) {chip : Chip}
    (known : Chip.ofId (target.select Register.chipId).readByte.1 = .ok chip) :
    ComesTo device.Stands ((identify device).run.run SharedBus.medium driver shared) (.ok ())
      { driver with chip } ((target.select Register.chipId).readByte.2,
        device.ahead shared ++ device.readEvents Register.chipId 1) := by
  obtain ⟨after, id, stands⟩ := finds.readRegister driver Register.chipId
  refine ⟨after, ?_, stands⟩
  rw [identify, run_attempt_ok id, known]
  rfl

theorem readCalibration_comes (stands : device.Stands shared (target, log)) :
    ∃ calibration left, ComesTo device.Stands
      ((readCalibration device).run.run SharedBus.medium driver shared) (.ok ())
      { driver with calibration } (left, log ++ calibrationReads device driver.chip) := by
  obtain ⟨between, low, stands'⟩ :=
    stands.finds.registers driver Register.lowCalibration (show 0 < 26 by decide)
  rw [stands.ahead] at stands'
  rw [readCalibration, run_attempt_ok low, run_attempt_get, calibrationReads]
  split
  · obtain ⟨after, high, stands⟩ :=
      stands'.finds.registers driver Register.highCalibration (show 0 < 7 by decide)
    rw [stands'.ahead, List.append_assoc] at stands
    rw [run_attempt_ok high]
    exact ⟨_, _, after, rfl, stands⟩
  · rw [List.append_nil]
    exact ⟨_, _, between, rfl, stands'⟩

theorem settings_come (stands : device.Stands shared (target, log)) (config : Config) :
    ∃ left, ComesTo device.Stands
      ((do
        device.writeRegister Register.config config.configByte
        device.writeRegister Register.ctrlMeas config.ctrlMeas
        modify fun driver => { driver with config } : Attempt Unit).run.run SharedBus.medium driver
          shared) (.ok ()) { driver with config }
      (left, log ++ (device.writeEvents Register.config config.configByte ++
        device.writeEvents Register.ctrlMeas config.ctrlMeas)) := by
  obtain ⟨between, filter, stands'⟩ :=
    stands.finds.writeRegister driver Register.config config.configByte
  obtain ⟨after, control, left⟩ :=
    stands'.finds.writeRegister driver Register.ctrlMeas config.ctrlMeas
  rw [stands'.ahead, stands.ahead, List.append_assoc] at left
  rw [run_attempt_ok filter, run_attempt_ok control]
  exact ⟨_, after, rfl, left⟩

theorem configure_comes (stands : device.Stands shared (target, log)) (config : Config) :
    ∃ left, ComesTo device.Stands
      ((configure device config).run.run SharedBus.medium driver shared) (.ok ())
      { driver with config } (left, log ++ settingsWrites device config driver.chip) := by
  rw [configure, run_attempt_get]
  cases humid : driver.chip.hasHumidity with
  | true =>
    obtain ⟨between, wrote, stands'⟩ :=
      stands.finds.writeRegister driver Register.ctrlHum config.ctrlHum
    rw [stands.ahead] at stands'
    obtain ⟨left, came⟩ := settings_come driver stands' config
    rw [List.append_assoc] at came
    refine ⟨left, ?_⟩
    rw [if_pos rfl, run_attempt_ok wrote]
    simpa [settingsWrites, Config.settings, humid] using came
  | false =>
    obtain ⟨left, came⟩ := settings_come driver stands config
    refine ⟨left, ?_⟩
    simpa [settingsWrites, Config.settings, humid] using came

theorem readData_comes (stands : device.Stands shared (target, log)) :
    ∃ measurement left, ComesTo device.Stands
      ((readData device).run.run SharedBus.medium driver shared) (.ok measurement)
      { driver with measurement }
      (left, log ++ device.readEvents Register.data (width driver.chip)) := by
  have pos : 0 < width driver.chip := by
    unfold width
    split <;> decide
  obtain ⟨after, read, left⟩ := stands.finds.registers driver Register.data pos
  rw [stands.ahead] at left
  have burst : device.registers Register.data (if driver.chip.hasHumidity then 8 else 6) =
    (device.registers Register.data (width driver.chip) : Attempt (List UInt8)) := rfl
  rw [readData, run_attempt_get, burst, run_attempt_ok read]
  exact ⟨_, _, after, rfl, left⟩

def afterReset (target : Target) : Target :=
  ((target.select Register.chipId).readByte.2.write false [Register.reset, resetCommand]).1

def resetEvents (device : Device) : List Event :=
  device.readEvents Register.chipId 1 ++
    (device.writeEvents Register.reset resetCommand ++ [.delayed (.milliseconds 2)])

def afterTrigger (driver : Bme280) (target : Target) : Target :=
  (target.write false [Register.ctrlMeas, driver.config.measurementControl .forced]).1

def triggerEvents (device : Device) (driver : Bme280) : List Event :=
  device.writeEvents Register.ctrlMeas (driver.config.measurementControl .forced) ++
    [.delayed (.microseconds driver.maxMeasurementTime)]

section

variable (finds : device.Finds shared target)

include finds

theorem start_begins {chip : Chip}
    (known : Chip.ofId (target.select Register.chipId).readByte.1 = .ok chip) (config : Config) :
    ∃ after, (start device config).run.run SharedBus.medium driver shared =
      (do
        awaitClear device updating pollAttempts
        readCalibration device
        configure device config
        return (← get).chip : Attempt Chip).run.run SharedBus.medium { driver with chip } after ∧
      device.Stands after (afterReset target, device.ahead shared ++ resetEvents device) := by
  obtain ⟨first, identified, stands⟩ := identify_comes driver finds known
  obtain ⟨second, reset, stands'⟩ :=
    stands.finds.writeRegister { driver with chip } Register.reset resetCommand
  obtain ⟨third, paused, left⟩ := stands'.pause { driver with chip } (.milliseconds 2)
  rw [stands.ahead, List.append_assoc, List.append_assoc] at left
  refine ⟨third, ?_, left⟩
  rw [start, run_attempt_ok identified, run_attempt_ok reset, run_attempt_ok paused]

theorem measureForced_begins :
    ∃ after, (measureForced device).run.run SharedBus.medium driver shared =
      (do
        awaitClear device measuring pollAttempts
        readData device : Attempt Measurement).run.run SharedBus.medium driver after ∧
      device.Stands after
        (afterTrigger driver target, device.ahead shared ++ triggerEvents device driver) := by
  obtain ⟨first, wrote, stands⟩ := finds.writeRegister driver Register.ctrlMeas
    (driver.config.measurementControl .forced)
  obtain ⟨second, paused, left⟩ := stands.pause driver (.microseconds driver.maxMeasurementTime)
  rw [List.append_assoc] at left
  refine ⟨second, ?_, left⟩
  rw [measureForced, run_attempt_get, run_attempt_ok wrote, run_attempt_ok paused]

end

/-- The attempt, carried out in one go, has this result and leaves this driver, and the log goes on
with these events. -/
def Yields {α : Type} (x : Attempt α) (device : Device) (driver : Bme280) (shared : SharedBus)
    (result : Except Error α) (left : Bme280) (events : List Event) : Prop :=
  ∃ after, x.run.run SharedBus.medium driver shared = (result, left, after) ∧
    after.master.bus.log = device.ahead shared ++ events

section

variable (finds : device.Finds shared target)

include finds

theorem start_clear {chip : Chip} {reads : Nat}
    (known : Chip.ofId (target.select Register.chipId).readByte.1 = .ok chip)
    (lt : reads < pollAttempts) (clear : ClearAfter (afterReset target) updating reads)
    (config : Config) :
    ∃ calibration, Yields (start device config) device driver shared (.ok chip)
      { driver with chip, calibration, config }
      (resetEvents device ++ (busyPolls device reads ++ statusRead device) ++
        calibrationReads device chip ++ settingsWrites device config chip) := by
  obtain ⟨first, begun, stands⟩ := start_begins driver finds known config
  obtain ⟨_, second, cleared, stands⟩ := awaitClear_clear { driver with chip } stands clear lt
  obtain ⟨calibration, _, third, read, stands⟩ :=
    readCalibration_comes { driver with chip } stands
  obtain ⟨_, fourth, configured, stands⟩ :=
    configure_comes { driver with chip, calibration } stands config
  refine ⟨calibration, fourth, ?_, ?_⟩
  · rw [begun, run_attempt_ok cleared, run_attempt_ok read, run_attempt_ok configured]
    rfl
  · simpa only [List.append_assoc] using stands.log

theorem start_timeout {chip : Chip}
    (known : Chip.ofId (target.select Register.chipId).readByte.1 = .ok chip)
    (busy : BusyFor (afterReset target) updating pollAttempts) (config : Config) :
    Yields (start device config) device driver shared (.error .timeout) { driver with chip }
      (resetEvents device ++ busyPolls device pollAttempts) := by
  obtain ⟨first, begun, stands⟩ := start_begins driver finds known config
  obtain ⟨_, after, stopped, stands⟩ := awaitClear_timeout { driver with chip } stands busy
  refine ⟨after, ?_, ?_⟩
  · rw [begun, run_attempt_error stopped]
  · simpa only [List.append_assoc] using stands.log

theorem measureForced_clear {reads : Nat} (lt : reads < pollAttempts)
    (clear : ClearAfter (afterTrigger driver target) measuring reads) :
    ∃ measurement, Yields (measureForced device) device driver shared (.ok measurement)
      { driver with measurement }
      (triggerEvents device driver ++ (busyPolls device reads ++ statusRead device) ++
        device.readEvents Register.data (width driver.chip)) := by
  obtain ⟨first, begun, stands⟩ := measureForced_begins driver finds
  obtain ⟨_, second, cleared, stands⟩ := awaitClear_clear driver stands clear lt
  obtain ⟨measurement, _, third, read, stands⟩ := readData_comes driver stands
  refine ⟨measurement, third, ?_, ?_⟩
  · rw [begun, run_attempt_ok cleared, read]
  · simpa only [List.append_assoc] using stands.log

theorem measureForced_timeout (busy : BusyFor (afterTrigger driver target) measuring pollAttempts) :
    Yields (measureForced device) device driver shared (.error .timeout) driver
      (triggerEvents device driver ++ busyPolls device pollAttempts) := by
  obtain ⟨first, begun, stands⟩ := measureForced_begins driver finds
  obtain ⟨_, after, stopped, stands⟩ := awaitClear_timeout driver stands busy
  refine ⟨after, ?_, ?_⟩
  · rw [begun, run_attempt_error stopped]
  · simpa only [List.append_assoc] using stands.log

/-- A call of a sensor that is busy on the first `k` polls, fewer than ten, makes `k + 1` of them
with a pause after each but the last, and is carried to its end. If the sensor is busy ten times,
the call makes ten polls with a pause after each and gives up, with nothing new in the driver but
the chip. -/
theorem polls_until_clear :
    (∀ (config : Config) (chip : Chip),
      Chip.ofId (target.select Register.chipId).readByte.1 = .ok chip →
        (∀ k < 10, ClearAfter (afterReset target) updating k → ∃ calibration,
          Yields (start device config) device driver shared (.ok chip)
            { driver with chip, calibration, config }
            (resetEvents device ++ (busyPolls device k ++ statusRead device) ++
              calibrationReads device chip ++ settingsWrites device config chip)) ∧
        (BusyFor (afterReset target) updating 10 →
          Yields (start device config) device driver shared (.error .timeout) { driver with chip }
            (resetEvents device ++ busyPolls device 10))) ∧
      (∀ k < 10, ClearAfter (afterTrigger driver target) measuring k → ∃ measurement,
        Yields (measureForced device) device driver shared (.ok measurement)
          { driver with measurement }
          (triggerEvents device driver ++ (busyPolls device k ++ statusRead device) ++
            device.readEvents Register.data (width driver.chip))) ∧
      (BusyFor (afterTrigger driver target) measuring 10 →
        Yields (measureForced device) device driver shared (.error .timeout) driver
          (triggerEvents device driver ++ busyPolls device 10)) :=
  ⟨fun config _ known =>
    ⟨fun _ lt clear => start_clear driver finds known lt clear config,
      fun busy => start_timeout driver finds known busy config⟩,
    fun _ lt clear => measureForced_clear driver finds lt clear,
    fun busy => measureForced_timeout driver finds busy⟩

end

end

namespace SlowSensor

theorem raw_le : (0x76 : UInt8) ≤ 0x7F := by decide

def device : Device := { address := ⟨0x76, raw_le⟩, timing := some ⟨400000⟩ }

def sensor : Target :=
  ({ registers := (RegisterFile.blank).set 0xD0 0x60 : Target }).addScript Register.status
    [0x09, 0x09, 0x08]

def shared : SharedBus :=
  { master := { bus := ({} : Bus).setTarget 0x76 (some sensor) } }

theorem finds : device.Finds shared sensor := ⟨rfl, fun _ mem => (nomatch mem), rfl⟩

theorem clearAfter : ClearAfter (afterReset sensor) updating 2 := by
  have scripted : (afterReset sensor).script Register.status = [0x09, 0x09, 0x08] := by
    decide +kernel
  have unmasked : Register.status &&& (afterReset sensor).mask = Register.status := rfl
  have shows := Target.shows_of_script unmasked scripted
  refine ⟨fun i lt => ?_, ?_⟩
  · obtain rfl | rfl : i = 0 ∨ i = 1 := by omega
    · rw [shows 0 (by decide)]
      decide
    · rw [shows 1 (by decide)]
      decide
  · rw [shows 2 (by decide)]
    decide

theorem starts_and_never_measures :
    device.Finds shared sensor ∧ (∃ calibration,
      Yields (start device {}) device {} shared (.ok .bme280) { calibration }
        (resetEvents device ++ (busyPolls device 2 ++ statusRead device) ++
          calibrationReads device .bme280 ++ settingsWrites device {} .bme280)) ∧
      Yields (measureForced device) device {} shared (.error .timeout) {}
        (triggerEvents device {} ++ busyPolls device 10) := by
  obtain ⟨starts, -, stuck⟩ := polls_until_clear {} finds
  refine ⟨finds, (starts {} .bme280 rfl).1 2 (by decide) clearAfter, stuck ?_⟩
  unfold BusyFor
  decide +kernel

end SlowSensor

end Bme280

end SensorBus
