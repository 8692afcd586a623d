import SensorBus.Bme280.Compensation
import SensorBus.Proofs.Bme280.Bench

namespace SensorBus.Bme280

open I2c

/-- The registers hold the settings, and what a forced measurement has made of them since. -/
structure Holds (config : Config) (chip : Chip) (since : Record interface) (target : Target) :
    Prop where
  filter : target.byte Register.config = config.configByte
  control : target.byte Register.ctrlMeas =
    if writesOf since = [] then config.ctrlMeas else config.measurementControl .forced
  humidity : chip.hasHumidity = true → target.byte Register.ctrlHum = config.ctrlHum

theorem Shows.holds {config : Config} {chip : Chip} {before : UInt8 → UInt8}
    {past written since : Record interface} {target : Target}
    (shows : Shows (· ∈ writable) before ((past ++ written) ++ since) target)
    (wrote : written.map writeOf? = (config.settings chip).map some)
    (forces : ∀ access ∈ writesOf since,
      access = (Register.ctrlMeas, config.measurementControl .forced)) :
    Holds config chip since target := by
  have once {register value : UInt8} (mem : (register, value) ∈ config.settings chip) :
      stored before (past ++ written) register = value := by
    rw [← writesOf_eq wrote] at mem
    rw [stored_append]
    refine stored_once ?_ mem
    rw [writesOf_eq wrote]
    exact config.nodup_settings chip
  have elsewhere {register : UInt8} (ne : Register.ctrlMeas ≠ register) :
      ∀ access ∈ writesOf since, access.1 ≠ register := by
    intro access mem
    rw [forces access mem]
    exact ne
  constructor
  case filter =>
    rw [shows.byte _ (by decide), stored_append, stored_elsewhere (elsewhere (by decide))]
    exact once (by simp [Config.settings])
  case control =>
    have mem : (Register.ctrlMeas, config.ctrlMeas) ∈ config.settings chip := by
      simp [Config.settings]
    rw [shows.byte _ (by decide), stored_append, stored_repeated forces, once mem]
  case humidity =>
    intro humid
    rw [shows.byte _ (by decide), stored_append, stored_elsewhere (elsewhere (by decide))]
    exact once (by simp [Config.settings, humid])

def selected? : interface.Request → Option UInt8
  | .transact _ t =>
    match t.sequence.segments with
    | .write (register :: _) :: _ => some register
    | _ => none
  | .delay _ => none

def taken : interface.Request → Nat
  | .transact _ t => t.sequence.readLength
  | .delay _ => 0

structure Dry (r : interface.Request) : Prop where
  control : selected? r ≠ some Register.ctrlHum
  calibration : selected? r ≠ some Register.highCalibration
  data : selected? r = some Register.data → taken r = 6

theorem reading_selects (device : Device) (register : UInt8) (count : Nat) :
    selected? (device.reading register count) = some register ∧
      taken (device.reading register count) = count := by
  cases count with
  | zero => exact ⟨rfl, rfl⟩
  | succ count =>
    refine ⟨rfl, ?_⟩
    simp [taken, Device.reading, Transaction.sequence, Body.sequence, Sequence.normalized,
      Sequence.readLength, List.replicate_succ]

theorem Call.reads_dry {call : Call} {driver : Bme280} (chip : driver.chip = .bmp280)
    {access : UInt8 × Nat} (mem : access ∈ call.reads driver) :
    access.1 ≠ Register.ctrlHum ∧ access.1 ≠ Register.highCalibration ∧
      (access.1 = Register.data → access.2 = 6) := by
  cases call <;> simp only [reads, width, chip] at mem <;> revert access <;> decide

theorem Call.writes_dry {call : Call} {driver : Bme280} (chip : driver.chip = .bmp280)
    {access : UInt8 × UInt8} (mem : access ∈ call.writes driver) :
    access.1 ≠ Register.ctrlHum ∧ access.1 ≠ Register.highCalibration ∧
      access.1 ≠ Register.data := by
  have registers : access.1 = Register.reset ∨ access.1 = Register.config ∨
      access.1 = Register.ctrlMeas := by
    cases call <;> grind [writes, Config.settings, Chip.hasHumidity]
  obtain same | same | same := registers <;> rw [same] <;> decide

theorem Permits.dry {device : Device} {call : Call} {driver : Bme280} {r : interface.Request}
    (permits : Permits device call driver r) (chip : driver.chip = .bmp280) : Dry r := by
  cases permits with
  | delay => exact ⟨nofun, nofun, nofun⟩
  | @read register count mem =>
    obtain ⟨selected, took⟩ := reading_selects device register count
    obtain ⟨control, calibration, data⟩ := Call.reads_dry chip mem
    constructor
    · simpa only [selected, ne_eq, Option.some.injEq] using control
    · simpa only [selected, ne_eq, Option.some.injEq] using calibration
    · simpa only [selected, took, Option.some.injEq] using data
  | @write register value mem =>
    have selected : selected? (device.writing register value) = some register := rfl
    obtain ⟨control, calibration, data⟩ := Call.writes_dry chip mem
    constructor
    · simpa only [selected, ne_eq, Option.some.injEq] using control
    · simpa only [selected, ne_eq, Option.some.injEq] using calibration
    · intro same
      rw [selected] at same
      exact absurd (Option.some.inj same) data

def Spares (device : Device) (shared after : SharedBus) : Prop :=
  ∀ target, shared.master.bus.target? device.address.raw = some target →
    ∃ target', after.master.bus.target? device.address.raw = some target' ∧
      ∀ register, register ∉ writable → target.script register = [] →
        target'.script register = [] ∧ target'.byte register = target.byte register

section

variable {device : Device} {before : UInt8 → UInt8} {first : Chip} {bench : Bench}

end

namespace Barometer

def sensor : Device := { address := ⟨0x77, by decide⟩ }

def target : Target := { registers := RegisterFile.blank.load Register.chipId.toNat [0x58] }

def wires : SharedBus where
  master.bus.targets := (Vector.replicate 256 none).set 0x77 (some target)
  master.bus.yields := 1

def config : Config := { mode := .sleep, filter := .x4 }

def starting : List (Step sensor) :=
  [.start (.start {}), .poll, .drop, .start (.start config), .finish]

def started : Bench :=
  (Rig.rest _ {} (wires, [])).run (Call.operation sensor) (starting.map .recorded)

def forcing : List (Step sensor) := [.start .measureForced, .finish]

def measured : Bench := started.run (Call.operation sensor) (forcing.map .recorded)

end Barometer

end SensorBus.Bme280
