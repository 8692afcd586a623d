import SensorBus.Proofs.Bme280.Stored
import SensorBus.Proofs.Job.Rig

namespace SensorBus.Bme280

open I2c

abbrev Bench := Rig SharedBus.medium.recorded Call Bme280 (Except Error Answer)

/-- Others leave to the driver the registers that it writes. The rest of the device may change. -/
def Untouched (device : Device) (shared after : SharedBus) : Prop :=
  ∀ target, shared.master.bus.target? device.address.raw = some target → target.mask = 0xFF →
    ∃ target', after.master.bus.target? device.address.raw = some target' ∧ target'.mask = 0xFF ∧
      ∀ register ∈ writable, target'.byte register = target.byte register

abbrev Step (device : Device) := Rig.Step Call SharedBus (Untouched device)

def account (device : Device) (registers : UInt8 → Prop) (before : UInt8 → UInt8) :
    Account (showing device registers before).tracking (Call.operation device) where
  holds call start := Observed device call start
  ends call start := Ended device call start
  nothing call start := .nil device call start
  along call start := call.learns device start

section

variable {device : Device} {registers : UInt8 → Prop} {before : UInt8 → UInt8}
  {calls : Call → Prop} {total : Bme280 → Record interface → Prop} {bench : Bench}

end

structure Orderly (device : Device) (first : Chip) (driver : Bme280) (record : Record interface) :
    Prop where
  identified : driver.chip = (known record).chip.getD first
  permitted : record.Each fun past entry => ∃ (call : Call) (start : Bme280),
    start.chip = (known past).chip.getD first ∧ Permits device call start entry.request

/-- Since the settings have been written, nothing has been but one register, and that only to force
a measurement. -/
structure Steady (config : Config) (chip : Chip) (mark : Record interface) (forced : Prop)
    (driver : Bme280) (record : Record interface) : Prop where
  configured : driver.config = config
  identified : driver.chip = chip
  since : ∃ since, record = mark ++ since ∧ ∀ access ∈ writesOf since,
    access = (Register.ctrlMeas, config.measurementControl .forced) ∧ forced

section

variable {device : Device} {call : Call} {start driver : Bme280}
  {base own record : Record interface} {result : Except Error Answer}

theorem Permits.writes_of {entry : Entry interface}
    (permits : Permits device call driver entry.request) {access : UInt8 × UInt8}
    (wrote : writeOf? entry = some access) : access ∈ call.writes driver := by
  obtain ⟨request, reply⟩ := entry
  cases permits with
  | delay => cases wrote
  | read => rcases reply with _ | ⟨error | ⟨⟩, t⟩ <;> cases wrote
  | write mem =>
    rcases reply with _ | ⟨error | ⟨⟩, t⟩ <;> cases wrote
    exact mem

theorem Call.writes_forced (unset : call.sets? = none) {access : UInt8 × UInt8}
    (mem : access ∈ call.writes driver) : call = .measureForced ∧
      access = (Register.ctrlMeas, driver.config.measurementControl .forced) := by
  cases call with
  | start | configure => cases unset
  | readData | isMeasuring => cases mem
  | measureForced => exact ⟨rfl, List.mem_singleton.1 mem⟩

namespace Orderly

variable {first : Chip}

theorem plain (orderly : Orderly device first driver record) :
    ∀ entry ∈ record, Plain device entry.request := by
  intro entry mem
  obtain ⟨past, call, start, -, permits⟩ := orderly.permitted.of_mem mem
  exact permits.plain

theorem observed (before : Orderly device first start base)
    (observed : Observed device call start driver own) :
    Orderly device first driver (base ++ own) where
  identified := by
    rw [observed.driver, known_chip, Option.getD_or, ← before.identified]
    rfl
  permitted := by
    refine Record.each_append.2 ⟨before.permitted, fun past entry rest split => ?_⟩
    refine ⟨call, (known past).driver start, ?_, observed.proper past entry rest split⟩
    rw [known_chip, Option.getD_or, ← before.identified]
    rfl

theorem ended (before : Orderly device first start base)
    (ended : Ended device call start result driver own) :
    Orderly device first driver (base ++ own) := by
  obtain ⟨⟨driver, observed, rfl⟩, -⟩ := ended
  obtain ⟨known, permitted⟩ := before.observed observed
  refine ⟨?_, permitted⟩
  cases result <;> exact known

end Orderly

namespace Steady

variable {config : Config} {chip : Chip} {mark : Record interface} {forced : Prop}

theorem observed (before : Steady config chip mark forced start base) (unset : call.sets? = none)
    (force : call = .measureForced → forced) (observed : Observed device call start driver own) :
    Steady config chip mark forced driver (base ++ own) := by
  have other (config : Config) : call ≠ .start config := by
    rintro rfl
    cases unset
  -- Only a start learns anything of the chip.
  have same : driver = start := by
    rw [observed.driver, observed.proper.unread other, Known.driver_nothing]
  obtain ⟨since, rfl, repeated⟩ := before.since
  rw [same]
  refine ⟨before.configured, before.identified, since ++ own, List.append_assoc .., ?_⟩
  intro access mem
  rw [writesOf, List.filterMap_append] at mem
  obtain mem | mem := List.mem_append.1 mem
  · exact repeated access mem
  · obtain ⟨past, entry, permits, wrote⟩ := of_mem_writesOf observed.proper mem
    obtain ⟨rfl, rfl⟩ := Call.writes_forced unset (permits.writes_of wrote)
    refine ⟨?_, force rfl⟩
    rw [← before.configured]
    rfl

theorem ended (before : Steady config chip mark forced start base) (unset : call.sets? = none)
    (force : call = .measureForced → forced) (ended : Ended device call start result driver own) :
    Steady config chip mark forced driver (base ++ own) := by
  obtain ⟨⟨driver, observed, rfl⟩, -⟩ := ended
  obtain ⟨configured, identified, since⟩ := before.observed unset force observed
  refine ⟨?_, ?_, since⟩
  · cases result with
    | error => exact configured
    | ok =>
      simp only [Call.settle, unset, Option.getD_none]
      exact configured
  · cases result <;> exact identified

end Steady

end

section

variable {device : Device} {registers : UInt8 → Prop} {before : UInt8 → UInt8} {first : Chip}

end

end SensorBus.Bme280
