import Mathlib.Data.List.Induction
import SensorBus.Proofs.Bme280.Call

namespace SensorBus.Bme280

open I2c

structure Known where
  chip : Option Chip := none
  low : Option (List UInt8) := none
  high : Option (List UInt8) := none

namespace Known

def learn (known : Known) (entry : Entry interface) : Known :=
  match readOf? entry with
  | none => known
  | some (register, bytes) =>
    if register = Register.chipId then
      match Chip.ofId (bytes.headD 0) with
      | .ok chip => { known with chip := some chip }
      | .error _ => known
    else if register = Register.lowCalibration then { known with low := some bytes }
    else if register = Register.highCalibration then { known with high := some bytes }
    else known

def calibration? (known : Known) (chip : Chip) : Option Calibration := do
  let low ← known.low
  let calibration := Calibration.ofLowBlock (block 26 low)
  if chip.hasHumidity then
    let high ← known.high
    return calibration.withHighBlock (block 7 high)
  else return calibration

def driver (known : Known) (start : Bme280) : Bme280 :=
  let chip := known.chip.getD start.chip
  { start with chip, calibration := (known.calibration? chip).getD start.calibration }

end Known

def known (record : Record interface) : Known := record.foldl Known.learn {}

@[simp] theorem known_append (record : Record interface) (entry : Entry interface) :
    known (record ++ [entry]) = (known record).learn entry := by
  simp [known]

theorem Known.learn_unread (known : Known) {entry : Entry interface}
    (unread : readOf? entry = none) : known.learn entry = known := by
  rw [learn, unread]

theorem Known.learn_elsewhere (known : Known) {entry : Entry interface} {register : UInt8}
    {bytes : List UInt8} (read : readOf? entry = some (register, bytes))
    (chipId : register ≠ Register.chipId) (low : register ≠ Register.lowCalibration)
    (high : register ≠ Register.highCalibration) : known.learn entry = known := by
  simp only [learn, read, if_neg chipId, if_neg low, if_neg high]

theorem Known.learn_chip (known : Known) (entry : Entry interface) :
    (known.learn entry).chip = (({} : Known).learn entry).chip.or known.chip := by
  rcases read : readOf? entry with _ | ⟨register, bytes⟩ <;> simp only [learn, read]
  · rfl
  · split
    · cases Chip.ofId (bytes.headD 0) <;> rfl
    · split
      · rfl
      · split <;> rfl

theorem known_chip (first second : Record interface) :
    (known (first ++ second)).chip = (known second).chip.or (known first).chip := by
  induction second using List.reverseRecOn with
  | nil =>
    rw [List.append_nil]
    rfl
  | append_singleton second entry ih =>
    rw [← List.append_assoc, known_append, known_append, Known.learn_chip, ih,
      Known.learn_chip (known second), Option.or_assoc]

theorem Known.driver_nothing (start : Bme280) : ({} : Known).driver start = start := rfl

def width (chip : Chip) : Nat := if chip.hasHumidity then 8 else 6

def Config.settings (config : Config) (chip : Chip) : List (UInt8 × UInt8) :=
  (if chip.hasHumidity then [(Register.ctrlHum, config.ctrlHum)] else []) ++
    [(Register.config, config.configByte), (Register.ctrlMeas, config.ctrlMeas)]

namespace Call

def reads (driver : Bme280) : Call → List (UInt8 × Nat)
  | .start _ =>
    [(Register.chipId, 1), (Register.status, 1), (Register.lowCalibration, 26)] ++
      if driver.chip.hasHumidity then [(Register.highCalibration, 7)] else []
  | .configure _ => []
  | .readData => [(Register.data, width driver.chip)]
  | .measureForced => [(Register.status, 1), (Register.data, width driver.chip)]
  | .isMeasuring => [(Register.status, 1)]

def writes (driver : Bme280) : Call → List (UInt8 × UInt8)
  | .start config => (Register.reset, resetCommand) :: config.settings driver.chip
  | .configure config => config.settings driver.chip
  | .measureForced => [(Register.ctrlMeas, driver.config.measurementControl .forced)]
  | .readData | .isMeasuring => []

def sets? : Call → Option Config
  | .start config | .configure config => some config
  | _ => none

def Gives : Call → Answer → Prop
  | .start _, .chip _ | .configure _, .done | .isMeasuring, .measuring _ => True
  | .readData, .measurement _ | .measureForced, .measurement _ => True
  | _, _ => False

def settle (call : Call) (driver : Bme280) : Except Error Answer → Bme280
  | .error _ => driver
  | .ok answer =>
    { driver with
      config := call.sets?.getD driver.config
      measurement :=
        match answer with
        | .measurement measurement => measurement
        | _ => driver.measurement }

end Call

inductive Permits (device : Device) (call : Call) (driver : Bme280) : interface.Request → Prop
  | delay (duration : Delay) : Permits device call driver (.delay duration)
  | read {register : UInt8} {count : Nat} (mem : (register, count) ∈ call.reads driver) :
      Permits device call driver (device.reading register count)
  | write {register value : UInt8} (mem : (register, value) ∈ call.writes driver) :
      Permits device call driver (device.writing register value)

section

variable (device : Device) (call : Call) (start : Bme280)

def Proper (record : Record interface) : Prop :=
  record.Each fun past entry => Permits device call ((known past).driver start) entry.request

structure Observed (driver : Bme280) (record : Record interface) : Prop where
  driver : driver = (known record).driver start
  proper : Proper device call start record
  low : ∀ bytes, (known record).low = some bytes → bytes.length = 26
  high : ∀ bytes, (known record).high = some bytes → bytes.length = 7

structure Measured (driver : Bme280) (record : Record interface) (measurement : Measurement) :
    Prop where
  bytes : ∃ past entry bytes, record = past ++ [entry] ∧
    readOf? entry = some (Register.data, bytes) ∧ bytes.length = width driver.chip ∧
    measurement.raw = block 8 bytes
  calibration : measurement.calibration = driver.calibration
  chip : measurement.chip = driver.chip

structure Ended (result : Except Error Answer) (driver : Bme280) (record : Record interface) :
    Prop where
  observed : ∃ before, Observed device call start before record ∧ driver = call.settle before result
  gives : ∀ answer, result = .ok answer → call.Gives answer
  stored : ∀ answer config, result = .ok answer → call.sets? = some config →
    ∃ past written, record = past ++ written ∧
      written.map writeOf? = (config.settings driver.chip).map some
  measured : ∀ measurement, result = .ok (.measurement measurement) →
    Measured driver record measurement

abbrev Learns : Record interface → Progress interface Bme280 (Except Error Answer) → Prop :=
  Progress.Along Lawful (Observed device call start) (Ended device call start)

theorem Observed.nil : Observed device call start start [] where
  driver := rfl
  proper := .nil
  low := fun _ h => nomatch h
  high := fun _ h => nomatch h

end

section

variable {device : Device} {call : Call} {start driver : Bme280} {record : Record interface}

namespace Observed

theorem learn (observed : Observed device call start driver record) {entry : Entry interface}
    (permits : Permits device call driver entry.request) {learnt : Known}
    (learns : (known record).learn entry = learnt)
    (low : ∀ bytes, learnt.low = some bytes → bytes.length = 26)
    (high : ∀ bytes, learnt.high = some bytes → bytes.length = 7) :
    Observed device call start (learnt.driver start) (record ++ [entry]) where
  driver := by rw [known_append, learns]
  proper := by
    rw [observed.driver] at permits
    exact Record.each_concat.2 ⟨observed.proper, permits⟩
  low := by rwa [known_append, learns]
  high := by rwa [known_append, learns]

theorem append (observed : Observed device call start driver record) {entry : Entry interface}
    (permits : Permits device call driver entry.request)
    (quiet : (known record).learn entry = known record) :
    Observed device call start driver (record ++ [entry]) := by
  have appended := observed.learn permits quiet observed.low observed.high
  rwa [← observed.driver] at appended

theorem failed (observed : Observed device call start driver record) (error : Error) :
    Ended device call start (.error error) driver record where
  observed := ⟨driver, observed, rfl⟩
  gives _ h := nomatch h
  stored _ _ h := nomatch h
  measured _ h := nomatch h

theorem set {config : Config} {answer : Answer} {written : Record interface}
    (observed : Observed device call start driver (record ++ written))
    (wrote : written.map writeOf? = (config.settings driver.chip).map some)
    (sets : call.sets? = some config) (gives : call.Gives answer)
    (other : ∀ measurement, answer ≠ .measurement measurement) :
    Ended device call start (.ok answer) { driver with config } (record ++ written) where
  observed := by
    refine ⟨driver, observed, ?_⟩
    cases answer with
    | measurement measurement => exact absurd rfl (other measurement)
    | chip | done | measuring => simp only [Call.settle, sets, Option.getD_some]
  gives := by
    rintro _ ⟨⟩
    exact gives
  stored := by
    rintro _ config' ⟨⟩ sets'
    rw [sets] at sets'
    cases sets'
    exact ⟨record, written, rfl, wrote⟩
  measured := by
    rintro measurement ⟨⟩
    exact absurd rfl (other measurement)

theorem measuring (observed : Observed device .isMeasuring start driver record)
    (measuring : Bool) :
    Ended device .isMeasuring start (.ok (.measuring measuring)) driver record where
  observed := ⟨driver, observed, rfl⟩
  gives := by
    rintro _ ⟨⟩
    trivial
  stored := by rintro _ _ _ ⟨⟩
  measured := by rintro _ ⟨⟩

end Observed

section

variable {device : Device} {call : Call} {start driver : Bme280} {record : Record interface}

theorem Call.reads_elsewhere (other : ∀ config, call ≠ .start config) {access : UInt8 × Nat}
    (mem : access ∈ call.reads driver) : access.1 ≠ Register.chipId ∧
      access.1 ≠ Register.lowCalibration ∧ access.1 ≠ Register.highCalibration := by
  have status : Register.status ≠ Register.chipId ∧ Register.status ≠ Register.lowCalibration ∧
    Register.status ≠ Register.highCalibration := by decide
  have data : Register.data ≠ Register.chipId ∧ Register.data ≠ Register.lowCalibration ∧
    Register.data ≠ Register.highCalibration := by decide
  cases call with
  | start config => exact absurd rfl (other config)
  | configure => cases mem
  | readData =>
    rw [List.mem_singleton.1 mem]
    exact data
  | isMeasuring =>
    rw [List.mem_singleton.1 mem]
    exact status
  | measureForced =>
    obtain rfl | mem := List.mem_cons.1 mem
    · exact status
    · rw [List.mem_singleton.1 mem]
      exact data

theorem Permits.learn (other : ∀ config, call ≠ .start config) {entry : Entry interface}
    (permits : Permits device call driver entry.request) (known : Known) :
    known.learn entry = known := by
  obtain ⟨request, reply⟩ := entry
  cases permits with
  | delay => exact known.learn_unread rfl
  | write =>
    refine known.learn_unread ?_
    rcases reply with _ | ⟨error | ⟨⟩, t⟩ <;> rfl
  | @read register count mem =>
    rcases reply with _ | ⟨error | ⟨⟩, t⟩
    · exact known.learn_unread rfl
    · exact known.learn_unread rfl
    · obtain ⟨chipId, low, high⟩ := call.reads_elsewhere other mem
      exact known.learn_elsewhere rfl chipId low high

theorem Proper.unread (other : ∀ config, call ≠ .start config)
    (proper : Proper device call start record) : known record = {} := by
  induction record using List.reverseRecOn with
  | nil => rfl
  | append_singleton record entry ih =>
    obtain ⟨proper, permits⟩ := Record.each_concat.1 proper
    rw [known_append, permits.learn other, ih proper]

end

variable (observed : Observed device call start driver record)

include observed

theorem learns_writeRegister {register value : UInt8} {next : Unit → Attempt Answer}
    (mem : (register, value) ∈ call.writes driver)
    (rest : ∀ entry, writeOf? entry = some (register, value) →
      Observed device call start driver (record ++ [entry]) →
      known (record ++ [entry]) = known record →
      Learns device call start (record ++ [entry]) ((next ()).run driver)) :
    Learns device call start record
      ((device.writeRegister register value >>= next).run driver) := by
  have unread (reply : Option Outcome) : (known record).learn
      ⟨device.writing register value, reply⟩ = known record := by
    refine Known.learn_unread _ ?_
    rcases reply with _ | ⟨error | ⟨⟩, t⟩ <;> rfl
  have appended (reply : Option Outcome) := observed.append (.write mem) (unread reply)
  refine along_writeRegister (appended none) (fun error t => (appended _).failed error) fun t => ?_
  exact rest _ rfl (appended _) ((known_append _ _).trans (unread _))

theorem learns_pause {duration : Delay} {next : Unit → Attempt Answer}
    (rest : ∀ entry, Observed device call start driver (record ++ [entry]) →
      known (record ++ [entry]) = known record →
      Learns device call start (record ++ [entry]) ((next ()).run driver)) :
    Learns device call start record ((pause duration >>= next).run driver) := by
  have appended (reply : Option Unit) :
      Observed device call start driver (record ++ [⟨.delay duration, reply⟩]) :=
    observed.append (.delay duration) rfl
  exact along_pause (appended none) (rest _ (appended _) (known_append _ _))

theorem learns_registers {register : UInt8} {count : Nat} {next : List UInt8 → Attempt Answer}
    (mem : (register, count) ∈ call.reads driver)
    (rest : ∀ entry bytes, readOf? entry = some (register, bytes) → bytes.length = count →
      Permits device call driver entry.request →
      Learns device call start (record ++ [entry]) ((next bytes).run driver)) :
    Learns device call start record ((device.registers register count >>= next).run driver) := by
  have permits : Permits device call driver (device.reading register count) := .read mem
  refine along_registers ?_ (fun error t => ?_) fun t law => ?_
  · exact observed.append permits (Known.learn_unread _ (readOf?_pending _))
  · exact (observed.append permits (Known.learn_unread _ rfl)).failed error
  · exact rest _ _ rfl (length_read law) permits

theorem learns_status {next : UInt8 → Attempt Answer}
    (mem : (Register.status, 1) ∈ call.reads driver)
    (rest : ∀ status entry, Observed device call start driver (record ++ [entry]) →
      known (record ++ [entry]) = known record →
      Learns device call start (record ++ [entry]) ((next status).run driver)) :
    Learns device call start record
      ((device.readRegister Register.status >>= next).run driver) := by
  rw [Device.readRegister, bind_assoc]
  refine learns_registers observed mem fun entry bytes read length permits => ?_
  have quiet := (known record).learn_elsewhere read (by decide) (by decide) (by decide)
  exact rest _ _ (observed.append permits quiet) ((known_append _ _).trans quiet)

theorem learns_awaitClear {mask : UInt8} {attempts : Nat} {next : Unit → Attempt Answer}
    (mem : (Register.status, 1) ∈ call.reads driver)
    (rest : ∀ record', Observed device call start driver record' →
      known record' = known record → Learns device call start record' ((next ()).run driver)) :
    Learns device call start record
      ((awaitClear device mask attempts >>= next).run driver) := by
  induction attempts generalizing record with
  | zero => exact observed.failed .timeout
  | succ attempts ih =>
    rw [awaitClear, bind_assoc]
    refine learns_status observed mem fun status entry observed same => ?_
    split
    · exact rest _ observed same
    · rw [bind_assoc]
      refine learns_pause observed fun entry observed same' => ?_
      refine ih observed fun record' observed same'' => rest record' observed ?_
      rw [same'', same', same]

theorem learns_settings {config : Config} {next : Unit → Attempt Answer}
    (filter : (Register.config, config.configByte) ∈ call.writes driver)
    (control : (Register.ctrlMeas, config.ctrlMeas) ∈ call.writes driver)
    (rest : ∀ written, written.map writeOf? =
        [some (Register.config, config.configByte), some (Register.ctrlMeas, config.ctrlMeas)] →
      Observed device call start driver (record ++ written) →
      known (record ++ written) = known record →
      Learns device call start (record ++ written) ((next ()).run { driver with config })) :
    Learns device call start record ((do
      device.writeRegister Register.config config.configByte
      device.writeRegister Register.ctrlMeas config.ctrlMeas
      modify fun driver => { driver with config }
      next () : Attempt Answer).run driver) := by
  refine learns_writeRegister observed filter fun entry wrote observed same => ?_
  refine learns_writeRegister observed control fun entry' wrote' observed same' => ?_
  rw [List.append_assoc] at observed same' ⊢
  exact rest _ (by simp [wrote, wrote']) observed (same'.trans same)

theorem learns_configure {config : Config} {next : Unit → Attempt Answer}
    (subset : ∀ access ∈ config.settings driver.chip, access ∈ call.writes driver)
    (rest : ∀ written, written.map writeOf? = (config.settings driver.chip).map some →
      Observed device call start driver (record ++ written) →
      known (record ++ written) = known record →
      Learns device call start (record ++ written) ((next ()).run { driver with config })) :
    Learns device call start record ((configure device config >>= next).run driver) := by
  have filter := subset (Register.config, config.configByte) (by simp [Config.settings])
  have control := subset (Register.ctrlMeas, config.ctrlMeas) (by simp [Config.settings])
  simp only [configure, bind_assoc, run_get_bind]
  split
  case isTrue humid =>
    have humidity := subset (Register.ctrlHum, config.ctrlHum) (by simp [Config.settings, humid])
    simp only [bind_assoc]
    refine learns_writeRegister observed humidity fun entry wrote observed same => ?_
    refine learns_settings observed filter control fun written wrote' observed same' => ?_
    rw [List.append_assoc] at observed same' ⊢
    exact rest _ (by simp [wrote, wrote', Config.settings, humid]) observed (same'.trans same)
  case isFalse dry =>
    simp only [bind_assoc]
    refine learns_settings observed filter control fun written wrote => ?_
    exact rest written (by simp [wrote, Config.settings, dry])

theorem learns_readData (mem : (Register.data, width driver.chip) ∈ call.reads driver)
    (unset : call.sets? = none) (gives : ∀ measurement, call.Gives (.measurement measurement)) :
    Learns device call start record ((Answer.measurement <$> readData device).run driver) := by
  simp only [map_eq_pure_bind, readData, bind_assoc, run_get_bind]
  refine learns_registers observed mem fun entry bytes read length permits => ?_
  have quiet := (known record).learn_elsewhere read (by decide) (by decide) (by decide)
  constructor
  case observed =>
    refine ⟨driver, observed.append permits quiet, ?_⟩
    simp only [Call.settle, unset, Option.getD_none]
  case gives =>
    rintro answer ⟨⟩
    exact gives _
  case stored =>
    intro answer config _ sets
    rw [unset] at sets
    cases sets
  case measured =>
    rintro measurement ⟨⟩
    exact ⟨⟨record, entry, bytes, rfl, read, length, rfl⟩, rfl, rfl⟩

theorem learns_identify {next : Unit → Attempt Answer} (fresh : known record = {})
    (mem : (Register.chipId, 1) ∈ call.reads driver)
    (rest : ∀ chip entry, known (record ++ [entry]) = { chip := some chip } →
      Observed device call start { driver with chip } (record ++ [entry]) →
      Learns device call start (record ++ [entry]) ((next ()).run { driver with chip })) :
    Learns device call start record ((identify device >>= next).run driver) := by
  have same : driver = start := by rw [observed.driver, fresh, Known.driver_nothing]
  simp only [identify, Device.readRegister, bind_assoc, pure_bind]
  refine learns_registers observed mem fun entry bytes read length permits => ?_
  have learns : (known record).learn entry = (match Chip.ofId (bytes.headD 0) with
      | .ok chip => { chip := some chip }
      | .error _ => {}) := by
    rw [fresh, Known.learn, read]
    simp only [if_true]
  cases id : Chip.ofId (bytes.headD 0) with
  | error error =>
    rw [id, ← fresh] at learns
    exact (observed.append permits learns).failed error
  | ok chip =>
    rw [id] at learns
    have learnt := observed.learn permits learns (fun _ h => nomatch h) (fun _ h => nomatch h)
    subst same
    exact rest chip entry ((known_append _ _).trans learns) learnt

theorem learns_readCalibration {next : Unit → Attempt Answer} {chip : Chip}
    (identified : known record = { chip := some chip })
    (low : (Register.lowCalibration, 26) ∈ call.reads driver)
    (high : chip.hasHumidity = true → (Register.highCalibration, 7) ∈ call.reads driver)
    (rest : ∀ record' driver', Observed device call start driver' record' →
      driver'.chip = chip →
      Learns device call start record' ((next ()).run driver')) :
    Learns device call start record ((readCalibration device >>= next).run driver) := by
  have own : driver.chip = chip := by rw [observed.driver, identified]; rfl
  simp only [readCalibration, bind_assoc]
  refine learns_registers observed low fun entry bytes read length permits => ?_
  have learns : (known record).learn entry = { chip := some chip, low := some bytes } := by
    rw [identified, Known.learn, read]
    rfl
  have whole : ∀ bytes', some bytes = some bytes' → bytes'.length = 26 := by
    rintro bytes' ⟨⟩
    exact length
  have learnt := observed.learn permits learns whole (fun _ h => nomatch h)
  rw [run_get_bind, own]
  split
  case isTrue humid =>
    -- Half of the calibration is not enough for a chip with humidity.
    have same : driver = ({ chip := some chip, low := some bytes } : Known).driver start := by
      rw [observed.driver, identified]
      simp [Known.driver, Known.calibration?, humid]
    rw [← same] at learnt
    rw [bind_assoc]
    refine learns_registers learnt (high humid) fun entry' bytes' read' length' permits' => ?_
    have learns' : (known (record ++ [entry])).learn entry' =
        { chip := some chip, low := some bytes, high := some bytes' } := by
      rw [known_append, learns, Known.learn, read']
      rfl
    have whole' : ∀ bytes'', some bytes' = some bytes'' → bytes''.length = 7 := by
      rintro bytes'' ⟨⟩
      exact length'
    have learnt' := learnt.learn permits' learns' whole whole'
    rw [run_modify_bind]
    refine rest _ _ ?_ own
    rw [same]
    simpa [Known.driver, Known.calibration?, humid] using learnt'
  case isFalse dry =>
    rw [run_modify_bind]
    refine rest _ _ ?_ own
    rw [observed.driver, identified]
    simpa [Known.driver, Known.calibration?, dry] using learnt

end

/-- In every call the driver is at each moment what the record makes of it. -/
theorem Call.learns (device : Device) (call : Call) (start : Bme280) :
    Learns device call start [] (call.operation device start) := by
  have nothing : known [] = {} := rfl
  have observed := Observed.nil device call start
  change Learns device call start [] ((call.attempt device).run start)
  cases call with
  | start config =>
    simp only [attempt, map_eq_pure_bind, Bme280.start, bind_assoc]
    refine learns_identify observed rfl (by simp [reads]) fun chip entry identified observed => ?_
    refine learns_writeRegister observed (by simp [writes]) fun _ _ observed same => ?_
    refine learns_pause observed fun _ observed same' => ?_
    refine learns_awaitClear observed (by simp [reads]) fun record observed same'' => ?_
    have identified : known record = { chip := some chip } := by
      rw [same'', same', same, identified]
    refine learns_readCalibration observed identified (by simp [reads])
      (fun humid => by simp [reads, humid]) fun record driver observed own => ?_
    refine learns_configure observed (fun access mem => by simp [writes, mem]) fun written wrote
      observed _ => ?_
    refine observed.set wrote rfl trivial ?_
    rintro _ ⟨⟩
  | configure config =>
    simp only [attempt, map_eq_pure_bind]
    refine learns_configure observed (fun access mem => mem) fun written wrote observed _ => ?_
    refine observed.set wrote rfl trivial ?_
    rintro _ ⟨⟩
  | readData => exact learns_readData observed (by simp [reads]) rfl fun _ => trivial
  | measureForced =>
    simp only [attempt, Bme280.measureForced, map_bind, run_get_bind]
    refine learns_writeRegister observed (by simp [writes]) fun _ _ observed same => ?_
    refine learns_pause observed fun _ observed same' => ?_
    refine learns_awaitClear observed (by simp [reads]) fun record observed same'' => ?_
    exact learns_readData observed (by simp [reads]) rfl fun _ => trivial
  | isMeasuring =>
    simp only [attempt, map_eq_pure_bind, Bme280.isMeasuring, bind_assoc]
    refine learns_status observed (by simp [reads]) fun status entry observed _ => ?_
    exact observed.measuring _

end SensorBus.Bme280
