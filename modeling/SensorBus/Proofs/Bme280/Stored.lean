import Mathlib.Data.List.Induction
import Mathlib.Logic.Function.Basic
import SensorBus.Proofs.Bme280.Learning
import SensorBus.Proofs.I2c.Bytes

namespace SensorBus.Bme280

open I2c

def writable : List UInt8 := [Register.reset, Register.ctrlHum, Register.config, Register.ctrlMeas]

/-- What is in the registers after the writes on a record. -/
def stored (before : UInt8 → UInt8) (record : Record interface) : UInt8 → UInt8 :=
  (writesOf record).foldl (fun held access => Function.update held access.1 access.2) before

section

variable {before : UInt8 → UInt8} {record : Record interface} {entry : Entry interface}
  {register value : UInt8}

theorem stored_append (before : UInt8 → UInt8) (first second : Record interface) :
    stored before (first ++ second) = stored (stored before first) second := by
  simp only [stored, writesOf, List.filterMap_append, List.foldl_append]

theorem stored_unwritten (unwritten : writeOf? entry = none) :
    stored before (record ++ [entry]) = stored before record := by
  simp [stored, writesOf, unwritten]

theorem stored_written (wrote : writeOf? entry = some (register, value)) :
    stored before (record ++ [entry]) = Function.update (stored before record) register value := by
  simp [stored, writesOf, wrote]

theorem stored_elsewhere (elsewhere : ∀ access ∈ writesOf record, access.1 ≠ register) :
    stored before record register = before register := by
  rw [stored]
  generalize writesOf record = accesses at elsewhere
  induction accesses generalizing before with
  | nil => rfl
  | cons access accesses ih =>
    obtain ⟨first, rest⟩ := List.forall_mem_cons.1 elsewhere
    rw [List.foldl_cons, ih rest, Function.update_of_ne first.symm]

theorem stored_repeated (same : ∀ access ∈ writesOf record, access = (register, value)) :
    stored before record register =
      if writesOf record = [] then before register else value := by
  rw [stored]
  generalize writesOf record = accesses at same ⊢
  obtain rfl | ⟨past, last, rfl⟩ := accesses.eq_nil_or_concat
  · rfl
  · have eq := same last (by simp)
    simp [eq]

theorem stored_once (once : ((writesOf record).map Prod.fst).Nodup)
    (mem : (register, value) ∈ writesOf record) : stored before record register = value := by
  rw [stored]
  generalize writesOf record = accesses at once mem
  induction accesses using List.reverseRecOn with
  | nil => cases mem
  | append_singleton accesses access ih =>
    rw [List.map_append, List.nodup_append] at once
    obtain ⟨once, -, apart⟩ := once
    rw [List.foldl_append, List.foldl_cons, List.foldl_nil]
    obtain mem | mem := List.mem_append.1 mem
    · have ne := apart register (List.mem_map_of_mem mem) access.1 (by simp)
      rw [Function.update_of_ne ne, ih once mem]
    · cases List.mem_singleton.1 mem
      exact Function.update_self ..

end

theorem Config.nodup_settings (config : Config) (chip : Chip) :
    ((config.settings chip).map Prod.fst).Nodup := by
  have registers : (config.settings chip).map Prod.fst =
      (if chip.hasHumidity then [Register.ctrlHum] else []) ++
        [Register.config, Register.ctrlMeas] := by
    cases chip <;> rfl
  rw [registers]
  cases chip <;> decide

inductive Plain (device : Device) : interface.Request → Prop
  | delay (duration : Delay) : Plain device (.delay duration)
  | read {register : UInt8} {count : Nat} (pos : 0 < count)
      (apart : ∀ i < count, register + .ofNat i ∉ writable) :
      Plain device (device.reading register count)
  | write {register value : UInt8} (mem : register ∈ writable) :
      Plain device (device.writing register value)

theorem Call.reads_apart {call : Call} {driver : Bme280} {access : UInt8 × Nat}
    (mem : access ∈ call.reads driver) :
    0 < access.2 ∧ ∀ i < access.2, access.1 + .ofNat i ∉ writable := by
  cases call <;> cases chip : driver.chip <;> simp only [reads, width, chip] at mem <;>
    revert access <;> decide

theorem Call.writes_writable {call : Call} {driver : Bme280} {access : UInt8 × UInt8}
    (mem : access ∈ call.writes driver) : access.1 ∈ writable := by
  have settings (config : Config) (mem : access ∈ config.settings driver.chip) :
      access.1 ∈ writable := by
    cases chip : driver.chip <;> grind [Config.settings, writable]
  cases call with
  | start config =>
    obtain rfl | mem := List.mem_cons.1 mem
    · decide
    · exact settings config mem
  | configure config => exact settings config mem
  | measureForced =>
    rw [List.mem_singleton.1 mem]
    exact (by decide : Register.ctrlMeas ∈ writable)
  | readData | isMeasuring => cases mem

theorem Permits.plain {device : Device} {call : Call} {driver : Bme280} {r : interface.Request}
    (permits : Permits device call driver r) : Plain device r := by
  cases permits with
  | delay duration => exact .delay duration
  | read mem =>
    obtain ⟨pos, apart⟩ := Call.reads_apart mem
    exact .read pos apart
  | write mem => exact .write (Call.writes_writable mem)

/-- With a pointer of eight bits, these registers hold what the record says. None of them is read
with a script. -/
structure Shows (registers : UInt8 → Prop) (before : UInt8 → UInt8) (record : Record interface)
    (target : Target) : Prop where
  mask : target.mask = 0xFF
  script : ∀ register, registers register → register ∈ writable ∨ target.script register = []
  byte : ∀ register, registers register → target.byte register = stored before record register

section

variable {registers : UInt8 → Prop} {before : UInt8 → UInt8} {record : Record interface}
  {entry : Entry interface} {target : Target} {register : UInt8}

namespace Shows

theorem append (shows : Shows registers before record target)
    (unwritten : writeOf? entry = none) : Shows registers before (record ++ [entry]) target where
  mask := shows.mask
  script := shows.script
  byte other mem := by rw [stored_unwritten unwritten, shows.byte other mem]

theorem select (shows : Shows registers before record target) (byte : UInt8) :
    Shows registers before record (target.select byte) := ⟨shows.mask, shows.script, shows.byte⟩

theorem pointer (shows : Shows registers before record target) :
    (target.select register).pointer = register := by
  change register &&& target.mask = register
  rw [shows.mask]
  exact UInt8.and_neg_one

theorem store {value : UInt8} (shows : Shows registers before record target)
    (wrote : writeOf? entry = some (register, value)) :
    Shows registers before (record ++ [entry]) ((target.select register).store value) where
  mask := shows.mask
  script := shows.script
  byte other mem := by
    have held : (target.select register).byte other = stored before record other :=
      shows.byte other mem
    rw [Target.store_byte, shows.pointer, stored_written wrote, held, Function.update_apply]
    simp only [eq_comm]

theorem read {count : Nat} (shows : Shows registers before record target)
    (apart : ∀ i < count, register + .ofNat i ∉ writable) :
    Shows registers before record ((target.select register).read count).2 := by
  let selected := target.select register
  have kept (other : UInt8) (mem : registers other) :
      (selected.read count).2.byte other = selected.byte other ∧
        (selected.read count).2.script other = selected.script other := by
    refine Target.read_keeps ?_
    rw [shows.pointer]
    exact (shows.script other mem).imp_left fun writes i lt same => apart i lt (same ▸ writes)
  exact {
    mask := (Target.read_mask _ count).trans shows.mask
    script := fun other mem => by
      rw [(kept other mem).2]
      exact shows.script other mem
    byte := fun other mem => (kept other mem).1.trans (shows.byte other mem) }

end Shows

def showing (device : Device) (registers : UInt8 → Prop) (before : UInt8 → UInt8) :
    Facing device where
  kind := Plain device
  view := Shows registers before
  address kind := by cases kind <;> rfl
  turns past kind := by
    cases kind with
    | @read register count pos apart =>
      refine turns_reading (Device.reading_segments pos register)
        (fun target shows => shows.select register) fun target shows t' => ?_
      exact Shows.append (shows.read apart) rfl
    | @write register value mem =>
      exact turns_writing rfl fun target shows t' => shows.store rfl
  quiet failed shows := shows.append (writeOf?_of_failed failed)

end

end SensorBus.Bme280
