import SensorBus.Proofs.Bits
import SensorBus.Proofs.I2c.Bytes
import SensorBus.Proofs.I2c.Lone
import SensorBus.Proofs.I2c.Strikes

namespace SensorBus.I2c

variable {σ : Type}

/-- An update that reads the register first, whatever is cleared. -/
def Device.readModifyWrite (device : Device) (register set clear : UInt8) : Attempt σ UInt8 := do
  let old ← device.readRegister register
  let value := (old &&& ~~~clear) ||| set
  device.writeRegister register value
  return value

def updateExchanges (clear : UInt8) : List Nat := if clear = 0xFF then [1] else [2, 1]

theorem Bus.Leaves.targets_of_targets {bus bus' bus'' : Bus} {raw : UInt8} {target target' : Target}
    (left : bus.Leaves raw target bus')
    (targets : bus''.targets = (bus'.setTarget raw (some target')).targets) :
    bus''.targets = (bus.setTarget raw (some target')).targets := by
  rw [targets]
  simp only [Bus.setTarget, left.targets, Vector.set_set]

namespace Device

variable (device : Device) {shared : SharedBus} {target : Target} (state : σ) (register : UInt8)

theorem run_writeRegister (value : UInt8) :
    (device.writeRegister register value).run.run SharedBus.medium state shared =
      let performed := SharedBus.medium.perform (device.writing register value) shared
      (performed.1.1, state, performed.2) := rfl

theorem run_readRegister :
    (device.readRegister register).run.run SharedBus.medium state shared =
      let performed := SharedBus.medium.perform (device.reading register 1) shared
      (performed.1.1.map fun _ => (performed.1.2.body.buffer?.getD []).headD 0, state,
        performed.2) := by
  have ran : (device.registers register 1).run.run SharedBus.medium state shared =
    let performed := SharedBus.medium.perform (device.reading register 1) shared
    (performed.1.1.map fun _ => performed.1.2.body.buffer?.getD [], state, performed.2) := rfl
  cases result : (SharedBus.medium.perform (device.reading register 1) shared).1.1 with
  | ok =>
    simp only [result, Except.map] at ran ⊢
    exact run_attempt_ok ran
  | error error =>
    simp only [result, Except.map] at ran ⊢
    exact run_attempt_error ran

variable (present : shared.master.bus.target? device.address.raw = some target)

include present

theorem writeRegister_exchange (value : UInt8) :
    let exchanged :=
      target.exchange false shared.master.bus.faults.head?.join [.write [register, value]]
    ∃ after, (device.writeRegister register value).run.run SharedBus.medium state shared =
        (exchanged.result.mapError .i2c, state, after) ∧
      shared.master.bus.Leaves device.address.raw exchanged.target after.master.bus := by
  obtain ⟨result, -, left⟩ := SharedBus.perform_exchange device.timing rfl present rfl
    (t := { address := device.address, body := .write [] [register, value] })
  refine ⟨_, ?_, left⟩
  rw [run_writeRegister]
  exact congrArg (·, _, _) result

theorem readRegister_exchange :
    let exchanged :=
      target.exchange false shared.master.bus.faults.head?.join [.write [register], .read 1]
    ∃ after, (device.readRegister register).run.run SharedBus.medium state shared =
        ((exchanged.result.mapError .i2c).map fun _ => exchanged.received.headD 0, state, after) ∧
      shared.master.bus.Leaves device.address.raw exchanged.target after.master.bus := by
  obtain ⟨result, body, left⟩ := SharedBus.perform_exchange device.timing rfl present
    (t := { address := device.address, body := .writeRead [register] (List.replicate 1 0) })
    (reading_segments Nat.one_pos register)
  refine ⟨_, ?_, left⟩
  simp only [run_readRegister, Device.reading, result, body]
  cases target.exchange false shared.master.bus.faults.head?.join [.write [register], .read 1] with
  | mk target result received events => cases received <;> rfl

variable (unscripted : target.Unscripted)

theorem writeRegister_struck {value : UInt8} {kind : ErrorKind}
    (strikes : strike? 1 shared.master.bus.faults.head?.join = some kind) :
    ∃ after, (device.writeRegister register value).run.run SharedBus.medium state shared =
        (.error (.i2c kind), state, after) ∧
      shared.master.bus.Leaves device.address.raw target after.master.bus := by
  obtain ⟨segments, lt, fault⟩ := strike?_eq_some.1 strikes
  obtain rfl : segments = 0 := by omega
  have came := device.writeRegister_exchange state register present value
  rwa [fault, target.exchange_struck false [.write [register, value]] kind Nat.one_pos] at came

theorem writeRegister_unstruck {value : UInt8}
    (passes : strike? 1 shared.master.bus.faults.head?.join = none) :
    ∃ after, (device.writeRegister register value).run.run SharedBus.medium state shared =
        (.ok (), state, after) ∧
      shared.master.bus.Leaves device.address.raw ((target.select register).store value)
        after.master.bus := by
  have came := device.writeRegister_exchange state register present value
  rwa [target.exchange_unstruck false [.write [register, value]] passes] at came

theorem readRegister_struck {kind : ErrorKind}
    (strikes : strike? 2 shared.master.bus.faults.head?.join = some kind) :
    ∃ pointer after, (device.readRegister register).run.run SharedBus.medium state shared =
        (.error (.i2c kind), state, after) ∧
      shared.master.bus.Leaves device.address.raw { target with pointer } after.master.bus := by
  obtain ⟨segments, lt, fault⟩ := strike?_eq_some.1 strikes
  obtain ⟨after, came, left⟩ := device.readRegister_exchange state register present
  rw [fault, target.exchange_struck false [.write [register], .read 1] kind lt] at came left
  -- The fault strikes before the register is selected, or before it is read.
  obtain rfl | rfl : segments = 0 ∨ segments = 1 := by omega
  · exact ⟨target.pointer, after, came, left⟩
  · exact ⟨register &&& target.mask, after, came, left⟩

include unscripted

theorem readRegister_unstruck (passes : strike? 2 shared.master.bus.faults.head?.join = none) :
    ∃ pointer after, (device.readRegister register).run.run SharedBus.medium state shared =
        (.ok (target.byte (register &&& target.mask)), state, after) ∧
      shared.master.bus.Leaves device.address.raw { target with pointer } after.master.bus := by
  obtain ⟨after, came, left⟩ := device.readRegister_exchange state register present
  obtain ⟨whole, received⟩ := target.exchange_read register 1
  obtain ⟨pointer, read⟩ := (target.select register).read_unscripted unscripted 1
  rw [target.exchange_unstruck false [.write [register], .read 1] passes] at came left
  rw [Target.exchange_ok, received, read] at came
  rw [whole, read] at left
  refine ⟨pointer, after, ?_, left⟩
  rw [Target.byte_eq_getD, ← Nat.mod_eq_of_lt (register &&& target.mask).toNat_lt]
  exact came

end Device

section

variable (device : Device) (shared : SharedBus) (target : Target) (state : σ) (register : UInt8)

/-- What an update comes to that makes exchanges of so many segments: the first error that strikes
in them and a target of which at most the pointer has moved, or else the new value and a target that
holds it. -/
structure Device.Modifies (exchanges : List Nat) (value : UInt8)
    (came : Except Error UInt8 × σ × SharedBus) : Prop where
  struck {kind : ErrorKind}
    (strikes : firstStrike? shared.master.bus.faults exchanges = some kind) :
    ∃ pointer after, came = (.error (.i2c kind), state, after) ∧ after.master.bus.targets =
      (shared.master.bus.setTarget device.address.raw (some { target with pointer })).targets
  unstruck (passes : firstStrike? shared.master.bus.faults exchanges = none) :
    ∃ after, came = (.ok value, state, after) ∧ after.master.bus.targets =
      (shared.master.bus.setTarget device.address.raw
        (some ((target.select register).store value))).targets

end

namespace Device

variable (device : Device) {shared : SharedBus} {target : Target} (state : σ) (register : UInt8)
  (present : shared.master.bus.target? device.address.raw = some target)

include present

theorem write_modifies (value : UInt8) :
    device.Modifies shared target state register [1] value
      ((do device.writeRegister register value; return value : Attempt σ UInt8).run.run
        SharedBus.medium state shared) := by
  constructor
  case struck =>
    intro kind strikes
    rw [firstStrike?_singleton] at strikes
    obtain ⟨after, came, left⟩ := device.writeRegister_struck state register present strikes
    exact ⟨target.pointer, after, run_attempt_error came, left.targets⟩
  case unstruck =>
    intro passes
    rw [firstStrike?_singleton] at passes
    obtain ⟨after, came, left⟩ := device.writeRegister_unstruck state register present passes
    exact ⟨after, run_attempt_ok came, left.targets⟩

variable (unscripted : target.Unscripted) (set clear : UInt8)

include unscripted

theorem readModifyWrite_modifies :
    device.Modifies shared target state register [2, 1]
      (modified (target.byte (register &&& target.mask)) set clear)
      ((device.readModifyWrite register set clear).run.run SharedBus.medium state shared) := by
  constructor
  case struck =>
    intro kind strikes
    obtain strikes | ⟨passes, strikes⟩ := firstStrike?_cons_eq_some.1 strikes
    · obtain ⟨pointer, after, came, left⟩ :=
        device.readRegister_struck state register present strikes
      exact ⟨pointer, after, run_attempt_error came, left.targets⟩
    · obtain ⟨pointer, between, came, left⟩ :=
        device.readRegister_unstruck state register present unscripted passes
      rw [← left.faults] at strikes
      obtain ⟨pointer, after, came', targets⟩ :=
        (device.write_modifies state register left.present _).struck strikes
      exact ⟨pointer, after, (run_attempt_ok came).trans came', left.targets_of_targets targets⟩
  case unstruck =>
    intro passes
    obtain ⟨passes, passes'⟩ := firstStrike?_cons_eq_none.1 passes
    obtain ⟨pointer, between, came, left⟩ :=
      device.readRegister_unstruck state register present unscripted passes
    rw [← left.faults] at passes'
    obtain ⟨after, came', targets⟩ :=
      (device.write_modifies state register left.present _).unstruck passes'
    exact ⟨after, (run_attempt_ok came).trans came', left.targets_of_targets targets⟩

theorem updateRegister_modifies :
    device.Modifies shared target state register (updateExchanges clear)
      (modified (target.byte (register &&& target.mask)) set clear)
      ((device.updateRegister register set clear).run.run SharedBus.medium state shared) := by
  by_cases all : clear = 0xFF
  · subst all
    rw [modified_all]
    have fast : (device.updateRegister register set 0xFF : Attempt σ UInt8) = do
        device.writeRegister register (modified 0 set 0xFF)
        return modified 0 set 0xFF := rfl
    rw [fast, modified_all]
    exact device.write_modifies state register present set
  · have slow : (device.updateRegister register set clear : Attempt σ UInt8) =
        device.readModifyWrite register set clear := by
      simp only [updateRegister, readModifyWrite, if_neg all]
    rw [slow, updateExchanges, if_neg all]
    exact device.readModifyWrite_modifies state register present unscripted set clear

end Device

def Bus.SameRegisters (bus bus' : Bus) : Prop :=
  ∀ raw, (bus'.target? raw).map Target.registers = (bus.target? raw).map Target.registers

theorem Bus.sameRegisters_of_setTarget {bus bus' : Bus} {raw : UInt8} {target target' : Target}
    (present : bus.target? raw = some target)
    (targets : bus'.targets = (bus.setTarget raw (some target')).targets)
    (same : target'.registers = target.registers) : bus.SameRegisters bus' := by
  intro other
  rw [target?_congr targets]
  by_cases eq : raw = other
  · subst eq
    rw [target?_setTarget_self, present, Option.map_some, Option.map_some, same]
  · rw [target?_setTarget_of_ne eq]

namespace Target

variable (target : Target) (register value : UInt8)

theorem byte_select_store :
    ((target.select register).store value).byte (register &&& target.mask) = value := by
  rw [store_byte]
  exact if_pos rfl

theorem registers_store_byte :
    ((target.select register).store (target.byte (register &&& target.mask))).registers =
      target.registers :=
  Vector.set_getElem_self _

end Target

theorem Device.updateRegister_settled (device : Device) {shared : SharedBus} {target : Target}
    (state : σ) (register : UInt8)
    (present : shared.master.bus.target? device.address.raw = some target)
    (unscripted : target.Unscripted) (set clear : UInt8) :
    let held := target.byte (register &&& target.mask)
    modified held set clear = held →
      let came := (device.updateRegister register set clear).run.run SharedBus.medium state shared
      shared.master.bus.SameRegisters came.2.2.master.bus ∧
        (firstStrike? shared.master.bus.faults (updateExchanges clear) = none →
          came.1 = .ok held) := by
  intro held settled came
  have update := device.updateRegister_modifies state register present unscripted set clear
  rw [settled] at update
  cases strikes : firstStrike? shared.master.bus.faults (updateExchanges clear) with
  | some kind =>
    obtain ⟨pointer, after, came', targets⟩ := update.struck strikes
    rw [show came = _ from came']
    exact ⟨Bus.sameRegisters_of_setTarget present targets rfl, nofun⟩
  | none =>
    obtain ⟨after, came', targets⟩ := update.unstruck strikes
    rw [show came = _ from came']
    exact ⟨Bus.sameRegisters_of_setTarget present targets (target.registers_store_byte register),
      fun _ => rfl⟩

/-- An update comes to the first error that strikes in its exchanges, and leaves all registers as
they were; or else the register that the mask leaves of the given one holds the new value, and the
pointer stands behind it, as if the register had been read in any case. The same update once more
changes no register. -/
theorem Device.update_modifies_one_register (device : Device) {shared : SharedBus}
    {target : Target} (present : shared.master.bus.target? device.address.raw = some target)
    (unscripted : target.Unscripted) (state : σ) (register set clear : UInt8) :
    let selected := register &&& target.mask
    let value := (target.byte selected &&& ~~~clear) ||| set
    let came := (device.updateRegister register set clear).run.run SharedBus.medium state shared
    (∀ kind, firstStrike? shared.master.bus.faults (updateExchanges clear) = some kind →
      came.1 = .error (.i2c kind) ∧ shared.master.bus.SameRegisters came.2.2.master.bus) ∧
    (firstStrike? shared.master.bus.faults (updateExchanges clear) = none →
      came.1 = .ok value ∧
      came.2.2.master.bus.targets = (shared.master.bus.setTarget device.address.raw (some
        { target with
          registers := target.registers.set selected.toNat value selected.toNat_lt
          pointer := selected + 1 })).targets ∧
      (∀ other : SharedBus, other.master.bus.targets = shared.master.bus.targets →
        firstStrike? other.master.bus.faults [2, 1] = none →
        let slow :=
          (device.readModifyWrite register set clear).run.run SharedBus.medium state other
        slow.1 = .ok value ∧ slow.2.2.master.bus.targets = came.2.2.master.bus.targets) ∧
      ∀ later : SharedBus, later.master.bus.targets = came.2.2.master.bus.targets →
        let again := (device.updateRegister register set clear).run.run SharedBus.medium state later
        later.master.bus.SameRegisters again.2.2.master.bus ∧
          (firstStrike? later.master.bus.faults (updateExchanges clear) = none →
            again.1 = .ok value)) := by
  intro selected value came
  have update := device.updateRegister_modifies state register present unscripted set clear
  refine ⟨fun kind strikes => ?_, fun passes => ?_⟩
  · obtain ⟨pointer, after, came', targets⟩ := update.struck strikes
    rw [show came = _ from came']
    exact ⟨rfl, Bus.sameRegisters_of_setTarget present targets rfl⟩
  obtain ⟨after, came', targets⟩ := update.unstruck passes
  rw [show came = _ from came']
  refine ⟨rfl, targets, fun other same passes => ?_, fun later same => ?_⟩
  · have present' := (Bus.target?_congr same device.address.raw).trans present
    obtain ⟨after', slow, targets'⟩ :=
      (device.readModifyWrite_modifies state register present' unscripted set clear).unstruck passes
    rw [slow]
    refine ⟨rfl, (targets'.trans ?_).trans targets.symm⟩
    simp only [Bus.setTarget, same]
  · have present' : later.master.bus.target? device.address.raw =
        some ((target.select register).store value) := by
      rw [Bus.target?_congr (same.trans targets), Bus.target?_setTarget_self]
      rfl
    have held : ((target.select register).store value).byte selected = value :=
      target.byte_select_store register value
    have again := device.updateRegister_settled state register present' unscripted set clear
    rw [show register &&& ((target.select register).store value).mask = selected from rfl, held]
      at again
    exact again (modified_modified _ _ _)

-- A register at which the device arrives by its mask.

namespace Pads

def target : Target :=
  { registers := (RegisterFile.blank.set 0x22 0x55 (by decide)).set 0x23 0x99 (by decide)
    mask := 0x7F
    pointer := 0x23 }

def device : Device := { address := ⟨0x2A, by decide⟩, timing := some ⟨400000⟩ }

def wires (faults : List (Option Fault)) : SharedBus :=
  { master :=
      { bus :=
          { targets := (Vector.replicate 256 none).set 0x2A (some target), faults, yields := 1 } } }

theorem unscripted_target : target.Unscripted := fun _ lt => Vector.getElem_replicate lt

def came (faults : List (Option Fault)) (clear : UInt8) : Except Error UInt8 × Unit × SharedBus :=
  (device.updateRegister 0xA2 0x08 clear).run.run SharedBus.medium () (wires faults)

theorem update_modifies_pads :
    ((came [] 0x38).1 = .ok 0x4D ∧
      (came [] 0x38).2.2.master.bus.targets = ((wires []).master.bus.setTarget 0x2A (some
        { target with
          registers := target.registers.set 0x22 0x4D (by decide), pointer := 0x23 })).targets) ∧
    ((came [] 0xFF).1 = .ok 0x08 ∧
      ((device.readModifyWrite 0xA2 0x08 0xFF).run.run SharedBus.medium () (wires [])).1 =
        .ok 0x08) ∧
    ((came [none, some ⟨.arbitrationLoss, 0⟩] 0x38).1 = .error (.i2c .arbitrationLoss) ∧
      (wires [none, some ⟨.arbitrationLoss, 0⟩]).master.bus.SameRegisters
        (came [none, some ⟨.arbitrationLoss, 0⟩] 0x38).2.2.master.bus) := by
  have present (faults : List (Option Fault)) :
      (wires faults).master.bus.target? device.address.raw = some target := rfl
  obtain ⟨-, some⟩ :=
    device.update_modifies_one_register (present []) unscripted_target () 0xA2 0x08 0x38
  obtain ⟨-, all⟩ :=
    device.update_modifies_one_register (present []) unscripted_target () 0xA2 0x08 0xFF
  obtain ⟨struck, -⟩ :=
    device.update_modifies_one_register (present [none, .some ⟨.arbitrationLoss, 0⟩])
      unscripted_target () 0xA2 0x08 0x38
  obtain ⟨value, targets, -⟩ := some rfl
  obtain ⟨value', -, slow, -⟩ := all rfl
  exact ⟨⟨value, targets⟩, ⟨value', (slow _ rfl rfl).1⟩, struck _ rfl⟩

end Pads

end SensorBus.I2c
