import SensorBus.Lis302dl.Basic
import SensorBus.Proofs.I2c.Bytes
import SensorBus.Proofs.Job.Endings
import SensorBus.Proofs.Lis3.Faulty

namespace SensorBus.Lis302dl

open I2c

inductive Field
  | pad (interrupt : Interrupt)
  | click (axis : Axis)
  deriving DecidableEq

namespace Field

def register : Field → UInt8
  | .pad _ => Register.control3
  | .click axis => axis.clickThreshold.1

def shift : Field → UInt8
  | .pad .one => 0
  | .pad .two => 3
  | .click axis => axis.clickThreshold.2

def ones : Field → UInt8
  | .pad _ => 0x07
  | .click _ => 0x0F

def mask (field : Field) : UInt8 := field.ones <<< field.shift

def read (field : Field) (byte : UInt8) : UInt8 := (byte &&& field.mask) >>> field.shift

def put (field : Field) (value byte : UInt8) : UInt8 :=
  modified byte (value <<< field.shift) field.mask

section

variable {field other : Field} {value : UInt8}

theorem register_lt (field : Field) : field.register.toNat < 0x80 := by
  rcases field with (_ | _) | (_ | _ | _) <;> decide

theorem mask_apart (ne : field ≠ other) (same : field.register = other.register) :
    field.mask &&& other.mask = 0 := by
  revert ne same
  rcases field with (_ | _) | (_ | _ | _) <;> rcases other with (_ | _) | (_ | _ | _) <;> decide

theorem shiftLeft_and_mask (fits : value &&& field.ones = value) :
    (value <<< field.shift) &&& field.mask = value <<< field.shift := by
  rw [mask, ← UInt8.shiftLeft_and, fits]

theorem shiftLeft_shiftRight (fits : value &&& field.ones = value) :
    (value <<< field.shift) >>> field.shift = value := by
  have low : ∀ n : Fin 256, ∀ shift ∈ [0, 3], UInt8.ofFin n &&& 0x07 = UInt8.ofFin n →
      (UInt8.ofFin n <<< shift) >>> shift = UInt8.ofFin n := by decide +kernel
  have nibble : ∀ n : Fin 256, ∀ shift ∈ [0, 4], UInt8.ofFin n &&& 0x0F = UInt8.ofFin n →
      (UInt8.ofFin n <<< shift) >>> shift = UInt8.ofFin n := by decide +kernel
  cases field with
  | pad interrupt => exact low value.toFin _ (by cases interrupt <;> decide) fits
  | click axis => exact nibble value.toFin _ (by cases axis <;> decide) fits

theorem read_put_self (fits : value &&& field.ones = value) (byte : UInt8) :
    field.read (field.put value byte) = value := by
  rw [read, put, modified_and_self (shiftLeft_and_mask fits), shiftLeft_shiftRight fits]

theorem put_and (fits : value &&& field.ones = value) (byte : UInt8) {bits : UInt8}
    (apart : field.mask &&& bits = 0) : field.put value byte &&& bits = byte &&& bits := by
  refine modified_and_of_apart apart ?_
  rw [← shiftLeft_and_mask fits, UInt8.and_assoc, apart, UInt8.and_zero]

theorem read_put_of_ne (fits : value &&& field.ones = value) (byte : UInt8) (ne : field ≠ other)
    (same : field.register = other.register) :
    other.read (field.put value byte) = other.read byte := by
  rw [read, put_and fits byte (mask_apart ne same), read]

end

end Field

inductive Setting
  | route (interrupt : Interrupt) (source : InterruptSource)
  | threshold (axis : Axis) (level : UInt8)
  deriving DecidableEq

namespace Setting

def field : Setting → Field
  | .route interrupt _ => .pad interrupt
  | .threshold axis _ => .click axis

def value : Setting → UInt8
  | .route _ source => source.code
  | .threshold _ level => level &&& 0x0F

def attempt : Setting → Attempt Unit
  | .route interrupt source => writeInterruptSource interrupt source
  | .threshold axis level => setClickThreshold axis level

def operation (device : Device) (setting : Setting) :
    Operation I2c.interface Lis302dl (Except Error Unit) :=
  Operation.via (Lis3.OverI2c.handler device) setting.attempt.run

theorem fits (setting : Setting) :
    setting.value &&& setting.field.ones = setting.value := by
  cases setting with
  | route interrupt source => cases interrupt <;> cases source <;> decide
  | threshold axis level => exact (UInt8.and_assoc ..).trans (congrArg _ UInt8.and_self)

end Setting

/-- What the last call says that has set a field. -/
def lastSet (field : Field) (done : List (Setting × Except Error Unit)) : Option UInt8 :=
  (done.filterMap fun
    | (setting, .ok ()) => if setting.field = field then some setting.value else none
    | (_, .error _) => none).getLast?

section

variable {field : Field} {done : List (Setting × Except Error Unit)} {setting : Setting}

theorem lastSet_error (error : Error) :
    lastSet field (done ++ [(setting, .error error)]) = lastSet field done := by
  simp [lastSet]

theorem lastSet_self :
    lastSet setting.field (done ++ [(setting, .ok ())]) = some setting.value := by
  simp [lastSet]

theorem lastSet_of_ne (ne : setting.field ≠ field) :
    lastSet field (done ++ [(setting, .ok ())]) = lastSet field done := by
  simp [lastSet, ne]

end

structure Kept (before : RegisterFile 256) (done : List (Setting × Except Error Unit))
    (driver : Lis302dl) (file : RegisterFile 256) : Prop where
  copy : driver.control3.bits = file.getD Register.control3.toNat 0
  fields : ∀ field : Field, field.read (file.getD field.register.toNat 0) =
    (lastSet field done).getD (field.read (before.getD field.register.toNat 0))
  rest : ∀ register bits : UInt8,
    (∀ field : Field, field.register = register → field.mask &&& bits = 0) →
    file.getD register.toNat 0 &&& bits = before.getD register.toNat 0 &&& bits

section

variable {before file : RegisterFile 256} {done : List (Setting × Except Error Unit)}
  {driver : Lis302dl}

theorem Kept.failed (kept : Kept before done driver file) (setting : Setting) (error : Error) :
    Kept before (done ++ [(setting, .error error)]) driver file where
  copy := kept.copy
  fields field := by rw [lastSet_error, kept.fields]
  rest := kept.rest

def set (setting : Setting) (file : RegisterFile 256) : RegisterFile 256 :=
  file.load setting.field.register.toNat
    [setting.field.put setting.value (file.getD setting.field.register.toNat 0)]

theorem getD_put (setting : Setting) (register : UInt8) :
    (set setting file).getD register.toNat 0 =
      if setting.field.register = register then
        setting.field.put setting.value (file.getD register.toNat 0)
      else file.getD register.toNat 0 := by
  have lt := setting.field.register.toNat_lt
  rw [set, RegisterFile.load, RegisterFile.load, Nat.mod_eq_of_lt lt, file.getD_set lt]
  simp only [UInt8.toNat_inj]
  split
  · next here => rw [here]
  · rfl

theorem Kept.set (kept : Kept before done driver file) {setting : Setting} {driver' : Lis302dl}
    (copy : driver'.control3.bits = (set setting file).getD Register.control3.toNat 0) :
    Kept before (done ++ [(setting, .ok ())]) driver' (set setting file) where
  copy := copy
  fields field := by
    rw [getD_put]
    by_cases same : setting.field = field
    · subst same
      rw [if_pos rfl, Field.read_put_self setting.fits, lastSet_self, Option.getD_some]
    · rw [lastSet_of_ne same, ← kept.fields]
      split
      · next here => exact Field.read_put_of_ne setting.fits _ same here
      · rfl
  rest register bits apart := by
    rw [getD_put, ← kept.rest register bits apart]
    split
    · next here => exact Field.put_and setting.fits _ (apart _ here)
    · rfl

theorem route_bits (flags : Flags .control3) (interrupt : Interrupt) (source : InterruptSource) :
    (flags.update (interrupt.routed source) interrupt.field).bits =
      (Field.pad interrupt).put source.code flags.bits := by
  have pattern : (interrupt.routed source).bits = source.code <<< (Field.pad interrupt).shift := by
    cases interrupt <;> cases source <;> decide
  have mask : interrupt.field.bits = (Field.pad interrupt).mask := by cases interrupt <;> decide
  rw [Field.put, ← pattern, ← mask]
  rfl

theorem Setting.minds (kept : Kept before done driver file) (setting : Setting) :
    (setting.attempt.run driver).Minds (Lis3.Within 0x80) (Lis3.faulty 256) (Kept before done)
      (fun result => Kept before (done ++ [(setting, result)])) file := by
  have low := setting.field.register_lt
  cases setting with
  | route interrupt source =>
    have here : (Setting.route interrupt source).field.register = Register.control3 := rfl
    let flags := driver.control3.update (interrupt.routed source) interrupt.field
    have copy :
        flags.bits = (set (.route interrupt source) file).getD Register.control3.toNat 0 := by
      rw [getD_put, if_pos here, route_bits, kept.copy]
      rfl
    have stored : set (.route interrupt source) file =
        file.load Register.control3.toNat [flags.bits] := by
      rw [route_bits, kept.copy]
      rfl
    have rest : Kept before (done ++ [(.route interrupt source, .ok ())])
        { driver with control3 := flags } (set (.route interrupt source) file) := kept.set copy
    rw [stored] at rest
    exact Lis3.minds_writeRegister low kept (kept.failed _) rest
  | threshold axis level =>
    have elsewhere : (Setting.threshold axis level).field.register ≠ Register.control3 := by
      change axis.clickThreshold.1 ≠ Register.control3
      cases axis <;> decide
    have copy : driver.control3.bits =
        (set (.threshold axis level) file).getD Register.control3.toNat 0 := by
      rw [getD_put, if_neg elsewhere, kept.copy]
    have rest := kept.set copy
    rw [set] at rest
    refine Lis3.minds_updateRegister low kept (kept.failed _) ?_
    rw [Nat.mod_eq_of_lt (Nat.lt_trans low (by decide))]
    exact rest

end

/-- Others leave the target as it is, but for its pointer. -/
def Unwritten (device : Device) (shared after : SharedBus) : Prop :=
  ∀ target, shared.master.bus.target? device.address.raw = some target →
    ∃ pointer, after.master.bus.target? device.address.raw = some { target with pointer }

theorem Unwritten.agrees {device : Device} {shared after : SharedBus} {file : RegisterFile 256}
    (unwritten : Unwritten device shared after)
    (agrees : (Lis3.OverI2c.registers device).shadow.agrees file shared) :
    (Lis3.OverI2c.registers device).shadow.agrees file after := by
  obtain ⟨⟨target, present, plain, same⟩, -⟩ := agrees
  obtain ⟨pointer, present'⟩ := unwritten target present
  exact ⟨⟨_, present', ⟨plain.mask, plain.unscripted⟩, same⟩, fun _ _ => trivial⟩

namespace Routing

def accelerometer : Device := { address := ⟨0x1E, by decide⟩ }

def target : Target :=
  { mask := 0x7F
    registers := (RegisterFile.blank.load Register.control3.toNat [0xC0]).load
      Register.clickThresholdYX.toNat [0x21, 0xA5] }

def wires : SharedBus :=
  { master :=
      { bus :=
          { targets := (Vector.replicate 256 none).set 0x1E (some target)
            faults := [none, none, none, none, some { kind := .overrun, after := 1 }]
            yields := 1 } } }

def steps : List (Rig.Step Setting SharedBus (Unwritten accelerometer)) :=
  [.start (.route .two .click), .finish, .start (.route .one .dataReady), .poll, .drop,
    .start (.threshold .y 0xF7), .finish, .start (.threshold .x 3), .finish]

def start : Rig SharedBus.medium Setting Lis302dl (Except Error Unit) :=
  Rig.rest _ { control3 := ⟨0xC0⟩ } wires

def ended : List (Setting × Except Error Unit) :=
  [(.route .two .click, .ok ()), (.threshold .y 0xF7, .ok ()),
    (.threshold .x 3, .error (.i2c .overrun))]

end Routing

end SensorBus.Lis302dl
