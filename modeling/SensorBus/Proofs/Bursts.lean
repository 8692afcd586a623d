import SensorBus.Proofs.Bits
import SensorBus.Proofs.I2c.Lone
import SensorBus.Proofs.Lis3.OverI2c
import SensorBus.Proofs.Lis3.OverSpi

namespace SensorBus

variable {I : Interface} {W σ : Type} {n : Nat}

structure Access (I : Interface) (σ : Type) where
  writeMany : UInt8 → List UInt8 → ExceptT Error (Operation I σ) Unit
  readMany : UInt8 → List UInt8 → Operation I σ (Except Error Unit × List UInt8)
  writeOne : UInt8 → UInt8 → ExceptT Error (Operation I σ) Unit
  readOne : UInt8 → ExceptT Error (Operation I σ) UInt8

namespace Access

variable (access : Access I σ)

def writeEach (register : UInt8) : List UInt8 → ExceptT Error (Operation I σ) Unit
  | [] => pure ()
  | value :: rest => do
    access.writeOne register value
    writeEach (register + 1) rest

def readEach (register : UInt8) : (count : Nat) → ExceptT Error (Operation I σ) (List UInt8)
  | 0 => pure []
  | count + 1 => do
    let value ← access.readOne register
    let rest ← readEach (register + 1) count
    return value :: rest

variable (M : Medium I W) (holds : W → RegisterFile n → Prop)

/-- A burst of values comes to what single writes come to: the values are in their registers, and
the others are as they were. From then on both ways of reading give the values, and change
nothing. -/
def ReadsBack (register : UInt8) (values : List UInt8) : Prop :=
  ∀ (state : σ) (world : W) (file : RegisterFile n), holds world file → ∃ after : RegisterFile n,
    ComesTo holds ((access.writeMany register values).run.run M state world) (.ok ()) state after ∧
    ComesTo holds ((access.writeEach register values).run.run M state world) (.ok ()) state after ∧
    (∀ i (lt : i < values.length), after.getD ((register.toNat + i) % n) 0 = values[i]) ∧
    (∀ j, (∀ i < values.length, (register.toNat + i) % n ≠ j) → after.getD j 0 = file.getD j 0) ∧
    ∀ later, holds later after →
      (∀ buffer : List UInt8, buffer.length = values.length →
        ComesTo holds ((access.readMany register buffer).run M state later) (.ok (), values) state
          after) ∧
      ComesTo holds ((access.readEach register values.length).run.run M state later) (.ok values)
        state after

structure Serves (within : UInt8 → Nat → Prop) : Prop where
  writeMany (register : UInt8) (values : List UInt8) (state : σ) {world : W}
    {file : RegisterFile n} (inside : within register values.length) (held : holds world file) :
    ComesTo holds ((access.writeMany register values).run.run M state world) (.ok ()) state
      (file.load register.toNat values)
  readMany (register : UInt8) (buffer : List UInt8) (state : σ) {world : W} {file : RegisterFile n}
    (inside : within register buffer.length) (held : holds world file) :
    ComesTo holds ((access.readMany register buffer).run M state world)
      (.ok (), file.slice register.toNat buffer.length) state file
  writeOne (register value : UInt8) (state : σ) {world : W} {file : RegisterFile n}
    (inside : within register 1) (held : holds world file) :
    ComesTo holds ((access.writeOne register value).run.run M state world) (.ok ()) state
      (file.load register.toNat [value])
  readOne (register : UInt8) (state : σ) {world : W} {file : RegisterFile n}
    (inside : within register 1) (held : holds world file) :
    ComesTo holds ((access.readOne register).run.run M state world)
      (.ok (file.getD (register.toNat % n) 0)) state file
  narrows {register : UInt8} {length : Nat} (inside : within register (length + 1)) :
    within register 1 ∧ within (register + 1) length

namespace Serves

variable {access M holds} {within : UInt8 → Nat → Prop} (serves : access.Serves M holds within)
  (wraps : n ∣ 256)

include wraps

theorem next_register (register : UInt8) :
    (register + 1).toNat % n = (register.toNat + 1) % n := by
  rw [UInt8.toNat_add]
  exact Nat.mod_mod_of_dvd _ wraps

include serves

theorem writeEach (register : UInt8) (values : List UInt8) (state : σ) {world : W}
    {file : RegisterFile n} (inside : within register values.length) (held : holds world file) :
    ComesTo holds ((access.writeEach register values).run.run M state world) (.ok ()) state
      (file.load register.toNat values) := by
  induction values generalizing register world file with
  | nil => exact ⟨world, rfl, held⟩
  | cons value rest ih =>
    obtain ⟨first, others⟩ := serves.narrows inside
    obtain ⟨between, written, held⟩ := serves.writeOne register value state first held
    have next := RegisterFile.load_congr (file.load register.toNat [value])
      (next_register wraps register) rest
    have went : (access.writeEach register (value :: rest)).run.run M state world =
      (access.writeEach (register + 1) rest).run.run M state between := run_attempt_ok written
    rw [went]
    have came := ih (register + 1) others held
    rwa [next] at came

theorem readEach (register : UInt8) (count : Nat) (state : σ) {world : W} {file : RegisterFile n}
    (inside : within register count) (held : holds world file) :
    ComesTo holds ((access.readEach register count).run.run M state world)
      (.ok (file.slice register.toNat count)) state file := by
  induction count generalizing register world with
  | zero => exact ⟨world, rfl, held⟩
  | succ count ih =>
    obtain ⟨first, others⟩ := serves.narrows inside
    obtain ⟨between, read, held⟩ := serves.readOne register state first held
    obtain ⟨after, rest, held⟩ := ih (register + 1) others held
    rw [file.slice_congr (next_register wraps register)] at rest
    exact ⟨after, (run_attempt_ok read).trans (run_attempt_ok rest), held⟩

theorem readsBack {register : UInt8} {values : List UInt8} (inside : within register values.length)
    (fits : values.length ≤ n) : access.ReadsBack M holds register values := by
  intro state world file held
  refine ⟨file.load register.toNat values, serves.writeMany register values state inside held,
    serves.writeEach wraps register values state inside held,
    fun i lt => file.getD_load register.toNat fits lt,
    fun j apart => file.getD_load_of_ne apart, fun later held => ?_⟩
  have same := file.slice_load_self register.toNat fits
  constructor
  · intro buffer length
    have read := serves.readMany register buffer state (length ▸ inside) held
    rwa [length, same] at read
  · have read := serves.readEach wraps register _ state inside held
    rwa [same] at read

end Serves

end Access

namespace I2c

/-- This is all that is in the registers of the target that the device finds. No register takes its
values from a script. -/
def Device.Holds (device : Device) (mask : UInt8) (shared : SharedBus) (file : RegisterFile 256) :
    Prop :=
  ∃ target, device.Finds shared target ∧ target.mask = mask ∧ target.Unscripted ∧
    target.registers = file

def Device.access (device : Device) : Access interface σ where
  writeMany := device.writeRegisters
  readMany := device.readRegisters
  writeOne := device.writeRegister
  readOne := device.readRegister

theorem Target.registers_store (target : Target) (value : UInt8) :
    (target.store value).registers = target.registers.load target.pointer.toNat [value] := by
  have lt := target.pointer.toNat_lt
  rw [RegisterFile.load, Nat.mod_eq_of_lt lt, RegisterFile.setIfInBounds_of_lt _ lt]
  rfl

theorem Device.serves (device : Device) :
    (device.access : Access interface σ).Serves SharedBus.medium (device.Holds 0xFF)
      fun _ _ => True := by
  constructor
  case writeMany =>
    rintro register values state shared file - ⟨target, finds, mask, unscripted, rfl⟩
    obtain ⟨pointer, after, written, finds⟩ := finds.writeRegisters state register values
    refine ⟨after, written, _, finds, mask, unscripted, ?_⟩
    rw [mask, and_all]
  case readMany =>
    rintro register buffer state shared file - ⟨target, finds, mask, unscripted, rfl⟩
    obtain ⟨pointer, after, read, finds⟩ := finds.readRegisters state unscripted register buffer
    rw [mask, and_all] at read
    exact ⟨after, read, _, finds, mask, unscripted, rfl⟩
  case writeOne =>
    rintro register value state shared file - ⟨target, finds, mask, unscripted, rfl⟩
    obtain ⟨after, written, stands⟩ := finds.writeRegister state register value
    refine ⟨after, written, _, stands.finds, mask, unscripted, ?_⟩
    have selected : (target.select register).pointer = register := by
      rw [Target.select, mask, and_all]
    have stored := (target.select register).registers_store value
    rwa [selected] at stored
  case readOne =>
    rintro register state shared file - ⟨target, finds, mask, unscripted, rfl⟩
    obtain ⟨after, read, stands⟩ := finds.readRegister state register
    have selected : (target.select register).pointer = register := by
      rw [Target.select, mask, and_all]
    have byte : (target.select register).readByte = _ := Target.readByte_unscripted unscripted
    rw [byte] at read stands
    rw [selected] at read
    exact ⟨after, read, _, stands.finds, mask, unscripted, rfl⟩
  case narrows => exact fun _ => ⟨trivial, trivial⟩

end I2c

namespace Lis3

def access (handler : Handler interface I σ) : Access I σ where
  writeMany register values := .mk (Operation.via handler (writeRegisters register values).run)
  readMany register buffer := Operation.via handler (readRegisters register buffer)
  writeOne register value := .mk (Operation.via handler (writeRegister register value).run)
  readOne register := .mk (Operation.via handler (readRegister register).run)

theorem serves {handler : Handler interface I σ} {M : Medium I W}
    {holds : W → RegisterFile n → Prop} {size : Nat} (low : size ≤ 0x80)
    (simulates : handler.Simulates M (plain n) (Within size) holds) :
    (access handler).Serves M holds fun register length => register.toNat + length ≤ size := by
  constructor
  case writeMany =>
    intro register values state world file inside held
    exact simulates.run (writeRegisters_within inside) state held
  case readMany =>
    intro register buffer state world file inside held
    exact simulates.run (readRegisters_within inside) state held
  case writeOne =>
    intro register value state world file inside held
    exact simulates.run (writeRegister_within inside value) state held
  case readOne =>
    intro register state world file inside held
    exact simulates.run (readRegister_within inside) state held
  case narrows =>
    intro register length inside
    have next : (register + 1).toNat = register.toNat + 1 := by
      rw [UInt8.toNat_add]
      exact Nat.mod_eq_of_lt (by change register.toNat + 1 < 256; omega)
    omega

theorem OverI2c.reaches_iff_holds {device : I2c.Device} {shared : I2c.SharedBus}
    {file : RegisterFile 256} : Reaches device shared file ↔ device.Holds 0x7F shared file := by
  constructor
  · rintro ⟨target, finds, mask, unscripted, -, same⟩
    refine ⟨target, finds, mask, unscripted, Vector.ext fun i lt => ?_⟩
    rw [← RegisterFile.getD_of_lt _ lt, ← RegisterFile.getD_of_lt _ lt]
    exact same i lt
  · rintro ⟨target, finds, mask, unscripted, rfl⟩
    exact ⟨target, finds, mask, unscripted, Nat.le_refl _, fun _ _ => rfl⟩

theorem OverI2c.serves (device : I2c.Device) :
    (access (handler device : Handler interface I2c.interface σ)).Serves I2c.SharedBus.medium
      (device.Holds 0x7F) fun register length => register.toNat + length ≤ 0x80 := by
  have same : Reaches (n := 256) device = device.Holds 0x7F :=
    funext fun shared => funext fun file => propext reaches_iff_holds
  rw [← same]
  exact Lis3.serves (Nat.le_refl _) (simulates_within (by decide) (Nat.le_refl _) device)

end Lis3

/-- Bursts come to what single accesses come to, and are read back, over all the ways in which the
registers of a chip are reached: on a device with a pointer of eight bits, also past the last
register, and on LIS3 chips as far as the bus reaches. -/
theorem bursts_read_back (register : UInt8) (values : List UInt8) :
    (∀ device : I2c.Device, values.length ≤ 256 →
      (device.access : Access I2c.interface σ).ReadsBack I2c.SharedBus.medium (device.Holds 0xFF)
        register values) ∧
    (∀ device : I2c.Device, register.toNat + values.length ≤ 0x80 →
      (Lis3.access (Lis3.OverI2c.handler device : Handler _ _ σ)).ReadsBack I2c.SharedBus.medium
        (device.Holds 0x7F) register values) ∧
    (∀ chip : Spi.Device, register.toNat + values.length ≤ 0x40 →
      (Lis3.access (Lis3.OverSpi.handler chip : Handler _ _ σ)).ReadsBack Spi.SharedBus.medium
        Spi.SharedBus.Offers register values) := by
  refine ⟨fun device fits => ?_, fun device inside => ?_, fun chip inside => ?_⟩
  · exact device.serves.readsBack (by decide) trivial fits
  · exact (Lis3.OverI2c.serves device).readsBack (by decide) inside (by omega)
  · exact (Lis3.serves (by decide) (Lis3.OverSpi.simulates chip)).readsBack (by decide) inside
      (by omega)

-- Each burst ends with the last register that is reached, or goes on behind it with the first.

namespace Edges

def values : List UInt8 := [0xA1, 0xB2, 0xC3, 0xD4]

def device : I2c.Device := { address := ⟨0x28, by decide⟩, timing := some ⟨400000⟩ }

def target (mask : UInt8) : I2c.Target :=
  { registers := Vector.replicate 256 0x55, mask, pointer := 0x33 }

theorem kept (mask : UInt8) : (target mask).registers.getD 0x80 0 = 0x55 :=
  (RegisterFile.getD_of_lt _ (by decide)).trans (Vector.getElem_replicate _)

def wires (mask : UInt8) : I2c.SharedBus :=
  { master :=
      { bus :=
          { targets := (Vector.replicate 256 none).set 0x28 (some (target mask)), yields := 2 } } }

theorem holds_wires (mask : UInt8) : device.Holds mask (wires mask) (target mask).registers :=
  ⟨target mask, ⟨rfl, by simp [wires, I2c.Bus.Faultless], rfl⟩, rfl,
    fun _ lt => Vector.getElem_replicate lt, rfl⟩

def chip : Spi.Device := { chip := 1, mode := some ⟨3⟩ }

def lines : Spi.SharedBus := { bus := {} }

theorem offers_lines : lines.Offers RegisterFile.blank := ⟨rfl, ⟨nofun, nofun⟩, rfl⟩

theorem values_read_back :
    (∃ file, ComesTo (device.Holds 0xFF)
        ((device.access.writeMany 0xFE values).run.run I2c.SharedBus.medium () (wires 0xFF))
        (.ok ()) () file ∧
      file.getD 0xFF 0 = 0xB2 ∧ file.getD 0 0 = 0xC3 ∧ file.getD 0x80 0 = 0x55) ∧
    (∃ file, ComesTo (device.Holds 0x7F)
        (((Lis3.access (Lis3.OverI2c.handler device)).writeMany 0x7C values).run.run
          I2c.SharedBus.medium () (wires 0x7F)) (.ok ()) () file ∧
      file.getD 0x7F 0 = 0xD4 ∧ file.getD 0x80 0 = 0x55) ∧
    (∃ file, ComesTo Spi.SharedBus.Offers
        (((Lis3.access (Lis3.OverSpi.handler chip)).writeEach 0x3C values).run.run
          Spi.SharedBus.medium () lines) (.ok ()) () file ∧
      file.getD 0x3F 0 = 0xD4 ∧ file.getD 0 0 = 0) := by
  obtain ⟨eight, written, -, read, same, -⟩ :=
    (bursts_read_back 0xFE values).1 device (by decide) () _ _ (holds_wires 0xFF)
  obtain ⟨seven, written', -, read', same', -⟩ :=
    (bursts_read_back 0x7C values).2.1 device (by decide) () _ _ (holds_wires 0x7F)
  obtain ⟨six, -, written'', read'', same'', -⟩ :=
    (bursts_read_back 0x3C values).2.2 chip (by decide) () _ _ offers_lines
  refine ⟨⟨eight, written, read 1 (by decide), read 2 (by decide), ?_⟩,
    ⟨seven, written', read' 3 (by decide), ?_⟩, ⟨six, written'', read'' 3 (by decide), ?_⟩⟩
  · exact (same 0x80 (by decide)).trans (kept 0xFF)
  · exact (same' 0x80 (by decide)).trans (kept 0x7F)
  · exact same'' 0 (by decide)

end Edges

end SensorBus
