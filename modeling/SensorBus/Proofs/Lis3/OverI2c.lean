import SensorBus.Lis3.Transport
import SensorBus.Proofs.I2c.Registers
import SensorBus.Proofs.Lis3.Plain

namespace SensorBus.Lis3.OverI2c

theorem mask_of_low {register : UInt8} (low : register < 0x80) : register &&& 0x7F = register := by
  have lt : register.toNat < 2 ^ 7 := low
  refine UInt8.toNat_inj.1 ?_
  rw [UInt8.toNat_and]
  exact Nat.and_two_pow_sub_one_of_lt_two_pow lt

theorem mask_registerByte {register : UInt8} (low : register < 0x80) (length : Nat) :
    registerByte register length &&& 0x7F = register := by
  unfold registerByte
  split
  · have burst : autoIncrement.toNat &&& (0x7F : UInt8).toNat = 0 := rfl
    refine UInt8.toNat_inj.1 ?_
    rw [UInt8.toNat_and, UInt8.toNat_or, Nat.and_or_distrib_right, burst, Nat.or_zero,
      ← UInt8.toNat_and, mask_of_low low]
  · exact mask_of_low low

/-- The registers of this file are the first ones of the device, which takes no values from scripts
and masks its pointer. -/
def Reaches {n : Nat} (device : I2c.Device) (shared : I2c.SharedBus) (file : RegisterFile n) :
    Prop :=
  ∃ target, device.Finds shared target ∧ target.mask = 0x7F ∧ target.Unscripted ∧
    target.registers.Begins file

theorem low_of_within {n length : Nat} (le : n ≤ 0x80) {register : UInt8}
    (within : register.toNat + (length + 1) ≤ n) : register < 0x80 := by
  change register.toNat < 0x80
  omega

theorem simulates_within {σ : Type} {n size : Nat} (fits : size ≤ n) (le : size ≤ 0x80)
    (device : I2c.Device) :
    Handler.Simulates (handler device : Handler interface I2c.interface σ) I2c.SharedBus.medium
      (plain n) (Within size) (Reaches device) := by
  intro r state shared file within reaches
  obtain ⟨target, finds, mask, unscripted, begins⟩ := reaches
  cases r with
  | probe => exact within.elim
  | read register buffer =>
    obtain ⟨pointer, after, read, finds⟩ := finds.readRegisters state unscripted
      (registerByte register buffer.length) buffer
    have same : target.registers.slice (registerByte register buffer.length &&& target.mask).toNat
        buffer.length = file.slice register.toNat buffer.length := by
      cases buffer with
      | nil => rfl
      | cons byte rest =>
        rw [mask, mask_registerByte (low_of_within le within)]
        exact begins.slice (Nat.le_trans within fits)
    rw [same] at read
    exact ⟨after, read, _, finds, mask, unscripted, begins⟩
  | write register values =>
    obtain ⟨pointer, after, written, finds⟩ := finds.writeRegisters state
      (registerByte register values.length) values
    refine ⟨after, written, _, finds, mask, unscripted, ?_⟩
    cases values with
    | nil => exact begins
    | cons value rest =>
      rw [mask, mask_registerByte (low_of_within le within)]
      exact begins.load (Nat.le_trans within fits)

theorem simulates {σ : Type} {n : Nat} (le : n ≤ 0x80) (device : I2c.Device) :
    Handler.Simulates (handler device : Handler interface I2c.interface σ) I2c.SharedBus.medium
      (plain n) (Within n) (Reaches device) :=
  simulates_within (Nat.le_refl n) le device

end SensorBus.Lis3.OverI2c
