import SensorBus.Lis3.Transport
import SensorBus.Proofs.Lis3.Plain
import SensorBus.Proofs.Spi.Registers

namespace SensorBus.Lis3.OverSpi

theorem commandByte_and_mask (register : UInt8) (length : Nat) :
    commandByte register length &&& 0x3F = register &&& 0x3F := by
  have burst : autoIncrement.toNat &&& (0x3F : UInt8).toNat = 0 := rfl
  unfold commandByte
  split
  · apply UInt8.toNat_inj.1
    rw [UInt8.toNat_and, UInt8.toNat_or, Nat.and_or_distrib_right, burst, Nat.or_zero,
      ← UInt8.toNat_and]
  · rfl

theorem readByte_and_mask (register : UInt8) (length : Nat) :
    (commandByte register length ||| readBit) &&& 0x3F = register &&& 0x3F := by
  have read : readBit.toNat &&& (0x3F : UInt8).toNat = 0 := rfl
  rw [← commandByte_and_mask register length]
  apply UInt8.toNat_inj.1
  rw [UInt8.toNat_and, UInt8.toNat_or, Nat.and_or_distrib_right, read, Nat.or_zero,
    ← UInt8.toNat_and]

section

variable {σ : Type} (device : Spi.Device) (register : UInt8) (state : σ)

theorem run_read (byte : UInt8) (rest : List UInt8) (shared : Spi.SharedBus) :
    ((handler device (.read register (byte :: rest))) state).run Spi.SharedBus.medium shared =
      let performed := Spi.SharedBus.medium.perform (.transact device
        [.write [commandByte register (byte :: rest).length ||| readBit], .read (byte :: rest)])
        shared
      ((result performed.1, (performed.1.2.filterMap Spi.Transfer.buffer?).headD (byte :: rest)),
        state, performed.2) := rfl

theorem run_write (values : List UInt8) (shared : Spi.SharedBus) :
    ((handler device (.write register values)) state).run Spi.SharedBus.medium shared =
      let performed := Spi.SharedBus.medium.perform (.transact device
        [.write [commandByte register values.length], .write values]) shared
      (result performed.1, state, performed.2) := rfl

variable {shared : Spi.SharedBus} {file : RegisterFile 64}

theorem reads (offers : shared.Offers file) (buffer : List UInt8) :
    ComesTo Spi.SharedBus.Offers
      (((handler device (.read register buffer)) state).run Spi.SharedBus.medium shared)
      (.ok (), file.slice register.toNat buffer.length) state file := by
  cases buffer with
  | nil => exact ⟨shared, rfl, offers⟩
  | cons byte rest =>
    obtain ⟨after, performed, offers⟩ := offers.read device
      (commandByte register (byte :: rest).length ||| readBit) (byte :: rest)
    rw [readByte_and_mask, RegisterFile.slice_congr _ (Spi.Bus.and_mask_mod register)] at performed
    rw [run_read, performed]
    exact ⟨after, rfl, offers⟩

theorem writes (offers : shared.Offers file) (values : List UInt8) :
    ComesTo Spi.SharedBus.Offers
      (((handler device (.write register values)) state).run Spi.SharedBus.medium shared)
      (.ok ()) state (file.load register.toNat values) := by
  obtain ⟨after, performed, offers⟩ := offers.write device (commandByte register values.length)
    values
  rw [commandByte_and_mask, RegisterFile.load_congr _ (Spi.Bus.and_mask_mod register)] at offers
  rw [run_write, performed]
  exact ⟨after, rfl, offers⟩

end

theorem simulates {σ : Type} (device : Spi.Device) :
    Handler.Simulates (handler device : Handler interface Spi.interface σ) Spi.SharedBus.medium
      (plain 64) (Within 64) Spi.SharedBus.Offers := by
  intro r state shared file within offers
  cases r with
  | probe => exact within.elim
  | read register buffer => exact reads device register state offers buffer
  | write register values => exact writes device register state offers values

end SensorBus.Lis3.OverSpi
