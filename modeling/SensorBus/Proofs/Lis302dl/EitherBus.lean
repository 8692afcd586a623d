import SensorBus.Proofs.Lis302dl.Service
import SensorBus.Proofs.Lis3.OverI2c
import SensorBus.Proofs.Lis3.OverSpi

namespace SensorBus.Lis302dl

/-- Two chips with the same registers, one on each bus, serve one sequence of operations with the
same results, leave their drivers with the same knowledge after every step, and have the same
registers in the end. -/
theorem same_over_either_bus (device : I2c.Device) (chip : Spi.Device) {wires : I2c.SharedBus}
    {lines : Spi.SharedBus} {target : I2c.Target} (finds : device.Finds wires target)
    (mask : target.mask = 0x7F) (unscripted : target.Unscripted) (free : lines.locked = false)
    (faultless : lines.bus.Faultless)
    (agree : ∀ i < 0x40, target.registers.getD i 0 = lines.bus.registers.getD i 0)
    (driver : Lis302dl) (actions : List Action) :
    let overI2c := serve (Lis3.OverI2c.handler device) I2c.SharedBus.medium actions driver wires
    let overSpi := serve (Lis3.OverSpi.handler chip) Spi.SharedBus.medium actions driver lines
    overI2c.1 = overSpi.1 ∧ overI2c.2.1 = overSpi.2.1 ∧
      ∃ after, device.Finds overI2c.2.2 after ∧
        ∀ i < 0x40, after.registers.getD i 0 = overSpi.2.2.bus.registers.getD i 0 := by
  have reaches : Lis3.OverI2c.Reaches device wires lines.bus.registers :=
    ⟨target, finds, mask, unscripted, by decide, agree⟩
  have offers : lines.Offers lines.bus.registers := ⟨free, faultless, rfl⟩
  obtain ⟨wires', servedI2c, after, finds', -, -, -, same⟩ :=
    serve_comesTo (Lis3.OverI2c.simulates (by decide) device) actions driver reaches
  obtain ⟨lines', servedSpi, offers'⟩ :=
    serve_comesTo (Lis3.OverSpi.simulates chip) actions driver offers
  rw [servedI2c, servedSpi]
  refine ⟨rfl, rfl, after, finds', fun i lt => ?_⟩
  rw [same i lt, offers'.registers]

-- The registers of the chip on the I2C bus differ from the other's beyond those that both reach,
-- and its bus suspends every exchange.

namespace Twins

def contents {n : Nat} : RegisterFile n :=
  ((RegisterFile.blank.load Lis3.whoAmI.toNat [identity]).load Register.control1.toNat [0x07]).load
    Register.status.toNat [0x0F, 0, 0xF4, 0, 0x12, 0, 0x80]

def target : I2c.Target :=
  { registers := contents.load 0x50 [0xAA], mask := 0x7F, pointer := 0x33 }

def device : I2c.Device := { address := ⟨0x1D, by decide⟩, timing := some ⟨400000⟩ }

def wires : I2c.SharedBus :=
  { master :=
      { bus := { targets := (Vector.replicate 256 none).set 0x1D (some target), yields := 2 } } }

def chip : Spi.Device := { chip := 1, mode := some ⟨3⟩ }

def lines : Spi.SharedBus := { bus := { registers := contents } }

theorem finds_target : device.Finds wires target :=
  ⟨rfl, by simp [wires, I2c.Bus.Faultless], rfl⟩

theorem faultless_lines : lines.bus.Faultless := ⟨nofun, nofun⟩

def actions : List Action :=
  [.readIdentity, .configure .g8 .hz400, .setClickThreshold .y 0x35,
    .updateFreeFallConfiguration .two ⟨0x81⟩ ⟨0x42⟩, .readAcceleration]

def overI2c : List Served × Lis302dl × I2c.SharedBus :=
  serve (Lis3.OverI2c.handler device) I2c.SharedBus.medium actions {} wires

def overSpi : List Served × Lis302dl × Spi.SharedBus :=
  serve (Lis3.OverSpi.handler chip) Spi.SharedBus.medium actions {} lines

theorem serve_alike :
    overI2c.1 = overSpi.1 ∧ overI2c.2.1 = overSpi.2.1 ∧
      (∃ after, device.Finds overI2c.2.2 after ∧
        ∀ i < 0x40, after.registers.getD i 0 = overSpi.2.2.bus.registers.getD i 0) ∧
      overSpi.2.1.sample = { x := -12, y := 18, z := -128, scale := .g8 } := by
  have unscripted : target.Unscripted := fun _ lt => Vector.getElem_replicate lt
  have agree : ∀ i < 0x40, target.registers.getD i 0 = lines.bus.registers.getD i 0 := by
    decide +kernel
  have alike := same_over_either_bus device chip finds_target rfl unscripted rfl faultless_lines
    agree {} actions
  have sample : overSpi.2.1.sample = { x := -12, y := 18, z := -128, scale := .g8 } := rfl
  unfold overI2c overSpi at *
  exact ⟨alike.1, alike.2.1, alike.2.2, sample⟩

end Twins

end SensorBus.Lis302dl
