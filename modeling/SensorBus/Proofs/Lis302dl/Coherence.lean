import SensorBus.Proofs.Lis302dl.OverI2c
import SensorBus.Proofs.Lis302dl.OverSpi

namespace SensorBus.Lis302dl

/-- Over I2C the copies stay what the registers hold, through faults and dropped operations. Over
SPI an update that succeeds leaves its copy and its register with one value, whatever has failed
before. On either bus no step changes what the driver knows, unless it ends an operation with
success. -/
theorem copies_follow_registers :
    (∀ (device : I2c.Device) (driver : Lis302dl) (shared : I2c.SharedBus),
      face device shared.master = some (0x7F, driver.cached) →
      ∀ steps : List (Bench.Step I2c.SharedBus.medium (Untouched device)),
        let bench := (Bench.rest I2c.SharedBus.medium driver shared).run
          (Lis3.OverI2c.handler device) steps
        face device bench.bus.master = some (0x7F, bench.driver.cached)) ∧
    (∀ (device : Spi.Device) (driver : Lis302dl) (shared : Spi.SharedBus)
        (steps : List (Bench.Step Spi.SharedBus.medium Undisturbed)),
      let bench := (Bench.rest Spi.SharedBus.medium driver shared).run
        (Lis3.OverSpi.handler device) steps
      ∀ action control, bench.ended = some (action, .ok ()) → action.updates = some control →
        bench.bus.bus.peek control.register.toNat 1 = [bench.driver.cached control]) ∧
    (∀ (device : I2c.Device) (driver : Lis302dl) (shared : I2c.SharedBus)
        (abide : Work I2c.SharedBus.medium → I2c.SharedBus → I2c.SharedBus → Prop)
        (steps : List (Bench.Step I2c.SharedBus.medium abide))
        (next : Bench.Step I2c.SharedBus.medium abide),
      let bench := (Bench.rest I2c.SharedBus.medium driver shared).run
        (Lis3.OverI2c.handler device) steps
      let after := bench.step (Lis3.OverI2c.handler device) next
      after.driver = bench.driver ∨ ∃ action, after.ended = some (action, .ok ())) ∧
    (∀ (device : Spi.Device) (driver : Lis302dl) (shared : Spi.SharedBus)
        (abide : Work Spi.SharedBus.medium → Spi.SharedBus → Spi.SharedBus → Prop)
        (steps : List (Bench.Step Spi.SharedBus.medium abide))
        (next : Bench.Step Spi.SharedBus.medium abide),
      let bench := (Bench.rest Spi.SharedBus.medium driver shared).run
        (Lis3.OverSpi.handler device) steps
      let after := bench.step (Lis3.OverSpi.handler device) next
      after.driver = bench.driver ∨ ∃ action, after.ended = some (action, .ok ())) := by
  refine ⟨?_, ?_, ?_, ?_⟩
  · intro device driver shared shows steps
    exact Bench.run_shows shows steps
  · intro device driver shared steps
    exact (Bench.run_recovers device driver shared steps).ended
  · intro device driver shared abide steps next
    exact Bench.run_spares (discreet_overI2c device) driver shared steps next
  · intro device driver shared abide steps next
    exact Bench.run_spares (discreet_overSpi device) driver shared steps next

-- Over I2C an update is dropped on its way, and another one fails. Over SPI the flush behind an
-- update fails, so that the copy is behind, and the next update succeeds.

namespace Recovery

def accelerometer : I2c.Device := { address := ⟨0x1C, by decide⟩ }

def target : I2c.Target :=
  { mask := 0x7F, registers := RegisterFile.blank.load Register.control1.toNat [0x07] }

def wires : I2c.SharedBus :=
  { master :=
      { bus :=
          { targets := (Vector.replicate 256 none).set 0x1C (some target)
            faults := [none, some { kind := .overrun, after := 1 }]
            yields := 1 } } }

def stepsOverI2c : List (Bench.Step I2c.SharedBus.medium (Untouched accelerometer)) :=
  [.start (.updateControl1 ⟨0x80⟩ .empty), .poll, .drop,
    .start (.updateControl1 ⟨0x80⟩ .empty), .poll, .poll,
    .start (.updateControl2 ⟨0x40⟩ .empty), .finish]

def overI2c : Bench I2c.SharedBus.medium :=
  (Bench.rest _ {} wires).run (Lis3.OverI2c.handler accelerometer) stepsOverI2c

def chip : Spi.Device := { chip := 0 }

def lines : Spi.SharedBus :=
  { bus :=
      { registers := RegisterFile.blank.load Register.control1.toNat [0x07]
        faults := [none, none, some .overrun]
        yields := 1 } }

def failing : List (Bench.Step Spi.SharedBus.medium Undisturbed) :=
  [.start (.updateControl1 ⟨0x80⟩ .empty), .poll, .poll, .poll]

def failed : Bench Spi.SharedBus.medium :=
  (Bench.rest _ {} lines).run (Lis3.OverSpi.handler chip) failing

def succeeding : List (Bench.Step Spi.SharedBus.medium Undisturbed) :=
  failing ++ [.poll, .start (.updateControl1 .empty ⟨0x01⟩), .finish]

def recovered : Bench Spi.SharedBus.medium :=
  (Bench.rest _ {} lines).run (Lis3.OverSpi.handler chip) succeeding

theorem copies_agree_again :
    (overI2c.driver.control1 = ⟨0x87⟩ ∧ overI2c.driver.control2 = ⟨0⟩ ∧
      face accelerometer overI2c.bus.master = some (0x7F, overI2c.driver.cached)) ∧
    ((failed.step (Lis3.OverSpi.handler chip) (.poll : Bench.Step _ Undisturbed)).driver =
        failed.driver ∧
      (failed.step (Lis3.OverSpi.handler chip)
        (.poll : Bench.Step _ Undisturbed)).bus.bus.peek 0x20 1 = [0x87]) ∧
    recovered.ended = some (.updateControl1 .empty ⟨0x01⟩, .ok ()) ∧
      recovered.bus.bus.peek 0x20 1 = [recovered.driver.cached .one] := by
  obtain ⟨coherent, recovers, -, spares⟩ := copies_follow_registers
  have shows : face accelerometer wires.master = some (0x7F, ({} : Lis302dl).cached) := by
    refine congrArg (fun controls => some (0x7F, controls)) (funext fun control => ?_)
    cases control <;> decide +kernel
  have ended : recovered.ended = some (.updateControl1 .empty ⟨0x01⟩, .ok ()) := rfl
  refine ⟨⟨rfl, rfl, coherent accelerometer {} wires shows stepsOverI2c⟩, ⟨?_, rfl⟩, ended,
    recovers chip {} lines succeeding _ .one ended rfl⟩
  obtain spared | ⟨action, ended⟩ := spares chip {} lines Undisturbed failing .poll
  · exact spared
  · cases ended

end Recovery

end SensorBus.Lis302dl
