import SensorBus.Proofs.Lis302dl.EitherBus
import SensorBus.Proofs.Lis302dl.Reliable

namespace SensorBus.Lis302dl

namespace Flags

def wide (control : Flags .control1) : Bool := control.contains Scale.g8.control

theorem wide_eq (control : Flags .control1) : control.wide = control.bits.toBitVec.getLsbD 5 := by
  have each : ∀ bits : BitVec 8, bits &&& 0x20#8 = 0x20#8 ↔ bits.getLsbD 5 = true := by decide
  rw [Bool.eq_iff_iff, ← each, wide, contains, beq_iff_eq, ← UInt8.toBitVec_inj]
  rfl

theorem wide_update (control set clear : Flags .control1) :
    (control.update set clear).wide = (control.wide && !clear.wide || set.wide) := by
  simp [wide_eq, update, difference, union]

end Flags

theorem wide_configured (control : Flags .control1) (scale : Scale) (rate : Rate) :
    (control.update ((activeControl.union scale.control).union rate.control) .all).wide =
      (scale == .g8) := by
  have all : (Flags.all : Flags .control1).wide = true := by decide
  rw [Flags.wide_update, all]
  cases control.wide <;> cases scale <;> cases rate <;> decide

namespace Action

/-- The range that samples are taken to be in, after an operation. -/
def assumed (scale : Scale) : Action → Scale
  | .configure scale _ => scale
  | _ => scale

/-- Whether the chip measures in the wide range, after an operation. -/
def measured (wide : Bool) : Action → Bool
  | .configure scale _ => scale == .g8
  | .updateControl1 set clear => wide && !clear.wide || set.wide
  | _ => wide

def SparesRange : Action → Prop
  | .updateControl1 set clear => set.wide = false ∧ clear.wide = false
  | _ => True

theorem range_yields (action : Action) (driver : Lis302dl) :
    Yields (fun _ after => after.sample.scale = action.assumed driver.sample.scale ∧
      after.control1.wide = action.measured driver.control1.wide)
      (action.perform.run driver) := by
  cases action with
  | configure scale rate => exact ⟨rfl, wide_configured driver.control1 scale rate⟩
  | updateControl1 set clear => exact ⟨rfl, driver.control1.wide_update set clear⟩
  | updateControl2 | updateControl3 | writeInterruptSource => exact ⟨rfl, rfl⟩
  | setFreeFallThreshold | setFreeFallDuration => exact ⟨rfl, rfl⟩
  | setClickTimeLimit | setClickLatency | setClickWindow => exact ⟨rfl, rfl⟩
  | readFreeFallSource | readClickSource | resetHighPassFilter | readAcceleration =>
    exact fun _ => ⟨rfl, rfl⟩
  | readIdentity =>
    refine .readRegister fun id => ?_
    split <;> exact ⟨rfl, rfl⟩
  | updateFreeFallConfiguration | updateClickConfiguration | setClickThreshold =>
    refine .map .updateRegister fun _ after same => ?_
    rw [same]
    exact ⟨rfl, rfl⟩

end Action

structure InRange {W : Type} (holds : W → Controls → Prop) (scale : Scale) (wide : Bool)
    (driver : Lis302dl) (world : W) : Prop where
  held : ∃ controls, holds world controls ∧ controls .one = driver.control1.bits
  scale : driver.sample.scale = scale
  wide : driver.control1.wide = wide

namespace InRange

variable {I : Interface} {W : Type} {handler : Handler Lis3.interface I Lis302dl} {M : Medium I W}
  {holds : W → Controls → Prop} {scale : Scale} {wide : Bool} {driver : Lis302dl} {world : W}

theorem perform (inRange : InRange holds scale wide driver world)
    (reliable : Reliable handler M holds) (action : Action) :
    let came := (Operation.via handler action.perform.run).run M driver world
    InRange holds (action.assumed scale) (action.measured wide) came.2.1 came.2.2 := by
  obtain ⟨⟨controls, held, same⟩, rfl, rfl⟩ := inRange
  have copied : controls .one = driver.cached .one := same
  obtain ⟨value, after, controls', ⟨world', came, held'⟩, ⟨assumed, measured⟩, same'⟩ :=
    reliable.run (action.perform_follows driver) (action.range_yields driver) held
      copied
  have ran : (Operation.via handler action.perform.run).run M driver world =
    (value, after, world') := came
  rw [ran]
  exact ⟨⟨controls', held', same'⟩, assumed, measured⟩

theorem serve (inRange : InRange holds scale wide driver world)
    (reliable : Reliable handler M holds) (actions : List Action) :
    let came := serve handler M actions driver world
    InRange holds (actions.foldl Action.assumed scale) (actions.foldl Action.measured wide)
      came.2.1 came.2.2 := by
  induction actions generalizing scale wide driver world with
  | nil => exact inRange
  | cons action rest ih => exact ih (inRange.perform reliable action)

theorem readAcceleration (inRange : InRange holds scale wide driver world)
    (reliable : Reliable handler M holds) :
    ∃ sample after world',
      (Operation.via handler readAcceleration.run).run M driver world =
        (.ok sample, after, world') ∧
      sample.scale = scale ∧ InRange holds scale wide after world' := by
  obtain ⟨⟨controls, held, same⟩, rfl, rfl⟩ := inRange
  have copied : controls .one = driver.cached .one := same
  have yields : Yields (fun value after => value = .ok after.sample ∧
      after.sample.scale = driver.sample.scale ∧ after.control1 = driver.control1)
      (Lis302dl.readAcceleration.run driver) := fun _ => ⟨rfl, rfl, rfl⟩
  obtain ⟨value, after, controls', ⟨world', came, held'⟩, ⟨read, bears, kept⟩, same'⟩ :=
    reliable.run (Action.readAcceleration.perform_follows driver) yields held
      copied
  subst read
  refine ⟨after.sample, after, world', came, bears, ⟨controls', held', same'⟩, bears, ?_⟩
  rw [kept]

end InRange

theorem Action.spares_range {action : Action} (spares : action.SparesRange) {scale : Scale}
    {wide : Bool} (agree : scale = .g8 ↔ wide = true) :
    action.assumed scale = .g8 ↔ action.measured wide = true := by
  cases action with
  | configure scale rate => simp [assumed, measured]
  | updateControl1 set clear =>
    obtain ⟨set, clear⟩ := spares
    simp [assumed, measured, set, clear, agree]
  | _ => exact agree

theorem spare_range {actions : List Action} (spare : ∀ action ∈ actions, action.SparesRange)
    {scale : Scale} {wide : Bool} (agree : scale = .g8 ↔ wide = true) :
    actions.foldl Action.assumed scale = .g8 ↔ actions.foldl Action.measured wide = true := by
  induction actions generalizing scale wide with
  | nil => exact agree
  | cons action rest ih =>
    obtain ⟨spares, spare⟩ := List.forall_mem_cons.1 spare
    exact ih spare (Action.spares_range spares agree)

/-- A sample that was read after these operations, and what the control register held then. They
agree on the range unless an update has changed the bit past `configure`. -/
structure Bears (actions : List Action) (sample : Sample) (control : Flags .control1) : Prop where
  scale : sample.scale = actions.foldl Action.assumed .g2
  wide : control.wide = actions.foldl Action.measured false
  agree : (∀ action ∈ actions, action.SparesRange) → (sample.scale = .g8 ↔ control.wide = true)

theorem InRange.bears {W : Type} {holds : W → Controls → Prop} {actions : List Action}
    {driver : Lis302dl} {world : W}
    (inRange : InRange holds (actions.foldl Action.assumed .g2)
      (actions.foldl Action.measured false) driver world)
    {sample : Sample} (bears : sample.scale = actions.foldl Action.assumed .g2) :
    ∃ controls, holds world controls ∧ Bears actions sample ⟨controls .one⟩ := by
  obtain ⟨⟨controls, held, same⟩, -, wide⟩ := inRange
  have copied : (⟨controls .one⟩ : Flags .control1) = driver.control1 := by rw [same]
  refine ⟨controls, held, ?_⟩
  rw [copied]
  refine ⟨bears, wide, fun spare => ?_⟩
  rw [bears, wide]
  exact spare_range spare (by decide)

theorem InRange.atPowerOn {device : I2c.Device} {wires : I2c.SharedBus} {target : I2c.Target}
    (finds : device.Finds wires target) (mask : target.mask = 0x7F)
    (powerOn : target.registers.getD Register.control1.toNat 0 = 0x07) :
    InRange (HeldOverI2c device) .g2 false {} wires where
  held := ⟨controlsOf target, ⟨target, finds, mask, rfl⟩,
    (controlsOf_eq target .one).symm.trans powerOn⟩
  scale := rfl
  wide := by decide

/-- From the power-on value of the control register on, over either bus, every reading succeeds. Its
sample bears the range that was configured last, and this is the one the chip measures in unless an
update has set or cleared the bit for the range. -/
theorem samples_bear_range (actions : List Action) :
    (∀ (device : I2c.Device) (wires : I2c.SharedBus) (target : I2c.Target),
      device.Finds wires target → target.mask = 0x7F →
      target.registers.getD Register.control1.toNat 0 = 0x07 →
        let handler := Lis3.OverI2c.handler device
        let served := serve handler I2c.SharedBus.medium actions {} wires
        ∃ sample driver shared after,
          (Operation.via handler readAcceleration.run).run I2c.SharedBus.medium served.2.1
            served.2.2 = (.ok sample, driver, shared) ∧
          device.Finds shared after ∧
          Bears actions sample ⟨after.registers.getD Register.control1.toNat 0⟩) ∧
    (∀ (device : Spi.Device) (lines : Spi.SharedBus), lines.locked = false → lines.bus.Faultless →
      lines.bus.registers.getD Register.control1.toNat 0 = 0x07 →
        let handler := Lis3.OverSpi.handler device
        let served := serve handler Spi.SharedBus.medium actions {} lines
        ∃ sample driver shared,
          (Operation.via handler readAcceleration.run).run Spi.SharedBus.medium served.2.1
            served.2.2 = (.ok sample, driver, shared) ∧
          Bears actions sample ⟨shared.bus.registers.getD Register.control1.toNat 0⟩) := by
  refine ⟨?_, ?_⟩
  · intro device wires target finds mask powerOn
    have start := InRange.atPowerOn finds mask powerOn
    have reliable := reliable_overI2c device
    obtain ⟨sample, driver, shared, read, bears, inRange⟩ :=
      (start.serve reliable actions).readAcceleration reliable
    obtain ⟨controls, ⟨after, finds, mask, rfl⟩, bears⟩ := inRange.bears bears
    rw [← controlsOf_eq] at bears
    exact ⟨sample, driver, shared, after, read, finds, bears⟩
  · intro device lines free faultless powerOn
    have start : InRange HeldOverSpi .g2 false {} lines :=
      ⟨⟨_, ⟨lines.bus.registers, ⟨free, faultless, rfl⟩, fun _ => rfl⟩, powerOn⟩, rfl, by decide⟩
    have reliable := reliable_overSpi device
    obtain ⟨sample, driver, shared, read, bears, inRange⟩ :=
      (start.serve reliable actions).readAcceleration reliable
    obtain ⟨controls, ⟨file, offers, held⟩, bears⟩ := inRange.bears bears
    rw [← held, ← offers.registers] at bears
    exact ⟨sample, driver, shared, read, bears⟩

namespace Twins

theorem read_in_wide_range :
    (∃ sample driver shared after,
      (Operation.via (Lis3.OverI2c.handler device) readAcceleration.run).run I2c.SharedBus.medium
        overI2c.2.1 overI2c.2.2 = (.ok sample, driver, shared) ∧
      device.Finds shared after ∧ sample.scale = .g8 ∧
      (sample.scale = .g8 ↔
        (⟨after.registers.getD Register.control1.toNat 0⟩ : Flags .control1).wide = true)) ∧
    ∃ sample driver shared,
      (Operation.via (Lis3.OverSpi.handler chip) readAcceleration.run).run Spi.SharedBus.medium
        overSpi.2.1 overSpi.2.2 = (.ok sample, driver, shared) ∧ sample.scale = .g8 ∧
      (sample.scale = .g8 ↔
        (⟨shared.bus.registers.getD Register.control1.toNat 0⟩ : Flags .control1).wide = true) := by
  have spare : ∀ action ∈ actions, action.SparesRange := by
    simp [actions, Action.SparesRange]
  obtain ⟨samplesOverI2c, samplesOverSpi⟩ := samples_bear_range actions
  obtain ⟨sample, driver, shared, after, read, finds, bears⟩ :=
    samplesOverI2c device wires target finds_target rfl (by decide +kernel)
  obtain ⟨sample', driver', shared', read', bears'⟩ :=
    samplesOverSpi chip lines rfl faultless_lines (by decide +kernel)
  unfold overI2c overSpi
  exact ⟨⟨sample, driver, shared, after, read, finds, bears.scale, bears.agree spare⟩,
    sample', driver', shared', read', bears'.scale, bears'.agree spare⟩

/-- An update that sets the bit for the wide range leaves the scale behind: the chip measures in
steps four times as large as those that the sample is taken to be in. -/
theorem read_in_wrong_range :
    let served := serve (Lis3.OverI2c.handler device) I2c.SharedBus.medium
      [.updateControl1 ⟨0x20⟩ .empty] {} wires
    ∃ sample driver shared after,
      (Operation.via (Lis3.OverI2c.handler device) readAcceleration.run).run I2c.SharedBus.medium
        served.2.1 served.2.2 = (.ok sample, driver, shared) ∧
      device.Finds shared after ∧
      ¬ (sample.scale = .g8 ↔
        (⟨after.registers.getD Register.control1.toNat 0⟩ : Flags .control1).wide = true) := by
  have start := InRange.atPowerOn finds_target rfl (by decide +kernel)
  have reliable := reliable_overI2c device
  obtain ⟨sample, driver, shared, read, scale, inRange⟩ :=
    (start.serve reliable [.updateControl1 ⟨0x20⟩ .empty]).readAcceleration reliable
  obtain ⟨controls, ⟨after, finds, mask, rfl⟩, bears⟩ := inRange.bears scale
  rw [← controlsOf_eq] at bears
  refine ⟨sample, driver, shared, after, read, finds, fun agree => ?_⟩
  have updated : [Action.updateControl1 ⟨0x20⟩ .empty].foldl Action.measured false = true := by
    decide
  have narrow := bears.scale.symm.trans (agree.2 (bears.wide.trans updated))
  cases narrow

end Twins

end SensorBus.Lis302dl
