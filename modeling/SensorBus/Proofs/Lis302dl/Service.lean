import SensorBus.Proofs.Lis302dl.Action
import SensorBus.Proofs.Lis3.Plain

namespace SensorBus.Lis302dl

namespace Action

def Value : Action → Type
  | .readIdentity => UInt8
  | .updateFreeFallConfiguration .. => Flags .freeFallConfig
  | .readFreeFallSource _ => Flags .freeFallSource
  | .updateClickConfiguration .. => Flags .clickConfig
  | .readClickSource => Flags .clickSource
  | .readAcceleration => Sample
  | _ => Unit

def perform : (action : Action) → Lis302dl.Attempt action.Value
  | .readIdentity => Lis302dl.readIdentity
  | .configure scale rate => Lis302dl.configure scale rate
  | .updateControl1 set clear => Lis302dl.updateControl1 set clear
  | .updateControl2 set clear => Lis302dl.updateControl2 set clear
  | .updateControl3 set clear => Lis302dl.updateControl3 set clear
  | .writeInterruptSource interrupt source => Lis302dl.writeInterruptSource interrupt source
  | .updateFreeFallConfiguration interrupt set clear =>
    Lis302dl.updateFreeFallConfiguration interrupt set clear
  | .readFreeFallSource interrupt => Lis302dl.readFreeFallSource interrupt
  | .setFreeFallThreshold interrupt threshold =>
    Lis302dl.setFreeFallThreshold interrupt threshold
  | .setFreeFallDuration interrupt duration => Lis302dl.setFreeFallDuration interrupt duration
  | .updateClickConfiguration set clear => Lis302dl.updateClickConfiguration set clear
  | .readClickSource => Lis302dl.readClickSource
  | .setClickThreshold axis threshold => Lis302dl.setClickThreshold axis threshold
  | .setClickTimeLimit limit => Lis302dl.setClickTimeLimit limit
  | .setClickLatency latency => Lis302dl.setClickLatency latency
  | .setClickWindow window => Lis302dl.setClickWindow window
  | .resetHighPassFilter => Lis302dl.resetHighPassFilter
  | .readAcceleration => Lis302dl.readAcceleration

theorem attempt_eq (action : Action) : action.attempt = (fun _ => ()) <$> action.perform := by
  cases action with
  | readIdentity | readFreeFallSource | readClickSource | readAcceleration
  | updateFreeFallConfiguration | updateClickConfiguration => rfl
  | configure | updateControl1 | updateControl2 | updateControl3 | writeInterruptSource
  | setFreeFallThreshold | setFreeFallDuration | setClickThreshold | setClickTimeLimit
  | setClickLatency | setClickWindow | resetHighPassFilter => exact (id_map _).symm

theorem perform_within (action : Action) : action.perform.run.Asks (Lis3.Within 0x40) := by
  cases action with
  | updateControl1 | updateControl2 | updateControl3 | configure | writeInterruptSource =>
    intro driver
    refine ⟨Lis3.write_within (by decide) _, fun reply => ?_⟩
    cases reply <;> trivial
  | readIdentity =>
    refine .attempt (Lis3.readRegister_within (by decide)) fun id => ?_
    split <;> exact .pure _
  | readAcceleration =>
    refine .attempt (Lis3.registers_within (by decide)) fun burst => ?_
    exact fun driver => trivial
  | readFreeFallSource interrupt =>
    exact .map (Lis3.readRegister_within (by cases interrupt <;> decide))
  | readClickSource => exact .map (Lis3.readRegister_within (by decide))
  | resetHighPassFilter => exact .map (Lis3.readRegister_within (by decide))
  | updateFreeFallConfiguration interrupt set clear =>
    exact .map (Lis3.updateRegister_within (by cases interrupt <;> decide) _ _)
  | updateClickConfiguration => exact .map (Lis3.updateRegister_within (by decide) _ _)
  | setClickThreshold axis threshold =>
    exact .map (Lis3.updateRegister_within (by cases axis <;> decide) _ _)
  | setFreeFallThreshold interrupt | setFreeFallDuration interrupt =>
    exact Lis3.writeRegister_within (by cases interrupt <;> decide) _
  | setClickTimeLimit | setClickLatency | setClickWindow =>
    exact Lis3.writeRegister_within (by decide) _

end Action

structure Served where
  action : Action
  result : Except Error action.Value
  driver : Lis302dl

variable {I : Interface} {W : Type}

def serve (handler : Handler Lis3.interface I Lis302dl) (M : Medium I W) :
    List Action → Lis302dl → W → List Served × Lis302dl × W
  | [], driver, world => ([], driver, world)
  | action :: rest, driver, world =>
    let (result, driver, world) := (Operation.via handler action.perform.run).run M driver world
    let (served, last, world) := serve handler M rest driver world
    (⟨action, result, driver⟩ :: served, last, world)

def servePlainly {n : Nat} (actions : List Action) (driver : Lis302dl) (file : RegisterFile n) :
    List Served × Lis302dl × RegisterFile n :=
  serve (fun r => Operation.request r) (Lis3.plain n) actions driver file

theorem serve_comesTo {handler : Handler Lis3.interface I Lis302dl} {M : Medium I W} {n : Nat}
    {corresponds : W → RegisterFile n → Prop}
    (simulates : handler.Simulates M (Lis3.plain n) (Lis3.Within 0x40) corresponds)
    (actions : List Action) (driver : Lis302dl) {world : W} {file : RegisterFile n}
    (start : corresponds world file) :
    ComesTo corresponds (serve handler M actions driver world) (servePlainly actions driver file).1
      (servePlainly actions driver file).2.1 (servePlainly actions driver file).2.2 := by
  induction actions generalizing driver world file with
  | nil => exact ⟨world, rfl, start⟩
  | cons action rest ih =>
    obtain ⟨between, came, goesOn⟩ := simulates.run action.perform_within driver start
    obtain ⟨after, served, ends⟩ :=
      ih (action.perform.run.run (Lis3.plain n) driver file).2.1 goesOn
    simp only [servePlainly, serve, Operation.via_request] at ends ⊢
    refine ⟨after, ?_, ends⟩
    simp only [came, served]
    rfl

end SensorBus.Lis302dl
