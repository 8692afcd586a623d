import SensorBus.Bme280.Basic
import SensorBus.Proofs.I2c.Accesses
import SensorBus.Proofs.I2c.FailFast

namespace SensorBus.Bme280

open I2c

inductive Call
  | start (config : Config)
  | configure (config : Config)
  | readData
  | measureForced
  | isMeasuring
  deriving DecidableEq

inductive Answer
  | chip (chip : Chip)
  | done
  | measurement (measurement : Measurement)
  | measuring (measuring : Bool)
  deriving DecidableEq

namespace Call

def attempt (device : Device) : Call → Attempt Answer
  | .start config => .chip <$> Bme280.start device config
  | .configure config => (fun _ => .done) <$> Bme280.configure device config
  | .readData => .measurement <$> Bme280.readData device
  | .measureForced => .measurement <$> Bme280.measureForced device
  | .isMeasuring => .measuring <$> Bme280.isMeasuring device

def operation (device : Device) (call : Call) :
    Operation interface Bme280 (Except Error Answer) :=
  (call.attempt device).run

end Call

section

variable (device : Device)

theorem awaitClear_failsFast (mask : UInt8) (attempts : Nat) :
    FailsFast (awaitClear device mask attempts).run := by
  induction attempts with
  | zero => exact .pure _
  | succ attempts ih =>
    refine .attempt (.readRegister device _) fun status => ?_
    split
    · exact .pure _
    · exact .attempt (.pause _) fun _ => ih

theorem configure_failsFast (config : Config) : FailsFast (configure device config).run := by
  refine .attempt (fun _ => trivial) fun driver => ?_
  have rest : FailsFast (do
      device.writeRegister Register.config config.configByte
      device.writeRegister Register.ctrlMeas config.ctrlMeas
      modify fun driver => { driver with config } : Attempt Unit).run :=
    .attempt (.writeRegister device _ _) fun _ =>
      .attempt (.writeRegister device _ _) fun _ => fun _ => trivial
  dsimp only
  split
  · exact .attempt (.writeRegister device _ _) fun _ => rest
  · exact rest

theorem readCalibration_failsFast : FailsFast (readCalibration device).run := by
  refine .attempt (.registers device _ _) fun low => .attempt (fun _ => trivial) fun driver => ?_
  split
  · exact .attempt (.registers device _ _) fun high => fun _ => trivial
  · exact fun _ => trivial

theorem readData_failsFast : FailsFast (readData device).run :=
  .attempt (fun _ => trivial) fun _ => .attempt (.registers device _ _) fun _ =>
    .attempt (fun _ => trivial) fun _ => .pure _

theorem identify_failsFast : FailsFast (identify device).run :=
  .attempt (.readRegister device _) fun id => .attempt (.pure (Chip.ofId id)) fun _ _ => trivial

theorem Call.failsFast (call : Call) : FailsFast (call.operation device) := by
  cases call with
  | start config =>
    refine .map ?_
    refine .attempt (identify_failsFast device) fun _ => ?_
    refine .attempt (.writeRegister device _ _) fun _ => .attempt (.pause _) fun _ => ?_
    refine .attempt (awaitClear_failsFast device _ _) fun _ => ?_
    refine .attempt (readCalibration_failsFast device) fun _ => ?_
    exact .attempt (configure_failsFast device config) fun _ => fun _ => trivial
  | configure config => exact .map (configure_failsFast device config)
  | readData => exact .map (readData_failsFast device)
  | measureForced =>
    refine .map (.attempt (fun _ => trivial) fun driver => ?_)
    refine .attempt (.writeRegister device _ _) fun _ => .attempt (.pause _) fun _ => ?_
    exact .attempt (awaitClear_failsFast device _ _) fun _ => readData_failsFast device
  | isMeasuring => exact .map (.attempt (.readRegister device _) fun status => .pure _)

end

end SensorBus.Bme280
