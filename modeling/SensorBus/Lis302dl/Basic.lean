import SensorBus.Lis302dl.Flags
import SensorBus.Lis302dl.Sample
import SensorBus.Lis3.Registers

/-!
The LIS302DL accelerometer. Its three control registers are cached, so that an update of one costs
a single write; the cache follows a write that succeeded, and nothing else.
-/

namespace SensorBus

structure Lis302dl where
  control1 : Lis302dl.Flags .control1 := ⟨0x07⟩
  control2 : Lis302dl.Flags .control2 := ⟨0x00⟩
  control3 : Lis302dl.Flags .control3 := ⟨0x00⟩
  status : Lis302dl.Flags .status := ⟨0x00⟩
  sample : Lis302dl.Sample := {}
  deriving DecidableEq

namespace Lis302dl

abbrev Attempt (α : Type) := Lis3.Attempt Lis302dl α

def identity : UInt8 := 0x3B

namespace Register

def control1 : UInt8 := 0x20
def control2 : UInt8 := 0x21
def control3 : UInt8 := 0x22
def highPassFilterReset : UInt8 := 0x23
def status : UInt8 := 0x27
def freeFallConfig : UInt8 := 0x30
def freeFallSource : UInt8 := 0x31
def freeFallThreshold : UInt8 := 0x32
def freeFallDuration : UInt8 := 0x33
def clickConfig : UInt8 := 0x38
def clickSource : UInt8 := 0x39
def clickThresholdYX : UInt8 := 0x3B
def clickThresholdZ : UInt8 := 0x3C
def clickTimeLimit : UInt8 := 0x3D
def clickLatency : UInt8 := 0x3E
def clickWindow : UInt8 := 0x3F

end Register

inductive Rate
  | hz100
  | hz400
  deriving DecidableEq

inductive Interrupt
  | one
  | two
  deriving DecidableEq

inductive InterruptSource
  | ground
  | freeFallWakeUp1
  | freeFallWakeUp2
  | freeFallWakeUp1Or2
  | dataReady
  | click
  deriving DecidableEq

def InterruptSource.all : List InterruptSource :=
  [.ground, .freeFallWakeUp1, .freeFallWakeUp2, .freeFallWakeUp1Or2, .dataReady, .click]

def InterruptSource.name : InterruptSource → String
  | .ground => "Gnd"
  | .freeFallWakeUp1 => "FreeFallWakeUp1"
  | .freeFallWakeUp2 => "FreeFallWakeUp2"
  | .freeFallWakeUp1Or2 => "FreeFallWakeUp1Or2"
  | .dataReady => "DataReady"
  | .click => "Click"

def Scale.control : Scale → Flags .control1
  | .g2 => .empty
  | .g8 => ⟨0x20⟩

def Rate.control : Rate → Flags .control1
  | .hz100 => .empty
  | .hz400 => ⟨0x80⟩

def activeControl : Flags .control1 := ⟨0x47⟩

def Interrupt.bank : Interrupt → UInt8
  | .one => 0x00
  | .two => 0x04

def InterruptSource.code : InterruptSource → UInt8
  | .ground => 0x00
  | .freeFallWakeUp1 => 0x01
  | .freeFallWakeUp2 => 0x02
  | .freeFallWakeUp1Or2 => 0x03
  | .dataReady => 0x04
  | .click => 0x07

def Interrupt.field : Interrupt → Flags .control3
  | .one => ⟨0x07⟩
  | .two => ⟨0x38⟩

def Interrupt.routed (source : InterruptSource) : Interrupt → Flags .control3
  | .one => ⟨source.code⟩
  | .two => ⟨source.code <<< 3⟩

def updateControl1 (set clear : Flags .control1) : Attempt Unit := do
  let value := (← get).control1.update set clear
  Lis3.writeRegister Register.control1 value.bits
  modify fun driver => { driver with control1 := value }

def updateControl2 (set clear : Flags .control2) : Attempt Unit := do
  let value := (← get).control2.update set clear
  Lis3.writeRegister Register.control2 value.bits
  modify fun driver => { driver with control2 := value }

def updateControl3 (set clear : Flags .control3) : Attempt Unit := do
  let value := (← get).control3.update set clear
  Lis3.writeRegister Register.control3 value.bits
  modify fun driver => { driver with control3 := value }

def configure (scale : Scale) (rate : Rate) : Attempt Unit := do
  updateControl1 ((activeControl.union scale.control).union rate.control) .all
  modify fun driver => { driver with sample := { driver.sample with scale } }

def writeInterruptSource (interrupt : Interrupt) (source : InterruptSource) : Attempt Unit :=
  updateControl3 (interrupt.routed source) interrupt.field

def readIdentity : Attempt UInt8 := do
  let id ← Lis3.readRegister Lis3.whoAmI
  if id = identity then return id else throw (.unexpectedIdentity id)

/-- The sample in a burst of the status register and the six bytes after it, every other one of
which belongs to an axis. -/
def Sample.ofBurst (scale : Scale) (burst : List UInt8) : Sample :=
  let axis (i : Nat) : Int8 := (burst.getD i 0).toInt8
  { x := axis 2, y := axis 4, z := axis 6, scale }

def readAcceleration : Attempt Sample := do
  let burst ← Lis3.registers Register.status 7
  let sample := Sample.ofBurst (← get).sample.scale burst
  modify fun driver => { driver with status := ⟨burst.headD 0⟩, sample }
  return sample

def updateFreeFallConfiguration (interrupt : Interrupt) (set clear : Flags .freeFallConfig) :
    Attempt (Flags .freeFallConfig) :=
  Flags.mk <$> Lis3.updateRegister (Register.freeFallConfig ||| interrupt.bank) set.bits clear.bits

def readFreeFallSource (interrupt : Interrupt) : Attempt (Flags .freeFallSource) :=
  Flags.mk <$> Lis3.readRegister (Register.freeFallSource ||| interrupt.bank)

def setFreeFallThreshold (interrupt : Interrupt) (threshold : UInt8) : Attempt Unit :=
  Lis3.writeRegister (Register.freeFallThreshold ||| interrupt.bank) threshold

def setFreeFallDuration (interrupt : Interrupt) (duration : UInt8) : Attempt Unit :=
  Lis3.writeRegister (Register.freeFallDuration ||| interrupt.bank) duration

def updateClickConfiguration (set clear : Flags .clickConfig) : Attempt (Flags .clickConfig) :=
  Flags.mk <$> Lis3.updateRegister Register.clickConfig set.bits clear.bits

def readClickSource : Attempt (Flags .clickSource) :=
  Flags.mk <$> Lis3.readRegister Register.clickSource

def Axis.clickThreshold : Axis → UInt8 × UInt8
  | .x => (Register.clickThresholdYX, 0)
  | .y => (Register.clickThresholdYX, 4)
  | .z => (Register.clickThresholdZ, 0)

def setClickThreshold (axis : Axis) (threshold : UInt8) : Attempt Unit := do
  let (register, shift) := axis.clickThreshold
  discard <| Lis3.updateRegister register ((threshold &&& 0x0F) <<< shift) (0x0F <<< shift)

def setClickTimeLimit (limit : UInt8) : Attempt Unit :=
  Lis3.writeRegister Register.clickTimeLimit limit

def setClickLatency (latency : UInt8) : Attempt Unit :=
  Lis3.writeRegister Register.clickLatency latency

def setClickWindow (window : UInt8) : Attempt Unit :=
  Lis3.writeRegister Register.clickWindow window

def resetHighPassFilter : Attempt Unit :=
  discard <| Lis3.readRegister Register.highPassFilterReset

end Lis302dl

end SensorBus
