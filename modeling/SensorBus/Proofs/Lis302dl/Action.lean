import SensorBus.Lis302dl.Basic
import SensorBus.Proofs.Job.Requests

namespace SensorBus.Lis302dl

inductive Control
  | one
  | two
  | three
  deriving DecidableEq

def Control.register : Control → UInt8
  | .one => Register.control1
  | .two => Register.control2
  | .three => Register.control3

abbrev Controls := Control → UInt8

def cached (driver : Lis302dl) : Controls
  | .one => driver.control1.bits
  | .two => driver.control2.bits
  | .three => driver.control3.bits

def Controls.write (controls : Controls) (register value : UInt8) : Controls :=
  fun control => if control.register = register then value else controls control

theorem Controls.write_of_ne (controls : Controls) {register : UInt8}
    (ne : ∀ control : Control, control.register ≠ register) (value : UInt8) :
    controls.write register value = controls :=
  funext fun control => if_neg (ne control)

inductive Action
  | readIdentity
  | configure (scale : Scale) (rate : Rate)
  | updateControl1 (set clear : Flags .control1)
  | updateControl2 (set clear : Flags .control2)
  | updateControl3 (set clear : Flags .control3)
  | writeInterruptSource (interrupt : Interrupt) (source : InterruptSource)
  | updateFreeFallConfiguration (interrupt : Interrupt) (set clear : Flags .freeFallConfig)
  | readFreeFallSource (interrupt : Interrupt)
  | setFreeFallThreshold (interrupt : Interrupt) (threshold : UInt8)
  | setFreeFallDuration (interrupt : Interrupt) (duration : UInt8)
  | updateClickConfiguration (set clear : Flags .clickConfig)
  | readClickSource
  | setClickThreshold (axis : Axis) (threshold : UInt8)
  | setClickTimeLimit (limit : UInt8)
  | setClickLatency (latency : UInt8)
  | setClickWindow (window : UInt8)
  | resetHighPassFilter
  | readAcceleration

namespace Action

def attempt : Action → Attempt Unit
  | .readIdentity => (fun _ => ()) <$> Lis302dl.readIdentity
  | .configure scale rate => Lis302dl.configure scale rate
  | .updateControl1 set clear => Lis302dl.updateControl1 set clear
  | .updateControl2 set clear => Lis302dl.updateControl2 set clear
  | .updateControl3 set clear => Lis302dl.updateControl3 set clear
  | .writeInterruptSource interrupt source => Lis302dl.writeInterruptSource interrupt source
  | .updateFreeFallConfiguration interrupt set clear =>
    (fun _ => ()) <$> Lis302dl.updateFreeFallConfiguration interrupt set clear
  | .readFreeFallSource interrupt => (fun _ => ()) <$> Lis302dl.readFreeFallSource interrupt
  | .setFreeFallThreshold interrupt threshold =>
    Lis302dl.setFreeFallThreshold interrupt threshold
  | .setFreeFallDuration interrupt duration => Lis302dl.setFreeFallDuration interrupt duration
  | .updateClickConfiguration set clear =>
    (fun _ => ()) <$> Lis302dl.updateClickConfiguration set clear
  | .readClickSource => (fun _ => ()) <$> Lis302dl.readClickSource
  | .setClickThreshold axis threshold => Lis302dl.setClickThreshold axis threshold
  | .setClickTimeLimit limit => Lis302dl.setClickTimeLimit limit
  | .setClickLatency latency => Lis302dl.setClickLatency latency
  | .setClickWindow window => Lis302dl.setClickWindow window
  | .resetHighPassFilter => Lis302dl.resetHighPassFilter
  | .readAcceleration => (fun _ => ()) <$> Lis302dl.readAcceleration

def updates : Action → Option Control
  | .configure .. | .updateControl1 .. => some .one
  | .updateControl2 .. => some .two
  | .updateControl3 .. | .writeInterruptSource .. => some .three
  | _ => none

end Action

def Apart (register : UInt8) (length : Nat) : Prop :=
  register.toNat + length ≤ 0x20 ∨ 0x22 < register.toNat ∧ register.toNat + length ≤ 0x80

instance (register : UInt8) (length : Nat) : Decidable (Apart register length) :=
  inferInstanceAs (Decidable (_ ∨ _))

theorem Apart.ne {register : UInt8} (apart : Apart register 1) (control : Control) :
    control.register ≠ register := by
  rintro rfl
  revert apart
  cases control <;> decide

/-- From here on, with this in the control registers and the driver as it was at the start, the
copies follow the registers: they change with a write that succeeded, and what failed changes
neither. The driver itself changes only at the end, and only if nothing has failed. -/
def Follows {α : Type} (start : Lis302dl) :
    Controls → Progress Lis3.interface Lis302dl (Except Error α) → Prop
  | controls, .done state (.ok _) => state.cached = controls
  | controls, .done state (.error _) => state = start ∧ start.cached = controls
  | controls, .ask state .probe next =>
    state = start ∧ start.cached = controls ∧ ∀ reply, Follows start controls (next reply)
  | controls, .ask state (.read register buffer) next =>
    state = start ∧ start.cached = controls ∧ 0 < buffer.length ∧ Apart register buffer.length ∧
      ∀ reply, Follows start controls (next reply)
  | controls, .ask state (.write register values) next =>
    state = start ∧ start.cached = controls ∧ register < 0x40 ∧ ∃ value, values = [value] ∧
      Follows start (controls.write register value) (next (.ok ())) ∧
      ∀ error, Follows start controls (next (.error error))

namespace Follows

variable {α β : Type} {start driver : Lis302dl} {controls : Controls}

theorem bind {p : Progress Lis3.interface Lis302dl (Except Error α)}
    {rest : Except Error α → Lis302dl → Progress Lis3.interface Lis302dl (Except Error β)}
    (first : Follows start controls p)
    (second : ∀ value state controls, Follows start controls (.done state value) →
      Follows start controls (rest value state)) : Follows start controls (p.bind rest) := by
  induction p generalizing controls with
  | done state value => exact second value state controls first
  | ask state r next ih =>
    cases r with
    | probe =>
      obtain ⟨same, held, each⟩ := first
      exact ⟨same, held, fun reply => ih reply (each reply)⟩
    | read register buffer =>
      obtain ⟨same, held, pos, apart, each⟩ := first
      exact ⟨same, held, pos, apart, fun reply => ih reply (each reply)⟩
    | write register values =>
      obtain ⟨same, held, low, value, whole, stored, failed⟩ := first
      exact ⟨same, held, low, value, whole, ih _ stored, fun error => ih _ (failed error)⟩

theorem map {f : α → β} {x : Attempt α} (follows : Follows start controls (x.run driver)) :
    Follows start controls ((f <$> x).run driver) := by
  refine bind (p := x.run driver) follows fun value state controls done => ?_
  cases value with
  | ok value => exact done
  | error error => exact done

theorem write {register value : UInt8} (low : register < 0x40) {next : Unit → Attempt α}
    (rest : Follows driver (driver.cached.write register value) ((next ()).run driver)) :
    Follows driver driver.cached ((Lis3.writeRegister register value >>= next).run driver) :=
  ⟨rfl, rfl, low, value, rfl, rest, fun _ => ⟨rfl, rfl⟩⟩

theorem write_apart {register value : UInt8} (low : register < 0x40) (apart : Apart register 1) :
    Follows driver driver.cached ((Lis3.writeRegister register value).run driver) :=
  ⟨rfl, rfl, low, value, rfl, (driver.cached.write_of_ne apart.ne value).symm, fun _ => ⟨rfl, rfl⟩⟩

theorem read {register : UInt8} {length : Nat} (pos : 0 < length) (apart : Apart register length)
    {next : List UInt8 → Attempt α}
    (rest : ∀ values, Follows driver driver.cached ((next values).run driver)) :
    Follows driver driver.cached ((Lis3.registers register length >>= next).run driver) := by
  refine ⟨rfl, rfl, ?_, ?_, fun reply => ?_⟩
  · simpa using pos
  · simpa using apart
  · obtain ⟨error | ⟨⟩, values⟩ := reply
    · exact ⟨rfl, rfl⟩
    · exact rest values

theorem readRegister {register : UInt8} (apart : Apart register 1) {next : UInt8 → Attempt α}
    (rest : ∀ value, Follows driver driver.cached ((next value).run driver)) :
    Follows driver driver.cached ((Lis3.readRegister register >>= next).run driver) := by
  rw [Lis3.readRegister, bind_assoc]
  exact read Nat.one_pos apart fun values => rest (values.headD 0)

theorem updateRegister {register set clear : UInt8} (low : register < 0x40)
    (apart : Apart register 1) :
    Follows driver driver.cached ((Lis3.updateRegister register set clear).run driver) := by
  have written (old : UInt8) : Follows driver driver.cached ((do
      Lis3.writeRegister register ((old &&& ~~~clear) ||| set)
      return (old &&& ~~~clear) ||| set : Attempt UInt8).run driver) :=
    write low (driver.cached.write_of_ne apart.ne _).symm
  unfold Lis3.updateRegister
  split
  · exact written 0
  · exact readRegister apart written

end Follows

theorem Action.follows (action : Action) (driver : Lis302dl) :
    Follows driver driver.cached (action.attempt.run driver) := by
  cases action with
  | updateControl1 | updateControl2 | updateControl3 | configure | writeInterruptSource =>
    -- A single write, of the value that goes into the copy behind it.
    refine ⟨rfl, rfl, by decide, _, rfl, ?_, fun _ => ⟨rfl, rfl⟩⟩
    exact funext fun control => by cases control <;> rfl
  | readIdentity =>
    refine .map (.readRegister (by decide) fun id => ?_)
    split
    · exact rfl
    · exact ⟨rfl, rfl⟩
  | readAcceleration => exact .map (.read (by decide) (by decide) fun _ => rfl)
  | readFreeFallSource interrupt =>
    exact .map (.map (.read (by decide) (by cases interrupt <;> decide) fun _ => rfl))
  | readClickSource => exact .map (.map (.read (by decide) (by decide) fun _ => rfl))
  | resetHighPassFilter => exact .map (.read (by decide) (by decide) fun _ => rfl)
  | updateFreeFallConfiguration interrupt set clear =>
    exact .map (.map (.updateRegister (by cases interrupt <;> decide)
      (by cases interrupt <;> decide)))
  | updateClickConfiguration set clear =>
    exact .map (.map (.updateRegister (by decide) (by decide)))
  | setClickThreshold axis threshold =>
    cases axis <;> exact .map (.updateRegister (by decide) (by decide))
  | setFreeFallThreshold interrupt threshold | setFreeFallDuration interrupt threshold =>
    exact .write_apart (by cases interrupt <;> decide) (by cases interrupt <;> decide)
  | setClickTimeLimit | setClickLatency | setClickWindow =>
    exact .write_apart (by decide) (by decide)

end SensorBus.Lis302dl
