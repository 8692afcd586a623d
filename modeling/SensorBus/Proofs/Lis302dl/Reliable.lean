import SensorBus.Proofs.Lis302dl.OverI2c
import SensorBus.Proofs.Lis302dl.Service
import SensorBus.Proofs.Lis3.OverSpi

namespace SensorBus.Lis302dl

namespace Follows

variable {α β : Type} {start driver : Lis302dl} {controls : Controls}

theorem of_bind {p : Progress Lis3.interface Lis302dl (Except Error α)}
    {rest : Except Error α → Lis302dl → Progress Lis3.interface Lis302dl (Except Error β)}
    (follows : Follows start controls (p.bind rest))
    (back : ∀ value state controls, Follows start controls (rest value state) →
      Follows start controls (.done state value)) : Follows start controls p := by
  induction p generalizing controls with
  | done state value => exact back value state controls follows
  | ask state r next ih =>
    cases r with
    | probe =>
      obtain ⟨same, held, each⟩ := follows
      exact ⟨same, held, fun reply => ih reply (each reply)⟩
    | read register buffer =>
      obtain ⟨same, held, pos, apart, each⟩ := follows
      exact ⟨same, held, pos, apart, fun reply => ih reply (each reply)⟩
    | write register values =>
      obtain ⟨same, held, low, value, whole, stored, failed⟩ := follows
      exact ⟨same, held, low, value, whole, ih _ stored, fun error => ih _ (failed error)⟩

theorem of_map {f : α → β} {x : Attempt α}
    (follows : Follows start controls ((f <$> x).run driver)) :
    Follows start controls (x.run driver) := by
  refine of_bind (p := x.run driver) follows fun value state controls done => ?_
  cases value with
  | ok value => exact done
  | error error => exact done

end Follows

theorem Action.perform_follows (action : Action) (driver : Lis302dl) :
    Follows driver driver.cached (action.perform.run driver) := by
  have follows := action.follows driver
  rw [action.attempt_eq] at follows
  exact follows.of_map

def Yields {α : Type} (post : Except Error α → Lis302dl → Prop) :
    Progress Lis3.interface Lis302dl (Except Error α) → Prop
  | .done state value => post value state
  | .ask _ .probe _ => False
  | .ask _ (.read ..) next => ∀ values, Yields post (next (.ok (), values))
  | .ask _ (.write ..) next => Yields post (next (.ok ()))

namespace Yields

variable {α β : Type} {middle : Except Error α → Lis302dl → Prop}
  {post : Except Error β → Lis302dl → Prop} {driver : Lis302dl}

theorem bind {p : Progress Lis3.interface Lis302dl (Except Error α)}
    {rest : Except Error α → Lis302dl → Progress Lis3.interface Lis302dl (Except Error β)}
    (first : Yields middle p)
    (second : ∀ value state, middle value state → Yields post (rest value state)) :
    Yields post (p.bind rest) := by
  induction p with
  | done state value => exact second value state first
  | ask state r next ih =>
    cases r with
    | probe => exact first.elim
    | read register buffer => exact fun values => ih _ (first values)
    | write register values => exact ih _ first

theorem map {f : α → β} {x : Attempt α} (yields : Yields middle (x.run driver))
    (mapped : ∀ value state, middle value state → post (f <$> value) state) :
    Yields post ((f <$> x).run driver) := by
  refine bind (p := x.run driver) yields fun value state met => ?_
  cases value with
  | ok value => exact mapped _ _ met
  | error error => exact mapped _ _ met

theorem readRegister {register : UInt8} {next : UInt8 → Attempt β}
    (rest : ∀ value, Yields post ((next value).run driver)) :
    Yields post ((Lis3.readRegister register >>= next).run driver) :=
  fun values => rest (values.headD 0)

theorem updateRegister {register set clear : UInt8} :
    Yields (fun _ after => after = driver)
      ((Lis3.updateRegister register set clear).run driver) := by
  unfold Lis3.updateRegister
  split
  · exact rfl
  · exact fun _ => rfl

end Yields

structure Reliable {I : Interface} {W : Type} (handler : Handler Lis3.interface I Lis302dl)
    (M : Medium I W) (holds : W → Controls → Prop) : Prop where
  read {world : W} {controls : Controls} {register : UInt8} {buffer : List UInt8}
    (state : Lis302dl) (held : holds world controls) (apart : Apart register buffer.length)
    (pos : 0 < buffer.length) :
    ∃ values, ComesTo holds ((handler (.read register buffer) state).run M world) (.ok (), values)
      state controls
  write {world : W} {controls : Controls} {register : UInt8} (state : Lis302dl)
    (held : holds world controls) (low : register < 0x40) (value : UInt8) :
    ComesTo holds ((handler (.write register [value]) state).run M world) (.ok ()) state
      (controls.write register value)

theorem Reliable.run {I : Interface} {W α : Type} {handler : Handler Lis3.interface I Lis302dl}
    {M : Medium I W} {holds : W → Controls → Prop} (reliable : Reliable handler M holds)
    {post : Except Error α → Lis302dl → Prop} {start : Lis302dl} {copies : Controls}
    {p : Progress Lis3.interface Lis302dl (Except Error α)} (follows : Follows start copies p)
    (yields : Yields post p) {world : W} {controls : Controls} (held : holds world controls)
    {control : Control} (same : controls control = copies control) :
    ∃ value state controls', ComesTo holds ((p.via handler).run M world) value state controls' ∧
      post value state ∧ controls' control = state.cached control := by
  induction p generalizing copies controls world with
  | done state value =>
    refine ⟨value, state, controls, ⟨world, rfl, held⟩, yields, same.trans ?_⟩
    cases value with
    | ok value => exact congrFun follows.symm control
    | error error =>
      obtain ⟨rfl, copied⟩ := follows
      exact congrFun copied.symm control
  | ask state r next ih =>
    rw [Progress.via, Progress.run_bind]
    cases r with
    | probe => exact yields.elim
    | read register buffer =>
      obtain ⟨-, -, pos, apart, each⟩ := follows
      obtain ⟨values, between, came, held⟩ := reliable.read state held apart pos
      rw [came]
      exact ih _ (each _) (yields values) held same
    | write register values =>
      obtain ⟨-, -, low, value, rfl, stored, -⟩ := follows
      obtain ⟨between, came, held⟩ := reliable.write state held low value
      have written :
          controls.write register value control = copies.write register value control := by
        simp only [Controls.write, same]
      rw [came]
      exact ih _ stored yields held written

def HeldOverI2c (device : I2c.Device) (shared : I2c.SharedBus) (controls : Controls) : Prop :=
  ∃ target, device.Finds shared target ∧ target.mask = 0x7F ∧ controlsOf target = controls

theorem controlsOf_eq (target : I2c.Target) (control : Control) :
    target.registers.getD control.register.toNat 0 = controlsOf target control :=
  target.registers.getD_of_lt control.register.toNat_lt

section

variable {device : I2c.Device} {shared : I2c.SharedBus} {controls stored : Controls}

theorem HeldOverI2c.turn (held : HeldOverI2c device shared controls) {t : I2c.Transaction}
    (address : t.address = device.address) (accepted : t.attach.1 = true)
    (turns : Turns t controls stored) :
    ∃ after t', I2c.SharedBus.medium.perform (.transact device.timing t) shared =
        ((.ok (), t'), after) ∧ HeldOverI2c device after stored := by
  obtain ⟨target, finds, mask, held⟩ := held
  obtain ⟨after, performed, finds⟩ := finds.transact device.timing address accepted rfl
  obtain ⟨mask, ⟨-, held⟩ | ⟨⟨kind, failed⟩, -⟩⟩ := turns target none mask held
  · exact ⟨after, _, performed, _, finds, mask, held⟩
  · rw [I2c.Target.exchange_ok] at failed
    cases failed

theorem reliable_overI2c (device : I2c.Device) :
    Reliable (Lis3.OverI2c.handler device) I2c.SharedBus.medium (HeldOverI2c device) := by
  constructor
  · intro shared controls register buffer state held apart pos
    obtain ⟨after, t, performed, held⟩ := held.turn
      (t :=
        { address := device.address
          body := .writeRead [Lis3.OverI2c.registerByte register buffer.length] buffer })
      rfl rfl (turns_read rfl pos apart)
    have ran := device.run_readRegisters (Lis3.OverI2c.registerByte register buffer.length) state
      shared buffer
    rw [performed] at ran
    exact ⟨_, after, ran, held⟩
  · intro shared controls register state held low value
    obtain ⟨after, t, performed, held⟩ := held.turn
      (t :=
        { address := device.address
          body := .write [Lis3.OverI2c.registerByte register 1] [value] })
      rfl rfl (turns_write rfl low)
    have ran := device.run_writeRegisters (Lis3.OverI2c.registerByte register 1) state shared
      [value]
    rw [performed] at ran
    exact ⟨after, ran, held⟩

end

def HeldOverSpi (shared : Spi.SharedBus) (controls : Controls) : Prop :=
  ∃ file, shared.Offers file ∧
    ∀ control : Control, file.getD control.register.toNat 0 = controls control

theorem load_control (file : RegisterFile 64) {register : UInt8} (low : register < 0x40)
    (value : UInt8) (control : Control) :
    (file.load register.toNat [value]).getD control.register.toNat 0 =
      if control.register = register then value else file.getD control.register.toNat 0 := by
  have lt : register.toNat < 64 := low
  simp only [RegisterFile.load, Nat.mod_eq_of_lt lt, RegisterFile.getD_set _ lt, UInt8.toNat_inj,
    eq_comm]

theorem reliable_overSpi (device : Spi.Device) :
    Reliable (Lis3.OverSpi.handler device) Spi.SharedBus.medium HeldOverSpi := by
  constructor
  · intro shared controls register buffer state held apart pos
    obtain ⟨file, offers, held⟩ := held
    obtain ⟨after, ran, offers⟩ := Lis3.OverSpi.reads device register state offers buffer
    exact ⟨_, after, ran, file, offers, held⟩
  · intro shared controls register state held low value
    obtain ⟨file, offers, held⟩ := held
    obtain ⟨after, ran, offers⟩ := Lis3.OverSpi.writes device register state offers [value]
    refine ⟨after, ran, _, offers, fun control => ?_⟩
    rw [load_control file low, held, Controls.write]

end SensorBus.Lis302dl
