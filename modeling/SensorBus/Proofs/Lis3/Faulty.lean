import SensorBus.Proofs.Bits
import SensorBus.Proofs.I2c.Likeness
import SensorBus.Proofs.Lis3.OverI2c

namespace SensorBus.Lis3

variable {n : Nat} {σ α : Type}

def Fails : (r : Request) → interface.Reply r → Prop
  | .probe, reply => ∃ error, reply = .error error
  | .read .., reply => ∃ error, reply.1 = .error error
  | .write .., reply => ∃ error, reply = .error error

def faulty (n : Nat) : Effect interface (RegisterFile n) := fun r file reply left =>
  (reply, left) = answer file r ∨ Fails r reply ∧ left = file

section

variable {size : Nat} {holds : σ → RegisterFile n → Prop}
  {ends : Except Error α → σ → RegisterFile n → Prop} {state : σ} {file : RegisterFile n}
  {register : UInt8} (inside : register.toNat < size) (held : holds state file)
  (failed : ∀ error, ends (.error error) state file)

include inside held failed

theorem minds_writeRegister {value : UInt8} {next : Unit → Attempt σ α}
    (rest : ((next ()).run state).Minds (Within size) (faulty n) holds ends
      (file.load register.toNat [value])) :
    ((writeRegister register value >>= next).run state).Minds (Within size) (faulty n) holds ends
      file := by
  refine ⟨write_within inside value, held, fun reply left came => ?_⟩
  obtain answered | ⟨⟨error, rfl⟩, rfl⟩ := came
  · cases answered
    exact rest
  · exact failed error

theorem minds_readRegister {next : UInt8 → Attempt σ α}
    (rest : ((next (file.getD (register.toNat % n) 0)).run state).Minds (Within size) (faulty n)
      holds ends file) :
    ((readRegister register >>= next).run state).Minds (Within size) (faulty n) holds ends
      file := by
  refine ⟨inside, held, fun reply left came => ?_⟩
  obtain answered | ⟨⟨error, result⟩, rfl⟩ := came
  · cases answered
    exact rest
  · obtain ⟨result, bytes⟩ := reply
    subst result
    exact failed error

theorem minds_updateRegister {set clear : UInt8} {next : UInt8 → Attempt σ α}
    (rest : ((next (modified (file.getD (register.toNat % n) 0) set clear)).run state).Minds
      (Within size) (faulty n) holds ends
      (file.load register.toNat [modified (file.getD (register.toNat % n) 0) set clear])) :
    ((updateRegister register set clear >>= next).run state).Minds (Within size) (faulty n) holds
      ends file := by
  by_cases all : clear = 0xFF
  · subst all
    have fast : (updateRegister register set 0xFF >>= next : Attempt σ α) =
        (writeRegister register set >>= fun _ => next set) := by
      have nothing : (0 &&& ~~~0xFF) ||| set = set := modified_all 0 set
      simp only [updateRegister, if_true, pure_bind, bind_assoc, nothing]
    rw [fast]
    rw [modified_all] at rest
    exact minds_writeRegister inside held failed rest
  · have slow : (updateRegister register set clear >>= next : Attempt σ α) =
        (readRegister register >>= fun old =>
          writeRegister register (modified old set clear) >>= fun _ =>
            next (modified old set clear)) := by
      simp only [updateRegister, if_neg all, bind_assoc, pure_bind, modified]
    rw [slow]
    exact minds_readRegister inside held failed (minds_writeRegister inside held failed rest)

end

namespace OverI2c

open I2c

def registers (device : Device) : Likeness device (RegisterFile 256) where
  possible _ := True
  kind t := t.address = device.address ∧ t.attach.1 = true
  shows file target := target.Plain 0x7F ∧ target.registers = file
  address kind := kind.1
  accepted kind := kind.2
  closed {t _ _ fault} _ shown _ :=
    ⟨_, shown.1.exchange false fault t.sequence.segments, rfl⟩

theorem exchange_selecting (target : Target) (fault : Option Fault) (byte : UInt8)
    (rest : List Segment) (short : rest.length ≤ 1) :
    let exchanged := target.exchange false fault (.write [byte] :: rest)
    (∃ error, exchanged.result.mapError Error.i2c = .error error) ∧
        exchanged.target.registers = target.registers ∨
      exchanged = target.exchange false none (.write [byte] :: rest) := by
  intro exchanged
  cases strikes : strike? (rest.length + 1) fault with
  | none => exact .inr (target.exchange_unstruck false (.write [byte] :: rest) strikes)
  | some kind =>
    obtain ⟨after, lt, rfl⟩ := strike?_eq_some.1 strikes
    have struck := target.exchange_struck false (.write [byte] :: rest) kind lt
    refine .inl ⟨⟨.i2c kind, ?_⟩, ?_⟩
    · exact congrArg (·.result.mapError Error.i2c) struck
    · refine (congrArg (·.target.registers) struck).trans ?_
      -- The fault strikes before the register is selected, or right after that.
      obtain rfl | rfl : after = 0 ∨ after = 1 := by omega
      · rfl
      · rfl

theorem pointer_select {target : Target} (plain : target.Plain 0x7F) {register : UInt8}
    (low : register < 0x80) (length : Nat) :
    (target.select (registerByte register length)).pointer = register := by
  rw [Target.select, plain.mask]
  exact mask_registerByte low length

section

variable {target : Target} (plain : target.Plain 0x7F) (fault : Option Fault) {register : UInt8}

include plain

theorem read_faulty {buffer : List UInt8} (within : register.toNat + buffer.length ≤ 0x80) :
    let body : Body := .writeRead [registerByte register buffer.length] buffer
    let exchanged := target.exchange false fault body.sequence.segments
    faulty 256 (.read register buffer) target.registers
      (exchanged.result.mapError .i2c, (body.receive exchanged.received).buffer?.getD [])
      exchanged.target.registers := by
  intro body exchanged
  cases buffer with
  | nil =>
    obtain failed | whole :=
      exchange_selecting target fault (registerByte register 0) [] (Nat.zero_le 1)
    · exact .inr failed
    · rw [show exchanged = _ from whole]
      exact .inl rfl
  | cons byte rest =>
    obtain failed | whole := exchange_selecting target fault
      (registerByte register (rest.length + 1)) [.read (rest.length + 1)] (Nat.le_refl 1)
    · exact .inr failed
    · obtain ⟨left, received⟩ := target.exchange_read (registerByte register (rest.length + 1))
        (rest.length + 1)
      obtain ⟨pointer, read⟩ := (target.select (registerByte register
        (rest.length + 1))).read_unscripted plain.unscripted (rest.length + 1)
      rw [show exchanged = _ from whole, left, received, Target.exchange_ok, read,
        pointer_select plain (low_of_within (Nat.le_refl _) within)]
      refine .inl (show ((Except.ok (), _), _) = ((Except.ok (), _), _) from ?_)
      simp [body, Body.receive, Body.buffer?, Target.select]

theorem write_faulty {values : List UInt8} (within : register.toNat + values.length ≤ 0x80) :
    let body : Body := .write [registerByte register values.length] values
    let exchanged := target.exchange false fault body.sequence.segments
    faulty 256 (.write register values) target.registers (exchanged.result.mapError .i2c)
      exchanged.target.registers := by
  intro body exchanged
  cases values with
  | nil =>
    obtain failed | whole :=
      exchange_selecting target fault (registerByte register 0) [] (Nat.zero_le 1)
    · exact .inr failed
    · rw [show exchanged = _ from whole]
      exact .inl rfl
  | cons value rest =>
    obtain failed | whole := exchange_selecting target fault
      (registerByte register (rest.length + 1)) [.write (value :: rest)] (Nat.le_refl 1)
    · exact .inr failed
    · obtain ⟨pointer, written⟩ := (target.select (registerByte register
        (rest.length + 1))).write_selected (value :: rest)
      rw [show exchanged = _ from whole, target.exchange_write, Target.exchange_ok, written,
        pointer_select plain (low_of_within (Nat.le_refl _) within)]
      exact .inl rfl

end

theorem minds (device : Device) :
    Handler.Minds (handler device : Handler interface I2c.interface σ) (Within 0x80) (faulty 256)
      (registers device).asks (registers device).effect := by
  intro r state file holds within held
  cases r with
  | probe => exact within.elim
  | read register buffer =>
    refine ⟨⟨rfl, rfl⟩, held, fun reply left came => ⟨rfl, ?_⟩⟩
    obtain ⟨result, t'⟩ := reply
    obtain ⟨target, fault, ⟨plain, rfl⟩, -, ⟨-, rfl⟩, rfl, body⟩ := came
    simp only [body]
    exact read_faulty plain fault within
  | write register values =>
    refine ⟨⟨rfl, rfl⟩, held, fun reply left came => ⟨rfl, ?_⟩⟩
    obtain ⟨result, t'⟩ := reply
    obtain ⟨target, fault, ⟨plain, rfl⟩, -, ⟨-, rfl⟩, rfl, -⟩ := came
    exact write_faulty plain fault within

end OverI2c

end SensorBus.Lis3
