import SensorBus.Proofs.Bits
import SensorBus.Proofs.I2c.Bytes
import SensorBus.Proofs.I2c.Registers
import SensorBus.Proofs.I2c.Sparing

namespace SensorBus.I2c

variable {σ α : Type} {device other : Device} {register : UInt8}

namespace Target

variable {target : Target} (plain : target.Plain 0xFF) (register : UInt8)

include plain

theorem pointer_select : (target.select register).pointer = register := by
  rw [select, plain.mask, and_all]

theorem exchange_reading :
    (target.exchange false none [.write [register], .read 1]).received = [target.byte register] ∧
      ∃ pointer, (target.exchange false none [.write [register], .read 1]).target =
        { target with pointer } := by
  obtain ⟨whole, received⟩ := target.exchange_read register 1
  obtain ⟨pointer, read⟩ := (target.select register).read_unscripted plain.unscripted 1
  rw [whole, received, read, pointer_select plain, byte_eq_getD]
  refine ⟨?_, pointer, rfl⟩
  rw [RegisterFile.slice, Nat.mod_eq_of_lt register.toNat_lt]
  rfl

theorem byte_exchange_writing (value register' : UInt8) :
    (target.exchange false none [.write [register, value]]).target.byte register' =
      if register = register' then value else target.byte register' := by
  refine ((target.select register).store_byte value register').trans ?_
  rw [pointer_select plain]
  rfl

end Target

structure Accesses (device : Device) (register : UInt8) (t : Transaction) : Prop where
  address : t.address = device.address
  accepted : t.attach.1 = true
  segments : t.sequence.segments = [.write [register], .read 1] ∨
    ∃ value, t.sequence.segments = [.write [register, value]]

theorem Accesses.keeps {t : Transaction} {target : Target} (accesses : Accesses device register t)
    (plain : target.Plain 0xFF) {register' : UInt8} (ne : register ≠ register') :
    (target.exchange false none t.sequence.segments).target.byte register' =
      target.byte register' := by
  obtain segments | ⟨value, segments⟩ := accesses.segments <;> rw [segments]
  · obtain ⟨-, pointer, whole⟩ := Target.exchange_reading plain register
    rw [whole]
    rfl
  · rw [Target.byte_exchange_writing plain, if_neg ne]

def oneRegister (device : Device) (register : UInt8) : Likeness device UInt8 where
  possible _ := False
  kind := Accesses device register
  shows value target := target.Plain 0xFF ∧ target.byte register = value
  address := Accesses.address
  accepted := Accesses.accepted
  closed _ shown _ := ⟨_, shown.1.exchange _ _ _, rfl⟩

theorem oneRegister_effect {timing : Option Timing} {t t' : Transaction} {old left : UInt8}
    {result : Except Error Unit} {segments : List Segment}
    (came : (oneRegister device register).effect (.transact timing t) old (result, t') left)
    (carries : t.sequence.segments = segments) :
    result = .ok () ∧ ∃ target : Target, target.Plain 0xFF ∧ target.byte register = old ∧
      let exchanged := target.exchange false none segments
      t'.body = t.body.receive exchanged.received ∧ exchanged.target.byte register = left := by
  subst carries
  obtain ⟨target, _ | fault, ⟨plain, byte⟩, faultless, ⟨-, shown⟩, ended, body⟩ := came
  · rw [Target.exchange_ok] at ended
    exact ⟨ended, target, plain, byte, body, shown⟩
  · exact (faultless fault rfl).elim

section

variable {holds : σ → UInt8 → Prop} {ends : Except Error α → σ → UInt8 → Prop} {state : σ}
  {old : UInt8} (held : holds state old)

include held

theorem minds_writeRegister {value : UInt8} {next : Unit → Attempt σ α}
    (rest : ((next ()).run state).Minds (oneRegister device register).asks
      (oneRegister device register).effect holds ends value) :
    ((device.writeRegister register value >>= next).run state).Minds
      (oneRegister device register).asks (oneRegister device register).effect holds ends old := by
  have segments : (Body.write [] [register, value]).sequence.segments =
    [.write [register, value]] := rfl
  refine ⟨⟨rfl, rfl, .inr ⟨value, segments⟩⟩, held, fun reply left came => ?_⟩
  obtain ⟨result, t'⟩ := reply
  obtain ⟨rfl, target, plain, -, -, shown⟩ := oneRegister_effect came segments
  rw [Target.byte_exchange_writing plain, if_pos rfl] at shown
  subst shown
  exact rest

theorem minds_readRegister {next : UInt8 → Attempt σ α}
    (rest : ((next old).run state).Minds (oneRegister device register).asks
      (oneRegister device register).effect holds ends old) :
    ((device.readRegister register >>= next).run state).Minds
      (oneRegister device register).asks (oneRegister device register).effect holds ends old := by
  have segments := Device.reading_segments Nat.one_pos register
  refine ⟨⟨rfl, rfl, .inl segments⟩, held, fun reply left came => ?_⟩
  obtain ⟨result, t'⟩ := reply
  obtain ⟨rfl, target, plain, byte, body, shown⟩ := oneRegister_effect came segments
  obtain ⟨received, pointer, whole⟩ := Target.exchange_reading plain register
  obtain rfl : left = old := by
    rw [whole] at shown
    exact shown.symm.trans byte
  have read : (t'.body.buffer?.getD []).headD 0 = left := by
    rw [body, received, byte]
    rfl
  rw [← read] at rest ⊢
  exact rest

theorem minds_updateRegister {set clear : UInt8} {next : UInt8 → Attempt σ α}
    (rest : ((next (modified old set clear)).run state).Minds (oneRegister device register).asks
      (oneRegister device register).effect holds ends (modified old set clear)) :
    ((device.updateRegister register set clear >>= next).run state).Minds
      (oneRegister device register).asks (oneRegister device register).effect holds ends old := by
  by_cases all : clear = 0xFF
  · subst all
    have fast : (device.updateRegister register set 0xFF >>= next : Attempt σ α) =
        (device.writeRegister register set >>= fun _ => next set) := by
      have nothing : (0 &&& ~~~0xFF) ||| set = set := modified_all 0 set
      simp only [Device.updateRegister, if_true, pure_bind, bind_assoc, nothing]
    rw [fast]
    rw [modified_all] at rest
    exact minds_writeRegister held rest
  · have slow : (device.updateRegister register set clear >>= next : Attempt σ α) =
        (device.readRegister register >>= fun old =>
          device.writeRegister register (modified old set clear) >>= fun _ =>
            next (modified old set clear)) := by
      simp only [Device.updateRegister, if_neg all, bind_assoc, pure_bind, modified]
    rw [slow]
    exact minds_readRegister held (minds_writeRegister held rest)

end

theorem oneRegister_spares {register' : UInt8} (address : other.address = device.address)
    (ne : register ≠ register') (value : UInt8) :
    (oneRegister device register).shadow.Spares
      ((oneRegister other register').shadow.agrees value) := by
  refine Likeness.spares_agrees address ?_
  rintro t shadow target (_ | fault) accesses - faultless ⟨plain, byte⟩
  · exact ⟨plain.exchange _ _ _, (accesses.keeps plain ne).trans byte⟩
  · exact (faultless fault rfl).elim

theorem oneRegister_spares_rest {registers : List UInt8} (mem : register ∈ registers)
    (address : other.address = device.address) (before : Target) :
    (oneRegister device register).shadow.Spares fun shared => other.Faces
      (fun target => target.Plain 0xFF ∧
        ∀ register' ∉ registers, target.byte register' = before.byte register') shared.master := by
  refine Likeness.spares_faces address ?_
  rintro t shadow target (_ | fault) accesses - faultless ⟨plain, same⟩
  · refine ⟨plain.exchange _ _ _, fun register' not_mem => ?_⟩
    have ne : register ≠ register' := fun eq => not_mem (eq ▸ mem)
    exact (accesses.keeps plain ne).trans (same register' not_mem)
  · exact (faultless fault rfl).elim

end SensorBus.I2c
