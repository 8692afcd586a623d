import SensorBus.Proofs.I2c.Facing
import SensorBus.Proofs.RegisterFile

namespace SensorBus.I2c

namespace Target

def byte (target : Target) (register : UInt8) : UInt8 :=
  have lt := register.toNat_lt
  target.registers[register.toNat]

def script (target : Target) (register : UInt8) : List UInt8 :=
  have lt := register.toNat_lt
  target.scripts[register.toNat]

variable {target : Target} {register : UInt8}

theorem byte_eq_getD (target : Target) (register : UInt8) :
    target.byte register = target.registers.getD register.toNat 0 :=
  (target.registers.getD_of_lt register.toNat_lt).symm

theorem store_byte (target : Target) (value register : UInt8) :
    (target.store value).byte register =
      if target.pointer = register then value else target.byte register := by
  simp only [byte, store, Vector.getElem_set, UInt8.toNat_inj]

theorem readByte_pointer (target : Target) :
    target.readByte.2.pointer = target.pointer + 1 ∧ target.readByte.2.mask = target.mask := by
  simp only [readByte]
  split <;> exact ⟨rfl, rfl⟩

theorem readByte_keeps (apart : target.pointer ≠ register ∨ target.script register = []) :
    target.readByte.2.byte register = target.byte register ∧
      target.readByte.2.script register = target.script register := by
  simp only [readByte]
  split
  · exact ⟨rfl, rfl⟩
  · next byte rest scripted =>
    have ne : target.pointer.toNat ≠ register.toNat := by
      intro eq
      obtain rfl := UInt8.toNat_inj.1 eq
      obtain ne | empty := apart
      · exact ne rfl
      · rw [script, scripted] at empty
        cases empty
    simp [Target.byte, script, ne]

theorem read_mask (target : Target) (count : Nat) :
    (target.read count).2.mask = target.mask := by
  induction count generalizing target with
  | zero => rfl
  | succ count ih => exact (ih target.readByte.2).trans target.readByte_pointer.2

theorem read_keeps {count : Nat}
    (apart : (∀ i < count, target.pointer + .ofNat i ≠ register) ∨ target.script register = []) :
    (target.read count).2.byte register = target.byte register ∧
      (target.read count).2.script register = target.script register := by
  induction count generalizing target with
  | zero => exact ⟨rfl, rfl⟩
  | succ count ih =>
    have first : target.pointer ≠ register ∨ target.script register = [] :=
      apart.imp_left fun apart => by simpa using apart 0 (Nat.succ_pos _)
    obtain ⟨same, scripts⟩ := readByte_keeps first
    have rest : (∀ i < count, target.readByte.2.pointer + .ofNat i ≠ register) ∨
        target.readByte.2.script register = [] := by
      rw [target.readByte_pointer.1, scripts]
      refine apart.imp_left fun apart i lt => ?_
      have next := apart (i + 1) (Nat.succ_lt_succ lt)
      rwa [Nat.add_comm i 1, UInt8.ofNat_add, ← UInt8.add_assoc] at next
    obtain ⟨same', scripts'⟩ := ih rest
    exact ⟨same'.trans same, scripts'.trans scripts⟩

end Target

theorem Device.reading_segments {count : Nat} (pos : 0 < count) (register : UInt8) :
    (Body.writeRead [register] (List.replicate count 0)).sequence.segments =
      [.write [register], .read count] := by
  cases count with
  | zero => cases pos
  | succ count => simp [Body.sequence, Sequence.normalized, Sequence.segments, List.replicate_succ]

section

variable {t : Transaction} {register : UInt8} {before after : Target → Prop}

theorem turns_reading {count : Nat}
    (segments : t.sequence.segments = [.write [register], .read count])
    (selected : ∀ target, before target → before (target.select register))
    (read : ∀ target, before target → after ((target.select register).read count).2) :
    Turns t before after := by
  intro target fault viewed
  rw [segments]
  obtain ⟨kind, rfl⟩ | passes := Target.strikes_or_passes fault
  · rw [Target.exchange_cons_strikes]
    exact .inr ⟨⟨kind, rfl⟩, viewed⟩
  · rw [Target.exchange_cons_passes target false passes]
    have carried : target.carry false (.write [register]) = (target.select register, true, []) :=
      rfl
    simp only [carried]
    generalize fault.map _ = fault
    obtain ⟨kind, rfl⟩ | passes := Target.strikes_or_passes fault
    · rw [Target.exchange_cons_strikes]
      exact .inr ⟨⟨kind, rfl⟩, selected target viewed⟩
    · rw [Target.exchange_cons_passes _ true passes]
      exact .inl ⟨rfl, read target viewed⟩

theorem turns_writing {value : UInt8} (segments : t.sequence.segments = [.write [register, value]])
    (stored : ∀ target, before target → after ((target.select register).store value)) :
    Turns t before after := by
  intro target fault viewed
  rw [segments]
  obtain ⟨kind, rfl⟩ | passes := Target.strikes_or_passes fault
  · rw [Target.exchange_cons_strikes]
    exact .inr ⟨⟨kind, rfl⟩, viewed⟩
  · rw [Target.exchange_cons_passes target false passes]
    exact .inl ⟨rfl, stored target viewed⟩

end

end SensorBus.I2c
