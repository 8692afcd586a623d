import SensorBus.I2c.Device
import SensorBus.Proofs.I2c.Meeting
import SensorBus.Proofs.RegisterFile

namespace SensorBus.I2c

namespace Target

def Unscripted (target : Target) : Prop := ∀ (i : Nat) (lt : i < 256), target.scripts[i] = []

theorem next_pointer (pointer : UInt8) : (pointer + 1).toNat % 256 = (pointer.toNat + 1) % 256 := by
  rw [UInt8.toNat_add]
  exact Nat.mod_mod _ _

theorem readByte_unscripted {target : Target} (unscripted : target.Unscripted) :
    target.readByte = (target.registers.getD (target.pointer.toNat % 256) 0,
      { target with pointer := target.pointer + 1 }) := by
  have lt := target.pointer.toNat_lt
  have empty := unscripted target.pointer.toNat lt
  rw [Nat.mod_eq_of_lt lt, target.registers.getD_of_lt lt, readByte]
  split
  · rfl
  · next found =>
    rw [empty] at found
    cases found

theorem read_unscripted {target : Target} (unscripted : target.Unscripted) (length : Nat) :
    ∃ pointer, target.read length =
      (target.registers.slice target.pointer.toNat length, { target with pointer }) := by
  induction length generalizing target with
  | zero => exact ⟨target.pointer, rfl⟩
  | succ length ih =>
    have byte := readByte_unscripted unscripted
    have kept : { target with pointer := target.pointer + 1 }.Unscripted := unscripted
    obtain ⟨pointer, rest⟩ := ih kept
    have next := target.registers.slice_congr (next_pointer target.pointer) length
    exact ⟨pointer, by simp only [read, byte, rest, next, RegisterFile.slice]⟩

theorem write_selected (target : Target) (bytes : List UInt8) :
    ∃ pointer, target.write true bytes =
      ({ target with registers := target.registers.load target.pointer.toNat bytes, pointer },
        true) := by
  induction bytes generalizing target with
  | nil => exact ⟨target.pointer, rfl⟩
  | cons byte rest ih =>
    have lt := target.pointer.toNat_lt
    obtain ⟨pointer, stored⟩ := ih (target.store byte)
    have next := (target.store byte).registers.load_congr (next_pointer target.pointer) rest
    refine ⟨pointer, stored.trans ?_⟩
    rw [RegisterFile.load, Nat.mod_eq_of_lt lt, RegisterFile.setIfInBounds_of_lt _ lt]
    exact congrArg (fun registers => ({ target with registers, pointer }, true)) next

theorem exchange_read (target : Target) (register : UInt8) (length : Nat) :
    (target.exchange false none [.write [register], .read length]).target =
        ((target.select register).read length).2 ∧
      (target.exchange false none [.write [register], .read length]).received =
        ((target.select register).read length).1 :=
  ⟨rfl, List.append_nil _⟩

theorem exchange_write (target : Target) (register : UInt8) (values : List UInt8) :
    (target.exchange false none [.write [register], .write values]).target =
      ((target.select register).write true values).1 := rfl

/-- No register takes its values from a script, and the pointer is masked like this. -/
structure Plain (mask : UInt8) (target : Target) : Prop where
  mask : target.mask = mask
  unscripted : target.Unscripted

namespace Plain

variable {mask : UInt8} {target : Target}

theorem write (plain : target.Plain mask) (selected : Bool) (bytes : List UInt8) :
    (target.write selected bytes).1.Plain mask := by
  induction bytes generalizing target selected with
  | nil => exact plain
  | cons byte rest ih =>
    have stored : (target.store byte).Plain mask := ⟨plain.mask, plain.unscripted⟩
    have moved : (target.select byte).Plain mask := ⟨plain.mask, plain.unscripted⟩
    cases selected with
    | true => exact ih stored true
    | false => exact ih moved true

theorem read (plain : target.Plain mask) (length : Nat) :
    (target.read length).2.Plain mask := by
  obtain ⟨pointer, read⟩ := target.read_unscripted plain.unscripted length
  rw [read]
  exact ⟨plain.mask, plain.unscripted⟩

theorem exchange (plain : target.Plain mask) (selected : Bool) (fault : Option Fault)
    (segments : List Segment) : (target.exchange selected fault segments).target.Plain mask := by
  induction segments generalizing target selected fault with
  | nil => exact plain
  | cons segment rest ih =>
    obtain ⟨kind, rfl⟩ | passes := strikes_or_passes fault
    · rw [exchange_cons_strikes]
      exact plain
    · rw [exchange_cons_passes target selected passes]
      cases segment with
      | write bytes => exact ih (plain.write selected bytes) _ _
      | read length => exact ih (plain.read length) _ _

end Plain

end Target

/-- Nobody holds the bus, no faults are to come, and this is the target at the device's address. -/
structure Device.Finds (device : Device) (shared : SharedBus) (target : Target) : Prop where
  free : shared.locked = false
  faultless : shared.master.bus.Faultless
  present : shared.master.bus.target? device.address.raw = some target

namespace Device.Finds

variable {device : Device} {shared : SharedBus} {target : Target}

theorem transact (finds : device.Finds shared target) (timing : Option Timing) {t : Transaction}
    (address : t.address = device.address) (accepted : t.attach.1 = true) {segments : List Segment}
    (carries : t.sequence.segments = segments) :
    ∃ after, SharedBus.medium.perform (.transact timing t) shared =
        ((.ok (), (t.attached.receive (target.exchange false none segments).received).detach
          .normalStop), after) ∧
      device.Finds after (target.exchange false none segments).target := by
  subst carries
  have present := finds.present
  rw [← address] at present
  have performed : SharedBus.medium.perform (.transact timing t) shared =
    ((shared.master.run timing t).1, ⟨(shared.master.run timing t).2, false⟩) := rfl
  obtain ⟨outcome, met⟩ := shared.master.run_meets finds.faultless timing t
  have meets : t.meet (some target) =
      ((.ok (), (t.attached.receive
        (target.exchange false none t.sequence.segments).received).detach .normalStop),
      some (target.exchange false none t.sequence.segments).target) := by
    simp [Transaction.meet, accepted]
  have left := met.target?_self
  rw [present, meets] at outcome left
  rw [address] at left
  exact ⟨_, performed.trans (congrArg (·, _) outcome), rfl, met.faultless, left⟩

end Device.Finds

section

variable {σ : Type} (device : Device) (register : UInt8) (state : σ) (shared : SharedBus)

theorem Device.run_readRegisters (buffer : List UInt8) :
    (device.readRegisters register buffer state).run SharedBus.medium shared =
      let performed := SharedBus.medium.perform (.transact device.timing
        { address := device.address, body := .writeRead [register] buffer }) shared
      ((performed.1.1, performed.1.2.body.buffer?.getD []), state, performed.2) := rfl

theorem Device.run_writeRegisters (values : List UInt8) :
    ((device.writeRegisters register values).run state).run SharedBus.medium shared =
      let performed := SharedBus.medium.perform (.transact device.timing
        { address := device.address, body := .write [register] values }) shared
      (performed.1.1, state, performed.2) := rfl

end

namespace Device.Finds

variable {device : Device} {shared : SharedBus} {target : Target} {σ : Type} (state : σ)

theorem readRegisters (finds : device.Finds shared target) (unscripted : target.Unscripted)
    (register : UInt8) (buffer : List UInt8) :
    ∃ pointer after, (device.readRegisters register buffer state).run SharedBus.medium shared =
        ((.ok (), target.registers.slice (register &&& target.mask).toNat buffer.length), state,
          after) ∧
      device.Finds after { target with pointer } := by
  rw [run_readRegisters]
  -- Without a buffer the transaction is a plain write of the register byte.
  cases buffer with
  | nil =>
    obtain ⟨after, performed, left⟩ := finds.transact device.timing
      (t := { address := device.address, body := .writeRead [register] [] }) rfl rfl rfl
    rw [performed]
    exact ⟨_, after, rfl, left⟩
  | cons byte rest =>
    have carries : (Body.writeRead [register] (byte :: rest)).sequence.segments =
      [.write [register], .read (byte :: rest).length] := rfl
    obtain ⟨after, performed, left⟩ := finds.transact device.timing
      (t := { address := device.address, body := .writeRead [register] (byte :: rest) }) rfl rfl
      carries
    obtain ⟨pointer, read⟩ :=
      (target.select register).read_unscripted unscripted (byte :: rest).length
    obtain ⟨whole, received⟩ := target.exchange_read register (byte :: rest).length
    rw [whole, read] at left
    rw [received, read] at performed
    rw [performed]
    refine ⟨pointer, after, ?_, left⟩
    simp [Transaction.detach, Transaction.receive, Transaction.attached, Body.receive, Body.buffer?,
      Target.select]

theorem writeRegisters (finds : device.Finds shared target) (register : UInt8)
    (values : List UInt8) :
    ∃ pointer after,
      ((device.writeRegisters register values).run state).run SharedBus.medium shared =
        (.ok (), state, after) ∧
      device.Finds after { target with
        registers := target.registers.load (register &&& target.mask).toNat values
        pointer } := by
  rw [run_writeRegisters]
  cases values with
  | nil =>
    obtain ⟨after, performed, left⟩ := finds.transact device.timing
      (t := { address := device.address, body := .write [register] [] }) rfl rfl rfl
    rw [performed]
    exact ⟨_, after, rfl, left⟩
  | cons value rest =>
    have carries : (Body.write [register] (value :: rest)).sequence.segments =
      [.write [register], .write (value :: rest)] := rfl
    obtain ⟨after, performed, left⟩ := finds.transact device.timing
      (t := { address := device.address, body := .write [register] (value :: rest) }) rfl rfl
      carries
    obtain ⟨pointer, written⟩ := (target.select register).write_selected (value :: rest)
    rw [target.exchange_write, written] at left
    rw [performed]
    exact ⟨pointer, after, rfl, left⟩

end Device.Finds

end SensorBus.I2c
