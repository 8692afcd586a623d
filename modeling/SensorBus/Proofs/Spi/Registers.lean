import SensorBus.Proofs.RegisterFile
import SensorBus.Spi.SharedBus

namespace SensorBus.Spi

namespace Bus

theorem and_mask_mod (pointer : UInt8) : (pointer &&& 0x3F).toNat % 64 = pointer.toNat % 64 := by
  have low : pointer.toNat &&& 63 = pointer.toNat % 64 := Nat.and_two_pow_sub_one_eq_mod _ 6
  rw [UInt8.toNat_and]
  change (pointer.toNat &&& 63) % 64 = _
  rw [low, Nat.mod_mod]

theorem next_mod (pointer : UInt8) : (pointer + 1).toNat % 64 = (pointer.toNat + 1) % 64 := by
  rw [UInt8.toNat_add]
  exact Nat.mod_mod_of_dvd _ (by decide)

theorem give_eq (bus : Bus) (length : Nat) :
    ∃ pointer, bus.give length =
      (bus.registers.slice bus.pointer.toNat length, { bus with pointer }) := by
  induction length generalizing bus with
  | zero => exact ⟨bus.pointer, rfl⟩
  | succ length ih =>
    obtain ⟨pointer, rest⟩ := ih { bus with pointer := bus.pointer + 1 }
    have here := bus.registers.slice_congr (and_mask_mod bus.pointer) 1
    have next := bus.registers.slice_congr (next_mod bus.pointer) length
    refine ⟨pointer, ?_⟩
    simp only [give, rest, here, next]
    rfl

theorem take_values (bus : Bus) (words : List UInt8) (taken : bus.awaitsCommand = false) :
    ∃ pointer, bus.take words =
      { bus with registers := bus.registers.load bus.pointer.toNat words, pointer } := by
  induction words generalizing bus with
  | nil => exact ⟨bus.pointer, rfl⟩
  | cons word rest ih =>
    obtain ⟨pointer, stored⟩ := ih (bus.takeWord word) (by simp [takeWord, taken])
    have here := bus.registers.load_congr (and_mask_mod bus.pointer) [word]
    refine ⟨pointer, stored.trans ?_⟩
    simp only [takeWord, taken, Bool.false_eq_true, if_false, here]
    rw [RegisterFile.load_congr _ (next_mod bus.pointer)]
    rfl

structure Faultless (bus : Bus) : Prop where
  calls : ∀ fault ∈ bus.faults, fault = none
  edges : ∀ failed ∈ bus.pinFaults, failed = false

theorem Faultless.mono {bus after : Bus} (faultless : bus.Faultless)
    (calls : after.faults ⊆ bus.faults) (edges : after.pinFaults ⊆ bus.pinFaults) :
    after.Faultless where
  calls fault mem := faultless.calls fault (calls mem)
  edges failed mem := faultless.edges failed (edges mem)

theorem Faultless.popFault {bus : Bus} (faultless : bus.Faultless) :
    bus.popFault = (none, { bus with faults := bus.faults.tail }) := by
  cases faults : bus.faults with
  | nil => simp [Bus.popFault, faults]
  | cons fault rest =>
    have passes := faultless.calls fault (by simp [faults])
    simp [Bus.popFault, faults, passes]

theorem Faultless.popPinFault {bus : Bus} (faultless : bus.Faultless) :
    bus.popPinFault = (false, { bus with pinFaults := bus.pinFaults.tail }) := by
  cases faults : bus.pinFaults with
  | nil => simp [Bus.popPinFault, faults]
  | cons failed rest =>
    have passes := faultless.edges failed (by simp [faults])
    simp [Bus.popPinFault, faults, passes]

def Passes (registers : RegisterFile 64) (transfer : Transfer)
    (came : Except ErrorKind Unit × Transfer × Bus) : Prop :=
  ∃ after : Bus, came = (.ok (), transfer, after) ∧ after.registers = registers ∧ after.Faultless

theorem Faultless.call {bus : Bus} (faultless : bus.Faultless) (transfer : Transfer) :
    bus.call transfer = (.ok (), { bus with faults := bus.faults.tail }.perform transfer) := by
  rw [Bus.call, faultless.popFault]

theorem Faultless.command {bus : Bus} (faultless : bus.Faultless) (command : UInt8)
    (awaits : bus.awaitsCommand = true) :
    ∃ after : Bus, bus.call (.write [command]) = (.ok (), .write [command], after) ∧
      after.registers = bus.registers ∧ after.pointer = command &&& 0x3F ∧
      after.awaitsCommand = false ∧ after.Faultless := by
  have called := faultless.call (.write [command])
  simp only [perform, note, take, List.foldl, takeWord, awaits, if_true] at called
  exact ⟨_, called, rfl, rfl, rfl, faultless.mono (List.tail_sublist _).subset (List.Subset.refl _)⟩

theorem Faultless.read {bus : Bus} (faultless : bus.Faultless) (buffer : List UInt8) :
    Passes bus.registers (.read (bus.registers.slice bus.pointer.toNat buffer.length))
      (bus.call (.read buffer)) := by
  obtain ⟨pointer, given⟩ :=
    ({ bus with faults := bus.faults.tail }.note (.read buffer.length)).give_eq buffer.length
  have called := faultless.call (.read buffer)
  simp only [perform, given] at called
  exact ⟨_, called, rfl, faultless.mono (List.tail_sublist _).subset (List.Subset.refl _)⟩

theorem Faultless.values {bus : Bus} (faultless : bus.Faultless) (values : List UInt8)
    (taken : bus.awaitsCommand = false) :
    Passes (bus.registers.load bus.pointer.toNat values) (.write values)
      (bus.call (.write values)) := by
  obtain ⟨pointer, stored⟩ :=
    ({ bus with faults := bus.faults.tail }.note (.write values)).take_values values taken
  have called := faultless.call (.write values)
  simp only [perform, stored] at called
  exact ⟨_, called, rfl, faultless.mono (List.tail_sublist _).subset (List.Subset.refl _)⟩

theorem Faultless.flush {bus : Bus} (faultless : bus.Faultless) :
    ∃ after : Bus, bus.flush = (.ok (), after) ∧ after.registers = bus.registers ∧
      after.Faultless := by
  have flushed : bus.flush = (.ok (), { bus with faults := bus.faults.tail }.note .flushed) := by
    rw [Bus.flush, faultless.popFault]
  exact ⟨_, flushed, rfl, faultless.mono (List.tail_sublist _).subset (List.Subset.refl _)⟩

theorem Faultless.deselect {bus : Bus} (faultless : bus.Faultless) (chip : UInt8) :
    ∃ after : Bus, bus.deselect chip = (true, after) ∧ after.registers = bus.registers ∧
      after.Faultless := by
  have deselected : bus.deselect chip =
      (true, { bus with pinFaults := bus.pinFaults.tail }.note (.deselected chip true)) := by
    rw [Bus.deselect, faultless.popPinFault]
    rfl
  exact ⟨_, deselected, rfl, faultless.mono (List.Subset.refl _) (List.tail_sublist _).subset⟩

theorem Faultless.select {bus : Bus} (faultless : bus.Faultless) (chip : UInt8) :
    ∃ after : Bus, bus.select chip = (true, after) ∧ after.registers = bus.registers ∧
      after.awaitsCommand = true ∧ after.Faultless := by
  have ready : { bus with awaitsCommand := true }.Faultless := ⟨faultless.calls, faultless.edges⟩
  have selected : bus.select chip =
      (true, { bus with awaitsCommand := true, pinFaults := bus.pinFaults.tail }.note
        (.selected chip true)) := by
    rw [Bus.select, ready.popPinFault]
    rfl
  exact ⟨_, selected, rfl, rfl, faultless.mono (List.Subset.refl _) (List.tail_sublist _).subset⟩

theorem Faultless.close {bus : Bus} (faultless : bus.Faultless) (chip : UInt8)
    (transfers : List Transfer) :
    ∃ after : Bus, bus.close chip transfers (.ok ()) = ((.ok (), transfers), after) ∧
      after.registers = bus.registers ∧ after.Faultless := by
  obtain ⟨between, flushed, same, faultless⟩ := faultless.flush
  obtain ⟨after, deselected, same', faultless⟩ := faultless.deselect chip
  refine ⟨after, ?_, same'.trans same, faultless⟩
  simp only [Bus.close, flushed, deselected, outcome]

end Bus

/-- Nobody holds the bus, no faults are to come, and these are its registers. -/
structure SharedBus.Offers (shared : SharedBus) (registers : RegisterFile 64) : Prop where
  free : shared.locked = false
  faultless : shared.bus.Faultless
  registers : shared.bus.registers = registers

namespace SharedBus.Offers

variable {shared : SharedBus} {registers : RegisterFile 64}

theorem select (offers : shared.Offers registers) (device : Device) :
    ∃ chosen : SharedBus, Turn.select device shared = (true, chosen) ∧
      chosen.bus.awaitsCommand = true ∧ chosen.Offers registers := by
  have configured : (shared.configure device.mode).Offers registers := by
    unfold configure
    split
    · exact offers
    · split
      · exact offers
      · exact ⟨offers.free, ⟨offers.faultless.calls, offers.faultless.edges⟩, offers.registers⟩
  obtain ⟨bus, selected, same, awaits, faultless⟩ := configured.faultless.select device.chip
  refine ⟨{ shared.configure device.mode with bus }, ?_, awaits, configured.free, faultless,
    same.trans configured.registers⟩
  simp only [Turn.select, selected]

theorem transact (offers : shared.Offers registers) (device : Device) (command : UInt8)
    {transfer filled : Transfer} {stored : RegisterFile 64} (plain : transfer.isDelay = false)
    (passes : ∀ bus : Bus, bus.Faultless → bus.registers = registers →
      bus.pointer = command &&& 0x3F → bus.awaitsCommand = false →
      Bus.Passes stored filled (bus.call transfer)) :
    ∃ after, medium.perform (.transact device [.write [command], transfer]) shared =
        ((.ok (), [.write [command], filled]), after) ∧ after.Offers stored := by
  obtain ⟨chosen, selected, awaits, offers⟩ := offers.select device
  obtain ⟨ordered, commanded, same, pointer, taken, faultless⟩ :=
    offers.faultless.command command awaits
  obtain ⟨called, passed, left, faultless⟩ :=
    passes ordered faultless (same.trans offers.registers) pointer taken
  obtain ⟨closed, done, kept, faultless⟩ :=
    faultless.close device.chip [.write [command], filled]
  have undelayed : [Transfer.write [command], transfer].any Transfer.isDelay = false := by
    change (false || (transfer.isDelay || false)) = false
    rw [plain]
    rfl
  have performed : medium.perform (.transact device [.write [command], transfer]) shared =
      ((.ok (), [.write [command], filled]), { chosen with bus := closed, locked := false }) := by
    change Turn.finish (.waiting device _) shared = _
    simp only [Turn.finish, undelayed, Bool.false_eq_true, if_false, selected, Bus.callAll,
      commanded, passed, done]
  exact ⟨_, performed, rfl, faultless, kept.trans left⟩

theorem read (offers : shared.Offers registers) (device : Device) (command : UInt8)
    (buffer : List UInt8) :
    ∃ after, medium.perform (.transact device [.write [command], .read buffer]) shared =
        ((.ok (), [.write [command],
          .read (registers.slice (command &&& 0x3F).toNat buffer.length)]), after) ∧
      after.Offers registers := by
  refine offers.transact device command rfl fun bus faultless same pointer taken => ?_
  rw [← same, ← pointer]
  exact faultless.read buffer

theorem write (offers : shared.Offers registers) (device : Device) (command : UInt8)
    (values : List UInt8) :
    ∃ after, medium.perform (.transact device [.write [command], .write values]) shared =
        ((.ok (), [.write [command], .write values]), after) ∧
      after.Offers (registers.load (command &&& 0x3F).toNat values) := by
  refine offers.transact device command rfl fun bus faultless same pointer taken => ?_
  rw [← same, ← pointer]
  exact faultless.values values taken

end SharedBus.Offers

end SensorBus.Spi
