import SensorBus.Proofs.Spi.Stepping

namespace SensorBus

theorem RegisterFile.slice_load (registers : RegisterFile 64) (i : Nat) (value : UInt8) :
    (registers.load i [value]).slice i 1 = [value] := by
  have lt : i % 64 < 64 := Nat.mod_lt i (by decide)
  change [(registers.setIfInBounds (i % 64) value).toArray.getD (i % 64) 0] = [value]
  rw [Array.getD_eq_getD_getElem?]
  simp [lt]

namespace Spi

namespace Bus

theorem call_command {bus after : Bus} {command : UInt8} {transfer : Transfer}
    (awaits : bus.awaitsCommand = true)
    (called : bus.call (.write [command]) = (.ok (), transfer, after)) :
    after.pointer = command &&& 0x3F ∧ after.awaitsCommand = false := by
  rcases popped : bus.popFault with ⟨_ | kind, rest⟩ <;>
    have same : rest.awaitsCommand = bus.awaitsCommand := congrArg (·.2.awaitsCommand) popped.symm
  · simp [call, popped, perform, take, takeWord, note, same, awaits] at called
    obtain ⟨-, rfl⟩ := called
    exact ⟨rfl, rfl⟩
  · simp [call, popped] at called

theorem call_value {bus after : Bus} {value : UInt8} {transfer : Transfer}
    (taken : bus.awaitsCommand = false)
    (called : bus.call (.write [value]) = (.ok (), transfer, after)) :
    after.registers = bus.registers.load (bus.pointer &&& 0x3F).toNat [value] := by
  rcases popped : bus.popFault with ⟨_ | kind, rest⟩ <;>
    have same : rest.awaitsCommand = bus.awaitsCommand := congrArg (·.2.awaitsCommand) popped.symm
  · have pointer : rest.pointer = bus.pointer := congrArg (·.2.pointer) popped.symm
    have registers : rest.registers = bus.registers := congrArg (·.2.registers) popped.symm
    simp [call, popped, perform, take, takeWord, note, same, taken, pointer, registers] at called
    obtain ⟨-, rfl⟩ := called
    rfl
  · simp [call, popped] at called

theorem close_registers (bus : Bus) (chip : UInt8) (transfers : List Transfer)
    (result : Except ErrorKind Unit) :
    (bus.close chip transfers result).2.registers = bus.registers := by
  rcases popped : bus.popFault with ⟨_ | kind, rest⟩ <;>
    have same : rest.registers = bus.registers := congrArg (·.2.registers) popped.symm
  · simp [close, flush, popped, deselect, popPinFault, note, same]
  · simp [close, flush, popped, deselect, popPinFault, note, same]

end Bus

def Stored (command value : UInt8) (bus : Bus) : Prop :=
  bus.peek (command &&& 0x3F).toNat 1 = [value]

inductive Storing (command value : UInt8) : Turn → SharedBus → Prop
  | waiting {device : Device} {shared : SharedBus} :
      Storing command value (.waiting device [.write [command], .write [value]]) shared
  | selected {chip : UInt8} {past : List Transfer} {left : Nat} {shared : SharedBus}
      (awaits : shared.bus.awaitsCommand = true) :
      Storing command value
        (.holding ⟨chip, .calling past (.write [command]) [.write [value]], left⟩) shared
  | commanded {chip : UInt8} {past : List Transfer} {left : Nat} {shared : SharedBus}
      (pointer : shared.bus.pointer = command &&& 0x3F)
      (taken : shared.bus.awaitsCommand = false) :
      Storing command value (.holding ⟨chip, .calling past (.write [value]) [], left⟩) shared
  -- A call that failed is behind it as well, so the value is stored only by a good result.
  | called {chip : UInt8} {past : List Transfer} {result : Except ErrorKind Unit} {left : Nat}
      {shared : SharedBus} (stored : result = .ok () → Stored command value shared.bus) :
      Storing command value (.holding ⟨chip, .flushing past result, left⟩) shared

inductive Stores (command value : UInt8) : Poll Turn Outcome × SharedBus → Prop
  | suspended {turn : Turn} {after : SharedBus} (storing : Storing command value turn after) :
      Stores command value (.pending turn, after)
  | ended {outcome : Outcome} {after : SharedBus}
      (stored : outcome.1 = .ok () → Stored command value after.bus) :
      Stores command value (.ready outcome, after)

section

variable {command value chip : UInt8} {past : List Transfer} {shared : SharedBus} {bus : Bus}

theorem close_stored {result : Except ErrorKind Unit}
    (stored : result = .ok () → Stored command value bus)
    (well : (bus.close chip past result).1.1 = .ok ()) :
    Stored command value (bus.close chip past result).2 := by
  cases result with
  | error kind => cases well
  | ok =>
    unfold Stored Bus.peek at *
    rw [bus.close_registers]
    exact stored rfl

theorem call_stored {after : Bus} {transfer : Transfer} (pointer : bus.pointer = command &&& 0x3F)
    (taken : bus.awaitsCommand = false)
    (called : bus.call (.write [value]) = (.ok (), transfer, after)) :
    Stored command value after := by
  have low : command &&& 0x3F &&& 0x3F = command &&& 0x3F := by rw [UInt8.and_assoc, UInt8.and_self]
  rw [Stored, Bus.peek, Bus.call_value taken called, pointer, low]
  exact RegisterFile.slice_load _ _ _

theorem approach_stores {stage : Stage}
    (storing : ∀ left locked,
      Storing command value (.holding ⟨chip, stage, left⟩) { shared with bus, locked })
    (resumed : Stores command value (Turn.ofPoll shared (bus.resume chip stage))) :
    Stores command value (Turn.ofPoll shared (bus.approach chip stage)) := by
  unfold Bus.approach
  cases bus.yields with
  | zero => exact resumed
  | succ left => exact .suspended (storing left true)

theorem flush_stores {result : Except ErrorKind Unit}
    (stored : result = .ok () → Stored command value bus) :
    Stores command value (Turn.ofPoll shared (bus.resume chip (.flushing past result))) :=
  .ended (close_stored stored)

theorem approachFlush_stores {result : Except ErrorKind Unit}
    (stored : result = .ok () → Stored command value bus) :
    Stores command value (Turn.ofPoll shared (bus.approachFlush chip past result)) := by
  rw [Bus.approachFlush_eq]
  exact approach_stores (fun _ _ => .called stored) (flush_stores stored)

theorem value_stores (pointer : bus.pointer = command &&& 0x3F)
    (taken : bus.awaitsCommand = false) :
    Stores command value
      (Turn.ofPoll shared (bus.resume chip (.calling past (.write [value]) []))) := by
  simp only [Bus.resume]
  rcases called : bus.call (.write [value]) with ⟨kind | ⟨⟩, transfer, after⟩ <;> dsimp only
  · exact approachFlush_stores fun well => by cases well
  · exact approachFlush_stores fun _ => call_stored pointer taken called

theorem command_stores (awaits : bus.awaitsCommand = true) :
    Stores command value (Turn.ofPoll shared
      (bus.resume chip (.calling past (.write [command]) [.write [value]]))) := by
  simp only [Bus.resume]
  rcases called : bus.call (.write [command]) with ⟨kind | ⟨⟩, transfer, after⟩ <;> dsimp only
  · exact approachFlush_stores fun well => by cases well
  · obtain ⟨pointer, taken⟩ := Bus.call_command awaits called
    rw [Bus.proceed_cons]
    exact approach_stores (fun _ _ => .commanded pointer taken) (value_stores pointer taken)

theorem poll_stores {turn : Turn} (storing : Storing command value turn shared) :
    Stores command value (turn.poll shared) := by
  cases storing with
  | @waiting device =>
    have plain : [Transfer.write [command], .write [value]].any Transfer.isDelay = false := rfl
    have awaits : (Turn.select device shared).2.bus.awaitsCommand = true := rfl
    simp only [Turn.poll, plain, Bool.false_eq_true, if_false]
    split
    · exact .suspended .waiting
    · rcases selected : Turn.select device shared with ⟨_ | _, shared'⟩ <;> rw [selected] at awaits
      · exact .ended fun well => by cases well
      · dsimp only
        rw [Bus.proceed_cons]
        exact approach_stores (fun _ _ => .selected awaits) (command_stores awaits)
  | @selected chip past left shared awaits =>
    cases left with
    | zero => exact command_stores awaits
    | succ left => exact .suspended (.selected awaits)
  | @commanded chip past left shared pointer taken =>
    cases left with
    | zero => exact value_stores pointer taken
    | succ left => exact .suspended (.commanded pointer taken)
  | @called chip past result left shared stored =>
    cases left with
    | zero => exact flush_stores stored
    | succ left => exact .suspended (.called stored)

theorem callAll_value (pointer : bus.pointer = command &&& 0x3F)
    (taken : bus.awaitsCommand = false) (well : (bus.callAll [.write [value]]).1 = .ok ()) :
    Stored command value (bus.callAll [.write [value]]).2.2 := by
  simp only [Bus.callAll] at well ⊢
  rcases called : bus.call (.write [value]) with ⟨kind | ⟨⟩, transfer, after⟩ <;>
    rw [called] at well
  · cases well
  · exact call_stored pointer taken called

theorem callAll_command (awaits : bus.awaitsCommand = true)
    (well : (bus.callAll [.write [command], .write [value]]).1 = .ok ()) :
    Stored command value (bus.callAll [.write [command], .write [value]]).2.2 := by
  rw [Bus.callAll] at well ⊢
  rcases called : bus.call (.write [command]) with ⟨kind | ⟨⟩, transfer, after⟩ <;>
    rw [called] at well
  · cases well
  · obtain ⟨pointer, taken⟩ := Bus.call_command awaits called
    exact callAll_value pointer taken well

theorem finish_stored {turn : Turn} (storing : Storing command value turn shared)
    (well : (turn.finish shared).1.1 = .ok ()) :
    Stored command value (turn.finish shared).2.bus := by
  cases storing with
  | @waiting device =>
    have plain : [Transfer.write [command], .write [value]].any Transfer.isDelay = false := rfl
    have awaits : (Turn.select device shared).2.bus.awaitsCommand = true := rfl
    simp only [Turn.finish, plain, Bool.false_eq_true, if_false] at well ⊢
    rcases selected : Turn.select device shared with ⟨_ | _, shared'⟩ <;>
      rw [selected] at awaits well
    · cases well
    · exact close_stored (callAll_command awaits) well
  | selected awaits => exact close_stored (callAll_command awaits) well
  | commanded pointer taken => exact close_stored (callAll_value pointer taken) well
  | called stored => exact close_stored stored well

end

end Spi

end SensorBus
