import SensorBus.Proofs.Ssd1306.Calls

namespace SensorBus.Ssd1306

open I2c

inductive Routine
  | powerUp
  | rotate (rotation : Rotation)
  | scroll (direction : ScrollDirection) (first last : UInt8) (interval : ScrollInterval)

namespace Routine

def attempt (device : Device) : Routine → Attempt Unit
  | .powerUp => Ssd1306.powerUp device
  | .rotate rotation => setRotation device rotation
  | .scroll direction first last interval => startScroll device direction first last interval

def instructions : Routine → List Instruction
  | .powerUp => Instruction.setUp ++ (Instruction.rotate .normal ++ Instruction.switchOn)
  | .rotate rotation => Instruction.rotate rotation
  | .scroll direction first last interval => Instruction.scroll direction first last interval

def commands (routine : Routine) : List (List UInt8) := routine.instructions.map Instruction.bytes

def count : Routine → Nat
  | .powerUp => 18
  | .rotate _ => 2
  | .scroll .. => 3

/-- The command that puts what was set up before it into effect. -/
def switch? : Routine → Option Instruction
  | .powerUp => some ⟨.setDisplayOn, []⟩
  | .rotate _ => none
  | .scroll .. => some ⟨.activateScroll, []⟩

theorem length_commands (routine : Routine) : routine.commands.length = routine.count := by
  rcases routine with _ | (_ | _) | _ <;> rfl

theorem attempt_eq_writeAll (device : Device) (routine : Routine) :
    routine.attempt device = device.writeAll routine.commands := by
  cases routine with
  | powerUp =>
    rw [commands, instructions, List.map_append, List.map_append, Device.writeAll_append,
      Device.writeAll_append, attempt, Ssd1306.powerUp, setRotation,
      send_eq_writeAll device (by decide), send_eq_writeAll device (by decide),
      send_eq_writeAll device (by decide)]
  | rotate => exact send_eq_writeAll device Instruction.fits_of_mem_rotate
  | scroll => exact send_eq_writeAll device Instruction.fits_of_mem_scroll

theorem switch_last {routine : Routine} {instruction : Instruction}
    (switch : routine.switch? = some instruction) {k : Nat}
    (here : routine.commands[k]? = some instruction.bytes) : k + 1 = routine.count := by
  cases routine with
  | powerUp =>
    cases switch
    have each : ∀ k : Fin 18, (Routine.powerUp.commands)[k.val]? =
        some (Instruction.bytes ⟨.setDisplayOn, []⟩) → k.val + 1 = 18 := by decide
    have lt := (List.getElem?_eq_some_iff.1 here).1
    rw [length_commands] at lt
    exact each ⟨k, lt⟩ here
  | rotate => cases switch
  | scroll =>
    cases switch
    rcases k with _ | _ | _ | k
    · cases here
    · have same := congrArg List.length (Option.some.inj here)
      simp [Instruction.bytes] at same
    · rfl
    · cases here

theorem pages_le (direction : ScrollDirection) (first last : UInt8) (interval : ScrollInterval) :
    ∃ p ≤ (7 : UInt8), ∃ q ≤ (7 : UInt8), (scroll direction first last interval).instructions[1]? =
      some ⟨direction.command, [0x00, p, interval.code, q, 0x00, 0xFF]⟩ := by
  have le (page : UInt8) : min page 7 ≤ 7 := by
    change (if page ≤ 7 then page else 7) ≤ 7
    split
    · assumption
    · exact UInt8.le_refl 7
  exact ⟨_, le first, _, le last, rfl⟩

end Routine

/-- Run on a bus with any faults to come and with or without a target, a routine begins its commands
in order up to the first that fails, and comes to what that one comes to; without failures it
begins them all. So what switches the panel on is sent only after all the other commands were
accepted. -/
theorem routines_fail_fast (device : Device) (routine : Routine) (frame : Frame)
    (shared : SharedBus) :
    let commands := routine.commands
    let failure? := shared.master.bus.failure? device.address.raw
    let came := (routine.attempt device).run.run SharedBus.medium frame shared
    let begun := (exchanges ((routine.attempt device).run frame) shared).map Begun.transaction
    commands.length = routine.count ∧
    (∀ direction first last interval, routine = .scroll direction first last interval →
      ∃ p ≤ (7 : UInt8), ∃ q ≤ (7 : UInt8), routine.instructions[1]? =
        some ⟨direction.command, [0x00, p, interval.code, q, 0x00, 0xFF]⟩) ∧
    ((∀ i < commands.length, failure? i = none) →
      came.1 = .ok () ∧ begun = commands.map device.sends ∧
      came.2.2.master.bus.log = device.ahead shared ++ device.wrote commands) ∧
    (∀ j kind, j < commands.length → (∀ i < j, failure? i = none) → failure? j = some kind →
      came.1 = .error (.i2c kind) ∧ begun = (commands.take (j + 1)).map device.sends ∧
      came.2.2.master.bus.log = device.ahead shared ++
        (device.wrote (commands.take j) ++ device.exchanged [])) ∧
    (∀ k t, begun[k]? = some t → ∀ i < k, failure? i = none) ∧
    (∀ instruction, routine.switch? = some instruction →
      device.sends instruction.bytes ∈ begun → ∀ i, i + 1 < routine.count → failure? i = none) ∧
    came.2.1 = frame := by
  intro commands failure? came begun
  have length : commands.length = routine.count := routine.length_commands
  have whole : routine.attempt device = device.writeAll commands :=
    routine.attempt_eq_writeAll device
  refine ⟨length, ?_, fun fine => ?_, fun j kind lt fine fails => ?_, fun k t here => ?_,
    fun instruction switch mem i lt => ?_, ?_⟩
  · rintro direction first last interval rfl
    exact Routine.pages_le direction first last interval
  · obtain ⟨after, ran, passed, same⟩ := device.writeAll_passes frame commands fine
    rw [← whole] at ran same
    have came_eq : came = (.ok (), frame, after) := ran
    have pos : 0 < commands.length := by
      rw [length]
      cases routine <;> exact Nat.succ_pos _
    rw [came_eq]
    exact ⟨rfl, same, passed.log pos⟩
  · obtain ⟨after, ran, passed, same⟩ := device.writeAll_fails frame commands lt fine fails
    rw [← whole] at ran same
    have came_eq : came = (.error (.i2c kind), frame, after) := ran
    rw [came_eq]
    exact ⟨rfl, same, passed.log (Nat.succ_pos j)⟩
  · simp only [begun, whole] at here
    exact (device.writeAll_begun frame commands here).2
  · obtain ⟨k, here⟩ := List.getElem?_of_mem mem
    simp only [begun, whole] at here
    obtain ⟨⟨bytes, at_k, same⟩, fine⟩ := device.writeAll_begun frame commands here
    have bytes_eq : instruction.bytes = bytes := device.sends_injective same
    rw [← bytes_eq] at at_k
    have last : k + 1 = routine.count := Routine.switch_last switch at_k
    exact fine i (by omega)
  · simp only [came, whole]
    exact device.writeAll_state frame commands

end SensorBus.Ssd1306
