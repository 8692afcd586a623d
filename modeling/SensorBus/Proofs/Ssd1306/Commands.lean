import SensorBus.Proofs.I2c.Writes
import SensorBus.Ssd1306.Display

namespace SensorBus.Ssd1306

def encoded (bytes : List UInt8) : List UInt8 := bytes.flatMap fun byte => [controlCommand, byte]

def contents : List UInt8 → List UInt8
  | _ :: byte :: rest => byte :: contents rest
  | _ => []

@[simp] theorem encoded_cons (byte : UInt8) (rest : List UInt8) :
    encoded (byte :: rest) = controlCommand :: byte :: encoded rest := rfl

@[simp] theorem length_encoded (bytes : List UInt8) :
    (encoded bytes).length = 2 * bytes.length := by
  induction bytes with
  | nil => rfl
  | cons byte rest ih => simp [ih, Nat.mul_succ]

theorem contents_encoded (bytes : List UInt8) : contents (encoded bytes) = bytes := by
  induction bytes with
  | nil => rfl
  | cons byte rest ih => rw [encoded_cons, contents, ih]

theorem getElem?_encoded_even {bytes : List UInt8} {i : Nat} (lt : i < bytes.length) :
    (encoded bytes)[2 * i]? = some controlCommand := by
  induction bytes generalizing i with
  | nil => cases lt
  | cons byte rest ih =>
    cases i with
    | zero => rfl
    | succ i => exact ih (Nat.lt_of_succ_lt_succ lt)

theorem getElem?_encoded_odd (bytes : List UInt8) (i : Nat) :
    (encoded bytes)[2 * i + 1]? = bytes[i]? := by
  induction bytes generalizing i with
  | nil => rfl
  | cons byte rest ih =>
    cases i with
    | zero => rfl
    | succ i => exact ih i

theorem Buffer.addCommand?_bytes {capacity : Nat} (buffer : Buffer capacity)
    (bytes : List UInt8) : (buffer.addCommand? bytes).map Buffer.bytes =
      if buffer.bytes.length + 2 * bytes.length ≤ capacity then
        some (buffer.bytes ++ encoded bytes)
      else none := by
  induction bytes generalizing buffer with
  | nil =>
    have fits : buffer.bytes.length + 2 * 0 ≤ capacity := buffer.length_le
    rw [List.length_nil, if_pos fits, encoded, List.flatMap_nil, List.append_nil]
    rfl
  | cons byte rest ih =>
    by_cases room : (buffer.bytes ++ [controlCommand, byte]).length ≤ capacity
    · have added := ih ⟨buffer.bytes ++ [controlCommand, byte], room⟩
      have length : (buffer.bytes ++ [controlCommand, byte]).length + 2 * rest.length =
          buffer.bytes.length + 2 * (byte :: rest).length := by
        simp only [List.length_append, List.length_cons, List.length_nil]
        omega
      rw [addCommand?, append?, dif_pos room, Option.bind_eq_bind, Option.bind_some, added, length,
        encoded_cons, List.append_assoc]
      rfl
    · have full : ¬ buffer.bytes.length + 2 * (byte :: rest).length ≤ capacity := by
        simp only [List.length_append, List.length_cons, List.length_nil] at room ⊢
        omega
      rw [addCommand?, append?, dif_neg room, if_neg full]
      rfl

section

variable (device : I2c.Device) {opcode : UInt8} {arguments : List UInt8}

theorem writeRawCommand_of_fits (fits : arguments.length ≤ maxArguments) :
    writeRawCommand device opcode arguments = device.write (encoded (opcode :: arguments)) := by
  have room : 2 * (opcode :: arguments).length ≤ commandCapacity := by
    rw [List.length_cons, commandCapacity]
    omega
  have added := Buffer.addCommand?_bytes ({} : Buffer commandCapacity) (opcode :: arguments)
  rw [List.length_nil, Nat.zero_add, if_pos room] at added
  obtain ⟨buffer, filled, bytes⟩ := Option.map_eq_some_iff.1 added
  rw [writeRawCommand, filled]
  exact congrArg device.write bytes

theorem writeRawCommand_of_many (many : maxArguments < arguments.length) :
    writeRawCommand device opcode arguments =
      throw (.bufferTooSmall (2 * (1 + arguments.length)) commandCapacity) := by
  have full : ¬ 2 * (opcode :: arguments).length ≤ commandCapacity := by
    rw [List.length_cons, commandCapacity]
    omega
  have added := Buffer.addCommand?_bytes ({} : Buffer commandCapacity) (opcode :: arguments)
  rw [List.length_nil, Nat.zero_add, if_neg full] at added
  rw [writeRawCommand, Option.map_eq_none_iff.1 added]

end

namespace Instruction

def Fits (instruction : Instruction) : Prop := instruction.arguments.length ≤ maxArguments

instance (instruction : Instruction) : Decidable instruction.Fits :=
  inferInstanceAs (Decidable (_ ≤ _))

def bytes (instruction : Instruction) : List UInt8 :=
  encoded (instruction.command.opcode :: instruction.arguments)

theorem fits_of_mem_rotate {rotation : Rotation} :
    ∀ instruction ∈ rotate rotation, instruction.Fits := by
  cases rotation <;> decide

theorem fits_of_mem_scroll {direction : ScrollDirection} {first last : UInt8}
    {interval : ScrollInterval} :
    ∀ instruction ∈ scroll direction first last interval, instruction.Fits := by
  simp [scroll, Fits, maxArguments]

end Instruction

theorem send_eq_writeAll (device : I2c.Device) {instructions : List Instruction}
    (fit : ∀ instruction ∈ instructions, instruction.Fits) :
    send device instructions = device.writeAll (instructions.map Instruction.bytes) := by
  induction instructions with
  | nil => rfl
  | cons instruction rest ih =>
    obtain ⟨first, others⟩ := List.forall_mem_cons.1 fit
    rw [send, List.map_cons, I2c.Device.writeAll, writeCommand,
      writeRawCommand_of_fits device first, ih others]
    rfl

end SensorBus.Ssd1306
