import SensorBus.Lis3.Registers
import SensorBus.Proofs.Job.Simulation
import SensorBus.Proofs.RegisterFile

namespace SensorBus.Lis3

variable {n : Nat} {σ : Type}

def answer (file : RegisterFile n) : (r : Request) → interface.Reply r × RegisterFile n
  | .probe => (.ok true, file)
  | .read register buffer => ((.ok (), file.slice register.toNat buffer.length), file)
  | .write register values => (.ok (), file.load register.toNat values)

def plain (n : Nat) : Medium interface (RegisterFile n) where
  Flight _ := Unit
  launch _ := ()
  poll r _ file := (.ready (answer file r).1, (answer file r).2)
  finish r _ file := answer file r
  drop _ _ file := file

def Within (size : Nat) : Request → Prop
  | .probe => False
  | .read register buffer => register.toNat + buffer.length ≤ size
  | .write register values => register.toNat + values.length ≤ size

variable {size : Nat} {register : UInt8}

theorem readRegisters_within {buffer : List UInt8}
    (inside : register.toNat + buffer.length ≤ size) :
    (readRegisters register buffer : Operation interface σ _).Asks (Within size) :=
  .request inside

theorem writeRegisters_within {values : List UInt8}
    (inside : register.toNat + values.length ≤ size) :
    (writeRegisters register values : Attempt σ Unit).run.Asks (Within size) :=
  .request inside

theorem registers_within {count : Nat} (inside : register.toNat + count ≤ size) :
    (registers register count : Attempt σ (List UInt8)).run.Asks (Within size) := by
  refine .bind (.request ?_) fun _ => .pure _
  simpa [Within] using inside

theorem readRegister_within (inside : register.toNat < size) :
    (readRegister register : Attempt σ UInt8).run.Asks (Within size) :=
  .attempt (registers_within inside) fun _ => .pure _

theorem write_within (inside : register.toNat < size) (value : UInt8) :
    Within size (.write register [value]) := inside

theorem writeRegister_within (inside : register.toNat < size) (value : UInt8) :
    (writeRegister register value : Attempt σ Unit).run.Asks (Within size) :=
  .request (write_within inside value)

theorem updateRegister_within (inside : register.toNat < size) (set clear : UInt8) :
    (updateRegister register set clear : Attempt σ UInt8).run.Asks (Within size) := by
  have written (old : UInt8) : (do
      writeRegister register ((old &&& ~~~clear) ||| set)
      return (old &&& ~~~clear) ||| set : Attempt σ UInt8).run.Asks (Within size) :=
    .attempt (writeRegister_within inside _) fun _ => .pure _
  unfold updateRegister
  split
  · exact .attempt (.pure _) written
  · exact .attempt (readRegister_within inside) written

end SensorBus.Lis3
