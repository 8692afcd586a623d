namespace SensorBus

structure Lendable (α : Type) where
  value : α
  lent : Bool := false

namespace Lendable

variable {α : Type}

def free? (objects : List (Lendable α)) (i : Nat) : Option α :=
  objects[i]?.bind fun object => if object.lent then none else some object.value

def mark (objects : List (Lendable α)) (i : Nat) (lent : Bool) : List (Lendable α) :=
  objects.modify i fun object => { object with lent }

def put (objects : List (Lendable α)) (i : Nat) (value : α) : List (Lendable α) :=
  objects.modify i fun object => { object with value }

end Lendable

inductive Refusal
  | borrowed
  | locked
  | othersRunning
  deriving DecidableEq

end SensorBus
