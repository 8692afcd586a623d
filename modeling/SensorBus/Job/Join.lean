import SensorBus.Job.Basic

namespace SensorBus

structure Join (F G α β : Type) where
  left : F
  right : G
  leftValue : Option α := none
  rightValue : Option β := none

namespace Join

variable {F G W α β : Type} [Job F W α] [Job G W β]

def pollUnlessDone {F α : Type} [Job F W α] (value : Option α) (job : F) (world : W) :
    Option α × F × W :=
  match value with
  | some value => (some value, job, world)
  | none => Job.poll job world

def poll (pair : Join F G α β) (world : W) : Option (α × β) × Join F G α β × W :=
  let (leftValue, left, world) := pollUnlessDone pair.leftValue pair.left world
  let (rightValue, right, world) := pollUnlessDone pair.rightValue pair.right world
  (leftValue.bind fun a => rightValue.map fun b => (a, b),
    { left, right, leftValue, rightValue }, world)

def poll? (limit : Nat) (pair : Join F G α β) (world : W) : Option (α × β) × W :=
  match limit with
  | 0 => (none, world)
  | limit + 1 =>
    match pair.poll world with
    | (some values, _, world) => (some values, world)
    | (none, pair, world) => poll? limit pair world

end Join

end SensorBus
