import SensorBus.Job.Basic

namespace SensorBus

inductive Resume (α : Type)
  | idle
  | running
  | finished (value : α)
  deriving DecidableEq, Repr

namespace Resume

def isRunning : Resume α → Bool
  | .running => true
  | _ => false

def value? : Resume α → Option α
  | .finished value => some value
  | _ => none

end Resume

abbrev Slot (F : Type) := Option F

namespace Slot

variable {F W α : Type} [Job F W α]

def isRunning (slot : Slot F) : Bool := slot.isSome

def start (job : F) : Slot F → W → Bool × Slot F × W
  | none, world => (true, some job, world)
  | some held, world => (false, some held, Job.drop job world)

def resume : Slot F → W → Resume α × Slot F × W
  | none, world => (.idle, none, world)
  | some job, world =>
    match Job.poll job world with
    | (some value, job, world) => (.finished value, none, Job.drop job world)
    | (none, job, world) => (.running, some job, world)

def stop : Slot F → W → Bool × Slot F × W
  | none, world => (false, none, world)
  | some job, world => (true, none, Job.drop job world)

def finish : Slot F → W → Option α × Slot F × W
  | none, world => (none, none, world)
  | some job, world =>
    let (value, job, world) := Job.finish job world
    (value, none, Job.drop job world)

end Slot

end SensorBus
