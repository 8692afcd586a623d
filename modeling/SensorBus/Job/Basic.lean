/-!
Jobs: computations on a shared world that are advanced one poll at a time.

A job that was never polled has done nothing. One that is given up is dropped where it stands,
and dropping it may still change the world: whatever it holds is let go.
-/

namespace SensorBus

inductive Poll (F α : Type)
  | ready (value : α)
  | pending (rest : F)
  deriving DecidableEq

/-- A job `F` on a world `W` that ends with an `α`. A poll that ends the job gives the value, and
leaves the spent job behind; `finish` polls until that happens. -/
class Job (F : Type) (W α : outParam Type) where
  poll : F → W → Option α × F × W
  finish : F → W → Option α × F × W
  drop : F → W → W

namespace Job

variable {F W α : Type} [Job F W α]

def advance : (limit : Nat) → F → W → Option (α × Nat) × F × W
  | 0, job, world => (none, job, world)
  | limit + 1, job, world =>
    match poll job world with
    | (some value, job, world) => (some (value, 1), job, world)
    | (none, job, world) =>
      let (found, job, world) := advance limit job world
      (found.map fun (value, polls) => (value, polls + 1), job, world)

def attempt (limit : Nat) (job : F) (world : W) : Option (α × Nat) × F × W :=
  let (found, job, world) := advance limit job world
  (found, job, drop job world)

inductive Ending (α : Type)
  | value (value : α)
  | finished (value : α) (polls : Nat)
  | stopped
  deriving DecidableEq

def carryOut (polls : Option Nat) (job : F) (world : W) : Ending α × F × W :=
  match polls with
  | none =>
    let (found, job, world) := finish job world
    (found.elim .stopped .value, job, drop job world)
  | some limit =>
    let (found, job, world) := attempt limit job world
    (found.elim .stopped fun (value, polls) => .finished value polls, job, world)

@[simp] theorem advance_zero (job : F) (world : W) :
    advance 0 job world = (none, job, world) := rfl

end Job

end SensorBus
