import SensorBus.Job.Basic

namespace SensorBus

structure Countdown where
  id : Int
  left : Nat := 0
  deriving DecidableEq, Repr

namespace Countdown

inductive Mark
  | polled (id : Int)
  | dropped (id : Int)
  deriving DecidableEq, Repr

def poll (job : Countdown) (marks : List Mark) : Option Int × Countdown × List Mark :=
  match job with
  | ⟨id, 0⟩ => (some id, ⟨id, 0⟩, marks ++ [.polled id])
  | ⟨id, left + 1⟩ => (none, ⟨id, left⟩, marks ++ [.polled id])

def drop (job : Countdown) (marks : List Mark) : List Mark := marks ++ [.dropped job.id]

def finish (job : Countdown) (marks : List Mark) : Option Int × Countdown × List Mark :=
  (some job.id, ⟨job.id, 0⟩, marks ++ List.replicate (job.left + 1) (.polled job.id))

instance : Job Countdown (List Mark) Int where
  poll := poll
  finish := finish
  drop := drop

end Countdown

end SensorBus
