import SensorBus.Violation

/-!
Integer arithmetic within fixed ranges. Sums, differences and products are those of the unbounded
integers, and are refused where they leave the range; shifting to the left drops what does not fit.
-/

namespace SensorBus

abbrev Checked (α : Type) := Except Violation α

structure IntRange where
  least : Int
  greatest : Int
  deriving DecidableEq

namespace IntRange

def signed32 : IntRange := ⟨-0x80000000, 0x7FFFFFFF⟩

def signed64 : IntRange := ⟨-0x8000000000000000, 0x7FFFFFFFFFFFFFFF⟩

def unsigned32 : IntRange := ⟨0, 0xFFFFFFFF⟩

def unsigned64 : IntRange := ⟨0, 0xFFFFFFFFFFFFFFFF⟩

def contains (range : IntRange) (x : Int) : Bool := range.least ≤ x && x ≤ range.greatest

def check (range : IntRange) (operation : CheckedOperation) (x : Int) : Checked Int :=
  if range.contains x then .ok x else .error (.overflow operation)

def add (range : IntRange) (x y : Int) : Checked Int := range.check .add (x + y)

def subtract (range : IntRange) (x y : Int) : Checked Int := range.check .subtract (x - y)

def multiply (range : IntRange) (x y : Int) : Checked Int := range.check .multiply (x * y)

end IntRange

def shiftLeft64 (x : Int) (count : Nat) : Int := (x <<< count).bmod 0x10000000000000000

def shiftRight (x : Int) (count : Nat) : Int := x >>> count

end SensorBus
