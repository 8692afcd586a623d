namespace SensorBus

abbrev RegisterFile (n : Nat) := Vector UInt8 n

namespace RegisterFile

variable {n : Nat}

def blank : RegisterFile n := Vector.replicate n 0

def load (file : RegisterFile n) (start : Nat) : List UInt8 → RegisterFile n
  | [] => file
  | byte :: rest => load (file.setIfInBounds (start % n) byte) (start + 1) rest

def slice (file : RegisterFile n) (start : Nat) : (count : Nat) → List UInt8
  | 0 => []
  | count + 1 => file.getD (start % n) 0 :: slice file (start + 1) count

end RegisterFile

end SensorBus
