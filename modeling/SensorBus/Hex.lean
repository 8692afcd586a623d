namespace SensorBus.Hex

def digit (n : Nat) : Char := Nat.digitChar (n % 16)

def digits (n : Nat) : (count : Nat) → List Char
  | 0 => []
  | count + 1 => digits (n / 16) count ++ [digit n]

def word (n count : Nat) : String := String.ofList (digits n count)

def byte (b : UInt8) : String := word b.toNat 2

def bytes (bs : List UInt8) : String := String.ofList (bs.flatMap fun b => digits b.toNat 2)

def value (c : Char) : Nat := ((List.range 16).find? fun n => digit n = c).getD 0

def parse : List Char → List UInt8
  | high :: low :: rest => UInt8.ofNat (16 * value high + value low) :: parse rest
  | _ => []

end SensorBus.Hex
