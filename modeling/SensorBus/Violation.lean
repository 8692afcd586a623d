namespace SensorBus

inductive CheckedOperation
  | add
  | subtract
  | multiply
  deriving DecidableEq

def CheckedOperation.name : CheckedOperation → String
  | .add => "add"
  | .subtract => "subtract"
  | .multiply => "multiply"

inductive Violation
  | overflow (operation : CheckedOperation)
  | wideAddress
  | zeroScale
  | hugeBuffer
  | wideImage
  | tallImage
  deriving DecidableEq

def Violation.message : Violation → String
  | .overflow operation => s!"attempt to {operation.name} with overflow"
  | .wideAddress => "I2C address must fit in 7 bits"
  | .zeroScale => "scale must be positive"
  | .hugeBuffer => "capacity overflow"
  | .wideImage => "scaled width must fit in u32: TryFromIntError(())"
  | .tallImage => "scaled height must fit in u32: TryFromIntError(())"

end SensorBus
