namespace SensorBus.I2c

inductive Unacknowledged
  | address
  | data
  | unknown
  deriving DecidableEq

namespace Unacknowledged

def name : Unacknowledged → String
  | .address => "Address"
  | .data => "Data"
  | .unknown => "Unknown"

end Unacknowledged

inductive ErrorKind
  | bus
  | arbitrationLoss
  | noAcknowledge (source : Unacknowledged)
  | overrun
  | other
  deriving DecidableEq

namespace ErrorKind

def name : ErrorKind → String
  | .bus => "Bus"
  | .arbitrationLoss => "ArbitrationLoss"
  | .noAcknowledge source => s!"NoAcknowledge({source.name})"
  | .overrun => "Overrun"
  | .other => "Other"

end ErrorKind

end SensorBus.I2c
