namespace SensorBus.Spi

inductive ErrorKind
  | overrun
  | modeFault
  | frameFormat
  | chipSelectFault
  | other
  deriving DecidableEq

def ErrorKind.all : List ErrorKind :=
  [.overrun, .modeFault, .frameFormat, .chipSelectFault, .other]

def ErrorKind.name : ErrorKind → String
  | .overrun => "Overrun"
  | .modeFault => "ModeFault"
  | .frameFormat => "FrameFormat"
  | .chipSelectFault => "ChipSelectFault"
  | .other => "Other"

end SensorBus.Spi
