import SensorBus.I2c.Transaction

namespace SensorBus.I2c

structure Timing where
  hertz : Nat
  deriving DecidableEq

inductive Delay
  | milliseconds (count : Nat)
  | microseconds (count : Nat)
  deriving DecidableEq

inductive Event
  | start (address : Address)
  | write (bytes : List UInt8)
  | read (length : Nat)
  | stop (address : Address)
  | timed (timing : Timing)
  | delayed (duration : Delay)
  | attaching (accepted : Bool)
  | sequenced
  | detaching (cause : DetachCause)
  deriving DecidableEq

end SensorBus.I2c
