namespace SensorBus.I2c

/-- A read is given by the buffer that it fills. -/
inductive Sequence
  | ping
  | write (bytes : List UInt8)
  | read (buffer : List UInt8)
  | writeRead (bytes buffer : List UInt8)
  | prefixedWrite (head payload : List UInt8)
  deriving DecidableEq

inductive SequenceKind
  | ping
  | write
  | read
  | writeRead
  | prefixedWrite
  deriving DecidableEq

inductive Condition
  | start
  | restart
  | write (length : Nat)
  | read (length : Nat)
  | stop
  deriving DecidableEq

inductive Segment
  | write (bytes : List UInt8)
  | read (length : Nat)
  deriving DecidableEq

def SequenceKind.sequence (head payload buffer : List UInt8) : SequenceKind → Sequence
  | .ping => .ping
  | .write => .write payload
  | .read => .read buffer
  | .writeRead => .writeRead payload buffer
  | .prefixedWrite => .prefixedWrite head payload

namespace Sequence

def normalized : Sequence → Sequence
  | .write [] | .read [] | .writeRead [] [] | .prefixedWrite [] [] => .ping
  | .writeRead bytes [] => .write bytes
  | .writeRead [] buffer => .read buffer
  | .prefixedWrite [] payload => .write payload
  | .prefixedWrite head [] => .write head
  | sequence => sequence

def conditions : Sequence → List Condition
  | .ping => [.start, .stop]
  | .write bytes => [.start, .write bytes.length, .stop]
  | .read buffer => [.start, .read buffer.length, .stop]
  | .writeRead bytes buffer =>
    [.start, .write bytes.length, .restart, .read buffer.length, .stop]
  | .prefixedWrite head payload => [.start, .write head.length, .write payload.length, .stop]

def writeLength : Sequence → Nat
  | .ping | .read _ => 0
  | .write bytes | .writeRead bytes _ => bytes.length
  | .prefixedWrite head payload => head.length + payload.length

def readLength : Sequence → Nat
  | .read buffer | .writeRead _ buffer => buffer.length
  | .ping | .write _ | .prefixedWrite .. => 0

/-- A ping is an exchange with one empty write. -/
def segments : Sequence → List Segment
  | .ping => [.write []]
  | .write bytes => [.write bytes]
  | .read buffer => [.read buffer.length]
  | .writeRead bytes buffer => [.write bytes, .read buffer.length]
  | .prefixedWrite head payload => [.write head, .write payload]

def listDetail (bytes : List UInt8) : String :=
  "[" ++ ", ".intercalate (bytes.map fun byte => toString byte.toNat) ++ "]"

def detail : Sequence → String
  | .ping => "Ping"
  | .write bytes => s!"Write({listDetail bytes})"
  | .read buffer => s!"Read({listDetail buffer})"
  | .writeRead bytes buffer => s!"WriteRead({listDetail bytes}, {listDetail buffer})"
  | .prefixedWrite head payload => s!"PrefixedWrite({listDetail head}, {listDetail payload})"

end Sequence

end SensorBus.I2c
