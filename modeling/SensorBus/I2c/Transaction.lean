import SensorBus.I2c.Address
import SensorBus.I2c.Sequence

namespace SensorBus.I2c

inductive TransactionState
  | idle
  | busy
  | error
  deriving DecidableEq

def TransactionState.name : TransactionState → String
  | .idle => "Idle"
  | .busy => "Busy"
  | .error => "Error"

inductive DetachCause
  | normalStop
  | errorCondition
  | failedToAttach
  deriving DecidableEq

def DetachCause.all : List DetachCause := [.normalStop, .errorCondition, .failedToAttach]

def DetachCause.name : DetachCause → String
  | .normalStop => "NormalStop"
  | .errorCondition => "ErrorCondition"
  | .failedToAttach => "FailedToAttach"

/-- What a transaction exchanges: three ready-made kinds, and a caller's own, which accepts or
refuses every attempt to attach it and has a sequence of any kind, made of its own parts. -/
inductive Body
  | writeRead (bytes buffer : List UInt8)
  | write (head payload : List UInt8)
  | read (buffer : List UInt8)
  | custom (accepts : Bool) (kind : SequenceKind) (head payload buffer : List UInt8)
  deriving DecidableEq

namespace Body

/-- The sequence of a ready-made body is normalized; that of a caller's own is taken as it is. -/
def sequence : Body → Sequence
  | .writeRead bytes buffer => (Sequence.writeRead bytes buffer).normalized
  | .write head payload => (Sequence.prefixedWrite head payload).normalized
  | .read buffer => (Sequence.read buffer).normalized
  | .custom _ kind head payload buffer => kind.sequence head payload buffer

def receive (received : List UInt8) : Body → Body
  | .writeRead bytes buffer => .writeRead bytes (received ++ buffer.drop received.length)
  | .write head payload => .write head payload
  | .read buffer => .read (received ++ buffer.drop received.length)
  | .custom accepts kind head payload buffer =>
    .custom accepts kind head payload (received ++ buffer.drop received.length)

def buffer? : Body → Option (List UInt8)
  | .writeRead _ buffer | .read buffer | .custom _ _ _ _ buffer => some buffer
  | .write .. => none

def setUp? : Body → Sequence → Option Body
  | .writeRead .., .ping => some (.writeRead [] [])
  | .writeRead .., .write bytes => some (.writeRead bytes [])
  | .writeRead .., .read buffer => some (.writeRead [] buffer)
  | .writeRead .., .writeRead bytes buffer => some (.writeRead bytes buffer)
  | .write .., .ping => some (.write [] [])
  | .write .., .write payload => some (.write [] payload)
  | .write .., .prefixedWrite head payload => some (.write head payload)
  | .read _, .ping => some (.read [])
  | .read _, .read buffer => some (.read buffer)
  | _, _ => none

end Body

/-- A transaction that reports leaves a mark in the bus log whenever it is attached, asked for its
sequence or detached. -/
structure Transaction where
  address : Address
  body : Body
  state : TransactionState := .idle
  reports : Bool := false
  deriving DecidableEq

namespace Transaction

def isBusy (t : Transaction) : Bool := t.state == .busy

def sequence (t : Transaction) : Sequence := t.body.sequence

def accepts (t : Transaction) : Bool :=
  match t.body with
  | .custom accepts .. => accepts
  | _ => !t.isBusy

def attach (t : Transaction) : Bool × Transaction :=
  (t.accepts, if t.accepts then { t with state := .busy } else t)

def detach (t : Transaction) (cause : DetachCause) : Transaction :=
  { t with state := if cause = .normalStop then .idle else .error }

def receive (t : Transaction) (received : List UInt8) : Transaction :=
  { t with body := t.body.receive received }

def setAddress (t : Transaction) (address : Address) : Except Error Unit × Transaction :=
  if t.isBusy then (.error .transactionBusy, t) else (.ok (), { t with address })

def configure? (t : Transaction) (sequence : Sequence) :
    Option (Except Error Unit × Transaction) :=
  (t.body.setUp? sequence).map fun body =>
    if t.isBusy then (.error .transactionBusy, t) else (.ok (), { t with body })

end Transaction

end SensorBus.I2c
