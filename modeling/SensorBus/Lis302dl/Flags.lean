namespace SensorBus.Lis302dl

inductive FlagRegister
  | control1
  | control2
  | control3
  | status
  | freeFallConfig
  | freeFallSource
  | clickConfig
  | clickSource
  deriving DecidableEq

namespace FlagRegister

def all : List FlagRegister :=
  [.control1, .control2, .control3, .status, .freeFallConfig, .freeFallSource, .clickConfig,
    .clickSource]

def name : FlagRegister → String
  | .control1 => "Control1"
  | .control2 => "Control2"
  | .control3 => "Control3"
  | .status => "Status"
  | .freeFallConfig => "FreeFallConfig"
  | .freeFallSource => "FreeFallSource"
  | .clickConfig => "ClickConfig"
  | .clickSource => "ClickSource"

end FlagRegister

structure Flag where
  name : String
  bits : UInt8
  deriving DecidableEq

def FlagRegister.flags : FlagRegister → List Flag
  | .control1 =>
    [⟨"DR", 0x80⟩, ⟨"PD", 0x40⟩, ⟨"FS", 0x20⟩, ⟨"STP", 0x10⟩, ⟨"STM", 0x08⟩, ⟨"ZEN", 0x04⟩,
      ⟨"YEN", 0x02⟩, ⟨"XEN", 0x01⟩]
  | .control2 =>
    [⟨"SIM", 0x80⟩, ⟨"BOOT", 0x40⟩, ⟨"FDS", 0x10⟩, ⟨"HP_FF_WU2", 0x08⟩, ⟨"HP_FF_WU1", 0x04⟩,
      ⟨"HP_COEFF2", 0x02⟩, ⟨"HP_COEFF1", 0x01⟩]
  | .control3 => [⟨"IHL", 0x80⟩, ⟨"PP_OD", 0x40⟩, ⟨"I2CFG", 0x38⟩, ⟨"I1CFG", 0x07⟩]
  | .status =>
    [⟨"ZYXOR", 0x80⟩, ⟨"ZOR", 0x40⟩, ⟨"YOR", 0x20⟩, ⟨"XOR", 0x10⟩, ⟨"ZYXDA", 0x08⟩,
      ⟨"ZDA", 0x04⟩, ⟨"YDA", 0x02⟩, ⟨"XDA", 0x01⟩]
  | .freeFallConfig =>
    [⟨"AOI", 0x80⟩, ⟨"LIR", 0x40⟩, ⟨"ZHIE", 0x20⟩, ⟨"ZLIE", 0x10⟩, ⟨"YHIE", 0x08⟩,
      ⟨"YLIE", 0x04⟩, ⟨"XHIE", 0x02⟩, ⟨"XLIE", 0x01⟩]
  | .freeFallSource =>
    [⟨"IA", 0x40⟩, ⟨"ZH", 0x20⟩, ⟨"ZL", 0x10⟩, ⟨"YH", 0x08⟩, ⟨"YL", 0x04⟩, ⟨"XH", 0x02⟩,
      ⟨"XL", 0x01⟩]
  | .clickConfig =>
    [⟨"LIR", 0x40⟩, ⟨"DOUBLE_Z", 0x20⟩, ⟨"SINGLE_Z", 0x10⟩, ⟨"DOUBLE_Y", 0x08⟩,
      ⟨"SINGLE_Y", 0x04⟩, ⟨"DOUBLE_X", 0x02⟩, ⟨"SINGLE_X", 0x01⟩]
  | .clickSource =>
    [⟨"IA", 0x40⟩, ⟨"DOUBLE_Z", 0x20⟩, ⟨"SINGLE_Z", 0x10⟩, ⟨"DOUBLE_Y", 0x08⟩,
      ⟨"SINGLE_Y", 0x04⟩, ⟨"DOUBLE_X", 0x02⟩, ⟨"SINGLE_X", 0x01⟩]

structure Flags (r : FlagRegister) where
  bits : UInt8
  deriving DecidableEq

namespace Flags

variable {r : FlagRegister}

def empty : Flags r := ⟨0⟩

def all : Flags r := ⟨r.flags.foldl (fun bits flag => bits ||| flag.bits) 0⟩

def ofBits? (bits : UInt8) : Option (Flags r) :=
  if bits &&& ~~~(all : Flags r).bits = 0 then some ⟨bits⟩ else none

def truncate (bits : UInt8) : Flags r := ⟨bits &&& (all : Flags r).bits⟩

def isEmpty (s : Flags r) : Bool := s.bits == 0

def contains (s t : Flags r) : Bool := s.bits &&& t.bits == t.bits

def intersects (s t : Flags r) : Bool := s.bits &&& t.bits != 0

def isAll (s : Flags r) : Bool := s.contains all

def union (s t : Flags r) : Flags r := ⟨s.bits ||| t.bits⟩

def intersection (s t : Flags r) : Flags r := ⟨s.bits &&& t.bits⟩

def difference (s t : Flags r) : Flags r := ⟨s.bits &&& ~~~t.bits⟩

def symmetricDifference (s t : Flags r) : Flags r := ⟨s.bits ^^^ t.bits⟩

def complement (s : Flags r) : Flags r := truncate (~~~s.bits)

def update (s set clear : Flags r) : Flags r := (s.difference clear).union set

def takeNames (s : Flags r) : List Flag → (remaining : Flags r) → List String × Flags r
  | [], remaining => ([], remaining)
  | flag :: rest, remaining =>
    if s.contains ⟨flag.bits⟩ && remaining.intersects ⟨flag.bits⟩ then
      let (names, left) := s.takeNames rest (remaining.difference ⟨flag.bits⟩)
      (flag.name :: names, left)
    else s.takeNames rest remaining

def names (s : Flags r) : List String × Flags r := s.takeNames r.flags s

end Flags

end SensorBus.Lis302dl
