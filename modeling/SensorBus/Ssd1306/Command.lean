namespace SensorBus.Ssd1306

inductive Command
  | setContrastControl
  | setEntireDisplayResumeToRam
  | setEntireDisplayOn
  | setNormalDisplay
  | setInvertDisplay
  | setDisplayOff
  | setDisplayOn
  | setMemoryMode
  | setColumnAddress
  | setPageAddress
  | setDisplayStartLine
  | setSegmentRemap0
  | setSegmentRemap127
  | setMultiplexRatio
  | setComOutputScanDirectionIncrement
  | setComOutputScanDirectionDecrement
  | setDisplayOffset
  | setComPins
  | setDisplayClockDivideRatio
  | setPreChargePeriod
  | setVDeselectLevel
  | setChargePump
  | setRightHorizontalScroll
  | setLeftHorizontalScroll
  | deactivateScroll
  | activateScroll
  deriving DecidableEq

def Command.opcode : Command → UInt8
  | .setContrastControl => 0x81
  | .setEntireDisplayResumeToRam => 0xA4
  | .setEntireDisplayOn => 0xA5
  | .setNormalDisplay => 0xA6
  | .setInvertDisplay => 0xA7
  | .setDisplayOff => 0xAE
  | .setDisplayOn => 0xAF
  | .setMemoryMode => 0x20
  | .setColumnAddress => 0x21
  | .setPageAddress => 0x22
  | .setDisplayStartLine => 0x40
  | .setSegmentRemap0 => 0xA0
  | .setSegmentRemap127 => 0xA1
  | .setMultiplexRatio => 0xA8
  | .setComOutputScanDirectionIncrement => 0xC0
  | .setComOutputScanDirectionDecrement => 0xC8
  | .setDisplayOffset => 0xD3
  | .setComPins => 0xDA
  | .setDisplayClockDivideRatio => 0xD5
  | .setPreChargePeriod => 0xD9
  | .setVDeselectLevel => 0xDB
  | .setChargePump => 0x8D
  | .setRightHorizontalScroll => 0x26
  | .setLeftHorizontalScroll => 0x27
  | .deactivateScroll => 0x2E
  | .activateScroll => 0x2F

def Command.all : List Command :=
  [.setContrastControl, .setEntireDisplayResumeToRam, .setEntireDisplayOn, .setNormalDisplay,
    .setInvertDisplay, .setDisplayOff, .setDisplayOn, .setMemoryMode, .setColumnAddress,
    .setPageAddress, .setDisplayStartLine, .setSegmentRemap0, .setSegmentRemap127,
    .setMultiplexRatio, .setComOutputScanDirectionIncrement, .setComOutputScanDirectionDecrement,
    .setDisplayOffset, .setComPins, .setDisplayClockDivideRatio, .setPreChargePeriod,
    .setVDeselectLevel, .setChargePump, .setRightHorizontalScroll, .setLeftHorizontalScroll,
    .deactivateScroll, .activateScroll]

def Command.name : Command → String
  | .setContrastControl => "SetContrastControl"
  | .setEntireDisplayResumeToRam => "SetEntireDisplayResumeToRam"
  | .setEntireDisplayOn => "SetEntireDisplayOn"
  | .setNormalDisplay => "SetNormalDisplay"
  | .setInvertDisplay => "SetInvertDisplay"
  | .setDisplayOff => "SetDisplayOff"
  | .setDisplayOn => "SetDisplayOn"
  | .setMemoryMode => "SetMemoryMode"
  | .setColumnAddress => "SetColumnAddress"
  | .setPageAddress => "SetPageAddress"
  | .setDisplayStartLine => "SetDisplayStartLine"
  | .setSegmentRemap0 => "SetSegmentRemap0"
  | .setSegmentRemap127 => "SetSegmentRemap127"
  | .setMultiplexRatio => "SetMultiplexRatio"
  | .setComOutputScanDirectionIncrement => "SetComOutputScanDirectionIncrement"
  | .setComOutputScanDirectionDecrement => "SetComOutputScanDirectionDecrement"
  | .setDisplayOffset => "SetDisplayOffset"
  | .setComPins => "SetComPins"
  | .setDisplayClockDivideRatio => "SetDisplayClockDivideRatio"
  | .setPreChargePeriod => "SetPreChargePeriod"
  | .setVDeselectLevel => "SetVDeselectLevel"
  | .setChargePump => "SetChargePump"
  | .setRightHorizontalScroll => "SetRightHorizontalScroll"
  | .setLeftHorizontalScroll => "SetLeftHorizontalScroll"
  | .deactivateScroll => "DeactivateScroll"
  | .activateScroll => "ActivateScroll"

structure Instruction where
  command : Command
  arguments : List UInt8 := []
  deriving DecidableEq

inductive Rotation
  | normal
  | rotated180
  deriving DecidableEq

inductive ScrollDirection
  | right
  | left
  deriving DecidableEq

def ScrollDirection.all : List ScrollDirection := [.right, .left]

def ScrollDirection.name : ScrollDirection → String
  | .right => "Right"
  | .left => "Left"

inductive ScrollInterval
  | frames2
  | frames3
  | frames4
  | frames5
  | frames25
  | frames64
  | frames128
  | frames256
  deriving DecidableEq

def ScrollInterval.all : List ScrollInterval :=
  [.frames2, .frames3, .frames4, .frames5, .frames25, .frames64, .frames128, .frames256]

def ScrollInterval.frames : ScrollInterval → Nat
  | .frames2 => 2
  | .frames3 => 3
  | .frames4 => 4
  | .frames5 => 5
  | .frames25 => 25
  | .frames64 => 64
  | .frames128 => 128
  | .frames256 => 256

def ScrollInterval.code : ScrollInterval → UInt8
  | .frames2 => 0b111
  | .frames3 => 0b100
  | .frames4 => 0b101
  | .frames5 => 0b000
  | .frames25 => 0b110
  | .frames64 => 0b001
  | .frames128 => 0b010
  | .frames256 => 0b011

def ScrollDirection.command : ScrollDirection → Command
  | .right => .setRightHorizontalScroll
  | .left => .setLeftHorizontalScroll

namespace Instruction

def rotate : Rotation → List Instruction
  | .normal => [⟨.setSegmentRemap127, []⟩, ⟨.setComOutputScanDirectionDecrement, []⟩]
  | .rotated180 => [⟨.setSegmentRemap0, []⟩, ⟨.setComOutputScanDirectionIncrement, []⟩]

def setUp : List Instruction :=
  [⟨.setDisplayOff, []⟩, ⟨.setDisplayClockDivideRatio, [0x80]⟩, ⟨.setMultiplexRatio, [0x3F]⟩,
    ⟨.setDisplayOffset, [0x00]⟩, ⟨.setDisplayStartLine, []⟩, ⟨.setChargePump, [0x14]⟩,
    ⟨.setMemoryMode, [0x00]⟩]

def switchOn : List Instruction :=
  [⟨.setComPins, [0x12]⟩, ⟨.setContrastControl, [0xCE]⟩, ⟨.setPreChargePeriod, [0xF1]⟩,
    ⟨.setVDeselectLevel, [0x40]⟩, ⟨.setEntireDisplayResumeToRam, []⟩, ⟨.setNormalDisplay, []⟩,
    ⟨.setColumnAddress, [0, 127]⟩, ⟨.setPageAddress, [0, 7]⟩, ⟨.setDisplayOn, []⟩]

def scroll (direction : ScrollDirection) (first last : UInt8) (interval : ScrollInterval) :
    List Instruction :=
  [⟨.deactivateScroll, []⟩,
    ⟨direction.command, [0x00, min first 7, interval.code, min last 7, 0x00, 0xFF]⟩,
    ⟨.activateScroll, []⟩]

end Instruction

end SensorBus.Ssd1306
