import SensorBus.Checked
import SensorBus.Ssd1306.Frame

namespace SensorBus.Ssd1306

structure Color where
  red : UInt8
  green : UInt8
  blue : UInt8
  deriving DecidableEq

namespace Color

def bytes (c : Color) : List UInt8 := [c.red, c.green, c.blue]

def lit : Color := ⟨0x9C, 0xDC, 0xFE⟩

def dark : Color := ⟨0x00, 0x00, 0x00⟩

def ofPixel (on : Bool) : Color := if on then lit else dark

end Color

structure Image where
  width : Nat
  height : Nat
  pixels : List Color

def Frame.upscale (frame : Frame) (scale : Nat) : Image where
  width := width * scale
  height := height * scale
  pixels := (List.range (height * scale)).flatMap fun y =>
    (List.range (width * scale)).map fun x => .ofPixel (frame.pixel (x / scale) (y / scale))

def Frame.render (frame : Frame) (scale : Nat) : Checked Image := do
  if scale = 0 then throw .zeroScale
  let area ← IntRange.unsigned64.multiply (width * scale : Nat) (height * scale : Nat)
  let length ← IntRange.unsigned64.multiply area 3
  unless IntRange.signed64.contains length do throw .hugeBuffer
  unless IntRange.unsigned32.contains (width * scale : Nat) do throw .wideImage
  unless IntRange.unsigned32.contains (height * scale : Nat) do throw .tallImage
  return frame.upscale scale

namespace Image

def bytes (image : Image) : List UInt8 := image.pixels.flatMap Color.bytes

def addToRuns (runs : List (Nat × Color)) (c : Color) : List (Nat × Color) :=
  match runs with
  | (length, d) :: rest => if c = d then (length + 1, d) :: rest else (1, c) :: runs
  | [] => [(1, c)]

def runs (image : Image) : List (Nat × Color) := (image.pixels.foldl addToRuns []).reverse

end Image

end SensorBus.Ssd1306
