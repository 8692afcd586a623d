/-!
Frames: 128 by 64 pixels of one bit each, in the layout of the panel. The byte at `page * 128 + x`
holds eight rows of column `x`, row `y` of the panel in bit `y % 8` of page `y / 8`.

Pixels off the panel read as off, and drawing there changes nothing.
-/

namespace SensorBus.Ssd1306

def width : Nat := 128

def height : Nat := 64

structure Frame where
  bytes : Vector UInt8 1024 := Vector.replicate 1024 0
  deriving DecidableEq

structure Point where
  x : Int
  y : Int
  deriving DecidableEq

structure Rectangle where
  left : Int
  top : Int
  width : Nat
  height : Nat
  deriving DecidableEq

namespace Rectangle

/-- Coordinates are 32 bits wide: an extent beyond that is cut off there. -/
def limit : Int := 2147483647

def past (start : Int) (extent : Nat) : Int := min (start + min (extent : Int) limit) limit

def columns (r : Rectangle) : Nat := (past r.left r.width - r.left).toNat

def rows (r : Rectangle) : Nat := (past r.top r.height - r.top).toNat

def points (r : Rectangle) (count : Nat) : List Point :=
  (List.range (min count (r.columns * r.rows))).map fun i =>
    ⟨r.left + (i % r.columns : Nat), r.top + (i / r.columns : Nat)⟩

def contains (r : Rectangle) (p : Point) : Bool :=
  r.left ≤ p.x && p.x < r.left + r.columns && r.top ≤ p.y && p.y < r.top + r.rows

end Rectangle

def panel : List Point :=
  (List.range height).flatMap fun y : Nat => (List.range width).map fun x : Nat => ⟨x, y⟩

namespace Frame

def locate? (x y : Nat) : Option (Fin 1024 × UInt8) :=
  if h : x < 128 ∧ y < 64 then
    some (⟨y / 8 * 128 + x, by omega⟩, 1 <<< UInt8.ofNat (y % 8))
  else none

def setPixel (frame : Frame) (x y : Nat) (on : Bool) : Frame :=
  match locate? x y with
  | none => frame
  | some (i, mask) =>
    let byte := frame.bytes[i]
    { bytes := frame.bytes.set i (if on then byte ||| mask else byte &&& ~~~mask) }

def pixel (frame : Frame) (x y : Nat) : Bool :=
  match locate? x y with
  | none => false
  | some (i, mask) => frame.bytes[i] &&& mask != 0

def drawPixel (frame : Frame) (p : Point) (on : Bool) : Frame :=
  if 0 ≤ p.x ∧ 0 ≤ p.y then frame.setPixel p.x.toNat p.y.toNat on else frame

def draw (frame : Frame) (pixels : List (Point × Bool)) : Frame :=
  pixels.foldl (fun frame (p, on) => frame.drawPixel p on) frame

/-- Draw the points of a rectangle row by row, as far as the colours go. A point off the panel uses
its colour up. -/
def fillContiguous (frame : Frame) (r : Rectangle) (colors : List Bool) : Frame :=
  frame.draw ((r.points colors.length).zip colors)

def fillSolid (frame : Frame) (r : Rectangle) (on : Bool) : Frame :=
  frame.draw ((panel.filter r.contains).map fun p => (p, on))

def solid (on : Bool) : Frame := { bytes := Vector.replicate 1024 (if on then 0xFF else 0x00) }

def litCount (frame : Frame) : Nat := panel.countP fun p => frame.pixel p.x.toNat p.y.toNat

end Frame

end SensorBus.Ssd1306
