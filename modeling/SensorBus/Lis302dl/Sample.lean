namespace SensorBus.Lis302dl

inductive Scale
  | g2
  | g8
  deriving DecidableEq

inductive Axis
  | x
  | y
  | z
  deriving DecidableEq

def Scale.all : List Scale := [.g2, .g8]

def Scale.name : Scale → String
  | .g2 => "G2"
  | .g8 => "G8"

def Axis.all : List Axis := [.x, .y, .z]

def Axis.name : Axis → String
  | .x => "X"
  | .y => "Y"
  | .z => "Z"

def Scale.gPerStep : Scale → Float32
  | .g2 => 2.3 / 128.0
  | .g8 => 9.2 / 128.0

structure Sample where
  x : Int8 := 0
  y : Int8 := 0
  z : Int8 := 0
  scale : Scale := .g2
  deriving DecidableEq

namespace Sample

def raw (sample : Sample) : Axis → Int8
  | .x => sample.x
  | .y => sample.y
  | .z => sample.z

def g (sample : Sample) (axis : Axis) : Float32 :=
  Float32.ofInt (sample.raw axis).toInt * sample.scale.gPerStep

end Sample

end SensorBus.Lis302dl
