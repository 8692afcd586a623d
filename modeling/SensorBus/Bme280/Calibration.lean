namespace SensorBus.Bme280

structure Calibration where
  t1 : UInt16 := 0
  t2 : Int16 := 0
  t3 : Int16 := 0
  p1 : UInt16 := 0
  p2 : Int16 := 0
  p3 : Int16 := 0
  p4 : Int16 := 0
  p5 : Int16 := 0
  p6 : Int16 := 0
  p7 : Int16 := 0
  p8 : Int16 := 0
  p9 : Int16 := 0
  h1 : UInt8 := 0
  h2 : Int16 := 0
  h3 : UInt8 := 0
  h4 : Int16 := 0
  h5 : Int16 := 0
  h6 : Int8 := 0
  deriving DecidableEq

def word (low high : UInt8) : UInt16 := UInt16.ofNat (low.toNat + 256 * high.toNat)

namespace Calibration

def temperatureTerms (c : Calibration) : List Int := [c.t1.toNat, c.t2.toInt, c.t3.toInt]

def pressureTerms (c : Calibration) : List Int :=
  [c.p1.toNat, c.p2.toInt, c.p3.toInt, c.p4.toInt, c.p5.toInt, c.p6.toInt, c.p7.toInt, c.p8.toInt,
    c.p9.toInt]

def humidityTerms (c : Calibration) : List Int :=
  [c.h1.toNat, c.h2.toInt, c.h3.toNat, c.h4.toInt, c.h5.toInt, c.h6.toInt]

def ofTerms (t p h : List Int) : Calibration where
  t1 := .ofInt (t.getD 0 0)
  t2 := .ofInt (t.getD 1 0)
  t3 := .ofInt (t.getD 2 0)
  p1 := .ofInt (p.getD 0 0)
  p2 := .ofInt (p.getD 1 0)
  p3 := .ofInt (p.getD 2 0)
  p4 := .ofInt (p.getD 3 0)
  p5 := .ofInt (p.getD 4 0)
  p6 := .ofInt (p.getD 5 0)
  p7 := .ofInt (p.getD 6 0)
  p8 := .ofInt (p.getD 7 0)
  p9 := .ofInt (p.getD 8 0)
  h1 := .ofInt (h.getD 0 0)
  h2 := .ofInt (h.getD 1 0)
  h3 := .ofInt (h.getD 2 0)
  h4 := .ofInt (h.getD 3 0)
  h5 := .ofInt (h.getD 4 0)
  h6 := .ofInt (h.getD 5 0)

@[simp] theorem ofTerms_terms (c : Calibration) :
    ofTerms c.temperatureTerms c.pressureTerms c.humidityTerms = c := by
  have word (w : UInt16) : UInt16.ofInt w.toNat = w := by
    have := w.toNat_lt
    simp [UInt16.ofInt, ← UInt16.toNat_inj]
    omega
  have byte (b : UInt8) : UInt8.ofInt b.toNat = b := by
    have := b.toNat_lt
    simp [UInt8.ofInt, ← UInt8.toNat_inj]
    omega
  simp [ofTerms, temperatureTerms, pressureTerms, humidityTerms, word, byte]

/-- The parameters of temperature and pressure, and the first of humidity. Byte 24 has none. -/
def ofLowBlock (block : Vector UInt8 26) : Calibration where
  t1 := word block[0] block[1]
  t2 := (word block[2] block[3]).toInt16
  t3 := (word block[4] block[5]).toInt16
  p1 := word block[6] block[7]
  p2 := (word block[8] block[9]).toInt16
  p3 := (word block[10] block[11]).toInt16
  p4 := (word block[12] block[13]).toInt16
  p5 := (word block[14] block[15]).toInt16
  p6 := (word block[16] block[17]).toInt16
  p7 := (word block[18] block[19]).toInt16
  p8 := (word block[20] block[21]).toInt16
  p9 := (word block[22] block[23]).toInt16
  h1 := block[25]

/-- The other parameters of humidity. The fourth has its low four bits in the low half of byte 4,
the fifth in the high half. -/
def withHighBlock (calibration : Calibration) (block : Vector UInt8 7) : Calibration :=
  { calibration with
    h2 := (word block[0] block[1]).toInt16
    h3 := block[2]
    h4 := Int16.ofInt (16 * block[3].toInt8.toInt + (block[4].toNat % 16 : Nat))
    h5 := Int16.ofInt (16 * block[5].toInt8.toInt + (block[4].toNat / 16 : Nat))
    h6 := block[6].toInt8 }

end Calibration

end SensorBus.Bme280
