import SensorBus.Proofs.Bme280.Humidity
import Mathlib.Tactic.IntervalCases

namespace SensorBus.Bme280

def lowByte (w : UInt16) : UInt8 := .ofNat (w.toNat % 256)

def highByte (w : UInt16) : UInt8 := .ofNat (w.toNat / 256)

theorem toNat_word (low high : UInt8) : (word low high).toNat = low.toNat + 256 * high.toNat := by
  have := low.toNat_lt
  have := high.toNat_lt
  rw [word, UInt16.toNat_ofNat_of_lt' (by simp only [UInt16.size]; omega)]

@[simp] theorem word_bytes (w : UInt16) : word (lowByte w) (highByte w) = w := by
  have := w.toNat_lt
  rw [← UInt16.toNat_inj, toNat_word]
  simp [lowByte, highByte]
  omega

@[simp] theorem lowByte_word (low high : UInt8) : lowByte (word low high) = low := by
  have := low.toNat_lt
  rw [← UInt8.toNat_inj, lowByte, toNat_word]
  simp

@[simp] theorem highByte_word (low high : UInt8) : highByte (word low high) = high := by
  have := low.toNat_lt
  have := high.toNat_lt
  rw [← UInt8.toNat_inj, highByte, toNat_word]
  simp
  omega

def topByte (h : Int16) : UInt8 := (Int8.ofInt (h.toInt / 16)).toUInt8

def nibble (h : Int16) : Nat := (h.toInt % 16).toNat

def twelve (high : UInt8) (low : Nat) : Int16 := .ofInt (16 * high.toInt8.toInt + low)

theorem twelve_eq (high : UInt8) (low : Nat) :
    Int16.ofInt ((16 : Nat) * high.toInt8.toInt + low) = twelve high low := rfl

theorem nibble_lt (h : Int16) : nibble h < 16 := by
  unfold nibble
  omega

theorem twelve_parts {h : Int16} (bits : -2048 ≤ h.toInt ∧ h.toInt ≤ 2047) :
    twelve (topByte h) (nibble h) = h := by
  have top : (topByte h).toInt8.toInt = h.toInt / 16 := by
    rw [topByte, Int8.toInt8_toUInt8, Int8.toInt_ofInt_of_le (by omega) (by omega)]
  have whole : 16 * (topByte h).toInt8.toInt + nibble h = h.toInt := by
    rw [top, nibble]
    omega
  rw [twelve, whole, Int16.ofInt_toInt]

section

variable (high : UInt8) {low : Nat} (lt : low < 16)

include lt

theorem toInt_twelve : (twelve high low).toInt = 16 * high.toInt8.toInt + low :=
  Calibration.toInt_nibbles high.toInt8 lt

theorem topByte_twelve : topByte (twelve high low) = high := by
  have top : (16 * high.toInt8.toInt + low) / 16 = high.toInt8.toInt := by omega
  rw [topByte, toInt_twelve high lt, top, Int8.ofInt_toInt, UInt8.toUInt8_toInt8]

theorem nibble_twelve : nibble (twelve high low) = low := by
  rw [nibble, toInt_twelve high lt]
  omega

end

def nibbles (upper lower : Nat) : UInt8 := .ofNat (16 * upper + lower)

theorem toNat_nibbles {upper lower : Nat} (lt : upper < 16) (lt' : lower < 16) :
    (nibbles upper lower).toNat = 16 * upper + lower :=
  UInt8.toNat_ofNat_of_lt' (by simp only [UInt8.size]; omega)

theorem nibbles_of_byte (b : UInt8) : nibbles (b.toNat / 16) (b.toNat % 16) = b := by
  rw [nibbles, Nat.div_add_mod, UInt8.ofNat_toNat]

namespace Calibration

variable (c : Calibration) (low low' : Vector UInt8 26) (high high' : Vector UInt8 7)

def words : Vector UInt16 12 :=
  #v[c.t1, c.t2.toUInt16, c.t3.toUInt16, c.p1, c.p2.toUInt16, c.p3.toUInt16, c.p4.toUInt16,
    c.p5.toUInt16, c.p6.toUInt16, c.p7.toUInt16, c.p8.toUInt16, c.p9.toUInt16]

def lowBlock : Vector UInt8 26 :=
  .ofFn fun i =>
    if inWord : i.val < 24 then
      if i.val % 2 = 0 then lowByte c.words[i.val / 2] else highByte c.words[i.val / 2]
    else if i.val = 25 then c.h1 else 0

def highBlock : Vector UInt8 7 :=
  #v[lowByte c.h2.toUInt16, highByte c.h2.toUInt16, c.h3, topByte c.h4,
    nibbles (nibble c.h5) (nibble c.h4), topByte c.h5, c.h6.toUInt8]

def ofBlocks : Calibration := (ofLowBlock low).withHighBlock high

theorem words_ofLowBlock {i : Nat} (lt : i < 12) :
    (ofLowBlock low).words[i] = word low[2 * i] low[2 * i + 1] := by
  interval_cases i <;> rfl

theorem lowBlock_word (i : Nat) (lt : i < 24) :
    c.lowBlock[i] = if i % 2 = 0 then lowByte c.words[i / 2] else highByte c.words[i / 2] := by
  simp [lowBlock, lt]

theorem lowBlock_ofLowBlock : (ofLowBlock low).lowBlock = low.set 24 0 := by
  ext i lt
  obtain inWord | rfl | rfl : i < 24 ∨ i = 24 ∨ i = 25 := by omega
  · rw [lowBlock_word _ i inWord, words_ofLowBlock low (by omega), lowByte_word, highByte_word,
      Vector.getElem_set_ne _ _ (by omega)]
    split
    · have even : 2 * (i / 2) = i := by omega
      simp only [even]
    · have odd : 2 * (i / 2) + 1 = i := by omega
      simp only [odd]
  · simp [lowBlock]
  · simp [lowBlock, ofLowBlock]

theorem ofLowBlock_lowBlock :
    ofLowBlock c.lowBlock = { c with h2 := 0, h3 := 0, h4 := 0, h5 := 0, h6 := 0 } := by
  simp [ofLowBlock, lowBlock, words]

theorem withHighBlock_highBlock (bits : c.TwelveBit) : c.withHighBlock c.highBlock = c := by
  have shared := toNat_nibbles (nibble_lt c.h5) (nibble_lt c.h4)
  have lower : (16 * nibble c.h5 + nibble c.h4) % 16 = nibble c.h4 := by
    have := nibble_lt c.h4
    omega
  have upper : (16 * nibble c.h5 + nibble c.h4) / 16 = nibble c.h5 := by
    have := nibble_lt c.h4
    omega
  simp only [withHighBlock, twelve_eq]
  simp [highBlock, shared, lower, upper, twelve_parts bits.h4, twelve_parts bits.h5]

theorem highBlock_withHighBlock : (c.withHighBlock high).highBlock = high := by
  have lower : high[4].toNat % 16 < 16 := Nat.mod_lt _ (by decide)
  have upper : high[4].toNat / 16 < 16 := by
    have := high[4].toNat_lt
    omega
  simp only [withHighBlock, twelve_eq, highBlock, UInt16.toUInt16_toInt16, lowByte_word,
    highByte_word, topByte_twelve _ lower, topByte_twelve _ upper, nibble_twelve _ lower,
    nibble_twelve _ upper, nibbles_of_byte, UInt8.toUInt8_toInt8]
  ext i lt
  interval_cases i <;> rfl

@[simp] theorem lowBlock_withHighBlock : (c.withHighBlock high).lowBlock = c.lowBlock := rfl

theorem ofBlocks_blocks (bits : c.TwelveBit) : ofBlocks c.lowBlock c.highBlock = c := by
  rw [ofBlocks, ofLowBlock_lowBlock]
  exact c.withHighBlock_highBlock bits

theorem lowBlock_ofBlocks : (ofBlocks low high).lowBlock = low.set 24 0 := by
  rw [ofBlocks, lowBlock_withHighBlock, lowBlock_ofLowBlock]

theorem highBlock_ofBlocks : (ofBlocks low high).highBlock = high :=
  highBlock_withHighBlock ..

theorem ofLowBlock_set : ofLowBlock (low.set 24 0) = ofLowBlock low := by
  simp [ofLowBlock]

theorem set_eq_set_iff :
    low.set 24 0 = low'.set 24 0 ↔ ∀ i (lt : i < 26), i ≠ 24 → low[i] = low'[i] := by
  constructor
  · intro same i lt other
    have byte : (low.set 24 0)[i] = (low'.set 24 0)[i] := by rw [same]
    rwa [Vector.getElem_set_ne _ _ other.symm, Vector.getElem_set_ne _ _ other.symm] at byte
  · intro same
    ext i lt
    simp only [Vector.getElem_set]
    split
    · rfl
    · rename_i other
      rw [same i lt (Ne.symm other)]

theorem ofBlocks_eq_iff :
    ofBlocks low high = ofBlocks low' high' ↔
      (∀ i (lt : i < 26), i ≠ 24 → low[i] = low'[i]) ∧ high = high' := by
  rw [← set_eq_set_iff]
  constructor
  · intro same
    -- What the blocks were can be read off the calibration.
    have lows := congrArg lowBlock same
    have highs := congrArg highBlock same
    rw [lowBlock_ofBlocks, lowBlock_ofBlocks] at lows
    rw [highBlock_ofBlocks, highBlock_ofBlocks] at highs
    exact ⟨lows, highs⟩
  · rintro ⟨lows, rfl⟩
    have decoded := congrArg ofLowBlock lows
    rw [ofLowBlock_set, ofLowBlock_set] at decoded
    rw [ofBlocks, ofBlocks, decoded]

/-- A calibration with two numbers of twelve bits is the content of one layout of the blocks, and
there is no other layout with the same content but for the byte of no meaning. The high block has
nothing to do with the words and the first parameter of humidity. -/
theorem blocks_exact :
    (∀ low high, (ofBlocks low high).TwelveBit) ∧
      (∀ c : Calibration, c.TwelveBit → ofBlocks c.lowBlock c.highBlock = c) ∧
      (∀ low high low' high', ofBlocks low high = ofBlocks low' high' ↔
        (∀ i (lt : i < 26), i ≠ 24 → low[i] = low'[i]) ∧ high = high') ∧
      ∀ (c : Calibration) (high : Vector UInt8 7),
        { c.withHighBlock high with h2 := c.h2, h3 := c.h3, h4 := c.h4, h5 := c.h5, h6 := c.h6 } =
          c :=
  ⟨fun low high => (ofLowBlock low).twelveBit_withHighBlock high, ofBlocks_blocks,
    fun low high low' high' => ofBlocks_eq_iff low low' high high', fun _ _ => rfl⟩

namespace SharedNibbles

def calibration : Calibration := { h1 := 75, h4 := -300, h5 := -50, h6 := -7 }

theorem unpacked :
    calibration.TwelveBit ∧ calibration.highBlock = #v[0, 0, 0, 0xED, 0xE4, 0xFC, 0xF9] ∧
      ofBlocks calibration.lowBlock calibration.highBlock = calibration := by
  have bits : calibration.TwelveBit := ⟨by decide, by decide⟩
  exact ⟨bits, by decide, blocks_exact.2.1 calibration bits⟩

end SharedNibbles

end Calibration

end SensorBus.Bme280
