import SensorBus.Proofs.Bits
import SensorBus.Ssd1306.Frame

namespace SensorBus.Ssd1306

theorem toBitVec_mask {k : Nat} (lt : k < 8) :
    ((1 : UInt8) <<< UInt8.ofNat k).toBitVec = BitVec.twoPow 8 k := by
  have each : ∀ k : Fin 8, ((1 : UInt8) <<< UInt8.ofNat k).toBitVec = BitVec.twoPow 8 k := by
    decide
  exact each ⟨k, lt⟩

section

variable {byte : UInt8} {j k : Nat}

theorem and_mask_ne_zero (lt : k < 8) :
    (byte &&& 1 <<< UInt8.ofNat k != 0) = byte.toBitVec.getLsbD k := by
  have chosen : (byte &&& 1 <<< UInt8.ofNat k).toBitVec =
      if byte.toBitVec.getLsbD k then BitVec.twoPow 8 k else 0#8 := by
    rw [UInt8.toBitVec_and, toBitVec_mask lt, BitVec.and_twoPow]
  have nonzero : BitVec.twoPow 8 k ≠ 0#8 := by
    intro zero
    have bit := congrArg (·.getLsbD k) zero
    simp [lt] at bit
  have same : (byte &&& 1 <<< UInt8.ofNat k = 0) ↔ byte.toBitVec.getLsbD k = false := by
    rw [← UInt8.toBitVec_inj, chosen]
    cases byte.toBitVec.getLsbD k <;> simp [nonzero]
  rw [bne, Bool.eq_iff_iff]
  simp [same]

theorem getLsbD_write (lt : j < 8) (lt' : k < 8) (on : Bool) :
    (if on then byte ||| 1 <<< UInt8.ofNat k
      else byte &&& ~~~(1 <<< UInt8.ofNat k)).toBitVec.getLsbD j =
      if k = j then on else byte.toBitVec.getLsbD j := by
  have mask : (1 <<< UInt8.ofNat k : UInt8).toBitVec.getLsbD j = decide (k = j) := by
    rw [toBitVec_mask lt', BitVec.getLsbD_twoPow]
    simp [lt']
  cases on with
  | true =>
    rw [if_pos rfl, UInt8.toBitVec_or, BitVec.getLsbD_or, mask]
    by_cases same : k = j <;> simp [same]
  | false =>
    rw [if_neg Bool.false_ne_true, UInt8.toBitVec_and, UInt8.toBitVec_not, BitVec.getLsbD_and,
      BitVec.getLsbD_not, mask]
    by_cases same : k = j <;> simp [same, lt]

end

namespace Frame

variable {frame frame' : Frame} {x y x' y' : Nat}

theorem locate?_of_lt (lt : x < width) (lt' : y < height) :
    ∃ i : Fin 1024, i.val = y / 8 * width + x ∧
      locate? x y = some (i, 1 <<< UInt8.ofNat (y % 8)) := by
  have inside : x < 128 ∧ y < 64 := ⟨lt, lt'⟩
  exact ⟨⟨y / 8 * 128 + x, by omega⟩, rfl, by rw [locate?, dif_pos inside]⟩

theorem locate?_of_le (off : width ≤ x ∨ height ≤ y) : locate? x y = none := by
  have outside : ¬ (x < 128 ∧ y < 64) := fun inside =>
    off.elim (Nat.not_le_of_lt inside.1) (Nat.not_le_of_lt inside.2)
  rw [locate?, dif_neg outside]

theorem place_inj (lt : x < width) (lt' : x' < width) (y y' : Nat) :
    y / 8 * width + x = y' / 8 * width + x' ∧ y % 8 = y' % 8 ↔ x = x' ∧ y = y' := by
  unfold width at *
  omega

theorem pixel_of_le (frame : Frame) (off : width ≤ x ∨ height ≤ y) :
    frame.pixel x y = false := by
  simp only [pixel, locate?_of_le off]

theorem setPixel_of_le (frame : Frame) (off : width ≤ x ∨ height ≤ y) (on : Bool) :
    frame.setPixel x y on = frame := by
  simp only [setPixel, locate?_of_le off]

theorem pixel_eq_getLsbD (frame : Frame) (lt : x < width) (lt' : y < height) :
    ∃ byte, frame.bytes.toList[y / 8 * width + x]? = some byte ∧
      frame.pixel x y = byte.toBitVec.getLsbD (y % 8) := by
  obtain ⟨i, place, located⟩ := locate?_of_lt lt lt'
  refine ⟨frame.bytes[i], ?_, ?_⟩
  · rw [← place]
    simp
  · simp only [pixel, located]
    exact and_mask_ne_zero (Nat.mod_lt y (by decide))

theorem pixel_setPixel (frame : Frame) (on : Bool) (lt : x < width) (lt' : y < height) :
    (frame.setPixel x' y' on).pixel x y = if x' = x ∧ y' = y then on else frame.pixel x y := by
  by_cases off : width ≤ x' ∨ height ≤ y'
  · have apart : ¬ (x' = x ∧ y' = y) := by omega
    rw [setPixel_of_le frame off, if_neg apart]
  · obtain ⟨inside, inside'⟩ := not_or.1 off
    obtain ⟨i, place, located⟩ := locate?_of_lt lt lt'
    obtain ⟨i', place', located'⟩ := locate?_of_lt (Nat.not_le.1 inside) (Nat.not_le.1 inside')
    have bit : y % 8 < 8 := Nat.mod_lt y (by decide)
    have bit' : y' % 8 < 8 := Nat.mod_lt y' (by decide)
    have one := place_inj (Nat.not_le.1 inside) lt y' y
    rw [← place, ← place', Fin.val_inj] at one
    by_cases same : i' = i
    · subst same
      simp only [setPixel, pixel, located, located', and_mask_ne_zero bit, Fin.getElem_fin,
        Vector.getElem_set_self, getLsbD_write bit bit', ← one, true_and]
    · have apart : i'.val ≠ i.val := fun eq => same (Fin.ext eq)
      simp only [setPixel, pixel, located, located', Fin.getElem_fin,
        Vector.getElem_set_ne _ _ apart, ← one, same, false_and, if_false]

theorem eq_of_pixel (same : ∀ x < width, ∀ y < height, frame.pixel x y = frame'.pixel x y) :
    frame = frame' := by
  obtain ⟨bytes⟩ := frame
  obtain ⟨bytes'⟩ := frame'
  congr 1
  ext1 i lt
  apply byte_ext
  intro k bit
  -- The bit is that of row `8 * (i / 128) + k` in column `i % 128`.
  have column : i % 128 < width := Nat.mod_lt i (by decide)
  have row : 8 * (i / 128) + k < height := by
    unfold height
    omega
  have byte : (8 * (i / 128) + k) / 8 * width + i % 128 = i := by
    unfold width
    omega
  have place : (8 * (i / 128) + k) % 8 = k := by omega
  have read (bytes : Vector UInt8 1024) :
      (Frame.mk bytes).pixel (i % 128) (8 * (i / 128) + k) = bytes[i].toBitVec[k] := by
    obtain ⟨found, here, pixel⟩ := pixel_eq_getLsbD ⟨bytes⟩ column row
    rw [byte] at here
    have found : found = bytes[i] := by simpa [lt] using here.symm
    rw [pixel, place, found, BitVec.getLsbD_eq_getElem]
  rw [← read, ← read]
  exact same _ column _ row

end Frame

def Point.OnPanel (p : Point) : Prop := 0 ≤ p.x ∧ p.x < width ∧ 0 ≤ p.y ∧ p.y < height

instance (p : Point) : Decidable p.OnPanel := inferInstanceAs (Decidable (_ ∧ _))

/-- The colour of the last entry at a point. -/
def lastColor? (pixels : List (Point × Bool)) (p : Point) : Option Bool :=
  (pixels.filterMap fun (q, on) => if q = p then some on else none).getLast?

theorem lastColor?_cons (entry : Point × Bool) (pixels : List (Point × Bool)) (p : Point) :
    lastColor? (entry :: pixels) p =
      (lastColor? pixels p).or (if entry.1 = p then some entry.2 else none) := by
  simp only [lastColor?, List.filterMap_cons]
  split
  · next absent => simp [absent]
  · next on present => simp [present, List.getLast?_cons, Option.or_some]

namespace Frame

variable {p : Point} {x y : Nat}

theorem drawPixel_of_off (frame : Frame) (off : ¬ p.OnPanel) (on : Bool) :
    frame.drawPixel p on = frame := by
  unfold drawPixel
  split
  · next positive =>
    refine setPixel_of_le frame ?_ on
    unfold Point.OnPanel at off
    omega
  · rfl

theorem pixel_drawPixel (frame : Frame) (on : Bool) (lt : x < width) (lt' : y < height) :
    (frame.drawPixel p on).pixel x y = if p = ⟨x, y⟩ then on else frame.pixel x y := by
  obtain ⟨px, py⟩ := p
  unfold drawPixel
  split
  · next positive =>
    obtain ⟨left, top⟩ : 0 ≤ px ∧ 0 ≤ py := positive
    have here : px.toNat = x ∧ py.toNat = y ↔ Point.mk px py = ⟨x, y⟩ := by
      rw [Point.mk.injEq]
      omega
    simp only [pixel_setPixel frame on lt lt', here]
  · next negative =>
    have negative : ¬ (0 ≤ px ∧ 0 ≤ py) := negative
    have elsewhere : Point.mk px py ≠ ⟨x, y⟩ := by
      rw [Ne, Point.mk.injEq]
      omega
    rw [if_neg elsewhere]

theorem pixel_draw (frame : Frame) (pixels : List (Point × Bool)) (lt : x < width)
    (lt' : y < height) :
    (frame.draw pixels).pixel x y = (lastColor? pixels ⟨x, y⟩).getD (frame.pixel x y) := by
  induction pixels generalizing frame with
  | nil => rfl
  | cons entry rest ih =>
    have first : frame.draw (entry :: rest) = (frame.drawPixel entry.1 entry.2).draw rest := rfl
    rw [first, ih, pixel_drawPixel frame entry.2 lt lt', lastColor?_cons]
    cases lastColor? rest ⟨x, y⟩ with
    | some on => rfl
    | none => split <;> rfl

theorem draw_filter (frame : Frame) (pixels : List (Point × Bool)) :
    frame.draw (pixels.filter fun (p, _) => p.OnPanel) = frame.draw pixels := by
  induction pixels generalizing frame with
  | nil => rfl
  | cons entry rest ih =>
    have first : frame.draw (entry :: rest) = (frame.drawPixel entry.1 entry.2).draw rest := rfl
    rw [first]
    by_cases inside : entry.1.OnPanel
    · rw [List.filter_cons_of_pos (by simpa using inside)]
      exact ih _
    · rw [List.filter_cons_of_neg (by simpa using inside), drawPixel_of_off frame inside]
      exact ih frame

end Frame

end SensorBus.Ssd1306
