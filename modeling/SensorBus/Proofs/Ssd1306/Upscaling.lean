import SensorBus.Proofs.Checked
import SensorBus.Proofs.Ssd1306.Pixels
import SensorBus.Ssd1306.Image

namespace SensorBus.Ssd1306

section

variable {α β : Type} {f : α → List β} {size : Nat} (each : ∀ a, (f a).length = size)

include each

theorem length_blocks (l : List α) : (l.flatMap f).length = l.length * size := by
  induction l with
  | nil => exact (Nat.zero_mul size).symm
  | cons a l ih => rw [List.flatMap_cons, List.length_append, each, ih, List.length_cons,
      Nat.succ_mul, Nat.add_comm]

theorem block_of_blocks {l : List α} {i : Nat} {a : α} (here : l[i]? = some a) :
    ((l.flatMap f).drop (i * size)).take size = f a := by
  induction l generalizing i with
  | nil => cases here
  | cons b l ih =>
    rw [List.flatMap_cons]
    cases i with
    | zero =>
      cases here
      rw [Nat.zero_mul, List.drop_zero, List.take_left' (each a)]
    | succ i =>
      rw [Nat.succ_mul, Nat.add_comm, ← List.drop_drop, List.drop_left' (each b)]
      exact ih here

theorem getElem?_blocks {l : List α} {i j : Nat} {a : α} (here : l[i]? = some a)
    (lt : j < size) : (l.flatMap f)[i * size + j]? = (f a)[j]? := by
  rw [← block_of_blocks each here, List.getElem?_take_of_lt lt, List.getElem?_drop]

end

theorem Color.length_bytes (c : Color) : c.bytes.length = 3 := rfl

theorem Color.ofPixel_bytes_inj {on on' : Bool} (same : (ofPixel on).bytes = (ofPixel on').bytes) :
    on = on' := by
  revert on on'
  decide

namespace Frame

variable {frame other : Frame} {scale scale' : Nat} {image : Image}

theorem area_eq (scale : Nat) :
    width * scale * (height * scale) = 128 * 64 * (scale * scale) :=
  Nat.mul_mul_mul_comm width scale height scale

theorem render_eq_ok_iff : frame.render scale = .ok image ↔
    scale ≠ 0 ∧ IntRange.unsigned64.contains ((width * scale : Nat) * (height * scale : Nat)) ∧
      IntRange.unsigned64.contains ((width * scale : Nat) * (height * scale : Nat) * 3) ∧
      IntRange.signed64.contains ((width * scale : Nat) * (height * scale : Nat) * 3) ∧
      IntRange.unsigned32.contains (width * scale : Nat) ∧
      IntRange.unsigned32.contains (height * scale : Nat) ∧ frame.upscale scale = image := by
  by_cases zero : scale = 0
  · rw [render, if_pos zero]
    exact ⟨fun thrown => (nomatch thrown), fun fits => absurd zero fits.1⟩
  · rw [render, if_neg zero]
    simp only [IntRange.multiply, IntRange.check_bind_eq_ok_iff, Checked.unless_eq_ok_iff,
      Checked.pure_eq_ok, Except.ok.injEq, ne_eq, zero, not_false_eq_true, true_and]

theorem render_eq_upscale (pos : 1 ≤ scale) (short : 128 * 64 * 3 * scale * scale ≤ 2 ^ 63 - 1)
    (narrow : 128 * scale ≤ 2 ^ 32 - 1) : frame.render scale = .ok (frame.upscale scale) := by
  rw [Nat.mul_assoc _ scale] at short
  have area : ((width * scale : Nat) * (height * scale : Nat) : Int) =
      (128 * 64 * (scale * scale) : Nat) := by
    rw [← Int.natCast_mul, area_eq]
  have wide : width * scale ≤ 2 ^ 32 - 1 := narrow
  have tall : height * scale ≤ width * scale := Nat.mul_le_mul_right scale (by decide)
  refine render_eq_ok_iff.2 ⟨Nat.ne_of_gt pos, ?_, ?_, ?_, ?_, ?_, rfl⟩ <;>
    simp only [IntRange.contains_iff, area, IntRange.unsigned64, IntRange.signed64,
      IntRange.unsigned32] <;>
    omega

theorem eq_upscale_of_render (rendered : frame.render scale = .ok image) :
    0 < scale ∧ image = frame.upscale scale := by
  obtain ⟨nonzero, -, -, -, -, -, whole⟩ := render_eq_ok_iff.1 rendered
  exact ⟨Nat.pos_of_ne_zero nonzero, whole.symm⟩

theorem getElem?_upscale_pixels (frame : Frame) {x y : Nat} (lt : x < width * scale)
    (lt' : y < height * scale) : (frame.upscale scale).pixels[y * (width * scale) + x]? =
      some (.ofPixel (frame.pixel (x / scale) (y / scale))) := by
  have each (y : Nat) : ((List.range (width * scale)).map fun x =>
      Color.ofPixel (frame.pixel (x / scale) (y / scale))).length = width * scale := by simp
  have row : (List.range (height * scale))[y]? = some y := List.getElem?_range lt'
  rw [upscale, getElem?_blocks each row lt, List.getElem?_map, List.getElem?_range lt]
  rfl

theorem upscale_bytes (frame : Frame) {x y : Nat} (lt : x < width * scale)
    (lt' : y < height * scale) :
    ((frame.upscale scale).bytes.drop (3 * (y * (width * scale) + x))).take 3 =
      (Color.ofPixel (frame.pixel (x / scale) (y / scale))).bytes := by
  rw [Nat.mul_comm 3]
  exact block_of_blocks Color.length_bytes (frame.getElem?_upscale_pixels lt lt')

theorem length_upscale_bytes (frame : Frame) (scale : Nat) :
    (frame.upscale scale).bytes.length = width * scale * (height * scale) * 3 := by
  have pixels : (frame.upscale scale).pixels.length = height * scale * (width * scale) := by
    have each (y : Nat) : ((List.range (width * scale)).map fun x =>
        Color.ofPixel (frame.pixel (x / scale) (y / scale))).length = width * scale := by simp
    rw [upscale, length_blocks each, List.length_range]
  rw [Image.bytes, length_blocks Color.length_bytes, pixels, Nat.mul_comm (height * scale)]

theorem eq_of_upscale_bytes (pos : 0 < scale)
    (same : (other.upscale scale').bytes = (frame.upscale scale).bytes) : other = frame := by
  have length := congrArg List.length same
  rw [length_upscale_bytes, length_upscale_bytes] at length
  have square : scale' * scale' = scale * scale := by
    rw [area_eq, area_eq] at length
    omega
  have scale_eq : scale' = scale := Nat.mul_self_inj.1 square
  subst scale_eq
  refine eq_of_pixel fun x lt y lt' => ?_
  have left : x * scale' < width * scale' := Nat.mul_lt_mul_of_pos_right lt pos
  have top : y * scale' < height * scale' := Nat.mul_lt_mul_of_pos_right lt' pos
  have colors := other.upscale_bytes left top
  rw [same, frame.upscale_bytes left top, Nat.mul_div_cancel x pos, Nat.mul_div_cancel y pos]
    at colors
  exact (Color.ofPixel_bytes_inj colors).symm

/-- At every scale for which the picture is not too large there is one, of that many times the
size, on which each pixel has the colour of the one of the frame that it came from. No other frame
has that picture. -/
theorem pictures_are_exact (frame : Frame) {scale : Nat} (pos : 1 ≤ scale)
    (short : 128 * 64 * 3 * scale * scale ≤ 2 ^ 63 - 1) (narrow : 128 * scale ≤ 2 ^ 32 - 1) :
    ∃ image, frame.render scale = .ok image ∧
      image.width = 128 * scale ∧ image.height = 64 * scale ∧
      image.bytes.length = 128 * scale * (64 * scale) * 3 ∧
      (∀ x < 128 * scale, ∀ y < 64 * scale,
        (image.bytes.drop (3 * (y * (128 * scale) + x))).take 3 =
          if frame.pixel (x / scale) (y / scale) then [0x9C, 0xDC, 0xFE] else [0, 0, 0]) ∧
      ∀ (other : Frame) (scale' : Nat) (image' : Image), other.render scale' = .ok image' →
        image'.bytes = image.bytes → other = frame := by
  refine ⟨_, render_eq_upscale pos short narrow, rfl, rfl, frame.length_upscale_bytes scale,
    fun x lt y lt' => ?_, fun other scale' image' rendered same => ?_⟩
  · refine (frame.upscale_bytes lt lt').trans ?_
    cases frame.pixel (x / scale) (y / scale) <;> rfl
  · obtain ⟨-, rfl⟩ := eq_upscale_of_render rendered
    exact eq_of_upscale_bytes pos same

theorem dot_is_doubled : ∃ image, (({} : Frame).setPixel 5 9 true).render 2 = .ok image ∧
    image.width = 256 ∧ image.height = 128 ∧ image.bytes.length = 98304 ∧
    (image.bytes.drop (3 * (19 * 256 + 10))).take 3 = [0x9C, 0xDC, 0xFE] ∧
    (image.bytes.drop (3 * (19 * 256 + 12))).take 3 = [0, 0, 0] := by
  have pos : 1 ≤ 2 := Nat.le_succ 1
  have short : 128 * 64 * 3 * 2 * 2 ≤ 2 ^ 63 - 1 := by decide
  have narrow : 128 * 2 ≤ 2 ^ 32 - 1 := by decide
  obtain ⟨image, rendered, wide, tall, length, colors, -⟩ :=
    pictures_are_exact (({} : Frame).setPixel 5 9 true) pos short narrow
  exact ⟨image, rendered, wide, tall, length, colors 10 (by decide) 19 (by decide),
    colors 12 (by decide) 19 (by decide)⟩

end Frame

end SensorBus.Ssd1306
