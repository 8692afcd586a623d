import SensorBus.Proofs.Ssd1306.Calls
import SensorBus.Proofs.Ssd1306.Pixels

namespace SensorBus.Ssd1306

open I2c

/-- The bytes have one bit for each pixel: row `y` of column `x` in bit `y % 8` of the byte at
`(y / 8) * 128 + x`. -/
structure Frame.Shows (frame : Frame) (payload : List UInt8) : Prop where
  length : payload.length = 1024
  bit : ∀ x < width, ∀ y < height, ∃ byte, payload[y / 8 * 128 + x]? = some byte ∧
    byte.toNat.testBit (y % 8) = frame.pixel x y

namespace Frame

variable {frame other : Frame} {payload : List UInt8}

theorem shows_bytes (frame : Frame) : frame.Shows frame.bytes.toList where
  length := frame.bytes.length_toList
  bit x lt y lt' := by
    obtain ⟨byte, here, bit⟩ := frame.pixel_eq_getLsbD lt lt'
    exact ⟨byte, here, bit.symm⟩

theorem Shows.unique (shows : frame.Shows payload) (shows' : other.Shows payload) :
    other = frame := by
  refine eq_of_pixel fun x lt y lt' => ?_
  obtain ⟨byte, here, bit⟩ := shows.bit x lt y lt'
  obtain ⟨byte', here', bit'⟩ := shows'.bit x lt y lt'
  cases here.symm.trans here'
  exact bit'.symm.trans bit

end Frame

def Frame.sending (device : Device) (frame : Frame) : Transaction :=
  { address := device.address, body := .write [controlData] frame.bytes.toList }

theorem Frame.sending_segments (device : Device) (frame : Frame) :
    (frame.sending device).sequence.segments =
      [.write [0x40], .write frame.bytes.toList] := by
  have long : frame.bytes.toList ≠ [] := List.ne_nil_of_length_pos (by simp)
  obtain ⟨byte, rest, eq⟩ := List.exists_cons_of_ne_nil long
  rw [sending, eq]
  rfl

section

variable (device : Device) (frame : Frame) (master : Master)

theorem run_writeDisplay (shared : SharedBus) :
    (writeDisplay device).run.run SharedBus.medium frame shared =
      let performed :=
        SharedBus.medium.perform (.transact device.timing (frame.sending device)) shared
      (performed.1.1, frame, performed.2) := rfl

theorem writeDisplay_ok {target : Target} (finds : device.Finds { master } target) :
    ((writeDisplay device).run.carryOut SharedBus.medium none frame { master }).1 =
      .value (.ok ()) := by
  obtain ⟨after, performed, -⟩ :=
    finds.performs rfl rfl rfl (frame.sending_segments device)
  have ran := run_writeDisplay device frame { master }
  rw [performed] at ran
  exact congrArg (fun came => Job.Ending.value came.1) ran

theorem writeDisplay_log (polls : Option Nat)
    (ok : ((writeDisplay device).run.carryOut SharedBus.medium polls frame { master }).1.result? =
      some (.ok ())) :
    ((writeDisplay device).run.carryOut SharedBus.medium polls frame
      { master }).2.2.master.bus.log =
      device.ahead { master } ++ device.exchanged [.write [0x40], .write frame.bytes.toList] := by
  have ran := run_writeDisplay device frame { master }
  have events : (frame.sending device).events = [.write [0x40], .write frame.bytes.toList] := by
    rw [Transaction.events, frame.sending_segments device]
    rfl
  have alone : SharedBus.Alone master.bus.yields master.bus.delaysSuspend { master } :=
    ⟨rfl, rfl, rfl⟩
  obtain ⟨result, left⟩ | stopped | ⟨_, _, _, _, -, -, stopped⟩ :=
    (SharedBus.punctual _ _).carryOut (writeDisplay device).run frame { master } alone polls
  · rw [result, ran] at ok
    rw [left, ran, ← events]
    exact master.run_log device.timing rfl rfl (Option.some.inj ok)
  · rw [stopped] at ok
    cases ok
  · rw [stopped] at ok
    cases ok

end

/-- Each pixel of the panel has the colour that was drawn last at its point, or the one it had; what
lies off the panel makes no difference, and is dark. A display that is refreshed is sent, in one
transaction, the pixels and nothing but them, unless that fails, for which it takes a fault or a
missing target. Whatever happens on the bus, the frame stays as it is as long as nothing is drawn.
-/
theorem last_drawn_is_shown (device : Device) (frame : Frame) (pixels : List (Point × Bool))
    (master : Master) (polls : Option Nat) (shared : SharedBus)
    (steps : List (Rig.Step Call SharedBus fun _ _ => True)) :
    let drawn := frame.draw pixels
    (∀ x < 128, ∀ y < 64,
      drawn.pixel x y = (lastColor? pixels ⟨x, y⟩).getD (frame.pixel x y)) ∧
    frame.draw (pixels.filter fun (p, _) => p.OnPanel) = drawn ∧
    (∀ x y, 128 ≤ x ∨ 64 ≤ y → drawn.pixel x y = false) ∧
    (∃ payload, drawn.Shows payload ∧ (∀ other : Frame, other.Shows payload → other = drawn) ∧
      let came := (writeDisplay device).run.carryOut SharedBus.medium polls drawn { master }
      came.1.result? = some (.ok ()) →
        came.2.2.master.bus.log =
          device.ahead { master } ++ device.exchanged [.write [0x40], .write payload]) ∧
    (∀ target, device.Finds { master } target →
      ((writeDisplay device).run.carryOut SharedBus.medium none drawn { master }).1 =
        .value (.ok ())) ∧
    ((∀ s ∈ steps, s.Within fun call => call.pixels = []) →
      ((Rig.rest SharedBus.medium drawn shared).run (Call.operation device) steps).state =
        drawn) := by
  intro drawn
  refine ⟨fun x lt y lt' => frame.pixel_draw pixels lt lt', frame.draw_filter pixels,
    fun x y off => drawn.pixel_of_le off, ?_, fun target => writeDisplay_ok device drawn master,
    run_still device drawn shared⟩
  have shows := drawn.shows_bytes
  exact ⟨_, shows, fun other => shows.unique, writeDisplay_log device drawn master polls⟩

end SensorBus.Ssd1306
