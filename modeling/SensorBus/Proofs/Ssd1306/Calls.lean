import SensorBus.Proofs.I2c.Replies
import SensorBus.Proofs.Ssd1306.Commands

namespace SensorBus.Ssd1306

open I2c

inductive Call
  | ping
  | powerUp
  | displayOn (on : Bool)
  | contrast (level : UInt8)
  | inversion (inverted : Bool)
  | rotate (rotation : Rotation)
  | scroll (direction : ScrollDirection) (first last : UInt8) (interval : ScrollInterval)
  | stopScroll
  | command (opcode : UInt8) (arguments : List UInt8)
  | refresh
  | draw (pixels : List (Point × Bool))
  deriving DecidableEq

namespace Call

def attempt (device : Device) : Call → Attempt Unit
  | .ping => do
    let _ ← Ssd1306.ping device
  | .powerUp => Ssd1306.powerUp device
  | .displayOn on => setDisplayOn device on
  | .contrast level => setContrast device level
  | .inversion inverted => setInverted device inverted
  | .rotate rotation => setRotation device rotation
  | .scroll direction first last interval => startScroll device direction first last interval
  | .stopScroll => Ssd1306.stopScroll device
  | .command opcode arguments => writeRawCommand device opcode arguments
  | .refresh => writeDisplay device
  | .draw pixels => modify (·.draw pixels)

def operation (device : Device) (call : Call) : Operation interface Frame (Except Error Unit) :=
  (call.attempt device).run

def pixels : Call → List (Point × Bool)
  | .draw pixels => pixels
  | _ => []

def Sends : Call → Prop
  | .powerUp | .displayOn _ | .contrast _ | .inversion _ | .rotate _ | .scroll .. | .stopScroll =>
    True
  | .ping | .command .. | .refresh | .draw _ => False

def Comes : Call → Except Error Unit → Prop
  | .command _ arguments, result =>
    if maxArguments < arguments.length then
      result = .error (.bufferTooSmall (2 * (arguments.length + 1)) commandCapacity)
    else OfBus result
  | _, result => OfBus result

theorem Comes.ofBus {call : Call} {result : Except Error Unit} (comes : call.Comes result)
    (sends : call.Sends) : OfBus result := by
  cases call with
  | ping | command | refresh | draw => exact sends.elim
  | _ => exact comes

end Call

section

variable (device : Device) {frame : Frame}

theorem relays_writeRawCommand {opcode : UInt8} {arguments : List UInt8}
    (fits : arguments.length ≤ maxArguments) :
    Relays frame ((writeRawCommand device opcode arguments).run frame) := by
  rw [writeRawCommand_of_fits device fits]
  exact .write device _

theorem relays_send {instructions : List Instruction}
    (fit : ∀ instruction ∈ instructions, instruction.Fits) :
    Relays frame ((send device instructions).run frame) := by
  induction instructions with
  | nil => exact .pure ()
  | cons instruction rest ih =>
    obtain ⟨first, others⟩ := List.forall_mem_cons.1 fit
    exact .attempt (relays_writeRawCommand device first) fun _ => ih others

theorem relays_powerUp : Relays frame ((powerUp device).run frame) :=
  .attempt (relays_send device (by decide)) fun _ =>
    .attempt (relays_send device Instruction.fits_of_mem_rotate) fun _ =>
      relays_send device (by decide)

/-- By the calls that have ended: the frame is what they have drawn, and they came to what they may
come to. -/
structure Drawn (start : Frame) (done : List (Call × Except Error Unit)) (frame : Frame) :
    Prop where
  frame : frame = start.draw (done.flatMap fun ended => ended.1.pixels)
  comes : ∀ ended ∈ done, ended.1.Comes ended.2

theorem Drawn.append {start : Frame} {done : List (Call × Except Error Unit)} {call : Call}
    {result : Except Error Unit} (drawn : Drawn start done frame) (comes : call.Comes result) :
    Drawn start (done ++ [(call, result)]) (frame.draw call.pixels) where
  frame := by
    rw [drawn.frame, List.flatMap_append, List.flatMap_singleton]
    exact List.foldl_append.symm
  comes ended mem := by
    obtain mem | mem := List.mem_append.1 mem
    · exact drawn.comes ended mem
    · rw [List.mem_singleton.1 mem]
      exact comes

theorem Drawn.relayed {start : Frame} {done : List (Call × Except Error Unit)} {call : Call}
    (drawn : Drawn start done frame) (nothing : call.pixels = [])
    (relays : Relays frame (call.operation device frame))
    (comes : ∀ result, OfBus result → call.Comes result) :
    (call.operation device frame).Minds SharedBus.unseen.kind SharedBus.unseen.effect
      (fun frame _ => Drawn start done frame)
      (fun result frame _ => Drawn start (done ++ [(call, result)]) frame) () := by
  refine relays.mono ?_ ?_
  · rintro frame' - rfl
    exact drawn
  · rintro result frame' - ⟨ofBus, rfl⟩
    have ended := drawn.append (comes result ofBus)
    rwa [nothing] at ended

theorem keeps_drawn (start : Frame) : SharedBus.unseen.Keeps (Call.operation device)
    fun done frame _ => Drawn start done frame := by
  intro call done frame _ drawn
  cases call with
  | draw pixels =>
    have comes : Call.Comes (.draw pixels) (.ok ()) := trivial
    exact drawn.append comes
  | ping => exact drawn.relayed device rfl (.attempt (.ping device) fun _ => .pure ()) fun _ => id
  | powerUp => exact drawn.relayed device rfl (relays_powerUp device) fun _ => id
  | displayOn | inversion | stopScroll =>
    have fits : ([] : List UInt8).length ≤ maxArguments := Nat.zero_le _
    exact drawn.relayed device rfl (relays_writeRawCommand device fits) fun _ => id
  | contrast level =>
    have fits : [level].length ≤ maxArguments := Nat.le_add_left 1 5
    exact drawn.relayed device rfl (relays_writeRawCommand device fits) fun _ => id
  | rotate =>
    exact drawn.relayed device rfl (relays_send device Instruction.fits_of_mem_rotate) fun _ => id
  | scroll =>
    exact drawn.relayed device rfl (relays_send device Instruction.fits_of_mem_scroll) fun _ => id
  | refresh => exact drawn.relayed device rfl (.writePrefixed device _ _) fun _ => id
  | command opcode arguments =>
    by_cases many : maxArguments < arguments.length
    · have refused : Call.Comes (.command opcode arguments)
          (.error (.bufferTooSmall (2 * (1 + arguments.length)) commandCapacity)) := by
        rw [Call.Comes, if_pos many, Nat.add_comm]
      rw [Call.operation, Call.attempt, writeRawCommand_of_many device many]
      exact drawn.append refused
    · refine drawn.relayed device rfl (relays_writeRawCommand device (Nat.not_lt.1 many))
        fun result ofBus => ?_
      rwa [Call.Comes, if_neg many]

theorem run_drawn (frame : Frame) (shared : SharedBus)
    (steps : List (Rig.Step Call SharedBus fun _ _ => True)) :
    let start := Rig.rest SharedBus.medium frame shared
    Drawn frame (start.endings (Call.operation device) steps)
      (start.run (Call.operation device) steps).state := by
  have nothing : Drawn frame [] frame := ⟨rfl, fun _ mem => nomatch mem⟩
  have agrees : SharedBus.unseen.agrees () shared := trivial
  obtain ⟨-, -, drawn⟩ := Shadow.run_known (keeps_drawn device frame) (fun _ _ _ _ _ => trivial)
    agrees nothing steps
  exact drawn

theorem run_still (frame : Frame) (shared : SharedBus)
    {steps : List (Rig.Step Call SharedBus fun _ _ => True)}
    (still : ∀ s ∈ steps, s.Within fun call => call.pixels = []) :
    ((Rig.rest SharedBus.medium frame shared).run (Call.operation device) steps).state = frame := by
  have idle : (Rig.rest SharedBus.medium frame shared : Rig _ _ _ (Except Error Unit)).Among
      fun call : Call => call.pixels = [] :=
    ⟨fun _ eq => (nomatch eq), fun _ eq => nomatch eq⟩
  rw [(run_drawn device frame shared steps).frame, List.flatMap_eq_nil_iff.2 (idle.endings still)]
  rfl

end

/-- The bytes of a command: a control byte before its opcode and before each argument. -/
structure Encodes (opcode : UInt8) (arguments bytes : List UInt8) : Prop where
  length : bytes.length = 2 * (arguments.length + 1)
  control : ∀ i ≤ arguments.length, bytes[2 * i]? = some 0x80
  content : ∀ i, bytes[2 * i + 1]? = (opcode :: arguments)[i]?
  recovered : contents bytes = opcode :: arguments

theorem encodes_encoded (opcode : UInt8) (arguments : List UInt8) :
    Encodes opcode arguments (encoded (opcode :: arguments)) where
  length := length_encoded _
  control _ le := getElem?_encoded_even (Nat.lt_succ_of_le le)
  content := getElem?_encoded_odd _
  recovered := contents_encoded _

/-- A command with up to six arguments is one transaction, which writes its encoding; one with more
is refused at once, and nothing else changes. The commands of the driver's own choice are never
refused, whatever happens on the bus. -/
theorem commands_are_encoded_or_refused (device : Device) (opcode : UInt8) (arguments : List UInt8)
    (frame : Frame) (shared : SharedBus)
    (steps : List (Rig.Step Call SharedBus fun _ _ => True)) :
    let attempt := writeRawCommand device opcode arguments
    (arguments.length ≤ 6 → ∃ bytes, Encodes opcode arguments bytes ∧
      attempt = device.write bytes ∧
      exchanges (attempt.run frame) shared =
        [⟨frame, device.timing, device.sends bytes, shared⟩] ∧
      (device.sends bytes).sequence.segments = [.write bytes] ∧
      let came := attempt.run.run SharedBus.medium frame shared
      came.1 = (shared.master.bus.failure? device.address.raw 0).elim (.ok ()) (.error ∘ .i2c) ∧
      came.2.2.master.bus.log = device.ahead shared ++ device.exchanged
        (match came.1 with
          | .ok () => [.write bytes]
          | .error _ => [])) ∧
    (6 < arguments.length →
      let refused : Except Error Unit :=
        .error (.bufferTooSmall (2 * (arguments.length + 1)) 14)
      let fiber : BusFiber Frame (Except Error Unit) := .fresh frame attempt.run
      exchanges (attempt.run frame) shared = [] ∧
      fiber.poll shared = (some refused, .spent frame, shared) ∧
      fiber.finish shared = (some refused, .spent frame, shared)) ∧
    ∀ ended ∈ (Rig.rest SharedBus.medium frame shared).endings (Call.operation device) steps,
      ended.1.Sends → ∀ needed capacity, ended.2 ≠ .error (.bufferTooSmall needed capacity) := by
  intro attempt
  refine ⟨fun fits => ?_, fun many => ?_, fun ended mem sends needed capacity refused => ?_⟩
  · have whole : attempt = device.write (encoded (opcode :: arguments)) :=
      writeRawCommand_of_fits device fits
    rw [whole]
    refine ⟨_, encodes_encoded opcode arguments, rfl, rfl, device.sends_segments _, ?_⟩
    obtain ⟨after, came, passed⟩ :=
      device.write_comes shared (encoded (opcode :: arguments)) frame
    rw [came]
    refine ⟨rfl, (passed.log Nat.one_pos).trans ?_⟩
    cases shared.master.bus.failure? device.address.raw 0 <;> rfl
  · have whole : attempt = throw (.bufferTooSmall (2 * (arguments.length + 1)) 14) := by
      rw [Nat.add_comm]
      exact writeRawCommand_of_many device many
    rw [whole]
    exact ⟨rfl, rfl, rfl⟩
  · have ofBus := ((run_drawn device frame shared steps).comes ended mem).ofBus sends
    rw [refused] at ofBus
    obtain ⟨kind, wrong⟩ := ofBus
    cases wrong

end SensorBus.Ssd1306
