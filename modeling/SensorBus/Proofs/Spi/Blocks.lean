import SensorBus.Proofs.Job.Discipline
import SensorBus.Proofs.Spi.Turn

namespace SensorBus.Spi

/-- How the turn of a transaction ends whose chip was selected: not yet, by dropping it, or with
the flush behind its calls. Either end deselects the chip once. -/
inductive Ending
  | pending
  | cut (taken : Bool)
  | whole (flushed : Except ErrorKind Unit) (taken : Bool)

def Ending.attempts (chip : UInt8) : Ending → List Attempt
  | .pending => []
  | .cut taken => [.deselect chip taken]
  | .whole flushed taken => [.flush flushed, .deselect chip taken]

inductive Block
  | unselected (device : Device) (applied : Option Mode)
  | selected (device : Device) (applied : Option Mode) (called : List Called) (ending : Ending)

namespace Block

def attempts : Block → List Attempt
  | .unselected device applied =>
    applied.toList.map .configure ++ [.select device.chip false]
  | .selected device applied called ending =>
    applied.toList.map .configure ++ [.select device.chip true] ++
      called.map Called.attempt ++ ending.attempts device.chip

def isPending : Block → Bool
  | .selected _ _ _ .pending => true
  | _ => false

end Block

/-- A transaction with a delay leaves nothing. Any other leaves one block: of the selecting edge
alone if the pin does not take it, else of the calls up to the first that fails, one flush and the
deselecting edge. -/
inductive Leaves : (r : Request) → interface.Reply r → List Block → Prop
  | rejected {device : Device} {transfers : List Transfer}
      (delayed : transfers.any Transfer.isDelay = true) :
      Leaves (.transact device transfers) (.error .delayNotSupported, transfers) []
  | unselected {device : Device} {transfers : List Transfer} {applied : Option Mode}
      (plain : transfers.any Transfer.isDelay = false)
      (applies : applied = none ∨ applied = device.mode) :
      Leaves (.transact device transfers) (.error (.pin .other), transfers)
        [.unselected device applied]
  | whole {device : Device} {transfers : List Transfer} {applied : Option Mode}
      {called : List Called} {result flushed : Except ErrorKind Unit} {taken : Bool}
      {outcome : Outcome} (plain : transfers.any Transfer.isDelay = false)
      (applies : applied = none ∨ applied = device.mode) (ran : Ran transfers called result)
      (sums : Sums result flushed taken outcome.1) :
      Leaves (.transact device transfers) outcome
        [.selected device applied called (.whole flushed taken)]

inductive Midway (Ends : Ending → Prop) : (r : Request) → Turn → List Block → Prop
  | waiting {device : Device} {transfers : List Transfer}
      (plain : transfers.any Transfer.isDelay = false) :
      Midway Ends (.transact device transfers) (.waiting device transfers) []
  | holding {device : Device} {transfers : List Transfer} {applied : Option Mode}
      {called : List Called} {stage : Stage} {left : Nat} {ending : Ending}
      (plain : transfers.any Transfer.isDelay = false)
      (applies : applied = none ∨ applied = device.mode)
      (reached : stage.Reached transfers called) (ends : Ends ending) :
      Midway Ends (.transact device transfers) (.holding ⟨device.chip, stage, left⟩)
        [.selected device applied called ending]

def Turn.isHolding : Turn → Bool
  | .waiting .. => false
  | .holding _ => true

def SharedBus.discipline : Discipline SharedBus.medium Block Attempt where
  leaves := Leaves
  midway := Midway (· = .pending)
  dropped := Midway fun ending => ∃ taken, ending = .cut taken
  holds _ flight := Turn.isHolding flight
  locked := SharedBus.locked
  events := Block.attempts
  record origin attempts shared := origin.bus.History attempts shared.bus

/-- What may happen to a shared bus between the polls: the bus changes in any way but for its log,
or the applied mode is forgotten, which takes the lock. -/
inductive Intervention
  | change (f : Bus → Bus)
  | reset

namespace SharedBus

def intervene : Intervention → SharedBus → SharedBus
  | .change f, shared => { shared with bus := { f shared.bus with log := shared.bus.log } }
  | .reset, shared => if shared.locked then shared else shared.reset

theorem intervene_quiet (intervention : Intervention) (shared : SharedBus) :
    (shared.intervene intervention).bus.log = shared.bus.log ∧
      (shared.intervene intervention).locked = shared.locked := by
  cases intervention with
  | change f => exact ⟨rfl, rfl⟩
  | reset =>
    simp only [intervene]
    split <;> exact ⟨rfl, rfl⟩

section

variable {shared shared' : SharedBus} {device : Device} {transfers : List Transfer}
  {applied : Option Mode} {called : List Called}

theorem carried_block {polled : Poll Selected Outcome × Bus}
    (plain : transfers.any Transfer.isDelay = false)
    (applies : applied = none ∨ applied = device.mode)
    (carried : Carried shared.bus device.chip transfers called polled) : ∃ block tail,
      block.attempts = (Block.selected device applied called .pending).attempts ++ tail ∧
      shared.bus.History tail (Turn.ofPoll shared polled).2.bus ∧
      discipline.answers (.transact device transfers) (Turn.ofPoll shared polled).1 [block] ∧
      (Turn.ofPoll shared polled).2.locked =
        discipline.keeps (.transact device transfers) (Turn.ofPoll shared polled).1 := by
  cases carried with
  | @suspended more stage left bus history reached =>
    refine ⟨.selected device applied (called ++ more) .pending, more.map Called.attempt, ?_,
      history, .holding plain applies reached rfl, rfl⟩
    simp [Block.attempts, Ending.attempts]
  | @closed more result flushed taken outcome bus history ran sums =>
    refine ⟨.selected device applied (called ++ more) (.whole flushed taken), _, ?_, history,
      .whole plain applies ran sums, rfl⟩
    simp [Block.attempts, Ending.attempts]

theorem waiting_goes {answer : Poll Turn Outcome}
    (polled : (Turn.waiting device transfers).poll shared = (answer, shared')) :
    discipline.Goes false [] shared shared' (discipline.keeps (.transact device transfers) answer)
      (discipline.answers (.transact device transfers) answer) := by
  have waited := Turn.poll_waiting shared device transfers
  generalize (Turn.waiting device transfers).poll shared = whole at waited polled
  cases waited with
  | rejected delayed =>
    cases polled
    exact .quietly rfl (.rejected delayed) rfl .nil
  | held plain locked =>
    cases polled
    exact .quietly rfl (.waiting plain) rfl .nil
  | unselected plain free applies history still =>
    cases polled
    exact .begins free (.unselected plain applies) still history
  | @selected applied middle carried plain free applies history carries =>
    obtain ⟨block, tail, events, more, answers, locked⟩ := carried_block plain applies carries
    rw [polled] at more answers locked
    refine .begins free answers locked ?_
    change shared.bus.History block.attempts shared'.bus
    rw [events]
    exact .trans (by simpa [Block.attempts, Ending.attempts] using history) more

theorem holding_goes {stage : Stage} {left : Nat} {answer : Poll Turn Outcome}
    (plain : transfers.any Transfer.isDelay = false)
    (applies : applied = none ∨ applied = device.mode) (reached : stage.Reached transfers called)
    (polled : (Turn.holding ⟨device.chip, stage, left⟩).poll shared = (answer, shared')) :
    discipline.Goes true [.selected device applied called .pending] shared shared'
      (discipline.keeps (.transact device transfers) answer)
      (discipline.answers (.transact device transfers) answer) := by
  cases left with
  | zero =>
    obtain ⟨block, tail, events, more, answers, locked⟩ :=
      carried_block plain applies (shared.bus.resume_carried reached)
    have polled : Turn.ofPoll shared (shared.bus.resume device.chip stage) = (answer, shared') :=
      polled
    rw [polled] at more answers locked
    exact .goesOn rfl (List.nil_append _).symm answers events locked more
  | succ left =>
    cases polled
    exact .quietly rfl (.holding plain applies reached rfl) rfl .nil

end

theorem lawful : discipline.Lawful SharedBus.intervene where
  nothing _ := .nil
  trans first second := first.trans second
  launch r := by
    cases r
    rfl
  poll r flight written shared answer shared' stands polled := by
    obtain ⟨rfl, rfl⟩ | midway := stands
    · cases r with
      | transact device transfers => exact waiting_goes polled
    · cases midway with
      | waiting plain => exact waiting_goes polled
      | holding plain applies reached ends =>
        cases ends
        exact holding_goes plain applies reached polled
  drop r flight written shared midway := by
    cases midway with
    | waiting plain => exact .quietly rfl (.waiting plain) rfl .nil
    | @holding device transfers applied called stage left ending plain applies reached ends =>
      cases ends
      refine .goesOn rfl (List.nil_append _).symm
        (.holding plain applies reached ⟨(shared.bus.deselect device.chip).1, rfl⟩) ?_ rfl
        (.single (.deselect shared.bus device.chip))
      simp [discipline, Block.attempts, Ending.attempts]
  act intervention shared := (shared.intervene_quiet intervention).2

end SharedBus

section

variable {σ α : Type} {start p : Progress interface σ α} {blocks : List Block}

theorem Leaves.closed {r : Request} {reply : interface.Reply r} (leaves : Leaves r reply blocks) :
    ∀ block ∈ blocks, block.isPending = false := by
  cases leaves with
  | rejected => exact fun _ mem => nomatch mem
  | unselected | whole =>
    intro block mem
    cases List.mem_singleton.1 mem
    rfl

theorem closed_of_transcript (transcript : Transcript Leaves start blocks p) :
    ∀ block ∈ blocks, block.isPending = false :=
  transcript.forall_mem start.asks_any fun _ _ _ _ leaves => leaves.closed

theorem closed_or_holds {member : Member (Fiber SharedBus.medium σ α) α}
    (kept : SharedBus.discipline.Kept start member blocks) :
    SharedBus.discipline.memberHolds member = false ∧ (∀ block ∈ blocks, block.isPending = false) ∨
      SharedBus.discipline.memberHolds member = true ∧ ∃ past block, blocks = past ++ [block] ∧
        block.isPending = true ∧ ∀ block ∈ past, block.isPending = false := by
  cases member with
  | ended job value =>
    obtain ⟨state, transcript⟩ := kept
    exact .inl ⟨rfl, closed_of_transcript transcript⟩
  | live fiber =>
    cases fiber with
    | fresh => exact .inl ⟨rfl, closed_of_transcript kept⟩
    | spent => cases kept
    | asking state r flight next =>
      obtain ⟨past, written, rfl, transcript, midway⟩ := kept
      cases midway with
      | waiting =>
        rw [List.append_nil]
        exact .inl ⟨rfl, closed_of_transcript transcript⟩
      | holding plain applies reached ends =>
        cases ends
        exact .inr ⟨rfl, past, _, rfl, rfl, closed_of_transcript transcript⟩
  | dropped fiber =>
    refine .inl ⟨rfl, ?_⟩
    cases fiber with
    | fresh => exact closed_of_transcript kept
    | spent => cases kept
    | asking state r flight next =>
      obtain ⟨past, written, rfl, transcript, midway⟩ := kept
      intro block mem
      obtain mem | mem := List.mem_append.1 mem
      · exact closed_of_transcript transcript block mem
      · cases midway with
        | waiting => cases mem
        | holding plain applies reached ends =>
          obtain ⟨taken, rfl⟩ := ends
          cases List.mem_singleton.1 mem
          rfl

end

end SensorBus.Spi
