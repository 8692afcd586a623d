import SensorBus.Proofs.Spi.History
import SensorBus.Spi.SharedBus

namespace SensorBus.Spi

abbrev Called := Transfer × Except ErrorKind Unit

def Called.attempt (called : Called) : Attempt := .call called.1 called.2

def passed (transfers : List Transfer) : List Called := transfers.map (·, .ok ())

@[simp] theorem passed_append (first second : List Transfer) :
    passed (first ++ second) = passed first ++ passed second :=
  List.map_append

/-- The calls of these operations, up to the first that fails, and what they come to. -/
inductive Ran : List Transfer → List Called → Except ErrorKind Unit → Prop
  | through (transfers : List Transfer) : Ran transfers (passed transfers) (.ok ())
  | stopped (past : List Transfer) (transfer : Transfer) (rest : List Transfer) (kind : ErrorKind) :
      Ran (past ++ transfer :: rest) (passed past ++ [(transfer, .error kind)]) (.error kind)

/-- The result of a transaction: the failure of an operation comes before that of the flush, and
this before that of the deselecting edge. -/
inductive Sums : Except ErrorKind Unit → Except ErrorKind Unit → Bool →
    Except (DeviceError PinError) Unit → Prop
  | operation {kind : ErrorKind} {flushed : Except ErrorKind Unit} {taken : Bool} :
      Sums (.error kind) flushed taken (.error (.bus kind))
  | flush {kind : ErrorKind} {taken : Bool} :
      Sums (.ok ()) (.error kind) taken (.error (.bus kind))
  | deselect : Sums (.ok ()) (.ok ()) false (.error (.pin .other))
  | success : Sums (.ok ()) (.ok ()) true (.ok ())

theorem Bus.sums_outcome (result flushed : Except ErrorKind Unit) (taken : Bool) :
    Sums result flushed taken (outcome result flushed taken) := by
  rcases result with kind | ⟨⟩
  · exact .operation
  · rcases flushed with kind | ⟨⟩
    · exact .flush
    · cases taken with
      | false => exact .deselect
      | true => exact .success

inductive Stage.Reached (transfers : List Transfer) : List Called → Stage → Prop
  | calling {past filled rest : List Transfer} {transfer : Transfer}
      (whole : transfers = past ++ transfer :: rest) :
      Reached transfers (passed past) (.calling filled transfer rest)
  | flushing {called : List Called} {filled : List Transfer} {result : Except ErrorKind Unit}
      (ran : Ran transfers called result) : Reached transfers called (.flushing filled result)

inductive Carried (bus : Bus) (chip : UInt8) (transfers : List Transfer) (called : List Called) :
    Poll Selected Outcome × Bus → Prop
  | suspended {more : List Called} {stage : Stage} {left : Nat} {bus' : Bus}
      (history : bus.History (more.map Called.attempt) bus')
      (reached : stage.Reached transfers (called ++ more)) :
      Carried bus chip transfers called (.pending ⟨chip, stage, left⟩, bus')
  | closed {more : List Called} {result flushed : Except ErrorKind Unit} {taken : Bool}
      {outcome : Outcome} {bus' : Bus}
      (history : bus.History
        (more.map Called.attempt ++ [.flush flushed, .deselect chip taken]) bus')
      (ran : Ran transfers (called ++ more) result) (sums : Sums result flushed taken outcome.1) :
      Carried bus chip transfers called (.ready outcome, bus')

section

variable {chip : UInt8} {transfers : List Transfer} {called : List Called}

theorem Carried.after_call {bus bus' : Bus} {transfer : Transfer} {result : Except ErrorKind Unit}
    {answer : Poll Selected Outcome × Bus} (answers : bus.Answers (.call transfer result) bus')
    (carried : Carried bus' chip transfers (called ++ [(transfer, result)]) answer) :
    Carried bus chip transfers called answer := by
  cases carried with
  | @suspended more stage left last history reached =>
    have history : bus.History (((transfer, result) :: more).map Called.attempt) last :=
      .cons answers history
    rw [List.append_assoc] at reached
    exact .suspended history reached
  | @closed more sum flushed taken outcome last history ran sums =>
    have history : bus.History (((transfer, result) :: more).map Called.attempt ++
        [.flush flushed, .deselect chip taken]) last := .cons answers history
    rw [List.append_assoc] at ran
    exact .closed history ran sums

namespace Bus

theorem close_carried (bus : Bus) (filled : List Transfer) {result : Except ErrorKind Unit}
    (ran : Ran transfers called result) :
    Carried bus chip transfers called
      (.ready (bus.close chip filled result).1, (bus.close chip filled result).2) := by
  have history : bus.History
      ([].map Called.attempt ++
        [.flush bus.flush.1, .deselect chip (bus.flush.2.deselect chip).1])
      (bus.flush.2.deselect chip).2 :=
    .cons (.flush bus) (.single (.deselect _ chip))
  rw [← List.append_nil called] at ran
  exact .closed history ran (sums_outcome _ _ _)

theorem approachFlush_carried (bus : Bus) (filled : List Transfer) {result : Except ErrorKind Unit}
    (ran : Ran transfers called result) :
    Carried bus chip transfers called (bus.approachFlush chip filled result) := by
  unfold approachFlush
  split
  · exact bus.close_carried filled ran
  · have history : bus.History ([].map Called.attempt) bus := .nil
    rw [← List.append_nil called] at ran
    exact .suspended history (.flushing ran)

theorem call_carried (bus : Bus) (filled past : List Transfer) (transfer : Transfer)
    (rest : List Transfer)
    (goesOn : ∀ filled past bus,
      Carried bus chip (past ++ rest) (passed past) (proceed chip filled rest bus)) :
    Carried bus chip (past ++ transfer :: rest) (passed past)
      (bus.resume chip (.calling filled transfer rest)) := by
  have answers := Answers.call bus transfer
  simp only [resume]
  rcases called : bus.call transfer with ⟨kind | ⟨⟩, transfer', bus'⟩ <;> rw [called] at answers
  · exact .after_call answers (bus'.approachFlush_carried _ (.stopped past transfer rest kind))
  · have carried := goesOn (filled ++ [transfer']) (past ++ [transfer]) bus'
    rw [passed_append, List.append_assoc] at carried
    exact .after_call answers carried

theorem proceed_carried (rest filled past : List Transfer) (bus : Bus) :
    Carried bus chip (past ++ rest) (passed past) (proceed chip filled rest bus) := by
  induction rest generalizing filled past bus with
  | nil =>
    rw [List.append_nil]
    exact bus.approachFlush_carried filled (.through past)
  | cons transfer rest ih =>
    cases yields : bus.yields with
    | zero =>
      have same : proceed chip filled (transfer :: rest) bus =
          bus.resume chip (.calling filled transfer rest) := by
        simp only [proceed, yields, resume]
      rw [same]
      exact bus.call_carried filled past transfer rest ih
    | succ left =>
      have history : bus.History ([].map Called.attempt) bus := .nil
      have reached : (Stage.calling filled transfer rest).Reached (past ++ transfer :: rest)
          (passed past ++ []) := by
        rw [List.append_nil]
        exact .calling rfl
      simp only [proceed, yields]
      exact .suspended history reached

theorem resume_carried (bus : Bus) {stage : Stage} (reached : stage.Reached transfers called) :
    Carried bus chip transfers called (bus.resume chip stage) := by
  cases reached with
  | calling whole =>
    rw [whole]
    exact bus.call_carried _ _ _ _ (proceed_carried _)
  | flushing ran => exact bus.close_carried _ ran

end Bus

end

theorem SharedBus.configure_history (shared : SharedBus) (mode : Option Mode) :
    ∃ applied : Option Mode, (applied = none ∨ applied = mode) ∧
      shared.bus.History (applied.toList.map .configure) (shared.configure mode).bus ∧
      (shared.configure mode).locked = shared.locked := by
  cases mode with
  | none => exact ⟨none, .inl rfl, .nil, rfl⟩
  | some mode =>
    by_cases same : shared.applied = some mode
    · rw [show shared.configure (some mode) = shared from if_pos same]
      exact ⟨none, .inl rfl, .nil, rfl⟩
    · rw [show shared.configure (some mode) = _ from if_neg same]
      exact ⟨some mode, .inr rfl, .single (.configure shared.bus mode), rfl⟩

namespace Turn

inductive Waited (shared : SharedBus) (device : Device) (transfers : List Transfer) :
    Poll Turn Outcome × SharedBus → Prop
  | rejected (delayed : transfers.any Transfer.isDelay = true) :
      Waited shared device transfers (.ready (.error .delayNotSupported, transfers), shared)
  | held (plain : transfers.any Transfer.isDelay = false) (locked : shared.locked = true) :
      Waited shared device transfers (.pending (.waiting device transfers), shared)
  | unselected {applied : Option Mode} {shared' : SharedBus}
      (plain : transfers.any Transfer.isDelay = false) (free : shared.locked = false)
      (applies : applied = none ∨ applied = device.mode)
      (history : shared.bus.History
        (applied.toList.map .configure ++ [.select device.chip false]) shared'.bus)
      (still : shared'.locked = false) :
      Waited shared device transfers (.ready (.error (.pin .other), transfers), shared')
  | selected {applied : Option Mode} {shared' : SharedBus} {answer : Poll Selected Outcome × Bus}
      (plain : transfers.any Transfer.isDelay = false) (free : shared.locked = false)
      (applies : applied = none ∨ applied = device.mode)
      (history : shared.bus.History
        (applied.toList.map .configure ++ [.select device.chip true]) shared'.bus)
      (carried : Carried shared'.bus device.chip transfers [] answer) :
      Waited shared device transfers (ofPoll shared' answer)

theorem poll_waiting (shared : SharedBus) (device : Device) (transfers : List Transfer) :
    Waited shared device transfers (poll (.waiting device transfers) shared) := by
  cases plain : transfers.any Transfer.isDelay with
  | true =>
    simp only [poll, plain, if_true]
    exact .rejected plain
  | false =>
    cases free : shared.locked with
    | true =>
      simp only [poll, plain, free, Bool.false_eq_true, if_false, if_true]
      exact .held plain free
    | false =>
      obtain ⟨applied, applies, configured, same⟩ := shared.configure_history device.mode
      have history := configured.answered (.select _ device.chip)
      simp only [poll, plain, free, Bool.false_eq_true, if_false, select]
      cases taken : ((shared.configure device.mode).bus.select device.chip).1 with
      | false =>
        rw [taken] at history
        exact .unselected plain free applies history (same.trans free)
      | true =>
        rw [taken] at history
        exact .selected plain free applies history (Bus.proceed_carried transfers [] [] _)

end Turn

end SensorBus.Spi
