import SensorBus.Proofs.Job.Stepping
import SensorBus.Spi.SharedBus

namespace SensorBus.Spi

namespace Bus

theorem takeWord_yields (bus : Bus) (word : UInt8) : (bus.takeWord word).yields = bus.yields := by
  unfold takeWord
  split <;> rfl

@[simp] theorem take_yields (bus : Bus) (words : List UInt8) :
    (bus.take words).yields = bus.yields := by
  induction words generalizing bus with
  | nil => rfl
  | cons word words ih => exact (ih _).trans (bus.takeWord_yields word)

@[simp] theorem give_yields (bus : Bus) (length : Nat) :
    (bus.give length).2.yields = bus.yields := by
  induction length generalizing bus with
  | zero => rfl
  | succ length ih => exact ih _

theorem perform_yields (bus : Bus) (transfer : Transfer) :
    (bus.perform transfer).2.yields = bus.yields := by
  cases transfer <;> simp [perform, note]

theorem call_yields (bus : Bus) (transfer : Transfer) :
    (bus.call transfer).2.2.yields = bus.yields := by
  rcases popped : bus.popFault with ⟨_ | kind, rest⟩ <;>
    have same : rest.yields = bus.yields := congrArg (·.2.yields) popped.symm
  · simp [call, popped, perform_yields, same]
  · simp [call, popped, same]

theorem flush_yields (bus : Bus) : bus.flush.2.yields = bus.yields := by
  rcases popped : bus.popFault with ⟨_ | kind, rest⟩ <;>
    have same : rest.yields = bus.yields := congrArg (·.2.yields) popped.symm
  · simp [flush, popped, note, same]
  · simp [flush, popped, same]

theorem callAll_yields (bus : Bus) (transfers : List Transfer) :
    (bus.callAll transfers).2.2.yields = bus.yields := by
  induction transfers generalizing bus with
  | nil => rfl
  | cons transfer rest ih =>
    have same := bus.call_yields transfer
    simp only [callAll]
    rcases called : bus.call transfer with ⟨kind | ⟨⟩, transfer', bus'⟩ <;> rw [called] at same
    · exact same
    · exact (ih bus').trans same

theorem close_yields (bus : Bus) (chip : UInt8) (transfers : List Transfer)
    (result : Except ErrorKind Unit) : (bus.close chip transfers result).2.yields = bus.yields :=
  bus.flush_yields

def callsFor (bus : Bus) : List Transfer → Nat
  | [] => 0
  | transfer :: rest =>
    match bus.call transfer with
    | (.ok (), _, bus) => bus.callsFor rest + 1
    | (.error _, _, _) => 1

def approach (bus : Bus) (chip : UInt8) (stage : Stage) : Poll Selected Outcome × Bus :=
  match bus.yields with
  | 0 => bus.resume chip stage
  | left + 1 => (.pending ⟨chip, stage, left⟩, bus)

theorem approachFlush_eq (bus : Bus) (chip : UInt8) (transfers : List Transfer)
    (result : Except ErrorKind Unit) :
    bus.approachFlush chip transfers result = bus.approach chip (.flushing transfers result) := rfl

theorem proceed_nil (chip : UInt8) (past : List Transfer) (bus : Bus) :
    proceed chip past [] bus = bus.approach chip (.flushing past (.ok ())) := rfl

theorem proceed_cons (chip : UInt8) (past : List Transfer) (transfer : Transfer)
    (rest : List Transfer) (bus : Bus) :
    proceed chip past (transfer :: rest) bus =
      bus.approach chip (.calling past transfer rest) := rfl

def stages (past : List Transfer) : List Transfer → Bus → List (Stage × Bus)
  | [], bus => [(.flushing past (.ok ()), bus)]
  | transfer :: rest, bus =>
    (.calling past transfer rest, bus) ::
      match bus.call transfer with
      | (.ok (), transfer, bus) => stages (past ++ [transfer]) rest bus
      | (.error kind, transfer, bus) =>
        [(.flushing (past ++ transfer :: rest) (.error kind), bus)]

theorem length_stages (past rest : List Transfer) (bus : Bus) :
    (stages past rest bus).length = bus.callsFor rest + 1 := by
  induction rest generalizing past bus with
  | nil => rfl
  | cons transfer rest ih =>
    simp only [stages, callsFor]
    rcases bus.call transfer with ⟨kind | ⟨⟩, transfer', bus'⟩
    · rfl
    · exact congrArg _ (ih _ _)

theorem yields_of_mem_stages {past rest : List Transfer} {bus between : Bus} {stage : Stage}
    (mem : (stage, between) ∈ stages past rest bus) : between.yields = bus.yields := by
  induction rest generalizing past bus with
  | nil =>
    cases List.mem_singleton.1 mem
    rfl
  | cons transfer rest ih =>
    have same := bus.call_yields transfer
    simp only [stages] at mem
    rcases called : bus.call transfer with ⟨kind | ⟨⟩, transfer', bus'⟩ <;>
      rw [called] at same mem <;> obtain eq | mem := List.mem_cons.1 mem
    case error.inl | ok.inl =>
      cases eq
      rfl
    case error.inr =>
      cases List.mem_singleton.1 mem
      exact same
    case ok.inr => exact (ih mem).trans same

def callAndClose (bus : Bus) (chip : UInt8) (past rest : List Transfer) : Outcome × Bus :=
  let (result, transfers, bus) := bus.callAll rest
  bus.close chip (past ++ transfers) result

theorem callAndClose_yields (bus : Bus) (chip : UInt8) (past rest : List Transfer) :
    (bus.callAndClose chip past rest).2.yields = bus.yields := by
  unfold callAndClose
  have called := bus.callAll_yields rest
  rcases all : bus.callAll rest with ⟨result, filled, bus'⟩
  rw [all] at called
  exact (bus'.close_yields chip (past ++ filled) result).trans called

theorem callAndClose_ok {bus bus' : Bus} {transfer transfer' : Transfer}
    (called : bus.call transfer = (.ok (), transfer', bus')) (chip : UInt8)
    (past rest : List Transfer) :
    bus.callAndClose chip past (transfer :: rest) =
      bus'.callAndClose chip (past ++ [transfer']) rest := by
  simp [callAndClose, callAll, called]

theorem callAndClose_error {bus bus' : Bus} {transfer transfer' : Transfer} {kind : ErrorKind}
    (called : bus.call transfer = (.error kind, transfer', bus')) (chip : UInt8)
    (past rest : List Transfer) :
    bus.callAndClose chip past (transfer :: rest) =
      bus'.close chip (past ++ transfer' :: rest) (.error kind) := by
  simp [callAndClose, callAll, called]

end Bus

namespace SharedBus

structure Alone (yields : Nat) (shared : SharedBus) : Prop where
  free : shared.locked = false
  yields : shared.bus.yields = yields

/-- The calls on the bus, the flush among them, that a transaction makes. There are none if it has a
delay or its chip cannot be selected. -/
def yieldsFor : interface.Request → SharedBus → Nat
  | .transact device transfers, shared =>
    if transfers.any Transfer.isDelay then 0
    else
      match Turn.select device shared with
      | (false, _) => 0
      | (true, shared) => shared.bus.callsFor transfers + 1

def stagePlaces (r : interface.Request) (chip : UInt8) (shared : SharedBus) (place : Stage × Bus) :
    List (medium.Flight r × SharedBus) :=
  medium.countdown r (fun left => .holding ⟨chip, place.1, left⟩)
    { shared with bus := place.2, locked := true } place.2.yields

def places : (r : interface.Request) → SharedBus → List (medium.Flight r × SharedBus)
  | .transact device transfers, shared =>
    if transfers.any Transfer.isDelay then []
    else
      match Turn.select device shared with
      | (false, _) => []
      | (true, shared) =>
        (Bus.stages [] transfers shared.bus).flatMap
          (stagePlaces (.transact device transfers) device.chip shared)

variable {r : interface.Request} {shared : SharedBus} {chip : UInt8}

theorem length_stagePlaces (place : Stage × Bus) :
    (stagePlaces r chip shared place).length = place.2.yields :=
  Medium.length_countdown _

theorem length_flatMap_stagePlaces {yields : Nat} {stages : List (Stage × Bus)}
    (same : ∀ place ∈ stages, place.2.yields = yields) :
    (stages.flatMap (stagePlaces r chip shared)).length = yields * stages.length := by
  induction stages with
  | nil => rfl
  | cons place stages ih =>
    have rest := ih fun place mem => same place (List.mem_cons_of_mem _ mem)
    rw [List.flatMap_cons, List.length_append, length_stagePlaces, same place List.mem_cons_self,
      rest, List.length_cons, Nat.mul_succ, Nat.add_comm]

theorem ofPoll_of_same {before : SharedBus} (bus : Bus) (locked : Bool)
    (polled : Poll Selected Outcome × Bus) :
    Turn.ofPoll { before with bus, locked } polled = Turn.ofPoll before polled := by
  rcases polled with ⟨_ | _, _⟩ <;> rfl

theorem approach_waits {bus : Bus} {stage : Stage} {reply : Outcome} {after : SharedBus}
    {later : List (Stage × Bus)}
    (rest : medium.Waits r reply after (later.flatMap (stagePlaces r chip shared))
      (Turn.ofPoll shared (bus.resume chip stage))) :
    medium.Waits r reply after (((stage, bus) :: later).flatMap (stagePlaces r chip shared))
      (Turn.ofPoll shared (bus.approach chip stage)) := by
  have here : stagePlaces r chip shared (stage, bus) =
    medium.countdown r (fun left => .holding ⟨chip, stage, left⟩)
      { shared with bus, locked := true } bus.yields := rfl
  rw [List.flatMap_cons, here]
  unfold Bus.approach
  cases bus.yields with
  | zero => exact rest
  | succ left =>
    refine .countdown ?_ (fun _ => rfl) left
    rw [← ofPoll_of_same bus true] at rest
    exact rest

theorem proceed_waits (past rest : List Transfer) (bus : Bus) :
    medium.Waits r (bus.callAndClose chip past rest).1
      { shared with bus := (bus.callAndClose chip past rest).2, locked := false }
      ((Bus.stages past rest bus).flatMap (stagePlaces r chip shared))
      (Turn.ofPoll shared (Bus.proceed chip past rest bus)) := by
  induction rest generalizing past bus with
  | nil =>
    have closed : bus.callAndClose chip past [] = bus.close chip past (.ok ()) := by
      simp [Bus.callAndClose, Bus.callAll]
    rw [Bus.proceed_nil, closed]
    exact approach_waits .ready
  | cons transfer rest ih =>
    rw [Bus.proceed_cons]
    simp only [Bus.stages]
    refine approach_waits ?_
    rcases called : bus.call transfer with ⟨kind | ⟨⟩, transfer', bus'⟩ <;>
      simp only [Bus.resume, called]
    -- A call that fails leaves the flush to come.
    · rw [Bus.callAndClose_error called, Bus.approachFlush_eq]
      exact approach_waits .ready
    · rw [Bus.callAndClose_ok called]
      exact ih _ bus'

theorem select_keeps (device : Device) (shared : SharedBus) :
    (Turn.select device shared).2.locked = shared.locked ∧
      (Turn.select device shared).2.bus.yields = shared.bus.yields := by
  have configured : (shared.configure device.mode).locked = shared.locked ∧
      (shared.configure device.mode).bus.yields = shared.bus.yields := by
    unfold configure
    split
    · exact ⟨rfl, rfl⟩
    · split <;> exact ⟨rfl, rfl⟩
  exact configured

variable {device : Device} {transfers : List Transfer}

theorem transact_waits (free : shared.locked = false) :
    medium.Waits (.transact device transfers) (Turn.finish (.waiting device transfers) shared).1
      (Turn.finish (.waiting device transfers) shared).2
      (places (.transact device transfers) shared)
      (Turn.poll (.waiting device transfers) shared) := by
  simp only [Turn.finish, Turn.poll, places, free]
  cases transfers.any Transfer.isDelay with
  | true => exact .ready
  | false =>
    rcases Turn.select device shared with ⟨_ | _, shared'⟩
    · exact .ready
    · exact proceed_waits [] transfers shared'.bus

theorem transact_alone {yields : Nat} (alone : Alone yields shared) :
    Alone yields (Turn.finish (.waiting device transfers) shared).2 := by
  obtain ⟨locked, same⟩ := select_keeps device shared
  simp only [Turn.finish]
  cases transfers.any Transfer.isDelay with
  | true => exact alone
  | false =>
    rcases selected : Turn.select device shared with ⟨_ | _, shared'⟩ <;>
      rw [selected] at locked same
    · exact ⟨locked.trans alone.free, same.trans alone.yields⟩
    · refine ⟨rfl, ?_⟩
      have closed := shared'.bus.callAndClose_yields device.chip [] transfers
      exact closed.trans (same.trans alone.yields)

theorem punctual (yields : Nat) : medium.Punctual (Alone yields) places where
  waits r shared alone := by
    cases r with
    | transact device transfers => exact transact_waits alone.free
  alone r shared alone := by
    cases r with
    | transact device transfers => exact transact_alone alone

theorem length_places {yields : Nat} (r : interface.Request) (shared : SharedBus)
    (alone : Alone yields shared) : (places r shared).length = yields * yieldsFor r shared := by
  cases r with
  | transact device transfers =>
    obtain ⟨-, same⟩ := select_keeps device shared
    simp only [places, yieldsFor]
    cases transfers.any Transfer.isDelay with
    | true => rfl
    | false =>
      rcases selected : Turn.select device shared with ⟨_ | _, shared'⟩ <;> rw [selected] at same
      · rfl
      · refine (length_flatMap_stagePlaces fun place mem => ?_).trans
          (congrArg _ (Bus.length_stages [] transfers shared'.bus))
        exact (Bus.yields_of_mem_stages mem).trans (same.trans alone.yields)

end SharedBus

end SensorBus.Spi
