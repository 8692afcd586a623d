import SensorBus.I2c.Session
import SensorBus.Lis3.Transport
import SensorBus.Proofs.I2c.Program
import SensorBus.Proofs.I2c.Stepping
import SensorBus.Ssd1306.Display

namespace SensorBus.I2c

/-- A transaction that goes onto the bus, with the private state and the bus as they stand before
it. -/
structure Begun (σ : Type) where
  driver : σ
  timing : Option Timing
  transaction : Transaction
  before : SharedBus

def Begun.of? {σ α : Type} : Query interface σ α × SharedBus → Option (Begun σ)
  | (⟨driver, .transact timing t, _⟩, before) =>
    if t.attach.1 then some ⟨driver, timing, t, before⟩ else none
  | (⟨_, .delay _, _⟩, _) => none

def exchanges {σ α : Type} (p : Progress interface σ α) (shared : SharedBus) : List (Begun σ) :=
  (p.queries SharedBus.medium shared).filterMap Begun.of?

/-- What is left of an operation that was stopped in a transaction: what there was before it, and on
the bus its start, after the timing if that was due. The transaction itself has failed. -/
structure Begun.Stopped {σ α : Type} (begun : Begun σ) (fiber : BusFiber σ α) (after : SharedBus) :
    Prop where
  driver : fiber.state = begun.driver
  failed : BusFiber.transaction? fiber = some { begun.transaction with state := .error }
  free : after.locked = false
  log : after.master.bus.log = begun.before.master.bus.log ++
    (begun.transaction.told [.attaching true] ++
      (begun.before.master.due begun.timing).toList.map .timed ++
      begun.transaction.told [.sequenced] ++ [.start begun.transaction.address] ++
      begun.transaction.told [.detaching .errorCondition])
  applied : after.master.applied = (begun.timing <|> begun.before.master.applied)
  targets : after.master.bus.targets = begun.before.master.bus.targets
  faults : after.master.bus.faults = begun.before.master.bus.faults
  lastError : after.master.lastError = begun.before.master.lastError

def Undelayed : interface.Request → Prop
  | .transact .. => True
  | .delay _ => False

section

variable {σ α : Type} (device : Device)

theorem Device.undelayed_of_own {op : Operation interface σ α}
    (asks : op.Asks (device.Own fun _ => True)) : op.Asks Undelayed := by
  refine fun state => (asks state).mono fun r own => ?_
  cases r with
  | transact => trivial
  | delay => exact own

theorem Device.operation_undelayed (action : Action) (lent : Option Transaction) :
    (device.operation lent action).Asks Undelayed :=
  device.undelayed_of_own (device.operation_asks (fun _ _ => trivial) action lent
    fun _ _ _ _ => trivial)

theorem Device.writePrefixed_undelayed (head payload : List UInt8) :
    (device.writePrefixed head payload : Attempt σ Unit).run.Asks Undelayed :=
  device.undelayed_of_own (device.writePrefixed_asks (fun _ _ => trivial) head payload)

theorem accelerometer_undelayed (op : Operation Lis3.interface σ α) :
    (op.via (Lis3.OverI2c.handler device)).Asks Undelayed := by
  refine fun state => .via (fun r => device.undelayed_of_own ?_) (op state)
  cases r with
  | probe => exact device.ping_asks fun _ _ => trivial
  | read => exact device.writeRead_asks (fun _ _ => trivial) _ _
  | write => exact device.writePrefixed_asks (fun _ _ => trivial) _ _

theorem command_undelayed (opcode : UInt8) (arguments : List UInt8) :
    (Ssd1306.writeRawCommand device opcode arguments).run.Asks Undelayed := by
  unfold Ssd1306.writeRawCommand
  split
  · exact device.writePrefixed_undelayed _ _
  · exact .pure _

theorem commands_undelayed (instructions : List Ssd1306.Instruction) :
    (Ssd1306.send device instructions).run.Asks Undelayed := by
  induction instructions with
  | nil => exact .pure _
  | cons instruction rest ih => exact .attempt (command_undelayed device _ _) fun _ => ih

theorem frame_undelayed : (Ssd1306.writeDisplay device).run.Asks Undelayed :=
  .attempt (fun _ => trivial) fun _ => device.writePrefixed_undelayed _ _

end

section

variable {σ α : Type} {shared : SharedBus} {p : Progress interface σ α}

theorem length_places_of_mem {yields : Nat} {delaysSuspend : Bool}
    (start : SharedBus.Alone yields delaysSuspend shared)
    (prompt : delaysSuspend = false ∨ p.Asks Undelayed)
    {place : Query interface σ α × SharedBus}
    (mem : place ∈ p.queries SharedBus.medium shared) :
    (SharedBus.places place.1.request place.2).length =
      if (Begun.of? place).isSome then yields else 0 := by
  obtain ⟨⟨driver, r, next⟩, before⟩ := place
  have alone := (SharedBus.punctual yields delaysSuspend).alone_of_mem start mem
  rw [SharedBus.length_places r before alone]
  cases r with
  | transact timing t =>
    simp only [SharedBus.yieldsFor, Begun.of?]
    split <;> simp
  | delay duration =>
    have quick : before.master.bus.delaysSuspend = false := by
      obtain quick | asks := prompt
      · exact alone.delaysSuspend.trans quick
      · exact (asks.queries mem).elim
    simp only [SharedBus.yieldsFor, quick]
    rfl

theorem stopped_of_place {query : Query interface σ α} {before midway : SharedBus}
    {begun : Begun σ} {flight : SharedBus.medium.Flight query.request}
    (found : Begun.of? (query, before) = some begun)
    (here : (flight, midway) ∈ SharedBus.places query.request before) :
    begun.Stopped (query.fiber flight) ((query.fiber flight : BusFiber σ α).drop midway) := by
  obtain ⟨driver, r, next⟩ := query
  cases r with
  | delay duration => cases found
  | transact timing t =>
    simp only [Begun.of?] at found
    split at found
    case isFalse => cases found
    case isTrue accepted =>
      cases found
      simp only [SharedBus.places, accepted, if_true, Medium.countdown, List.mem_map] at here
      obtain ⟨left, -, eq⟩ := here
      cases eq
      have dropped : ((⟨driver, .transact timing t, next⟩ : Query interface σ α).fiber
          (Turn.holding ⟨t.attached, left⟩) : BusFiber σ α).drop
            ⟨before.master.opened timing t, true⟩ = ⟨_, false⟩ :=
        congrArg (SharedBus.mk · false) ((before.master.opened timing t).abandon_eq _)
      rw [dropped]
      constructor
      case driver => rfl
      case failed => rfl
      case free => rfl
      case log => simp [Master.opened_log]
      case applied => simp [Master.opened, Master.time_eq]
      case targets => exact before.master.opened_targets timing t
      case faults => exact before.master.opened_faults timing t
      case lastError => exact before.master.opened_lastError timing t

end

/-- Without a resume nothing has happened. After `k + 1` of them an operation that is still under
way has completed `k / yields` transactions and stands in the next one. -/
theorem stopping_leaves_a_beginning {σ α : Type} (op : Operation interface σ α) (state : σ)
    (master : Master) (prompt : master.bus.delaysSuspend = false ∨ (op state).Asks Undelayed) :
    Slot.stop (some (.fresh state op : BusFiber σ α)) { master } = (true, none, { master }) ∧
      ∀ k, (Slot.resumes (k + 1) (some (.fresh state op : BusFiber σ α))
          { master }).2.1.isRunning = true →
        ∃ begun fiber midway after,
          (exchanges (op state) { master })[k / master.bus.yields]? = some begun ∧
          (Slot.resumes (k + 1) (some (.fresh state op)) { master }).2 = (some fiber, midway) ∧
          Slot.stop (some fiber) midway = (true, none, after) ∧ begun.Stopped fiber after := by
  refine ⟨rfl, fun k running => ?_⟩
  have start : SharedBus.Alone master.bus.yields master.bus.delaysSuspend { master } :=
    ⟨rfl, rfl, rfl⟩
  have punctual := SharedBus.punctual master.bus.yields master.bus.delaysSuspend
  obtain ⟨fiber, midway, here, resumed⟩ := punctual.stands op state start running
  -- A transaction that goes onto the bus has `yields` of the suspensions, nothing else has any.
  obtain ⟨⟨query, before⟩, mem, begun, found, place, index⟩ := block_of_getElem?
    (fun place mem => by
      rw [List.length_map]
      exact length_places_of_mem start prompt mem) here
  obtain ⟨⟨flight, midway'⟩, place, eq⟩ := List.mem_map.1 place
  cases eq
  exact ⟨begun, _, midway, _, index, congrArg _ resumed, rfl, stopped_of_place found place⟩

-- A register is updated by a read and a write; stopped after three resumes on a bus that yields
-- twice, the update has done the read.

namespace StoppedUpdate

def master : Master :=
  { bus := { targets := (Vector.replicate 256 none).set 0x18 (some {}), yields := 2 } }

def device : Device := { address := ⟨0x18, by decide⟩, timing := some ⟨400000⟩ }

def op : Operation interface Unit (Answer × Option Transaction) :=
  device.operation none (.updateRegister 1 0x0F 0xF0)

def update : BusFiber Unit (Answer × Option Transaction) := .fresh () op

theorem stopping_leaves_the_read :
    (Slot.resumes 3 (some update) { master }).2.1.isRunning = true ∧
      ∃ begun fiber midway after,
        (exchanges (op ()) { master })[1]? = some begun ∧
        (Slot.resumes 3 (some update) { master }).2 = (some fiber, midway) ∧
        Slot.stop (some fiber) midway = (true, none, after) ∧ begun.Stopped fiber after := by
  have prompt : (op ()).Asks Undelayed := device.operation_undelayed _ none ()
  have running : (Slot.resumes 3 (some update) { master }).2.1.isRunning = true := rfl
  exact ⟨running, (stopping_leaves_a_beginning op () master (.inr prompt)).2 2 running⟩

end StoppedUpdate

end SensorBus.I2c
