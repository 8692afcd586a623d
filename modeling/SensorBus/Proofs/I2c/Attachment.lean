import SensorBus.Proofs.I2c.Strikes

/-!
A transaction that a master runs is attached once, before anything else, and detached once, after
everything else, however the run comes out and wherever it is given up. The cause of its detachment
tells how it came out, and unless it was refused or given up the bus decides on that.
-/

namespace SensorBus.I2c

def Event.isFrame : Event → Bool
  | .attaching _ | .detaching _ => true
  | _ => false

theorem Segment.isFrame_event (segment : Segment) : segment.event.isFrame = false := by
  cases segment <;> rfl

theorem Transaction.isFrame_of_mem_events {t : Transaction} {event : Event}
    (mem : event ∈ t.events) : event.isFrame = false := by
  obtain ⟨segment, -, rfl⟩ := List.mem_map.1 mem
  exact segment.isFrame_event

def Master.obstacle? (master : Master) (t : Transaction) : Option Fault :=
  master.bus.obstacle? t.address.raw t.sequence.segments.length

/-- The segments that are carried out with this in their way. -/
def Transaction.upTo (t : Transaction) (obstacle : Option Fault) : List Event :=
  t.events.take (obstacle.elim t.events.length (·.after))

theorem Transaction.isFrame_of_mem_upTo {t : Transaction} {obstacle : Option Fault} {event : Event}
    (mem : event ∈ t.upTo obstacle) : event.isFrame = false :=
  isFrame_of_mem_events (List.mem_of_mem_take mem)

theorem Master.complete_obstacle (master : Master) (t : Transaction) :
    ∃ (received : List UInt8) (bus : Bus),
      bus.log = master.bus.log ++ (t.upTo (master.obstacle? t) ++ [.stop t.address]) ∧
      (master.obstacle? t = none ∧
          master.complete t = ((.ok (), (t.receive received).detach .normalStop),
            { master with bus := bus.note (t.told [.detaching .normalStop]) }) ∨
        ∃ fault, master.obstacle? t = some fault ∧
          master.complete t =
            ((.error (.i2c fault.kind), (t.receive received).detach .errorCondition),
              { master with
                bus := bus.note (t.told [.detaching .errorCondition])
                lastError := some fault.kind })) := by
  obtain ⟨received, bus, transferred, log, -⟩ :=
    master.bus.transfer_obstacle t.address t.sequence.length_segments_pos
  refine ⟨received, bus, ?_, ?_⟩
  · rw [log, Transaction.upTo, Transaction.events, List.length_map]
    rfl
  · cases found : master.obstacle? t with
    | none =>
      rw [show master.bus.obstacle? t.address.raw _ = none from found] at transferred
      exact .inl ⟨rfl, master.complete_ok t transferred⟩
    | some fault =>
      rw [show master.bus.obstacle? t.address.raw _ = some fault from found] at transferred
      exact .inr ⟨fault, rfl, master.complete_error t transferred⟩

theorem Master.opened_obstacle (master : Master) (timing : Option Timing) (t : Transaction) :
    (master.opened timing t).obstacle? t.attached = master.obstacle? t :=
  congrFun (Bus.obstacle?_congr (master.opened_targets timing t) (master.opened_faults timing t)
    t.address.raw) _

namespace Run

/-- What the log gets between an accepted attachment and the first segment. -/
def opening (master : Master) (timing : Option Timing) (t : Transaction) : List Event :=
  (master.due timing).toList.map .timed ++ t.told [.sequenced] ++ [.start t.address]

/-- How a run comes out that may be polled so many times and is dropped after that: with `cause` the
transaction is detached, and `between` is what the log gets between the two calls. -/
structure Framed (master : Master) (timing : Option Timing) (t : Transaction) (limit : Nat)
    (attempted : Option (Except Error Unit × Nat) × Run × Master) (cause : DetachCause)
    (between : List Event) : Prop where
  log : attempted.2.2.bus.log = master.bus.log ++
    (t.told [.attaching t.attach.1] ++ between ++ t.told [.detaching cause])
  once : ∀ event ∈ between, event.isFrame = false
  state : attempted.2.1.transaction.state = if cause = .normalStop then .idle else .error
  refused_iff : cause = .failedToAttach ↔ t.attach.1 = false
  refused : cause = .failedToAttach →
    between = [] ∧ attempted.2.2.lastError = master.lastError ∧
      attempted.2.2.applied = master.applied ∧ attempted.1 = some (.error .transactionBusy, 1)
  stopped_iff : cause = .normalStop ↔ ∃ polls, attempted.1 = some (.ok (), polls)
  stopped : cause = .normalStop →
    master.obstacle? t = none ∧ attempted.2.2.lastError = master.lastError
  failed_iff : cause = .errorCondition ↔
    (∃ fault polls, master.obstacle? t = some fault ∧
        attempted.1 = some (.error (.i2c fault.kind), polls) ∧
        attempted.2.2.lastError = some fault.kind) ∨
      (attempted.1 = none ∧ attempted.2.2.lastError = master.lastError)
  accepted : t.attach.1 = true → ∃ rest,
    between = opening master timing t ++ rest ∧
    (attempted.1 = none → rest = []) ∧
    (attempted.1 ≠ none → rest = t.upTo (master.obstacle? t) ++ [.stop t.address])
  dropped_iff : attempted.1 = none ↔ t.attach.1 = true ∧ limit ≤ master.bus.yields
  completed : t.attach.1 = true → master.bus.yields < limit →
    attempted.1 = some ((master.obstacle? t).elim (.ok ()) fun fault => .error (.i2c fault.kind),
      master.bus.yields + 1)

section

variable (master : Master) (timing : Option Timing) (t : Transaction)

theorem advance_exchanging (limit left : Nat) :
    Job.advance limit (Run.exchanging ⟨t, left⟩) master =
      if left < limit then
        (some ((master.complete t).1.1, left + 1), .spent (master.complete t).1.2,
          (master.complete t).2)
      else (none, .exchanging ⟨t, left - limit⟩, master) := by
  induction limit generalizing left with
  | zero => rfl
  | succ limit ih =>
    cases left with
    | zero => rfl
    | succ left =>
      have polled : Job.poll (Run.exchanging ⟨t, left + 1⟩) master =
          (none, Run.exchanging ⟨t, left⟩, master) := rfl
      simp only [Job.advance, polled, ih, Nat.add_lt_add_iff_right, Nat.add_sub_add_right]
      split <;> rfl

theorem attempt_refused (refused : t.attach.1 = false) (limit : Nat) :
    Job.attempt (limit + 1) (Run.fresh timing t) master =
      (some (.error .transactionBusy, 1), .spent (t.detach .failedToAttach),
        { master with
          bus := master.bus.note
            (t.told [.attaching false] ++ t.told [.detaching .failedToAttach]) }) := by
  have polled : Job.poll (Run.fresh timing t) master = ofPoll (master.begin timing t) := rfl
  simp only [Job.attempt, Job.advance, polled, master.begin_refused timing t refused, ofPoll]
  rfl

theorem attempt_accepted (accepted : t.attach.1 = true) (limit : Nat) :
    Job.attempt (limit + 1) (Run.fresh timing t) master =
      if master.bus.yields ≤ limit then
        (some (((master.opened timing t).complete t.attached).1.1, master.bus.yields + 1),
          .spent ((master.opened timing t).complete t.attached).1.2,
          ((master.opened timing t).complete t.attached).2)
      else
        (none, .exchanging ⟨t.attached, master.bus.yields - 1 - limit⟩,
          (master.opened timing t).abandon ⟨t.attached, master.bus.yields - 1 - limit⟩) := by
  have polled : Job.poll (Run.fresh timing t) master = ofPoll (master.begin timing t) := rfl
  have begun := master.begin_accepted timing t accepted
  cases yields : master.bus.yields with
  | zero =>
    rw [yields] at begun
    simp only [Job.attempt, Job.advance, polled, begun, ofPoll, Nat.zero_le, if_true]
    rfl
  | succ left =>
    rw [yields] at begun
    simp only [Job.attempt, Job.advance, polled, begun, ofPoll, advance_exchanging,
      Nat.succ_le_iff, Nat.add_sub_cancel]
    split <;> rfl

theorem isFrame_of_mem_opening {event : Event} (mem : event ∈ opening master timing t) :
    event.isFrame = false := by
  simp only [opening, List.mem_append, List.mem_map, List.mem_singleton] at mem
  obtain (⟨timing, -, rfl⟩ | told) | rfl := mem
  · rfl
  · cases List.mem_singleton.1 (t.told_subset _ told)
    rfl
  · rfl

theorem opened_log_eq :
    (master.opened timing t).bus.log =
      master.bus.log ++ (t.told [.attaching true] ++ opening master timing t) := by
  simp [Master.opened_log, opening]

theorem framed_refused (refused : t.attach.1 = false) (limit : Nat) :
    Framed master timing t (limit + 1) (Job.attempt (limit + 1) (Run.fresh timing t) master)
      .failedToAttach [] := by
  rw [attempt_refused master timing t refused]
  constructor
  case log => simp [refused]
  case once => exact fun _ mem => nomatch mem
  case state => rfl
  case refused_iff => simp [refused]
  case refused => exact fun _ => ⟨rfl, rfl, rfl, rfl⟩
  case stopped_iff => simp
  case stopped => exact fun h => nomatch h
  case failed_iff => simp
  case accepted => exact fun accepted => by simp [refused] at accepted
  case dropped_iff => simp [refused]
  case completed => exact fun accepted => by simp [refused] at accepted

theorem framed_dropped (accepted : t.attach.1 = true) {limit : Nat}
    (dropped : ¬ master.bus.yields ≤ limit) :
    Framed master timing t (limit + 1) (Job.attempt (limit + 1) (Run.fresh timing t) master)
      .errorCondition (opening master timing t) := by
  rw [attempt_accepted master timing t accepted, if_neg dropped, Master.abandon_eq]
  constructor
  case log => simp [opened_log_eq, accepted]
  case once => exact fun _ mem => isFrame_of_mem_opening master timing t mem
  case state => rfl
  case refused_iff => simp [accepted]
  case refused => exact fun h => nomatch h
  case stopped_iff => simp
  case stopped => exact fun h => nomatch h
  case failed_iff => simp
  case accepted => exact fun _ => ⟨[], by simp, fun _ => rfl, fun h => absurd rfl h⟩
  case dropped_iff => simpa [accepted, Nat.succ_le_iff] using dropped
  case completed => exact fun _ completed => absurd (Nat.le_of_lt_succ completed) dropped

theorem framed_completed (accepted : t.attach.1 = true) {limit : Nat}
    (completed : master.bus.yields ≤ limit) :
    ∃ cause between, Framed master timing t (limit + 1)
      (Job.attempt (limit + 1) (Run.fresh timing t) master) cause between := by
  rw [attempt_accepted master timing t accepted, if_pos completed]
  obtain ⟨received, bus, log, ends⟩ := (master.opened timing t).complete_obstacle t.attached
  have opened := master.opened_obstacle timing t
  let between := opening master timing t ++ (t.upTo (master.obstacle? t) ++ [.stop t.address])
  have log : bus.log = master.bus.log ++ (t.told [.attaching true] ++ between) := by
    rw [log, opened_log_eq, opened, List.append_assoc, List.append_assoc]
    rfl
  rw [opened] at ends
  have once : ∀ event ∈ between, event.isFrame = false := by
    intro event mem
    obtain mem | mem | mem := by simpa only [between, List.mem_append] using mem
    · exact isFrame_of_mem_opening master timing t mem
    · exact Transaction.isFrame_of_mem_upTo mem
    · cases List.mem_singleton.1 mem
      rfl
  have late : ¬ limit + 1 ≤ master.bus.yields := by omega
  obtain ⟨clear, eq⟩ | ⟨fault, struck, eq⟩ := ends
  · refine ⟨.normalStop, between, ?_⟩
    rw [eq]
    constructor
    case log => simp [log, accepted]
    case once => exact once
    case state => rfl
    case refused_iff => simp [accepted]
    case refused => exact fun h => nomatch h
    case stopped_iff => simp
    case stopped => exact fun _ => ⟨clear, by simp⟩
    case failed_iff => simp
    case accepted => exact fun _ => ⟨_, rfl, nofun, fun _ => rfl⟩
    case dropped_iff => simp [late]
    case completed => exact fun _ _ => by rw [clear]; rfl
  · refine ⟨.errorCondition, between, ?_⟩
    rw [eq]
    constructor
    case log => simp [log, accepted]
    case once => exact once
    case state => rfl
    case refused_iff => simp [accepted]
    case refused => exact fun h => nomatch h
    case stopped_iff => simp
    case stopped => exact fun h => nomatch h
    case failed_iff => simp [struck]
    case accepted => exact fun _ => ⟨_, rfl, nofun, fun _ => rfl⟩
    case dropped_iff => simp [late]
    case completed => exact fun _ _ => by rw [struck]; rfl

/-- A run that is never polled does nothing at all. One that is polled, and dropped after so many
polls if it is still under way then, attaches its transaction first and detaches it last. -/
theorem attached_first_detached_last :
    Job.attempt 0 (Run.fresh timing t) master = (none, .fresh timing t, master) ∧
      ∀ limit, ∃ cause between, Framed master timing t (limit + 1)
        (Job.attempt (limit + 1) (Run.fresh timing t) master) cause between := by
  refine ⟨rfl, fun limit => ?_⟩
  cases accepted : t.attach.1 with
  | false => exact ⟨_, _, framed_refused master timing t accepted limit⟩
  | true =>
    by_cases completed : master.bus.yields ≤ limit
    · exact framed_completed master timing t accepted completed
    · exact ⟨_, _, framed_dropped master timing t accepted completed⟩

end

end Run

end SensorBus.I2c
