import SensorBus.Proofs.I2c.Meeting

namespace SensorBus.I2c

/-- The error that such a fault brings about in an exchange of so many segments. -/
def strike? (segments : Nat) : Option Fault → Option ErrorKind
  | some fault => if fault.after < segments then some fault.kind else none
  | none => none

/-- The first error in exchanges of so many segments each, which take their faults off the queue
one by one. -/
def firstStrike? : List (Option Fault) → (exchanges : List Nat) → Option ErrorKind
  | _, [] => none
  | faults, segments :: rest => strike? segments faults.head?.join <|> firstStrike? faults.tail rest

theorem strike?_eq_some {segments : Nat} {fault : Option Fault} {kind : ErrorKind} :
    strike? segments fault = some kind ↔ ∃ after < segments, fault = some ⟨kind, after⟩ := by
  constructor
  · intro strikes
    rcases fault with _ | ⟨found, after⟩
    · cases strikes
    · simp only [strike?, Option.ite_none_right_eq_some, Option.some.injEq] at strikes
      obtain ⟨lt, rfl⟩ := strikes
      exact ⟨after, lt, rfl⟩
  · rintro ⟨after, lt, rfl⟩
    simp [strike?, lt]

section

variable {faults : List (Option Fault)} {segments : Nat} {rest : List Nat}

theorem firstStrike?_cons_eq_none : firstStrike? faults (segments :: rest) = none ↔
    strike? segments faults.head?.join = none ∧ firstStrike? faults.tail rest = none := by
  cases found : strike? segments faults.head?.join <;> simp [firstStrike?, found]

theorem firstStrike?_cons_eq_some {kind : ErrorKind} :
    firstStrike? faults (segments :: rest) = some kind ↔
      strike? segments faults.head?.join = some kind ∨
        strike? segments faults.head?.join = none ∧ firstStrike? faults.tail rest = some kind := by
  cases found : strike? segments faults.head?.join <;> simp [firstStrike?, found]

theorem firstStrike?_singleton :
    firstStrike? faults [segments] = strike? segments faults.head?.join := by
  cases found : strike? segments faults.head?.join <;> simp [firstStrike?, found]

end

namespace Target

theorem exchange_unstruck (target : Target) (selected : Bool) (segments : List Segment)
    {fault : Option Fault} (passes : strike? segments.length fault = none) :
    target.exchange selected fault segments = target.exchange selected none segments := by
  induction segments generalizing target selected fault with
  | nil => rfl
  | cons segment rest ih =>
    have never : ∀ kind, (none : Option Fault) ≠ some ⟨kind, 0⟩ := fun _ h => nomatch h
    rw [exchange_cons_passes target selected never]
    rcases fault with _ | ⟨kind, _ | after⟩
    · rw [exchange_cons_passes target selected never]
    · simp [strike?] at passes
    · have passes' : strike? rest.length (some ⟨kind, after⟩) = none := by
        simpa [strike?] using passes
      rw [exchange_cons_passes target selected (by simp)]
      simp only [Option.map_some, Option.map_none, Nat.add_sub_cancel, ih _ _ passes']

theorem exchange_struck (target : Target) (selected : Bool) (segments : List Segment)
    {after : Nat} (kind : ErrorKind) (lt : after < segments.length) :
    target.exchange selected (some ⟨kind, after⟩) segments =
      { target.exchange selected none (segments.take after) with result := .error kind } := by
  induction segments generalizing target selected after with
  | nil => cases lt
  | cons segment rest ih =>
    cases after with
    | zero => exact target.exchange_cons_strikes selected kind segment rest
    | succ after =>
      have never : ∀ kind, (none : Option Fault) ≠ some ⟨kind, 0⟩ := fun _ h => nomatch h
      rw [exchange_cons_passes target selected (by simp), List.take_succ_cons,
        exchange_cons_passes target selected never]
      simp only [Option.map_some, Option.map_none, Nat.add_sub_cancel,
        ih _ _ (Nat.lt_of_succ_lt_succ lt)]

theorem exchange_cut (target : Target) (selected : Bool) (segments : List Segment)
    (fault : Option Fault) :
    let cut := fault.filter (·.after < segments.length)
    (target.exchange selected fault segments).result = cut.elim (.ok ()) (.error ·.kind) ∧
      (target.exchange selected fault segments).events =
        (segments.map Segment.event).take (cut.elim segments.length (·.after)) := by
  intro cut
  have whole (carried : List Segment) :
      (target.exchange selected none carried).events = carried.map Segment.event :=
    (target.exchange_events carried selected none).2 (target.exchange_ok carried selected)
  cases strikes : strike? segments.length fault with
  | none =>
    have clear : cut = none := by
      rcases fault with _ | ⟨kind, after⟩ <;> simp_all [cut, strike?]
    rw [target.exchange_unstruck selected segments strikes, clear, whole, target.exchange_ok]
    exact ⟨rfl, (List.take_of_length_le (by simp)).symm⟩
  | some kind =>
    obtain ⟨after, lt, rfl⟩ := strike?_eq_some.1 strikes
    have cuts : cut = some ⟨kind, after⟩ := by simp [cut, lt]
    rw [target.exchange_struck selected segments kind lt, cuts, whole]
    exact ⟨rfl, List.map_take⟩

end Target

theorem Sequence.length_segments_pos (sequence : Sequence) : 0 < sequence.segments.length := by
  cases sequence <;> exact Nat.succ_pos _

/-- What fails an exchange of so many segments at this address, and behind how many of them: the
next fault in the queue, or that there is nobody. -/
def Bus.obstacle? (bus : Bus) (raw : UInt8) (segments : Nat) : Option Fault :=
  let next := bus.faults.head?.join
  if (bus.target? raw).isSome then next.filter (·.after < segments)
  else some ((next.filter (·.after = 0)).getD ⟨.noAcknowledge .address, 0⟩)

theorem Bus.obstacle?_congr {bus bus' : Bus} (targets : bus'.targets = bus.targets)
    (faults : bus'.faults = bus.faults) (raw : UInt8) :
    bus'.obstacle? raw = bus.obstacle? raw := by
  funext segments
  rw [obstacle?, obstacle?, target?_congr targets, faults]

theorem Bus.transfer_obstacle (bus : Bus) (address : Address) {segments : List Segment}
    (pos : 0 < segments.length) :
    let obstacle := bus.obstacle? address.raw segments.length
    ∃ received after, bus.transfer address segments =
        (obstacle.elim (.ok ()) (.error ·.kind), received, after) ∧
      after.log = bus.log ++
        ((segments.map Segment.event).take (obstacle.elim segments.length (·.after)) ++
          [.stop address]) ∧
      after.faults = bus.faults.tail ∧
      (after.target? address.raw).isSome = (bus.target? address.raw).isSome := by
  intro obstacle
  obtain ⟨kind, strikes⟩ | passes := Target.strikes_or_passes bus.faults.head?.join
  · have fails : obstacle = some ⟨kind, 0⟩ := by
      simp [obstacle, Bus.obstacle?, strikes, Option.filter, pos]
    rw [transfer_strikes strikes, fails]
    exact ⟨_, _, rfl, rfl, rfl, rfl⟩
  · cases present : bus.target? address.raw with
    | none =>
      have unstruck : bus.faults.head?.join.filter (·.after = 0) = none := by
        rcases found : bus.faults.head?.join with _ | ⟨kind, _ | after⟩
        · rfl
        · exact absurd found (passes kind)
        · rfl
      have fails : obstacle = some ⟨.noAcknowledge .address, 0⟩ := by
        simp [obstacle, obstacle?, present, unstruck]
      rw [transfer_absent passes present, fails]
      exact ⟨_, _, rfl, rfl, rfl, congrArg Option.isSome present⟩
    | some target =>
      have same : obstacle = bus.faults.head?.join.filter (·.after < segments.length) := by
        simp [obstacle, obstacle?, present]
      obtain ⟨result, events⟩ := target.exchange_cut false segments bus.faults.head?.join
      rw [transfer_present passes present, same, ← result, ← events]
      have left := target?_setTarget_self { bus with faults := bus.faults.tail } address.raw
        (some (target.exchange false bus.faults.head?.join segments).target)
      exact ⟨_, _, rfl, rfl, rfl, (congrArg Option.isSome left).trans rfl⟩

/-- An exchange has taken its fault off the queue, and has left the target at an address like
this. The other targets are as they were. -/
structure Bus.Leaves (bus : Bus) (raw : UInt8) (target : Target) (bus' : Bus) : Prop where
  targets : bus'.targets = (bus.setTarget raw (some target)).targets
  faults : bus'.faults = bus.faults.tail

theorem Bus.Leaves.present {bus bus' : Bus} {raw : UInt8} {target : Target}
    (left : bus.Leaves raw target bus') : bus'.target? raw = some target :=
  (Bus.target?_congr left.targets raw).trans (bus.target?_setTarget_self raw _)

theorem Bus.Leaves.target?_of_ne {bus bus' : Bus} {raw other : UInt8} {target : Target}
    (left : bus.Leaves raw target bus') (ne : raw ≠ other) :
    bus'.target? other = bus.target? other :=
  (Bus.target?_congr left.targets other).trans (bus.target?_setTarget_of_ne ne _)

theorem Bus.transfer_exchange {bus : Bus} {address : Address} {target : Target}
    {segments : List Segment} (present : bus.target? address.raw = some target)
    (pos : 0 < segments.length) :
    let exchanged := target.exchange false bus.faults.head?.join segments
    ∃ after, bus.transfer address segments = (exchanged.result, exchanged.received, after) ∧
      bus.Leaves address.raw exchanged.target after := by
  obtain ⟨kind, strikes⟩ | passes := Target.strikes_or_passes bus.faults.head?.join
  · cases segments with
    | nil => cases pos
    | cons segment rest =>
      rw [strikes, Target.exchange_cons_strikes, transfer_strikes strikes]
      have same := bus.setTarget_same address.raw
      rw [present] at same
      exact ⟨_, rfl, by rw [same]; rfl, rfl⟩
  · exact ⟨_, transfer_present passes present segments, rfl, rfl⟩

namespace Master

variable {master : Master} {t : Transaction} {target : Target}

theorem complete_exchange (present : master.bus.target? t.address.raw = some target) :
    let exchanged := target.exchange false master.bus.faults.head?.join t.sequence.segments
    (master.complete t).1.1 = exchanged.result.mapError .i2c ∧
      (master.complete t).1.2.body = t.body.receive exchanged.received ∧
      master.bus.Leaves t.address.raw exchanged.target (master.complete t).2.bus := by
  intro exchanged
  obtain ⟨after, transferred, targets, faults⟩ :=
    Bus.transfer_exchange present t.sequence.length_segments_pos
  cases result : exchanged.result with
  | ok =>
    rw [result] at transferred
    rw [master.complete_ok t transferred]
    exact ⟨rfl, rfl, targets, faults⟩
  | error kind =>
    rw [result] at transferred
    rw [master.complete_error t transferred]
    exact ⟨rfl, rfl, targets, faults⟩

theorem run_exchange (timing : Option Timing) (accepted : t.attach.1 = true)
    (present : master.bus.target? t.address.raw = some target) :
    let exchanged := target.exchange false master.bus.faults.head?.join t.sequence.segments
    (master.run timing t).1.1 = exchanged.result.mapError .i2c ∧
      (master.run timing t).1.2.body = t.body.receive exchanged.received ∧
      master.bus.Leaves t.address.raw exchanged.target (master.run timing t).2.bus := by
  rw [run_accepted master timing t accepted]
  have same := master.opened_targets timing t
  have faults := master.opened_faults timing t
  rw [← Bus.target?_congr same] at present
  obtain ⟨result, body, left⟩ := complete_exchange (t := t.attached) present
  rw [faults] at result body left
  refine ⟨result, body, ?_, left.faults.trans (congrArg List.tail faults)⟩
  refine left.targets.trans ?_
  simp only [Bus.setTarget, same, Transaction.attached_address, Transaction.attached_sequence]

end Master

theorem SharedBus.perform_exchange {shared : SharedBus} {t : Transaction} {target : Target}
    (timing : Option Timing) (accepted : t.attach.1 = true)
    (present : shared.master.bus.target? t.address.raw = some target) {segments : List Segment}
    (carries : t.sequence.segments = segments) :
    let exchanged := target.exchange false shared.master.bus.faults.head?.join segments
    let performed := medium.perform (.transact timing t) shared
    performed.1.1 = exchanged.result.mapError .i2c ∧
      performed.1.2.body = t.body.receive exchanged.received ∧
      shared.master.bus.Leaves t.address.raw exchanged.target performed.2.master.bus := by
  subst carries
  exact Master.run_exchange timing accepted present

end SensorBus.I2c
