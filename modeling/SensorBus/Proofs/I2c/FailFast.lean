import SensorBus.I2c.Device
import SensorBus.Proofs.I2c.Meeting
import SensorBus.Proofs.I2c.Stepping
import SensorBus.Proofs.Job.Record

namespace SensorBus.I2c

section

variable {σ α β : Type}

/-- A transaction that fails is the last request, and its error the result. -/
def Quits : Progress interface σ (Except Error α) → Prop
  | .done .. => True
  | .ask _ (.transact ..) next =>
    (∀ error t, ∃ state, next (.error error, t) = .done state (.error error)) ∧
      ∀ t, Quits (next (.ok (), t))
  | .ask _ (.delay _) next => Quits (next ())

def FailsFast (op : Operation interface σ (Except Error α)) : Prop := ∀ state, Quits (op state)

theorem Quits.bind {p : Progress interface σ (Except Error α)}
    {rest : Except Error α → σ → Progress interface σ (Except Error β)} (first : Quits p)
    (fails : ∀ error state, rest (.error error) state = .done state (.error error))
    (second : ∀ value state, Quits (rest (.ok value) state)) : Quits (p.bind rest) := by
  induction p with
  | done state result =>
    cases result with
    | ok value => exact second value state
    | error error =>
      change Quits (rest (.error error) state)
      rw [fails]
      trivial
  | ask state r next ih =>
    cases r with
    | delay => exact ih () first
    | transact timing t =>
      refine ⟨fun error t => ?_, fun t => ih _ (first.2 t)⟩
      obtain ⟨state, failed⟩ := first.1 error t
      refine ⟨state, ?_⟩
      change (next (.error error, t)).bind rest = _
      rw [failed]
      exact fails error state

namespace FailsFast

theorem pure (result : Except Error α) :
    FailsFast (Pure.pure result : Operation interface σ (Except Error α)) :=
  fun _ => trivial

theorem attempt {x : Attempt σ α} {rest : α → Attempt σ β} (first : FailsFast x.run)
    (second : ∀ value, FailsFast (rest value).run) : FailsFast (x >>= rest).run :=
  fun state => (first state).bind (fun _ _ => rfl) second

theorem map {f : α → β} {x : Attempt σ α} (fast : FailsFast x.run) : FailsFast (f <$> x).run := by
  rw [map_eq_pure_bind]
  exact attempt fast fun value => pure (.ok (f value))

theorem run (device : Device) (t : Transaction) {f : Outcome → Except Error α}
    (passes : ∀ error t, f (.error error, t) = .error error) :
    FailsFast (device.run t >>= fun outcome => Pure.pure (f outcome) :
      Operation interface σ (Except Error α)) :=
  fun state => ⟨fun error t => ⟨state, congrArg _ (passes error t)⟩, fun _ => trivial⟩

theorem pause (duration : Delay) : FailsFast (I2c.pause duration : Attempt σ Unit).run :=
  fun _ => trivial

variable (device : Device)

theorem writePrefixed (head payload : List UInt8) :
    FailsFast (device.writePrefixed head payload : Attempt σ Unit).run :=
  run device _ fun _ _ => rfl

theorem writeRegister (register value : UInt8) :
    FailsFast (device.writeRegister register value : Attempt σ Unit).run :=
  writePrefixed device [] [register, value]

theorem registers (register : UInt8) (count : Nat) :
    FailsFast (device.registers register count : Attempt σ (List UInt8)).run :=
  fun state => ⟨fun _ _ => ⟨state, rfl⟩, fun _ => trivial⟩

theorem readRegister (register : UInt8) :
    FailsFast (device.readRegister register : Attempt σ UInt8).run :=
  attempt (registers device register 1) fun _ => pure _

end FailsFast

end

def failure? : Entry interface → Option Error
  | ⟨.transact .., some (.error error, _)⟩ => some error
  | _ => none

def Clean (record : Record interface) : Prop := ∀ entry ∈ record, failure? entry = none

inductive Settled {α : Type} : Except Error α → Record interface → Prop
  | clean {result : Except Error α} {record : Record interface} (clean : Clean record) :
      Settled result record
  | failed {past : Record interface} {entry : Entry interface} {error : Error} (clean : Clean past)
      (failed : failure? entry = some error) : Settled (.error error) (past ++ [entry])

/-- The first transaction that fails is the last request, and its error the result. -/
def FailedLast {α : Type} (result? : Option (Except Error α)) (record : Record interface) : Prop :=
  ∀ past entry rest error, record = past ++ entry :: rest → failure? entry = some error →
    rest = [] ∧ result? = some (.error error)

section

variable {σ α : Type} {past record : Record interface} {entry : Entry interface}

theorem Clean.append_singleton (clean : Clean past) (passed : failure? entry = none) :
    Clean (past ++ [entry]) := by
  intro found mem
  obtain mem | mem := List.mem_append.1 mem
  · exact clean found mem
  · rwa [List.mem_singleton.1 mem]

theorem Clean.failedLast {result? : Option (Except Error α)} (clean : Clean record) :
    FailedLast result? record := by
  rintro past entry rest error rfl failed
  have passed := clean entry (by simp)
  rw [passed] at failed
  cases failed

theorem Settled.failedLast {result : Except Error α} (settled : Settled result record) :
    FailedLast (some result) record := by
  cases settled with
  | clean clean => exact clean.failedLast
  | @failed before last error clean failed =>
    rintro past entry rest error' eq failed'
    -- An earlier failure would be among those before the last entry, where there is none.
    obtain rfl | ⟨init, final, rfl⟩ := rest.eq_nil_or_concat
    · obtain ⟨-, same⟩ := List.append_inj' eq rfl
      cases same
      rw [failed] at failed'
      cases failed'
      exact ⟨rfl, rfl⟩
    · have split : before ++ [last] = (past ++ entry :: init) ++ [final] := by simpa using eq
      obtain ⟨rfl, -⟩ := List.append_inj' split rfl
      rw [clean entry (by simp)] at failed'
      cases failed'

theorem Quits.along {p : Progress interface σ (Except Error α)} (quits : Quits p)
    (clean : Clean past) :
    p.Along (fun _ _ => True) (fun _ record => Clean record) (fun result _ => Settled result)
      past := by
  induction p generalizing past with
  | done state result => exact .clean clean
  | ask state r next ih =>
    cases r with
    | delay duration =>
      exact ⟨clean.append_singleton rfl, fun reply _ => ih reply quits (clean.append_singleton rfl)⟩
    | transact timing t =>
      refine ⟨clean.append_singleton rfl, fun reply _ => ?_⟩
      obtain ⟨error | ⟨⟩, t'⟩ := reply
      · obtain ⟨state', failed⟩ := quits.1 error t'
        rw [failed]
        exact .failed clean rfl
      · exact ih _ (quits.2 t') (clean.append_singleton rfl)

end

theorem Target.exchange_of_ok {segments : List Segment} {target : Target} {selected : Bool}
    {fault : Option Fault} (ok : (target.exchange selected fault segments).result = .ok ()) :
    target.exchange selected fault segments = target.exchange selected none segments := by
  induction segments generalizing target selected fault with
  | nil => rfl
  | cons segment rest ih =>
    obtain ⟨kind, rfl⟩ | passes := strikes_or_passes fault
    · rw [exchange_cons_strikes] at ok
      cases ok
    · have passes' : ∀ kind, (none : Option Fault) ≠ some ⟨kind, 0⟩ := fun _ h => nomatch h
      rw [exchange_cons_passes target selected passes] at ok
      rw [exchange_cons_passes target selected passes,
        exchange_cons_passes target selected passes']
      simp only [ih ok, Option.map_none]

namespace Master

theorem complete_of_ok {master : Master} {t : Transaction}
    (ok : (master.complete t).1.1 = .ok ()) :
    ∃ target, master.bus.target? t.address.raw = some target ∧
      let exchanged := target.exchange false none t.sequence.segments
      (master.complete t).1.2 = (t.receive exchanged.received).detach .normalStop ∧
      (master.complete t).2.bus.targets =
        (master.bus.setTarget t.address.raw (some exchanged.target)).targets := by
  obtain ⟨kind, strikes⟩ | passes := Target.strikes_or_passes master.bus.faults.head?.join
  · rw [master.complete_error t (Bus.transfer_strikes strikes _ _)] at ok
    cases ok
  · cases present : master.bus.target? t.address.raw with
    | none =>
      rw [master.complete_error t (Bus.transfer_absent passes present _)] at ok
      cases ok
    | some target =>
      have transferred := Bus.transfer_present passes present t.sequence.segments
      refine ⟨target, rfl, ?_⟩
      cases result : (target.exchange false master.bus.faults.head?.join t.sequence.segments).result
        with
      | error kind =>
        simp only [result] at transferred
        rw [master.complete_error t transferred] at ok
        cases ok
      | ok =>
        rw [Target.exchange_of_ok result] at transferred
        simp only [Target.exchange_ok] at transferred
        rw [master.complete_ok t transferred]
        exact ⟨rfl, rfl⟩

theorem run_of_ok {master : Master} {timing : Option Timing} {t : Transaction}
    (ok : (master.run timing t).1.1 = .ok ()) :
    (master.run timing t).1 = (t.meet (master.bus.target? t.address.raw)).1 ∧
      (master.run timing t).2.bus.targets =
        (master.bus.setTarget t.address.raw
          (t.meet (master.bus.target? t.address.raw)).2).targets := by
  cases accepted : t.attach.1 with
  | false =>
    rw [master.run_refused timing t accepted] at ok
    cases ok
  | true =>
    rw [master.run_accepted timing t accepted] at ok ⊢
    obtain ⟨target, present, left, targets⟩ := complete_of_ok ok
    have same := master.opened_targets timing t
    rw [Bus.target?_congr same, Transaction.attached_address] at present
    rw [Transaction.attached_sequence] at left
    rw [Transaction.attached_sequence, Transaction.attached_address] at targets
    have met : t.meet (some target) =
        ((.ok (), (t.attached.receive
          (target.exchange false none t.sequence.segments).received).detach .normalStop),
        some (target.exchange false none t.sequence.segments).target) := by
      simp only [Transaction.meet, accepted, if_true]
    rw [present, met]
    refine ⟨Prod.ext ok left, targets.trans ?_⟩
    simp only [Bus.setTarget, same]

def faultless (master : Master) : Master :=
  { master with bus := { master.bus with faults := [] } }

end Master

structure SharedBus.Calm (shared calm : SharedBus) : Prop where
  targets : calm.master.bus.targets = shared.master.bus.targets
  faultless : calm.master.bus.Faultless

theorem SharedBus.Calm.transact {shared calm : SharedBus} (same : shared.Calm calm)
    (timing : Option Timing) (t : Transaction)
    (ok : (medium.perform (.transact timing t) shared).1.1 = .ok ()) :
    (medium.perform (.transact timing t) calm).1 =
        (medium.perform (.transact timing t) shared).1 ∧
      (medium.perform (.transact timing t) shared).2.Calm
        (medium.perform (.transact timing t) calm).2 := by
  obtain ⟨outcome, targets⟩ := Master.run_of_ok ok
  obtain ⟨outcome', met⟩ := calm.master.run_meets same.faultless timing t
  have target := Bus.target?_congr same.targets t.address.raw
  rw [target] at outcome'
  refine ⟨outcome'.trans outcome.symm, ?_, met.faultless⟩
  refine met.targets.trans (Eq.trans ?_ targets.symm)
  simp only [target, Bus.setTarget, same.targets]

section

variable {σ α : Type}

theorem Quits.requests_begin {p : Progress interface σ (Except Error α)} (quits : Quits p)
    {shared calm : SharedBus} (same : shared.Calm calm) :
    (p.queries SharedBus.medium shared).map (·.1.request) <+:
      (p.queries SharedBus.medium calm).map (·.1.request) := by
  induction p generalizing shared calm with
  | done state result => exact List.prefix_refl _
  | ask state r next ih =>
    cases r with
    | delay duration =>
      exact (List.prefix_cons_inj _).2 (ih () quits ⟨same.targets, same.faultless⟩)
    | transact timing t =>
      refine (List.prefix_cons_inj _).2 ?_
      change ((next (SharedBus.medium.perform (.transact timing t) shared).1).queries
          SharedBus.medium (SharedBus.medium.perform (.transact timing t) shared).2).map _ <+:
        ((next (SharedBus.medium.perform (.transact timing t) calm).1).queries
          SharedBus.medium (SharedBus.medium.perform (.transact timing t) calm).2).map _
      have passes := same.transact timing t
      generalize SharedBus.medium.perform (.transact timing t) shared = performed at passes ⊢
      generalize SharedBus.medium.perform (.transact timing t) calm = performed' at passes ⊢
      obtain ⟨⟨error | ⟨⟩, t'⟩, after⟩ := performed
      · obtain ⟨state', failed⟩ := quits.1 error t'
        rw [failed]
        exact List.nil_prefix
      · obtain ⟨outcome', after'⟩ := performed'
        obtain ⟨rfl, same⟩ := passes rfl
        exact ih _ (quits.2 t') same

/-- However often it is polled and wherever it is dropped, whatever faults strike: such an operation
asks for the first of the requests that it would make without faults, and for nothing more once a
transaction has failed. -/
theorem FailsFast.carryOut {op : Operation interface σ (Except Error α)} (fast : FailsFast op)
    (state : σ) (master : Master) (polls : Option Nat) :
    let came := op.carryOut SharedBus.medium.recorded polls state ({ master }, [])
    let whole := op.run SharedBus.medium.recorded state ({ master := master.faultless }, [])
    came.2.2.2.requests <+: whole.2.2.2.requests ∧ FailedLast came.1.result? came.2.2.2 := by
  intro came whole
  have calm : SharedBus.Calm { master } { master := master.faultless } :=
    ⟨rfl, fun _ mem => nomatch mem⟩
  have alone : SharedBus.Alone master.bus.yields master.bus.delaysSuspend { master } :=
    ⟨rfl, rfl, rfl⟩
  have punctual := SharedBus.punctual master.bus.yields master.bus.delaysSuspend
  refine ⟨?_, ?_⟩
  · have requests : whole.2.2.2.requests = _ := (op state).requests_run _
    rw [requests]
    exact (punctual.requests_carryOut op state alone polls).trans
      ((fast state).requests_begin calm)
  · have clean : Clean [] := fun _ mem => nomatch mem
    obtain ⟨result, ended, settled⟩ | ⟨stopped, clean⟩ :=
      punctual.along_carryOut (fun _ _ => trivial) ((fast state).along clean) clean alone polls
    · have ended : came.1.result? = some result := ended
      rw [ended]
      exact settled.failedLast
    · exact clean.failedLast

end

end SensorBus.I2c
