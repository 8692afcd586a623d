import SensorBus.Proofs.I2c.Turn

namespace SensorBus.I2c

namespace Target

theorem exchange_ok (segments : List Segment) (target : Target) (selected : Bool) :
    (target.exchange selected none segments).result = .ok () := by
  induction segments generalizing target selected with
  | nil => rfl
  | cons segment rest ih =>
    have passes : ∀ kind, (none : Option Fault) ≠ some ⟨kind, 0⟩ := fun _ h => nomatch h
    rw [exchange_cons_passes target selected passes]
    exact ih _ _

end Target

def Transaction.meet (t : Transaction) (target? : Option Target) : Outcome × Option Target :=
  if t.attach.1 then
    match target? with
    | none =>
      ((.error (.i2c (.noAcknowledge .address)),
        (t.attached.receive []).detach .errorCondition), none)
    | some target =>
      let exchanged := target.exchange false none t.sequence.segments
      ((.ok (), (t.attached.receive exchanged.received).detach .normalStop), some exchanged.target)
  else ((.error .transactionBusy, t.detach .failedToAttach), target?)

namespace Bus

theorem target?_setTarget_self (bus : Bus) (raw : UInt8) (target? : Option Target) :
    (bus.setTarget raw target?).target? raw = target? := by
  simp [setTarget, Bus.target?]

theorem target?_setTarget_of_ne {raw other : UInt8} (ne : raw ≠ other) (bus : Bus)
    (target? : Option Target) : (bus.setTarget raw target?).target? other = bus.target? other := by
  have ne : raw.toNat ≠ other.toNat := fun h => ne (UInt8.toNat_inj.1 h)
  simp [setTarget, Bus.target?, ne]

theorem setTarget_same (bus : Bus) (raw : UInt8) : bus.setTarget raw (bus.target? raw) = bus := by
  simp [setTarget, Bus.target?]

theorem target?_congr {bus bus' : Bus} (same : bus'.targets = bus.targets) (raw : UInt8) :
    bus'.target? raw = bus.target? raw := by
  unfold Bus.target?
  simp only [same]

def Faultless (bus : Bus) : Prop := ∀ fault ∈ bus.faults, fault = none

theorem Faultless.head {bus : Bus} (faultless : bus.Faultless) : bus.faults.head?.join = none := by
  cases faults : bus.faults with
  | nil => rfl
  | cons fault rest =>
    have none := faultless fault (by simp [faults])
    simp [none]

theorem Faultless.tail {bus bus' : Bus} (faultless : bus.Faultless)
    (tail : bus'.faults = bus.faults.tail) : bus'.Faultless := by
  intro fault mem
  rw [tail] at mem
  exact faultless fault (List.mem_of_mem_tail mem)

/-- After `bus` met the transaction only the target at its address may have changed. -/
structure Met (bus : Bus) (t : Transaction) (bus' : Bus) : Prop where
  targets : bus'.targets =
    (bus.setTarget t.address.raw (t.meet (bus.target? t.address.raw)).2).targets
  faultless : bus'.Faultless

theorem Met.of_same {bus before bus' : Bus} {t : Transaction} (met : bus.Met t bus')
    (same : bus.targets = before.targets) : before.Met t bus' where
  targets := by
    rw [met.targets, ← target?_congr same]
    simp only [setTarget, same]
  faultless := met.faultless

theorem Met.target?_self {bus bus' : Bus} {t : Transaction} (met : bus.Met t bus') :
    bus'.target? t.address.raw = (t.meet (bus.target? t.address.raw)).2 :=
  (target?_congr met.targets _).trans (bus.target?_setTarget_self _ _)

theorem Met.target?_of_ne {bus bus' : Bus} {t : Transaction} (met : bus.Met t bus') {raw : UInt8}
    (ne : t.address.raw ≠ raw) : bus'.target? raw = bus.target? raw :=
  (target?_congr met.targets _).trans (bus.target?_setTarget_of_ne ne _)

end Bus

namespace Master

theorem complete_meets (master : Master) (faultless : master.bus.Faultless) {t : Transaction}
    (accepted : t.attach.1 = true) :
    (master.complete t.attached).1 = (t.meet (master.bus.target? t.address.raw)).1 ∧
      master.bus.Met t (master.complete t.attached).2.bus := by
  have passes : ∀ kind, master.bus.faults.head?.join ≠ some ⟨kind, 0⟩ := by
    rw [faultless.head]
    exact fun _ h => nomatch h
  cases present : master.bus.target? t.address.raw with
  | none =>
    have transferred : master.bus.transfer t.address t.sequence.segments = _ :=
      Bus.transfer_absent passes present _
    have same := master.bus.setTarget_same t.address.raw
    rw [present] at same
    refine ⟨?_, ?_, faultless.tail ?_⟩
    · simp [complete, transferred, Transaction.meet, accepted, Bus.detach]
    · simp [complete, transferred, Transaction.meet, accepted, present, same, Bus.detach,
        Bus.report_eq_note, Bus.note]
    · simp [complete, transferred, Bus.detach, Bus.report_eq_note, Bus.note]
  | some target =>
    have transferred : master.bus.transfer t.address t.sequence.segments = _ :=
      Bus.transfer_present passes present _
    rw [faultless.head] at transferred
    have ok := Target.exchange_ok t.sequence.segments target false
    refine ⟨?_, ?_, faultless.tail ?_⟩
    · simp [complete, transferred, ok, Transaction.meet, accepted, Bus.detach]
    · simp [complete, transferred, ok, Transaction.meet, accepted, present, Bus.detach,
        Bus.report_eq_note, Bus.note, Bus.setTarget]
    · simp [complete, transferred, ok, Bus.detach, Bus.report_eq_note, Bus.note, Bus.setTarget]

theorem opened_faultless {master : Master} (faultless : master.bus.Faultless)
    (timing : Option Timing) (t : Transaction) : (master.opened timing t).bus.Faultless := by
  unfold Bus.Faultless
  rw [opened_faults]
  exact faultless

theorem opened_complete_meets (master : Master) (faultless : master.bus.Faultless)
    (timing : Option Timing) {t : Transaction} (accepted : t.attach.1 = true) :
    ((master.opened timing t).complete t.attached).1 =
        (t.meet (master.bus.target? t.address.raw)).1 ∧
      master.bus.Met t ((master.opened timing t).complete t.attached).2.bus := by
  have same := master.opened_targets timing t
  obtain ⟨outcome, met⟩ := complete_meets (master.opened timing t)
    (opened_faultless faultless timing t) accepted
  rw [Bus.target?_congr same] at outcome
  exact ⟨outcome, met.of_same same⟩

theorem refused_meets (master : Master) (faultless : master.bus.Faultless) {t : Transaction}
    (refused : t.attach.1 = false) (events : List Event) :
    t.meet (master.bus.target? t.address.raw) =
        ((.error .transactionBusy, t.detach .failedToAttach),
          master.bus.target? t.address.raw) ∧
      master.bus.Met t (master.bus.note events) := by
  have met : t.meet (master.bus.target? t.address.raw) =
      ((.error .transactionBusy, t.detach .failedToAttach),
        master.bus.target? t.address.raw) := by
    simp [Transaction.meet, refused]
  refine ⟨met, ?_, faultless⟩
  rw [met, master.bus.setTarget_same]
  rfl

theorem run_meets (master : Master) (faultless : master.bus.Faultless) (timing : Option Timing)
    (t : Transaction) :
    (master.run timing t).1 = (t.meet (master.bus.target? t.address.raw)).1 ∧
      master.bus.Met t (master.run timing t).2.bus := by
  cases accepted : t.attach.1 with
  | false =>
    rw [run_refused master timing t accepted]
    obtain ⟨outcome, met⟩ := master.refused_meets faultless accepted
      (t.told [.attaching false] ++ t.told [.detaching .failedToAttach])
    exact ⟨by rw [outcome], met⟩
  | true =>
    rw [run_accepted master timing t accepted]
    exact master.opened_complete_meets faultless timing accepted

end Master

inductive InFlight : (r : Request) → SharedBus.Flight r → Prop
  | waiting {timing : Option Timing} {t : Transaction} :
      InFlight (.transact timing t) (Turn.waiting timing t)
  | holding {timing : Option Timing} {t : Transaction} {left : Nat} (accepted : t.attach.1 = true) :
      InFlight (.transact timing t) (Turn.holding ⟨t.attached, left⟩)

theorem InFlight.poll {timing : Option Timing} {t : Transaction} {turn turn' : Turn}
    {shared after : SharedBus} (carried : InFlight (.transact timing t) turn)
    (polled : turn.poll shared = (.pending turn', after)) :
    InFlight (.transact timing t) turn' := by
  cases carried with
  | waiting =>
    have waited := Turn.poll_waiting shared timing t
    rw [polled] at waited
    cases waited with
    | held => exact .waiting
    | begun free accepted left => exact .holding accepted
  | @holding _ _ left accepted =>
    cases left with
    | zero => cases polled
    | succ left =>
      cases polled
      exact .holding accepted

inductive Turn.Serves (shared : SharedBus) (timing : Option Timing) (t : Transaction) :
    Poll Turn Outcome × SharedBus → Prop
  | replies {outcome : Outcome} {shared' : SharedBus}
      (outcome_eq : outcome = (t.meet (shared.master.bus.target? t.address.raw)).1)
      (met : shared.master.bus.Met t shared'.master.bus) :
      Serves shared timing t (.ready outcome, shared')
  | suspends {turn : Turn} {shared' : SharedBus}
      (carried : InFlight (.transact timing t) turn)
      (same : shared'.master.bus.targets = shared.master.bus.targets)
      (faultless : shared'.master.bus.Faultless) :
      Serves shared timing t (.pending turn, shared')

theorem Turn.poll_serves {turn : Turn} {shared : SharedBus} {timing : Option Timing}
    {t : Transaction} (carried : InFlight (.transact timing t) turn)
    (faultless : shared.master.bus.Faultless) :
    Serves shared timing t (turn.poll shared) := by
  cases carried with
  | waiting =>
    have waited := Turn.poll_waiting shared timing t
    generalize (Turn.waiting timing t).poll shared = polled at waited
    cases waited with
    | held locked => exact .suspends .waiting rfl faultless
    | refused free refused =>
      obtain ⟨outcome, met⟩ := shared.master.refused_meets faultless refused
        (t.told [.attaching false] ++ t.told [.detaching .failedToAttach])
      exact .replies (by rw [outcome]) met
    | through free accepted =>
      obtain ⟨outcome, met⟩ :=
        shared.master.opened_complete_meets faultless timing accepted
      exact .replies outcome met
    | begun free accepted left =>
      exact .suspends (.holding accepted) (shared.master.opened_targets timing t)
        (Master.opened_faultless faultless timing t)
  | @holding _ _ left accepted =>
    cases left with
    | zero =>
      obtain ⟨outcome, met⟩ := shared.master.complete_meets faultless accepted
      exact .replies outcome met
    | succ left => exact .suspends (.holding accepted) rfl faultless

end SensorBus.I2c
