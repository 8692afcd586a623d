import SensorBus.I2c.Master

namespace SensorBus.I2c

def Segment.event : Segment → Event
  | .write bytes => .write bytes
  | .read length => .read length

namespace Transaction

def events (t : Transaction) : List Event := t.sequence.segments.map Segment.event

/-- The marks that show in the log, which are none unless the transaction reports. -/
def told (t : Transaction) (marks : List Event) : List Event := if t.reports then marks else []

def attached (t : Transaction) : Transaction := { t with state := .busy }

@[simp] theorem attached_address (t : Transaction) : t.attached.address = t.address := rfl

@[simp] theorem attached_sequence (t : Transaction) : t.attached.sequence = t.sequence := rfl

@[simp] theorem attached_told (t : Transaction) : t.attached.told = t.told := rfl

@[simp] theorem receive_told (t : Transaction) (received : List UInt8) :
    (t.receive received).told = t.told := rfl

theorem attach_snd (t : Transaction) : t.attach.2 = if t.attach.1 then t.attached else t := rfl

theorem told_subset (t : Transaction) (marks : List Event) : t.told marks ⊆ marks := by
  unfold told
  split <;> simp

end Transaction

namespace Target

theorem strikes_or_passes (fault : Option Fault) :
    (∃ kind, fault = some ⟨kind, 0⟩) ∨ ∀ kind, fault ≠ some ⟨kind, 0⟩ := by
  rcases fault with _ | ⟨kind, _ | after⟩
  · exact .inr fun kind h => nomatch h
  · exact .inl ⟨kind, rfl⟩
  · exact .inr fun kind h => nomatch h

/-- Carry out one segment: the target then, whether a register was selected by then, and the bytes
received. -/
def carry (target : Target) (selected : Bool) : Segment → Target × Bool × List UInt8
  | .write bytes => ((target.write selected bytes).1, (target.write selected bytes).2, [])
  | .read length => ((target.read length).2, selected, (target.read length).1)

theorem exchange_cons_strikes (target : Target) (selected : Bool) (kind : ErrorKind)
    (segment : Segment) (rest : List Segment) :
    target.exchange selected (some ⟨kind, 0⟩) (segment :: rest) =
      { target, result := .error kind } := by
  cases segment <;> rfl

theorem exchange_cons_passes (target : Target) (selected : Bool) {fault : Option Fault}
    (passes : ∀ kind, fault ≠ some ⟨kind, 0⟩) (segment : Segment) (rest : List Segment) :
    target.exchange selected fault (segment :: rest) =
      let carried := target.carry selected segment
      let exchanged := carried.1.exchange carried.2.1
        (fault.map fun fault => { fault with after := fault.after - 1 }) rest
      { exchanged with
        received := carried.2.2 ++ exchanged.received
        events := segment.event :: exchanged.events } := by
  rcases fault with _ | ⟨kind, _ | after⟩
  · cases segment <;> rfl
  · exact absurd rfl (passes kind)
  · cases segment <;> rfl

theorem exchange_events (segments : List Segment) (target : Target) (selected : Bool)
    (fault : Option Fault) :
    (target.exchange selected fault segments).events <+: segments.map Segment.event ∧
      ((target.exchange selected fault segments).result = .ok () →
        (target.exchange selected fault segments).events = segments.map Segment.event) := by
  induction segments generalizing target selected fault with
  | nil => exact ⟨List.prefix_refl _, fun _ => rfl⟩
  | cons segment rest ih =>
    obtain ⟨kind, rfl⟩ | passes := strikes_or_passes fault
    · rw [exchange_cons_strikes]
      exact ⟨List.nil_prefix, fun h => nomatch h⟩
    · rw [exchange_cons_passes target selected passes]
      obtain ⟨before, whole⟩ := ih (target.carry selected segment).1
        (target.carry selected segment).2.1
        (fault.map fun fault => { fault with after := fault.after - 1 })
      exact ⟨List.prefix_cons_inj _ |>.2 before, fun h => congrArg _ (whole h)⟩

end Target

namespace Bus

@[simp] theorem note_log (bus : Bus) (events : List Event) :
    (bus.note events).log = bus.log ++ events := rfl

@[simp] theorem note_note (bus : Bus) (first second : List Event) :
    (bus.note first).note second = bus.note (first ++ second) := by
  simp [note]

@[simp] theorem note_nil (bus : Bus) : bus.note [] = bus := by
  simp [note]

theorem report_eq_note (bus : Bus) (t : Transaction) (event : Event) :
    bus.report t event = bus.note (t.told [event]) := by
  unfold report Transaction.told
  split <;> simp

theorem transfer_strikes {bus : Bus} {kind : ErrorKind}
    (strikes : bus.faults.head?.join = some ⟨kind, 0⟩) (address : Address)
    (segments : List Segment) :
    bus.transfer address segments =
      (.error kind, [], { bus with faults := bus.faults.tail }.note [.stop address]) := by
  simp only [transfer, strikes]

theorem transfer_absent {bus : Bus} (passes : ∀ kind, bus.faults.head?.join ≠ some ⟨kind, 0⟩)
    {address : Address} (absent : bus.target? address.raw = none) (segments : List Segment) :
    bus.transfer address segments =
      (.error (.noAcknowledge .address), [],
        { bus with faults := bus.faults.tail }.note [.stop address]) := by
  have absent' : { bus with faults := bus.faults.tail }.target? address.raw = none := absent
  rcases h : bus.faults.head?.join with _ | ⟨kind, _ | after⟩
  · simp only [transfer, h, absent']
  · exact absurd h (passes kind)
  · simp only [transfer, h, absent']

theorem transfer_present {bus : Bus} (passes : ∀ kind, bus.faults.head?.join ≠ some ⟨kind, 0⟩)
    {address : Address} {target : Target} (present : bus.target? address.raw = some target)
    (segments : List Segment) :
    bus.transfer address segments =
      let exchanged := target.exchange false bus.faults.head?.join segments
      (exchanged.result, exchanged.received,
        ({ bus with faults := bus.faults.tail }.setTarget address.raw exchanged.target).note
          (exchanged.events ++ [Event.stop address])) := by
  have present' : { bus with faults := bus.faults.tail }.target? address.raw = some target :=
    present
  rcases h : bus.faults.head?.join with _ | ⟨kind, _ | after⟩
  · simp only [transfer, h, present']
  · exact absurd h (passes kind)
  · simp only [transfer, h, present']

theorem transfer_log (bus : Bus) (address : Address) (segments : List Segment) :
    ∃ body, body <+: segments.map Segment.event ∧
      ((bus.transfer address segments).1 = .ok () → body = segments.map Segment.event) ∧
      (bus.transfer address segments).2.2.log = bus.log ++ (body ++ [.stop address]) := by
  obtain ⟨kind, strikes⟩ | passes := Target.strikes_or_passes bus.faults.head?.join
  · rw [transfer_strikes strikes]
    exact ⟨[], List.nil_prefix, fun h => (nomatch h), rfl⟩
  · cases present : bus.target? address.raw with
    | none =>
      rw [transfer_absent passes present]
      exact ⟨[], List.nil_prefix, fun h => (nomatch h), rfl⟩
    | some target =>
      rw [transfer_present passes present]
      obtain ⟨before, whole⟩ :=
        Target.exchange_events segments target false bus.faults.head?.join
      exact ⟨_, before, whole, rfl⟩

end Bus

namespace Master

def due (master : Master) (timing : Option Timing) : Option Timing :=
  if master.applied = timing then none else timing

theorem time_eq (master : Master) (timing : Option Timing) :
    master.time timing =
      { master with
        bus := { master.bus.note ((master.due timing).toList.map .timed) with
          frequency := ((master.due timing).map Timing.hertz).getD master.bus.frequency }
        applied := timing <|> master.applied } := by
  cases timing with
  | none => simp [time, due]
  | some timing =>
    rcases master with ⟨bus, applied, lastError⟩
    by_cases same : applied = some timing
    · subst same
      simp [time, due]
    · simp [time, due, same, Bus.apply]

/-- The master with a transaction that was accepted, once the start is on the bus. -/
def opened (master : Master) (timing : Option Timing) (t : Transaction) : Master :=
  let timed := Master.time { master with bus := master.bus.note (t.told [.attaching true]) } timing
  { timed with bus := timed.bus.note (t.told [.sequenced] ++ [.start t.address]) }

section

variable (master : Master) (timing : Option Timing) (t : Transaction)

@[simp] theorem opened_lastError : (master.opened timing t).lastError = master.lastError := by
  simp [opened, time_eq]

@[simp] theorem opened_yields : (master.opened timing t).bus.yields = master.bus.yields := by
  simp [opened, time_eq, Bus.note]

@[simp] theorem opened_faults : (master.opened timing t).bus.faults = master.bus.faults := by
  simp [opened, time_eq, Bus.note]

@[simp] theorem opened_targets : (master.opened timing t).bus.targets = master.bus.targets := by
  simp [opened, time_eq, Bus.note]

theorem opened_log : (master.opened timing t).bus.log =
    master.bus.log ++ (t.told [.attaching true] ++ (master.due timing).toList.map .timed ++
      t.told [.sequenced] ++ [.start t.address]) := by
  simp [opened, time_eq, due, Bus.note]

theorem begin_refused (refused : t.attach.1 = false) :
    master.begin timing t = (.ready (.error .transactionBusy, t.detach .failedToAttach),
      { master with
        bus := master.bus.note
          (t.told [.attaching false] ++ t.told [.detaching .failedToAttach]) }) := by
  have same : t.attach.2 = t := by simp [Transaction.attach_snd, refused]
  simp [begin, Bus.attach, Bus.detach, refused, same, Bus.report_eq_note]

theorem begin_accepted (accepted : t.attach.1 = true) :
    master.begin timing t =
      match master.bus.yields with
      | 0 =>
        (.ready ((master.opened timing t).complete t.attached).1,
          ((master.opened timing t).complete t.attached).2)
      | left + 1 => (.pending ⟨t.attached, left⟩, master.opened timing t) := by
  have same : t.attach.2 = t.attached := by simp [Transaction.attach_snd, accepted]
  have opened : { (Master.time { master with bus := master.bus.report t (.attaching true) } timing)
      with bus := ((Master.time { master with bus := master.bus.report t (.attaching true) }
        timing).bus.report t.attached .sequenced).note [.start t.attached.address] } =
      master.opened timing t := by
    simp [Master.opened, Bus.report_eq_note]
  have yields : (((Master.time { master with bus := master.bus.report t (.attaching true) }
      timing).bus.report t.attached .sequenced).note [.start t.attached.address]).yields =
        master.bus.yields := by
    rw [← opened_yields master timing t, ← opened]
  simp only [begin, Bus.attach, accepted, same, yields]
  cases master.bus.yields with
  | zero => simp only [opened]
  | succ left => simp only [opened]

theorem complete_ok {received : List UInt8} {bus : Bus}
    (transferred : master.bus.transfer t.address t.sequence.segments = (.ok (), received, bus)) :
    master.complete t = ((.ok (), (t.receive received).detach .normalStop),
      { master with bus := bus.note (t.told [.detaching .normalStop]) }) := by
  simp [complete, transferred, Bus.detach, Bus.report_eq_note]

theorem complete_error {received : List UInt8} {bus : Bus} {kind : ErrorKind}
    (transferred : master.bus.transfer t.address t.sequence.segments =
      (.error kind, received, bus)) :
    master.complete t = ((.error (.i2c kind), (t.receive received).detach .errorCondition),
      { master with
        bus := bus.note (t.told [.detaching .errorCondition])
        lastError := some kind }) := by
  simp [complete, transferred, Bus.detach, Bus.report_eq_note]

theorem complete_cases : ∃ (received : List UInt8) (body : List Event) (bus : Bus),
    body <+: t.events ∧ bus.log = master.bus.log ++ (body ++ [.stop t.address]) ∧
      ((body = t.events ∧
          master.complete t = ((.ok (), (t.receive received).detach .normalStop),
            { master with bus := bus.note (t.told [.detaching .normalStop]) })) ∨
        ∃ kind, master.complete t =
          ((.error (.i2c kind), (t.receive received).detach .errorCondition),
          { master with
            bus := bus.note (t.told [.detaching .errorCondition])
            lastError := some kind })) := by
  obtain ⟨body, before, whole, log⟩ := master.bus.transfer_log t.address t.sequence.segments
  rcases transferred : master.bus.transfer t.address t.sequence.segments with
    ⟨kind | ⟨⟩, received, bus⟩ <;> rw [transferred] at whole log
  · exact ⟨received, body, bus, before, log, .inr ⟨kind, master.complete_error t transferred⟩⟩
  · exact ⟨received, body, bus, before, log, .inl ⟨whole rfl, master.complete_ok t transferred⟩⟩

theorem run_refused (refused : t.attach.1 = false) :
    master.run timing t = ((.error .transactionBusy, t.detach .failedToAttach),
      { master with
        bus := master.bus.note
          (t.told [.attaching false] ++ t.told [.detaching .failedToAttach]) }) := by
  rw [run, begin_refused master timing t refused]

theorem run_accepted (accepted : t.attach.1 = true) :
    master.run timing t = (master.opened timing t).complete t.attached := by
  rw [run, begin_accepted master timing t accepted]
  cases master.bus.yields <;> rfl

theorem abandon_eq (exchange : Exchange) :
    master.abandon exchange =
      { master with
        bus := master.bus.note (exchange.transaction.told [.detaching .errorCondition]) } := by
  simp [abandon, Bus.detach, Bus.report_eq_note]

end

end Master

end SensorBus.I2c
