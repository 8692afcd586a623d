import SensorBus.Proofs.I2c.Rerun

/-!
Sequences and their normal forms. A part of no length leaves no trace on a target, so that all that
a sequence does is done by its solid parts, and those are the same in the normal form.
-/

namespace SensorBus.I2c

def Segment.isSolid : Segment → Bool
  | .write bytes => !bytes.isEmpty
  | .read length => length != 0

def Event.isSolid : Event → Bool
  | .write bytes => !bytes.isEmpty
  | .read length => length != 0
  | _ => true

def Condition.isSolid : Condition → Bool
  | .write length | .read length => length != 0
  | .start | .restart | .stop => true

def Event.condition? : Event → Option Condition
  | .start _ => some .start
  | .write bytes => some (.write bytes.length)
  | .read length => some (.read length)
  | .stop _ => some .stop
  | _ => none

/-- The conditions of a stretch of the log, but for those of no length. -/
def shown (log : List Event) : List Condition :=
  (log.filterMap Event.condition?).filter Condition.isSolid

theorem shown_eq_nil {log : List Event} (hidden : ∀ event ∈ log, event.condition? = none) :
    shown log = [] := by
  rw [shown, List.filterMap_eq_nil_iff.2 hidden, List.filter_nil]

theorem shown_append (first second : List Event) :
    shown (first ++ second) = shown first ++ shown second := by
  simp [shown]

def Event.isWrite : Event → Bool
  | .write _ => true
  | _ => false

theorem shown_traffic (bus : Bus) : shown bus.traffic = shown bus.log := by
  have seen (event : Event) :
      (if event.onBus = true then event.condition? else none) = event.condition? := by
    cases event <;> rfl
  simp only [shown, Bus.traffic, List.filterMap_filter, seen]

theorem Segment.isSolid_event (segment : Segment) : segment.event.isSolid = segment.isSolid := by
  cases segment <;> rfl

namespace Sequence

def buffer : Sequence → List UInt8
  | .read buffer | .writeRead _ buffer => buffer
  | .ping | .write _ | .prefixedWrite .. => []

def IsSolid (s : Sequence) : Prop := ∀ condition ∈ s.conditions, condition.isSolid = true

theorem IsSolid.normalized_eq {s : Sequence} (solid : s.IsSolid) : s.normalized = s := by
  fun_cases normalized s <;> simp_all [IsSolid, conditions, Condition.isSolid]

variable (s : Sequence)

theorem isSolid_normalized : s.normalized.IsSolid := by
  unfold IsSolid
  fun_cases normalized s
  case case9 => cases s <;> simp_all [conditions, Condition.isSolid]
  all_goals simp_all [conditions, Condition.isSolid]

@[simp] theorem writeLength_normalized : s.normalized.writeLength = s.writeLength := by
  fun_cases normalized s <;> simp [writeLength]

@[simp] theorem readLength_normalized : s.normalized.readLength = s.readLength := by
  fun_cases normalized s <;> simp [readLength]

@[simp] theorem buffer_normalized : s.normalized.buffer = s.buffer := by
  fun_cases normalized s <;> simp [buffer]

theorem segments_normalized :
    s.normalized.segments.filter Segment.isSolid = s.segments.filter Segment.isSolid := by
  fun_cases normalized s <;> simp [segments, Segment.isSolid, List.filter]

theorem shown_segments (address : Address) :
    shown ([.start address] ++ (s.segments.map Segment.event ++ [.stop address])) =
      (s.conditions.filter (· != .restart)).filter Condition.isSolid := by
  cases s with
  | ping => rfl
  | write | read | writeRead | prefixedWrite =>
    simp only [shown, segments, conditions, List.map_cons, List.map_nil, Segment.event,
      List.cons_append, List.nil_append, List.filterMap_cons, List.filterMap_nil, Event.condition?]
    rfl

end Sequence

namespace Target

theorem write_append (target : Target) (selected : Bool) (first second : List UInt8) :
    target.write selected (first ++ second) =
      (target.write selected first).1.write (target.write selected first).2 second := by
  induction first generalizing target selected with
  | nil => rfl
  | cons byte rest ih =>
    simp only [List.cons_append, write]
    split <;> exact ih ..

theorem carry_hollow (target : Target) (selected : Bool) {segment : Segment}
    (hollow : segment.isSolid = false) :
    target.carry selected segment = (target, selected, []) := by
  rcases segment with (_ | ⟨byte, rest⟩) | (_ | length)
  · rfl
  · cases hollow
  · rfl
  · cases hollow

theorem exchange_solid (target : Target) (selected : Bool) (segments : List Segment) :
    target.exchange selected none (segments.filter Segment.isSolid) =
      { target.exchange selected none segments with
        events := (target.exchange selected none segments).events.filter Event.isSolid } := by
  have passes : ∀ kind, (none : Option Fault) ≠ some ⟨kind, 0⟩ := fun _ h => nomatch h
  induction segments generalizing target selected with
  | nil => rfl
  | cons segment rest ih =>
    rw [exchange_cons_passes target selected passes]
    cases solid : segment.isSolid with
    | false =>
      rw [List.filter_cons_of_neg (by simp [solid]), ih]
      simp [carry_hollow target selected solid, segment.isSolid_event, solid]
    | true =>
      rw [List.filter_cons_of_pos solid, exchange_cons_passes target selected passes]
      simp [ih, segment.isSolid_event, solid]

theorem exchange_joined (target : Target) (head payload : List UInt8) :
    { target.exchange false none [.write (head ++ payload)] with
      events := (target.exchange false none [.write (head ++ payload)]).events.filter
        (!·.isWrite) } =
    { target.exchange false none [.write head, .write payload] with
      events := (target.exchange false none [.write head, .write payload]).events.filter
        (!·.isWrite) } := by
  simp [exchange, write_append, Event.isWrite]

end Target

namespace Bus

def keeping (bus : Bus) (keep : Event → Bool) : Bus := { bus with log := bus.log.filter keep }

theorem keeping_note (bus : Bus) (keep : Event → Bool) (events : List Event) :
    (bus.note events).keeping keep = (bus.keeping keep).note (events.filter keep) := by
  simp [keeping, note]

/-- If a fault strikes the next transaction, it does so before the first segment. -/
def StrikesEarly (bus : Bus) : Prop :=
  ∀ fault, bus.faults.head?.join = some fault → fault.after = 0

theorem StrikesEarly.of_faults {bus bus' : Bus} (early : bus.StrikesEarly)
    (same : bus'.faults = bus.faults) : bus'.StrikesEarly := by
  unfold StrikesEarly
  rwa [same]

theorem StrikesEarly.cases {bus : Bus} (early : bus.StrikesEarly) :
    (∃ kind, bus.faults.head?.join = some ⟨kind, 0⟩) ∨ bus.faults.head?.join = none := by
  rcases popped : bus.faults.head?.join with _ | ⟨kind, after⟩
  · exact .inr rfl
  · cases early _ popped
    exact .inl ⟨kind, rfl⟩

structure TransfersAlike (bus : Bus) (keep : Event → Bool) (address : Address)
    (segments segments' : List Segment) : Prop where
  result : (bus.transfer address segments').1 = (bus.transfer address segments).1
  received : (bus.transfer address segments').2.1 = (bus.transfer address segments).2.1
  left : (bus.transfer address segments').2.2.keeping keep =
    (bus.transfer address segments).2.2.keeping keep

theorem StrikesEarly.transfersAlike {bus : Bus} (early : bus.StrikesEarly) (address : Address)
    {segments segments' : List Segment} {keep : Event → Bool}
    (same : ∀ target : Target,
      { target.exchange false none segments' with
        events := (target.exchange false none segments').events.filter keep } =
      { target.exchange false none segments with
        events := (target.exchange false none segments).events.filter keep }) :
    bus.TransfersAlike keep address segments segments' := by
  obtain ⟨kind, strikes⟩ | calm := early.cases
  -- A fault that strikes early, and a target that is missing, leave no segment to be told apart.
  · constructor <;> rw [transfer_strikes strikes, transfer_strikes strikes]
  · have passes : ∀ kind, bus.faults.head?.join ≠ some ⟨kind, 0⟩ := by
      rw [calm]
      exact fun _ h => nomatch h
    cases present : bus.target? address.raw with
    | none =>
      constructor <;> rw [transfer_absent passes present, transfer_absent passes present]
    | some target =>
      have came := transfer_present passes present
      rw [calm] at came
      obtain ⟨targets, results, received, events⟩ := Target.Exchanged.mk.inj (same target)
      constructor <;> rw [came, came]
      · exact results
      · exact received
      · simp only [keeping_note, List.filter_append, targets, events]

end Bus

/-- A caller's transaction that makes this exchange, and is like the given one but for that. -/
def Transaction.exchanging (t : Transaction) (s : Sequence) : Transaction :=
  { t with
    body :=
      match s with
      | .ping => .custom t.accepts .ping [] [] []
      | .write bytes => .custom t.accepts .write [] bytes []
      | .read buffer => .custom t.accepts .read [] [] buffer
      | .writeRead bytes buffer => .custom t.accepts .writeRead [] bytes buffer
      | .prefixedWrite head payload => .custom t.accepts .prefixedWrite head payload [] }

namespace Transaction

variable (t : Transaction) (s : Sequence)

@[simp] theorem sequence_exchanging : (t.exchanging s).sequence = s := by
  cases s <;> rfl

@[simp] theorem attach_exchanging : (t.exchanging s).attach.1 = t.accepts := by
  cases s <;> rfl

theorem buffer_receive_exchanging {received : List UInt8} (fits : received.length ≤ s.readLength) :
    ((t.exchanging s).receive received).sequence.buffer =
      received ++ s.buffer.drop received.length := by
  cases s with
  | read | writeRead => rfl
  | ping | write | prefixedWrite =>
    obtain rfl := List.eq_nil_of_length_eq_zero (Nat.le_zero.1 fits)
    rfl

end Transaction

namespace Sequence

theorem sum_room (s : Sequence) : (s.segments.map Segment.room).sum = s.readLength := by
  cases s <;> simp [segments, Segment.room, readLength]

end Sequence

namespace Master

def keeping (master : Master) (keep : Event → Bool) : Master :=
  { master with bus := master.bus.keeping keep }

def settle (master : Master) (t : Transaction) (received : List UInt8) (bus : Bus) :
    Except ErrorKind Unit → Outcome × Master
  | .ok () =>
    ((.ok (), (t.receive received).detach .normalStop),
      { master with bus := bus.note (t.told [.detaching .normalStop]) })
  | .error kind =>
    ((.error (.i2c kind), (t.receive received).detach .errorCondition),
      { master with
        bus := bus.note (t.told [.detaching .errorCondition])
        lastError := some kind })

theorem complete_eq_settle (master : Master) (t : Transaction) :
    let transferred := master.bus.transfer t.address t.sequence.segments
    master.complete t = master.settle t transferred.2.1 transferred.2.2 transferred.1 := by
  intro transferred
  rcases came : transferred with ⟨kind | ⟨⟩, received, bus⟩
  · exact master.complete_error t came
  · exact master.complete_ok t came

section

variable (master : Master) (timing : Option Timing) (t : Transaction) (s s' : Sequence)
  {keep : Event → Bool} (buffer : s'.buffer = s.buffer) (length : s'.readLength = s.readLength)

include buffer length

theorem settle_keeping {received : List UInt8} (fits : received.length ≤ s.readLength)
    {bus bus' : Bus} (same : bus'.keeping keep = bus.keeping keep)
    (result : Except ErrorKind Unit) :
    let settled := master.settle (t.exchanging s).attached received bus result
    let settled' := master.settle (t.exchanging s').attached received bus' result
    settled'.1.1 = settled.1.1 ∧
      settled'.1.2.sequence.buffer = settled.1.2.sequence.buffer ∧
      settled'.2.keeping keep = settled.2.keeping keep := by
  have buffers : ((t.exchanging s').receive received).sequence.buffer =
      ((t.exchanging s).receive received).sequence.buffer := by
    rw [t.buffer_receive_exchanging s fits,
      t.buffer_receive_exchanging s' (by rwa [length]), buffer]
  rcases result with kind | ⟨⟩
  · refine ⟨rfl, buffers, ?_⟩
    simp only [settle, keeping, Bus.keeping_note, same]
    rfl
  · refine ⟨rfl, buffers, ?_⟩
    simp only [settle, keeping, Bus.keeping_note, same]
    rfl

theorem run_keeping (same : ∀ bus : Bus, bus.faults = master.bus.faults →
      bus.TransfersAlike keep t.address s.segments s'.segments) :
    let ran := master.run timing (t.exchanging s)
    let ran' := master.run timing (t.exchanging s')
    ran'.1.1 = ran.1.1 ∧ ran'.1.2.sequence.buffer = ran.1.2.sequence.buffer ∧
      ran'.2.keeping keep = ran.2.keeping keep := by
  cases accepted : t.accepts with
  | false =>
    have refused : ∀ s, (t.exchanging s).attach.1 = false := fun s => by simp [accepted]
    rw [master.run_refused timing _ (refused s), master.run_refused timing _ (refused s')]
    refine ⟨rfl, ?_, rfl⟩
    change (t.exchanging s').sequence.buffer = (t.exchanging s).sequence.buffer
    simp only [Transaction.sequence_exchanging, buffer]
  | true =>
    have attached : ∀ s, (t.exchanging s).attach.1 = true := fun s => by simp [accepted]
    rw [master.run_accepted timing _ (attached s), master.run_accepted timing _ (attached s')]
    let opened := master.opened timing t
    have settled (s : Sequence) :
        (master.opened timing (t.exchanging s)).complete (t.exchanging s).attached =
          opened.settle (t.exchanging s).attached (opened.bus.transfer t.address s.segments).2.1
            (opened.bus.transfer t.address s.segments).2.2
            (opened.bus.transfer t.address s.segments).1 := by
      rw [complete_eq_settle, Transaction.attached_sequence, Transaction.sequence_exchanging]
      rfl
    obtain ⟨results, received, left⟩ := same opened.bus (master.opened_faults timing t)
    have fits := opened.bus.length_received t.address s.segments
    rw [s.sum_room] at fits
    rw [settled s, settled s', results, received]
    exact opened.settle_keeping t s s' buffer length fits left _

end

theorem complete_present {master : Master} {t : Transaction}
    (passes : master.bus.faults.head?.join = none)
    (present : (master.bus.target? t.address.raw).isSome = true) :
    (master.complete t).1.1 = .ok () := by
  obtain ⟨target, present⟩ := Option.isSome_iff_exists.1 present
  have calm : ∀ kind, master.bus.faults.head?.join ≠ some ⟨kind, 0⟩ := by
    rw [passes]
    exact fun _ h => nomatch h
  have transferred := Bus.transfer_present calm present t.sequence.segments
  simp only [passes, Target.exchange_ok] at transferred
  rw [master.complete_ok t transferred]

theorem run_shows {master : Master} (timing : Option Timing) {t : Transaction}
    (passes : master.bus.faults.head?.join = none)
    (present : (master.bus.target? t.address.raw).isSome = true) (accepted : t.attach.1 = true) :
    (master.run timing t).1.1 = .ok () ∧
      shown (master.run timing t).2.bus.log =
        shown master.bus.log ++ shown ([.start t.address] ++ (t.events ++ [.stop t.address])) := by
  have timed : shown ((master.due timing).toList.map Event.timed) = [] := by
    refine shown_eq_nil fun event mem => ?_
    obtain ⟨timing, -, rfl⟩ := List.mem_map.1 mem
    rfl
  rw [← master.opened_faults timing t] at passes
  rw [← Bus.target?_congr (master.opened_targets timing t)] at present
  have ok : ((master.opened timing t).complete t.attached).1.1 = .ok () :=
    complete_present passes present
  rw [master.run_accepted timing t accepted]
  refine ⟨ok, ?_⟩
  obtain ⟨body, -, traffic, ⟨-, rfl⟩ | ⟨kind, failed⟩⟩ :=
    (master.opened timing t).complete_traffic t.attached
  · rw [← shown_traffic, traffic, opened_traffic]
    simp only [shown_append, timed, shown_traffic, List.nil_append, List.append_assoc]
    rfl
  · rw [ok] at failed
    cases failed

end Master

namespace Sequence

/-- The normal form of a sequence is one without empty parts that comes to the same: with the same
result and the same bytes, and the same master, bus and targets but for the empty events in the log.
Two parts of a write come to the same as one. What the log shows of a transaction that is carried
out are the conditions of its sequence, but for the restart and for empty ones. -/
theorem normalized_comes_to_the_same (s : Sequence) :
    s.normalized.normalized = s.normalized ∧ s.normalized.IsSolid ∧
      s.normalized.writeLength = s.writeLength ∧ s.normalized.readLength = s.readLength ∧
      ∀ (master : Master) (timing : Option Timing) (t : Transaction), master.bus.StrikesEarly →
        let ran (s : Sequence) := master.run timing (t.exchanging s)
        ((ran s.normalized).1.1 = (ran s).1.1 ∧
          (ran s.normalized).1.2.sequence.buffer = (ran s).1.2.sequence.buffer ∧
          (ran s.normalized).2.keeping Event.isSolid = (ran s).2.keeping Event.isSolid) ∧
        (∀ head payload,
          (ran (.write (head ++ payload))).1.1 = (ran (.prefixedWrite head payload)).1.1 ∧
            (ran (.write (head ++ payload))).2.keeping (!·.isWrite) =
              (ran (.prefixedWrite head payload)).2.keeping (!·.isWrite)) ∧
        (master.bus.faults.head?.join = none → (master.bus.target? t.address.raw).isSome = true →
          t.accepts = true → (ran s).1.1 = .ok () ∧
            shown (ran s).2.bus.log = shown master.bus.log ++
              (s.conditions.filter (· != .restart)).filter Condition.isSolid) := by
  refine ⟨s.isSolid_normalized.normalized_eq, s.isSolid_normalized, s.writeLength_normalized,
    s.readLength_normalized, fun master timing t early => ⟨?_, fun head payload => ?_, ?_⟩⟩
  · refine master.run_keeping timing t s s.normalized s.buffer_normalized s.readLength_normalized
      fun bus faults => (early.of_faults faults).transfersAlike t.address fun target => ?_
    rw [← target.exchange_solid, ← target.exchange_solid, s.segments_normalized]
  · have came := master.run_keeping timing t (.prefixedWrite head payload)
      (.write (head ++ payload)) rfl rfl fun bus faults =>
        (early.of_faults faults).transfersAlike t.address fun target =>
          target.exchange_joined head payload
    exact ⟨came.1, came.2.2⟩
  · intro passes present accepted
    have attached : (t.exchanging s).attach.1 = true := by simp [accepted]
    have shows := Master.run_shows (t := t.exchanging s) timing passes present attached
    rwa [Transaction.events, Transaction.sequence_exchanging, s.shown_segments] at shows

namespace HollowRead

def sequence : Sequence := .writeRead [0xA0, 7, 0x21] []

def transaction : Transaction := { address := ⟨0x19, by decide⟩, body := .read [] }

def master : Master :=
  { bus :=
      { targets := (Vector.replicate 256 none).set 0x19 (some { mask := 0x7F })
        faults := [none, some ⟨.bus, 1⟩] } }

theorem comes_to_a_write :
    master.bus.StrikesEarly ∧ master.bus.faults.head?.join = none ∧
      (master.bus.target? transaction.address.raw).isSome = true ∧ transaction.accepts = true ∧
      let ran (s : Sequence) := master.run none (transaction.exchanging s)
      sequence.normalized = .write [0xA0, 7, 0x21] ∧ (ran sequence.normalized).1.1 = .ok () ∧
        (ran sequence.normalized).2.keeping Event.isSolid =
          (ran sequence).2.keeping Event.isSolid ∧
        (ran (.prefixedWrite [0xA0] [7, 0x21])).2.bus.peek? 0x19 0x20 2 = some [7, 0x21] ∧
        (ran (.write [0xA0, 7, 0x21])).2.keeping (!·.isWrite) =
          (ran (.prefixedWrite [0xA0] [7, 0x21])).2.keeping (!·.isWrite) ∧
        shown (ran sequence).2.bus.log = [.start, .write 3, .stop] := by
  have early : master.bus.StrikesEarly := fun _ popped => nomatch popped
  obtain ⟨-, -, -, -, runs⟩ := sequence.normalized_comes_to_the_same
  obtain ⟨⟨same, -, alike⟩, joined, shows⟩ := runs master none transaction early
  obtain ⟨ok, log⟩ := shows rfl rfl rfl
  exact ⟨early, rfl, rfl, rfl, rfl, same.trans ok, alike, by decide +kernel,
    (joined [0xA0] [7, 0x21]).2, log⟩

end HollowRead

end Sequence

end SensorBus.I2c
