import Mathlib.Algebra.GroupWithZero.Nat
import SensorBus.Proofs.I2c.Attachment
import SensorBus.Proofs.I2c.Meeting

namespace SensorBus.I2c

def Segment.room : Segment → Nat
  | .write _ => 0
  | .read length => length

namespace Target

theorem length_read (target : Target) (length : Nat) : (target.read length).1.length = length := by
  induction length generalizing target with
  | zero => rfl
  | succ length ih => simp [read, ih]

theorem length_received (target : Target) (selected : Bool) (fault : Option Fault)
    (segments : List Segment) :
    (target.exchange selected fault segments).received.length ≤
      (segments.map Segment.room).sum := by
  induction segments generalizing target selected fault with
  | nil => exact Nat.zero_le _
  | cons segment rest ih =>
    obtain ⟨kind, rfl⟩ | passes := strikes_or_passes fault
    · rw [exchange_cons_strikes]
      exact Nat.zero_le _
    · have carried : (target.carry selected segment).2.2.length = segment.room := by
        cases segment with
        | write bytes => rfl
        | read length => exact target.length_read length
      rw [exchange_cons_passes target selected passes]
      simp only [List.length_append, List.map_cons, List.sum_cons, carried]
      exact Nat.add_le_add_left (ih _ _ _) _

end Target

namespace Bus

theorem length_received (bus : Bus) (address : Address) (segments : List Segment) :
    (bus.transfer address segments).2.1.length ≤ (segments.map Segment.room).sum := by
  obtain ⟨kind, strikes⟩ | passes := Target.strikes_or_passes bus.faults.head?.join
  · rw [transfer_strikes strikes]
    exact Nat.zero_le _
  · cases present : bus.target? address.raw with
    | none =>
      rw [transfer_absent passes present]
      exact Nat.zero_le _
    | some target =>
      rw [transfer_present passes present]
      exact target.length_received false _ segments

theorem transfer_congr {bus bus' : Bus} (targets : bus'.targets = bus.targets)
    (faults : bus'.faults = bus.faults) (address : Address) (segments : List Segment) :
    (bus'.transfer address segments).1 = (bus.transfer address segments).1 := by
  have same : bus'.target? address.raw = bus.target? address.raw := target?_congr targets _
  obtain ⟨kind, strikes⟩ | passes := Target.strikes_or_passes bus.faults.head?.join
  · have strikes' := strikes
    rw [← faults] at strikes'
    rw [transfer_strikes strikes, transfer_strikes strikes']
  · have passes' := passes
    rw [← faults] at passes'
    cases present : bus.target? address.raw with
    | none => rw [transfer_absent passes present, transfer_absent passes' (same.trans present)]
    | some target =>
      rw [transfer_present passes present, transfer_present passes' (same.trans present), faults]

end Bus

namespace Body

def room (body : Body) : Nat := (body.buffer?.getD []).length

def blank : Body → Body
  | .writeRead bytes buffer => .writeRead bytes (List.replicate buffer.length 0)
  | .write head payload => .write head payload
  | .read buffer => .read (List.replicate buffer.length 0)
  | .custom accepts kind head payload buffer =>
    .custom accepts kind head payload (List.replicate buffer.length 0)

theorem blank_segments (body : Body) : body.blank.sequence.segments = body.sequence.segments := by
  cases body with
  | writeRead bytes buffer =>
    cases bytes <;> cases buffer <;>
      simp [blank, sequence, Sequence.normalized, Sequence.segments, List.replicate]
  | write head payload => rfl
  | read buffer =>
    cases buffer <;> simp [blank, sequence, Sequence.normalized, Sequence.segments, List.replicate]
  | custom accepts kind head payload buffer =>
    cases kind <;> simp [blank, sequence, SequenceKind.sequence, Sequence.segments]

theorem sum_room (body : Body) : (body.sequence.segments.map Segment.room).sum ≤ body.room := by
  cases body with
  | writeRead bytes buffer =>
    cases bytes <;> cases buffer <;>
      simp [room, buffer?, sequence, Sequence.normalized, Sequence.segments, Segment.room]
  | write head payload =>
    cases head <;> cases payload <;>
      simp [room, buffer?, sequence, Sequence.normalized, Sequence.segments, Segment.room]
  | read buffer =>
    cases buffer <;>
      simp [room, buffer?, sequence, Sequence.normalized, Sequence.segments, Segment.room]
  | custom accepts kind head payload buffer =>
    cases kind <;>
      simp [room, buffer?, sequence, SequenceKind.sequence, Sequence.segments, Segment.room]

theorem blank_receive {body : Body} {received : List UInt8} (fits : received.length ≤ body.room) :
    (body.receive received).blank = body.blank := by
  have whole : received.length + (body.room - received.length) = body.room :=
    Nat.add_sub_cancel' fits
  cases body with
  | write head payload => rfl
  | writeRead | read | custom => simpa [receive, blank, room, buffer?] using whole

end Body

namespace Transaction

/-- The same transaction, but for its state, what its buffer holds, and whether it reports. -/
structure Alike (t t' : Transaction) : Prop where
  address : t'.address = t.address
  body : t'.body.blank = t.body.blank

structure Kept (t t' : Transaction) : Prop extends Alike t t' where
  reports : t'.reports = t.reports

section

variable {t t' : Transaction}

theorem Alike.segments (alike : t.Alike t') : t'.sequence.segments = t.sequence.segments := by
  rw [sequence, sequence, ← Body.blank_segments, alike.body, Body.blank_segments]

theorem Kept.told (kept : t.Kept t') : t'.told = t.told := by
  funext marks
  rw [Transaction.told, Transaction.told, kept.reports]

theorem Kept.refl (t : Transaction) : t.Kept t := ⟨⟨rfl, rfl⟩, rfl⟩

theorem Kept.trans {t'' : Transaction} (first : t.Kept t') (second : t'.Kept t'') : t.Kept t'' :=
  ⟨⟨second.address.trans first.address, second.body.trans first.body⟩,
    second.reports.trans first.reports⟩

theorem Kept.detach (kept : t.Kept t') (cause : DetachCause) : t.Kept (t'.detach cause) :=
  ⟨⟨kept.address, kept.body⟩, kept.reports⟩

theorem Kept.attached (kept : t.Kept t') : t.attached.Kept t'.attached :=
  ⟨⟨kept.address, kept.body⟩, kept.reports⟩

theorem kept_attached (t : Transaction) : t.Kept t.attached := ⟨⟨rfl, rfl⟩, rfl⟩

theorem kept_receive {received : List UInt8} (fits : received.length ≤ t.body.room) :
    t.Kept (t.receive received) :=
  ⟨⟨rfl, Body.blank_receive fits⟩, rfl⟩

end

end Transaction

namespace Master

variable (master : Master) {t t' : Transaction}

theorem complete_fst (t : Transaction) :
    (master.complete t).1.1 =
      (master.bus.transfer t.address t.sequence.segments).1.mapError Error.i2c := by
  rcases transferred : master.bus.transfer t.address t.sequence.segments with
    ⟨kind | ⟨⟩, received, bus⟩
  · rw [master.complete_error t transferred]
    rfl
  · rw [master.complete_ok t transferred]
    rfl

theorem kept_complete (t : Transaction) : t.Kept (master.complete t).1.2 := by
  have fits : (master.bus.transfer t.address t.sequence.segments).2.1.length ≤ t.body.room :=
    Nat.le_trans (master.bus.length_received _ _) t.body.sum_room
  rcases transferred : master.bus.transfer t.address t.sequence.segments with
    ⟨kind | ⟨⟩, received, bus⟩ <;> rw [transferred] at fits
  · rw [master.complete_error t transferred]
    exact (Transaction.kept_receive fits).detach _
  · rw [master.complete_ok t transferred]
    exact (Transaction.kept_receive fits).detach _

theorem complete_congr {master master' : Master}
    (targets : master'.bus.targets = master.bus.targets)
    (faults : master'.bus.faults = master.bus.faults) (alike : t.Alike t') :
    (master'.complete t').1.1 = (master.complete t).1.1 := by
  rw [complete_fst, complete_fst, alike.address, alike.segments, Bus.transfer_congr targets faults]

theorem complete_snd (kept : t.Kept t') : (master.complete t').2 = (master.complete t).2 := by
  rcases transferred : master.bus.transfer t.address t.sequence.segments with
    ⟨kind | ⟨⟩, received, bus⟩
  all_goals
    have transferred' := transferred
    rw [← kept.address, ← kept.segments] at transferred'
  · rw [master.complete_error t transferred, master.complete_error t' transferred', kept.told]
  · rw [master.complete_ok t transferred, master.complete_ok t' transferred', kept.told]

end Master

namespace Run

variable (master : Master) (timing : Option Timing) {t t' : Transaction}

theorem opened_congr (kept : t.Kept t') : master.opened timing t' = master.opened timing t := by
  simp only [Master.opened, kept.told, kept.address]

theorem carryOut_none (t : Transaction) :
    Job.carryOut none (Run.fresh timing t) master =
      let (found, run, master) := Job.attempt (master.bus.yields + 1) (Run.fresh timing t) master
      (found.elim .stopped fun (value, _) => .value value, run, master) := by
  cases accepted : t.attach.1 with
  | false =>
    rw [attempt_refused master timing t accepted]
    simp [Job.carryOut, Job.finish, finish, master.run_refused timing t accepted, Job.drop, drop]
  | true =>
    rw [attempt_accepted master timing t accepted]
    simp [Job.carryOut, Job.finish, finish, master.run_accepted timing t accepted, Job.drop, drop]

theorem carryOut_snd (polls : Option Nat) (t : Transaction) :
    (Job.carryOut polls (Run.fresh timing t) master).2 =
      (Job.attempt (polls.getD (master.bus.yields + 1)) (Run.fresh timing t) master).2 := by
  cases polls with
  | none => rw [carryOut_none]; rfl
  | some limit => rfl

theorem attempt_fst (alike : t.Alike t') (accepts : t'.attach.1 = t.attach.1) (limit : Nat) :
    (Job.attempt limit (Run.fresh timing t') master).1 =
      (Job.attempt limit (Run.fresh timing t) master).1 := by
  cases limit with
  | zero => rfl
  | succ limit =>
    cases accepted : t.attach.1 with
    | false =>
      rw [attempt_refused master timing t accepted,
        attempt_refused master timing t' (accepts.trans accepted)]
    | true =>
      have attached : t.attached.Alike t'.attached := ⟨alike.address, alike.body⟩
      have same : ((master.opened timing t').complete t'.attached).1.1 =
          ((master.opened timing t).complete t.attached).1.1 :=
        Master.complete_congr (by simp) (by simp) attached
      rw [attempt_accepted master timing t accepted,
        attempt_accepted master timing t' (accepts.trans accepted), same]
      split <;> rfl

theorem attempt_master (kept : t.Kept t') (accepts : t'.attach.1 = t.attach.1) (limit : Nat) :
    (Job.attempt limit (Run.fresh timing t') master).2.2 =
      (Job.attempt limit (Run.fresh timing t) master).2.2 := by
  cases limit with
  | zero => rfl
  | succ limit =>
    cases accepted : t.attach.1 with
    | false =>
      rw [attempt_refused master timing t accepted,
        attempt_refused master timing t' (accepts.trans accepted), kept.told]
    | true =>
      have same := (master.opened timing t).complete_snd kept.attached
      rw [attempt_accepted master timing t accepted,
        attempt_accepted master timing t' (accepts.trans accepted), opened_congr master timing kept,
        same]
      simp only [Master.abandon_eq, kept.attached.told]
      split <;> rfl

theorem carryOut_congr (kept : t.Kept t') (accepts : t'.attach.1 = t.attach.1)
    (polls : Option Nat) :
    (Job.carryOut polls (Run.fresh timing t') master).1 =
        (Job.carryOut polls (Run.fresh timing t) master).1 ∧
      (Job.carryOut polls (Run.fresh timing t') master).2.2 =
        (Job.carryOut polls (Run.fresh timing t) master).2.2 := by
  have same := attempt_fst master timing kept.toAlike accepts
  have left := attempt_master master timing kept accepts
  cases polls with
  | none => simp [carryOut_none, same, left]
  | some limit => simp [Job.carryOut, same, left]

theorem kept_attempt (t : Transaction) (limit : Nat) :
    t.Kept (Job.attempt limit (Run.fresh timing t) master).2.1.transaction := by
  cases limit with
  | zero => exact .refl t
  | succ limit =>
    cases accepted : t.attach.1 with
    | false =>
      rw [attempt_refused master timing t accepted]
      exact (Transaction.Kept.refl t).detach _
    | true =>
      rw [attempt_accepted master timing t accepted]
      split
      · exact t.kept_attached.trans (Master.kept_complete _ t.attached)
      · exact t.kept_attached.detach _

theorem kept_carryOut (t : Transaction) (polls : Option Nat) :
    t.Kept (Job.carryOut polls (Run.fresh timing t) master).2.1.transaction := by
  rw [carryOut_snd]
  exact kept_attempt master timing t _

end Run

end SensorBus.I2c
