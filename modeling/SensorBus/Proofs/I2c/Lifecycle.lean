import Mathlib.Data.List.Induction
import SensorBus.Proofs.I2c.Rerun

namespace SensorBus.I2c

def Event.cause? : Event → Option DetachCause
  | .detaching cause => some cause
  | _ => none

def TransactionState.hear : TransactionState → Event → TransactionState
  | _, .attaching true => .busy
  | _, .detaching cause => if cause = .normalStop then .idle else .error
  | state, _ => state

namespace Body

def ReadyMade : Body → Prop
  | .custom .. => False
  | _ => True

def kind : Body → SequenceKind
  | .writeRead .. => .writeRead
  | .write .. => .prefixedWrite
  | .read _ => .read
  | .custom _ kind .. => kind

def parts : Body → List UInt8 × List UInt8 × List UInt8
  | .writeRead bytes buffer => ([], bytes, buffer)
  | .write head payload => (head, payload, [])
  | .read buffer => ([], [], buffer)
  | .custom _ _ head payload buffer => (head, payload, buffer)

end Body

def Sequence.parts : Sequence → List UInt8 × List UInt8 × List UInt8
  | .ping => ([], [], [])
  | .write bytes => ([], bytes, [])
  | .read buffer => ([], [], buffer)
  | .writeRead bytes buffer => ([], bytes, buffer)
  | .prefixedWrite head payload => (head, payload, [])

def SequenceKind.takes : SequenceKind → Sequence → Bool
  | .writeRead, .prefixedWrite .. => false
  | .writeRead, _ => true
  | .prefixedWrite, .ping | .prefixedWrite, .write _ | .prefixedWrite, .prefixedWrite .. => true
  | .read, .ping | .read, .read _ => true
  | _, _ => false

theorem Body.isSome_setUp? {body : Body} (readyMade : body.ReadyMade) (sequence : Sequence) :
    (body.setUp? sequence).isSome = body.kind.takes sequence := by
  cases body with
  | custom => exact readyMade.elim
  | _ => cases sequence <;> rfl

theorem Body.setUp?_parts {body setUp : Body} {sequence : Sequence}
    (eq : body.setUp? sequence = some setUp) :
    setUp.ReadyMade ∧ setUp.kind = body.kind ∧ setUp.parts = sequence.parts := by
  cases body <;> cases sequence <;> cases eq <;> exact ⟨trivial, rfl, rfl⟩

theorem Body.readyMade_blank (body : Body) : body.blank.ReadyMade ↔ body.ReadyMade := by
  cases body <;> rfl

namespace Transaction

/-- The attempts to attach a transaction, with its answers, and its detachments. -/
abbrev History := List Event

namespace History

def Attached (history : History) : Prop :=
  ∃ before after, history = before ++ .attaching true :: after ∧
    ∀ event ∈ after, event.cause? = none

def lastCause? (history : History) : Option DetachCause :=
  (history.filterMap Event.cause?).getLast?

def state (history : History) : TransactionState := history.foldl .hear .idle

variable (history : History) (event : Event)

theorem state_append_singleton : state (history ++ [event]) = (state history).hear event := by
  simp [state]

theorem lastCause?_append_singleton :
    lastCause? (history ++ [event]) = (event.cause? <|> lastCause? history) := by
  cases cause : event.cause? <;> simp [lastCause?, cause]

theorem attached_append_singleton : Attached (history ++ [event]) ↔
    event = .attaching true ∨ event.cause? = none ∧ Attached history := by
  constructor
  · rintro ⟨before, after, eq, free⟩
    obtain rfl | ⟨rest, last, rfl⟩ := after.eq_nil_or_concat
    · exact .inl (List.singleton_inj.1 (List.append_inj' eq rfl).2)
    · rw [List.concat_eq_append, ← List.cons_append, ← List.append_assoc] at eq
      obtain ⟨rfl, same⟩ := List.append_inj' eq rfl
      cases same
      refine .inr ⟨free event (by simp), before, rest, rfl, fun event mem => ?_⟩
      exact free event (by simp [mem])
  · rintro (rfl | ⟨none, before, after, rfl, free⟩)
    · exact ⟨history, [], rfl, nofun⟩
    · refine ⟨before, after ++ [event], by simp, ?_⟩
      simpa [or_imp, forall_and, none] using free

theorem state_busy : state history = .busy ↔ Attached history := by
  induction history using List.reverseRecOn with
  | nil => simp [state, Attached]
  | append_singleton rest event ih =>
    rw [state_append_singleton, attached_append_singleton]
    cases event with
    | attaching accepted => cases accepted <;> simp [TransactionState.hear, Event.cause?, ih]
    | detaching cause => cases cause <;> simp [TransactionState.hear, Event.cause?]
    | _ => simp [TransactionState.hear, Event.cause?, ih]

theorem state_rest (rests : state history ≠ .busy) :
    state history =
      if lastCause? history = none ∨ lastCause? history = some .normalStop then .idle
      else .error := by
  induction history using List.reverseRecOn with
  | nil => simp [state, lastCause?]
  | append_singleton rest event ih =>
    rw [state_append_singleton] at rests
    rw [state_append_singleton, lastCause?_append_singleton]
    cases event with
    | attaching accepted =>
      cases accepted with
      | true => exact absurd rfl rests
      | false => exact ih rests
    | detaching cause => cases cause <;> rfl
    | _ => exact ih rests

end History

/-- A run has a master of its own, which it may keep for so many polls, or to its end. -/
inductive Call
  | configure (sequence : Sequence)
  | setAddress (address : Address)
  | attach
  | detach (cause : DetachCause)
  | run (master : Master) (timing : Option Timing) (polls : Option Nat)

namespace Call

def apply : Call → Transaction → Transaction
  | .configure sequence, t => ((t.configure? sequence).map Prod.snd).getD t
  | .setAddress address, t => (t.setAddress address).2
  | .attach, t => t.attach.2
  | .detach cause, t => t.detach cause
  | .run master timing polls, t =>
    (Job.carryOut polls (Run.fresh timing t) master).2.1.transaction

/-- What the transaction is told of its attachments; in a run, what it reports if it does report. -/
def told : Call → Transaction → History
  | .attach, t => [.attaching t.attach.1]
  | .detach cause, _ => [.detaching cause]
  | .run master timing polls, t =>
    let after := (Job.carryOut polls (Run.fresh timing { t with reports := true }) master).2.2
    (after.bus.log.drop master.bus.log.length).filter Event.isFrame
  | _, _ => []

def reconfigures : Call → Bool
  | .configure _ | .setAddress _ => true
  | _ => false

end Call

def after (t : Transaction) (calls : List Call) : Transaction :=
  calls.foldl (fun t call => call.apply t) t

def history (t : Transaction) : List Call → History
  | [] => []
  | call :: rest => call.told t ++ (call.apply t).history rest

section

variable (master : Master) (timing : Option Timing) {polls : Option Nat}

theorem framed_reporting (t : Transaction) (limit : Nat) : ∃ cause between,
    let twin := { t with reports := true }
    Run.Framed master timing twin (limit + 1)
        (Job.attempt (limit + 1) (Run.fresh timing twin) master) cause between ∧
      (Job.attempt (limit + 1) (Run.fresh timing t) master).2.1.transaction.state =
        if cause = .normalStop then .idle else .error := by
  have alike : t.Alike { t with reports := true } := ⟨rfl, rfl⟩
  have same := Run.attempt_fst master timing alike rfl (limit + 1)
  obtain ⟨-, framed⟩ := Run.attached_first_detached_last master timing { t with reports := true }
  obtain ⟨cause, between, framed⟩ := framed limit
  obtain ⟨-, framed'⟩ := Run.attached_first_detached_last master timing t
  obtain ⟨cause', between', framed'⟩ := framed' limit
  have stopped : cause' = .normalStop ↔ cause = .normalStop := by
    rw [framed.stopped_iff, framed'.stopped_iff, same]
  refine ⟨cause, between, framed, ?_⟩
  rw [framed'.state]
  simp only [stopped]

theorem run_told (polled : polls ≠ some 0) (t : Transaction) : ∃ cause,
    (Call.run master timing polls).told t = [.attaching t.attach.1, .detaching cause] ∧
      ((Call.run master timing polls).apply t).state =
        if cause = .normalStop then .idle else .error := by
  obtain ⟨limit, given⟩ : ∃ limit, polls.getD (master.bus.yields + 1) = limit + 1 := by
    cases polls with
    | none => exact ⟨_, rfl⟩
    | some limit => exact Nat.exists_eq_succ_of_ne_zero fun eq => polled (congrArg some eq)
  obtain ⟨cause, between, framed, state⟩ := framed_reporting master timing t limit
  have quiet : between.filter Event.isFrame = [] := by
    simpa [List.filter_eq_nil_iff] using framed.once
  refine ⟨cause, ?_, ?_⟩
  · simp only [Call.told, Run.carryOut_snd, given, framed.log, List.drop_left, List.filter_append,
      quiet]
    rfl
  · simp only [Call.apply, Run.carryOut_snd, given, state]

end

theorem run_unpolled (master : Master) (timing : Option Timing) (t : Transaction) :
    (Call.run master timing (some 0)).told t = [] ∧
      (Call.run master timing (some 0)).apply t = t := by
  have dropped : (Job.carryOut (some 0) (Run.fresh timing { t with reports := true }) master).2.2 =
    master := rfl
  refine ⟨?_, rfl⟩
  simp [Call.told, dropped]

section

variable {t : Transaction}

theorem Kept.readyMade {t' : Transaction} (kept : t.Kept t') (readyMade : t.body.ReadyMade) :
    t'.body.ReadyMade := by
  rw [← Body.readyMade_blank, kept.body, Body.readyMade_blank]
  exact readyMade

theorem attach_fst (readyMade : t.body.ReadyMade) : t.attach.1 = decide (t.state ≠ .busy) := by
  cases body : t.body with
  | custom =>
    rw [body] at readyMade
    exact readyMade.elim
  | _ => cases state : t.state <;> simp [attach, accepts, isBusy, body, state]

theorem configure?_eq {sequence : Sequence} {result : Except Error Unit} {after : Transaction}
    (eq : t.configure? sequence = some (result, after)) :
    if t.state = .busy then result = .error .transactionBusy ∧ after = t
    else result = .ok () ∧ after = { t with body := after.body } ∧ after.body.ReadyMade ∧
      after.body.kind = t.body.kind ∧ after.body.parts = sequence.parts := by
  obtain ⟨body, setUp, eq⟩ := Option.map_eq_some_iff.1 eq
  obtain ⟨readyMade, kind, parts⟩ := Body.setUp?_parts setUp
  by_cases busy : t.state = .busy
  · simp only [isBusy, busy, BEq.rfl, if_true, Prod.mk.injEq] at eq ⊢
    exact ⟨eq.1.symm, eq.2.symm⟩
  · have free : t.isBusy = false := by simpa [isBusy] using busy
    rw [free] at eq
    cases eq
    rw [if_neg busy]
    exact ⟨rfl, rfl, readyMade, kind, parts⟩

theorem setAddress_eq (t : Transaction) (address : Address) : t.setAddress address =
    if t.state = .busy then (.error .transactionBusy, t) else (.ok (), { t with address }) := by
  simp [setAddress, isBusy]

theorem apply_kept {call : Call} (keeps : call.reconfigures = false) : t.Kept (call.apply t) := by
  cases call with
  | configure | setAddress => cases keeps
  | attach =>
    rw [Call.apply, attach_snd]
    split
    · exact t.kept_attached
    · exact .refl t
  | detach cause => exact (Kept.refl t).detach cause
  | run master timing polls => exact Run.kept_carryOut master timing t polls

theorem apply_reconfigures (readyMade : t.body.ReadyMade) (call : Call)
    (reconfigures : call.reconfigures = true) :
    (call.apply t).body.ReadyMade ∧ (call.apply t).state = t.state ∧ call.told t = [] := by
  cases call with
  | attach | detach | run => cases reconfigures
  | setAddress address =>
    rw [Call.apply, setAddress_eq]
    split <;> exact ⟨readyMade, rfl, rfl⟩
  | configure sequence =>
    rw [Call.apply]
    cases eq : t.configure? sequence with
    | none => exact ⟨readyMade, rfl, rfl⟩
    | some configured =>
      obtain ⟨result, after⟩ := configured
      have installs := configure?_eq eq
      split at installs
      · obtain ⟨-, rfl⟩ := installs
        exact ⟨readyMade, rfl, rfl⟩
      · obtain ⟨-, same, readyMade, -⟩ := installs
        refine ⟨readyMade, ?_, rfl⟩
        simp only [Option.map_some, Option.getD_some]
        rw [same]

theorem apply_readyMade (readyMade : t.body.ReadyMade) (call : Call) :
    (call.apply t).body.ReadyMade := by
  cases reconfigures : call.reconfigures with
  | true => exact (apply_reconfigures readyMade call reconfigures).1
  | false => exact (apply_kept reconfigures).readyMade readyMade

theorem apply_state (readyMade : t.body.ReadyMade) (call : Call) :
    (call.apply t).state = (call.told t).foldl .hear t.state := by
  cases call with
  | configure sequence =>
    obtain ⟨-, state, told⟩ := apply_reconfigures readyMade (.configure sequence) rfl
    rw [state, told]
    rfl
  | setAddress address =>
    obtain ⟨-, state, told⟩ := apply_reconfigures readyMade (.setAddress address) rfl
    rw [state, told]
    rfl
  | attach =>
    rw [Call.apply, Call.told, attach_snd, attach_fst readyMade]
    cases decide (t.state ≠ .busy) <;> rfl
  | detach cause => rfl
  | run master timing polls =>
    by_cases polled : polls = some 0
    · subst polled
      obtain ⟨told, same⟩ := run_unpolled master timing t
      rw [told, same]
      rfl
    · obtain ⟨cause, told, state⟩ := run_told master timing polled t
      rw [told, state]
      rfl

end

section

variable {t : Transaction}

theorem after_readyMade (readyMade : t.body.ReadyMade) (calls : List Call) :
    (t.after calls).body.ReadyMade := by
  induction calls generalizing t with
  | nil => exact readyMade
  | cons call rest ih => exact ih (apply_readyMade readyMade call)

theorem after_state (readyMade : t.body.ReadyMade) (calls : List Call) :
    (t.after calls).state = (t.history calls).foldl .hear t.state := by
  induction calls generalizing t with
  | nil => rfl
  | cons call rest ih =>
    rw [history, List.foldl_append, ← apply_state readyMade call]
    exact ih (apply_readyMade readyMade call)

theorem after_kept {calls : List Call} (keep : ∀ call ∈ calls, call.reconfigures = false) :
    t.Kept (t.after calls) := by
  induction calls generalizing t with
  | nil => exact .refl t
  | cons call rest ih =>
    obtain ⟨keeps, keep⟩ := List.forall_mem_cons.1 keep
    exact (apply_kept keeps).trans (ih keep)

end

structure Lawful (history : History) (t : Transaction) : Prop where
  busy : t.state = .busy ↔ history.Attached
  rest : t.state ≠ .busy → t.state =
    if history.lastCause? = none ∨ history.lastCause? = some .normalStop then .idle else .error
  attaches : t.attach.1 = true ↔ t.state ≠ .busy
  configures : ∀ sequence, t.body.kind.takes sequence = true →
    ∃ result after, t.configure? sequence = some (result, after) ∧
      if t.state = .busy then result = .error .transactionBusy ∧ after = t
      else result = .ok () ∧ after = { t with body := after.body } ∧ after.body.ReadyMade ∧
        after.body.kind = t.body.kind ∧ after.body.parts = sequence.parts
  addresses : ∀ address, t.setAddress address =
    if t.state = .busy then (.error .transactionBusy, t) else (.ok (), { t with address })
  /-- A run that is not polled does nothing. Any other attaches the transaction once and detaches it
  once, and does not leave it busy. -/
  runs : ∀ master timing polls,
    let call := Call.run master timing polls
    if polls = some 0 then call.told t = [] ∧ call.apply t = t
    else (call.apply t).state ≠ .busy ∧ ∃ cause,
      call.told t = [.attaching (decide (t.state ≠ .busy)), .detaching cause]
  /-- However it is attached, detached and run, the address, the bytes to write and the room to read
  into stay as they are. -/
  keeps : ∀ calls, (∀ call ∈ calls, call.reconfigures = false) →
    (t.after calls).address = t.address ∧ (t.after calls).body.blank = t.body.blank
  /-- Nor does any of this change what a run does to a master, and how it comes out. -/
  reruns : ∀ calls, (∀ call ∈ calls, call.reconfigures = false) → t.state ≠ .busy →
    (t.after calls).state ≠ .busy → ∀ master timing polls,
      let before := Job.carryOut polls (Run.fresh timing t) master
      let again := Job.carryOut polls (Run.fresh timing (t.after calls)) master
      again.1 = before.1 ∧ again.2.2 = before.2.2

theorem lawful {t : Transaction} {history : History} (readyMade : t.body.ReadyMade)
    (state : t.state = history.state) : Lawful history t := by
  have accepts := attach_fst readyMade
  constructor
  case busy => rw [state, history.state_busy]
  case rest =>
    rw [state]
    exact history.state_rest
  case attaches => simp [accepts]
  case configures =>
    intro sequence takes
    have room : (t.configure? sequence).isSome = true := by
      rw [configure?, Option.isSome_map, Body.isSome_setUp? readyMade, takes]
    obtain ⟨⟨result, after⟩, configured⟩ := Option.isSome_iff_exists.1 room
    exact ⟨result, after, configured, configure?_eq configured⟩
  case addresses => exact t.setAddress_eq
  case runs =>
    intro master timing polls
    by_cases polled : polls = some 0
    · subst polled
      exact run_unpolled master timing t
    · obtain ⟨cause, told, after⟩ := run_told master timing polled t
      simp only [if_neg polled]
      refine ⟨?_, cause, ?_⟩
      · rw [after]
        split <;> simp
      · rw [told, accepts]
  case keeps =>
    intro calls keep
    have kept : t.Kept (t.after calls) := after_kept keep
    exact ⟨kept.address, kept.body⟩
  case reruns =>
    intro calls keep rests rests' master timing polls
    have kept : t.Kept (t.after calls) := after_kept keep
    have accepts' := attach_fst (kept.readyMade readyMade)
    simp only [rests, rests', decide_true, ne_eq, not_false_eq_true] at accepts accepts'
    exact Run.carryOut_congr master timing kept (accepts'.trans accepts.symm) polls

/-- Whatever is done with a ready-made transaction that starts out idle. -/
theorem lawful_in_use {t : Transaction} (readyMade : t.body.ReadyMade) (idle : t.state = .idle)
    (calls : List Call) : Lawful (t.history calls) (t.after calls) := by
  apply lawful
  · exact after_readyMade readyMade calls
  · rw [after_state readyMade, idle]
    rfl

-- Attached by hand, a transaction refuses to be set up and to be run, which sets it free again; its
-- next run is dropped, and the one after that comes to its end.

namespace WellUsed

def transaction : Transaction := { address := ⟨0x76, by decide⟩, body := .writeRead [0x0F] [0] }

def master : Master :=
  { bus := { targets := (Vector.replicate 256 none).set 0x76 (some {}), yields := 1 } }

def calls : List Call :=
  [.attach, .configure (.write [0x20, 0x47]), .run master none none, .run master none (some 1),
    .run master none none]

theorem lawful_when_free :
    transaction.history calls =
        [.attaching true, .attaching false, .detaching .failedToAttach, .attaching true,
          .detaching .errorCondition, .attaching true, .detaching .normalStop] ∧
      (transaction.after calls).state = .idle ∧
      Lawful (transaction.history calls) (transaction.after calls) := by
  have readyMade : transaction.body.ReadyMade := trivial
  exact ⟨by decide +kernel, rfl, lawful_in_use readyMade rfl calls⟩

end WellUsed

end Transaction

end SensorBus.I2c
