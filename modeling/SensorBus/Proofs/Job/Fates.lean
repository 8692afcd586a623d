import SensorBus.Job.Countdown
import SensorBus.Job.Slot

namespace SensorBus

structure Future (α : Type) where
  pending : Nat
  value : α

/-- A future on its way. Its countdown goes by the number of the future. -/
structure Numbered (α : Type) where
  countdown : Countdown
  value : α

instance {α : Type} : Job (Numbered α) (List Countdown.Mark) α where
  poll job marks :=
    let (ready, countdown, marks) := job.countdown.poll marks
    (ready.map fun _ => job.value, { job with countdown }, marks)
  finish job marks :=
    let (ready, countdown, marks) := job.countdown.finish marks
    (ready.map fun _ => job.value, { job with countdown }, marks)
  drop job marks := job.countdown.drop marks

def Future.after {α : Type} (future : Future α) (number polls : Nat) : Numbered α :=
  { countdown := { id := number, left := future.pending - polls }, value := future.value }

section

variable {α : Type} (future : Future α) (number : Nat) {polls : Nat} (marks : List Countdown.Mark)

theorem Future.poll_ready : Job.poll (future.after number future.pending) marks =
    (some future.value, future.after number future.pending, marks ++ [.polled ↑number]) := by
  simp [Job.poll, Future.after, Countdown.poll]

theorem Future.poll_pending (lt : polls < future.pending) :
    Job.poll (future.after number polls) marks =
      (none, future.after number (polls + 1), marks ++ [.polled ↑number]) := by
  obtain ⟨left, eq⟩ := Nat.exists_eq_add_of_lt lt
  have here : future.pending - polls = left + 1 := by omega
  have next : future.pending - (polls + 1) = left := by omega
  simp [Job.poll, Future.after, Countdown.poll, here, next]

theorem Future.finish : Job.finish (future.after number polls) marks =
    (some future.value, future.after number future.pending,
      marks ++ List.replicate (future.pending - polls + 1) (.polled ↑number)) := by
  simp [Job.finish, Future.after, Countdown.finish]

theorem Future.drop :
    Job.drop (future.after number polls) marks = marks ++ [.dropped ↑number] := rfl

end

namespace Countdown.Mark

def id : Mark → Int
  | .polled id | .dropped id => id

@[simp] theorem id_polled (id : Int) : (polled id).id = id := rfl

@[simp] theorem id_dropped (id : Int) : (dropped id).id = id := rfl

end Countdown.Mark

namespace Slot

open Countdown (Mark)

variable {α : Type}

def own (number : Nat) (marks : List Mark) : List Mark :=
  marks.filter fun mark => mark.id = (number : Int)

theorem own_append (number : Nat) (first second : List Mark) :
    own number (first ++ second) = own number first ++ own number second :=
  List.filter_append ..

theorem own_eq_nil {number : Nat} {marks : List Mark} :
    own number marks = [] ↔ ∀ mark ∈ marks, mark.id ≠ number := by
  simp [own]

theorem count_own {number : Nat} {mark : Mark} (same : mark.id = number) (marks : List Mark) :
    (own number marks).count mark = marks.count mark :=
  List.count_filter (by simp [same])

inductive Call (α : Type)
  | start (future : Future α)
  | resume
  | stop
  | finish
  | isRunning

inductive Reply (α : Type)
  | started (number : Nat) (accepted : Bool)
  | resumed (outcome : Resume α)
  | stopped (running : Bool)
  | finished (value : Option α)
  | running (running : Bool)

def Reply.value? : Reply α → Option α
  | .resumed outcome => outcome.value?
  | .finished value => value
  | _ => none

structure Entry (α : Type) where
  call : Call α
  marks : List Mark
  reply : Reply α

abbrev History (α : Type) := List (Entry α)

namespace History

def marks (history : History α) : List Mark := history.flatMap Entry.marks

def polls (history : History α) (number : Nat) : Nat := history.marks.count (.polled number)

def values (history : History α) (number : Nat) : List α :=
  history.filterMap fun entry => if .polled ↑number ∈ entry.marks then entry.reply.value? else none

def Refused (history : History α) (number : Nat) : Prop :=
  ∃ entry ∈ history, entry.reply = .started number false

def Stopped (history : History α) (number : Nat) : Prop :=
  ∃ entry ∈ history, entry.call = .stop ∧ .dropped ↑number ∈ entry.marks

end History

/-- A slot, the futures that have come up so far, numbered in this order, and what has happened. -/
structure Diary (α : Type) where
  slot : Slot (Numbered α)
  futures : List (Future α)
  history : History α := []

namespace Diary

def new (initial : Option (Future α)) : Diary α :=
  { slot := initial.map (·.after 0 0), futures := initial.toList }

def enter (diary : Diary α) (call : Call α) (reply : Reply α) (slot : Slot (Numbered α))
    (marks : List Mark) : Diary α :=
  { diary with slot, history := diary.history ++ [{ call, marks, reply }] }

def attend (diary : Diary α) : Call α → Diary α
  | .start future =>
    let number := diary.futures.length
    let (accepted, slot, marks) := Slot.start (future.after number 0) diary.slot []
    { diary.enter (.start future) (.started number accepted) slot marks with
      futures := diary.futures ++ [future] }
  | .resume =>
    let (outcome, slot, marks) := Slot.resume diary.slot []
    diary.enter .resume (.resumed outcome) slot marks
  | .stop =>
    let (stopped, slot, marks) := Slot.stop diary.slot []
    diary.enter .stop (.stopped stopped) slot marks
  | .finish =>
    let (value, slot, marks) := Slot.finish diary.slot []
    diary.enter .finish (.finished value) slot marks
  | .isRunning => diary.enter .isRunning (.running (Slot.isRunning diary.slot)) diary.slot []

def keep (diary : Diary α) (calls : List (Call α)) : Diary α := calls.foldl attend diary

end Diary

inductive Fate (α : Type)
  | ahead
  | refused
  | running (polls : Nat)
  | stopped (polls : Nat)
  | finished (polls : Nat) (value : α)

namespace Fate

@[simp] def polls : Fate α → Nat
  | .ahead | .refused => 0
  | .running polls | .stopped polls | .finished polls _ => polls

@[simp] def dropped : Fate α → Bool
  | .ahead | .running _ => false
  | .refused | .stopped _ | .finished .. => true

@[simp] def values : Fate α → List α
  | .finished _ value => [value]
  | _ => []

def marks (number : Nat) (fate : Fate α) : List Mark :=
  List.replicate fate.polls (.polled number) ++ if fate.dropped then [.dropped number] else []

def Fits (future : Future α) : Fate α → Prop
  | .ahead => False
  | .refused => True
  | .running polls | .stopped polls => polls ≤ future.pending
  | .finished polls value => polls = future.pending + 1 ∧ value = future.value

variable {future : Future α} {fate : Fate α}

theorem Fits.polls_le (fits : fate.Fits future) : fate.polls ≤ future.pending + 1 := by
  cases fate with
  | ahead => exact fits.elim
  | refused => exact Nat.zero_le _
  | running polls | stopped polls => exact Nat.le_succ_of_le fits
  | finished polls value => exact Nat.le_of_eq fits.1

theorem Fits.values_eq (fits : fate.Fits future) :
    fate.values = if fate.polls = future.pending + 1 then [future.value] else [] := by
  cases fate with
  | ahead => exact fits.elim
  | refused => simp
  | running polls | stopped polls => simp [Nat.ne_of_lt (Nat.lt_succ_of_le fits)]
  | finished polls value =>
    obtain ⟨rfl, rfl⟩ := fits
    simp

theorem Fits.dropped (fits : fate.Fits future) (rests : ∀ polls, fate ≠ .running polls) :
    fate.dropped = true := by
  cases fate with
  | ahead => exact fits.elim
  | running polls => exact absurd rfl (rests polls)
  | refused | stopped | finished => rfl

end Fate

/-- This has become of the future with this number. -/
structure History.Tells (history : History α) (number : Nat) (fate : Fate α) : Prop where
  marks : own number history.marks = fate.marks number
  values : history.values number = fate.values
  refused : history.Refused number ↔ fate = .refused
  stopped : history.Stopped number ↔ ∃ polls, fate = .stopped polls

namespace History

variable {history : History α} {entry : Entry α} {number : Nat} {fate : Fate α}

theorem marks_append_singleton (history : History α) (entry : Entry α) :
    marks (history ++ [entry]) = history.marks ++ entry.marks := by
  simp [marks]

theorem refused_append_singleton :
    Refused (history ++ [entry]) number ↔
      history.Refused number ∨ entry.reply = .started number false := by
  simp [Refused, or_and_right, exists_or]

theorem stopped_append_singleton :
    Stopped (history ++ [entry]) number ↔
      history.Stopped number ∨ entry.call = .stop ∧ .dropped ↑number ∈ entry.marks := by
  simp [Stopped, or_and_right, exists_or]

theorem values_append_singleton (history : History α) (entry : Entry α) (number : Nat) :
    values (history ++ [entry]) number =
      history.values number ++
        (if .polled ↑number ∈ entry.marks then entry.reply.value? else none).toList := by
  cases given : if .polled ↑number ∈ entry.marks then entry.reply.value? else none <;>
    simp [values, given]

theorem Tells.append_singleton {fate' : Fate α} (tells : history.Tells number fate)
    (marks : fate.marks number ++ own number entry.marks = fate'.marks number)
    (values : fate.values ++
      (if .polled ↑number ∈ entry.marks then entry.reply.value? else none).toList = fate'.values)
    (refused : fate = .refused ∨ entry.reply = .started number false ↔ fate' = .refused)
    (stopped : (∃ polls, fate = .stopped polls) ∨
      entry.call = .stop ∧ .dropped ↑number ∈ entry.marks ↔ ∃ polls, fate' = .stopped polls) :
    Tells (history ++ [entry]) number fate' where
  marks := by rw [marks_append_singleton, own_append, tells.marks, marks]
  values := by rw [values_append_singleton, tells.values, values]
  refused := by rw [refused_append_singleton, tells.refused, refused]
  stopped := by rw [stopped_append_singleton, tells.stopped, stopped]

theorem Tells.quiet (tells : Tells history number fate)
    (quiet : ∀ mark ∈ entry.marks, mark.id ≠ number)
    (taken : entry.reply ≠ .started number false) : Tells (history ++ [entry]) number fate := by
  have unpolled : Mark.polled ↑number ∉ entry.marks := fun mem => quiet _ mem rfl
  have undropped : Mark.dropped ↑number ∉ entry.marks := fun mem => quiet _ mem rfl
  apply tells.append_singleton
  · rw [own_eq_nil.2 quiet, List.append_nil]
  · simp [unpolled]
  · simp [taken]
  · simp [undropped]

theorem Tells.nothing (number : Nat) : Tells ([] : History α) number .ahead := by
  constructor <;> simp [History.marks, History.values, Refused, Stopped, Fate.marks, own]

theorem Tells.held (number : Nat) : Tells ([] : History α) number (.running 0) := by
  constructor <;> simp [History.marks, History.values, Refused, Stopped, Fate.marks, own]

theorem Tells.begins (tells : Tells history number .ahead) (future : Future α) :
    Tells (history ++ [⟨.start future, [], .started number true⟩]) number (.running 0) := by
  apply tells.append_singleton
  · simp [Fate.marks, own]
  · simp
  · simp
  · simp

theorem Tells.turnedAway (tells : Tells history number .ahead) (future : Future α) :
    Tells (history ++ [⟨.start future, [.dropped number], .started number false⟩]) number
      .refused := by
  apply tells.append_singleton
  · simp [Fate.marks, own]
  · simp
  · simp
  · simp

theorem Tells.goesOn {polls : Nat} (tells : Tells history number (.running polls)) :
    Tells (history ++ [⟨.resume, [.polled number], .resumed .running⟩]) number
      (.running (polls + 1)) := by
  apply tells.append_singleton
  · simp [Fate.marks, own, List.replicate_succ']
  · simp [Reply.value?, Resume.value?]
  · simp
  · simp

theorem Tells.stops {polls : Nat} (tells : Tells history number (.running polls)) :
    Tells (history ++ [⟨.stop, [.dropped number], .stopped true⟩]) number (.stopped polls) := by
  apply tells.append_singleton
  · simp [Fate.marks, own]
  · simp
  · simp
  · simp

theorem Tells.ends {polls more : Nat} (tells : Tells history number (.running polls))
    {call : Call α} {reply : Reply α} {value : α} (goes : call ≠ .stop)
    (taken : reply ≠ .started number false) (gives : reply.value? = some value) :
    Tells (history ++ [⟨call, List.replicate (more + 1) (.polled number) ++ [.dropped number],
      reply⟩]) number (.finished (polls + (more + 1)) value) := by
  apply tells.append_singleton
  · simp [Fate.marks, own, ← List.replicate_append_replicate]
  · simp [gives]
  · simp [taken]
  · simp [goes]

end History

namespace History.Tells

variable {history : History α} {number : Nat} {fate : Fate α}

theorem polls (tells : history.Tells number fate) : history.polls number = fate.polls := by
  rw [History.polls, ← count_own (Mark.id_polled _), tells.marks, Fate.marks]
  cases fate.dropped <;> simp [List.count_append]

theorem drops (tells : history.Tells number fate) :
    history.marks.count (.dropped ↑number) = if fate.dropped then 1 else 0 := by
  rw [← count_own (Mark.id_dropped _), tells.marks, Fate.marks]
  cases fate.dropped <;> simp [List.count_append, List.count_replicate]

theorem silent (tells : history.Tells number fate) {before after : List Mark}
    (split : history.marks = before ++ .dropped ↑number :: after) :
    ∀ mark ∈ after, mark.id ≠ number := by
  have own_dropped :
      own number (.dropped ↑number :: after) = .dropped ↑number :: own number after :=
    List.filter_cons_of_pos (by simp)
  have marks := tells.marks
  rw [split, own_append, own_dropped, Fate.marks] at marks
  have unpolled : Mark.dropped ↑number ∉ List.replicate fate.polls (Mark.polled ↑number) := by
    simp [List.mem_replicate]
  apply own_eq_nil.1
  -- The drop is the last of its marks: it is not among the polls.
  cases dropped : fate.dropped with
  | false =>
    rw [dropped, if_neg Bool.false_ne_true, List.append_nil] at marks
    rw [← marks] at unpolled
    exact absurd (by simp) unpolled
  | true =>
    rw [dropped, if_pos rfl] at marks
    obtain none | ⟨rest, last, concat⟩ := List.eq_nil_or_concat (own number after)
    · exact none
    · rw [concat, List.concat_eq_append, ← List.cons_append, ← List.append_assoc] at marks
      rw [← (List.append_inj' marks rfl).1] at unpolled
      exact absurd (by simp) unpolled

end History.Tells

end Slot

end SensorBus
