import Mathlib.Logic.Function.Basic
import SensorBus.Proofs.Job.Fates

namespace SensorBus.Slot

open Countdown (Mark)

variable {α : Type}

inductive Holds (futures : List (Future α)) (fates : Nat → Fate α) : Slot (Numbered α) → Prop
  | nothing (rest : ∀ number polls, fates number ≠ .running polls) : Holds futures fates none
  | one {number : Nat} {future : Future α} {polls : Nat} (known : futures[number]? = some future)
      (running : fates number = .running polls)
      (alone : ∀ other polls, fates other = .running polls → other = number) :
      Holds futures fates (some (future.after number polls))

structure Diary.Sound (diary : Diary α) (fates : Nat → Fate α) : Prop where
  tells : ∀ number, diary.history.Tells number (fates number)
  ahead : ∀ number, diary.futures[number]? = none → fates number = .ahead
  fits : ∀ number future, diary.futures[number]? = some future → (fates number).Fits future
  given : ∀ entry ∈ diary.history, entry.reply.value?.isSome = true →
    ∃ number < diary.futures.length, .polled ↑number ∈ entry.marks
  holds : Holds diary.futures fates diary.slot

theorem running_of_update {fates : Nat → Fate α} {number other polls : Nat} {fate : Fate α}
    (ended : ∀ polls, fate ≠ .running polls)
    (running : Function.update fates number fate other = .running polls) :
    other ≠ number ∧ fates other = .running polls := by
  by_cases same : other = number
  · subst same
    rw [Function.update_self] at running
    exact absurd running (ended polls)
  · rw [Function.update_of_ne same] at running
    exact ⟨same, running⟩

theorem Holds.update {futures : List (Future α)} {fates : Nat → Fate α} {number polls : Nat}
    {future : Future α} (known : futures[number]? = some future)
    (alone : ∀ other polls, fates other = .running polls → other = number) :
    Holds futures (Function.update fates number (.running polls))
      (some (future.after number polls)) := by
  apply Holds.one known (Function.update_self ..)
  intro other polls running
  by_contra ne
  rw [Function.update_of_ne ne] at running
  exact ne (alone other polls running)

namespace Diary.Sound

variable {diary : Diary α} {fates : Nat → Fate α}

theorem silent (sound : diary.Sound fates) {call : Call α} {reply : Reply α}
    (valueless : reply.value? = none) (taken : ∀ number, reply ≠ .started number false) :
    (diary.enter call reply diary.slot []).Sound fates where
  tells number := (sound.tells number).quiet (by simp) (taken number)
  ahead := sound.ahead
  fits := sound.fits
  given entry mem value := by
    obtain mem | mem := List.mem_append.1 mem
    · exact sound.given entry mem value
    · cases List.mem_singleton.1 mem
      simp [valueless] at value
  holds := sound.holds

theorem touch (sound : diary.Sound fates) {futures : List (Future α)} {number : Nat}
    {future : Future α} (known : futures[number]? = some future)
    (others : ∀ other, other ≠ number → futures[other]? = diary.futures[other]?)
    {entry : Entry α} (only : ∀ mark ∈ entry.marks, mark.id = number)
    (taken : ∀ other, other ≠ number → entry.reply ≠ .started other false)
    (given : entry.reply.value?.isSome = true → .polled ↑number ∈ entry.marks)
    {fate : Fate α} (fits : fate.Fits future)
    (tells : History.Tells (diary.history ++ [entry]) number fate) {slot : Slot (Numbered α)}
    (holds : Holds futures (Function.update fates number fate) slot) :
    Diary.Sound ⟨slot, futures, diary.history ++ [entry]⟩ (Function.update fates number fate) where
  tells other := by
    by_cases same : other = number
    · subst same
      simpa using tells
    · rw [Function.update_of_ne same]
      refine (sound.tells other).quiet (fun mark mem eq => same ?_) (taken other same)
      exact Int.ofNat_inj.1 (eq.symm.trans (only mark mem))
  ahead other unknown := by
    have ne : other ≠ number := by
      rintro rfl
      simp [known] at unknown
    rw [Function.update_of_ne ne]
    exact sound.ahead other ((others other ne).symm.trans unknown)
  fits other future' known' := by
    by_cases same : other = number
    · subst same
      cases known.symm.trans known'
      simpa using fits
    · rw [Function.update_of_ne same]
      exact sound.fits other future' ((others other same).symm.trans known')
  given entry' mem value := by
    obtain mem | mem := List.mem_append.1 mem
    · obtain ⟨other, lt, polled⟩ := sound.given entry' mem value
      refine ⟨other, ?_, polled⟩
      by_cases same : other = number
      · subst same
        exact (List.getElem?_eq_some_iff.1 known).1
      · have known' := others other same
        rw [List.getElem?_eq_getElem lt] at known'
        exact (List.getElem?_eq_some_iff.1 known').1
    · cases List.mem_singleton.1 mem
      exact ⟨number, (List.getElem?_eq_some_iff.1 known).1, given value⟩
  holds := holds

theorem getElem?_append_singleton_of_ne {futures : List (Future α)} (future : Future α)
    {other : Nat} (ne : other ≠ futures.length) :
    (futures ++ [future])[other]? = futures[other]? := by
  obtain lt | gt := Nat.lt_or_gt_of_ne ne
  · exact List.getElem?_append_left lt
  · have beyond : (futures ++ [future]).length ≤ other := by
      rw [List.length_append]
      exact gt
    rw [List.getElem?_eq_none beyond, List.getElem?_eq_none (Nat.le_of_lt gt)]

theorem start (sound : diary.Sound fates) (future : Future α) :
    ∃ fates, (diary.attend (.start future)).Sound fates := by
  obtain ⟨slot, futures, history⟩ := diary
  have ahead : fates futures.length = .ahead := sound.ahead _ (by simp)
  have tells : History.Tells history futures.length (fates futures.length) := sound.tells _
  rw [ahead] at tells
  have known : (futures ++ [future])[futures.length]? = some future := by simp
  have others (other : Nat) (ne : other ≠ futures.length) :
      (futures ++ [future])[other]? = futures[other]? := getElem?_append_singleton_of_ne future ne
  have holds : Holds futures fates slot := sound.holds
  cases holds with
  | nothing rest =>
    refine ⟨_, sound.touch known others (by simp) (by simp) (by simp [Reply.value?])
      (Nat.zero_le _) (tells.begins future) (.update known fun other polls running => ?_)⟩
    exact absurd running (rest other polls)
  | @one number held polls known' running alone =>
    have ne : number ≠ futures.length := by
      rintro rfl
      rw [ahead] at running
      cases running
    have fits : (Fate.refused : Fate α).Fits future := trivial
    refine ⟨_, sound.touch known others (by simp) ?_ (by simp [Reply.value?])
      fits (tells.turnedAway future) ?_⟩
    · intro other ne eq
      cases eq
      exact ne rfl
    · refine .one ((others number ne).trans known') ?_ fun other polls running => ?_
      · exact (Function.update_of_ne ne ..).trans running
      · exact alone other polls (running_of_update (by simp) running).2

section

variable {slot : Slot (Numbered α)} {futures : List (Future α)} {history : History α}
  {future : Future α} {number polls : Nat} {entry : Entry α} {fate : Fate α}

theorem goOn (sound : Sound ⟨slot, futures, history⟩ fates)
    (known : futures[number]? = some future)
    (alone : ∀ other polls, fates other = .running polls → other = number)
    (only : ∀ mark ∈ entry.marks, mark.id = number)
    (taken : ∀ other, entry.reply ≠ .started other false) (valueless : entry.reply.value? = none)
    (fits : (Fate.running polls : Fate α).Fits future)
    (tells : History.Tells (history ++ [entry]) number (.running polls)) :
    Sound ⟨some (future.after number polls), futures, history ++ [entry]⟩
      (Function.update fates number (.running polls)) :=
  sound.touch known (fun _ _ => rfl) only (fun other _ => taken other) (by simp [valueless])
    fits tells (.update known alone)

theorem close (sound : Sound ⟨slot, futures, history⟩ fates)
    (known : futures[number]? = some future)
    (alone : ∀ other polls, fates other = .running polls → other = number)
    (only : ∀ mark ∈ entry.marks, mark.id = number)
    (taken : ∀ other, entry.reply ≠ .started other false)
    (given : entry.reply.value?.isSome = true → .polled ↑number ∈ entry.marks)
    (tells : History.Tells (history ++ [entry]) number fate)
    (ended : ∀ polls, fate ≠ .running polls) (fits : fate.Fits future) :
    Sound ⟨none, futures, history ++ [entry]⟩ (Function.update fates number fate) := by
  refine sound.touch known (fun _ _ => rfl) only (fun other _ => taken other) given fits tells
    (.nothing fun other polls running => ?_)
  obtain ⟨ne, running⟩ := running_of_update ended running
  exact ne (alone other polls running)

theorem holding (sound : Sound ⟨slot, futures, history⟩ fates) :
    slot = none ∨ ∃ number future polls, slot = some (future.after number polls) ∧
      futures[number]? = some future ∧ polls ≤ future.pending ∧
      history.Tells number (.running polls) ∧
      ∀ other polls, fates other = .running polls → other = number := by
  have holds : Holds futures fates slot := sound.holds
  cases holds with
  | nothing rest => exact .inl rfl
  | @one number future polls known running alone =>
    have fits := sound.fits number future known
    have tells := sound.tells number
    rw [running] at fits tells
    exact .inr ⟨number, future, polls, rfl, known, fits, tells, alone⟩

end

theorem resume (sound : diary.Sound fates) : ∃ fates, (diary.attend .resume).Sound fates := by
  obtain ⟨slot, futures, history⟩ := diary
  obtain rfl | ⟨number, future, polls, rfl, known, le, tells, alone⟩ := sound.holding
  · exact ⟨fates, sound.silent rfl nofun⟩
  obtain lt | rfl := Nat.lt_or_eq_of_le le
  · have stepped : Diary.attend ⟨some (future.after number polls), futures, history⟩ .resume =
        ⟨some (future.after number (polls + 1)), futures,
          history ++ [⟨.resume, [.polled number], .resumed .running⟩]⟩ := by
      simp [attend, Slot.resume, future.poll_pending number [] lt, enter]
    rw [stepped]
    exact ⟨_, sound.goOn known alone (by simp) nofun rfl lt tells.goesOn⟩
  · have stepped :
        Diary.attend ⟨some (future.after number future.pending), futures, history⟩ .resume =
          ⟨none, futures, history ++ [⟨.resume,
            List.replicate 1 (.polled number) ++ [.dropped number],
            .resumed (.finished future.value)⟩]⟩ := by
      simp [attend, Slot.resume, future.poll_ready number [], enter, Future.drop]
    have gives : (Reply.resumed (.finished future.value)).value? = some future.value := rfl
    rw [stepped]
    exact ⟨_, sound.close known alone (by simp) nofun (by simp) (tells.ends nofun nofun gives)
      nofun ⟨rfl, rfl⟩⟩

theorem finish (sound : diary.Sound fates) : ∃ fates, (diary.attend .finish).Sound fates := by
  obtain ⟨slot, futures, history⟩ := diary
  obtain rfl | ⟨number, future, polls, rfl, known, le, tells, alone⟩ := sound.holding
  · exact ⟨fates, sound.silent rfl nofun⟩
  have stepped : Diary.attend ⟨some (future.after number polls), futures, history⟩ .finish =
      ⟨none, futures, history ++ [⟨.finish,
        List.replicate (future.pending - polls + 1) (.polled number) ++ [.dropped number],
        .finished (some future.value)⟩]⟩ := by
    simp [attend, Slot.finish, Future.finish, enter, Future.drop]
  have gives : (Reply.finished (some future.value)).value? = some future.value := rfl
  have all : polls + (future.pending - polls + 1) = future.pending + 1 := by omega
  rw [stepped]
  refine ⟨_, sound.close known alone ?_ nofun (by simp) (tells.ends nofun nofun gives) nofun
    ⟨all, rfl⟩⟩
  simp [or_imp, forall_and]

theorem stop (sound : diary.Sound fates) : ∃ fates, (diary.attend .stop).Sound fates := by
  obtain ⟨slot, futures, history⟩ := diary
  obtain rfl | ⟨number, future, polls, rfl, known, le, tells, alone⟩ := sound.holding
  · exact ⟨fates, sound.silent rfl nofun⟩
  have stepped : Diary.attend ⟨some (future.after number polls), futures, history⟩ .stop =
    ⟨none, futures, history ++ [⟨.stop, [.dropped number], .stopped true⟩]⟩ := rfl
  rw [stepped]
  exact ⟨_, sound.close known alone (by simp) nofun nofun tells.stops nofun le⟩

theorem attend (sound : diary.Sound fates) (call : Call α) :
    ∃ fates, (diary.attend call).Sound fates := by
  cases call with
  | start future => exact sound.start future
  | resume => exact sound.resume
  | stop => exact sound.stop
  | finish => exact sound.finish
  | isRunning => exact ⟨fates, sound.silent rfl nofun⟩

theorem new (initial : Option (Future α)) : ∃ fates, (Diary.new initial).Sound fates := by
  cases initial with
  | none => exact ⟨fun _ => .ahead, .nothing, fun _ _ => rfl, nofun, nofun, .nothing nofun⟩
  | some future =>
    refine ⟨fun number => if number = 0 then .running 0 else .ahead, ?_, ?_, ?_, nofun, ?_⟩
    · intro number
      split
      · exact .held number
      · exact .nothing number
    · intro number unknown
      cases number with
      | zero => cases unknown
      | succ number => rfl
    · intro number future' known
      cases number with
      | zero =>
        cases known
        exact Nat.zero_le _
      | succ number => cases known
    · refine .one rfl rfl fun other polls running => ?_
      cases other with
      | zero => rfl
      | succ other => cases running

theorem keep (sound : diary.Sound fates) (calls : List (Call α)) :
    ∃ fates, (diary.keep calls).Sound fates := by
  induction calls generalizing diary fates with
  | nil => exact ⟨fates, sound⟩
  | cons call rest ih =>
    obtain ⟨fates, sound⟩ := sound.attend call
    exact ih sound

end Diary.Sound

structure Diary.Faithful (diary : Diary α) : Prop where
  running : isRunning diary.slot = true ↔ ∃ number < diary.futures.length,
    ¬diary.history.Refused number ∧ diary.history.values number = [] ∧
      ¬diary.history.Stopped number
  /-- Whether a future is taken or dropped at once; then what is running stays as it is. -/
  starts : ∀ future, diary.attend (.start future) =
    let number := diary.futures.length
    let futures := diary.futures ++ [future]
    if isRunning diary.slot then
      ⟨diary.slot, futures,
        diary.history ++ [⟨.start future, [.dropped number], .started number false⟩]⟩
    else
      ⟨some (future.after number 0), futures,
        diary.history ++ [⟨.start future, [], .started number true⟩]⟩
  refused : ∀ number, diary.history.Refused number → diary.history.polls number = 0
  silent : ∀ (number : Nat) (before after : List Mark),
    diary.history.marks = before ++ .dropped ↑number :: after → ∀ mark ∈ after, mark.id ≠ number
  polls : ∀ number future, diary.futures[number]? = some future →
    diary.history.polls number ≤ future.pending + 1
  /-- The last poll gives the value, to the call that it is made in. -/
  values : ∀ number future, diary.futures[number]? = some future →
    diary.history.values number =
      if diary.history.polls number = future.pending + 1 then [future.value] else []
  given : ∀ entry ∈ diary.history, entry.reply.value?.isSome = true →
    ∃ number < diary.futures.length, .polled ↑number ∈ entry.marks
  stopped : ∀ number, diary.history.Stopped number → diary.history.values number = []
  /-- The slot drops what it holds when it is dropped itself. -/
  drops : ∀ number < diary.futures.length,
    (Slot.stop diary.slot diary.history.marks).2.2.count (.dropped ↑number) = 1

namespace Diary.Sound

variable {diary : Diary α} {fates : Nat → Fate α}

theorem isRunning_iff (sound : diary.Sound fates) : isRunning diary.slot = true ↔
    ∃ number < diary.futures.length, ¬diary.history.Refused number ∧
      diary.history.values number = [] ∧ ¬diary.history.Stopped number := by
  obtain ⟨slot, futures, history⟩ := diary
  have tells (number : Nat) : history.Tells number (fates number) := sound.tells number
  have holds : Holds futures fates slot := sound.holds
  simp only [(tells _).refused, (tells _).values, (tells _).stopped]
  cases holds with
  | nothing rest =>
    refine ⟨nofun, fun ⟨number, lt, unrefused, valueless, unstopped⟩ => ?_⟩
    have fits := sound.fits number _ (List.getElem?_eq_getElem lt)
    cases fate : fates number with
    | ahead => simp [fate, Fate.Fits] at fits
    | refused => exact absurd fate unrefused
    | running polls => exact absurd fate (rest number polls)
    | stopped polls => exact absurd ⟨polls, fate⟩ unstopped
    | finished polls value => simp [fate] at valueless
  | @one number future polls known running alone =>
    refine ⟨fun _ => ⟨number, (List.getElem?_eq_some_iff.1 known).1, ?_⟩, fun _ => rfl⟩
    simp [running]

theorem drops (sound : diary.Sound fates) {number : Nat} (lt : number < diary.futures.length) :
    (Slot.stop diary.slot diary.history.marks).2.2.count (.dropped ↑number) = 1 := by
  obtain ⟨slot, futures, history⟩ := diary
  have counted : history.marks.count (.dropped ↑number) = if (fates number).dropped then 1 else 0 :=
    (sound.tells number).drops
  have fits := sound.fits number _ (List.getElem?_eq_getElem lt)
  have holds : Holds futures fates slot := sound.holds
  cases holds with
  | nothing rest =>
    change history.marks.count (.dropped ↑number) = 1
    rw [counted, fits.dropped (rest number), if_pos rfl]
  | @one held future polls known running alone =>
    change (history.marks ++ [Mark.dropped ↑held]).count (.dropped ↑number) = 1
    rw [List.count_append, counted]
    by_cases same : number = held
    · subst same
      simp [running]
    · have rests (polls : Nat) : fates number ≠ .running polls :=
        fun running => same (alone number polls running)
      have other : (held : Int) ≠ number := fun eq => same (Int.ofNat_inj.1 eq).symm
      rw [fits.dropped rests, if_pos rfl]
      simp [other]

theorem faithful (sound : diary.Sound fates) : diary.Faithful where
  running := sound.isRunning_iff
  starts := by
    intro future
    obtain ⟨slot, futures, history⟩ := diary
    cases slot <;> rfl
  refused number refused := by
    rw [(sound.tells number).polls, (sound.tells number).refused.1 refused]
    rfl
  silent number before after split := (sound.tells number).silent split
  polls number future known := by
    rw [(sound.tells number).polls]
    exact (sound.fits number future known).polls_le
  values number future known := by
    rw [(sound.tells number).polls, (sound.tells number).values]
    exact (sound.fits number future known).values_eq
  given := sound.given
  stopped number stopped := by
    obtain ⟨polls, fate⟩ := (sound.tells number).stopped.1 stopped
    rw [(sound.tells number).values, fate]
    rfl
  drops number lt := sound.drops lt

end Diary.Sound

/-- However a slot is used, and whatever it holds at first. -/
theorem faithful_in_use (initial : Option (Future α)) (calls : List (Call α)) :
    ((Diary.new initial).keep calls).Faithful := by
  obtain ⟨fates, sound⟩ := Diary.Sound.new initial
  obtain ⟨fates, sound⟩ := sound.keep calls
  exact sound.faithful

example :
    let diary := (Diary.new (none : Option (Future Nat))).keep
      [.start ⟨1, 23⟩, .resume, .start ⟨0, 42⟩, .finish, .isRunning]
    diary.history.marks = [.polled 0, .dropped 1, .polled 0, .dropped 0] ∧
      diary.history.map Entry.reply =
        [.started 0 true, .resumed .running, .started 1 false, .finished (some 23),
          .running false] :=
  ⟨rfl, rfl⟩

end SensorBus.Slot
