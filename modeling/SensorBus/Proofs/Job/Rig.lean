import SensorBus.Proofs.Job.Tracking

namespace SensorBus

variable {I : Interface} {V W C σ α : Type}

/-- A private state and its world, with the call that is under way, and the one that the last step
has ended, with what it came to. -/
structure Rig (M : Medium I W) (C σ α : Type) where
  fiber : Fiber M σ α
  world : W
  call : Option C := none
  ended : Option (C × α) := none

namespace Rig

/-- What happens next: a call is started, and the one before it dropped if that is still under way;
or the one that is under way is polled, finished or dropped; or others change the world, and abide
by a restriction. -/
inductive Step (C W : Type) (abide : W → W → Prop)
  | start (call : C)
  | poll
  | finish
  | drop
  | others (act : W → W) (abides : ∀ world, abide world (act world))

def Step.Within {abide : W → W → Prop} (calls : C → Prop) : Step C W abide → Prop
  | .start call => calls call
  | _ => True

def Step.Own {abide : W → W → Prop} : Step C W abide → Prop
  | .others .. => False
  | _ => True

section

variable {M : Medium I W} {abide : W → W → Prop} (operation : C → Operation I σ α)

def rest (M : Medium I W) (state : σ) (world : W) : Rig M C σ α := { fiber := .spent state, world }

def state (rig : Rig M C σ α) : σ := rig.fiber.state

def settle (rig : Rig M C σ α) : Option α × Fiber M σ α × W → Rig M C σ α
  | (none, fiber, world) => { fiber, world, call := rig.call }
  | (some value, fiber, world) => { fiber, world, ended := rig.call.map (·, value) }

def step (rig : Rig M C σ α) : Step C W abide → Rig M C σ α
  | .start call =>
    { fiber := .fresh rig.state (operation call)
      world := rig.fiber.drop rig.world
      call }
  | .poll => rig.settle (rig.fiber.poll rig.world)
  | .finish => rig.settle (rig.fiber.finish rig.world)
  | .drop => rest M rig.state (rig.fiber.drop rig.world)
  | .others act _ => { rig with world := act rig.world, ended := none }

def run (rig : Rig M C σ α) (steps : List (Step C W abide)) : Rig M C σ α :=
  steps.foldl (step operation) rig

variable {operation}

theorem run_induction (holds : Rig M C σ α → Prop) {rig : Rig M C σ α} (start : holds rig)
    (steps : List (Step C W abide))
    (kept : ∀ rig, holds rig → ∀ s ∈ steps, holds (rig.step operation s)) :
    holds (rig.run operation steps) := by
  induction steps generalizing rig with
  | nil => exact start
  | cons s steps ih =>
    exact ih (kept rig start s List.mem_cons_self) fun rig held s mem =>
      kept rig held s (.tail _ mem)

end

section

variable {M : Medium I W} {abide : W → W → Prop} {operation : C → Operation I σ α}

def Step.recorded : Step C W abide →
    Step C (W × Record I) fun world after => abide world.1 after.1 ∧ after.2 = world.2
  | .start call => .start call
  | .poll => .poll
  | .finish => .finish
  | .drop => .drop
  | .others act abides => .others (fun world => (act world.1, world.2)) fun world =>
    ⟨abides world.1, rfl⟩

def unrecorded (rig : Rig M.recorded C σ α) : Rig M C σ α where
  fiber := M.unrecorded.fiber rig.fiber
  world := rig.world.1
  call := rig.call
  ended := rig.ended

def record (rig : Rig M.recorded C σ α) : Record I := rig.world.2 ++ rig.fiber.underWay

theorem record_spent (state : σ) (world : W × Record I) (ended : Option (C × α)) :
    ({ fiber := .spent state, world, ended } : Rig M.recorded C σ α).record = world.2 :=
  List.append_nil _

end

end Rig

structure Account {M : Medium I W} (T : Tracking M) (operation : C → Operation I σ α) where
  holds : C → σ → σ → Record I → Prop
  ends : C → σ → α → σ → Record I → Prop
  nothing : ∀ call start, holds call start start []
  along : ∀ call start,
    (operation call start).Along T.lawful (holds call start) (ends call start) []

namespace Account

variable {M : Medium I W} {T : Tracking M} {operation : C → Operation I σ α}
  (account : Account T operation) (calls : C → Prop) (total : σ → Record I → Prop)

/-- So much is known of the state and the whole record, as long as only such calls are made. -/
structure Sums : Prop where
  admits : ∀ {state past r}, total state (past ++ [⟨r, none⟩]) → T.kind r
  stopped : ∀ {call start base state own}, calls call → total start base →
    account.holds call start state own → total state (base ++ own)
  ended : ∀ {call start base value state own}, calls call → total start base →
    account.ends call start value state own → total state (base ++ own)

inductive Sound : Rig M.recorded C σ α → Prop
  | idle {state : σ} {world : W × Record I} {ended : Option (C × α)}
      (agrees : T.agrees world.2 world.1) (known : total state world.2) :
      Sound { fiber := .spent state, world, ended }
  | underWay {fiber : Fiber M.recorded σ α} {world : W × Record I} {call : C} {start : σ}
      {base : Record I} (allowed : calls call) (before : total start base)
      (follows : T.Follows (Progress.Behind base (account.holds call start))
        (fun value => Progress.Behind base (account.ends call start value)) fiber world) :
      Sound { fiber, world, call }

def Reports (rig : Rig M.recorded C σ α) : Prop :=
  ∀ call value, rig.ended = some (call, value) → ∃ start base own, calls call ∧
    total start base ∧ rig.record = base ++ own ∧ account.ends call start value rig.state own

section

variable {account calls total} {rig : Rig M.recorded C σ α}

theorem Sound.agrees (sound : account.Sound calls total rig) :
    T.agrees rig.world.2 rig.world.1 := by
  cases sound with
  | idle agrees => exact agrees
  | underWay _ _ follows => exact follows.agrees

theorem Sound.known (sums : account.Sums calls total) (sound : account.Sound calls total rig) :
    total rig.state rig.record := by
  cases sound with
  | idle _ known => rwa [Rig.record_spent]
  | @underWay fiber world call start base allowed before follows =>
    obtain ⟨own, whole, held⟩ := follows.held
    change total fiber.state (world.2 ++ _)
    rw [whole]
    exact sums.stopped allowed before held

theorem Sound.restart {calls' : C → Prop} {total' : σ → Record I → Prop} {came : C × α}
    (sound : account.Sound calls total rig) (ended : rig.ended = some came)
    (known : total' rig.state rig.record) : account.Sound calls' total' rig := by
  cases sound with
  | idle agrees =>
    rw [Rig.record_spent] at known
    exact .idle agrees known
  | underWay => cases ended

theorem Sums.admits_behind (sums : account.Sums calls total) {call : C} {start : σ}
    {base : Record I} (allowed : calls call) (before : total start base) (state : σ)
    (past : Record I) (r : I.Request)
    (held : Progress.Behind base (account.holds call start) state (past ++ [⟨r, none⟩])) :
    T.kind r := by
  obtain ⟨own, whole, held⟩ := held
  have known := sums.stopped allowed before held
  rw [← whole] at known
  exact sums.admits known

theorem Sound.drop (sums : account.Sums calls total) (sound : account.Sound calls total rig) :
    T.agrees (rig.fiber.drop rig.world).2 (rig.fiber.drop rig.world).1 ∧
      (rig.fiber.drop rig.world).2 = rig.record := by
  cases sound with
  | idle agrees => exact ⟨agrees, (Rig.record_spent ..).symm⟩
  | underWay allowed before follows =>
    exact Tracking.drop_agrees (sums.admits_behind allowed before) follows

theorem settle_sound (sums : account.Sums calls total) {call : C} {start : σ} {base : Record I}
    (allowed : calls call) (before : total start base) (underWay : rig.call = some call)
    {came : Option α × Fiber M.recorded σ α × (W × Record I)}
    (comes : T.Comes (Progress.Behind base (account.holds call start))
      (fun value => Progress.Behind base (account.ends call start value)) came) :
    account.Sound calls total (rig.settle came) ∧
      account.Reports calls total (rig.settle came) := by
  rcases came with ⟨_ | value, fiber, world⟩
  · simp only [Rig.settle, underWay]
    exact ⟨.underWay allowed before comes, fun _ _ h => nomatch h⟩
  · obtain ⟨state, rfl, agrees, own, whole, ended⟩ := comes
    have known := sums.ended allowed before ended
    rw [← whole] at known
    simp only [Rig.settle, underWay]
    refine ⟨.idle agrees known, ?_⟩
    rintro _ _ ⟨⟩
    exact ⟨start, base, own, allowed, before, (Rig.record_spent ..).trans whole, ended⟩

variable {abide : W → W → Prop}

theorem own_sound (sums : account.Sums calls total) (sound : account.Sound calls total rig)
    {s : Rig.Step C W abide} (own : s.Own) (within : s.Within calls) :
    account.Sound calls total (rig.step operation s.recorded) ∧
      account.Reports calls total (rig.step operation s.recorded) := by
  have quiet {fiber : Fiber M.recorded σ α} {world : W × Record I} {call : Option C} :
      account.Reports calls total { fiber, world, call } := fun _ _ h => nomatch h
  cases s with
  | others => exact own.elim
  | drop =>
    obtain ⟨agrees, whole⟩ := sound.drop sums
    refine ⟨.idle agrees ?_, quiet⟩
    rw [whole]
    exact sound.known sums
  | start call =>
    -- What was under way is dropped, and the record of the new call goes on from there.
    obtain ⟨agrees, whole⟩ := sound.drop sums
    have known := sound.known sums
    rw [← whole] at known
    have along := (account.along call rig.state).behind (rig.fiber.drop rig.world).2
    rw [List.append_nil] at along
    have nothing := account.nothing call rig.state
    refine ⟨.underWay within known ⟨agrees, ⟨[], (List.append_nil _).symm, nothing⟩, along⟩, quiet⟩
  | poll =>
    cases sound with
    | idle agrees known => exact ⟨.idle agrees known, quiet⟩
    | underWay allowed before follows =>
      have comes := Tracking.poll_comes (sums.admits_behind allowed before) follows
      exact settle_sound sums allowed before rfl comes
  | finish =>
    cases sound with
    | idle agrees known => exact ⟨.idle agrees known, quiet⟩
    | underWay allowed before follows =>
      have comes := Tracking.finish_comes (sums.admits_behind allowed before) follows
      exact settle_sound sums allowed before rfl comes

theorem others_sound (sound : account.Sound calls total rig) {act : W → W}
    {abides : ∀ world, abide world (act world)}
    (agrees : T.agrees rig.world.2 (act rig.world.1)) :
    account.Sound calls total (rig.step operation (Rig.Step.others act abides).recorded) := by
  cases sound with
  | idle _ known => exact .idle agrees known
  | underWay allowed before follows => exact .underWay allowed before (follows.of_agrees agrees)

section

variable (spares : ∀ past world after, abide world after → T.agrees past world →
  T.agrees past after)

include spares

theorem step_sound (sums : account.Sums calls total) (sound : account.Sound calls total rig)
    {s : Rig.Step C W abide} (within : s.Within calls) :
    account.Sound calls total (rig.step operation s.recorded) ∧
      account.Reports calls total (rig.step operation s.recorded) := by
  cases s with
  | others act abides =>
    have agrees := spares _ _ _ (abides rig.world.1) sound.agrees
    exact ⟨others_sound sound agrees, fun _ _ h => nomatch h⟩
  | start | poll | finish | drop => exact own_sound sums sound trivial within

theorem run_sound (sums : account.Sums calls total) (sound : account.Sound calls total rig)
    {steps : List (Rig.Step C W abide)} (within : ∀ s ∈ steps, s.Within calls) :
    account.Sound calls total (rig.run operation (steps.map Rig.Step.recorded)) := by
  refine Rig.run_induction (account.Sound calls total) sound _ fun rig sound s mem => ?_
  obtain ⟨s, asked, rfl⟩ := List.mem_map.1 mem
  exact (step_sound spares sums sound (within s asked)).1

end

end

end Account

end SensorBus
