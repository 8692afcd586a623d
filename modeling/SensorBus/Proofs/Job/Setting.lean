import Mathlib.Data.List.Induction
import SensorBus.Proofs.Job.Watch

/-!
Settings of a bus. A request may carry a setting, which has to be the one that was applied last when
the request goes onto the bus; a setting that is applied already is not applied again, until it is
forgotten. In every run what there is to see of the settings is a faithful chronicle, if the polls
of the single flights keep to it.
-/

namespace SensorBus

structure Terms (I : Interface) (H : Type) where
  setting : I.Request → Option H
  goes : I.Request → Bool

inductive Sighting (I : Interface) (H : Type)
  | applied (r : I.Request) (setting : H)
  | started (r : I.Request)
  | forgotten

abbrev Chronicle (I : Interface) (H : Type) := List (Sighting I H)

namespace Chronicle

variable {I : Interface} {H : Type}

def latestAfter (last : Option H) : Sighting I H → Option H
  | .applied _ setting => some setting
  | .started _ | .forgotten => last

def latest (chronicle : Chronicle I H) : Option H := chronicle.foldl latestAfter none

def currentAfter (last : Option H) : Sighting I H → Option H
  | .applied _ setting => some setting
  | .started _ => last
  | .forgotten => none

/-- The setting that was applied last, unless it was forgotten since. -/
def current (chronicle : Chronicle I H) : Option H := chronicle.foldl currentAfter none

@[simp] theorem latest_concat (chronicle : Chronicle I H) (sighting : Sighting I H) :
    (chronicle ++ [sighting]).latest = latestAfter chronicle.latest sighting := by
  simp [latest]

@[simp] theorem current_concat (chronicle : Chronicle I H) (sighting : Sighting I H) :
    (chronicle ++ [sighting]).current = currentAfter chronicle.current sighting := by
  simp [current]

theorem latest_of_current {chronicle : Chronicle I H} {setting : H}
    (current : chronicle.current = some setting) : chronicle.latest = some setting := by
  induction chronicle using List.reverseRecOn with
  | nil => cases current
  | append_singleton past sighting ih =>
    rw [current_concat] at current
    rw [latest_concat]
    cases sighting with
    | applied r other => exact current
    | started r => exact ih current
    | forgotten => cases current

/-- Every sighting is right by those before it: only a request's own setting is applied for it, and
only if another one was applied last or that was forgotten; a request goes onto the bus only when
its setting, if it carries one, is the one that was applied last; and for a request that is turned
away there is neither. -/
inductive Faithful (terms : Terms I H) : Chronicle I H → Prop
  | nil : Faithful terms []
  | applied {past : Chronicle I H} {r : I.Request} {setting : H} (before : Faithful terms past)
      (goes : terms.goes r = true) (own : terms.setting r = some setting)
      (differs : past.current ≠ some setting) : Faithful terms (past ++ [.applied r setting])
  | started {past : Chronicle I H} {r : I.Request} (before : Faithful terms past)
      (goes : terms.goes r = true)
      (latest : ∀ setting, terms.setting r = some setting → past.latest = some setting) :
      Faithful terms (past ++ [.started r])
  | forgotten {past : Chronicle I H} (before : Faithful terms past) :
      Faithful terms (past ++ [.forgotten])

variable [DecidableEq H]

def due (applied carried : Option H) : Option H :=
  if applied = carried then none else carried

def opening (applied carried : Option H) (r : I.Request) : Chronicle I H :=
  (due applied carried).toList.map (.applied r) ++ [.started r]

theorem Faithful.opens {terms : Terms I H} {chronicle : Chronicle I H} {applied : Option H}
    (faithful : chronicle.Faithful terms) (current : chronicle.current = applied) {r : I.Request}
    (goes : terms.goes r = true) :
    Faithful terms (chronicle ++ opening applied (terms.setting r) r) ∧
      Chronicle.current (chronicle ++ opening applied (terms.setting r) r) =
        (terms.setting r <|> applied) := by
  subst current
  cases carried : terms.setting r with
  | none =>
    have none_due : opening chronicle.current none r = [.started r] := by
      simp [opening, due]
    rw [none_due, current_concat]
    refine ⟨.started faithful goes fun setting eq => ?_, by simp [currentAfter]⟩
    rw [carried] at eq
    cases eq
  | some setting =>
    by_cases same : chronicle.current = some setting
    · have none_due : opening chronicle.current (some setting) r = [.started r] := by
        simp [opening, due, same]
      rw [none_due, current_concat]
      refine ⟨.started faithful goes fun other eq => ?_, by simp [currentAfter, same]⟩
      rw [← eq, carried]
      exact latest_of_current same
    · have own_due : opening chronicle.current (some setting) r =
          [.applied r setting, .started r] := by
        simp [opening, due, same]
      have split : chronicle ++ [.applied r setting, .started r] =
          (chronicle ++ [.applied r setting]) ++ [.started r] := by simp
      rw [own_due, split, current_concat, current_concat]
      refine ⟨.started (.applied faithful goes carried same) goes fun other eq => ?_, rfl⟩
      rw [latest_concat, ← eq, carried]
      rfl

end Chronicle

/-- Where the settings of a world show: in what it remembers to have applied, in what there is to
see of a request between two worlds, and in what its surroundings do. -/
structure Settings (I : Interface) (W E H : Type) where
  terms : Terms I H
  applied : W → Option H
  sightings : I.Request → W → W → Chronicle I H
  noted : E → W → Chronicle I H

namespace Settings

variable {I : Interface} {W E H σ α : Type} (S : Settings I W E H)

inductive Acts (e : E) (before after : W) : Prop
  | forgets (noted : S.noted e before = [.forgotten]) (applied : S.applied after = none)
  | nothing (noted : S.noted e before = []) (applied : S.applied after = S.applied before)

structure Chronicled (world : W × Chronicle I H) : Prop where
  faithful : world.2.Faithful S.terms
  current : world.2.current = S.applied world.1

def watch (M : Medium I W) (act : E → W → W) (world : W) (starts : List (σ × Operation I σ α))
    (steps : List (Pool.Step E)) :
    Pool (Fiber (M.watched S.sightings) σ α) (W × Chronicle I H) α :=
  (Pool.launch (world, []) starts).run (watchedAct act S.noted) steps

variable {S}

theorem Chronicled.acts {e : E} {before after : W} {seen : Chronicle I H}
    (chronicled : S.Chronicled (before, seen)) (acts : S.Acts e before after) :
    S.Chronicled (after, seen ++ S.noted e before) := by
  cases acts with
  | forgets noted applied =>
    rw [noted]
    refine ⟨.forgotten chronicled.faithful, ?_⟩
    exact (Chronicle.current_concat seen .forgotten).trans applied.symm
  | nothing noted applied =>
    rw [noted, List.append_nil]
    exact ⟨chronicled.faithful, chronicled.current.trans applied.symm⟩

variable [DecidableEq H]

variable (S) in
inductive Shows (r : I.Request) (before after : W) : Prop
  | opens (goes : S.terms.goes r = true)
      (seen : S.sightings r before after =
        Chronicle.opening (S.applied before) (S.terms.setting r) r)
      (applied : S.applied after = (S.terms.setting r <|> S.applied before))
  | nothing (seen : S.sightings r before after = []) (applied : S.applied after = S.applied before)

theorem Chronicled.shows {r : I.Request} {before after : W} {seen : Chronicle I H}
    (chronicled : S.Chronicled (before, seen)) (shows : S.Shows r before after) :
    S.Chronicled (after, seen ++ S.sightings r before after) := by
  cases shows with
  | opens goes seen applied =>
    rw [seen]
    obtain ⟨faithful, current⟩ := chronicled.faithful.opens chronicled.current goes
    exact ⟨faithful, current.trans applied.symm⟩
  | nothing seen applied =>
    rw [seen, List.append_nil]
    exact ⟨chronicled.faithful, chronicled.current.trans applied.symm⟩

variable (S) in
structure Lawful (M : Medium I W) (act : E → W → W)
    (fits : (r : I.Request) → M.Flight r → Prop) : Prop where
  launch : ∀ r, fits r (M.launch r)
  poll : ∀ {r flight world answer after}, fits r flight →
    M.poll r flight world = (answer, after) → S.Shows r world after
  pending : ∀ {r flight world flight' after}, fits r flight →
    M.poll r flight world = (.pending flight', after) → fits r flight'
  drop : ∀ r flight world, S.Shows r world (M.drop r flight world)
  act : ∀ e world, S.Acts e world (act e world)

namespace Lawful

variable {M : Medium I W} {act : E → W → W} {fits : (r : I.Request) → M.Flight r → Prop}

theorem guards (lawful : S.Lawful M act fits) :
    (M.watched S.sightings).Guards fits S.Chronicled where
  launch := lawful.launch
  ready fit chronicled polled := by
    obtain ⟨polled, eq⟩ := Medium.watched_poll polled
    rw [eq]
    exact chronicled.shows (lawful.poll fit polled)
  pending fit chronicled polled := by
    obtain ⟨polled, eq⟩ := Medium.watched_poll polled
    rw [eq]
    exact ⟨lawful.pending fit polled, chronicled.shows (lawful.poll fit polled)⟩
  drop _ chronicled := chronicled.shows (lawful.drop _ _ _)

/-- A run under watch is the run itself, and what was seen of it is a faithful chronicle. -/
theorem watch (lawful : S.Lawful M act fits) {world : W} (fresh : S.applied world = none)
    (starts : List (σ × Operation I σ α)) (steps : List (Pool.Step E)) :
    (S.watch M act world starts steps).unwatched = (Pool.launch world starts).run act steps ∧
      (S.watch M act world starts steps).world.2.Faithful S.terms := by
  constructor
  · refine (Pool.run_unwatched act S.noted steps _).trans ?_
    rw [Pool.launch_unwatched]
  · have chronicled : S.Chronicled (world, []) := ⟨.nil, fresh.symm⟩
    exact (Pool.run_guarded lawful.guards (fun e world chronicled =>
      chronicled.acts (lawful.act e world.1)) chronicled starts steps).faithful

end Lawful

end Settings

end SensorBus
