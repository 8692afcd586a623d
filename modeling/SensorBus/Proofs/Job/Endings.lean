import SensorBus.Proofs.Job.Rig
import SensorBus.Proofs.Job.Shadow

namespace SensorBus

variable {I : Interface} {W C S σ α : Type} {M : Medium I W} {abide : W → W → Prop}

namespace Rig

variable (operation : C → Operation I σ α)

def endings (rig : Rig M C σ α) : List (Step C W abide) → List (C × α)
  | [] => []
  | s :: steps => (rig.step operation s).ended.toList ++ (rig.step operation s).endings steps

structure Among (calls : C → Prop) (rig : Rig M C σ α) : Prop where
  call : ∀ call, rig.call = some call → calls call
  ended : ∀ ended, rig.ended = some ended → calls ended.1

variable {operation} {calls : C → Prop} {rig : Rig M C σ α}

theorem Among.settle (among : rig.Among calls) (came : Option α × Fiber M σ α × W) :
    (rig.settle came).Among calls := by
  rcases came with ⟨_ | value, fiber, world⟩
  · exact ⟨among.call, fun _ eq => nomatch eq⟩
  · refine ⟨fun _ eq => (nomatch eq), fun ended eq => ?_⟩
    obtain ⟨call, underWay, rfl⟩ := Option.map_eq_some_iff.1 eq
    exact among.call call underWay

theorem Among.step (among : rig.Among calls) {s : Step C W abide} (within : s.Within calls) :
    (rig.step operation s).Among calls := by
  cases s with
  | start call => exact ⟨fun _ eq => Option.some.inj eq ▸ within, fun _ eq => nomatch eq⟩
  | drop => exact ⟨fun _ eq => (nomatch eq), fun _ eq => nomatch eq⟩
  | others => exact ⟨among.call, fun _ eq => nomatch eq⟩
  | poll | finish => exact among.settle _

theorem Among.endings (among : rig.Among calls) {steps : List (Step C W abide)}
    (within : ∀ s ∈ steps, s.Within calls) :
    ∀ ended ∈ rig.endings operation steps, calls ended.1 := by
  induction steps generalizing rig with
  | nil => exact fun _ mem => nomatch mem
  | cons s steps ih =>
    obtain ⟨first, others⟩ := List.forall_mem_cons.1 within
    have stepped : (rig.step operation s).Among calls := among.step first
    intro ended mem
    obtain mem | mem := List.mem_append.1 mem
    · exact stepped.ended ended (Option.mem_toList.1 mem)
    · exact ih stepped others ended mem

end Rig

namespace Shadow

variable (D : Shadow M S) (operation : C → Operation I σ α)
  (facts : List (C × α) → σ → S → Prop)

/-- Every call goes on from what is known, which still goes at each of its requests, and in the end
with this call among those that have ended. -/
def Keeps : Prop := ∀ call done state shadow, facts done state shadow →
  (operation call state).Minds D.kind D.effect (facts done)
    (fun value => facts (done ++ [(call, value)])) shadow

inductive Sound (done : List (C × α)) : Rig M C σ α → Prop
  | idle {state : σ} {world : W} {ended : Option (C × α)} {shadow : S}
      (agrees : D.agrees shadow world) (kept : facts done state shadow) :
      Sound done { fiber := .spent state, world, ended }
  | underWay {fiber : Fiber M σ α} {world : W} {call : C} {shadow : S}
      (agrees : D.agrees shadow world)
      (follows : D.Follows (facts done) (fun value => facts (done ++ [(call, value)])) shadow
        fiber) :
      Sound done { fiber, world, call }

variable {D operation facts} {done : List (C × α)} {rig : Rig M C σ α}

theorem Sound.known (sound : D.Sound facts done rig) :
    ∃ shadow, D.agrees shadow rig.world ∧ facts done rig.state shadow := by
  cases sound with
  | idle agrees kept => exact ⟨_, agrees, kept⟩
  | underWay agrees follows => exact ⟨_, agrees, follows.held⟩

theorem Sound.drop (sound : D.Sound facts done rig) :
    ∃ shadow, D.agrees shadow (rig.fiber.drop rig.world) ∧ facts done rig.state shadow := by
  cases sound with
  | idle agrees kept => exact ⟨_, agrees, kept⟩
  | underWay agrees follows => exact ⟨_, drop_agrees agrees follows, follows.held⟩

theorem settle_sound {call : C} (underWay : rig.call = some call)
    {came : Option α × Fiber M σ α × W}
    (comes : D.Comes (facts done) (fun value => facts (done ++ [(call, value)])) came) :
    D.Sound facts (done ++ (rig.settle came).ended.toList) (rig.settle came) := by
  rcases came with ⟨_ | value, fiber, world⟩
  · obtain ⟨shadow, agrees, follows⟩ := comes
    simp only [Rig.settle, underWay, Option.toList_none, List.append_nil]
    exact .underWay agrees follows
  · obtain ⟨state, shadow, rfl, agrees, kept⟩ := comes
    simp only [Rig.settle, underWay, Option.map_some, Option.toList_some]
    exact .idle agrees kept

variable (keeps : D.Keeps operation facts)
  (spares : ∀ shadow world after, abide world after → D.agrees shadow world →
    D.agrees shadow after)

include keeps spares

theorem step_sound (sound : D.Sound facts done rig) (s : Rig.Step C W abide) :
    D.Sound facts (done ++ (rig.step operation s).ended.toList) (rig.step operation s) := by
  cases s with
  | start call =>
    obtain ⟨shadow, agrees, kept⟩ := sound.drop
    rw [show (rig.step operation (.start call : Rig.Step C W abide)).ended = none from rfl,
      Option.toList_none, List.append_nil]
    exact .underWay agrees ⟨kept, keeps call done _ shadow kept⟩
  | drop =>
    obtain ⟨shadow, agrees, kept⟩ := sound.drop
    rw [show (rig.step operation (.drop : Rig.Step C W abide)).ended = none from rfl,
      Option.toList_none, List.append_nil]
    exact .idle agrees kept
  | poll =>
    cases sound with
    | idle agrees kept =>
      rw [← List.append_nil done] at kept
      exact .idle agrees kept
    | underWay agrees follows => exact settle_sound rfl (poll_comes agrees follows)
  | finish =>
    cases sound with
    | idle agrees kept =>
      rw [← List.append_nil done] at kept
      exact .idle agrees kept
    | underWay agrees follows => exact settle_sound rfl (finish_comes agrees follows)
  | others act abides =>
    rw [show (rig.step operation (.others act abides)).ended = none from rfl, Option.toList_none,
      List.append_nil]
    cases sound with
    | idle agrees kept => exact .idle (spares _ _ _ (abides _) agrees) kept
    | underWay agrees follows => exact .underWay (spares _ _ _ (abides _) agrees) follows

theorem run_sound (sound : D.Sound facts done rig) (steps : List (Rig.Step C W abide)) :
    D.Sound facts (done ++ rig.endings operation steps) (rig.run operation steps) := by
  induction steps generalizing rig done with
  | nil => rwa [Rig.endings, List.append_nil]
  | cons s steps ih =>
    have next := ih (step_sound keeps spares sound s)
    rwa [List.append_assoc] at next

theorem run_known {state : σ} {world : W} {shadow : S} (agrees : D.agrees shadow world)
    (kept : facts [] state shadow) (steps : List (Rig.Step C W abide)) :
    let rig : Rig M C σ α := Rig.rest M state world
    ∃ after, D.agrees after (rig.run operation steps).world ∧
      facts (rig.endings operation steps) (rig.run operation steps).state after := by
  intro rig
  have resting : D.Sound facts [] rig := .idle agrees kept
  exact (run_sound keeps spares resting steps).known

end Shadow

end SensorBus
