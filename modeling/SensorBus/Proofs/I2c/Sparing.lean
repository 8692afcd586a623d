import SensorBus.Proofs.I2c.Likeness
import SensorBus.Proofs.Job.Company

namespace SensorBus.I2c

theorem Turn.poll_exchanges {timing : Option Timing} {t : Transaction} {turn : Turn}
    {shared after : SharedBus} {target : Target} {answer : Poll Turn Outcome}
    (carried : InFlight (.transact timing t) turn) (accepted : t.attach.1 = true)
    (present : shared.master.bus.target? t.address.raw = some target)
    (polled : turn.poll shared = (answer, after)) :
    after.master.bus.targets = shared.master.bus.targets ∧
        after.master.bus.faults = shared.master.bus.faults ∨
      shared.master.bus.Leaves t.address.raw
        (target.exchange false shared.master.bus.faults.head?.join t.sequence.segments).target
        after.master.bus := by
  cases carried with
  | waiting =>
    have waited := Turn.poll_waiting shared timing t
    rw [polled] at waited
    cases waited with
    | held locked => exact .inl ⟨rfl, rfl⟩
    | refused => exact .inl ⟨rfl, rfl⟩
    | through free =>
      have left := (Master.run_exchange timing accepted present).2.2
      rw [Master.run_accepted _ _ _ accepted] at left
      exact .inr left
    | begun free =>
      exact .inl ⟨shared.master.opened_targets timing t, shared.master.opened_faults timing t⟩
  | @holding _ _ left =>
    cases left with
    | zero =>
      cases polled
      rw [← t.attached_address] at present
      have left := (Master.complete_exchange present).2.2
      rw [t.attached_address, t.attached_sequence] at left
      exact .inr left
    | succ left =>
      cases polled
      exact .inl ⟨rfl, rfl⟩

namespace Likeness

variable {device other : Device} {S S' : Type} {likeness : Likeness device S}

theorem spares (kept : Master → Prop)
    (same : ∀ {master master' : Master}, master'.bus.targets = master.bus.targets →
      master'.bus.faults = master.bus.faults → kept master → kept master')
    (left : ∀ {t shadow target fault} {master master' : Master}, likeness.kind t →
      likeness.shows shadow target → (∀ f ∈ fault, likeness.possible f) →
      master.bus.target? device.address.raw = some target → kept master →
      master.bus.Leaves device.address.raw
        (target.exchange false fault t.sequence.segments).target master'.bus → kept master') :
    likeness.shadow.Spares fun shared => kept shared.master where
  poll {shadow r flight shared answer after} kind carried agrees here polled := by
    cases r with
    | transact timing t =>
      have next := Agrees.next agrees
      obtain ⟨⟨target, present, shown⟩, -⟩ := agrees
      have address := likeness.address kind
      obtain ⟨targets, faults⟩ | exchanged := Turn.poll_exchanges carried (likeness.accepted kind)
        (address ▸ present) polled
      · exact same targets faults here
      · rw [address] at exchanged
        exact left kind shown next present here exchanged
    | delay duration =>
      have polled : Pause.poll duration flight shared = (answer, after) := polled
      have unchanged := Pause.poll_same flight duration shared
      rw [polled] at unchanged
      exact same unchanged.1 unchanged.2 here
  drop {shadow r flight shared} _ _ _ here := by
    cases r with
    | delay => exact here
    | transact =>
      have unchanged := Turn.drop_same flight shared
      exact same unchanged.1 unchanged.2 here

theorem spares_others (before : Bus) : likeness.shadow.Spares fun shared =>
    ∀ raw ≠ device.address.raw, shared.master.bus.target? raw = before.target? raw := by
  refine likeness.spares (fun master => ∀ raw ≠ device.address.raw,
    master.bus.target? raw = before.target? raw) ?_ ?_
  · intro master master' targets _ unchanged raw ne
    exact (Bus.target?_congr targets raw).trans (unchanged raw ne)
  · intro t shadow target fault master master' _ _ _ _ unchanged left raw ne
    exact (left.target?_of_ne ne.symm).trans (unchanged raw ne)

theorem faces_exchanged {view : Target → Prop} {master master' : Master} {target target' : Target}
    (address : other.address = device.address) (faces : other.Faces view master)
    (present : master.bus.target? device.address.raw = some target)
    (left : master.bus.Leaves device.address.raw target' master'.bus)
    (keeps : view target → view target') : other.Faces view master' := by
  obtain ⟨found, here, viewed⟩ := faces
  rw [address, present] at here
  cases here
  exact ⟨target', address ▸ left.present, keeps viewed⟩

theorem spares_faces {view : Target → Prop} (address : other.address = device.address)
    (keeps : ∀ {t shadow target fault}, likeness.kind t → likeness.shows shadow target →
      (∀ f ∈ fault, likeness.possible f) → view target →
      view (target.exchange false fault t.sequence.segments).target) :
    likeness.shadow.Spares fun shared => other.Faces view shared.master := by
  refine likeness.spares (other.Faces view) (fun targets _ faces => faces.of_same targets) ?_
  intro t shadow target fault master master' kind shown possible present faces left
  exact faces_exchanged address faces present left (keeps kind shown possible)

theorem spares_agrees {likeness' : Likeness other S'} {shadow' : S'}
    (address : other.address = device.address)
    (keeps : ∀ {t shadow target fault}, likeness.kind t → likeness.shows shadow target →
      (∀ f ∈ fault, likeness.possible f) → likeness'.shows shadow' target →
      likeness'.shows shadow' (target.exchange false fault t.sequence.segments).target) :
    likeness.shadow.Spares (likeness'.shadow.agrees shadow') := by
  refine likeness.spares (likeness'.Agrees shadow')
    (fun targets faults agrees => agrees.of_same targets faults) ?_
  intro t shadow target fault master master' kind shown possible present agrees left
  refine ⟨faces_exchanged address agrees.faces present left (keeps kind shown possible), ?_⟩
  intro fault mem
  rw [left.faults] at mem
  exact agrees.possible fault (List.mem_of_mem_tail mem)

end Likeness

end SensorBus.I2c
