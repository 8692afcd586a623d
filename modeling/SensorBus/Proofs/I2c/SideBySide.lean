import SensorBus.Proofs.I2c.Isolation
import SensorBus.Proofs.I2c.OneRegister
import SensorBus.Proofs.I2c.Rounds

namespace SensorBus.I2c

structure Update where
  timing : Option Timing := none
  register : UInt8
  set : UInt8
  clear : UInt8

namespace Update

variable (update : Update) (address : Address) (target : Target)

def device : Device := { address, timing := update.timing }

def operation : Operation interface Unit (Except Error UInt8) :=
  ((update.device address).updateRegister update.register update.set update.clear).run

def result : UInt8 := modified (target.byte update.register) update.set update.clear

theorem operation_transacts : Transacts 2 (update.operation address ()) := by
  by_cases all : update.clear = 0xFF
  · simp only [operation, Device.updateRegister, if_pos all, pure_bind]
    rintro ⟨error | ⟨⟩, t⟩
    · trivial
    · trivial
  · simp only [operation, Device.updateRegister, if_neg all]
    rintro ⟨error | ⟨⟩, t⟩
    · trivial
    · rintro ⟨error | ⟨⟩, t⟩
      · trivial
      · trivial

def company : Company SharedBus.medium Update UInt8 Unit (Except Error UInt8) where
  shadow update := (oneRegister (update.device address) update.register).shadow
  ends update value _ left := value = .ok (update.result target) ∧ left = update.result target

theorem operation_minds :
    (update.operation address ()).Minds (oneRegister (update.device address) update.register).asks
      (oneRegister (update.device address) update.register).effect (fun _ _ => True)
      ((company address target).ends update) (target.byte update.register) := by
  have whole : update.operation address = ((update.device address).updateRegister update.register
      update.set update.clear >>= pure).run := by
    rw [bind_pure]
    rfl
  rw [whole]
  exact minds_updateRegister trivial ⟨rfl, rfl⟩

end Update

def BusPool.updating (master : Master) (address : Address) (updates : List Update) :
    BusPool Unit (Except Error UInt8) :=
  Pool.launch { master } (updates.map fun update => ((), update.operation address))

def Untouched (address : Address) (registers : List UInt8) (before : Bus) (target : Target)
    (shared : SharedBus) : Prop :=
  (∀ raw ≠ address.raw, shared.master.bus.target? raw = before.target? raw) ∧
    Device.Faces { address } (fun left => left.Plain 0xFF ∧
      ∀ register ∉ registers, left.byte register = target.byte register) shared.master

section

variable {address : Address} {updates : List Update} {master : Master} {target : Target}

theorem updates_apart (distinct : (updates.map Update.register).Nodup) (before : Bus) :
    (Update.company address target).Apart updates
      (Untouched address (updates.map Update.register) before target) SharedBus.setYields where
  spares _ mem :=
    (Likeness.spares_others before).and
      (oneRegister_spares_rest (List.mem_map_of_mem mem) rfl target)
  apart {_ _ first second} at_i at_j ne value :=
    have address : (second.device address).address = (first.device address).address := rfl
    oneRegister_spares address (ne_of_distinct distinct at_i at_j ne) value
  keeps _ _ untouched := untouched
  agrees _ _ _ _ agrees := agrees.of_same rfl rfl

theorem launch_along (faultless : master.bus.Faultless)
    (present : master.bus.target? address.raw = some target) (plain : target.Plain 0xFF) :
    (Update.company address target).Along updates
      (Untouched address (updates.map Update.register) master.bus target)
      (BusPool.updating master address updates) := by
  refine Company.Along.launch (fun update : Update => update.operation address) () ?_ ?_
  · exact ⟨fun _ _ => rfl, target, present, plain, fun _ _ => rfl⟩
  · intro update _
    refine ⟨target.byte update.register, ⟨⟨target, present, plain, rfl⟩, ?_⟩,
      update.operation_minds address target⟩
    intro fault mem
    cases faultless _ mem

theorem updates_come (distinct : (updates.map Update.register).Nodup)
    (faultless : master.bus.Faultless)
    (present : master.bus.target? address.raw = some target) (plain : target.Plain 0xFF)
    (steps : List (Pool.Step Nat)) :
    let pool := (BusPool.updating master address updates).run SharedBus.setYields steps
    (∀ raw ≠ address.raw, pool.world.master.bus.target? raw = master.bus.target? raw) ∧
      ∃ left, pool.world.master.bus.target? address.raw = some left ∧
        (∀ register ∉ updates.map Update.register,
          left.byte register = target.byte register) ∧
        ∀ (i : Nat) (update : Update), updates[i]? = some update →
          ∀ fiber value, pool.members[i]? = some (.ended fiber value) →
            value = .ok (update.result target) ∧
              left.byte update.register = update.result target := by
  intro pool
  have along := (launch_along faultless present plain).run (updates_apart distinct master.bus) steps
  obtain ⟨others, left, found, -, rest⟩ := along.kept
  refine ⟨others, left, found, rest, fun i update at_i fiber value ended => ?_⟩
  obtain ⟨tag, at_tag, known⟩ := along.knows i _ ended
  rw [at_i] at at_tag
  cases at_tag
  cases known with
  | ended agrees ends =>
    obtain ⟨came, rfl⟩ := ends
    obtain ⟨⟨target', found', -, byte⟩, -⟩ := agrees
    obtain rfl : left = target' := Option.some.inj (found.symm.trans found')
    exact ⟨came, byte⟩

theorem updates_end (address : Address) (rounds : List (List Nat))
    (enough : updates.length * (2 * (master.bus.yields + 1) + 1) ≤ rounds.length)
    (everybody : ∀ round ∈ rounds, ∀ i < updates.length, i ∈ round) {i : Nat}
    (lt : i < updates.length) :
    ∃ fiber value, ((BusPool.updating master address updates).run SharedBus.setYields
      (rounds.flatten.map .poll)).members[i]? = some (.ended fiber value) := by
  have transacts : ∀ start ∈ updates.map fun update => ((), update.operation address),
      Transacts 2 (start.2 start.1) := by
    intro start mem
    obtain ⟨update, -, rfl⟩ := List.mem_map.1 mem
    exact update.operation_transacts address
  have ended : ∀ member ∈ (rounds.flatten.foldl Pool.poll
      (BusPool.updating master address updates)).members,
      ∃ fiber value, member = .ended fiber value :=
    all_end_in_rounds transacts (by rwa [List.length_map]) (by rwa [List.length_map])
  have inside : i < (rounds.flatten.foldl Pool.poll
      (BusPool.updating master address updates)).members.length := by
    rw [BusPool.length_polls]
    simpa [BusPool.updating, Pool.launch] using lt
  rw [Pool.run_polls, List.getElem?_eq_getElem inside]
  obtain ⟨fiber, value, at_i⟩ := ended _ (List.getElem_mem inside)
  exact ⟨fiber, value, congrArg some at_i⟩

/-- Handles of one device that update different registers do not disturb each other, whatever the
order of their polls: whoever has ended has brought back the new value of its register, and the
register holds it; and the registers that nobody updates are as they were. Nobody waits forever: if
everybody is polled in round after round, all of them end. -/
theorem updates_do_not_disturb_each_other (distinct : (updates.map Update.register).Nodup)
    (faultless : master.bus.Faultless)
    (present : master.bus.target? address.raw = some target) (plain : target.Plain 0xFF) :
    (∀ steps : List (Pool.Step Nat),
      let pool := (BusPool.updating master address updates).run SharedBus.setYields steps
      (∀ raw ≠ address.raw, pool.world.master.bus.target? raw = master.bus.target? raw) ∧
        ∃ left, pool.world.master.bus.target? address.raw = some left ∧
          (∀ register ∉ updates.map Update.register,
            left.byte register = target.byte register) ∧
          ∀ (i : Nat) (update : Update), updates[i]? = some update →
            ∀ fiber value, pool.members[i]? = some (.ended fiber value) →
              value = .ok (update.result target) ∧
                left.byte update.register = update.result target) ∧
      ∀ rounds : List (List Nat),
        updates.length * (2 * (master.bus.yields + 1) + 1) ≤ rounds.length →
        (∀ round ∈ rounds, ∀ i < updates.length, i ∈ round) →
        ∀ (i : Nat) (update : Update), updates[i]? = some update →
          ∃ fiber, ((BusPool.updating master address updates).run SharedBus.setYields
            (rounds.flatten.map .poll)).members[i]? =
              some (.ended fiber (.ok (update.result target))) := by
  refine ⟨updates_come distinct faultless present plain, ?_⟩
  intro rounds enough everybody i update at_i
  obtain ⟨fiber, value, ended⟩ :=
    updates_end address rounds enough everybody (List.getElem?_eq_some_iff.1 at_i).1
  obtain ⟨-, left, -, -, came⟩ := updates_come distinct faultless present plain _
  obtain ⟨rfl, -⟩ := came i update at_i fiber value ended
  exact ⟨fiber, ended⟩

end

-- Three handles, one of which needs not read its register.

namespace Trio

def target : Target :=
  { registers := (RegisterFile.blank.set 0x30 0x47 (by decide)).set 0x32 0x3C (by decide)
    pointer := 0x32 }

def address : Address := ⟨0x29, by decide⟩

def master : Master :=
  { bus := { targets := (Vector.replicate 256 none).set 0x29 (some target), yields := 1 } }

def updates : List Update :=
  [{ register := 0x30, set := 0x08, clear := 0x07 },
    { timing := some ⟨400000⟩, register := 0x31, set := 0x90, clear := 0xFF },
    { register := 0x32, set := 0xC0, clear := 0 }]

def pool : BusPool Unit (Except Error UInt8) :=
  (BusPool.updating master address updates).run SharedBus.setYields
    ([0, 1, 0, 2, 0, 1, 2, 1, 2].map .poll)

theorem updates_pass_each_other :
    (pool.members[0]? = some (.ended (.spent ()) (.ok 0x48)) ∧
      pool.members[1]? = some (.ended (.spent ()) (.ok 0x90)) ∧
      ∃ left, pool.world.master.bus.target? 0x29 = some left ∧ left.byte 0x30 = 0x48 ∧
        left.byte 0x31 = 0x90 ∧ left.byte 0x33 = 0) ∧
    ∃ fiber, ((BusPool.updating master address updates).run SharedBus.setYields
      ((List.replicate 15 [2, 0, 1]).flatten.map .poll)).members[2]? =
        some (.ended fiber (.ok 0xFC)) := by
  have distinct : (updates.map Update.register).Nodup := by decide
  have faultless : master.bus.Faultless := fun _ mem => nomatch mem
  have present : master.bus.target? address.raw = some target := rfl
  have plain : target.Plain 0xFF := ⟨rfl, fun _ lt => Vector.getElem_replicate lt⟩
  obtain ⟨safe, live⟩ := updates_do_not_disturb_each_other distinct faultless present plain
  have first : pool.members[0]? = some (.ended (.spent ()) (.ok 0x48)) := rfl
  have second : pool.members[1]? = some (.ended (.spent ()) (.ok 0x90)) := rfl
  obtain ⟨-, left, found, rest, came⟩ := safe _
  obtain ⟨-, held⟩ := came 0 _ rfl _ _ first
  obtain ⟨-, held'⟩ := came 1 _ rfl _ _ second
  refine ⟨⟨first, second, left, found, held, held', rest 0x33 (by decide)⟩, ?_⟩
  exact live _ (by decide) (by decide) 2 _ rfl

end Trio

end SensorBus.I2c
