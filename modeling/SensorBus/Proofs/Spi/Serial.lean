import SensorBus.Proofs.Spi.Blocks

namespace SensorBus.Spi

variable {σ α : Type}

abbrev BusPool (σ α : Type) := Pool (Fiber SharedBus.medium σ α) SharedBus α

def BusPool.launch (bus : Bus) (applied : Option Mode)
    (starts : List (σ × Operation interface σ α)) : BusPool σ α :=
  Pool.launch { bus, applied } starts

/-- How a pool of operations has used its bus in these steps, since it stood at `before`. -/
structure BusPool.Serial (starts : List (σ × Operation interface σ α)) (before : BusPool σ α)
    (steps : List (Pool.Step Intervention)) (pool : BusPool σ α) (blocks : List (Nat × Block)) :
    Prop where
  /-- The blocks hold what was attempted, by whom and with which answers of the bus. -/
  course : SharedBus.discipline.Course SharedBus.intervene before steps
    (SharedBus.discipline.written blocks) pool
  log : pool.world.bus.log =
    before.world.bus.log ++ blocks.flatMap fun entry => entry.2.attempts.filterMap Attempt.event?
  kept : ∀ i member, pool.members[i]? = some member →
    ∃ state op, starts[i]? = some (state, op) ∧
      SharedBus.discipline.Kept (op state) member (own i blocks)
  plain : ∀ (i : Nat) state device transfers flight next,
    pool.members[i]? = some (.live (.asking state (.transact device transfers) flight next)) →
      transfers.any Transfer.isDelay = false
  /-- As long as a chip is selected its member has the lock, and is writing the last block. -/
  pending : ∀ i block, (i, block) ∈ blocks → block.isPending = true →
    SharedBus.discipline.Holds pool i
  last : ∀ i, SharedBus.discipline.Holds pool i →
    ∃ past block, blocks = past ++ [(i, block)] ∧ block.isPending = true
  alone : ∀ i j, SharedBus.discipline.Holds pool i → SharedBus.discipline.Holds pool j → i = j
  locked_iff : pool.world.locked = true ↔ ∃ i, SharedBus.discipline.Holds pool i

theorem BusPool.serial_of_orderly {starts : List (σ × Operation interface σ α)}
    {before pool : BusPool σ α} {steps : List (Pool.Step Intervention)}
    {blocks : List (Nat × Block)} {holder : Option Nat}
    (orderly : SharedBus.discipline.Orderly (starts.map fun (state, op) => op state) pool blocks
      holder)
    (course : SharedBus.discipline.Course SharedBus.intervene before steps
      (SharedBus.discipline.written blocks) pool) :
    BusPool.Serial starts before steps pool blocks := by
  have kept i member (at_i : pool.members[i]? = some member) :
      ∃ state op, starts[i]? = some (state, op) ∧
        SharedBus.discipline.Kept (op state) member (own i blocks) := by
    obtain ⟨start, at_start, kept⟩ := orderly.kept at_i
    rw [List.getElem?_map, Option.map_eq_some_iff] at at_start
    obtain ⟨⟨state, op⟩, at_start, rfl⟩ := at_start
    exact ⟨state, op, at_start, kept⟩
  constructor
  case course => exact course
  case log =>
    exact course.adds_up (fun shared => shared.bus.log) Attempt.event?
      (fun history => Bus.History.log history)
      fun intervention shared => (shared.intervene_quiet intervention).1
  case kept => exact kept
  case plain =>
    intro i state device transfers flight next at_i
    obtain ⟨start, op, at_start, past, written, split, transcript, midway⟩ := kept i _ at_i
    cases midway with
    | waiting plain => exact plain
    | holding plain => exact plain
  case pending =>
    intro i block mem opened
    obtain ⟨member, at_i⟩ := orderly.member mem
    obtain ⟨state, op, at_start, kept⟩ := kept i member at_i
    obtain ⟨-, closed⟩ | ⟨holds, -⟩ := closed_or_holds kept
    · simp [closed block (mem_own.2 mem)] at opened
    · exact ⟨member, at_i, holds⟩
  case last =>
    intro i holds
    obtain ⟨past, block, rfl⟩ := orderly.last holds
    obtain ⟨member, at_i, holds⟩ := holds
    obtain ⟨state, op, at_start, kept⟩ := kept i member at_i
    refine ⟨past, block, rfl, ?_⟩
    obtain ⟨free, -⟩ | ⟨-, before, last, eq, opened, -⟩ := closed_or_holds kept
    · rw [free] at holds
      cases holds
    · rw [own_concat_self] at eq
      obtain ⟨-, same⟩ := List.append_inj' eq rfl
      cases same
      exact opened
  case alone => exact fun i j first second => orderly.alone first second
  case locked_iff => exact orderly.locked_iff

/-- However the operations are polled, dropped and interfered with, their transactions do not
interleave on the bus, and no chip is left selected. -/
theorem BusPool.selections_never_overlap (bus : Bus) (applied : Option Mode)
    (starts : List (σ × Operation interface σ α)) (steps : List (Pool.Step Intervention)) :
    let before := BusPool.launch bus applied starts
    ∃ blocks, BusPool.Serial starts before steps (before.run SharedBus.intervene steps) blocks := by
  obtain ⟨blocks, holder, orderly, course⟩ :=
    Discipline.Orderly.run_launch SharedBus.lawful starts { bus, applied } rfl steps
  exact ⟨blocks, BusPool.serial_of_orderly orderly course⟩

end SensorBus.Spi
