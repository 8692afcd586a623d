import SensorBus.Proofs.I2c.Blocks

namespace SensorBus.I2c

variable {α : Type}

/-- How a pool of programs has used its bus since `before` was the traffic. -/
structure BusPool.Serial (programs : List (Device × Program α)) (before : List Event)
    (pool : BusPool Unit α) (blocks : List (Nat × Block)) : Prop where
  traffic : pool.world.traffic = before ++ blocks.flatMap fun entry => entry.2.events
  /-- Each member has written one block for each transaction that it began. -/
  kept : ∀ i member, pool.members[i]? = some member →
    ∃ device program, programs[i]? = some (device, program) ∧
      SharedBus.discipline.Kept (program.operation device ()) member (own i blocks)
  /-- A block holds its own transaction's bytes and its own handle's timing only, and ends with the
  start only if the member is, or was dropped, in that transaction. -/
  block : ∀ i block, (i, block) ∈ blocks →
    ∃ device program member, programs[i]? = some (device, program) ∧
      pool.members[i]? = some member ∧ block.body <+: block.transaction.events ∧
      (block.timing = none ∨ block.timing = device.timing) ∧
      (block.closed = false → block.body = [] ∧
        ∃ left, BusMember.exchange? member = some ⟨block.transaction.attached, left⟩)
  last : ∀ i, SharedBus.discipline.Holds pool i →
    ∃ past block, blocks = past ++ [(i, block)] ∧ block.closed = false
  alone : ∀ i j, SharedBus.discipline.Holds pool i → SharedBus.discipline.Holds pool j → i = j
  locked_iff : pool.world.locked = true ↔ ∃ i, SharedBus.discipline.Holds pool i

theorem BusPool.serial_of_orderly {programs : List (Device × Program α)} {master : Master}
    {steps : List (Pool.Step Intervention)} {pool : BusPool Unit α} {blocks : List (Nat × Block)}
    {holder : Option Nat}
    (orderly : SharedBus.discipline.Orderly
      (programs.map fun (device, program) => program.operation device ()) pool blocks holder)
    (course : SharedBus.discipline.Course SharedBus.intervene (BusPool.launch master programs) steps
      (SharedBus.discipline.written blocks) pool) :
    BusPool.Serial programs master.bus.traffic pool blocks := by
  have kept i member (at_i : pool.members[i]? = some member) :
      ∃ device program, programs[i]? = some (device, program) ∧
        SharedBus.discipline.Kept (program.operation device ()) member (own i blocks) := by
    obtain ⟨start, at_start, kept⟩ := orderly.kept at_i
    rw [List.getElem?_map, Option.map_eq_some_iff] at at_start
    obtain ⟨⟨device, program⟩, at_program, rfl⟩ := at_start
    exact ⟨device, program, at_program, kept⟩
  constructor
  case traffic =>
    have traffic : pool.world.traffic = master.bus.traffic ++
        blocks.flatMap fun entry => entry.2.events.filterMap some :=
      course.adds_up SharedBus.traffic some (fun record => by rw [List.filterMap_some, record])
        fun intervention shared => (shared.intervene_quiet intervention).1
    simpa only [List.filterMap_some] using traffic
  case kept => exact kept
  case block =>
    intro i block mem
    obtain ⟨member, at_i⟩ := orderly.member mem
    obtain ⟨device, program, at_program, kept⟩ := kept i member at_i
    obtain ⟨⟨part, timing, ⟨rfl, -⟩, applies⟩, opened⟩ :=
      (BusMember.account kept program.operation_timed).of_mem (mem_own.2 mem)
    exact ⟨device, program, member, at_program, at_i, part, applies, opened⟩
  case last =>
    intro i holds
    obtain ⟨past, block, rfl⟩ := orderly.last holds
    obtain ⟨member, at_i, holds⟩ := holds
    obtain ⟨device, program, at_program, kept⟩ := kept i member at_i
    obtain ⟨exchange, eq⟩ := BusMember.exchange?_of_holds holds
    have account := BusMember.account kept program.operation_timed
    rw [eq, own_concat_self] at account
    exact ⟨past, block, rfl, account.last⟩
  case alone => exact fun i j first second => orderly.alone first second
  case locked_iff => exact orderly.locked_iff

/-- However the programs are polled, dropped and interfered with, their transactions do not
interleave on the bus. -/
theorem BusPool.transactions_never_interleave (master : Master)
    (programs : List (Device × Program α)) (steps : List (Pool.Step Intervention)) :
    ∃ blocks, BusPool.Serial programs master.bus.traffic
      ((BusPool.launch master programs).run SharedBus.intervene steps) blocks := by
  obtain ⟨blocks, holder, orderly, course⟩ := Discipline.Orderly.run_launch SharedBus.lawful
    (programs.map fun (device, program) => ((), program.operation device)) { master } rfl steps
  rw [List.map_map] at orderly
  exact ⟨blocks, BusPool.serial_of_orderly orderly course⟩

end SensorBus.I2c
