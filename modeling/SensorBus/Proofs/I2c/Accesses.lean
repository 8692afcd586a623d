import SensorBus.I2c.Device
import SensorBus.Proofs.I2c.Rerun
import SensorBus.Proofs.Job.Record

namespace SensorBus.I2c

def Lawful : (r : interface.Request) → interface.Reply r → Prop
  | .transact _ t, (_, t') => t.Kept t'
  | .delay _, _ => True

theorem Master.kept_run (master : Master) (timing : Option Timing) (t : Transaction) :
    t.Kept (master.run timing t).1.2 := by
  cases accepted : t.attach.1 with
  | false =>
    rw [master.run_refused timing t accepted]
    exact (Transaction.Kept.refl t).detach _
  | true =>
    rw [master.run_accepted timing t accepted]
    exact t.kept_attached.trans ((master.opened timing t).kept_complete t.attached)

theorem SharedBus.lawful_perform (r : interface.Request) (shared : SharedBus) :
    Lawful r (medium.perform r shared).1 := by
  cases r with
  | transact timing t => exact shared.master.kept_run timing t
  | delay => trivial

namespace Device

variable (device : Device)

def reading (register : UInt8) (count : Nat) : interface.Request :=
  .transact device.timing
    { address := device.address, body := .writeRead [register] (List.replicate count 0) }

def writing (register value : UInt8) : interface.Request :=
  .transact device.timing { address := device.address, body := .write [] [register, value] }

end Device

def readOf? : Entry interface → Option (UInt8 × List UInt8)
  | ⟨.transact _ t, some (.ok (), t')⟩ =>
    match t.body with
    | .writeRead [register] _ => some (register, t'.body.buffer?.getD [])
    | _ => none
  | _ => none

def writeOf? : Entry interface → Option (UInt8 × UInt8)
  | ⟨.transact _ t, some (.ok (), _)⟩ =>
    match t.body with
    | .write [] [register, value] => some (register, value)
    | _ => none
  | _ => none

def writesOf (record : Record interface) : List (UInt8 × UInt8) := record.filterMap writeOf?

theorem of_mem_writesOf {holds : Record interface → Entry interface → Prop}
    {record : Record interface} (each : record.Each holds) {access : UInt8 × UInt8}
    (mem : access ∈ writesOf record) :
    ∃ past entry, holds past entry ∧ writeOf? entry = some access := by
  obtain ⟨entry, mem, wrote⟩ := List.mem_filterMap.1 mem
  obtain ⟨past, held⟩ := each.of_mem mem
  exact ⟨past, entry, held, wrote⟩

theorem writesOf_eq {record : Record interface} {accesses : List (UInt8 × UInt8)}
    (wrote : record.map writeOf? = accesses.map some) : writesOf record = accesses := by
  have values := congrArg (List.filterMap id) wrote
  simpa [writesOf, List.filterMap_map] using values

@[simp] theorem readOf?_pending (r : interface.Request) : readOf? ⟨r, none⟩ = none := by
  cases r <;> rfl

theorem length_read {device : Device} {register : UInt8} {count : Nat} {result : Except Error Unit}
    {t : Transaction} (law : Lawful (device.reading register count) (result, t)) :
    (t.body.buffer?.getD []).length = count := by
  obtain ⟨⟨-, same⟩, -⟩ := law
  cases body : t.body <;> rw [body] at same
  case writeRead bytes buffer =>
    have lengths := congrArg List.length (Body.writeRead.inj same).2
    simpa [Body.buffer?] using lengths
  all_goals cases same

theorem run_get_bind {σ α : Type} (next : σ → Attempt σ α) (state : σ) :
    (get >>= next).run state = (next state).run state := rfl

theorem run_modify_bind {σ α : Type} (f : σ → σ) (next : PUnit → Attempt σ α) (state : σ) :
    (modify f >>= next).run state = (next ⟨⟩).run (f state) := rfl

section

variable {σ α : Type} {holds : σ → Record interface → Prop}
  {ends : Except Error α → σ → Record interface → Prop} {past : Record interface} {state : σ}
  {device : Device} {register : UInt8}

theorem along_writeRegister {value : UInt8} {next : Unit → Attempt σ α}
    (asked : holds state (past ++ [⟨device.writing register value, none⟩]))
    (failed : ∀ error t, ends (.error error) state
      (past ++ [⟨device.writing register value, some (.error error, t)⟩]))
    (rest : ∀ t, ((next ()).run state).Along Lawful holds ends
      (past ++ [⟨device.writing register value, some (.ok (), t)⟩])) :
    ((device.writeRegister register value >>= next).run state).Along Lawful holds ends past := by
  refine ⟨asked, fun reply law => ?_⟩
  obtain ⟨error | ⟨⟩, t⟩ := reply
  · exact failed error t
  · exact rest t

theorem along_registers {count : Nat} {next : List UInt8 → Attempt σ α}
    (asked : holds state (past ++ [⟨device.reading register count, none⟩]))
    (failed : ∀ error t, ends (.error error) state
      (past ++ [⟨device.reading register count, some (.error error, t)⟩]))
    (rest : ∀ t, Lawful (device.reading register count) (.ok (), t) →
      ((next (t.body.buffer?.getD [])).run state).Along Lawful holds ends
        (past ++ [⟨device.reading register count, some (.ok (), t)⟩])) :
    ((device.registers register count >>= next).run state).Along Lawful holds ends past := by
  refine ⟨asked, fun reply law => ?_⟩
  obtain ⟨error | ⟨⟩, t⟩ := reply
  · exact failed error t
  · exact rest t law

theorem along_pause {duration : Delay} {next : Unit → Attempt σ α}
    (asked : holds state (past ++ [⟨.delay duration, none⟩]))
    (rest : ((next ()).run state).Along Lawful holds ends (past ++ [⟨.delay duration, some ()⟩])) :
    ((pause duration >>= next).run state).Along Lawful holds ends past :=
  ⟨asked, fun _ _ => rest⟩

end

end SensorBus.I2c
