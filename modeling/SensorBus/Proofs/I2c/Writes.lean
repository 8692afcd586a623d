import SensorBus.Proofs.I2c.Cancellation
import SensorBus.Proofs.I2c.Lone
import SensorBus.Proofs.I2c.Strikes

namespace SensorBus.I2c

section

variable {σ α β ε : Type} {shared between : SharedBus}

theorem exchanges_ask (state : σ) (r : interface.Request)
    (next : interface.Reply r → Progress interface σ α) (shared : SharedBus) :
    exchanges (.ask state r next) shared =
      (Begun.of? ((⟨state, r, next⟩ : Query interface σ α), shared)).toList ++
        exchanges (next (SharedBus.medium.perform r shared).1)
          (SharedBus.medium.perform r shared).2 := by
  simp only [exchanges, Progress.queries, List.filterMap_cons]
  split <;> next found => rw [found]; rfl

theorem exchanges_bind (p : Progress interface σ α) (rest : α → σ → Progress interface σ β)
    (shared : SharedBus) :
    exchanges (p.bind rest) shared = exchanges p shared ++
      exchanges (rest (p.run SharedBus.medium shared).1 (p.run SharedBus.medium shared).2.1)
        (p.run SharedBus.medium shared).2.2 := by
  induction p generalizing shared with
  | done state value => rfl
  | ask state r next ih =>
    have goesOn := ih (SharedBus.medium.perform r shared).1 (SharedBus.medium.perform r shared).2
    have same : Begun.of? ((⟨state, r, fun reply => (next reply).bind rest⟩ :
        Query interface σ β), shared) = Begun.of? (⟨state, r, next⟩, shared) := by
      cases r <;> rfl
    rw [Progress.bind, exchanges_ask, exchanges_ask, goesOn, same, List.append_assoc]
    rfl

variable {state middle : σ} {x : ExceptT ε (Operation interface σ) α}
  {rest : α → ExceptT ε (Operation interface σ) β}

theorem exchanges_attempt_ok {value : α}
    (came : x.run.run SharedBus.medium state shared = (.ok value, middle, between)) :
    exchanges ((x >>= rest).run state) shared =
      exchanges (x.run state) shared ++ exchanges ((rest value).run middle) between := by
  have goesOn := exchanges_bind (x.run state) (fun result => ExceptT.bindCont rest result) shared
  have came : (x.run state).run SharedBus.medium shared = (.ok value, middle, between) := came
  rw [came] at goesOn
  exact goesOn

theorem exchanges_attempt_error {error : ε}
    (came : x.run.run SharedBus.medium state shared = (.error error, middle, between)) :
    exchanges ((x >>= rest).run state) shared = exchanges (x.run state) shared := by
  have goesOn := exchanges_bind (x.run state) (fun result => ExceptT.bindCont rest result) shared
  have came : (x.run state).run SharedBus.medium shared = (.error error, middle, between) := came
  rw [came] at goesOn
  exact goesOn.trans (List.append_nil _)

end

/-- How an exchange of one segment with this address fails, with so many exchanges before it. -/
def Bus.failure? (bus : Bus) (raw : UInt8) (i : Nat) : Option ErrorKind :=
  (strike? 1 bus.faults[i]?.join).or
    (if (bus.target? raw).isSome then none else some (.noAcknowledge .address))

namespace Bus

variable {bus bus' : Bus} {raw : UInt8}

theorem failure?_congr (faults : bus'.faults = bus.faults) (targets : bus'.targets = bus.targets)
    (raw : UInt8) : bus'.failure? raw = bus.failure? raw := by
  funext i
  rw [failure?, failure?, faults, target?_congr targets]

theorem failure?_succ (faults : bus'.faults = bus.faults.tail)
    (present : (bus'.target? raw).isSome = (bus.target? raw).isSome) (i : Nat) :
    bus'.failure? raw i = bus.failure? raw (i + 1) := by
  rw [failure?, failure?, faults, List.getElem?_tail, present]

theorem obstacle?_one (bus : Bus) :
    bus.obstacle? raw 1 = (bus.failure? raw 0).map ({ kind := · }) := by
  have head : bus.faults[0]?.join = bus.faults.head?.join := by rw [List.head?_eq_getElem?]
  rw [obstacle?, failure?, head]
  rcases bus.faults.head?.join with _ | ⟨kind, _ | after⟩ <;> cases bus.target? raw <;>
    simp [strike?, Option.filter]

def carriedOut (segment : Segment) (address : Address) : Option ErrorKind → List Event
  | none => [segment.event, .stop address]
  | some _ => [.stop address]

theorem transfer_segment (bus : Bus) (address : Address) (segment : Segment) :
    ∃ received after, bus.transfer address [segment] =
        ((bus.failure? address.raw 0).elim (.ok ()) .error, received, after) ∧
      after.log = bus.log ++ carriedOut segment address (bus.failure? address.raw 0) ∧
      ∀ i, after.failure? address.raw i = bus.failure? address.raw (i + 1) := by
  obtain ⟨received, after, transferred, log, faults, present⟩ :=
    bus.transfer_obstacle address (show 0 < [segment].length from Nat.one_pos)
  rw [show bus.obstacle? address.raw [segment].length = _ from bus.obstacle?_one] at transferred log
  refine ⟨received, after, ?_, ?_, failure?_succ faults present⟩
  · rw [transferred]
    cases bus.failure? address.raw 0 <;> rfl
  · rw [log]
    cases bus.failure? address.raw 0 <;> rfl

end Bus

theorem Master.complete_silent (master : Master) {t : Transaction} (silent : t.reports = false)
    {result : Except ErrorKind Unit} {received : List UInt8} {bus : Bus}
    (transferred : master.bus.transfer t.address t.sequence.segments = (result, received, bus)) :
    (master.complete t).1.1 = result.mapError .i2c ∧ (master.complete t).2.bus = bus := by
  have told (marks : List Event) : t.told marks = [] := by simp [Transaction.told, silent]
  cases result with
  | ok =>
    rw [master.complete_ok t transferred, told, Bus.note_nil]
    exact ⟨rfl, rfl⟩
  | error kind =>
    rw [master.complete_error t transferred, told, Bus.note_nil]
    exact ⟨rfl, rfl⟩

namespace Device

variable (device : Device) {shared between after : SharedBus} {σ : Type}

def sends (bytes : List UInt8) : Transaction :=
  { address := device.address, body := .write [] bytes }

theorem sends_injective {bytes bytes' : List UInt8}
    (same : device.sends bytes = device.sends bytes') : bytes = bytes' := by
  cases same
  rfl

theorem sends_segments (bytes : List UInt8) :
    (device.sends bytes).sequence.segments = [.write bytes] := by
  cases bytes <;> rfl

structure Passed (shared : SharedBus) (count : Nat) (events : List Event) (after : SharedBus) :
    Prop where
  ahead : device.ahead after = device.ahead shared ++ events
  due : 0 < count ∨ shared.master.due device.timing = none → after.master.due device.timing = none
  failure : ∀ i, after.master.bus.failure? device.address.raw i =
    shared.master.bus.failure? device.address.raw (count + i)

namespace Passed

variable {device} {m n : Nat} {first second : List Event}

theorem nil (shared : SharedBus) : device.Passed shared 0 [] shared where
  ahead := (List.append_nil _).symm
  due none_due := none_due.elim (fun lt => absurd lt (Nat.lt_irrefl 0)) id
  failure i := by rw [Nat.zero_add]

theorem append (passed : device.Passed shared m first between)
    (passed' : device.Passed between n second after) :
    device.Passed shared (m + n) (first ++ second) after where
  ahead := by rw [passed'.ahead, passed.ahead, List.append_assoc]
  due none_due := by
    refine passed'.due ?_
    obtain pos | none_due := none_due
    · rcases Nat.eq_zero_or_pos n with rfl | pos'
      · exact .inr (passed.due (.inl pos))
      · exact .inl pos'
    · exact .inr (passed.due (.inr none_due))
  failure i := by rw [passed'.failure, passed.failure, Nat.add_assoc]

theorem log (passed : device.Passed shared m first after) (pos : 0 < m) :
    after.master.bus.log = device.ahead shared ++ first := by
  rw [← passed.ahead, Device.ahead, passed.due (.inl pos)]
  exact (List.append_nil _).symm

end Passed

variable (bytes : List UInt8) (state : σ) (shared)

theorem write_comes :
    ∃ after, (device.write bytes).run.run SharedBus.medium state shared =
        ((shared.master.bus.failure? device.address.raw 0).elim (.ok ()) (.error ∘ .i2c), state,
          after) ∧
      device.Passed shared 1 (.start device.address ::
        Bus.carriedOut (.write bytes) device.address
          (shared.master.bus.failure? device.address.raw 0)) after := by
  let t := device.sends bytes
  let opened := shared.master.opened device.timing t
  have accepted : t.attach.1 = true := rfl
  have run := shared.master.run_accepted device.timing t accepted
  have due := shared.master.due_run device.timing accepted
  have ran : (device.write bytes).run.run SharedBus.medium state shared =
      ((opened.complete t.attached).1.1, state, ⟨(opened.complete t.attached).2, false⟩) := by
    rw [← run]
    rfl
  have same : opened.bus.failure? device.address.raw =
      shared.master.bus.failure? device.address.raw :=
    Bus.failure?_congr (Master.opened_faults ..) (Master.opened_targets ..) _
  have log : opened.bus.log = device.ahead shared ++ [.start device.address] := by
    rw [shared.master.opened_log]
    simp only [Transaction.told, t, sends, Bool.false_eq_true, if_false, List.append_nil,
      List.nil_append, Device.ahead, List.append_assoc]
  obtain ⟨received, bus, transferred, left, failure⟩ :=
    opened.bus.transfer_segment device.address (.write bytes)
  rw [← device.sends_segments bytes] at transferred
  obtain ⟨answer, whole⟩ := opened.complete_silent (t := t.attached) rfl transferred
  rw [run] at due
  rw [answer, same] at ran
  rw [same, log, List.append_assoc, ← whole] at left
  rw [same, ← whole] at failure
  refine ⟨⟨(opened.complete t.attached).2, false⟩, ran.trans ?_, ?_, fun _ => due, fun i => ?_⟩
  · cases shared.master.bus.failure? device.address.raw 0 <;> rfl
  · rw [Device.ahead, due]
    exact (List.append_nil _).trans left
  · rw [failure, Nat.add_comm]

variable {shared}

theorem write_passes (fine : shared.master.bus.failure? device.address.raw 0 = none) :
    ∃ after, (device.write bytes).run.run SharedBus.medium state shared = (.ok (), state, after) ∧
      device.Passed shared 1 (device.exchanged [.write bytes]) after := by
  have comes := device.write_comes shared bytes state
  rwa [fine] at comes

theorem write_fails {kind : ErrorKind}
    (fails : shared.master.bus.failure? device.address.raw 0 = some kind) :
    ∃ after, (device.write bytes).run.run SharedBus.medium state shared =
        (.error (.i2c kind), state, after) ∧
      device.Passed shared 1 (device.exchanged []) after := by
  have comes := device.write_comes shared bytes state
  rwa [fails] at comes

def writeAll : List (List UInt8) → Attempt σ Unit
  | [] => pure ()
  | bytes :: rest => do
    device.write bytes
    writeAll rest

theorem writeAll_append (first second : List (List UInt8)) :
    (device.writeAll (first ++ second) : Attempt σ Unit) = (do
      device.writeAll first
      device.writeAll second) := by
  induction first with
  | nil => rfl
  | cons bytes rest ih =>
    rw [List.cons_append, writeAll, writeAll, ih, bind_assoc]

def wrote (commands : List (List UInt8)) : List Event :=
  commands.flatMap fun bytes => device.exchanged [.write bytes]

theorem writeAll_passes (commands : List (List UInt8))
    (fine : ∀ i < commands.length, shared.master.bus.failure? device.address.raw i = none) :
    ∃ after, (device.writeAll commands).run.run SharedBus.medium state shared =
        (.ok (), state, after) ∧
      device.Passed shared commands.length (device.wrote commands) after ∧
      (exchanges ((device.writeAll commands : Attempt σ Unit).run state) shared).map
        Begun.transaction = commands.map device.sends := by
  induction commands generalizing shared with
  | nil => exact ⟨shared, rfl, .nil shared, rfl⟩
  | cons bytes rest ih =>
    obtain ⟨between, came, passed⟩ :=
      device.write_passes bytes state (fine 0 (Nat.zero_lt_succ _))
    have fine' : ∀ i < rest.length,
        between.master.bus.failure? device.address.raw i = none := fun i lt => by
      rw [passed.failure, Nat.add_comm]
      exact fine (i + 1) (Nat.succ_lt_succ lt)
    obtain ⟨after, came', passed', begun⟩ := ih fine'
    refine ⟨after, (run_attempt_ok came).trans came', ?_, ?_⟩
    · rw [List.length_cons, Nat.add_comm]
      exact passed.append passed'
    · rw [writeAll, exchanges_attempt_ok came, List.map_append, begun]
      rfl

theorem writeAll_fails (commands : List (List UInt8)) {j : Nat} (lt : j < commands.length)
    (fine : ∀ i < j, shared.master.bus.failure? device.address.raw i = none) {kind : ErrorKind}
    (fails : shared.master.bus.failure? device.address.raw j = some kind) :
    ∃ after, (device.writeAll commands).run.run SharedBus.medium state shared =
        (.error (.i2c kind), state, after) ∧
      device.Passed shared (j + 1) (device.wrote (commands.take j) ++ device.exchanged []) after ∧
      (exchanges ((device.writeAll commands : Attempt σ Unit).run state) shared).map
        Begun.transaction = (commands.take (j + 1)).map device.sends := by
  have length : (commands.take j).length = j := List.length_take_of_le (Nat.le_of_lt lt)
  obtain ⟨between, came, passed, begun⟩ := device.writeAll_passes state (commands.take j)
    fun i inside => fine i (length ▸ inside)
  rw [length] at passed
  obtain ⟨after, failed, passed'⟩ :=
    device.write_fails commands[j] state ((passed.failure 0).trans fails)
  have split : commands = commands.take j ++ commands[j] :: commands.drop (j + 1) := by
    rw [List.getElem_cons_drop, List.take_append_drop]
  have stops : (device.writeAll (commands[j] :: commands.drop (j + 1))).run.run SharedBus.medium
      state between = (.error (.i2c kind), state, after) := run_attempt_error failed
  have whole : (device.writeAll commands : Attempt σ Unit) = (do
      device.writeAll (commands.take j)
      device.writeAll (commands[j] :: commands.drop (j + 1))) := by
    rw [← writeAll_append, ← split]
  refine ⟨after, ?_, passed.append passed', ?_⟩
  · rw [whole, run_attempt_ok came, stops]
  · rw [whole, exchanges_attempt_ok came, writeAll, exchanges_attempt_error failed,
      List.map_append, begun, List.take_succ_eq_append_getElem lt, List.map_append]
    rfl

theorem writeAll_state (commands : List (List UInt8)) :
    ((device.writeAll commands).run.run SharedBus.medium state shared).2.1 = state := by
  induction commands generalizing shared with
  | nil => rfl
  | cons bytes rest ih =>
    rw [writeAll]
    cases failed : shared.master.bus.failure? device.address.raw 0 with
    | none =>
      obtain ⟨between, came, -⟩ := device.write_passes bytes state failed
      rw [run_attempt_ok came]
      exact ih
    | some kind =>
      obtain ⟨between, came, -⟩ := device.write_fails bytes state failed
      rw [run_attempt_error came]

theorem writeAll_begun (commands : List (List UInt8)) {k : Nat} {t : Transaction}
    (here : ((exchanges ((device.writeAll commands : Attempt σ Unit).run state) shared).map
      Begun.transaction)[k]? = some t) :
    (∃ bytes, commands[k]? = some bytes ∧ t = device.sends bytes) ∧
      ∀ i < k, shared.master.bus.failure? device.address.raw i = none := by
  induction commands generalizing shared k with
  | nil => cases here
  | cons bytes rest ih =>
    have first : (∃ written, (bytes :: rest)[0]? = some written ∧
        device.sends bytes = device.sends written) ∧
          ∀ i < 0, shared.master.bus.failure? device.address.raw i = none :=
      ⟨⟨bytes, rfl, rfl⟩, fun i lt => absurd lt (Nat.not_lt_zero i)⟩
    cases failed : shared.master.bus.failure? device.address.raw 0 with
    | some kind =>
      obtain ⟨between, came, -⟩ := device.write_fails bytes state failed
      rw [writeAll, exchanges_attempt_error came] at here
      cases k with
      | zero =>
        cases here
        exact first
      | succ k => cases here
    | none =>
      obtain ⟨between, came, passed⟩ := device.write_passes bytes state failed
      rw [writeAll, exchanges_attempt_ok came, List.map_append] at here
      cases k with
      | zero =>
        cases here
        exact first
      | succ k =>
        obtain ⟨known, fine⟩ := ih here
        refine ⟨known, fun i lt => ?_⟩
        cases i with
        | zero => exact failed
        | succ i =>
          have next := fine i (Nat.lt_of_succ_lt_succ lt)
          rwa [passed.failure, Nat.add_comm] at next

end Device

end SensorBus.I2c
