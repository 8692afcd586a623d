import SensorBus.Proofs.I2c.Program
import SensorBus.Proofs.I2c.Turn
import SensorBus.Proofs.Job.Discipline

namespace SensorBus.I2c

/-- What one transaction puts on the bus. A block that is not closed ends with its start. -/
structure Block where
  timing : Option Timing
  transaction : Transaction
  body : List Event
  closed : Bool

namespace Block

def events (block : Block) : List Event :=
  block.timing.toList.map .timed ++ .start block.transaction.address ::
    (block.body ++ if block.closed then [.stop block.transaction.address] else [])

def opened (timing : Option Timing) (t : Transaction) : Block := ⟨timing, t, [], false⟩

def complete (timing : Option Timing) (t : Transaction) (body : List Event) : Block :=
  ⟨timing, t, body, true⟩

def Of (kind : Request → Prop) (block : Block) : Prop :=
  block.body <+: block.transaction.events ∧
    ∃ timing, kind (.transact timing block.transaction) ∧
      (block.timing = none ∨ block.timing = timing)

end Block

/-- A transaction that is not refused leaves one block, with all of its bytes if it succeeds. -/
inductive Leaves : (r : Request) → interface.Reply r → List Block → Prop
  | delayed {duration : Delay} : Leaves (.delay duration) () []
  | refused {timing : Option Timing} {t : Transaction} (refused : t.attach.1 = false) :
      Leaves (.transact timing t) (.error .transactionBusy, t.detach .failedToAttach) []
  | complete {timing applied : Option Timing} {t : Transaction} {body : List Event}
      {outcome : Outcome} (accepted : t.attach.1 = true)
      (applies : applied = none ∨ applied = timing) (part : body <+: t.events)
      (ends : outcome.1 = .ok () ∧ body = t.events ∨ ∃ kind, outcome.1 = .error (.i2c kind)) :
      Leaves (.transact timing t) outcome [.complete applied t body]

inductive Midway : (r : Request) → SharedBus.Flight r → List Block → Prop
  | pause {duration : Delay} (flight : Pause) : Midway (.delay duration) flight []
  | waiting {timing : Option Timing} {t : Transaction} :
      Midway (.transact timing t) (Turn.waiting timing t) []
  | holding {timing applied : Option Timing} {t : Transaction} {left : Nat}
      (accepted : t.attach.1 = true) (applies : applied = none ∨ applied = timing) :
      Midway (.transact timing t) (Turn.holding ⟨t.attached, left⟩) [.opened applied t]

def SharedBus.discipline : Discipline SharedBus.medium Block Event where
  leaves := Leaves
  midway := Midway
  dropped := Midway
  holds
    | .transact .., flight => (Turn.exchange? flight).isSome
    | .delay _, _ => false
  locked := SharedBus.locked
  events := Block.events
  record origin events shared := shared.traffic = origin.traffic ++ events

theorem Midway.of_stands {r : Request} {flight : SharedBus.Flight r} {written : List Block}
    (stands : SharedBus.discipline.Stands r flight written) : Midway r flight written := by
  obtain ⟨rfl, rfl⟩ | midway := stands
  · cases r with
    | transact => exact .waiting
    | delay => exact .pause _
  · exact midway

theorem Master.due_eq (master : Master) (timing : Option Timing) :
    master.due timing = none ∨ master.due timing = timing := by
  unfold due
  split
  · exact .inl rfl
  · exact .inr rfl

theorem Pause.poll_quiet (duration : Delay) (pause : Pause) (shared : SharedBus) :
    (pause.poll duration shared).2.traffic = shared.traffic ∧
      (pause.poll duration shared).2.locked = shared.locked := by
  have noted : (Pause.note duration shared).traffic = shared.traffic := by
    simp [SharedBus.traffic, Bus.traffic, note, Bus.note, Event.onBus]
  cases pause with
  | fresh =>
    simp only [Pause.poll]
    split <;> exact ⟨noted, rfl⟩
  | suspended left => cases left <;> exact ⟨rfl, rfl⟩

namespace SharedBus

theorem intervene_quiet (intervention : Intervention) (shared : SharedBus) :
    (shared.intervene intervention).traffic = shared.traffic ∧
      (shared.intervene intervention).locked = shared.locked := by
  cases intervention with
  | change f => exact ⟨rfl, rfl⟩
  | reset =>
    simp only [intervene]
    split <;> exact ⟨rfl, rfl⟩

theorem record_of_same {shared shared' : SharedBus} (traffic : shared'.traffic = shared.traffic) :
    discipline.record shared [] shared' :=
  traffic.trans (List.append_nil _).symm

theorem waiting_goes {shared shared' : SharedBus} {timing : Option Timing} {t : Transaction}
    {answer : Poll Turn Outcome}
    (polled : (Turn.waiting timing t).poll shared = (answer, shared')) :
    discipline.Goes false [] shared shared'
      (discipline.keeps (.transact timing t) answer)
      (discipline.answers (.transact timing t) answer) := by
  have waited := Turn.poll_waiting shared timing t
  rw [polled] at waited
  have applies := shared.master.due_eq timing
  cases waited with
  | held locked => exact .quietly rfl .waiting rfl (record_of_same rfl)
  | refused free refused =>
    refine .quietly rfl (.refused refused) free.symm (record_of_same ?_)
    simp [SharedBus.traffic, Bus.traffic, Bus.note_log, List.filter_append,
      t.filter_onBus_told (.attaching false) rfl, t.filter_onBus_told (.detaching _) rfl]
  | through free accepted =>
    obtain ⟨body, part, traffic, ends⟩ :=
      (shared.master.opened timing t).complete_traffic t.attached
    refine .begins free (.complete accepted applies part ends) rfl ?_
    refine Eq.trans traffic ?_
    rw [Master.opened_traffic]
    simp [discipline, Block.events, Block.complete, SharedBus.traffic]
  | begun free accepted left =>
    refine .begins free (.holding accepted applies) rfl ?_
    refine Eq.trans (Master.opened_traffic _ _ _) ?_
    simp [discipline, Block.events, Block.opened, SharedBus.traffic]

theorem holding_goes {shared shared' : SharedBus} {timing applied : Option Timing}
    {t : Transaction} {left : Nat} {answer : Poll Turn Outcome} (accepted : t.attach.1 = true)
    (applies : applied = none ∨ applied = timing)
    (polled : (Turn.holding ⟨t.attached, left⟩).poll shared = (answer, shared')) :
    discipline.Goes true [.opened applied t] shared shared'
      (discipline.keeps (.transact timing t) answer)
      (discipline.answers (.transact timing t) answer) := by
  cases left with
  | zero =>
    cases polled
    obtain ⟨body, part, traffic, ends⟩ := shared.master.complete_traffic t.attached
    refine .goesOn rfl (List.nil_append _).symm (.complete accepted applies part ends) ?_ rfl
      traffic
    simp [discipline, Block.events, Block.complete, Block.opened]
  | succ left =>
    cases polled
    exact .goesOn rfl (List.nil_append _).symm (.holding accepted applies)
      (List.append_nil _).symm rfl (record_of_same rfl)

theorem lawful : discipline.Lawful SharedBus.intervene where
  nothing shared := record_of_same rfl
  trans {origin shared shared' events tail} first second := by
    change shared'.traffic = origin.traffic ++ (events ++ tail)
    rw [show shared'.traffic = shared.traffic ++ tail from second,
      show shared.traffic = origin.traffic ++ events from first, List.append_assoc]
  launch r := by
    cases r <;> rfl
  poll r flight written shared answer shared' stands polled := by
    cases Midway.of_stands stands with
    | @pause duration flight =>
      obtain ⟨traffic, locked⟩ := Pause.poll_quiet duration flight shared
      rw [show flight.poll duration shared = _ from polled] at traffic locked
      refine .quietly ?_ ?_ locked (record_of_same traffic)
      · cases answer <;> rfl
      · cases answer with
        | ready => exact .delayed
        | pending flight => exact .pause flight
    | waiting => exact waiting_goes polled
    | holding accepted applies => exact holding_goes accepted applies polled
  drop r flight written shared midway := by
    cases midway with
    | pause flight => exact .quietly rfl (.pause flight) rfl (record_of_same rfl)
    | waiting => exact .quietly rfl .waiting rfl (record_of_same rfl)
    | holding accepted applies =>
      exact .goesOn rfl (List.nil_append _).symm (.holding accepted applies)
        (List.append_nil _).symm rfl (record_of_same (shared.master.abandon_traffic _))
  act intervention shared := (intervene_quiet intervention shared).2

end SharedBus

section

variable {σ α : Type} {kind : Request → Prop} {blocks : List Block}

theorem Leaves.closed_of {r : Request} {reply : interface.Reply r} (leaves : Leaves r reply blocks)
    (asked : kind r) : ∀ block ∈ blocks, block.closed = true ∧ block.Of kind := by
  cases leaves with
  | delayed => exact fun _ mem => nomatch mem
  | refused => exact fun _ mem => nomatch mem
  | complete accepted applies part ends =>
    intro block mem
    cases List.mem_singleton.1 mem
    exact ⟨rfl, part, _, asked, applies⟩

theorem closed_of_transcript {start p : Progress interface σ α}
    (transcript : Transcript Leaves start blocks p) (asks : start.Asks kind) :
    ∀ block ∈ blocks, block.closed = true ∧ block.Of kind :=
  transcript.forall_mem asks fun _ _ _ asked leaves => leaves.closed_of asked

inductive Account (kind : Request → Prop) : Option Exchange → List Block → Prop
  | whole {blocks : List Block} (closed : ∀ block ∈ blocks, block.closed = true ∧ block.Of kind) :
      Account kind none blocks
  | midway {past : List Block} {applied : Option Timing} {t : Transaction} {left : Nat}
      (closed : ∀ block ∈ past, block.closed = true ∧ block.Of kind)
      (part : (Block.opened applied t).Of kind) :
      Account kind (some ⟨t.attached, left⟩) (past ++ [.opened applied t])

theorem BusFiber.account {start : Progress interface σ α} {fiber : BusFiber σ α}
    (kept : fiber.Kept Leaves Midway start blocks) (asks : start.Asks kind) :
    Account kind (BusFiber.exchange? fiber) blocks := by
  cases fiber with
  | fresh => exact .whole (closed_of_transcript kept asks)
  | spent => cases kept
  | asking state r flight next =>
    obtain ⟨past, written, rfl, transcript, midway⟩ := kept
    cases midway with
    | pause | waiting =>
      rw [List.append_nil]
      exact .whole (closed_of_transcript transcript asks)
    | holding accepted applies =>
      exact .midway (closed_of_transcript transcript asks)
        ⟨List.nil_prefix, _, (transcript.asks asks).1, applies⟩

theorem BusMember.account {start : Progress interface σ α}
    {member : BusMember σ α} (kept : SharedBus.discipline.Kept start member blocks)
    (asks : start.Asks kind) : Account kind (BusMember.exchange? member) blocks := by
  cases member with
  | live fiber => exact BusFiber.account kept asks
  | dropped fiber => exact BusFiber.account kept asks
  | ended job value =>
    obtain ⟨state, transcript⟩ := kept
    exact .whole (closed_of_transcript transcript asks)

theorem BusMember.exchange?_of_holds {member : BusMember σ α}
    (holds : SharedBus.discipline.memberHolds member = true) :
    ∃ exchange, BusMember.exchange? member = some exchange := by
  cases member with
  | ended | dropped => cases holds
  | live fiber =>
    cases fiber with
    | fresh | spent => cases holds
    | asking state r flight next =>
      cases r with
      | transact => exact Option.isSome_iff_exists.1 holds
      | delay => cases holds

theorem Account.of_mem {exchange : Option Exchange} (account : Account kind exchange blocks)
    {block : Block} (mem : block ∈ blocks) : block.Of kind ∧
      (block.closed = false → block.body = [] ∧
        ∃ left, exchange = some ⟨block.transaction.attached, left⟩) := by
  cases account with
  | whole closed =>
    obtain ⟨closed, part⟩ := closed block mem
    exact ⟨part, fun opened => by simp [closed] at opened⟩
  | @midway past applied t left closed part =>
    obtain mem | mem := List.mem_append.1 mem
    · obtain ⟨closed, part⟩ := closed block mem
      exact ⟨part, fun opened => by simp [closed] at opened⟩
    · cases List.mem_singleton.1 mem
      exact ⟨part, fun _ => ⟨rfl, left, rfl⟩⟩

theorem Account.last {exchange : Exchange} {past : List Block} {block : Block}
    (account : Account kind (some exchange) (past ++ [block])) : block.closed = false := by
  generalize whole : past ++ [block] = blocks at account
  cases account with
  | midway =>
    obtain ⟨-, eq⟩ := List.append_inj' whole rfl
    cases eq
    rfl

end

end SensorBus.I2c
