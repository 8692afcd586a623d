import SensorBus.Spi.Bus

namespace SensorBus.Spi

inductive Attempt
  | configure (mode : Mode)
  | select (chip : UInt8) (taken : Bool)
  | call (transfer : Transfer) (result : Except ErrorKind Unit)
  | flush (result : Except ErrorKind Unit)
  | deselect (chip : UInt8) (taken : Bool)

def Transfer.event? : Transfer → Option Event
  | .read buffer => some (.read buffer.length)
  | .write words => some (.write words)
  | .both buffer words => some (.both buffer.length words)
  | .inPlace words => some (.inPlace words)
  | .delay _ => none

def Attempt.event? : Attempt → Option Event
  | .configure mode => some (.configured mode)
  | .select chip taken => some (.selected chip taken)
  | .call transfer (.ok ()) => transfer.event?
  | .flush (.ok ()) => some .flushed
  | .deselect chip taken => some (.deselected chip taken)
  | .call _ (.error _) | .flush (.error _) => none

namespace Bus

@[simp] theorem takeWord_log (bus : Bus) (word : UInt8) : (bus.takeWord word).log = bus.log := by
  unfold takeWord
  split <;> rfl

@[simp] theorem take_log (bus : Bus) (words : List UInt8) : (bus.take words).log = bus.log := by
  induction words generalizing bus with
  | nil => rfl
  | cons word words ih => exact (ih _).trans (bus.takeWord_log word)

@[simp] theorem give_log (bus : Bus) (length : Nat) : (bus.give length).2.log = bus.log := by
  induction length generalizing bus with
  | zero => rfl
  | succ length ih =>
    simp only [give]
    exact ih _

theorem perform_log (bus : Bus) (transfer : Transfer) :
    (bus.perform transfer).2.log = bus.log ++ transfer.event?.toList := by
  cases transfer with
  | read => simp [perform, Transfer.event?, note]
  | write => simp [perform, Transfer.event?, note]
  | both => simp [perform, Transfer.event?, note]
  | inPlace => simp [perform, Transfer.event?, note]
  | delay => simp [perform, Transfer.event?]

inductive Answers : Bus → Attempt → Bus → Prop
  | configure (bus : Bus) (mode : Mode) : Answers bus (.configure mode) (bus.apply mode)
  | select (bus : Bus) (chip : UInt8) :
      Answers bus (.select chip (bus.select chip).1) (bus.select chip).2
  | call (bus : Bus) (transfer : Transfer) :
      Answers bus (.call transfer (bus.call transfer).1) (bus.call transfer).2.2
  | flush (bus : Bus) : Answers bus (.flush bus.flush.1) bus.flush.2
  | deselect (bus : Bus) (chip : UInt8) :
      Answers bus (.deselect chip (bus.deselect chip).1) (bus.deselect chip).2

theorem Answers.log {bus bus' : Bus} {attempt : Attempt} (answers : bus.Answers attempt bus') :
    bus'.log = bus.log ++ attempt.event?.toList := by
  cases answers with
  | configure | select | deselect => rfl
  | flush =>
    rcases popped : bus.popFault with ⟨_ | kind, rest⟩ <;>
      have same : rest.log = bus.log := congrArg (·.2.log) popped.symm
    · simp [Bus.flush, popped, Attempt.event?, note, same]
    · simp [Bus.flush, popped, Attempt.event?, same]
  | call transfer =>
    rcases popped : bus.popFault with ⟨_ | kind, rest⟩ <;>
      have same : rest.log = bus.log := congrArg (·.2.log) popped.symm
    · simp [Bus.call, popped, Attempt.event?, perform_log, same]
    · simp [Bus.call, popped, Attempt.event?, same]

/-- These attempts, in this order, and nothing else have taken the bus from `start` to where it
stands. -/
inductive History (start : Bus) : List Attempt → Bus → Prop
  | nil : History start [] start
  | answered {attempts : List Attempt} {attempt : Attempt} {bus bus' : Bus}
      (before : History start attempts bus) (answers : bus.Answers attempt bus') :
      History start (attempts ++ [attempt]) bus'

namespace History

variable {start bus bus' : Bus} {attempts tail : List Attempt} {attempt : Attempt}

theorem trans (first : History start attempts bus) (second : History bus tail bus') :
    History start (attempts ++ tail) bus' := by
  induction second with
  | nil =>
    rw [List.append_nil]
    exact first
  | answered before answers ih =>
    rw [← List.append_assoc]
    exact .answered ih answers

theorem single (answers : bus.Answers attempt bus') : History bus [attempt] bus' :=
  .answered .nil answers

theorem cons (answers : start.Answers attempt bus) (rest : History bus tail bus') :
    History start (attempt :: tail) bus' :=
  (single answers).trans rest

theorem log (history : History start attempts bus) :
    bus.log = start.log ++ attempts.filterMap Attempt.event? := by
  induction history with
  | nil => exact (List.append_nil _).symm
  | answered before answers ih =>
    rw [answers.log, ih, List.filterMap_append, List.append_assoc]
    congr 2

end History

end Bus

end SensorBus.Spi
