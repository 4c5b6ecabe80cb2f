import Chip8.Machine.Step

/-!
Runs.  `Machine.run` does a list of actions of every kind to a machine;
`Machine.stateAt` follows a machine through a sequence of steps with ticks put
on the queue in between and nothing else.
-/

namespace Chip8

/-- What the surroundings can do to a machine. -/
inductive Action where
  | load (program : List UInt8)
  | step (around : Surroundings)
  | reset
  | queue (ticks : List Nat)
  | adopt (dialect : Dialect)

/-- One step of a machine, with the ticks put on the queue since the step
before. -/
structure Moment where
  ticks : List Nat
  around : Surroundings

namespace Machine

/-- The machine after an action.  A program that does not fit is not loaded. -/
def act (machine : Machine) : Action → Machine
  | .load program =>
      match machine.load program with
      | .ok loaded => loaded
      | .error _ => machine
  | .step around => (machine.step around).1
  | .reset => machine.reset
  | .queue ticks => machine.queueTicks ticks
  | .adopt dialect => { machine with dialect }

def run (machine : Machine) (actions : List Action) : Machine :=
  actions.foldl act machine

/-- What every action keeps holds after every run. -/
theorem run_preserves {P : Machine → Prop}
    (keeps : ∀ machine action, P machine → P (machine.act action))
    (actions : List Action) {machine : Machine} (start : P machine) :
    P (machine.run actions) := by
  induction actions generalizing machine with
  | nil => exact start
  | cons action rest ih => exact ih (keeps machine action start)

/-- The machine after a moment, and what its step came to. -/
def pass (machine : Machine) (moment : Moment) : Machine × Except Fault Snapshot :=
  (machine.queueTicks moment.ticks).step moment.around

/-- The step of a moment carries out a word: no wait is under way, the word is
the one at the program counter, and no fault is met. -/
def CarriesOut (machine : Machine) (moment : Moment) (word : Nat) : Prop :=
  machine.wait = .idle ∧ machine.currentWord = .ok word ∧
    ∃ snapshot, (machine.pass moment).2 = .ok snapshot

/-- The machine before the step of the given number of a history. -/
def stateAt (machine : Machine) (history : Nat → Moment) : Nat → Machine
  | 0 => machine
  | number + 1 => ((machine.stateAt history number).pass (history number)).1

end Machine

/-- The ticks that a history queues before the step of the given number. -/
def queuedBefore (history : Nat → Moment) (number : Nat) : List Nat :=
  (List.range number).flatMap fun earlier => (history earlier).ticks

theorem queuedBefore_zero (history : Nat → Moment) : queuedBefore history 0 = [] := rfl

theorem queuedBefore_succ (history : Nat → Moment) (number : Nat) :
    queuedBefore history (number + 1) =
      queuedBefore history number ++ (history number).ticks := by
  simp [queuedBefore, List.range_succ]

end Chip8
