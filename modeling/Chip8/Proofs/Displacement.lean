import Chip8.Proofs.Faults

/-!
What a step does not look at.  The queue of ticks, the redraw flag and the number
of random numbers used so far have no part in what a step does, but for the ticks
that reach the timers at its end: `Machine.step_of_ok` says it of every step that
succeeds, and the steps that do not are known by `Machine.step_of_error`.
-/

namespace Chip8

/-- The surroundings with the first random numbers left out. -/
def Surroundings.later (around : Surroundings) (used : Nat) : Surroundings :=
  { around with random := fun number => around.random (number + used) }

namespace Machine

/-- The machine with another queue, and further on in the random sequence. -/
def displaced (machine : Machine) (used : Nat) (ticks : List Nat) : Machine :=
  { machine with ticks, drawn := machine.drawn + used }

theorem perform_displaced (around : Surroundings) (machine : Machine) (used : Nat)
    (ticks : List Nat) (instruction : Instruction) :
    (machine.displaced used ticks).perform around instruction =
      ((machine.perform (around.later used) instruction).1.displaced used ticks,
       (machine.perform (around.later used) instruction).2) := by
  rw [perform.eq_def, perform.eq_def]
  cases instruction with
  | random x mask =>
      dsimp only [displaced, Surroundings.later]
      rw [Nat.add_right_comm]
  | jumpOffset x target => rfl
  | _ => dsimp only [displaced, Surroundings.later, indexAfterCopy] <;> (try split) <;> rfl

theorem perform_ticks (around : Surroundings) (machine : Machine) (instruction : Instruction) :
    (machine.perform around instruction).1.ticks = machine.ticks := by
  rw [show machine = machine.displaced 0 machine.ticks from rfl, perform_displaced]
  rfl

theorem serveWait_displaced (held : Key → Bool) (machine : Machine) (used : Nat)
    (ticks : List Nat) :
    (machine.displaced used ticks).serveWait held =
      (machine.serveWait held).displaced used ticks := by
  unfold serveWait
  dsimp only [displaced]
  split <;> rfl

theorem serveWait_ticks (held : Key → Bool) (machine : Machine) :
    (machine.serveWait held).ticks = machine.ticks := by
  rw [show machine = machine.displaced 0 machine.ticks from rfl, serveWait_displaced]
  rfl

variable {around : Surroundings} {machine : Machine}

/-- A step that succeeds does the same on every displaced machine, and then the
sum of its queue reaches the timers. -/
theorem step_of_ok {shown : Snapshot} (h : (machine.step around).2 = .ok shown) :
    ∃ moved : Machine, ∀ (elsewhere : Surroundings) (used : Nat) (ticks : List Nat)
      (redraw : Bool), elsewhere.later used = around →
      { machine.displaced used ticks with redraw }.step elsewhere =
        let after := { moved.displaced used [] with
          registers := moved.registers.tick ticks.sum }
        (after, .ok after.snapshot) := by
  have way := step_case around machine
  generalize machine.step around = result at way h
  cases way with
  | served waiting served eq =>
      refine ⟨{ machine with redraw := false }.serveWait around.held, ?_⟩
      rintro elsewhere used ticks redraw rfl
      have waits : { machine.displaced used ticks with redraw }.wait ≠ .idle := waiting
      have same := serveWait_displaced elsewhere.held { machine with redraw := false } used ticks
      dsimp only [displaced] at same
      rw [step_of_waiting waits]
      dsimp only [displaced]
      rw [same, drainTicks_eq]
      rfl
  | refused => exact absurd h (by simp)
  | obeyed idle word instruction performed flow moved fetched decoded performs eq =>
      refine ⟨performed.follow flow, ?_⟩
      rintro elsewhere used ticks redraw rfl
      have rests : { machine.displaced used ticks with redraw }.wait = .idle := idle
      have current : ({ machine with redraw := false }.displaced used ticks).currentWord =
          .ok word := fetched
      have carried : ({ machine with redraw := false }.displaced used ticks).executeCurrent
          elsewhere = (performed.displaced used ticks, .ok flow) := by
        rw [executeCurrent_of_decode current decoded, perform_displaced, performs]
      rw [step_of_flow rests carried, drainTicks_eq]
      rfl

theorem ticks_step_of_ok {shown : Snapshot} (h : (machine.step around).2 = .ok shown) :
    (machine.step around).1.ticks = [] := by
  obtain ⟨moved, moves⟩ := step_of_ok h
  have now := moves around 0 machine.ticks machine.redraw rfl
  exact congrArg (fun result => result.1.ticks) now

theorem ticks_step_of_error {fault : Fault} (h : (machine.step around).2 = .error fault) :
    (machine.step around).1.ticks = machine.ticks := by
  rw [step_of_error h]

end Machine
end Chip8
