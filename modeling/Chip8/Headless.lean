import Chip8.Machine.Step

/-!
Running without a window: a given number of steps, with one tick queued after
every so many of them.
-/

namespace Chip8.Headless

/-- Why a run ended before its last step. -/
inductive Stop where
  | fault (fault : Fault)
  /-- No step count is a multiple of zero. -/
  | zeroPeriod
deriving DecidableEq, Repr

/-- The steps that remain, the next of them having number `number`. -/
def steps (around : Surroundings) (period : Int) :
    (remaining number : Nat) → Machine → Machine × Except Stop Unit
  | 0, _, machine => (machine, .ok ())
  | remaining + 1, number, machine =>
      match machine.step around with
      | (stepped, .error fault) => (stepped, .error (.fault fault))
      | (stepped, .ok _) =>
          if period = 0 then (stepped, .error .zeroPeriod)
          else
            let ticked := if (number : Int) % period = 0 then stepped.queueTicks [1] else stepped
            steps around period remaining (number + 1) ticked

/-- Run for a number of cycles; a negative number is none. -/
def run (around : Surroundings) (cycles period : Int) (machine : Machine) :
    Machine × Except Stop Unit :=
  steps around period cycles.toNat 1 machine

end Chip8.Headless
