import Chip8.Dialect
import Chip8.Instruction
import Chip8.Keypad
import Chip8.Screen

/-!
The machine and its power-on state.  Timer ticks arrive in a queue and are
taken from it at the end of a step.  Random numbers come from a sequence that
the surroundings hold; the machine keeps how many it has used.
-/

namespace Chip8

structure Machine where
  dialect : Dialect
  memory : Memory
  registers : Registers
  screen : Bitmap
  wait : KeyWait
  /-- Whether the screen has been touched since the flag was last cleared. -/
  redraw : Bool
  /-- Ticks that have not reached the timers yet, oldest first. -/
  ticks : List Nat
  /-- How many random numbers have been used. -/
  drawn : Nat
deriving DecidableEq, Repr

/-- What the machine asks of its surroundings during a step. -/
structure Surroundings where
  /-- Which keys are held. -/
  held : Key → Bool
  /-- The sequence of random numbers. -/
  random : Nat → Int

/-- What an instruction makes of the program counter. -/
inductive Flow where
  | advance
  | skip
  | jump (target : UInt16)
  | suspend
deriving DecidableEq, Repr

/-- What a step shows. -/
structure Snapshot where
  soundOn : Bool
  redraw : Bool
  screen : Bitmap
deriving DecidableEq, Repr

namespace Machine

/-- A machine just switched on. -/
def initial (dialect : Dialect) : Machine where
  dialect := dialect
  memory := .initial
  registers := .initial
  screen := .blank
  wait := .idle
  redraw := false
  ticks := []
  drawn := 0

/-- Back to the power-on state.  The dialect, the queue of ticks and the place
in the random sequence stay, and the screen is due to be shown. -/
def reset (machine : Machine) : Machine :=
  { machine with
    memory := machine.memory.clear
    registers := .initial
    screen := machine.screen.clear
    wait := machine.wait.reset
    redraw := true }

theorem reset_eq (machine : Machine) :
    machine.reset =
      { machine with
        memory := .initial
        registers := .initial
        screen := .blank
        wait := .idle
        redraw := true } := by
  simp only [reset, Memory.clear_eq, Screen.clear_eq, KeyWait.reset_eq]

theorem reset_ticks (machine : Machine) : machine.reset.ticks = machine.ticks := by
  rw [reset_eq]

/-- Copy a program to where programs start. -/
def load (machine : Machine) (program : List UInt8) : Except Fault Machine := do
  return { machine with memory := ← machine.memory.load program programStart }

def queueTicks (machine : Machine) (ticks : List Nat) : Machine :=
  { machine with ticks := machine.ticks ++ ticks }

/-- The word the program counter points at. -/
def currentWord (machine : Machine) : Except Fault Nat :=
  machine.memory.readWord machine.registers.counter.toNat

def snapshot (machine : Machine) : Snapshot where
  soundOn := 0 < machine.registers.sound
  redraw := machine.redraw
  screen := machine.screen

end Machine
end Chip8
