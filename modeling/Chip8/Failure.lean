import Chip8.Fault
import Chip8.Settings.Problem

/-!
Failures: all that can keep the program from going on.
-/

namespace Chip8

/-- An input that no check foresees.  It ends the program where a fault or a
problem would be reported. -/
inductive Breakdown where
  /-- A value of a type that cannot be used in its place. -/
  | wrongType
  /-- A list or a text in place of pairs, with an entry that is no pair. -/
  | wrongShape
  /-- A dialect named by something other than a text. -/
  | presetNotText
  /-- A file whose bytes are no text. -/
  | undecodable
  /-- A numeral of too many digits. -/
  | numeralTooLong
  /-- Brackets inside brackets past every bound. -/
  | tooDeep
  /-- A whole number past every number of 64 bits. -/
  | numberTooLarge
  /-- A text with a character that no path and no title can have. -/
  | nulInText
  /-- A text with half of a surrogate pair, where its bytes are asked for. -/
  | unencodable
  /-- A window that no screen can hold. -/
  | windowTooLarge
  /-- A change of the files that cannot be made. -/
  | files (cause : FileFault)
deriving DecidableEq, Repr

/-- Why the program cannot go on. -/
inductive Failure where
  | fault (cause : Fault)
  | problem (cause : Problem)
  | breakdown (cause : Breakdown)

/-- The end that a path which can be no path comes to; none for a fault that is
reported. -/
def FileFault.breakdown? : FileFault → Option Breakdown
  | .nulInPath => some .nulInText
  | .unencodable => some .unencodable
  | _ => none

namespace Failure

/-- The message that a failure is reported with, or the breakdown that nothing reports. -/
def report : Failure → Except Breakdown Points
  | .fault cause => .ok cause.message
  | .problem cause => .ok cause.message
  | .breakdown cause => .error cause

def message? (failure : Failure) : Option Points :=
  failure.report.toOption

end Failure

end Chip8
