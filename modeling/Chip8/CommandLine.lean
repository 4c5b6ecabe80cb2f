import Chip8.Log
import Chip8.Settings
import Chip8.Text.Quoted

/-!
The command line: its flags, what they ask for, and how it is explained to
those who get it wrong.
-/

namespace Chip8.CommandLine

/-- The flags, in the order they are explained in. -/
inductive Flag where
  | help
  | config
  | preset
  | clockHz
  | timerHz
  | scale
  | color
  | headless
  | cycles
  | disassemble
  | logLevel
deriving DecidableEq, Repr

namespace Flag

def all : List Flag :=
  [.help, .config, .preset, .clockHz, .timerHz, .scale, .color, .headless, .cycles,
   .disassemble, .logLevel]

/-- The ways to write a flag. -/
def names : Flag → List String
  | .help => ["-h", "--help"]
  | .config => ["--config", "-c"]
  | .preset => ["--quirks", "-q"]
  | .clockHz => ["--clock-hz"]
  | .timerHz => ["--timer-hz"]
  | .scale => ["--scale"]
  | .color => ["--color"]
  | .headless => ["--headless"]
  | .cycles => ["--cycles"]
  | .disassemble => ["--disassemble", "-d"]
  | .logLevel => ["--log-level"]

def takesValue : Flag → Bool
  | .help | .headless | .disassemble => false
  | _ => true

/-- A flag as messages name it. -/
def title (flag : Flag) : String := "/".intercalate flag.names

/-- Every way to write a flag, with the flag. -/
def spellings : List (String × Flag) :=
  all.flatMap fun flag => flag.names.map fun name => (name, flag)

/-- The spelling that a text is, with its flag. -/
def find? (text : Points) : Option (String × Flag) :=
  spellings.find? fun (name, _) => text == name

end Flag

/-- What stands behind a flag.  The mark that ends the flags is taken away also
where it stands in the place of a value, and then nothing is left. -/
inductive Given (α : Type) where
  | nothing
  | value (content : α)
deriving DecidableEq, Repr

structure Options where
  rom : Option Points := none
  config : Option (Given Points) := none
  preset : Option (Given Preset) := none
  clockHz : Option (Given Int) := none
  timerHz : Option (Given Int) := none
  scale : Option (Given Int) := none
  color : Option (Given Color) := none
  headless : Bool := false
  cycles : Given Int := .value 1000
  disassemble : Bool := false
  logLevel : Given Log.Level := .value .warning
deriving DecidableEq, Repr

/-- What a command line comes to. -/
inductive Request where
  | help
  | run (options : Options)
deriving DecidableEq, Repr

inductive Mistake where
  /-- A shortened flag that more than one flag begins with. -/
  | ambiguous (text : Points) (matching : List String)
  | missingValue (flag : Flag)
  | notANumber (flag : Flag) (text : Points)
  | notAChoice (flag : Flag) (text : Points) (choices : List String)
  /-- A value for a flag that takes none. -/
  | unwantedValue (flag : Flag) (text : Points)
  | unrecognized (arguments : List Points)
deriving DecidableEq, Repr

def Mistake.message : Mistake → Points
  | .ambiguous text matching =>
      "ambiguous option: " ++ text ++ " could match " ++ ", ".intercalate matching
  | .missingValue flag => "argument " ++ flag.title ++ ": expected one argument"
  | .notANumber flag text =>
      "argument " ++ flag.title ++ ": invalid int value: " ++ Quoted.quote text
  | .notAChoice flag text choices =>
      "argument " ++ flag.title ++ ": invalid choice: " ++ Quoted.quote text ++
        " (choose from " ++ ", ".intercalate (choices.map Quoted.quoteString) ++ ")"
  | .unwantedValue flag text =>
      "argument " ++ flag.title ++ ": ignored explicit argument " ++ Quoted.quote text
  | .unrecognized arguments =>
      "unrecognized arguments: " ++ Points.intercalate " " arguments

def unlines (lines : List String) : String :=
  String.join (lines.map (· ++ "\n"))

def usage : String :=
  unlines
    ["usage: meowchip [-h] [--config CONFIG] [--quirks \x7bchip8,schip\x7d]",
     "                [--clock-hz CLOCK_HZ] [--timer-hz TIMER_HZ] [--scale SCALE]",
     "                [--color \x7bamber,blue,green,white\x7d] [--headless]",
     "                [--cycles CYCLES] [--disassemble]",
     "                [--log-level \x7bDEBUG,INFO,WARNING,ERROR\x7d]",
     "                [rom]"]

def helpText : String :=
  usage ++ unlines
    ["",
     "CHIP-8 virtual machine",
     "",
     "positional arguments:",
     "  rom                   ROM file (.ch8); defaults to the first ROM in the",
     "                        current directory",
     "",
     "options:",
     "  -h, --help            show this help message and exit",
     "  --config CONFIG, -c CONFIG",
     "                        JSON config file",
     "  --quirks \x7bchip8,schip\x7d, -q \x7bchip8,schip\x7d",
     "                        Quirks preset",
     "  --clock-hz CLOCK_HZ   Instructions per second",
     "  --timer-hz TIMER_HZ   Timer decrement rate",
     "  --scale SCALE         Window scale factor",
     "  --color \x7bamber,blue,green,white\x7d",
     "                        Pixel colour",
     "  --headless            Run without a window",
     "  --cycles CYCLES       Cycles to run in headless mode (default: 1000)",
     "  --disassemble, -d     Print a disassembly and exit",
     "  --log-level \x7bDEBUG,INFO,WARNING,ERROR\x7d",
     "                        Logging verbosity (default: WARNING)",
     "",
     "Examples:",
     "    # Play a ROM in a window",
     "    meowchip pong.ch8",
     "",
     "    # Run 1000 cycles without a window and dump registers",
     "    meowchip test_opcode.ch8 --headless --cycles 1000",
     "",
     "    # Print a listing of a ROM",
     "    meowchip pong.ch8 --disassemble",
     "        "]

def Mistake.report (mistake : Mistake) : Points :=
  usage ++ "meowchip: error: " ++ mistake.message ++ "\n"

end Chip8.CommandLine
