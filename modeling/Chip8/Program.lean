import Chip8.CommandLine.Parse
import Chip8.Headless
import Chip8.Listing
import Chip8.Settings.Document
import Chip8.Window

/-!
The whole program: from a command line and the files around it to what is
printed and how it ends.
-/

namespace Chip8

inductive Ending where
  | exit (code : Nat)
  /-- A failure that nothing reports. -/
  | crash (failure : Failure)

/-- What the program has printed, and the least level of what it logs. -/
structure Console where
  out : String := ""
  err : Points := ""
  least : Log.Level := .warning

namespace Console

def print (console : Console) (lines : List String) : Console :=
  { console with out := console.out ++ CommandLine.unlines lines }

/-- Print a line for the eyes of the user alone. -/
def warn (console : Console) (line : Points) : Console :=
  { console with err := console.err ++ line ++ "\n" }

/-- Show the log entries that matter enough. -/
def note (console : Console) (entries : List Log.Entry) : Console :=
  { console with err := console.err ++ Log.lines console.least entries }

end Console

structure Report where
  console : Console
  ending : Ending
  /-- What the window showed, if one was opened. -/
  session : Option Window.Session := none

structure World where
  files : Files
  random : Nat → Int
  /-- What the window finds round after round, if one is opened. -/
  frames : List Frame
  /-- Who posts the ticks of the window. -/
  source : Window.TickSource := .standIn

namespace Program

/-- What is printed before the window opens. -/
def banner : List String :=
  ["╔═══════════════════════════════════════════════════════════════╗",
   "║            🐱 Meow Machine - CHIP-8 Virtual Machine            ║",
   "╚═══════════════════════════════════════════════════════════════╝",
   "",
   "Controls:",
   "  CHIP-8 Keypad: 1234 / QWER / ASDF / ZXCV",
   "  P = Pause/Resume   F1 = Debug overlay   F5 = Reload ROM",
   "  ESC = Exit",
   ""]

/-- The path that a text spells, unless it is empty. -/
def path? (text : Points) : Option Path :=
  if text = "" then none else some (.ofText text)

/-- The path of the configuration file, if one is given. -/
def configPath? (options : CommandLine.Options) : Option Path :=
  match options.config with
  | some (.value text) => path? text
  | _ => none

/-- The settings of the configuration file, or standard ones. -/
def baseSettings (files : Files) (options : CommandLine.Options) : Except Failure Settings :=
  match configPath? options with
  | none => .ok .standard
  | some path => Settings.load files path

/-- What stands behind a flag as a value of a document; nothing is an empty
list. -/
def documentValue {α : Type} (write : α → Json.Value) : CommandLine.Given α → Json.Value
  | .nothing => .array []
  | .value content => write content

def flagDialect? (options : CommandLine.Options) : Option Dialect :=
  match options.preset with
  | some (.value preset) => some preset.dialect
  | _ => none

/-- The settings that flags take the place of. -/
def flagChanges (options : CommandLine.Options) : Settings.Changes where
  clockHz := options.clockHz.map (documentValue .integer)
  timerHz := options.timerHz.map (documentValue .integer)
  scale := options.scale.map (documentValue .integer)
  color := options.color.map (documentValue fun color => .text color.name)
  dialect := flagDialect? options

/-- The settings to run with: those of a flag, else of the file, else the
standard ones. -/
def resolve (files : Files) (options : CommandLine.Options) : Except Failure Settings := do
  (← baseSettings files options).override (flagChanges options)

/-- What the reading of a configuration file notes. -/
def settingsLog (files : Files) (options : CommandLine.Options) : List Log.Entry :=
  match configPath? options, baseSettings files options with
  | some path, .ok _ => [⟨.info, .settings, "Loaded config from " ++ path.text⟩]
  | _, _ => []

/-- The program file to run: the one given, or the first of the working
folder. -/
def romPath? (files : Files) (options : CommandLine.Options) : Option Path :=
  match options.rom.bind path? with
  | some path => some path
  | none =>
      match Rom.find files (.ofText ".") with
      | .ok (first :: _) => some first
      | _ => none

/-- The end after a failure: reported if it can be. -/
def fail (console : Console) (failure : Failure) : Report :=
  match failure.message? with
  | some message =>
      { console := (console.note [⟨.error, .commandLine, message⟩]).warn
          ("Error: " ++ message)
        ending := .exit 1 }
  | none => { console := console, ending := .crash failure }

/-- What a run without a window notes. -/
def headlessLog (around : Surroundings) (period : Int) :
    (remaining number : Nat) → Machine → List Log.Entry
  | 0, _, _ => []
  | remaining + 1, number, machine =>
      match Headless.steps around period 1 number machine with
      | (_, .error _) => []
      | (stepped, .ok ()) =>
          Log.ofWait machine.wait stepped.wait ++
            headlessLog around period remaining (number + 1) stepped

/-- Run a loaded machine without a window and print the registers, also after a
fault. -/
def runLoaded (random : Nat → Int) (settings : Settings) (cycles : Int) (machine : Machine)
    (console : Console) : Report :=
  let around : Surroundings := ⟨Keypad.released.isHeld, random⟩
  let period : Int := settings.cyclesPerTick
  let noted :=
    if console.least = .debug then
      console.note (headlessLog around period cycles.toNat 1 machine)
    else console
  match Headless.run around cycles period machine with
  | (ran, .ok ()) =>
      { console := noted.print [ran.registers.dump], ending := .exit 0 }
  | (ran, .error (.fault fault)) =>
      fail (noted.print [ran.registers.dump]) (.fault fault)
  | (ran, .error .zeroPeriod) =>
      { console := noted.print [ran.registers.dump], ending := .exit 1 }

/-- Load a program and run it without a window.  Without a number of cycles the
machine does not run, and its registers are printed as they are. -/
def runHeadless (random : Nat → Int) (settings : Settings) (cycles : CommandLine.Given Int)
    (program : List UInt8) (console : Console) : Report :=
  match (Machine.initial settings.dialect).load program, cycles with
  | .error fault, _ => fail console (.fault fault)
  | .ok machine, .value cycles =>
      runLoaded random settings cycles machine (console.note [Log.ofLoad program])
  | .ok machine, .nothing =>
      { console := (console.note [Log.ofLoad program]).print [machine.registers.dump]
        ending := .crash (.breakdown .wrongType) }

def runWindow (world : World) (settings : Settings) (rom : Path) (console : Console) :
    Report :=
  let session :=
    Window.session settings rom world.random world.files world.frames world.source
  { console := (console.print banner).note session.log.toList
    ending := match session.failure with
      | none => .exit 0
      | some failure => .crash failure
    session := some session }

/-- Do what the options ask for, logging from a level up. -/
def performAt (least : Log.Level) (world : World) (options : CommandLine.Options) : Report :=
  let console := ({ least := least } : Console).note (settingsLog world.files options)
  match resolve world.files options with
  | .error failure => fail console failure
  | .ok settings =>
      match romPath? world.files options with
      | none =>
          { console := console.warn
              "No ROM given and no .ch8 files found in the current directory"
            ending := .exit 2 }
      | some rom =>
          match Rom.read world.files rom with
          | .error failure => fail console failure
          | .ok program =>
              let console := console.note [Log.ofRead rom.name program]
              if options.disassemble then
                { console := console.print
                    (listing settings.dialect.jumpByNamedRegister programStart program)
                  ending := .exit 0 }
              else if options.headless then
                runHeadless world.random settings options.cycles program console
              else runWindow world settings rom console

/-- Do what the options ask for.  Without a level there is no log to set up. -/
def perform (world : World) (options : CommandLine.Options) : Report :=
  match options.logLevel with
  | .value least => performAt least world options
  | .nothing => { console := {}, ending := .crash (.breakdown .wrongType) }

def run (world : World) (arguments : List Points) : Report :=
  match CommandLine.parse arguments with
  | .error mistake => { console := { err := mistake.report }, ending := .exit 2 }
  | .ok .help => { console := { out := CommandLine.helpText }, ending := .exit 0 }
  | .ok (.run options) => perform world options

end Program
end Chip8
