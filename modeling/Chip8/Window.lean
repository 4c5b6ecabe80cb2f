import Chip8.Decimal.Binary64
import Chip8.Disassembly
import Chip8.Log
import Chip8.Machine.Step
import Chip8.Rom
import Chip8.Ticker
import Chip8.Window.Glow
import Chip8.Window.Keyboard

/-!
The window around a machine: a loop that, frame after frame, takes the events,
looks at the keys, runs the machine for a while and shows the screen.  A fault
of the machine halts it and leaves the window open.
-/

namespace Chip8

inductive Event where
  | close
  | escape
  | pause
  | debug
  | reload
  /-- Any event the window takes no notice of. -/
  | other
deriving DecidableEq, Repr

/-- All that one round of the loop finds around it. -/
structure Frame where
  files : Files
  /-- Why the files could not be changed to these, if they could not. -/
  filesFault : Option FileFault := none
  /-- The time since some fixed moment, in seconds; none if it is past every
  number that a clock can tell. -/
  seconds : Option Float
  events : List Event
  /-- The physical keys pressed. -/
  pressed : List String
  /-- The ticks that have come since the last round. -/
  ticks : List Nat
  /-- The ticks that come while the machine runs, just before each step of the
  round. -/
  during : Nat → List Nat := fun _ => []

structure Window where
  settings : Settings
  rom : Path
  machine : Machine
  keypad : Keypad
  running : Bool
  paused : Bool
  halted : Bool
  debug : Bool
  soundOn : Bool
  /-- Whether the screen has changed since it was last shown. -/
  redraw : Bool
  /-- The screen whose picture is kept for the next round. -/
  shown : Option Bitmap
  status : Points
  /-- When the keys were last looked at. -/
  lastInput : Float
  log : Array Log.Entry

namespace Window

/-- A window just opened. -/
def initial (settings : Settings) (rom : Path) : Window where
  settings := settings
  rom := rom
  machine := .initial settings.dialect
  keypad := .released
  running := true
  paused := false
  halted := false
  debug := false
  soundOn := false
  redraw := true
  shown := none
  status := "Ready"
  lastInput := 0
  log := #[]

def note (window : Window) (entries : List Log.Entry) : Window :=
  { window with log := window.log ++ entries }

/-- Reset the machine and load the program file.  If the file cannot be loaded
the machine stays reset. -/
def load (files : Files) (window : Window) : Window × Except Failure Unit :=
  let reset := { window with machine := window.machine.reset }.note
    [⟨.debug, .machine, "Engine reset"⟩]
  match Rom.read files window.rom with
  | .error failure => (reset, .error failure)
  | .ok program =>
      let read := reset.note [Log.ofRead window.rom.name program]
      match reset.machine.load program with
      | .error fault => (read, .error (.fault fault))
      | .ok machine =>
          ({ read with
              machine := machine
              halted := false
              redraw := true
              status := "Loaded: " ++ window.rom.stem }.note [Log.ofLoad program],
           .ok ())

/-- What a window does about an event.  A reload that fails without a message breaks it
off. -/
def handle (files : Files) (window : Window) : Event → Window × Except Breakdown Unit
  | .close | .escape => ({ window with running := false }, .ok ())
  | .pause =>
      ({ window with
          paused := !window.paused
          status := if window.paused then "Running" else "Paused" }, .ok ())
  | .debug => ({ window with debug := !window.debug }, .ok ())
  | .reload =>
      match window.load files with
      | (loaded, .ok ()) => (loaded, .ok ())
      | (failed, .error failure) =>
          match failure.report with
          | .error cause => (failed, .error cause)
          | .ok message =>
              let text := "Reload failed: " ++ message
              ({ failed with status := text, halted := true }.note [⟨.error, .window, text⟩],
               .ok ())
  | .other => (window, .ok ())

/-- What a window does about some events, up to one that breaks it off. -/
def handleAll (files : Files) : Window → List Event → Window × Except Breakdown Unit
  | window, [] => (window, .ok ())
  | window, event :: rest =>
      match window.handle files event with
      | (broken, .error cause) => (broken, .error cause)
      | (handled, .ok ()) => handleAll files handled rest

/-- Look at the keys if the last look is long enough ago. -/
def refreshInput (pressed : List String) (seconds : Float) (window : Window) : Window :=
  if 1 / Binary64.ofInt window.settings.inputHz.val ≤ seconds - window.lastInput then
    { window with keypad := Keyboard.keypad pressed, lastInput := seconds }
  else window

/-- Run the machine for the steps that remain, the next of them having number
`number` in the round; a fault halts it. -/
def runCycles (random : Nat → Int) (during : Nat → List Nat) :
    (remaining number : Nat) → Window → Window
  | 0, _, window => window
  | remaining + 1, number, window =>
      match (window.machine.queueTicks (during number)).step
          ⟨window.keypad.isHeld, random⟩ with
      | (machine, .error fault) =>
          { window with
            machine := machine
            status := "Halted: " ++ fault.message
            halted := true }.note
              [⟨.error, .window, "Emulation halted: " ++ fault.message⟩]
      | (machine, .ok snapshot) =>
          let noted := window.note (Log.ofWait window.machine.wait machine.wait)
          runCycles random during remaining (number + 1)
            { noted with
              machine := machine
              redraw := window.redraw || snapshot.redraw
              soundOn := snapshot.soundOn }

/-- The lines about the machine that a window shows on demand. -/
def debugLines (window : Window) : List String :=
  let current := match window.machine.currentWord with
    | .ok word =>
        "OP: $" ++ Hex.padded 4 word ++ " " ++
          disassemble word window.settings.dialect.jumpByNamedRegister
    | .error _ => "OP: <out of bounds>"
  window.machine.registers.dumpLines ++ [current]

def texts (window : Window) : List Points :=
  (if window.debug then window.debugLines.map Points.ofString else []) ++ [window.status] ++
    (if window.soundOn then [.ofString "BEEP"] else [])

/-- Whether the picture is made anew and not kept. -/
def mustRender (window : Window) : Bool :=
  window.redraw || window.shown.isNone

def render (window : Window) : Window :=
  { window with
    shown := if window.mustRender then some window.machine.screen else window.shown
    redraw := false }

def picture (window : Window) : Option Picture :=
  window.shown.map (Glow.compose window.settings.color.rgb window.settings.scale.val)

/-- What is to be seen at the end of a round. -/
structure Shown where
  window : Window
  /-- Whether the picture was made anew. -/
  rendered : Bool
  texts : List Points

/-- Look at the keys and run the machine, unless it stands still. -/
def advance (random : Nat → Int) (frame : Frame) (seconds : Float) (window : Window) :
    Window :=
  let refreshed := window.refreshInput frame.pressed seconds
  if refreshed.paused || refreshed.halted then refreshed
  else refreshed.runCycles random frame.during refreshed.settings.cyclesPerFrame 0

/-- Put the ticks of a frame on the machine's queue. -/
def queueTicks (window : Window) (frame : Frame) : Window :=
  { window with machine := window.machine.queueTicks frame.ticks }

/-- One round of the loop: the window after it, and what is to be seen.  It
breaks down with an event, without the time, and on a status that has no bytes
to be drawn from. -/
def round (random : Nat → Int) (frame : Frame) (window : Window) :
    Window × Except Breakdown Shown :=
  match window.handleAll frame.files frame.events with
  | (broken, .error cause) => (broken, .error cause)
  | (handled, .ok ()) =>
      match frame.seconds with
      | none => (handled, .error .numberTooLarge)
      | some seconds =>
          let advanced := handled.advance random frame seconds
          if advanced.status.isWhole then
            (advanced.render,
             .ok { window := advanced.render
                   rendered := advanced.mustRender
                   texts := advanced.texts })
          else (advanced, .error .unencodable)

/-- What came of some rounds. -/
structure Rounds where
  shown : List Shown
  /-- The window after the last of them. -/
  last : Window
  /-- What broke the last of them off. -/
  breakdown : Option Breakdown

/-- The rounds of the loop while the window is open. -/
def rounds (random : Nat → Int) (window : Window) : List Frame → Rounds
  | [] => { shown := [], last := window, breakdown := none }
  | frame :: rest =>
      match frame.filesFault with
      | some fault => { shown := [], last := window, breakdown := some (.files fault) }
      | none =>
          match (window.queueTicks frame).round random frame with
          | (failed, .error cause) => { shown := [], last := failed, breakdown := some cause }
          | (after, .ok shown) =>
              if after.running then
                let more := rounds random after rest
                { more with shown := shown :: more.shown }
              else { shown := [shown], last := after, breakdown := none }

inductive TickerEvent where
  | created (hz : Nat)
  | started
  | stopped
deriving DecidableEq, Repr

/-- Who posts the ticks of a window. -/
inductive TickSource where
  /-- A ticker, made when the program has been loaded. -/
  | ticker
  /-- Something that stands in for the ticker and has no rate of its own. -/
  | standIn
deriving DecidableEq, Repr

/-- Why there can be no ticks at a rate. -/
def TickSource.fault? : TickSource → (hz : Nat) → Option Breakdown
  | .ticker, hz =>
      match Ticker.ofRate (.whole hz) with
      | .ok _ => none
      -- The rates of settings are positive, so none is refused but for its size.
      | .error _ => some .numberTooLarge
  | .standIn, _ => none

/-- The ticker of an open window. -/
def tickerStart (settings : Settings) : List TickerEvent :=
  [.created settings.timerHz.val, .started]

/-- All that a window has done from its opening to its end. -/
structure Session where
  shown : List Shown
  ticker : List TickerEvent
  failure : Option Failure
  log : Array Log.Entry

/-- A session that fails before the first round. -/
def Session.failed (failure : Failure) (log : Array Log.Entry) : Session :=
  { shown := [], ticker := [], failure := some failure, log := log }

/-- Load the program into an open window, make the ticker and go through the frames. -/
def loadAndRun (opened : Window) (random : Nat → Int) (files : Files) (frames : List Frame)
    (source : TickSource) : Session :=
  match opened.load files with
  | (failed, .error failure) => .failed failure failed.log
  | (loaded, .ok ()) =>
      match source.fault? opened.settings.timerHz.val with
      | some cause => .failed (.breakdown cause) loaded.log
      | none =>
          let rounds := rounds random loaded frames
          { shown := rounds.shown
            ticker := tickerStart opened.settings ++ [.stopped]
            failure := rounds.breakdown.map Failure.breakdown
            log := rounds.last.log }

/-- The height of the line below the screen. -/
def statusHeight : Nat := 25

/-- The greatest width and height of a window. -/
def sizeLimit : Nat := 16384

/-- The greatest number that can be told as a width at all. -/
def widthLimit : Nat := 0x7FFFFFFFFFFFFFFF

/-- Why no window can be opened: its title, its size or the time between two
looks at the keys is none. -/
def openingFault? (settings : Settings) (rom : Path) : Option Breakdown :=
  let width := screenWidth * settings.scale.val
  let height := screenHeight * settings.scale.val + statusHeight
  if !rom.stem.isWhole then some .unencodable
  else if rom.stem.contains 0 then some .nulInText
  else if widthLimit < width then some .wrongType
  else if sizeLimit < width ∨ sizeLimit < height then some .windowTooLarge
  else if Binary64.isTooLarge settings.inputHz.val then some .numberTooLarge
  else none

/-- Open a window, load the program and go through the frames.  The files and the
ticks of the first frame are there before the program is loaded. -/
def session (settings : Settings) (rom : Path) (random : Nat → Int) (files : Files)
    (frames : List Frame) (source : TickSource := .standIn) : Session :=
  let opened := initial settings rom
  match openingFault? settings rom, frames with
  | some cause, _ => .failed (.breakdown cause) #[]
  | none, [] => loadAndRun opened random files [] source
  | none, first :: rest =>
      match first.filesFault with
      | some fault => .failed (.breakdown (.files fault)) #[]
      | none =>
          loadAndRun (opened.queueTicks first) random first.files
            ({ first with ticks := [] } :: rest) source

end Window
end Chip8
