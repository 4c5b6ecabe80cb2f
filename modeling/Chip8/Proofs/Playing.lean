import Mathlib.Data.List.Basic
import Chip8.Proofs.Picture

/-!
A game as it is played in a window.  `Play` follows the machine through the frames with
no window around it: it counts how often a pause is asked for, keeps the keys as they
were last looked at, and takes the steps of a frame if it is not paused and has met no
fault.  Unless the program is loaded again, a window does just that, whatever else
happens to it.
-/

namespace Chip8

namespace Points

theorem isWhole_append (a b : Points) : (a ++ b).isWhole = (a.isWhole && b.isWhole) := by
  have joined : (a ++ b).points = a.points ++ b.points := rfl
  simp only [isWhole, joined, List.any_append, Bool.not_or]

theorem isWhole_ofString (text : String) : (ofString text).isWhole = true := by
  have unbroken : ∀ c : Char, isHalf c.toNat = false := by
    intro c
    have valid : c.toNat.isValidChar := c.valid
    simp only [isHalf, Bool.and_eq_false_iff, decide_eq_false_iff_not]
    unfold Nat.isValidChar at valid
    omega
  simp [isWhole, ofString, unbroken]

end Points

namespace Machine

/-- The message of a fault that a step meets is a text that can be drawn. -/
theorem isWhole_message {fault : Fault} (h : OfStep fault) : fault.message.isWhole = true := by
  cases h with
  | unsupportedOpcode word address =>
      cases address <;>
        simp [Fault.message, Fault.unsupportedOpcodeText, Points.isWhole_append,
          Points.isWhole_ofString]
  | _ =>
      simp [Fault.message, Fault.stackUnderflowText, Fault.stackOverflowText,
        Fault.outOfBoundsText, Fault.keyOutOfRangeText, Points.isWhole_append,
        Points.isWhole_ofString]

theorem isWhole_message_of_step {machine kept : Machine} {around : Surroundings} {fault : Fault}
    (h : machine.step around = (kept, .error fault)) : fault.message.isWhole = true := by
  have met := faultOf?_step around machine
  rw [h] at met
  exact isWhole_message (ofStep_of_hazard? met.symm)

theorem queueTicks_queueTicks (machine : Machine) (first second : List Nat) :
    (machine.queueTicks first).queueTicks second = machine.queueTicks (first ++ second) := by
  simp [queueTicks]

end Machine

def Event.closes : Event → Bool
  | .close | .escape => true
  | _ => false

def Frame.closes (frame : Frame) : Bool :=
  frame.events.any Event.closes

/-- The frames that a window goes through.  The one in which it is closed is the last;
one whose files or whose time are not to be had breaks the window down. -/
def goneThrough : List Frame → List Frame
  | [] => []
  | frame :: rest =>
      if frame.filesFault.isSome || frame.seconds.isNone then []
      else if frame.closes then [frame]
      else frame :: goneThrough rest

/-- A game as it is played. -/
structure Play where
  machine : Machine
  /-- The fault that has stopped the machine, if one has. -/
  fault? : Option Fault
  /-- The keys as they were last looked at. -/
  keypad : Keypad
  lastInput : Float
  /-- How often a pause has been asked for, or its end. -/
  pauses : Nat
  closed : Bool

namespace Play

/-- A game about to be played on a machine. -/
def opening (machine : Machine) : Play where
  machine := machine
  fault? := none
  keypad := .released
  lastInput := 0
  pauses := 0
  closed := false

def queueTicks (play : Play) (ticks : List Nat) : Play :=
  { play with machine := play.machine.queueTicks ticks }

/-- Take notice of events.  None but the pauses and the close are of any account. -/
def heed (play : Play) (events : List Event) : Play :=
  { play with
    pauses := play.pauses + events.count .pause
    closed := play.closed || events.any Event.closes }

/-- Look at the keys of a frame if the last look is long enough ago. -/
def look (settings : Settings) (play : Play) (frame : Frame) : Play :=
  match frame.seconds with
  | none => play
  | some seconds =>
      if 1 / Binary64.ofInt settings.inputHz.val ≤ seconds - play.lastInput then
        { play with keypad := Keyboard.keypad frame.pressed, lastInput := seconds }
      else play

/-- One step of the machine, if no step has met a fault. -/
def pass (play : Play) (moment : Moment) : Play :=
  match play.fault? with
  | some _ => play
  | none =>
      { play with
        machine := (play.machine.pass moment).1
        fault? := faultOf? (play.machine.pass moment).2 }

/-- Some steps, the first of them having number `number` in its frame, all with the
keys as they were last looked at. -/
def passes (random : Nat → Int) (during : Nat → List Nat) (number count : Nat) (play : Play) :
    Play :=
  ((List.range' number count).map fun number =>
    ⟨during number, ⟨play.keypad.isHeld, random⟩⟩).foldl pass play

/-- The steps of a frame, if pauses have been asked for an even number of times. -/
def advance (settings : Settings) (random : Nat → Int) (frame : Frame) (play : Play) : Play :=
  if play.pauses % 2 = 0 then play.passes random frame.during 0 settings.cyclesPerFrame
  else play

def frame (settings : Settings) (random : Nat → Int) (play : Play) (frame : Frame) : Play :=
  (((play.queueTicks frame.ticks).heed frame.events).look settings frame).advance
    settings random frame

def frames (settings : Settings) (random : Nat → Int) (play : Play) (frames : List Frame) : Play :=
  frames.foldl (frame settings random) play

theorem passes_succ (random : Nat → Int) (during : Nat → List Nat) (number count : Nat)
    (play : Play) :
    play.passes random during number (count + 1) =
      (play.pass ⟨during number, ⟨play.keypad.isHeld, random⟩⟩).passes random during
        (number + 1) count := by
  have same : (play.pass ⟨during number, ⟨play.keypad.isHeld, random⟩⟩).keypad = play.keypad := by
    unfold pass
    split <;> rfl
  rw [passes, passes, same, List.range'_succ, List.map_cons, List.foldl_cons]

theorem foldl_pass_eq (moments : List Moment) (play : Play) :
    ∃ machine fault?, moments.foldl pass play = { play with machine, fault? } := by
  induction moments generalizing play with
  | nil => exact ⟨play.machine, play.fault?, rfl⟩
  | cons moment rest ih =>
      obtain ⟨machine, fault?, goes⟩ := ih (play.pass moment)
      refine ⟨machine, fault?, goes.trans ?_⟩
      unfold pass
      split <;> rfl

theorem heed_cons (play : Play) (event : Event) (rest : List Event) :
    play.heed (event :: rest) = (play.heed [event]).heed rest := by
  simp [heed, List.count_cons, Bool.or_assoc, Nat.add_comm, Nat.add_left_comm]

theorem look_eq (settings : Settings) (play : Play) (frame : Frame) :
    ∃ keypad lastInput, play.look settings frame = { play with keypad, lastInput } := by
  unfold look
  split
  · exact ⟨_, _, rfl⟩
  · split <;> exact ⟨_, _, rfl⟩

/-- What a frame does, apart from what it does to the machine and to the keys. -/
theorem frame_eq (settings : Settings) (random : Nat → Int) (play : Play) (frame : Frame) :
    ∃ machine fault? keypad lastInput, play.frame settings random frame =
      { machine, fault?, keypad, lastInput
        pauses := play.pauses + frame.events.count .pause
        closed := play.closed || frame.closes } := by
  obtain ⟨keypad, lastInput, looks⟩ :=
    look_eq settings ((play.queueTicks frame.ticks).heed frame.events) frame
  rw [Play.frame, looks, advance]
  split
  · obtain ⟨machine, fault?, goes⟩ := foldl_pass_eq _ _
    exact ⟨machine, fault?, keypad, lastInput, goes⟩
  · exact ⟨_, _, keypad, lastInput, rfl⟩

theorem closed_frame (settings : Settings) (random : Nat → Int) (play : Play) (frame : Frame) :
    (play.frame settings random frame).closed = (play.closed || frame.closes) := by
  obtain ⟨machine, fault?, keypad, lastInput, goes⟩ := frame_eq settings random play frame
  rw [goes]

theorem pauses_frames (settings : Settings) (random : Nat → Int) (play : Play)
    (frames : List Frame) :
    (play.frames settings random frames).pauses =
      play.pauses + (frames.flatMap Frame.events).count .pause := by
  induction frames generalizing play with
  | nil => rfl
  | cons frame rest ih =>
      obtain ⟨machine, fault?, keypad, lastInput, goes⟩ := frame_eq settings random play frame
      have later := ih (play.frame settings random frame)
      rw [goes] at later
      rw [List.flatMap_cons, List.count_append, ← Nat.add_assoc, ← later, ← goes]
      rfl

theorem frames_append (settings : Settings) (random : Nat → Int) (play : Play)
    (before after : List Frame) :
    play.frames settings random (before ++ after) =
      (play.frames settings random before).frames settings random after :=
  List.foldl_append

section Stopped

variable {play : Play} {fault : Fault}

theorem foldl_pass_of_fault (stopped : play.fault? = some fault) (moments : List Moment) :
    moments.foldl pass play = play := by
  induction moments with
  | nil => rfl
  | cons moment rest ih => rw [List.foldl_cons, pass, stopped, ih]

theorem advance_of_fault (stopped : play.fault? = some fault) (settings : Settings)
    (random : Nat → Int) (frame : Frame) : play.advance settings random frame = play := by
  rw [advance, passes, foldl_pass_of_fault stopped, ite_self]

/-- A frame of a game that a fault has stopped puts its ticks on the queue and does
nothing else to the machine. -/
theorem frame_of_fault (stopped : play.fault? = some fault) (settings : Settings)
    (random : Nat → Int) (frame : Frame) :
    (play.frame settings random frame).fault? = some fault ∧
      (play.frame settings random frame).machine = play.machine.queueTicks frame.ticks := by
  obtain ⟨keypad, lastInput, looks⟩ :=
    look_eq settings ((play.queueTicks frame.ticks).heed frame.events) frame
  have still : (((play.queueTicks frame.ticks).heed frame.events).look settings frame).fault? =
      some fault := by
    rw [looks]
    exact stopped
  rw [Play.frame, advance_of_fault still, looks]
  exact ⟨stopped, rfl⟩

/-- A fault is for ever: the frames behind it leave the machine as it is, but for
the ticks they put on the queue. -/
theorem frames_of_fault (stopped : play.fault? = some fault) (settings : Settings)
    (random : Nat → Int) (frames : List Frame) :
    (play.frames settings random frames).fault? = some fault ∧
      (play.frames settings random frames).machine =
        play.machine.queueTicks (frames.flatMap Frame.ticks) := by
  induction frames generalizing play with
  | nil => exact ⟨stopped, by simp [Play.frames, Machine.queueTicks]⟩
  | cons frame rest ih =>
      obtain ⟨still, same⟩ := frame_of_fault stopped settings random frame
      obtain ⟨last, queued⟩ := ih still
      refine ⟨last, queued.trans ?_⟩
      rw [same, Machine.queueTicks_queueTicks, List.flatMap_cons]

theorem frames_take_of_fault {settings : Settings} {random : Nat → Int} {frames : List Frame}
    {number later : Nat} (ordered : number ≤ later)
    (stopped : (play.frames settings random (frames.take number)).fault? = some fault) :
    (play.frames settings random (frames.take later)).fault? = some fault ∧
      (play.frames settings random (frames.take later)).machine =
        (play.frames settings random (frames.take number)).machine.queueTicks
          (((frames.take later).drop number).flatMap Frame.ticks) := by
  have shorter : (frames.take later).take number = frames.take number := by
    rw [List.take_take, Nat.min_eq_left ordered]
  have joined : frames.take number ++ (frames.take later).drop number = frames.take later := by
    rw [← shorter, List.take_append_drop]
  have behind := frames_of_fault stopped settings random ((frames.take later).drop number)
  rwa [← frames_append, joined] at behind

end Stopped

end Play

namespace Window

/-- A window in which a game is played. -/
structure InPlay (settings : Settings) (play : Play) (window : Window) : Prop where
  settings_eq : window.settings = settings
  machine_eq : window.machine = play.machine
  halted_eq : window.halted = play.fault?.isSome
  paused_eq : window.paused = decide (play.pauses % 2 = 1)
  running_eq : window.running = !play.closed
  keypad_eq : window.keypad = play.keypad
  lastInput_eq : window.lastInput = play.lastInput
  whole : window.status.isWhole = true

section Following

variable {settings : Settings} {play : Play} {window : Window}

theorem InPlay.queueTicks (h : InPlay settings play window) (frame : Frame) :
    InPlay settings (play.queueTicks frame.ticks) (window.queueTicks frame) :=
  { h with machine_eq := congrArg (Machine.queueTicks · frame.ticks) h.machine_eq }

theorem InPlay.handle (h : InPlay settings play window) {event : Event} (kept : event ≠ .reload)
    (files : Files) :
    ∃ handled, window.handle files event = (handled, .ok ()) ∧
      InPlay settings (play.heed [event]) handled := by
  cases event with
  | reload => exact absurd rfl kept
  | close | escape =>
      refine ⟨_, rfl, { h with running_eq := ?_ }⟩
      simp [Play.heed, Event.closes]
  | pause =>
      refine ⟨_, rfl, { h with paused_eq := ?_, running_eq := ?_, whole := ?_ }⟩
      · -- The flag is turned over each time, and so is the parity of the count.
        have turned : (play.pauses + 1) % 2 = 1 ↔ ¬ play.pauses % 2 = 1 := by omega
        simp only [Play.heed, h.paused_eq, List.count_singleton_self, turned, decide_not]
      · simp [Play.heed, Event.closes, h.running_eq]
      · dsimp only
        split <;> exact Points.isWhole_ofString _
  | debug | other =>
      refine ⟨_, rfl, { h with running_eq := ?_ }⟩
      simp [Play.heed, Event.closes, h.running_eq]

theorem InPlay.handleAll (h : InPlay settings play window) {events : List Event}
    (kept : .reload ∉ events) (files : Files) :
    ∃ handled, window.handleAll files events = (handled, .ok ()) ∧
      InPlay settings (play.heed events) handled := by
  induction events generalizing play window with
  | nil => exact ⟨window, rfl, { h with running_eq := by simp [Play.heed, h.running_eq] }⟩
  | cons event rest ih =>
      rw [List.mem_cons, not_or] at kept
      obtain ⟨next, first, ready⟩ := h.handle (Ne.symm kept.1) files
      rw [Play.heed_cons, handleAll_cons_of_ok first]
      exact ih ready kept.2

theorem InPlay.refreshInput (h : InPlay settings play window) {frame : Frame} {seconds : Float}
    (timed : frame.seconds = some seconds) :
    InPlay settings (play.look settings frame) (window.refreshInput frame.pressed seconds) := by
  obtain rfl := h.settings_eq
  unfold Window.refreshInput Play.look
  rw [timed, h.lastInput_eq]
  dsimp only
  split
  · exact { h with keypad_eq := rfl, lastInput_eq := rfl }
  · exact h

theorem InPlay.runCycles (h : InPlay settings play window) (goes : play.fault? = none)
    (random : Nat → Int) (during : Nat → List Nat) (number remaining : Nat) :
    InPlay settings (play.passes random during number remaining)
      (window.runCycles random during remaining number) := by
  induction remaining generalizing play window number with
  | zero => exact h
  | succ remaining ih =>
      have steps : (window.machine.queueTicks (during number)).step
          ⟨window.keypad.isHeld, random⟩ =
          play.machine.pass ⟨during number, ⟨play.keypad.isHeld, random⟩⟩ := by
        rw [h.machine_eq, h.keypad_eq]
        rfl
      rw [Play.passes_succ, Play.pass, goes]
      dsimp only
      match result : play.machine.pass ⟨during number, ⟨play.keypad.isHeld, random⟩⟩ with
      | (kept, .error fault) =>
          have refused := steps.trans result
          obtain ⟨log, halts⟩ := runCycles_of_error refused remaining
          rw [halts, Play.passes, Play.foldl_pass_of_fault rfl]
          refine { h with machine_eq := rfl, halted_eq := rfl, whole := ?_ }
          rw [Points.isWhole_append, Points.isWhole_ofString, Bool.true_and]
          exact Machine.isWhole_message_of_step refused
      | (moved, .ok snapshot) =>
          obtain ⟨log, moves⟩ := runCycles_of_ok (steps.trans result) remaining
          rw [moves]
          refine ih ?_ rfl (number + 1)
          exact { h with
            machine_eq := rfl
            halted_eq := h.halted_eq.trans (by rw [goes, faultOf?]) }

theorem InPlay.advance (h : InPlay settings play window) {frame : Frame} {seconds : Float}
    (timed : frame.seconds = some seconds) (random : Nat → Int) :
    InPlay settings ((play.look settings frame).advance settings random frame)
      (window.advance random frame seconds) := by
  have ready := h.refreshInput timed
  unfold Window.advance
  generalize window.refreshInput frame.pressed seconds = refreshed at ready ⊢
  generalize play.look settings frame = looked at ready ⊢
  dsimp only
  rw [ready.paused_eq, ready.halted_eq, ready.settings_eq]
  cases stopped : looked.fault? with
  | some fault =>
      rw [Play.advance_of_fault stopped, if_pos (by simp)]
      exact ready
  | none =>
      rw [Play.advance]
      rcases Nat.mod_two_eq_zero_or_one looked.pauses with even | odd
      · rw [if_pos even, if_neg (by simp [even])]
        exact ready.runCycles stopped random frame.during 0 _
      · rw [if_neg (by simp [odd]), if_pos (by simp [odd])]
        exact ready

/-- A round that does not load the program again is a frame of the game. -/
theorem InPlay.frame (h : InPlay settings play window) {frame : Frame} {seconds : Float}
    (timed : frame.seconds = some seconds) (kept : .reload ∉ frame.events) (random : Nat → Int) :
    ∃ handled,
      (window.queueTicks frame).handleAll frame.files frame.events = (handled, .ok ()) ∧
      InPlay settings (play.frame settings random frame)
        (handled.advance random frame seconds) := by
  obtain ⟨handled, handles, ready⟩ := (h.queueTicks frame).handleAll kept frame.files
  exact ⟨handled, handles, ready.advance timed random⟩

theorem InPlay.render (h : InPlay settings play window) : InPlay settings play window.render :=
  { h with }

/-- Every round shown is a frame of the game. -/
theorem InPlay.shown (h : InPlay settings play window) {frames : List Frame}
    (kept : ∀ frame ∈ frames, .reload ∉ frame.events) {random : Nat → Int} {number : Nat}
    {seen : Shown} (shows : (rounds random window frames).shown[number]? = some seen) :
    InPlay settings (play.frames settings random (frames.take (number + 1))) seen.window := by
  have keeps : ∀ past frame window handled seconds,
      (window.queueTicks frame).handleAll frame.files frame.events = (handled, .ok ()) →
      frame.seconds = some seconds →
      ((∀ frame ∈ past, .reload ∉ frame.events) →
        InPlay settings (play.frames settings random past) window) →
      (∀ other ∈ past ++ [frame], .reload ∉ other.events) →
        InPlay settings (play.frames settings random (past ++ [frame]))
          (handled.advance random frame seconds).render := by
    intro past frame window handled seconds handles timed before unasked
    rw [List.forall_mem_append, List.forall_mem_singleton] at unasked
    obtain ⟨other, same, played⟩ := (before unasked.1).frame timed unasked.2 random
    obtain ⟨rfl, _⟩ := Prod.mk.inj (same.symm.trans handles)
    rw [Play.frames_append]
    exact played.render
  have start : (∀ frame ∈ ([] : List Frame), .reload ∉ frame.events) →
      InPlay settings (play.frames settings random []) window := fun _ => h
  exact (rounds_invariant keeps start shows).2 fun frame member =>
    kept frame (List.mem_of_mem_take member)

/-- The rounds shown are those of the frames gone through. -/
theorem InPlay.length_shown (h : InPlay settings play window) (opened : play.closed = false)
    {frames : List Frame} (kept : ∀ frame ∈ frames, .reload ∉ frame.events)
    (random : Nat → Int) :
    (rounds random window frames).shown.length = (goneThrough frames).length := by
  induction frames generalizing play window with
  | nil => rfl
  | cons frame rest ih =>
      rw [List.forall_mem_cons] at kept
      cases changed : frame.filesFault with
      | some fault => simp [rounds, goneThrough, changed]
      | none =>
          cases timed : frame.seconds with
          | none =>
              obtain ⟨handled, handles, _⟩ := (h.queueTicks frame).handleAll kept.1 frame.files
              simp [rounds, goneThrough, changed, round, handles, timed]
          | some seconds =>
              obtain ⟨handled, handles, played⟩ := h.frame timed kept.1 random
              obtain ⟨shown, goes, same⟩ := round_of_whole handles timed rfl played.whole
              have after : InPlay settings (play.frame settings random frame) shown.window := by
                rw [same]
                exact played.render
              have runs : shown.window.running = !frame.closes := by
                rw [after.running_eq, Play.closed_frame, opened, Bool.false_or]
              cases closes : frame.closes with
              | true => simp [rounds, goneThrough, changed, timed, goes, runs, closes]
              | false =>
                  have more := ih after (by rw [Play.closed_frame, opened, closes]; rfl) kept.2
                  simp [rounds, goneThrough, changed, timed, goes, runs, closes, more]

end Following

/-- A window with a game about to be played. -/
def opening (settings : Settings) (rom : Path) (machine : Machine) (log : Array Log.Entry) :
    Window :=
  { initial settings rom with machine, status := "Loaded: " ++ rom.stem, log }

section Session

variable {settings : Settings} {rom : Path} {random : Nat → Int} {files : Files} {first : Frame}
  {rest : List Frame} {program : List UInt8} {start : Machine} {source : TickSource}

theorem inPlay_opening (opens : openingFault? settings rom = none) (start : Machine)
    (log : Array Log.Entry) :
    InPlay settings (.opening start) (opening settings rom start log) := by
  have titled : rom.stem.isWhole = true := by
    unfold openingFault? at opens
    cases whole : rom.stem.isWhole with
    | true => rfl
    | false => simp [whole] at opens
  refine ⟨rfl, rfl, rfl, rfl, rfl, rfl, rfl, ?_⟩
  rw [opening, Points.isWhole_append, Points.isWhole_ofString, titled, Bool.and_self]

/-- A session whose program can be read begins with a game about to be played. -/
theorem session_of_read (opens : openingFault? settings rom = none)
    (read : Rom.read first.files rom = .ok program)
    (ticks : source.fault? settings.timerHz.val = none)
    (loads : (Machine.initial settings.dialect).reset.load program = .ok start) :
    ∃ log, (session settings rom random files (first :: rest) source).shown =
      (rounds random (opening settings rom start log) (first :: rest)).shown := by
  have placed := Rom.load_reset_of_read read (Machine.initial settings.dialect)
  rw [Machine.reset_eq] at placed loads
  obtain rfl := Except.ok.inj (placed.symm.trans loads)
  obtain ⟨log, loaded⟩ : ∃ log, ((initial settings rom).queueTicks first).load first.files =
      ((opening settings rom { Machine.initial settings.dialect with
        memory := Memory.initial.place programStart program
        redraw := true } log).queueTicks first, .ok ()) :=
    load_initial_of_read read settings first
  refine ⟨log, ?_⟩
  cases changed : first.filesFault with
  | some fault => simp [session, opens, changed, rounds, Session.failed]
  | none =>
      exact (session_of_loaded opens changed loaded ticks rest).trans (shown_queueTicks _ _ _ _)

/-- A session that does not load its program again plays it, if its ticker has a rate that is
not refused.  After every frame that it shows, machine, keys and flags are those of the game:
as many steps as the settings ask for in each frame at which the pauses so far are even in
number and no step has met a fault, and none in the others.  A fault halts the machine for
ever, and only the queue of ticks grows from then on.  The frames shown are those up to the
first in which the window is closed, that one among them. -/
theorem session_plays (opens : openingFault? settings rom = none)
    (read : Rom.read first.files rom = .ok program)
    (ticks : source.fault? settings.timerHz.val = none)
    (kept : ∀ frame ∈ first :: rest, .reload ∉ frame.events)
    (random : Nat → Int) (files : Files) :
    ∃ start, (Machine.initial settings.dialect).reset.load program = .ok start ∧
      let frames := first :: rest
      let shown := (session settings rom random files frames source).shown
      (∀ number seen, shown[number]? = some seen →
        InPlay settings
          ((Play.opening start).frames settings random (frames.take (number + 1))) seen.window) ∧
      (∀ number later (earlier latest : Shown), number ≤ later →
        shown[number]? = some earlier → shown[later]? = some latest →
        earlier.window.halted = true →
          latest.window.halted = true ∧
          latest.window.machine = earlier.window.machine.queueTicks
            (((frames.take (later + 1)).drop (number + 1)).flatMap Frame.ticks)) ∧
      shown.length = (goneThrough frames).length := by
  have loads := Rom.load_reset_of_read read (Machine.initial settings.dialect)
  refine ⟨_, loads, ?_⟩
  generalize { (Machine.initial settings.dialect).reset with
    memory := Memory.initial.place programStart program } = start at loads ⊢
  intro frames shown
  obtain ⟨log, same⟩ : ∃ log, shown = _ := session_of_read opens read ticks loads
  have opened := inPlay_opening opens start log
  have follows : ∀ number seen, shown[number]? = some seen →
      InPlay settings
        ((Play.opening start).frames settings random (frames.take (number + 1))) seen.window := by
    intro number seen shows
    rw [same] at shows
    exact opened.shown kept shows
  refine ⟨follows, ?_, ?_⟩
  · intro number later earlier latest ordered here there halted
    obtain ⟨fault, stopped⟩ : ∃ fault,
        ((Play.opening start).frames settings random (frames.take (number + 1))).fault? =
          some fault := by
      rw [← Option.isSome_iff_exists, ← (follows number earlier here).halted_eq]
      exact halted
    obtain ⟨still, queued⟩ := Play.frames_take_of_fault (Nat.succ_le_succ ordered) stopped
    have after := follows later latest there
    refine ⟨by rw [after.halted_eq, still]; rfl, ?_⟩
    rw [after.machine_eq, queued, (follows number earlier here).machine_eq]
  · rw [same]
    exact opened.length_shown rfl kept random

end Session

/-- A frame in which nothing happens, and the game returns from a call that there
was not. -/
def stray : Frame :=
  { calm with files := ⟨fun _ => .ok [0x00, 0xEE], fun _ => .ok []⟩ }

/-- A frame in which a tick comes, a pause is asked for and the window is closed. -/
def farewell : Frame :=
  { stray with events := [.pause, .escape], ticks := [1] }

/-- The game meets its fault in the first frame, whatever the clock makes of the keys. -/
theorem fault?_stray {start : Machine} (faces : start.hazard? = some .stackUnderflow)
    (random : Nat → Int) :
    ((Play.opening start).frames slow random [stray]).fault? = some .stackUnderflow := by
  have once : slow.cyclesPerFrame = 1 := by decide
  obtain ⟨keypad, lastInput, looks⟩ :=
    Play.look_eq slow (((Play.opening start).queueTicks stray.ticks).heed stray.events) stray
  have alone : (Play.opening start).frames slow random [stray] =
      (Play.opening start).frame slow random stray := rfl
  have unpaused : ((((Play.opening start).queueTicks stray.ticks).heed stray.events).look
      slow stray).pauses % 2 = 0 := by
    rw [looks]
    rfl
  rw [alone, Play.frame, Play.advance, if_pos unpaused, once, Play.passes_succ, looks]
  exact (Machine.faultOf?_step _ _).trans faces

theorem session_plays_stray : ∃ first second,
    (session slow game (fun _ => 0) stray.files [stray, farewell, stray] .ticker).shown =
      [first, second] ∧
    first.window.halted = true ∧ second.window.halted = true ∧ second.window.paused = true ∧
    second.window.machine = first.window.machine.queueTicks [1] := by
  have opens : openingFault? slow game = none := by decide +kernel
  have read : Rom.read stray.files game = .ok [0x00, 0xEE] := by
    simp [Rom.read, stray, programLimit, memorySize, programStart]
  have ticks : TickSource.ticker.fault? slow.timerHz.val = none := by decide +kernel
  have kept : ∀ frame ∈ [stray, farewell, stray], .reload ∉ frame.events := by
    simp [stray, farewell, calm]
  obtain ⟨start, loads, follows, lasts, count⟩ :=
    session_plays opens read ticks kept (fun _ => 0) stray.files
  have placed := Rom.load_reset_of_read read (Machine.initial slow.dialect)
  have faces : start.hazard? = some .stackUnderflow := by
    rw [← Except.ok.inj (placed.symm.trans loads), Machine.reset_eq]
    decide +kernel
  obtain ⟨first, second, shown⟩ := List.length_eq_two.mp count
  rw [shown] at follows lasts
  have halted : first.window.halted = true := by
    rw [(follows 0 first rfl).halted_eq]
    exact congrArg Option.isSome (fault?_stray faces fun _ => 0)
  obtain ⟨still, queued⟩ := lasts 0 1 first second (Nat.zero_le 1) rfl rfl halted
  refine ⟨first, second, shown, halted, still, ?_, queued⟩
  rw [(follows 1 second rfl).paused_eq, Play.pauses_frames]
  rfl

end Window
end Chip8
