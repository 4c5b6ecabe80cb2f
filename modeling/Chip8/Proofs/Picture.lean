import Chip8.Proofs.Rounds

/-!
The picture in the window.  A picture is made anew only when something has asked for
it, so all that changes the screen has to ask.  Instructions do, and so does a reload
that succeeds.  A reload that fails has reset the machine by then and does not ask:
the window may go on showing the screen as it was before.
-/

namespace Chip8

namespace Machine

/-- An instruction that changes the screen asks for a new picture. -/
theorem perform_screen (around : Surroundings) (machine : Machine) (instruction : Instruction) :
    (machine.perform around instruction).1.redraw = true ∨
      (machine.perform around instruction).1.screen = machine.screen := by
  rw [perform.eq_def]
  cases instruction <;> dsimp only <;> (try split) <;> simp

theorem serveWait_screen (held : Key → Bool) (machine : Machine) :
    (machine.serveWait held).screen = machine.screen := by
  unfold serveWait
  dsimp only
  split <;> rfl

/-- A step that changes the screen asks for a new picture. -/
theorem screen_of_step_ok {around : Surroundings} {machine after : Machine} {snapshot : Snapshot}
    (h : machine.step around = (after, .ok snapshot)) :
    snapshot.redraw = true ∨ after.screen = machine.screen := by
  have way := step_case around machine
  rw [h] at way
  cases way with
  | served waiting served goes =>
      right
      rw [goes]
      exact serveWait_screen around.held _
  | obeyed idle word instruction performed flow moved fetched decoded performs goes =>
      have asks := perform_screen around { machine with redraw := false } instruction
      rw [performs] at asks
      rw [goes]
      exact asks

theorem perform_draw {machine : Machine} {x y : Register} {height : Fin 16} {sprite : Sprite}
    (h : machine.memory.readBlock machine.registers.index.toNat height.val = .ok sprite)
    (around : Surroundings) :
    ∃ registers, machine.perform around (.draw x y height) =
      ({ machine with
          registers
          screen := (machine.screen.draw machine.dialect.clipSprites
            (machine.registers.get x).toNat (machine.registers.get y).toNat sprite).1
          redraw := true }, .ok .advance) := by
  rw [perform.eq_def]
  dsimp only
  rw [h]
  exact ⟨_, rfl⟩

/-- A machine about to draw the top row of a glyph. -/
def drawing : Machine :=
  { initial {} with
    memory := Memory.initial.place programStart [0xD0, 0x01]
    redraw := true }

theorem step_drawing (ticks : List Nat) (around : Surroundings) :
    ∃ moved snapshot, (drawing.queueTicks ticks).step around = (moved, .ok snapshot) ∧
      moved.screen ≠ .blank := by
  have fetched : { drawing.queueTicks ticks with redraw := false }.currentWord = .ok 0xD001 := by
    rw [currentWord, Memory.readWord_natCast]
    simp [drawing, queueTicks, initial, Registers.initial, Memory.byte_place, programStart,
      memorySize]
  have glyph : drawing.memory.byte 0 = 0xF0 := by
    simp [drawing, Memory.initial, Memory.byte_place, programStart, memorySize, glyphs]
  have row :
      { drawing.queueTicks ticks with redraw := false }.memory.readBlock (0 : Nat) (1 : Nat) =
        .ok [0xF0] := by
    rw [Memory.readBlock_natCast]
    simp [Memory.slice, queueTicks, glyph, memorySize]
  obtain ⟨registers, draws⟩ : ∃ registers,
      { drawing.queueTicks ticks with redraw := false }.perform around (.draw 0 0 1) = _ :=
    perform_draw row around
  have carried : { drawing.queueTicks ticks with redraw := false }.executeCurrent around = _ :=
    (executeCurrent_of_decode fetched rfl).trans draws
  have rests : (drawing.queueTicks ticks).wait = .idle := rfl
  have lit : (Screen.draw (.blank : Bitmap) false 0 0 [0xF0]).1 ≠ .blank := by decide +kernel
  exact ⟨_, _, step_of_flow rests carried, lit⟩

end Machine

namespace Window

/-- The picture kept is that of the screen as it is. -/
def UpToDate (window : Window) : Prop :=
  window.shown = some window.machine.screen

/-- Whatever is made of the screen alone, made anew it would be the same. -/
theorem map_shown_of_upToDate {window : Window} (h : window.UpToDate) {Image : Type}
    (renderer : Bitmap → Image) :
    window.shown.map renderer = some (renderer window.machine.screen) := by
  rw [h, Option.map_some]

/-- Whether the latest reload has failed after some events, if it had or had not
before them. -/
def reloadFails (files : Files) (rom : Path) (before : Bool) (events : List Event) : Bool :=
  if .reload ∈ events then !(Rom.read files rom).isOk else before

/-- Whether the latest reload failed, of those that the frames ask for. -/
def latestReloadFails (rom : Path) (frames : List Frame) : Bool :=
  frames.foldl (fun before frame => reloadFails frame.files rom before frame.events) false

theorem reloadFails_cons (files : Files) (rom : Path) (before : Bool) (event : Event)
    (rest : List Event) :
    reloadFails files rom before (event :: rest) =
      reloadFails files rom (reloadFails files rom before [event]) rest := by
  unfold reloadFails
  by_cases here : .reload = event <;> simp [here]

theorem latestReloadFails_append (rom : Path) (past : List Frame) (frame : Frame) :
    latestReloadFails rom (past ++ [frame]) =
      reloadFails frame.files rom (latestReloadFails rom past) frame.events := by
  rw [latestReloadFails, List.foldl_append]
  rfl

/-- A window whose picture is that of the screen, or due to be made anew, if the latest
reload has not failed; if it has, the machine stands still with a dark screen. -/
structure Tracked (rom : Path) (failed : Bool) (window : Window) : Prop where
  rom_eq : window.rom = rom
  due : failed = false → window.mustRender = true ∨ window.UpToDate
  stopped : failed = true → window.halted = true ∧ window.machine.screen = .blank

section Tracking

variable {rom : Path} {failed : Bool} {window : Window}

/-- Nothing else of a window has a part in it. -/
theorem Tracked.of_same {other : Window} (h : Tracked rom failed window)
    (rom_same : other.rom = window.rom) (redraw_same : other.redraw = window.redraw)
    (shown_same : other.shown = window.shown) (halted_same : other.halted = window.halted)
    (screen_same : other.machine.screen = window.machine.screen) : Tracked rom failed other where
  rom_eq := rom_same.trans h.rom_eq
  due := by
    rw [mustRender, UpToDate, redraw_same, shown_same, screen_same]
    exact h.due
  stopped := by
    rw [halted_same, screen_same]
    exact h.stopped

theorem Tracked.queueTicks (h : Tracked rom failed window) (frame : Frame) :
    Tracked rom failed (window.queueTicks frame) :=
  h.of_same rfl rfl rfl rfl rfl

theorem Tracked.handle (h : Tracked rom failed window) {files : Files} {event : Event}
    {handled : Window} (handles : window.handle files event = (handled, .ok ())) :
    Tracked rom (reloadFails files rom failed [event]) handled := by
  cases event with
  | reload =>
      have asked : reloadFails files rom failed [.reload] = !(Rom.read files window.rom).isOk := by
        simp [reloadFails, h.rom_eq]
      rw [asked]
      cases reloaded_of_handle handles with
      | refused log read told =>
          rw [read]
          refine ⟨h.rom_eq, fun fine => ?_, fun _ => ⟨rfl, by simp only [Machine.reset_eq]⟩⟩
          cases fine
      | loaded log read =>
          rw [read]
          refine ⟨h.rom_eq, fun _ => .inl rfl, fun fails => ?_⟩
          cases fails
  | close | escape | pause | debug | other =>
      obtain ⟨rfl, _⟩ := Prod.mk.inj handles
      exact h.of_same rfl rfl rfl rfl rfl

theorem Tracked.handleAll (h : Tracked rom failed window) {files : Files} {events : List Event}
    {handled : Window} (handles : window.handleAll files events = (handled, .ok ())) :
    Tracked rom (reloadFails files rom failed events) handled := by
  induction events generalizing failed window with
  | nil =>
      obtain ⟨rfl, _⟩ := Prod.mk.inj handles
      exact h
  | cons event rest ih =>
      obtain ⟨next, first, later⟩ := of_handleAll_cons handles
      rw [reloadFails_cons]
      exact ih (h.handle first) later

theorem Tracked.runCycles (h : Tracked rom false window) (random : Nat → Int)
    (during : Nat → List Nat) (remaining number : Nat) :
    Tracked rom false (window.runCycles random during remaining number) := by
  induction remaining generalizing window number with
  | zero => exact h
  | succ remaining ih =>
      match steps : (window.machine.queueTicks (during number)).step
          ⟨window.keypad.isHeld, random⟩ with
      | (kept, .error fault) =>
          obtain ⟨log, halts⟩ := runCycles_of_error steps remaining
          obtain rfl := Machine.eq_of_step_error steps
          rw [halts]
          exact ⟨h.rom_eq, fun _ => h.due rfl, Bool.noConfusion⟩
      | (moved, .ok snapshot) =>
          obtain ⟨log, goes⟩ := runCycles_of_ok steps remaining
          rw [goes]
          apply ih
          refine ⟨h.rom_eq, fun _ => ?_, Bool.noConfusion⟩
          -- A picture that was due before the step is still due after it.
          rcases h.due rfl with due | fine
          · left
            simp only [mustRender, Bool.or_eq_true] at due ⊢
            exact due.imp_left .inl
          · rcases Machine.screen_of_step_ok steps with asked | same
            · left
              simp [mustRender, asked]
            · exact .inr (fine.trans (congrArg some same.symm))

theorem Tracked.advance (h : Tracked rom failed window) (random : Nat → Int) (frame : Frame)
    (seconds : Float) : Tracked rom failed (window.advance random frame seconds) := by
  obtain ⟨keypad, lastInput, goes⟩ := window.advance_eq random frame seconds
  have refreshed : Tracked rom failed { window with keypad, lastInput } :=
    h.of_same rfl rfl rfl rfl rfl
  rw [goes]
  split
  next => exact refreshed
  next going =>
    cases failed with
    | false => exact refreshed.runCycles random frame.during _ 0
    | true =>
        -- A failed reload has halted the machine, so it takes no step.
        rw [(h.stopped rfl).1, Bool.or_true] at going
        exact absurd rfl going

theorem mustRender_render (window : Window) : window.render.mustRender = false := by
  cases asked : window.redraw <;> cases shown : window.shown <;>
    simp [Window.render, mustRender, asked, shown]

theorem Tracked.render (h : Tracked rom failed window) : Tracked rom failed window.render where
  rom_eq := h.rom_eq
  due fine := by
    right
    unfold UpToDate Window.render
    dsimp only
    split
    next => rfl
    next kept => exact (h.due fine).resolve_left kept
  stopped := h.stopped

theorem tracked_of_justLoaded {settings : Settings} (h : JustLoaded settings rom window) :
    Tracked rom false window := by
  obtain ⟨memory, ticks, log, rfl⟩ := h
  exact ⟨rfl, fun _ => .inl rfl, Bool.noConfusion⟩

end Tracking

theorem runCycles_drawing (window : Window) (draws : window.machine = Machine.drawing)
    (random : Nat → Int) (during : Nat → List Nat) :
    ∃ moved redraw soundOn log, moved.screen ≠ .blank ∧
      window.runCycles random during 1 0 =
        { window with machine := moved, redraw := window.redraw || redraw, soundOn, log } := by
  obtain ⟨moved, snapshot, steps, lit⟩ :=
    Machine.step_drawing (during 0) ⟨window.keypad.isHeld, random⟩
  rw [← draws] at steps
  obtain ⟨log, runs⟩ := runCycles_of_ok steps 0
  exact ⟨moved, snapshot.redraw, snapshot.soundOn, log, lit, runs⟩

theorem round_drawing {window : Window} {frame : Frame} {seconds : Float}
    (timed : frame.seconds = some seconds) (calm : frame.events = [])
    (draws : window.machine = Machine.drawing) (once : window.settings.cyclesPerFrame = 1)
    (going : (window.paused || window.halted) = false) (asked : window.redraw = true)
    (whole : window.status.isWhole = true) (random : Nat → Int) :
    ∃ shown, window.round random frame = (shown.window, .ok shown) ∧
      shown.window.running = window.running ∧ shown.window.rom = window.rom ∧
      shown.window.mustRender = false ∧ shown.window.shown ≠ some .blank := by
  obtain ⟨keypad, lastInput, goes⟩ := advance_of_going going random frame seconds
  obtain ⟨moved, redraw, soundOn, log, lit, runs⟩ :=
    runCycles_drawing { window with keypad, lastInput } draws random frame.during
  rw [once, runs] at goes
  obtain ⟨shown, shows, same⟩ := round_of_whole (handleAll_of_calm calm window) timed goes whole
  refine ⟨shown, shows, ?_⟩
  rw [same]
  refine ⟨rfl, rfl, mustRender_render _, ?_⟩
  simpa only [Window.render, mustRender, asked, Bool.true_or, if_true, ne_eq, Option.some.injEq]
    using lit

/-- Settings with one step in a frame. -/
def slow : Settings := { Settings.standard with clockHz := Settings.standard.timerHz }

def game : Path := ⟨false, ["game.ch8"]⟩

/-- A frame in which nothing happens, and the game draws. -/
def calm : Frame where
  files := ⟨fun _ => .ok [0xD0, 0x01], fun _ => .ok []⟩
  seconds := some 0
  events := []
  pressed := []
  ticks := []

/-- A frame in which the game is gone and is to be loaded again. -/
def lost : Frame :=
  { calm with
    files := ⟨fun _ => .error .missing, fun _ => .ok []⟩
    events := [.reload] }

theorem read_lost (path : Path) : Rom.read lost.files path =
    .error (.fault (.programUnreadable path.text FileFault.missing.text)) := by
  simp [Rom.read, lost, FileFault.breakdown?]

/-- A session of two frames, in the second of which the game is gone. -/
theorem shown_then_lost {settings : Settings} {random : Nat → Int} {played : Frame}
    {loaded : Window} {first : Shown} {source : TickSource}
    (opens : openingFault? settings game = none) (changed : played.filesFault = none)
    (loads : ((initial settings game).queueTicks played).load played.files = (loaded, .ok ()))
    (ticks : source.fault? settings.timerHz.val = none)
    (plays : (loaded.queueTicks { played with ticks := [] }).round random
      { played with ticks := [] } = (first.window, .ok first))
    (runs : first.window.running = true) (same : first.window.rom = game) :
    ∃ second keypad lastInput log,
      (session settings game random played.files [played, lost] source).shown =
        [first, second] ∧
      second.window = render
        { first.window with
          machine := (first.window.queueTicks lost).machine.reset
          halted := true
          status := "Reload failed: " ++
            (Fault.programUnreadable game.text FileFault.missing.text).message
          keypad, lastInput, log } := by
  have gone : Rom.read lost.files (first.window.queueTicks lost).rom = _ :=
    (congrArg (Rom.read lost.files) same).trans (read_lost game)
  obtain ⟨second, keypad, lastInput, log, fails, stands⟩ :=
    round_of_failed_reload rfl rfl gone rfl (by decide +kernel) random
  have runsOn : second.window.running = true := by
    simpa only [stands, Window.render, Window.queueTicks] using runs
  have unticked : { played with ticks := [] }.filesFault = none := changed
  refine ⟨second, keypad, lastInput, log, ?_, stands⟩
  rw [session_of_loaded opens changed loads ticks, rounds_of_ok unticked plays runs,
    rounds_of_ok rfl fails runsOn]
  rfl

def gameLoaded (log : Array Log.Entry) : Window :=
  { initial slow game with
    machine := Machine.drawing
    status := "Loaded: " ++ game.stem
    log }

/-- A session of the game: it draws, and then it is gone and asked for again. -/
def lostGame : Session := session slow game (fun _ => 0) calm.files [calm, lost] .ticker

theorem shown_lostGame : ∃ first second, lostGame.shown = [first, second] ∧
    second.window.machine.screen = .blank ∧ second.window.shown ≠ some .blank := by
  have opens : openingFault? slow game = none := by decide +kernel
  have ticks : TickSource.ticker.fault? slow.timerHz.val = none := by decide +kernel
  have read : Rom.read calm.files game = .ok [0xD0, 0x01] := by
    simp [Rom.read, calm, programLimit, memorySize, programStart]
  have once : slow.cyclesPerFrame = 1 := by decide
  have whole : (("Loaded: " : Points) ++ game.stem).isWhole = true := by decide
  obtain ⟨log, loads⟩ : ∃ log, ((initial slow game).queueTicks calm).load calm.files =
      (gameLoaded log, .ok ()) := load_initial_of_read read slow calm
  obtain ⟨first, draws, runs, same, settled, lit⟩ : ∃ first,
      ((gameLoaded log).queueTicks calm).round (fun _ => 0) calm = (first.window, .ok first) ∧ _ :=
    round_drawing rfl rfl rfl once rfl rfl whole (fun _ => 0)
  obtain ⟨second, keypad, lastInput, log, shown, stands⟩ :=
    shown_then_lost opens rfl loads ticks draws runs same
  have dark : second.window.machine.screen = .blank := by
    simp only [stands, Window.render, Machine.reset_eq]
  -- Nothing has asked for a new picture, so the old one is kept.
  have kept : second.window.shown = first.window.shown := by
    rw [mustRender] at settled
    simp only [stands, Window.render, mustRender, settled, Bool.false_eq_true, if_false]
  exact ⟨first, second, shown, dark, kept ▸ lit⟩

/-- At the end of every round that a session shows, the picture is that of the screen
as it is, if the latest reload has not failed: whatever pure renderer makes pictures of
screens, the one kept is the one it makes now.  If it has failed, the machine stands still
with a dark screen. -/
theorem picture_of_session {settings : Settings} {rom : Path} {random : Nat → Int}
    {files : Files} {frames : List Frame} {source : TickSource} {number : Nat} {shown : Shown}
    (h : (session settings rom random files frames source).shown[number]? = some shown) :
    (latestReloadFails rom (frames.take (number + 1)) = false →
      shown.window.UpToDate ∧
      ∀ {Image : Type} (renderer : Bitmap → Image),
        shown.window.shown.map renderer = some (renderer shown.window.machine.screen)) ∧
    (latestReloadFails rom (frames.take (number + 1)) = true →
      shown.window.halted = true ∧ shown.window.machine.screen = .blank) := by
  have keeps : ∀ past frame window handled seconds,
      (window.queueTicks frame).handleAll frame.files frame.events = (handled, .ok ()) →
      frame.seconds = some seconds →
      Tracked rom (latestReloadFails rom past) window →
      Tracked rom (latestReloadFails rom (past ++ [frame]))
        (handled.advance random frame seconds).render := by
    intro past frame window handled seconds handles _ tracked
    rw [latestReloadFails_append]
    exact (((tracked.queueTicks frame).handleAll handles).advance random frame seconds).render
  obtain ⟨⟨advanced, rendered⟩, tracked⟩ :=
    session_invariant keeps (fun _ => tracked_of_justLoaded) h
  have asked : latestReloadFails rom
      ((frames.modifyHead fun first => { first with ticks := [] }).take (number + 1)) =
      latestReloadFails rom (frames.take (number + 1)) := by
    cases frames <;> rfl
  rw [asked] at tracked
  refine ⟨fun fine => ?_, tracked.stopped⟩
  have settled : ¬ shown.window.mustRender = true := by simp [rendered, mustRender_render]
  have current := (tracked.due fine).resolve_left settled
  exact ⟨current, map_shown_of_upToDate current⟩

theorem picture_of_session_lostGame : ∃ first second, lostGame.shown = [first, second] ∧
    first.window.UpToDate ∧
    second.window.halted = true ∧ second.window.machine.screen = .blank := by
  obtain ⟨first, second, shown, _⟩ := shown_lostGame
  have start : lostGame.shown[0]? = some first := by rw [shown]; rfl
  have later : lostGame.shown[1]? = some second := by rw [shown]; rfl
  have read : latestReloadFails game ([calm, lost].take 1) = false := by decide
  have unread : latestReloadFails game ([calm, lost].take 2) = true := by decide
  exact ⟨first, second, shown, ((picture_of_session start).1 read).1,
    (picture_of_session later).2 unread⟩

/-- The window may show a screen that is not there any more. -/
theorem picture_stale_lostGame :
    ∃ shown, lostGame.shown[1]? = some shown ∧ ¬ shown.window.UpToDate := by
  obtain ⟨first, second, shown, dark, kept⟩ := shown_lostGame
  refine ⟨second, by rw [shown]; rfl, ?_⟩
  rw [UpToDate, dark]
  exact kept

end Window
end Chip8
