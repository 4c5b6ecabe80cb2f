import Chip8.Proofs.Reload
import Chip8.Window

/-!
The rounds of a window, said once: what loading the program can come to, and what
holds of every round shown if each round keeps it.
-/

namespace Chip8

namespace Rom

variable {files : Files} {path : Path} {program : List UInt8}

theorem length_le_of_read (h : read files path = .ok program) :
    program.length ≤ programLimit := by
  unfold read at h
  split at h
  next => split at h <;> cases h
  next bytes _ =>
    split at h
    next => cases h
    next fits =>
      obtain rfl := Except.ok.inj h
      exact Nat.le_of_not_lt fits

/-- What is read from a file fits in memory. -/
theorem load_of_read (h : read files path = .ok program) (memory : Memory) :
    memory.load program programStart = .ok (memory.place programStart program) := by
  have inside := (programStart_add_le_iff _).mpr (length_le_of_read h)
  rw [Memory.load, if_neg (Nat.not_lt.mpr inside)]

/-- What is read from a file can be loaded into a machine that has been reset. -/
theorem load_reset_of_read (h : read files path = .ok program) (machine : Machine) :
    machine.reset.load program =
      .ok { machine.reset with memory := Memory.initial.place programStart program } := by
  have emptied : machine.reset.memory = Memory.initial := by rw [Machine.reset_eq]
  apply Machine.load_of_ok
  rw [emptied, load_of_read h]

end Rom

namespace Window

variable {files : Files} {window : Window} {random : Nat → Int}

/-- A program file that cannot be read leaves the machine reset, and all the rest of
the window as it was. -/
theorem load_of_unread {failure : Failure} (h : Rom.read files window.rom = .error failure) :
    ∃ log, window.load files =
      ({ window with machine := window.machine.reset, log }, .error failure) := by
  simp only [load, h, note]
  exact ⟨_, rfl⟩

/-- A program file that can be read can be loaded. -/
theorem load_of_read {program : List UInt8} (h : Rom.read files window.rom = .ok program) :
    ∃ log, window.load files =
      ({ window with
          machine := { window.machine.reset with
            memory := Memory.initial.place programStart program }
          halted := false
          redraw := true
          status := "Loaded: " ++ window.rom.stem
          log }, .ok ()) := by
  simp only [load, h, note, Rom.load_reset_of_read h]
  exact ⟨_, rfl⟩

/-- A reload that fails with a message halts the machine and asks for no new picture. -/
theorem handle_reload_of_unread {failure : Failure} {message : Points}
    (h : Rom.read files window.rom = .error failure) (told : failure.report = .ok message) :
    ∃ log, window.handle files .reload =
      ({ window with
          machine := window.machine.reset
          halted := true
          status := "Reload failed: " ++ message
          log }, .ok ()) := by
  obtain ⟨log, refused⟩ := load_of_unread h
  simp only [handle, refused, told, note]
  exact ⟨_, rfl⟩

/-- A reload that fails without a message breaks the events off. -/
theorem handle_reload_of_untold {failure : Failure} {cause : Breakdown}
    (h : Rom.read files window.rom = .error failure) (untold : failure.report = .error cause) :
    ∃ log, window.handle files .reload =
      ({ window with machine := window.machine.reset, log }, .error cause) := by
  obtain ⟨log, refused⟩ := load_of_unread h
  exact ⟨log, by simp only [handle, refused, untold]⟩

/-- What a reload can make of a window and the loop go on: it has failed with a message, or
the program is there. -/
inductive Reloaded (files : Files) (window : Window) : Window → Prop where
  | refused {failure : Failure} {message : Points} (log : Array Log.Entry)
      (read : Rom.read files window.rom = .error failure) (told : failure.report = .ok message) :
      Reloaded files window
        { window with
          machine := window.machine.reset
          halted := true
          status := "Reload failed: " ++ message
          log }
  | loaded {program : List UInt8} (log : Array Log.Entry)
      (read : Rom.read files window.rom = .ok program) :
      Reloaded files window
        { window with
          machine := { window.machine.reset with
            memory := Memory.initial.place programStart program }
          halted := false
          redraw := true
          status := "Loaded: " ++ window.rom.stem
          log }

theorem reloaded_of_handle {handled : Window}
    (h : window.handle files .reload = (handled, .ok ())) : Reloaded files window handled := by
  cases read : Rom.read files window.rom with
  | error failure =>
      cases told : failure.report with
      | error cause =>
          obtain ⟨log, broken⟩ := handle_reload_of_untold read told
          simp [broken] at h
      | ok message =>
          obtain ⟨log, refused⟩ := handle_reload_of_unread read told
          obtain ⟨rfl, _⟩ := Prod.mk.inj (refused.symm.trans h)
          exact .refused log read told
  | ok program =>
      obtain ⟨log, loads⟩ := load_of_read read
      rw [handle, loads] at h
      obtain ⟨rfl, _⟩ := Prod.mk.inj h
      exact .loaded log read

theorem handleAll_of_calm {frame : Frame} (calm : frame.events = []) (window : Window) :
    window.handleAll frame.files frame.events = (window, .ok ()) := by
  rw [calm, handleAll]

theorem handleAll_cons_of_ok {event : Event} {handled : Window}
    (h : window.handle files event = (handled, .ok ())) (rest : List Event) :
    window.handleAll files (event :: rest) = handled.handleAll files rest := by
  rw [handleAll, h]

/-- Events that are not broken off have been handled one by one. -/
theorem of_handleAll_cons {event : Event} {rest : List Event} {last : Window}
    (h : window.handleAll files (event :: rest) = (last, .ok ())) :
    ∃ handled, window.handle files event = (handled, .ok ()) ∧
      handled.handleAll files rest = (last, .ok ()) := by
  rw [handleAll] at h
  split at h
  next => simp at h
  next handled handles => exact ⟨handled, handles, h⟩

/-! One step of the machine under the window. -/

section Cycles

variable {during : Nat → List Nat} {number : Nat}

theorem runCycles_of_ok {moved : Machine} {snapshot : Snapshot}
    (h : (window.machine.queueTicks (during number)).step ⟨window.keypad.isHeld, random⟩ =
      (moved, .ok snapshot)) (remaining : Nat) :
    ∃ log, window.runCycles random during (remaining + 1) number =
      runCycles random during remaining (number + 1)
        { window with
          machine := moved
          redraw := window.redraw || snapshot.redraw
          soundOn := snapshot.soundOn
          log } := by
  simp only [runCycles, h, note]
  exact ⟨_, rfl⟩

theorem runCycles_of_error {kept : Machine} {fault : Fault}
    (h : (window.machine.queueTicks (during number)).step ⟨window.keypad.isHeld, random⟩ =
      (kept, .error fault)) (remaining : Nat) :
    ∃ log, window.runCycles random during (remaining + 1) number =
      { window with
        machine := kept
        status := "Halted: " ++ fault.message
        halted := true
        log } := by
  simp only [runCycles, h, note]
  exact ⟨_, rfl⟩

end Cycles

/-- A machine that does not stand still goes through the steps of a frame, whatever the
clock makes of the keys. -/
theorem advance_eq (random : Nat → Int) (frame : Frame) (seconds : Float) (window : Window) :
    ∃ keypad lastInput, window.advance random frame seconds =
      if window.paused || window.halted then { window with keypad, lastInput }
      else
        { window with keypad, lastInput }.runCycles random frame.during
          window.settings.cyclesPerFrame 0 := by
  unfold advance refreshInput
  split
  · exact ⟨_, _, rfl⟩
  · exact ⟨window.keypad, window.lastInput, rfl⟩

/-- A window that does not stand still goes through the steps of a frame. -/
theorem advance_of_going (going : (window.paused || window.halted) = false)
    (random : Nat → Int) (frame : Frame) (seconds : Float) :
    ∃ keypad lastInput, window.advance random frame seconds =
      { window with keypad, lastInput }.runCycles random frame.during
        window.settings.cyclesPerFrame 0 := by
  obtain ⟨keypad, lastInput, goes⟩ := advance_eq random frame seconds window
  rw [if_neg (ne_true_of_eq_false going)] at goes
  exact ⟨keypad, lastInput, goes⟩

/-- A round that is shown has gone through all its parts. -/
theorem round_of_ok {frame : Frame} {after : Window} {shown : Shown}
    (h : window.round random frame = (after, .ok shown)) :
    ∃ handled seconds, window.handleAll frame.files frame.events = (handled, .ok ()) ∧
      frame.seconds = some seconds ∧
      after = (handled.advance random frame seconds).render ∧ shown.window = after := by
  unfold round at h
  split at h
  next => cases h
  next handled handles =>
    split at h
    next => cases h
    next seconds timed =>
      dsimp only at h
      split at h
      next =>
        obtain ⟨rfl, made⟩ := Prod.mk.inj h
        obtain rfl := Except.ok.inj made
        exact ⟨handled, seconds, handles, timed, rfl, rfl⟩
      next => cases h

/-- A round is shown unless its status has no bytes to be drawn from. -/
theorem round_of_whole {frame : Frame} {seconds : Float} {handled advanced : Window}
    (handles : window.handleAll frame.files frame.events = (handled, .ok ()))
    (timed : frame.seconds = some seconds)
    (goes : handled.advance random frame seconds = advanced)
    (whole : advanced.status.isWhole = true) :
    ∃ shown, window.round random frame = (shown.window, .ok shown) ∧
      shown.window = advanced.render := by
  subst goes
  rw [round, handles, timed]
  dsimp only
  rw [if_pos whole]
  exact ⟨⟨_, _, _⟩, rfl, rfl⟩

/-- A reload that fails and nothing else: the machine is reset and halted, and the rest
of the window is kept but for the keys. -/
theorem round_of_failed_reload {frame : Frame} {seconds : Float} {failure : Failure}
    {message : Points} (timed : frame.seconds = some seconds) (asked : frame.events = [.reload])
    (unread : Rom.read frame.files window.rom = .error failure)
    (told : failure.report = .ok message)
    (whole : (("Reload failed: " : Points) ++ message).isWhole = true) (random : Nat → Int) :
    ∃ shown keypad lastInput log, window.round random frame = (shown.window, .ok shown) ∧
      shown.window = render
        { window with
          machine := window.machine.reset
          halted := true
          status := "Reload failed: " ++ message
          keypad, lastInput, log } := by
  obtain ⟨log, refused⟩ := handle_reload_of_unread unread told
  have handles : window.handleAll frame.files frame.events = _ :=
    (congrArg (window.handleAll frame.files) asked).trans (handleAll_cons_of_ok refused [])
  obtain ⟨keypad, lastInput, advances⟩ := advance_eq random frame seconds
    { window with
      machine := window.machine.reset
      halted := true
      status := "Reload failed: " ++ message
      log }
  have stands := advances.trans (if_pos (Bool.or_true _))
  obtain ⟨shown, shows, same⟩ := round_of_whole handles timed stands whole
  exact ⟨shown, keypad, lastInput, log, shows, same⟩

theorem rounds_of_ok {frame : Frame} {after : Window} {shown : Shown}
    (changed : frame.filesFault = none)
    (goes : (window.queueTicks frame).round random frame = (after, .ok shown))
    (runs : after.running = true) (rest : List Frame) :
    (rounds random window (frame :: rest)).shown = shown :: (rounds random after rest).shown := by
  simp only [rounds, changed, goes, runs, if_true]

/-- What holds of a window before its rounds and is kept by each of them holds at the
end of every round shown, where the screen has just been shown.  It may speak of the
frames up to there. -/
theorem rounds_invariant {Holds : List Frame → Window → Prop}
    (keeps : ∀ past frame window handled seconds,
      (window.queueTicks frame).handleAll frame.files frame.events = (handled, .ok ()) →
      frame.seconds = some seconds → Holds past window →
      Holds (past ++ [frame]) (handled.advance random frame seconds).render)
    {frames : List Frame} (start : Holds [] window) {number : Nat} {shown : Shown}
    (h : (rounds random window frames).shown[number]? = some shown) :
    (∃ advanced : Window, shown.window = advanced.render) ∧
      Holds (frames.take (number + 1)) shown.window := by
  induction frames generalizing window number Holds with
  | nil => simp [rounds] at h
  | cons frame rest ih =>
      unfold rounds at h
      split at h
      next => simp at h
      next =>
        split at h
        next => simp at h
        next after first goes =>
          obtain ⟨handled, seconds, handles, timed, rfl, same⟩ := round_of_ok goes
          have one := keeps [] frame window handled seconds handles timed start
          cases number with
          | zero =>
              have here : first = shown := by split at h <;> simpa using h
              subst here
              rw [same]
              exact ⟨⟨_, rfl⟩, one⟩
          | succ number =>
              split at h
              next =>
                -- The rounds that remain start from what holds after this frame.
                exact ih (fun past => keeps (frame :: past)) one (by simpa using h)
              next => simp at h

/-- The ticks of a first frame may as well come before its round. -/
theorem shown_queueTicks (random : Nat → Int) (window : Window) (first : Frame)
    (rest : List Frame) :
    (rounds random (window.queueTicks first) ({ first with ticks := [] } :: rest)).shown =
      (rounds random window (first :: rest)).shown := by
  have once : (window.queueTicks first).queueTicks { first with ticks := [] } =
      window.queueTicks first := by
    simp [Window.queueTicks, Machine.queueTicks]
  rw [rounds, rounds, once]
  cases changed : first.filesFault <;> rfl

/-- A window whose program has just been loaded for the first time. -/
def JustLoaded (settings : Settings) (rom : Path) (window : Window) : Prop :=
  ∃ memory ticks log, window =
    { initial settings rom with
      machine := { Machine.initial settings.dialect with memory, ticks, redraw := true }
      status := "Loaded: " ++ rom.stem
      log }

/-- A program that can be read is there when a window has been opened for it. -/
theorem load_initial_of_read {rom : Path} {program : List UInt8}
    (read : Rom.read files rom = .ok program) (settings : Settings) (first : Frame) :
    ∃ log, ((initial settings rom).queueTicks first).load files =
      ({ initial settings rom with
          machine := { Machine.initial settings.dialect with
            memory := Memory.initial.place programStart program
            ticks := first.ticks
            redraw := true }
          status := "Loaded: " ++ rom.stem
          log }, .ok ()) := by
  have named : Rom.read files ((initial settings rom).queueTicks first).rom = .ok program := read
  obtain ⟨log, loads⟩ := load_of_read named
  rw [Machine.reset_eq] at loads
  exact ⟨log, loads⟩

theorem justLoaded_load {settings : Settings} {rom : Path} {first : Frame} {loaded : Window}
    (h : ((initial settings rom).queueTicks first).load files = (loaded, .ok ())) :
    JustLoaded settings rom loaded := by
  cases read : Rom.read files rom with
  | error failure =>
      have unread : Rom.read files ((initial settings rom).queueTicks first).rom =
          .error failure := read
      obtain ⟨log, refused⟩ := load_of_unread unread
      rw [refused] at h
      cases h
  | ok program =>
      obtain ⟨log, loads⟩ := load_initial_of_read read settings first
      rw [loads] at h
      obtain ⟨rfl, _⟩ := Prod.mk.inj h
      exact ⟨_, first.ticks, log, rfl⟩

/-- A ticker of a positive rate is refused just if the rate is past every number. -/
theorem TickSource.fault?_ticker {hz : Nat} (positive : 0 < hz) :
    TickSource.ticker.fault? hz =
      if Binary64.isTooLarge hz then some .numberTooLarge else none := by
  have low : (Rate.whole hz).isTooLow = false := by simp [Rate.isTooLow, Nat.ne_of_gt positive]
  have high : (Rate.whole hz).isTooHigh = Binary64.isTooLarge hz := rfl
  rw [fault?, Ticker.ofRate, low, high, if_neg Bool.false_ne_true]
  cases Binary64.isTooLarge hz <;> rfl

section Session

variable {settings : Settings} {rom : Path} {first : Frame} {rest : List Frame} {loaded : Window}
  {source : TickSource}

theorem session_of_loaded (opens : openingFault? settings rom = none)
    (changed : first.filesFault = none)
    (loads : ((initial settings rom).queueTicks first).load first.files = (loaded, .ok ()))
    (ticks : source.fault? settings.timerHz.val = none) (rest : List Frame) :
    (session settings rom random files (first :: rest) source).shown =
      (rounds random loaded ({ first with ticks := [] } :: rest)).shown := by
  have made : source.fault? ((initial settings rom).queueTicks first).settings.timerHz.val = none :=
    ticks
  simp only [session, opens, changed, loadAndRun, loads, made]

/-- A session whose ticker is refused ends when the program has been loaded, before the first
round. -/
theorem session_of_refused (opens : openingFault? settings rom = none)
    (changed : first.filesFault = none)
    (loads : ((initial settings rom).queueTicks first).load first.files = (loaded, .ok ()))
    {cause : Breakdown} (refused : source.fault? settings.timerHz.val = some cause)
    (rest : List Frame) :
    session settings rom random files (first :: rest) source =
      .failed (.breakdown cause) loaded.log := by
  have unmade :
      source.fault? ((initial settings rom).queueTicks first).settings.timerHz.val = some cause :=
    refused
  simp only [session, opens, changed, loadAndRun, loads, unmade]

/-- It makes no difference to a reload whether ticks come before it or after it. -/
theorem load_queueTicks (window : Window) (frame : Frame) (files : Files) :
    (window.queueTicks frame).load files =
      ((window.load files).1.queueTicks frame, (window.load files).2) := by
  cases read : Rom.read files window.rom with
  | error failure =>
      simp only [load, read, note, queueTicks, Machine.queueTicks, Machine.reset]
  | ok program =>
      have same : (window.queueTicks frame).rom = window.rom := rfl
      simp only [load, same, read, note, Rom.load_reset_of_read read]
      simp only [queueTicks, Machine.queueTicks, Machine.reset]

theorem shown_session_nil (settings : Settings) (rom : Path) (random : Nat → Int) (files : Files)
    (source : TickSource) : (session settings rom random files [] source).shown = [] := by
  unfold session loadAndRun
  cases openingFault? settings rom with
  | some cause => rfl
  | none =>
      dsimp only
      split
      · rfl
      · split <;> rfl

/-- A session that shows anything has loaded its program, has its ticker and goes through the
rounds. -/
theorem loaded_of_shown {number : Nat} {shown : Shown}
    (h : (session settings rom random files (first :: rest) source).shown[number]? = some shown) :
    ∃ loaded, ((initial settings rom).queueTicks first).load first.files = (loaded, .ok ()) ∧
      source.fault? settings.timerHz.val = none ∧
      (rounds random loaded ({ first with ticks := [] } :: rest)).shown[number]? = some shown := by
  unfold session at h
  dsimp only at h
  split at h
  next => simp [Session.failed] at h
  next started => cases started
  next first rest _ started =>
    obtain ⟨rfl, rfl⟩ := List.cons.inj started
    split at h
    next => simp [Session.failed] at h
    next =>
      unfold loadAndRun at h
      split at h
      next => simp [Session.failed] at h
      next loaded loads =>
        split at h
        next => simp [Session.failed] at h
        next ticks => exact ⟨loaded, loads, ticks, h⟩

/-- The rounds of a session are those of a window into which the program has been loaded
before any ticks came. -/
theorem session_of_shown {number : Nat} {shown : Shown}
    (h : (session settings rom random files (first :: rest) source).shown[number]? = some shown) :
    (rounds random ((initial settings rom).load first.files).1 (first :: rest)).shown[number]? =
      some shown := by
  obtain ⟨loaded, loads, _, shows⟩ := loaded_of_shown h
  rw [load_queueTicks] at loads
  rwa [← shown_queueTicks, (Prod.mk.inj loads).1]

/-- What holds of a window just loaded and is kept by each round holds at the end of
every round that a session shows.  The ticks of the first frame have come before the
program is loaded, and so before the first round. -/
theorem session_invariant {Holds : List Frame → Window → Prop}
    (keeps : ∀ past frame window handled seconds,
      (window.queueTicks frame).handleAll frame.files frame.events = (handled, .ok ()) →
      frame.seconds = some seconds → Holds past window →
      Holds (past ++ [frame]) (handled.advance random frame seconds).render)
    (start : ∀ window, JustLoaded settings rom window → Holds [] window)
    {frames : List Frame} {number : Nat} {shown : Shown}
    (h : (session settings rom random files frames source).shown[number]? = some shown) :
    (∃ advanced : Window, shown.window = advanced.render) ∧
      Holds ((frames.modifyHead fun first => { first with ticks := [] }).take (number + 1))
        shown.window := by
  cases frames with
  | nil =>
      rw [shown_session_nil] at h
      cases h
  | cons first rest =>
      obtain ⟨loaded, loads, _, shows⟩ := loaded_of_shown h
      exact rounds_invariant keeps (start loaded (justLoaded_load loads)) shows

end Session

end Window
end Chip8
