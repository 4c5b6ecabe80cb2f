import Mathlib.Data.List.Induction
import Chip8.Proofs.Picture

/-!
The flag of the sound.  A window goes by what the last step to succeed has shown, and
nothing but a step moves the sound timer, a reload apart.  A reload puts the timer back to
zero and leaves the flag as it is: until the machine takes a step again, the window may
go on telling of a sound that is over.
-/

namespace Chip8

namespace Machine

/-- A step that succeeds shows whether the sound timer runs. -/
theorem soundOn_of_step {machine moved : Machine} {around : Surroundings} {snapshot : Snapshot}
    (h : machine.step around = (moved, .ok snapshot)) :
    snapshot.soundOn = true ↔ 0 < moved.registers.sound := by
  have shows := soundOn_of_ok (congrArg Prod.snd h)
  rw [h] at shows
  rw [shows, UInt8.lt_iff_toNat_lt]
  rfl

end Machine

namespace Window

/-- The flag of the sound tells whether the sound timer runs. -/
def TellsSound (window : Window) : Prop :=
  window.soundOn = true ↔ 0 < window.machine.registers.sound

/-- Whether the first step of a frame succeeds, if the frame takes one. -/
def startsWell (random : Nat → Int) (during : Nat → List Nat) (window : Window) : Bool :=
  !(window.paused || window.halted) &&
    ((window.machine.queueTicks (during 0)).step ⟨window.keypad.isHeld, random⟩).2.isOk

/-- The window with the ticks of a frame, when it has taken notice of the events. -/
def heeding (window : Window) (frame : Frame) : Window :=
  ((window.queueTicks frame).handleAll frame.files frame.events).1

/-- Whether a step succeeds in a frame.  The first that does not is the last. -/
def stepsIn (random : Nat → Int) (window : Window) (frame : Frame) : Bool :=
  match frame.seconds with
  | none => false
  | some seconds =>
      ((window.heeding frame).refreshInput frame.pressed seconds).startsWell random frame.during

def after (random : Nat → Int) (window : Window) (frame : Frame) : Window :=
  match frame.seconds with
  | none => window
  | some seconds => ((window.heeding frame).advance random frame seconds).render

/-- A window, and what has been heard of its machine. -/
structure Hearing where
  window : Window
  /-- The sound timer at the end of the last frame in which a step has succeeded. -/
  heard : UInt8
  /-- Whether a reload has been asked for and no step has succeeded since. -/
  reloaded : Bool

/-- Go on through a frame. -/
def Hearing.follow (random : Nat → Int) (hearing : Hearing) (frame : Frame) : Hearing :=
  let after := hearing.window.after random frame
  if hearing.window.stepsIn random frame then
    { window := after, heard := after.machine.registers.sound, reloaded := false }
  else
    { hearing with
      window := after
      reloaded := hearing.reloaded || decide (.reload ∈ frame.events) }

/-- What is heard of a machine in some frames. -/
def hear (random : Nat → Int) (window : Window) (frames : List Frame) : Hearing :=
  frames.foldl (Hearing.follow random) { window, heard := 0, reloaded := false }

theorem hear_append (random : Nat → Int) (window : Window) (past : List Frame) (frame : Frame) :
    hear random window (past ++ [frame]) = (hear random window past).follow random frame := by
  rw [hear, List.foldl_append]
  rfl

/-- Where no frame asks for a reload, none has been asked for. -/
theorem reloaded_hear_of_unasked (random : Nat → Int) (window : Window) {frames : List Frame}
    (unasked : ∀ frame ∈ frames, .reload ∉ frame.events) :
    (hear random window frames).reloaded = false := by
  induction frames using List.reverseRecOn with
  | nil => rfl
  | append_singleton past frame ih =>
      rw [List.forall_mem_append, List.forall_mem_singleton] at unasked
      rw [hear_append, Hearing.follow]
      split
      · rfl
      · simp [ih unasked.1, unasked.2]

/-- The flag is about the timer that was heard, and the timer still stands there unless
it has been put back to zero. -/
structure Tells (heard : UInt8) (reloaded : Bool) (window : Window) : Prop where
  flag : window.soundOn = true ↔ 0 < heard
  timer : window.machine.registers.sound = if reloaded then 0 else heard

section Telling

variable {heard : UInt8} {reloaded : Bool} {window : Window}

/-- Nothing else of a window has a part in it. -/
theorem Tells.of_same {other : Window} (h : Tells heard reloaded window)
    (flag_same : other.soundOn = window.soundOn)
    (timer_same : other.machine.registers.sound = window.machine.registers.sound) :
    Tells heard reloaded other where
  flag := by rw [flag_same]; exact h.flag
  timer := timer_same.trans h.timer

theorem Tells.tellsSound (h : Tells heard false window) : window.TellsSound := by
  have timer := h.timer
  rw [if_neg Bool.false_ne_true] at timer
  rw [TellsSound, timer]
  exact h.flag

theorem TellsSound.tells (h : window.TellsSound) :
    Tells window.machine.registers.sound false window :=
  ⟨h, rfl⟩

theorem Tells.queueTicks (h : Tells heard reloaded window) (frame : Frame) :
    Tells heard reloaded (window.queueTicks frame) :=
  h.of_same rfl rfl

/-- A reload puts the timer back to zero and leaves the flag alone, whether it succeeds
or not. -/
theorem Tells.handle (h : Tells heard reloaded window) {files : Files} {event : Event}
    {handled : Window} (handles : window.handle files event = (handled, .ok ())) :
    Tells heard (reloaded || decide (.reload = event)) handled := by
  cases event with
  | reload =>
      rw [decide_eq_true rfl, Bool.or_true]
      cases reloaded_of_handle handles <;>
        exact ⟨h.flag, by simp [Machine.reset_eq, Registers.initial]⟩
  | close | escape | pause | debug | other =>
      obtain ⟨rfl, _⟩ := Prod.mk.inj handles
      rw [decide_eq_false (by decide), Bool.or_false]
      exact h.of_same rfl rfl

theorem Tells.handleAll (h : Tells heard reloaded window) {files : Files} {events : List Event}
    {handled : Window} (handles : window.handleAll files events = (handled, .ok ())) :
    Tells heard (reloaded || decide (.reload ∈ events)) handled := by
  induction events generalizing reloaded window with
  | nil =>
      obtain ⟨rfl, _⟩ := Prod.mk.inj handles
      simpa using h
  | cons event rest ih =>
      obtain ⟨next, first, later⟩ := of_handleAll_cons handles
      simpa only [List.mem_cons, Bool.decide_or, Bool.or_assoc] using ih (h.handle first) later

/-- A step brings the flag up to date if it succeeds, and moves neither the flag nor the
timer if it does not. -/
theorem TellsSound.runCycles (h : window.TellsSound) (random : Nat → Int)
    (during : Nat → List Nat) (remaining number : Nat) :
    (window.runCycles random during remaining number).TellsSound := by
  induction remaining generalizing window number with
  | zero => exact h
  | succ remaining ih =>
      match steps : (window.machine.queueTicks (during number)).step
          ⟨window.keypad.isHeld, random⟩ with
      | (kept, .error fault) =>
          obtain ⟨log, halts⟩ := runCycles_of_error steps remaining
          obtain rfl := Machine.eq_of_step_error steps
          rw [halts]
          exact h
      | (moved, .ok snapshot) =>
          obtain ⟨log, goes⟩ := runCycles_of_ok steps remaining
          rw [goes]
          refine ih ?_ (number + 1)
          exact Machine.soundOn_of_step steps

section Advance

variable {random : Nat → Int} {during : Nat → List Nat} {frame : Frame} {seconds : Float}

/-- Steps that start well bring the flag up to date, whatever it was before. -/
theorem tellsSound_of_startsWell (well : window.startsWell random during = true) (remaining : Nat) :
    (window.runCycles random during (remaining + 1) 0).TellsSound := by
  simp only [startsWell, Bool.and_eq_true] at well
  match steps : (window.machine.queueTicks (during 0)).step ⟨window.keypad.isHeld, random⟩ with
  | (kept, .error fault) => simp [steps, Except.isOk, Except.toBool] at well
  | (moved, .ok snapshot) =>
      obtain ⟨log, goes⟩ := runCycles_of_ok steps remaining
      rw [goes]
      -- The first step has set the flag right, and the others keep it so.
      refine TellsSound.runCycles ?_ random during remaining 1
      exact Machine.soundOn_of_step steps

/-- Steps that do not start well are none at all. -/
theorem Tells.runCycles_of_unwell (h : Tells heard reloaded window)
    (going : (window.paused || window.halted) = false)
    (unwell : window.startsWell random during = false) (remaining : Nat) :
    Tells heard reloaded (window.runCycles random during (remaining + 1) 0) ∧
      (window.runCycles random during (remaining + 1) 0).halted = true := by
  simp only [startsWell, going, Bool.not_false, Bool.true_and] at unwell
  match steps : (window.machine.queueTicks (during 0)).step ⟨window.keypad.isHeld, random⟩ with
  | (kept, .error fault) =>
      obtain ⟨log, halts⟩ := runCycles_of_error steps remaining
      obtain rfl := Machine.eq_of_step_error steps
      rw [halts]
      exact ⟨h.of_same rfl rfl, rfl⟩
  | (moved, .ok snapshot) => simp [steps, Except.isOk, Except.toBool] at unwell

theorem exists_cyclesPerFrame_eq (settings : Settings) :
    ∃ remaining, settings.cyclesPerFrame = remaining + 1 :=
  Nat.exists_eq_add_one.mpr (Nat.le_max_left 1 _)

theorem tellsSound_advance
    (well : (window.refreshInput frame.pressed seconds).startsWell random frame.during = true) :
    (window.advance random frame seconds).TellsSound := by
  unfold Window.advance
  generalize window.refreshInput frame.pressed seconds = ready at well ⊢
  obtain ⟨remaining, count⟩ := exists_cyclesPerFrame_eq ready.settings
  have going : (ready.paused || ready.halted) = false := by
    simp only [startsWell, Bool.and_eq_true, Bool.not_eq_true'] at well
    exact well.1
  dsimp only
  rw [if_neg (ne_true_of_eq_false going), count]
  exact tellsSound_of_startsWell well remaining

theorem Tells.refreshInput (h : Tells heard reloaded window) (pressed : List String)
    (seconds : Float) : Tells heard reloaded (window.refreshInput pressed seconds) := by
  unfold Window.refreshInput
  split
  · exact h.of_same rfl rfl
  · exact h

/-- A frame in which no step succeeds ends with the machine at a stand. -/
theorem Tells.advance_of_unwell (h : Tells heard reloaded window)
    (unwell : (window.refreshInput frame.pressed seconds).startsWell random frame.during = false) :
    Tells heard reloaded (window.advance random frame seconds) ∧
      ((window.advance random frame seconds).paused ||
        (window.advance random frame seconds).halted) = true := by
  have ready := h.refreshInput frame.pressed seconds
  unfold Window.advance
  generalize window.refreshInput frame.pressed seconds = refreshed at ready unwell ⊢
  dsimp only
  split
  next still => exact ⟨ready, still⟩
  next going =>
    obtain ⟨remaining, count⟩ := exists_cyclesPerFrame_eq refreshed.settings
    rw [count]
    obtain ⟨tells, halted⟩ :=
      ready.runCycles_of_unwell (Bool.eq_false_iff.mpr going) unwell remaining
    exact ⟨tells, by rw [halted, Bool.or_true]⟩

/-- A hearing that goes with a window at the end of a frame. -/
structure Hears (hearing : Hearing) (window : Window) : Prop where
  window_eq : hearing.window = window
  tells : Tells hearing.heard hearing.reloaded window
  stands : hearing.reloaded = true → (window.paused || window.halted) = true

theorem Hears.follow {hearing : Hearing} {handled : Window} (h : Hears hearing window)
    (handles : (window.queueTicks frame).handleAll frame.files frame.events = (handled, .ok ()))
    (timed : frame.seconds = some seconds) :
    Hears (hearing.follow random frame) (handled.advance random frame seconds).render := by
  obtain rfl := h.window_eq
  have tells := (h.tells.queueTicks frame).handleAll handles
  have heeds : hearing.window.heeding frame = handled := congrArg Prod.fst handles
  have same : hearing.window.after random frame =
      (handled.advance random frame seconds).render := by
    rw [after, timed, heeds]
  rw [Hearing.follow, same]
  split
  next well =>
    rw [stepsIn, timed, heeds] at well
    exact ⟨rfl, (tellsSound_advance well).tells.of_same rfl rfl, Bool.noConfusion⟩
  next unwell =>
    rw [stepsIn, timed, heeds] at unwell
    obtain ⟨tells, stands⟩ := tells.advance_of_unwell (Bool.eq_false_iff.mpr unwell)
    exact ⟨rfl, tells.of_same rfl rfl, fun _ => stands⟩

/-- No step succeeds in a frame whose only event is a reload that fails. -/
theorem stepsIn_of_failed_reload {failure : Failure} {message : Points}
    (asked : frame.events = [.reload])
    (unread : Rom.read frame.files window.rom = .error failure)
    (told : failure.report = .ok message) : window.stepsIn random frame = false := by
  have gone : Rom.read frame.files (window.queueTicks frame).rom = .error failure := unread
  obtain ⟨log, refused⟩ := handle_reload_of_unread gone told
  have halted : (window.heeding frame).halted = true := by
    rw [heeding, asked, handleAll_cons_of_ok refused, handleAll]
  unfold stepsIn refreshInput
  split
  · rfl
  · split <;> simp [startsWell, halted]

end Advance

/-- A program that has just been loaded has not been heard of. -/
theorem hears_load (settings : Settings) (rom : Path) (files : Files) (random : Nat → Int) :
    Hears (hear random ((initial settings rom).load files).1 [])
      ((initial settings rom).load files).1 := by
  refine ⟨rfl, ?_, Bool.noConfusion⟩
  cases read : Rom.read files (initial settings rom).rom with
  | error failure =>
      obtain ⟨log, refused⟩ := load_of_unread read
      rw [refused]
      exact ⟨by simp [initial, hear], rfl⟩
  | ok program =>
      obtain ⟨log, loads⟩ := load_of_read read
      rw [loads]
      exact ⟨by simp [initial, hear], rfl⟩

end Telling

end Window

namespace Machine

/-- A machine about to set its sound timer. -/
def sounding : Machine :=
  { initial {} with
    memory := Memory.initial.place programStart [0x60, 0xFF, 0xF0, 0x18]
    redraw := true }

/-- The machine after its first step, which sets `V0` to 255. -/
def aboutToSound : Machine :=
  { sounding with
    registers := { Registers.initial.set .first 0xFF with counter := 0x202 }
    redraw := false }

theorem step_sounding (around : Surroundings) :
    (sounding.queueTicks []).step around = (aboutToSound, .ok aboutToSound.snapshot) := by
  have fetched : { sounding.queueTicks [] with redraw := false }.currentWord = .ok 0x60FF := by
    rw [currentWord, Memory.readWord_natCast]
    simp [sounding, queueTicks, initial, Registers.initial, Memory.byte_place, programStart,
      memorySize]
  have rests : (sounding.queueTicks []).wait = .idle := rfl
  have carried : { sounding.queueTicks [] with redraw := false }.executeCurrent around = _ :=
    (executeCurrent_of_decode fetched rfl).trans rfl
  exact (step_of_flow rests carried).trans rfl

theorem step_aboutToSound (around : Surroundings) :
    ∃ rung snapshot, (aboutToSound.queueTicks []).step around = (rung, .ok snapshot) ∧
      0 < rung.registers.sound := by
  have fetched : { aboutToSound.queueTicks [] with redraw := false }.currentWord = .ok 0xF018 := by
    rw [currentWord, Memory.readWord_natCast]
    simp [aboutToSound, sounding, queueTicks, Memory.byte_place, programStart, memorySize]
  have rests : (aboutToSound.queueTicks []).wait = .idle := rfl
  have carried : { aboutToSound.queueTicks [] with redraw := false }.executeCurrent around = _ :=
    (executeCurrent_of_decode fetched rfl).trans rfl
  exact ⟨_, _, step_of_flow rests carried, by decide⟩

end Machine

namespace Window

section Sounding

variable {window : Window} {during : Nat → List Nat}

theorem runCycles_aboutToSound (sounds : window.machine = Machine.aboutToSound)
    (silent : ∀ number, during number = []) (random : Nat → Int) (number : Nat) :
    ∃ rung redraw log, window.runCycles random during 1 number =
      { window with machine := rung, redraw, soundOn := true, log } := by
  obtain ⟨rung, snapshot, steps, sound⟩ :=
    Machine.step_aboutToSound ⟨window.keypad.isHeld, random⟩
  rw [← sounds, ← silent number] at steps
  obtain ⟨log, runs⟩ := runCycles_of_ok steps 0
  rw [(Machine.soundOn_of_step steps).mpr sound] at runs
  exact ⟨rung, _, log, runs⟩

theorem runCycles_sounding (sounds : window.machine = Machine.sounding)
    (silent : ∀ number, during number = []) (random : Nat → Int) :
    ∃ rung redraw log, window.runCycles random during 2 0 =
      { window with machine := rung, redraw, soundOn := true, log } := by
  have steps := Machine.step_sounding ⟨window.keypad.isHeld, random⟩
  rw [← sounds, ← silent 0] at steps
  obtain ⟨log, goes⟩ := runCycles_of_ok steps 1
  rw [goes]
  exact runCycles_aboutToSound rfl silent random 1

theorem round_sounding {frame : Frame} {seconds : Float}
    (timed : frame.seconds = some seconds) (calm : frame.events = [])
    (silent : ∀ number, frame.during number = []) (sounds : window.machine = Machine.sounding)
    (twice : window.settings.cyclesPerFrame = 2)
    (going : (window.paused || window.halted) = false)
    (whole : window.status.isWhole = true) (random : Nat → Int) :
    ∃ shown, window.round random frame = (shown.window, .ok shown) ∧
      shown.window.running = window.running ∧ shown.window.rom = window.rom ∧
      shown.window.soundOn = true := by
  obtain ⟨keypad, lastInput, goes⟩ := advance_of_going going random frame seconds
  have ready : { window with keypad, lastInput }.machine = Machine.sounding := sounds
  obtain ⟨rung, redraw, log, runs⟩ := runCycles_sounding ready silent random
  rw [twice, runs] at goes
  obtain ⟨shown, shows, same⟩ := round_of_whole (handleAll_of_calm calm window) timed goes whole
  refine ⟨shown, shows, ?_⟩
  rw [same]
  exact ⟨rfl, rfl, rfl⟩

end Sounding

/-- Settings with two steps in a frame. -/
def brisk : Settings := { Settings.standard with clockHz := ⟨120, by decide⟩ }

/-- A frame in which nothing happens, and the game makes a sound. -/
def loud : Frame :=
  { calm with files := ⟨fun _ => .ok [0x60, 0xFF, 0xF0, 0x18], fun _ => .ok []⟩ }

def loudLoaded (log : Array Log.Entry) : Window :=
  { initial brisk game with
    machine := Machine.sounding
    status := "Loaded: " ++ game.stem
    log }

/-- A session of the loud game: it makes its sound, and then it is gone and asked for
again. -/
def lostLoud : Session := session brisk game (fun _ => 0) loud.files [loud, lost] .ticker

theorem reloaded_hear_lost (random : Nat → Int) (window : Window) (past : List Frame) :
    (hear random window (past ++ [lost])).reloaded = true := by
  rw [hear_append, Hearing.follow, if_neg]
  · exact Bool.or_true _
  · rw [stepsIn_of_failed_reload rfl (read_lost _) rfl]
    exact Bool.false_ne_true

theorem shown_lostLoud : ∃ first second, lostLoud.shown = [first, second] ∧
    first.window.soundOn = true ∧ second.window.soundOn = true ∧
    second.window.machine.registers.sound = 0 := by
  have opens : openingFault? brisk game = none := by decide +kernel
  have ticks : TickSource.ticker.fault? brisk.timerHz.val = none := by decide +kernel
  have read : Rom.read loud.files game = .ok [0x60, 0xFF, 0xF0, 0x18] := by
    simp [Rom.read, loud, programLimit, memorySize, programStart]
  have twice : brisk.cyclesPerFrame = 2 := by decide
  have whole : (("Loaded: " : Points) ++ game.stem).isWhole = true := by decide
  obtain ⟨log, loads⟩ : ∃ log, ((initial brisk game).queueTicks loud).load loud.files =
      (loudLoaded log, .ok ()) := load_initial_of_read read brisk loud
  obtain ⟨first, sounds, runs, same, heard⟩ : ∃ first,
      ((loudLoaded log).queueTicks loud).round (fun _ => 0) loud = (first.window, .ok first) ∧ _ :=
    round_sounding rfl rfl (fun _ => rfl) rfl twice rfl whole (fun _ => 0)
  obtain ⟨second, keypad, lastInput, log, shown, stands⟩ :=
    shown_then_lost opens rfl loads ticks sounds runs same
  have kept : second.window.soundOn = first.window.soundOn := by
    simp only [stands, Window.render]
  have quiet : second.window.machine.registers.sound = 0 := by
    simp only [stands, Window.render, Machine.reset_eq, Registers.initial]
  exact ⟨first, second, shown, heard, kept.trans heard, quiet⟩

/-- At the end of every round that a session shows, the flag of the sound tells whether the
sound timer runs, if a step has succeeded since a reload was last asked for or none ever
was.  If not, the machine is at a stand with its sound timer at zero, and the flag is
still about the timer as the last step to succeed has left it. -/
theorem soundOn_of_session {settings : Settings} {rom : Path} {random : Nat → Int}
    {files : Files} {first : Frame} {rest : List Frame} {source : TickSource} {number : Nat}
    {shown : Shown}
    (h : (session settings rom random files (first :: rest) source).shown[number]? = some shown) :
    let loaded := ((initial settings rom).load first.files).1
    let hearing := hear random loaded ((first :: rest).take (number + 1))
    (hearing.reloaded = false → shown.window.TellsSound) ∧
    (hearing.reloaded = true →
      shown.window.machine.registers.sound = 0 ∧
      (shown.window.paused || shown.window.halted) = true ∧
      (shown.window.soundOn = true ↔ 0 < hearing.heard)) := by
  intro loaded hearing
  have keeps : ∀ past frame window handled seconds,
      (window.queueTicks frame).handleAll frame.files frame.events = (handled, .ok ()) →
      frame.seconds = some seconds → Hears (hear random loaded past) window →
      Hears (hear random loaded (past ++ [frame]))
        (handled.advance random frame seconds).render := by
    intro past frame window handled seconds handles timed hears
    rw [hear_append]
    exact hears.follow handles timed
  have hears : Hears hearing shown.window :=
    (rounds_invariant keeps (hears_load settings rom first.files random) (session_of_shown h)).2
  refine ⟨fun stepped => ?_, fun reloaded => ⟨?_, hears.stands reloaded, hears.tells.flag⟩⟩
  · exact (stepped ▸ hears.tells).tellsSound
  · rw [hears.tells.timer, if_pos reloaded]

theorem soundOn_of_session_lostLoud : ∃ first second, lostLoud.shown = [first, second] ∧
    0 < first.window.machine.registers.sound ∧
    second.window.machine.registers.sound = 0 ∧
    (second.window.paused || second.window.halted) = true := by
  obtain ⟨first, second, shown, on, _⟩ := shown_lostLoud
  have start : lostLoud.shown[0]? = some first := by rw [shown]; rfl
  have later : lostLoud.shown[1]? = some second := by rw [shown]; rfl
  have steps := (soundOn_of_session start).1 (reloaded_hear_of_unasked _ _ (by decide))
  have asked : (hear (fun _ => 0) ((initial brisk game).load loud.files).1
      [loud, lost]).reloaded = true := reloaded_hear_lost _ _ [loud]
  have stands := (soundOn_of_session later).2 asked
  exact ⟨first, second, shown, steps.mp on, stands.1, stands.2.1⟩

/-- The flag may tell of a sound that is over. -/
theorem soundOn_stale_lostLoud :
    ∃ shown, lostLoud.shown[1]? = some shown ∧ ¬ shown.window.TellsSound := by
  obtain ⟨first, second, shown, _, on, quiet⟩ := shown_lostLoud
  refine ⟨second, by rw [shown]; rfl, fun tells => ?_⟩
  have runs := tells.mp on
  rw [quiet] at runs
  exact absurd runs (by decide)

end Window
end Chip8
