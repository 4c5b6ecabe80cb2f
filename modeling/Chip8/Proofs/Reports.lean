import Chip8.Program
import Chip8.Proofs.Faults
import Chip8.Proofs.Rounds
import Chip8.Proofs.Schedule

/-!
What the program prints and how it ends.  `Report.Tells` says it of a report as a
whole: what is on the screen, what is in the log, and the message if something went
wrong.  A run without a window tells the registers as they are after its last step, or
before the step that met a fault.  `Registers.printedAt` spells the four lines.
-/

namespace Chip8

theorem Points.append_assoc (a b c : Points) : a ++ b ++ c = a ++ (b ++ c) :=
  congrArg Points.mk (List.append_assoc a.points b.points c.points)

namespace Registers

/-- Eight byte registers as text, from one number on. -/
def eightFrom (registers : Registers) (number : Nat) : String :=
  " ".intercalate ((List.range' number 8).map fun x =>
    Hex.padded 2 (registers.get (nibble x)).toNat)

/-- What is printed at the end of a run: the address at which the program stands, and the
rest of the registers. -/
def printedAt (registers : Registers) (address : Nat) : String :=
  "PC: $" ++ Hex.padded 3 address ++
    "  I: $" ++ Hex.padded 3 registers.index.toNat ++
    "  SP: " ++ toString registers.stack.depth ++ "\n" ++
  ("DT: " ++ Hex.padded 2 registers.delay.toNat ++
    "  ST: " ++ Hex.padded 2 registers.sound.toNat ++ "\n") ++
  ("V0-V7: " ++ registers.eightFrom 0 ++ "\n") ++
  ("V8-VF: " ++ registers.eightFrom 8 ++ "\n")

theorem toList_v (registers : Registers) :
    registers.v.toList = (List.range' 0 16).map fun x => registers.get (nibble x) := by
  apply List.ext_getElem
  · simp
  · intro i here there
    have small : i < 16 := by simpa using here
    simp [get, nibble, Nat.mod_eq_of_lt small]

/-- A dump with its last line ended is what is printed where the program counter stands. -/
theorem dump_ended (registers : Registers) :
    registers.dump ++ "\n" = registers.printedAt registers.counter.toNat := by
  have low : byteLine (registers.v.toList.take 8) = registers.eightFrom 0 := by
    rw [toList_v, ← List.map_take, byteLine, List.map_map]
    rfl
  have high : byteLine (registers.v.toList.drop 8) = registers.eightFrom 8 := by
    rw [toList_v, ← List.map_drop, byteLine, List.map_map]
    rfl
  simp only [dump, dumpLines, low, high, printedAt, String.intercalate_cons_cons,
    String.intercalate_singleton, String.append_assoc]

end Registers

namespace Log

/-- An entry that tells of nothing wrong. -/
def Entry.Mild (entry : Entry) : Prop :=
  entry.level = .debug ∨ entry.level = .info

theorem lines_append (least : Level) (first second : List Entry) :
    lines least (first ++ second) = lines least first ++ lines least second := by
  unfold lines
  rw [List.filter_append, List.map_append]
  exact congrArg Points.mk List.flatMap_append

theorem mild_ofWait (before after : KeyWait) : ∀ entry ∈ ofWait before after, entry.Mild := by
  intro entry member
  unfold ofWait at member
  split at member
  · obtain rfl := List.mem_singleton.mp member
    exact .inl rfl
  · split at member
    · cases member
    · obtain rfl := List.mem_singleton.mp member
      exact .inl rfl

end Log

/-- What is on a console: a text printed, and a log in which all went well. -/
structure Console.Shows (console : Console) (least : Log.Level) (out : String) : Prop where
  least_eq : console.least = least
  out_eq : console.out = out
  logged : ∃ entries, (∀ entry ∈ entries, Log.Entry.Mild entry) ∧
    console.err = Log.lines least entries

/-- What a report tells: a text printed, the code of the end, and the message of what
went wrong if something did.  The message is in the log as an error, and again behind
it; all else in the log is mild. -/
structure Report.Tells (report : Report) (least : Log.Level) (out : String) (code : Nat)
    (message? : Option Points) : Prop where
  ending_eq : report.ending = .exit code
  session_eq : report.session = none
  out_eq : report.console.out = out
  err_eq : ∃ entries, (∀ entry ∈ entries, Log.Entry.Mild entry) ∧
    report.console.err =
      match message? with
      | none => Log.lines least entries
      | some message =>
          Log.lines least (entries ++ [⟨.error, .commandLine, message⟩]) ++
            ("Error: " ++ message ++ "\n")

namespace Console

variable {console : Console} {least : Log.Level} {out : String}

theorem shows_empty (least : Log.Level) : ({ least := least } : Console).Shows least "" :=
  ⟨rfl, rfl, [], by simp, rfl⟩

theorem Shows.note (h : console.Shows least out) {entries : List Log.Entry}
    (mild : ∀ entry ∈ entries, entry.Mild) : (console.note entries).Shows least out := by
  obtain ⟨least_eq, out_eq, before, calm, logged⟩ := h
  refine ⟨least_eq, out_eq, before ++ entries, ?_, ?_⟩
  · intro entry member
    rcases List.mem_append.mp member with old | new
    · exact calm entry old
    · exact mild entry new
  · rw [Console.note, Log.lines_append, logged, least_eq]

theorem Shows.print (h : console.Shows least "") (registers : Registers) :
    (console.print [registers.dump]).Shows least
      (registers.printedAt registers.counter.toNat) := by
  refine ⟨h.least_eq, ?_, h.logged⟩
  rw [← Registers.dump_ended]
  simp [Console.print, h.out_eq, CommandLine.unlines]

end Console

namespace Program

variable {console : Console} {least : Log.Level} {out : String}

theorem tells_of_shows (h : console.Shows least out) (code : Nat) :
    ({ console := console, ending := .exit code } : Report).Tells least out code none :=
  ⟨rfl, rfl, h.out_eq, h.logged⟩

/-- A failure that has a message is told and ends the program with code one. -/
theorem tells_fail (h : console.Shows least out) {failure : Failure} {message : Points}
    (told : failure.message? = some message) :
    (fail console failure).Tells least out 1 (some message) := by
  obtain ⟨least_eq, out_eq, entries, mild, logged⟩ := h
  rw [fail, told]
  refine ⟨rfl, rfl, out_eq, entries, mild, ?_⟩
  dsimp only [Console.note, Console.warn]
  rw [logged, least_eq, Log.lines_append, Points.append_assoc _ ("Error: " ++ message) "\n"]

theorem mild_settingsLog (files : Files) (options : CommandLine.Options) :
    ∀ entry ∈ settingsLog files options, entry.Mild := by
  intro entry member
  unfold settingsLog at member
  split at member
  · obtain rfl := List.mem_singleton.mp member
    exact .inr rfl
  · cases member

theorem mild_headlessLog (around : Surroundings) (period : Int) (remaining number : Nat)
    (machine : Machine) :
    ∀ entry ∈ headlessLog around period remaining number machine, entry.Mild := by
  induction remaining generalizing number machine with
  | zero => simp [headlessLog]
  | succ remaining ih =>
      intro entry member
      unfold headlessLog at member
      split at member
      · cases member
      · rcases List.mem_append.mp member with now | later
        · exact Log.mild_ofWait _ _ entry now
        · exact ih _ _ entry later

/-- What the console shows when the settings have been read. -/
theorem shows_settingsLog (least : Log.Level) (files : Files) (options : CommandLine.Options) :
    (({ least := least } : Console).note (settingsLog files options)).Shows least "" :=
  (Console.shows_empty least).note (mild_settingsLog files options)

end Program

namespace Headless

/-- The moments of a run without a window: no key is ever held, and a tick comes after
every step whose number is a multiple of the period. -/
def moments (random : Nat → Int) (period number : Nat) : Moment where
  ticks := if 0 < number ∧ period ∣ number then [1] else []
  around := ⟨fun _ => false, random⟩

section Running

variable (start : Machine) (random : Nat → Int) (period : Nat)

def after (number : Nat) : Machine :=
  start.stateAt (moments random period) number

/-- What the step behind the first so many comes to. -/
def outcome (number : Nat) : Except Fault Snapshot :=
  ((after start random period number).pass (moments random period number)).2

/-- The machine after some steps, with the tick that comes then. -/
def readied (number : Nat) : Machine :=
  (after start random period number).queueTicks (moments random period number).ticks

theorem readied_zero : readied start random period 0 = start := by
  simp [readied, after, moments, Machine.stateAt, Machine.queueTicks]

variable {start random period}

theorem steps_of_ok (positive : 0 < period) {number : Nat} {shown : Snapshot}
    (goes : outcome start random period number = .ok shown) (remaining : Nat) :
    steps ⟨fun _ => false, random⟩ period (remaining + 1) (number + 1)
        (readied start random period number) =
      steps ⟨fun _ => false, random⟩ period remaining (number + 2)
        (readied start random period (number + 1)) := by
  have stepped : (readied start random period number).step ⟨fun _ => false, random⟩ =
      (after start random period (number + 1), .ok shown) := Prod.ext rfl goes
  have ticks : (moments random period (number + 1)).ticks = due period (number + 1) := by
    simp [moments, due_eq]
  rw [steps_of_stepped (by omega) stepped, ← ticks, readied]

theorem steps_of_error {number : Nat} {fault : Fault}
    (refused : outcome start random period number = .error fault) (remaining : Nat) :
    steps ⟨fun _ => false, random⟩ period (remaining + 1) (number + 1)
        (readied start random period number) =
      ({ readied start random period number with redraw := false }, .error (.fault fault)) :=
  steps_of_refused (Machine.step_of_error refused) remaining (number + 1)

/-- Steps that meet no fault are taken one after the other. -/
theorem steps_of_going (positive : 0 < period) (count remaining : Nat)
    (goes : ∀ earlier < count, ∃ shown, outcome start random period earlier = .ok shown) :
    steps ⟨fun _ => false, random⟩ period (count + remaining) 1 start =
      steps ⟨fun _ => false, random⟩ period remaining (count + 1)
        (readied start random period count) := by
  induction count generalizing remaining with
  | zero => rw [readied_zero, Nat.zero_add]
  | succ count ih =>
      obtain ⟨shown, last⟩ := goes count count.lt_succ_self
      rw [Nat.add_right_comm, Nat.add_assoc, ih (remaining + 1), steps_of_ok positive last]
      intro earlier before
      exact goes earlier (Nat.lt_succ_of_lt before)

end Running
end Headless

namespace Program

variable {random : Nat → Int} {settings : Settings} {cycles : Int} {start : Machine}
  {console : Console} {least : Log.Level}

theorem cyclesPerTick_pos (settings : Settings) : 0 < settings.cyclesPerTick :=
  Nat.le_max_left 1 _

theorem around_released (random : Nat → Int) :
    (⟨Keypad.released.isHeld, random⟩ : Surroundings) = ⟨fun _ => false, random⟩ := by
  congr 1
  funext key
  exact Keypad.isHeld_released key

/-- What is told of a run, from what its steps come to. -/
theorem runLoaded_eq (shows : console.Shows least "") :
    ∃ noted : Console, noted.Shows least "" ∧
      runLoaded random settings cycles start console =
        match Headless.steps ⟨fun _ => false, random⟩ settings.cyclesPerTick cycles.toNat 1
            start with
        | (ran, .ok ()) => { console := noted.print [ran.registers.dump], ending := .exit 0 }
        | (ran, .error (.fault fault)) => fail (noted.print [ran.registers.dump]) (.fault fault)
        | (ran, .error .zeroPeriod) =>
            { console := noted.print [ran.registers.dump], ending := .exit 1 } := by
  unfold runLoaded Headless.run
  rw [around_released]
  dsimp only
  by_cases talkative : console.least = .debug
  · rw [if_pos talkative]
    exact ⟨_, shows.note (mild_headlessLog _ _ _ _ _), rfl⟩
  · rw [if_neg talkative]
    exact ⟨_, shows, rfl⟩

theorem runLoaded_of_faultless (shows : console.Shows least "")
    (goes : ∀ number < cycles.toNat, ∃ shown,
      Headless.outcome start random settings.cyclesPerTick number = .ok shown) :
    let last := (Headless.after start random settings.cyclesPerTick cycles.toNat).registers
    (runLoaded random settings cycles start console).Tells least
      (last.printedAt last.counter.toNat) 0 none := by
  obtain ⟨noted, still, runs⟩ := runLoaded_eq shows
  have ends := Headless.steps_of_going (cyclesPerTick_pos settings) cycles.toNat 0 goes
  rw [Nat.add_zero, Headless.steps] at ends
  rw [runs, ends]
  exact tells_of_shows (still.print
    (Headless.readied start random settings.cyclesPerTick cycles.toNat).registers) 0

theorem runLoaded_of_firstFault (shows : console.Shows least "") {number : Nat} {fault : Fault}
    (inside : number < cycles.toNat)
    (refused : Headless.outcome start random settings.cyclesPerTick number = .error fault)
    (goes : ∀ earlier < number, ∃ shown,
      Headless.outcome start random settings.cyclesPerTick earlier = .ok shown) :
    let before := (Headless.after start random settings.cyclesPerTick number).registers
    (runLoaded random settings cycles start console).Tells least
      (before.printedAt before.counter.toNat) 1 (some fault.message) := by
  obtain ⟨rest, split⟩ : ∃ rest, cycles.toNat = number + (rest + 1) :=
    ⟨cycles.toNat - number - 1, by omega⟩
  obtain ⟨noted, still, runs⟩ := runLoaded_eq shows
  have ends := Headless.steps_of_going (cyclesPerTick_pos settings) number (rest + 1) goes
  rw [runs, split, ends, Headless.steps_of_error refused]
  exact tells_fail (still.print
    (Headless.readied start random settings.cyclesPerTick number).registers) rfl

/-- The report of a command line that asks for a run without a window, from what the
files hold. -/
theorem run_eq_runHeadless {world : World} {arguments : List Points}
    {options : CommandLine.Options} {rom : Path}
    (parsed : CommandLine.parse arguments = .ok (.run options))
    (level : options.logLevel = .value least)
    (headless : options.headless = true) (plain : options.disassemble = false)
    (resolved : resolve world.files options = .ok settings)
    (found : romPath? world.files options = some rom) :
    ∃ console : Console, console.Shows least "" ∧
      run world arguments =
        match Rom.read world.files rom with
        | .error failure => fail console failure
        | .ok program =>
            runHeadless world.random settings options.cycles program
              (console.note [Log.ofRead rom.name program]) := by
  refine ⟨_, shows_settingsLog least world.files options, ?_⟩
  cases read : Rom.read world.files rom <;>
    simp only [run, parsed, perform, level, performAt, resolved, found, plain, headless, read,
      Bool.false_eq_true, if_false, if_true]

theorem runHeadless_of_loaded {program : List UInt8} (shows : console.Shows least "")
    (loaded : (Machine.initial settings.dialect).load program = .ok start)
    (random : Nat → Int) (cycles : Int) :
    ∃ noted : Console, noted.Shows least "" ∧
      runHeadless random settings (.value cycles) program console =
        runLoaded random settings cycles start noted := by
  have mild : ∀ entry ∈ [Log.ofLoad program], entry.Mild := by
    intro entry member
    obtain rfl := List.mem_singleton.mp member
    exact .inl rfl
  refine ⟨_, shows.note mild, ?_⟩
  simp only [runHeadless, loaded]

/-- A run without a window, from the command line to the end.  A program that fits in
memory is taken through as many steps as are asked for, with no key held and a tick
after every step whose number is a multiple of the period.  If no step meets a fault,
the registers after the last step are printed and the program ends with code zero.  If
one does, the registers before it are printed, so that the address printed is that of the
instruction that met the fault; the fault is told, and the program ends with code one.
Of a program that does not fit, only that is told. -/
theorem run_headless {world : World} {arguments : List Points} {options : CommandLine.Options}
    {rom : Path} {program : List UInt8}
    (parsed : CommandLine.parse arguments = .ok (.run options))
    (level : options.logLevel = .value least)
    (headless : options.headless = true) (plain : options.disassemble = false)
    (asked : options.cycles = .value cycles)
    (resolved : resolve world.files options = .ok settings)
    (found : romPath? world.files options = some rom)
    (content : world.files.read rom = .ok program) :
    let period := settings.cyclesPerTick
    (program.length ≤ 3584 →
      ∃ start, (Machine.initial settings.dialect).load program = .ok start ∧
        ((∀ number < cycles.toNat, ∃ shown,
            Headless.outcome start world.random period number = .ok shown) →
          let last := (Headless.after start world.random period cycles.toNat).registers
          (run world arguments).Tells least (last.printedAt last.counter.toNat) 0 none) ∧
        ∀ number < cycles.toNat, ∀ fault,
          Headless.outcome start world.random period number = .error fault →
          (∀ earlier < number, ∃ shown,
            Headless.outcome start world.random period earlier = .ok shown) →
          let before := (Headless.after start world.random period number).registers
          (run world arguments).Tells least (before.printedAt before.counter.toNat) 1
            (some fault.message)) ∧
    (3584 < program.length →
      (run world arguments).Tells least "" 1
        (some (Fault.programTooBig program.length (0x200 + program.length)).message)) := by
  intro period
  have limit : programLimit = 3584 := rfl
  obtain ⟨console, shows, runs⟩ :=
    run_eq_runHeadless parsed level headless plain resolved found
  constructor
  · intro fits
    have read : Rom.read world.files rom = .ok program := by
      rw [Rom.read, content]
      exact if_neg (by rw [limit]; omega)
    have loaded : (Machine.initial settings.dialect).load program = _ :=
      Machine.load_of_ok (Rom.load_of_read read Memory.initial)
    have mild : ∀ entry ∈ [Log.ofRead rom.name program], entry.Mild := by
      intro entry member
      obtain rfl := List.mem_singleton.mp member
      exact .inr rfl
    obtain ⟨noted, still, goes⟩ :=
      runHeadless_of_loaded (shows.note mild) loaded world.random cycles
    rw [runs, read, asked]
    dsimp only
    rw [goes]
    refine ⟨_, loaded, fun faultless => ?_, fun number inside fault refused before => ?_⟩
    · exact runLoaded_of_faultless still faultless
    · exact runLoaded_of_firstFault still inside refused before
  · intro large
    have read : Rom.read world.files rom =
        .error (.fault (.programTooBig program.length (0x200 + program.length))) := by
      rw [Rom.read, content]
      exact if_pos (by rw [limit]; exact large)
    rw [runs, read]
    exact tells_fail shows rfl

/-- A machine about to return from a call that there was not. -/
def returning : Machine :=
  { Machine.initial Settings.standard.dialect with
    memory := Memory.initial.place programStart [0x00, 0xEE] }

theorem outcome_returning (random : Nat → Int) (period : Nat) :
    Headless.outcome returning random period 0 = .error .stackUnderflow := by
  have current : { returning with redraw := false }.currentWord = .ok 0x00EE := by
    rw [Machine.currentWord, Memory.readWord_natCast]
    simp [returning, Machine.initial, Registers.initial, Memory.byte_place, programStart,
      memorySize]
  have rests : returning.wait = .idle := rfl
  have refused : ({ returning with redraw := false }.executeCurrent
      ⟨fun _ => false, random⟩).2 = .error .stackUnderflow := by
    rw [Machine.executeCurrent_of_decode current rfl]
    rfl
  have first : Headless.outcome returning random period 0 =
      (returning.step ⟨fun _ => false, random⟩).2 :=
    congrArg (fun machine => (machine.step ⟨fun _ => false, random⟩).2)
      (Headless.readied_zero returning random period)
  rw [first, Machine.step_of_fault rests refused]

/-- Files all of which hold that return. -/
def stray : World where
  files := ⟨fun _ => .ok [0x00, 0xEE], fun _ => .ok []⟩
  random := fun _ => 0
  frames := []

theorem run_headless_stray :
    (run stray ["game.ch8", "--headless", "--cycles=3"]).Tells .warning
      ("PC: $200  I: $000  SP: 0\n" ++ "DT: 00  ST: 00\n" ++
        "V0-V7: 00 00 00 00 00 00 00 00\n" ++ "V8-VF: 00 00 00 00 00 00 00 00\n")
      1 (some "Stack underflow: return with empty stack") := by
  have parsed : CommandLine.parse ["game.ch8", "--headless", "--cycles=3"] =
      .ok (.run { rom := some ("game.ch8" : Points), headless := true, cycles := .value 3 }) := by
    decide +kernel
  have resolved : resolve stray.files
      { rom := some ("game.ch8" : Points), headless := true, cycles := .value 3 } =
      .ok .standard := rfl
  have found : romPath? stray.files
      { rom := some ("game.ch8" : Points), headless := true, cycles := .value 3 } =
      some (.ofText "game.ch8") := rfl
  have content : stray.files.read (.ofText "game.ch8") = .ok [0x00, 0xEE] := rfl
  obtain ⟨start, loaded, _, faults⟩ :=
    (run_headless parsed rfl rfl rfl rfl resolved found content).1 (by decide)
  have placed : Memory.initial.load [0x00, 0xEE] programStart =
      .ok (Memory.initial.place programStart [0x00, 0xEE]) := by
    simp [Memory.load, programStart, memorySize]
  have loads : (Machine.initial Settings.standard.dialect).load [0x00, 0xEE] = _ :=
    Machine.load_of_ok placed
  obtain rfl : returning = start := Except.ok.inj (loads.symm.trans loaded)
  have lines : Registers.initial.printedAt 0x200 =
      "PC: $200  I: $000  SP: 0\n" ++ "DT: 00  ST: 00\n" ++
        "V0-V7: 00 00 00 00 00 00 00 00\n" ++ "V8-VF: 00 00 00 00 00 00 00 00\n" := by
    decide +kernel
  rw [← lines]
  exact faults 0 (by decide) .stackUnderflow (outcome_returning _ _) (by simp)

end Program
end Chip8
