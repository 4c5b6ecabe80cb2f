import Mathlib.Algebra.Order.Ring.Abs
import Mathlib.Data.List.Basic
import Chip8.Headless
import Chip8.Proofs.Dialects
import Chip8.Proofs.Reload
import Chip8.Settings

/-!
The ticks of a run without a window.  `Headless.turns` records what such a run does, a
step or a tick at a time.  Up to the first fault that is the schedule: a step after the
other, with one tick behind each whose number is a multiple of the period.  How many
ticks that makes in all, and in the cycles of one second, is counted here.
-/

namespace Chip8

def Turn.isStep : Turn → Bool
  | .put _ => false
  | .step _ => true

def stepsIn (turns : List Turn) : Nat := turns.countP Turn.isStep

/-- The ticks put on the queue in some turns, oldest first. -/
def putsIn (turns : List Turn) : List Nat := turns.flatMap Turn.puts

theorem stepsIn_append (first second : List Turn) :
    stepsIn (first ++ second) = stepsIn first + stepsIn second :=
  List.countP_append

theorem putsIn_append (first second : List Turn) :
    putsIn (first ++ second) = putsIn first ++ putsIn second :=
  List.flatMap_append

namespace Machine

def Fails (machine : Machine) : Turn → Prop
  | .put _ => False
  | .step around => ∃ fault, (machine.step around).2 = .error fault

theorem never_append {machine : Machine} {happens : Machine → Turn → Prop}
    {first second : List Turn} :
    machine.Never happens (first ++ second) ↔
      machine.Never happens first ∧ (machine.through first).Never happens second := by
  induction first generalizing machine with
  | nil => simp [never_nil, through, run]
  | cons turn rest ih => rw [List.cons_append, never_cons, never_cons, ih, through_cons, and_assoc]

theorem through_puts (machine : Machine) (ticks : List Nat) :
    machine.through (ticks.map .put) = machine.queueTicks ticks := by
  induction ticks generalizing machine with
  | nil => simp [through, run, queueTicks]
  | cons tick rest ih =>
      rw [List.map_cons, through_cons, ih]
      simp [Turn.action, act, queueTicks]

theorem never_fails_puts (machine : Machine) (ticks : List Nat) :
    machine.Never Fails (ticks.map .put) := by
  induction ticks generalizing machine with
  | nil => exact machine.never_nil Fails
  | cons tick rest ih => exact never_cons.mpr ⟨id, ih _⟩

/-- Behind turns without a fault only the turn added to them can meet one. -/
theorem eq_last_of_fails {machine : Machine} {turns earlier later : List Turn}
    {last turn : Turn} (faultless : machine.Never Fails turns)
    (split : turns ++ [last] = earlier ++ turn :: later)
    (fails : (machine.through earlier).Fails turn) :
    earlier = turns ∧ turn = last ∧ later = [] := by
  rcases later.eq_nil_or_concat with rfl | ⟨between, final, rfl⟩
  · obtain ⟨same, ends⟩ := List.append_inj' split rfl
    exact ⟨same.symm, (List.singleton_inj.mp ends).symm, rfl⟩
  · rw [List.concat_eq_append, ← List.cons_append, ← List.append_assoc] at split
    exact absurd fails (faultless _ _ _ (List.append_inj' split rfl).1)

end Machine

namespace Headless

/-- The ticks due after the step of a number. -/
def due (period : Int) (number : Nat) : List Nat :=
  if (number : Int) % period = 0 then [1] else []

/-- The turns that a run without a window takes.  The arguments are those of
`steps`. -/
def turns (around : Surroundings) (period : Int) :
    (remaining number : Nat) → Machine → List Turn
  | 0, _, _ => []
  | remaining + 1, number, machine =>
      match machine.step around with
      | (_, .error _) => [.step around]
      | (stepped, .ok _) =>
          if period = 0 then [.step around]
          else if (number : Int) % period = 0 then
            .step around :: .put 1 ::
              turns around period remaining (number + 1) (stepped.queueTicks [1])
          else .step around :: turns around period remaining (number + 1) stepped

/-- A step and the ticks due after it. -/
def beat (around : Surroundings) (period : Int) (number : Nat) : List Turn :=
  .step around :: (due period number).map .put

/-- So many steps from the one of a number on, each with the ticks due after it. -/
def schedule (around : Surroundings) (period : Int) (number count : Nat) : List Turn :=
  (List.range' number count).flatMap (beat around period)

/-- One run and, unless it was stopped, another one after it. -/
def andThen (first : Machine × Except Stop Unit)
    (next : Machine → Machine × Except Stop Unit) : Machine × Except Stop Unit :=
  match first with
  | (ran, .ok ()) => next ran
  | (stopped, .error stop) => (stopped, .error stop)

/-! One step of a run. -/

section Step

variable {around : Surroundings} {period : Int} {machine stepped : Machine}

theorem steps_of_stepped (nonzero : period ≠ 0) {shown : Snapshot}
    (goes : machine.step around = (stepped, .ok shown)) (remaining number : Nat) :
    steps around period (remaining + 1) number machine =
      steps around period remaining (number + 1) (stepped.queueTicks (due period number)) := by
  rw [steps, goes]
  dsimp only
  rw [if_neg nonzero, due]
  split
  · rfl
  · rw [Machine.queueTicks, List.append_nil]

theorem steps_of_refused {fault : Fault} (refused : machine.step around = (stepped, .error fault))
    (remaining number : Nat) :
    steps around period (remaining + 1) number machine = (stepped, .error (.fault fault)) := by
  rw [steps, refused]

theorem turns_of_stepped (nonzero : period ≠ 0) {shown : Snapshot}
    (goes : machine.step around = (stepped, .ok shown)) (remaining number : Nat) :
    turns around period (remaining + 1) number machine =
      beat around period number ++
        turns around period remaining (number + 1) (stepped.queueTicks (due period number)) := by
  rw [turns, goes]
  dsimp only
  rw [if_neg nonzero, beat, due]
  split
  · rfl
  · rw [Machine.queueTicks, List.append_nil]
    rfl

theorem turns_of_refused {fault : Fault} (refused : machine.step around = (stepped, .error fault))
    (remaining number : Nat) :
    turns around period (remaining + 1) number machine = [.step around] := by
  rw [turns, refused]

theorem through_beat {shown : Snapshot} (goes : machine.step around = (stepped, .ok shown))
    (number : Nat) :
    machine.through (beat around period number) = stepped.queueTicks (due period number) := by
  rw [beat, Machine.through_cons, Machine.through_puts]
  simp only [Turn.action, Machine.act, goes]

theorem never_fails_beat {shown : Snapshot} (goes : machine.step around = (stepped, .ok shown))
    (number : Nat) : machine.Never Machine.Fails (beat around period number) := by
  refine Machine.never_cons.mpr ⟨?_, Machine.never_fails_puts _ _⟩
  rintro ⟨fault, refused⟩
  simp [goes] at refused

theorem schedule_succ (number count : Nat) :
    schedule around period number (count + 1) =
      beat around period number ++ schedule around period (number + 1) count := by
  simp only [schedule, List.range'_succ, List.flatMap_cons]

theorem schedule_concat (number count : Nat) :
    schedule around period number (count + 1) =
      schedule around period number count ++ beat around period (number + count) := by
  simp only [schedule, List.range'_1_concat, List.flatMap_append, List.flatMap_singleton]

end Step

/-! The turns of a run are the schedule, up to the first fault. -/

/-- How a run goes: it keeps to the schedule to the end, or up to a step that meets
a fault. -/
inductive Course (around : Surroundings) (period : Int) (remaining number : Nat)
    (machine : Machine) : Prop where
  | whole
      (faultless : machine.Never Machine.Fails (schedule around period number remaining))
      (turns_eq : turns around period remaining number machine =
        schedule around period number remaining)
      (ends : steps around period remaining number machine =
        (machine.through (schedule around period number remaining), .ok ()))
  | cut (done : Nat) (fault : Fault)
      (faultless : machine.Never Machine.Fails (schedule around period number done))
      (refused : ((machine.through (schedule around period number done)).step around).2 =
        .error fault)
      (turns_eq : turns around period remaining number machine =
        schedule around period number done ++ [.step around])
      (ends : steps around period remaining number machine =
        (machine.through (schedule around period number done ++ [.step around]),
          .error (.fault fault)))

theorem course (around : Surroundings) {period : Int} (nonzero : period ≠ 0)
    (remaining number : Nat) (machine : Machine) :
    Course around period remaining number machine := by
  induction remaining generalizing number machine with
  | zero => exact .whole (machine.never_nil _) rfl rfl
  | succ remaining ih =>
      rcases result : machine.step around with ⟨stepped, fault | shown⟩
      · refine .cut 0 fault (machine.never_nil _) (congrArg Prod.snd result)
          (turns_of_refused result remaining number) ?_
        rw [steps_of_refused result]
        exact congrArg (·, _) (congrArg Prod.fst result).symm
      · have passes : machine.through (beat around period number) = _ :=
          through_beat result number
        have clean : machine.Never Machine.Fails (beat around period number) :=
          never_fails_beat result number
        cases ih (number + 1) (stepped.queueTicks (due period number)) with
        | whole faultless turns_eq ends =>
            rw [← passes] at faultless ends
            refine .whole ?_ ?_ ?_
            · rw [schedule_succ]
              exact Machine.never_append.mpr ⟨clean, faultless⟩
            · rw [turns_of_stepped nonzero result, turns_eq, schedule_succ]
            · rw [steps_of_stepped nonzero result, ← passes, ends, schedule_succ,
                Machine.through_append]
        | cut done fault faultless refused turns_eq ends =>
            rw [← passes] at faultless refused ends
            refine .cut (done + 1) fault ?_ ?_ ?_ ?_
            · rw [schedule_succ]
              exact Machine.never_append.mpr ⟨clean, faultless⟩
            · rw [schedule_succ, Machine.through_append]
              exact refused
            · rw [turns_of_stepped nonzero result, turns_eq, schedule_succ, List.append_assoc]
            · rw [steps_of_stepped nonzero result, ← passes, ends, schedule_succ,
                List.append_assoc, Machine.through_append machine]

/-! What is counted. -/

theorem due_eq (period : Int) (number : Nat) :
    due period number = if period.natAbs ∣ number then [1] else [] := by
  unfold due
  congr 1
  rw [← Int.natCast_dvd_natCast, Int.natAbs_dvd]
  exact propext (Int.dvd_iff_emod_eq_zero).symm

theorem stepsIn_beat (around : Surroundings) (period : Int) (number : Nat) :
    stepsIn (beat around period number) = 1 := by
  simp [stepsIn, beat, Turn.isStep, List.countP_cons, List.countP_map, Function.comp_def]

theorem putsIn_beat (around : Surroundings) (period : Int) (number : Nat) :
    putsIn (beat around period number) = due period number := by
  simp [putsIn, beat, Turn.puts, List.flatMap_map]

theorem stepsIn_schedule (around : Surroundings) (period : Int) (number count : Nat) :
    stepsIn (schedule around period number count) = count := by
  induction count with
  | zero => rfl
  | succ count ih => rw [schedule_concat, stepsIn_append, ih, stepsIn_beat]

/-- A tick is due after every step whose number is a multiple of the period, so there
are as many as multiples. -/
theorem putsIn_schedule (around : Surroundings) (period : Int) (count : Nat) :
    putsIn (schedule around period 1 count) = List.replicate (count / period.natAbs) 1 := by
  induction count with
  | zero => simp [schedule, putsIn]
  | succ count ih =>
      rw [schedule_concat, putsIn_append, ih, putsIn_beat, due_eq, Nat.add_comm 1 count,
        Nat.succ_div]
      split
      · rw [List.replicate_succ']
      · simp

/-- Of the ticks of a schedule only those due after the last step are still there. -/
theorem ticks_through_schedule {around : Surroundings} {period : Int} {machine : Machine}
    {count : Nat} (faultless : machine.Never Machine.Fails (schedule around period 1 (count + 1))) :
    (machine.through (schedule around period 1 (count + 1))).ticks = due period (count + 1) := by
  rw [schedule_concat, Nat.add_comm 1 count] at faultless ⊢
  rw [Machine.through_append]
  obtain ⟨-, last⟩ := Machine.never_append.mp faultless
  obtain ⟨goes, -⟩ := Machine.never_cons.mp last
  rcases result : (machine.through (schedule around period 1 count)).step around with
    ⟨stepped, fault | shown⟩
  · exact absurd ⟨fault, congrArg Prod.snd result⟩ goes
  · have emptied : stepped.ticks = [] := by
      have drains := Machine.ticks_step_of_ok (congrArg Prod.snd result)
      rwa [result] at drains
    rw [through_beat result, Machine.queueTicks, emptied, List.nil_append]

/-- What a schedule of so many cycles leaves on a queue that was empty. -/
theorem ticks_of_faultless {around : Surroundings} {cycles period : Int} {machine : Machine}
    (unqueued : machine.ticks = [])
    (faultless : machine.Never Machine.Fails (schedule around period 1 cycles.toNat)) :
    (machine.through (schedule around period 1 cycles.toNat)).ticks =
      if 0 < cycles ∧ period ∣ cycles then [1] else [] := by
  cases count : cycles.toNat with
  | zero =>
      rw [if_neg (by omega)]
      exact unqueued
  | succ last =>
      rw [count] at faultless
      have same : cycles = (last + 1 : Nat) := by omega
      have divides : period ∣ cycles ↔ period.natAbs ∣ last + 1 := by
        rw [same, ← Int.natAbs_dvd_natAbs, Int.natAbs_natCast]
      have positive : 0 < cycles := by omega
      simp only [ticks_through_schedule faultless, due_eq, divides, positive, true_and]

/-! The whole run. -/

def runTurns (around : Surroundings) (cycles period : Int) (machine : Machine) : List Turn :=
  turns around period cycles.toNat 1 machine

/-- The turns are all that a run does to the machine. -/
theorem run_through (around : Surroundings) (cycles : Int) {period : Int} (nonzero : period ≠ 0)
    (machine : Machine) :
    (run around cycles period machine).1 =
      machine.through (runTurns around cycles period machine) := by
  cases course around nonzero cycles.toNat 1 machine with
  | whole faultless turns_eq ends => rw [runTurns, turns_eq, run, ends]
  | cut done fault faultless refused turns_eq ends => rw [runTurns, turns_eq, run, ends]

/-- A run in which no step meets a fault keeps to the schedule to the end. -/
theorem runTurns_of_faultless {around : Surroundings} {cycles period : Int} (nonzero : period ≠ 0)
    {machine : Machine}
    (never : machine.Never Machine.Fails (runTurns around cycles period machine)) :
    (run around cycles period machine).2 = .ok () ∧
      runTurns around cycles period machine = schedule around period 1 cycles.toNat := by
  cases course around nonzero cycles.toNat 1 machine with
  | whole faultless turns_eq ends => exact ⟨by rw [run, ends], turns_eq⟩
  | cut done fault faultless refused turns_eq ends =>
      rw [runTurns, turns_eq] at never
      exact absurd ⟨fault, refused⟩ (never _ _ [] rfl)

theorem run_ne_zeroPeriod (around : Surroundings) (cycles : Int) {period : Int}
    (nonzero : period ≠ 0) (machine : Machine) :
    (run around cycles period machine).2 ≠ .error .zeroPeriod := by
  rw [run]
  cases course around nonzero cycles.toNat 1 machine with
  | whole faultless turns_eq ends => simp [ends]
  | cut done fault faultless refused turns_eq ends => simp [ends]

/-- The books of a run without a window. -/
structure Account (around : Surroundings) (cycles period : Int) (machine : Machine) :
    Prop where
  /-- The turns are all that the run does to the machine. -/
  through : (run around cycles period machine).1 =
    machine.through (runTurns around cycles period machine)
  whole : machine.Never Machine.Fails (runTurns around cycles period machine) →
    (run around cycles period machine).2 = .ok () ∧
      stepsIn (runTurns around cycles period machine) = cycles.toNat ∧
      putsIn (runTurns around cycles period machine) =
        List.replicate (cycles.toNat / period.natAbs) 1 ∧
      (run around cycles period machine).1.ticks =
        if 0 < cycles ∧ period ∣ cycles then [1] else []
  /-- A step that meets a fault is the last one, and the fault is what the run ends
  with. -/
  cut : ∀ earlier later elsewhere fault,
    runTurns around cycles period machine = earlier ++ .step elsewhere :: later →
    ((machine.through earlier).step elsewhere).2 = .error fault →
    later = [] ∧ (run around cycles period machine).2 = .error (.fault fault) ∧
      putsIn (runTurns around cycles period machine) =
        List.replicate ((stepsIn (runTurns around cycles period machine) - 1) / period.natAbs) 1

theorem account (around : Surroundings) (cycles : Int) {period : Int} (nonzero : period ≠ 0)
    {machine : Machine} (unqueued : machine.ticks = []) :
    Account around cycles period machine := by
  have through := run_through around cycles nonzero machine
  cases course around nonzero cycles.toNat 1 machine with
  | whole faultless turns_eq ends =>
      refine ⟨through, fun _ => ⟨?_, ?_, ?_, ?_⟩, ?_⟩
      · rw [run, ends]
      · rw [runTurns, turns_eq, stepsIn_schedule]
      · rw [runTurns, turns_eq, putsIn_schedule]
      · rw [run, ends]
        exact ticks_of_faultless unqueued faultless
      · intro earlier later elsewhere fault split refused
        rw [runTurns, turns_eq] at split
        exact absurd ⟨fault, refused⟩ (faultless earlier _ later split)
  | cut done fault faultless refused turns_eq ends =>
      refine ⟨through, fun never => ?_, ?_⟩
      · rw [runTurns, turns_eq] at never
        exact absurd ⟨fault, refused⟩ (never _ _ [] rfl)
      · intro earlier later elsewhere met split meets
        rw [runTurns, turns_eq] at split
        obtain ⟨rfl, same, rfl⟩ := Machine.eq_last_of_fails faultless split ⟨met, meets⟩
        obtain rfl : elsewhere = around := by simpa using same
        obtain rfl : fault = met := Except.error.inj (refused.symm.trans meets)
        refine ⟨rfl, by rw [run, ends], ?_⟩
        rw [runTurns, turns_eq, putsIn_append, stepsIn_append, putsIn_schedule,
          stepsIn_schedule]
        exact List.append_nil _

/-! A run in two parts, and the sign of the period. -/

theorem steps_add (around : Surroundings) (period : Int) (first second number : Nat)
    (machine : Machine) :
    steps around period (first + second) number machine =
      andThen (steps around period first number machine)
        (steps around period second (number + first)) := by
  induction first generalizing number machine with
  | zero => rw [Nat.zero_add, steps]; rfl
  | succ first ih =>
      rw [Nat.add_right_comm, steps, steps]
      split
      · rfl
      · split
        · rfl
        · rw [ih, Nat.add_right_comm number 1 first, Nat.add_assoc number first 1]

/-- Which of its steps are followed by a tick depends on their numbers only up to a
multiple of the period. -/
theorem steps_shift (around : Surroundings) {period : Int} {shift : Nat}
    (multiple : period ∣ shift) (remaining number : Nat) (machine : Machine) :
    steps around period remaining (number + shift) machine =
      steps around period remaining number machine := by
  induction remaining generalizing number machine with
  | zero => rfl
  | succ remaining ih =>
      have same : ((number + shift : Nat) : Int) % period = (number : Int) % period := by
        obtain ⟨times, eq⟩ := multiple
        rw [Int.natCast_add, eq, Int.add_mul_emod_self_left]
      rw [steps, steps, same]
      split
      · rfl
      · rw [Nat.add_right_comm, ih]

theorem run_add (around : Surroundings) {period first second : Int} (nonneg : 0 ≤ first)
    (nonneg' : 0 ≤ second) (multiple : period ∣ first) (machine : Machine) :
    andThen (run around first period machine) (run around second period) =
      run around (first + second) period machine := by
  have multiple' : period ∣ (first.toNat : Int) := by rwa [Int.toNat_of_nonneg nonneg]
  have shifted : steps around period second.toNat (1 + first.toNat) =
      steps around period second.toNat 1 :=
    funext (steps_shift around multiple' second.toNat 1)
  unfold run
  rw [Int.toNat_add nonneg nonneg', steps_add, shifted]

theorem steps_neg (around : Surroundings) (period : Int) (remaining number : Nat)
    (machine : Machine) :
    steps around (-period) remaining number machine =
      steps around period remaining number machine := by
  induction remaining generalizing number machine with
  | zero => rfl
  | succ remaining ih => simp only [steps, Int.emod_neg, neg_eq_zero, ih]

/-- The ticks of a run without a window.  Without a fault it takes as many steps as are
asked for and puts a tick on the queue for each multiple of the period among their
numbers; the last of these is still there if it came after the last step.  With a fault
in a step it puts the ticks due before that step and no more.  A run can be taken in
two parts at a multiple of the period, also where one of them meets a fault, and the
sign of the period does not matter. -/
theorem run_schedule (around : Surroundings) (cycles : Int) {period : Int} (nonzero : period ≠ 0)
    {machine : Machine} (unqueued : machine.ticks = []) :
    Account around cycles period machine ∧
      (∀ first second, 0 ≤ first → 0 ≤ second → |period| ∣ first →
        andThen (run around first period machine) (run around second period) =
          run around (first + second) period machine) ∧
      run around cycles (-period) machine = run around cycles period machine := by
  refine ⟨account around cycles nonzero unqueued, ?_, ?_⟩
  · intro first second nonneg nonneg' multiple
    exact run_add around nonneg nonneg' ((abs_dvd period first).mp multiple) machine
  · exact steps_neg around period cycles.toNat 1 machine

section Spinning

open Machine (spinning quiet)

theorem step_spinning (ticks : List Nat) :
    ∃ shown, (spinning.queueTicks ticks).step quiet = (spinning, .ok shown) := by
  have current : (spinning.queueTicks ticks).currentWord = .ok 0xB200 :=
    Machine.currentWord_spinning
  have carried : (spinning.queueTicks ticks).executeCurrent quiet =
      (spinning.queueTicks ticks, .ok (.jump 0x200)) := by
    rw [Machine.executeCurrent_of_decode current rfl]
    rfl
  have rests : (spinning.queueTicks ticks).wait = .idle := rfl
  have still : ((spinning.queueTicks ticks).follow (.jump 0x200)).drainTicks = spinning := by
    rw [Machine.drainTicks_eq, Registers.tick_of_zero rfl rfl]
    rfl
  refine ⟨spinning.snapshot, ?_⟩
  rw [Machine.step_of_flow rests carried, still]

theorem never_fails_spinning {period : Int} (nonzero : period ≠ 0) (remaining number : Nat)
    (ticks : List Nat) :
    (spinning.queueTicks ticks).Never Machine.Fails
      (turns quiet period remaining number (spinning.queueTicks ticks)) := by
  induction remaining generalizing number ticks with
  | zero => exact Machine.never_nil _ _
  | succ remaining ih =>
      obtain ⟨shown, goes⟩ := step_spinning ticks
      rw [turns_of_stepped nonzero goes, Machine.never_append, through_beat goes]
      exact ⟨never_fails_beat goes number, ih (number + 1) _⟩

/-- Seven steps with a period of three, down or up, put two ticks, and none of them is
left. -/
theorem run_schedule_spinning :
    putsIn (runTurns quiet 7 (-3) spinning) = [1, 1] ∧
      (run quiet 7 (-3) spinning).1.ticks = [] ∧
      andThen (run quiet 6 (-3) spinning) (run quiet 1 (-3)) = run quiet 7 (-3) spinning ∧
      run quiet 7 3 spinning = run quiet 7 (-3) spinning := by
  have nonzero : (-3 : Int) ≠ 0 := by decide
  obtain ⟨books, split, signed⟩ :=
    run_schedule quiet 7 nonzero (rfl : spinning.ticks = [])
  obtain ⟨-, -, puts, left⟩ := books.whole (never_fails_spinning nonzero 7 1 [])
  exact ⟨puts, left, split 6 1 (by decide) (by decide) (by decide), signed⟩

end Spinning

/-! One second. -/

theorem cyclesPerTick_of_le {settings : Settings}
    (fast : settings.timerHz.val ≤ settings.clockHz.val) :
    settings.cyclesPerTick = settings.clockHz.val / settings.timerHz.val :=
  Nat.max_eq_right (Nat.div_pos fast settings.timerHz.property)

theorem cyclesPerTick_of_lt {settings : Settings}
    (slow : settings.clockHz.val < settings.timerHz.val) : settings.cyclesPerTick = 1 := by
  rw [Settings.cyclesPerTick, Nat.div_eq_of_lt slow]
  rfl

/-- How often the whole part of `clock / timer` goes into `clock`: no less than `timer`
times, and exactly so often if the rest is smaller than it. -/
theorem div_div_bounds {clock timer : Nat} (positive : 0 < timer) (fast : timer ≤ clock) :
    timer ≤ clock / (clock / timer) ∧ clock / (clock / timer) < 2 * timer ∧
      (clock / (clock / timer) = timer ↔ clock % timer < clock / timer) := by
  have period : 0 < clock / timer := Nat.div_pos fast positive
  have whole : timer * (clock / timer) + clock % timer = clock := Nat.div_add_mod clock timer
  have rest : clock % timer < timer := Nat.mod_lt clock positive
  have one : timer ≤ timer * (clock / timer) := Nat.le_mul_of_pos_right timer period
  refine ⟨?_, ?_, ?_⟩
  · rw [Nat.le_div_iff_mul_le period]
    omega
  · rw [Nat.div_lt_iff_lt_mul period, Nat.mul_assoc]
    omega
  · rw [Nat.div_eq_iff period]
    omega

/-- The ticks of one second of cycles, put in the turns that make up the run.  If the clock
is as fast as the timers or faster, there are as many as the timers ask for or more, but not
twice as many, and exactly as many just if the rest of the division is smaller than the
period.  If the clock is slower, there is one a cycle.  Neither the period nor the steps of a
frame are ever zero. -/
theorem ticks_of_second (settings : Settings) :
    1 ≤ settings.cyclesPerTick ∧ 1 ≤ settings.cyclesPerFrame ∧
      (∀ around cycles machine,
        (run around cycles settings.cyclesPerTick machine).2 ≠ .error .zeroPeriod) ∧
      ∀ around machine,
        let clock := settings.clockHz.val
        let timer := settings.timerHz.val
        let ran := run around clock settings.cyclesPerTick machine
        let turns := runTurns around clock settings.cyclesPerTick machine
        let ticks := (putsIn turns).length
        ran.1 = machine.through turns ∧
        (machine.Never Machine.Fails turns →
          ran.2 = .ok () ∧ stepsIn turns = clock ∧
          (timer ≤ clock →
            timer ≤ ticks ∧ ticks < 2 * timer ∧ (ticks = timer ↔ clock % timer < clock / timer)) ∧
          (clock < timer → ticks = clock)) := by
  have least : 1 ≤ settings.cyclesPerTick := Nat.le_max_left 1 _
  have nonzero : (settings.cyclesPerTick : Int) ≠ 0 := by omega
  refine ⟨least, Nat.le_max_left 1 _, fun around cycles machine =>
    run_ne_zeroPeriod around cycles nonzero machine, ?_⟩
  intro around machine clock timer ran turns ticks
  refine ⟨run_through around clock nonzero machine, fun faultless => ?_⟩
  obtain ⟨ends, scheduled⟩ := runTurns_of_faultless nonzero faultless
  have stepped : stepsIn turns = clock := by
    simp only [turns]
    rw [scheduled, stepsIn_schedule, Int.toNat_natCast]
  have counted : ticks = clock / settings.cyclesPerTick := by
    simp only [ticks, turns]
    rw [scheduled, putsIn_schedule, List.length_replicate, Int.toNat_natCast, Int.natAbs_natCast]
  refine ⟨ends, stepped, ?_⟩
  rw [counted]
  constructor
  · intro fast
    rw [cyclesPerTick_of_le fast]
    exact div_div_bounds settings.timerHz.property fast
  · intro slow
    rw [cyclesPerTick_of_lt slow, Nat.div_one]

/-- Five hundred cycles with sixty ticks asked for. -/
theorem ticks_of_second_spinning :
    let turns := runTurns Machine.quiet Settings.standard.clockHz.val
      Settings.standard.cyclesPerTick Machine.spinning
    let ticks := (putsIn turns).length
    (run Machine.quiet Settings.standard.clockHz.val Settings.standard.cyclesPerTick
      Machine.spinning).1 = Machine.spinning.through turns ∧
      stepsIn turns = 500 ∧ 60 ≤ ticks ∧ ticks < 120 ∧ ticks ≠ 60 := by
  have nonzero : (Settings.standard.cyclesPerTick : Int) ≠ 0 := by decide
  have faultless := never_fails_spinning nonzero 500 1 []
  obtain ⟨through, rest⟩ := (ticks_of_second .standard).2.2.2 Machine.quiet Machine.spinning
  obtain ⟨_, stepped, bounds, _⟩ := rest faultless
  obtain ⟨low, high, exact_iff⟩ := bounds (by decide)
  exact ⟨through, stepped, low, high, fun same => absurd (exact_iff.mp same) (by decide)⟩

end Headless
end Chip8
