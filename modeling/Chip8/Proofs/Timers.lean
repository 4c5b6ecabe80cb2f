import Chip8.Proofs.Displacement

/-!
Ticks and timers.  Ticks are put on the queue at any moment, by the ticker and by
anyone else, and the next step that succeeds takes them all off.  Over every
interleaving of puts and steps the queue holds what was put since the last step
that succeeded, and a timer stands at what it was last loaded with less the ticks
taken off the queue since, those of the loading step among them.
-/

namespace Chip8

inductive Timer where
  | delay
  | sound
deriving DecidableEq, Repr

namespace Timer

def value (registers : Registers) : Timer → UInt8
  | .delay => registers.delay
  | .sound => registers.sound

/-- The instruction that loads a timer. -/
def load (x : Register) : Timer → Instruction
  | .delay => .setDelay x
  | .sound => .setSound x

/-- The form of the words that load a timer. -/
def form : Timer → String
  | .delay => "FX15"
  | .sound => "FX18"

theorem form_mem (timer : Timer) : timer.form ∈ instructionForms := by
  cases timer <;> decide

theorem form_load (timer : Timer) (x : Register) : (timer.load x).form = timer.form := by
  cases timer <;> rfl

theorem exists_load_of_form {timer : Timer} {instruction : Instruction}
    (same : instruction.form = timer.form) : ∃ x, instruction = timer.load x := by
  cases timer <;> cases instruction
  case delay.arithmetic operation _ _ | sound.arithmetic operation _ _ =>
    cases operation <;> simp [form, Instruction.form, Arithmetic.form] at same
  all_goals simp [form, Instruction.form, load] at same ⊢

theorem register?_load (timer : Timer) (x : Register) : (timer.load x).register? = some x := by
  cases timer <;> rfl

theorem value_tick (timer : Timer) (registers : Registers) (ticks : Nat) :
    (timer.value (registers.tick ticks)).toNat = (timer.value registers).toNat - ticks := by
  cases timer <;> exact Registers.toNat_countDown _ _

theorem value_set (timer : Timer) (registers : Registers) (x : Register) (value : UInt8) :
    timer.value (registers.set x value) = timer.value registers := by
  cases timer <;> rfl

end Timer

/-- What happens to a machine that is neither reset nor given another program or
dialect: some ticks are put on the queue, or a step is taken. -/
inductive Turn where
  | put (ticks : Nat)
  | step (around : Surroundings)

namespace Turn

def action : Turn → Action
  | .put ticks => .queue [ticks]
  | .step around => .step around

def puts : Turn → List Nat
  | .put ticks => [ticks]
  | .step _ => []

end Turn

namespace Machine

/-! What an instruction, a look at the keys and a step do to a timer. -/

theorem value_perform_load (timer : Timer) (x : Register) (around : Surroundings)
    (machine : Machine) :
    timer.value (machine.perform around (timer.load x)).1.registers = machine.registers.get x := by
  cases timer <;> rfl

/-- Only the loading instructions touch the timers. -/
theorem value_perform (timer : Timer) (around : Surroundings) (machine : Machine)
    {instruction : Instruction} (other : ∀ x, instruction ≠ timer.load x) :
    timer.value (machine.perform around instruction).1.registers =
      timer.value machine.registers := by
  rw [perform.eq_def]
  cases timer <;> cases instruction
  case delay.setDelay x => exact absurd rfl (other x)
  case sound.setSound x => exact absurd rfl (other x)
  all_goals dsimp only <;> (try split) <;> simp [Timer.value]

theorem value_follow (timer : Timer) (machine : Machine) (flow : Flow) :
    timer.value (machine.follow flow).registers = timer.value machine.registers := by
  cases timer <;> rfl

theorem value_serveWait (timer : Timer) (held : Key → Bool) (machine : Machine) :
    timer.value (machine.serveWait held).registers = timer.value machine.registers := by
  rcases machine.registers_serveWait held with same | ⟨x, value, changed⟩ | moved
  · rw [same]
  · rw [changed, timer.value_set]
  · rw [moved, value_follow]

theorem value_drainTicks (timer : Timer) (machine : Machine) :
    (timer.value machine.drainTicks.registers).toNat =
      (timer.value machine.registers).toNat - machine.ticks.sum := by
  rw [drainTicks_eq]
  exact timer.value_tick _ _

/-! Turns. -/

def through (machine : Machine) (turns : List Turn) : Machine :=
  machine.run (turns.map Turn.action)

theorem through_cons (machine : Machine) (turn : Turn) (rest : List Turn) :
    machine.through (turn :: rest) = (machine.act turn.action).through rest := rfl

theorem through_append (machine : Machine) (earlier later : List Turn) :
    machine.through (earlier ++ later) = (machine.through earlier).through later := by
  simp [through, run]

def Succeeds (machine : Machine) : Turn → Prop
  | .put _ => False
  | .step around => ∃ snapshot, (machine.step around).2 = .ok snapshot

/-- A turn is a step that loads a timer with a value, which is that of the
register its word names. -/
def Loads (machine : Machine) (timer : Timer) (value : UInt8) : Turn → Prop
  | .put _ => False
  | .step around => ∃ word, machine.CarriesOut ⟨[], around⟩ word ∧
      hasForm timer.form word = true ∧ value = machine.registers.get (nibble (word / 256))

def LoadsAny (timer : Timer) (machine : Machine) (turn : Turn) : Prop :=
  ∃ value, machine.Loads timer value turn

/-- The ticks that a turn takes off the queue. -/
def taken (machine : Machine) : Turn → Nat
  | .put _ => 0
  | .step around => machine.ticks.sum - (machine.step around).1.ticks.sum

/-- The ticks that some turns take off the queue. -/
def drained (machine : Machine) : List Turn → Nat
  | [] => 0
  | turn :: rest => machine.taken turn + (machine.act turn.action).drained rest

/-- Nothing of a kind happens in some turns. -/
def Never (machine : Machine) (happens : Machine → Turn → Prop) (turns : List Turn) : Prop :=
  ∀ before turn rest, turns = before ++ turn :: rest → ¬ happens (machine.through before) turn

theorem never_nil (machine : Machine) (happens : Machine → Turn → Prop) :
    machine.Never happens [] := by
  intro before turn rest split
  simp at split

theorem never_cons {machine : Machine} {happens : Machine → Turn → Prop} {turn : Turn}
    {rest : List Turn} :
    machine.Never happens (turn :: rest) ↔
      ¬ happens machine turn ∧ (machine.act turn.action).Never happens rest := by
  constructor
  · intro never
    refine ⟨never [] turn rest rfl, ?_⟩
    rintro before later after rfl
    exact never (turn :: before) later after rfl
  · rintro ⟨here, after⟩ before later tail split
    cases before with
    | nil =>
        obtain ⟨rfl, rfl⟩ := List.cons.inj split
        exact here
    | cons first before =>
        obtain ⟨rfl, rfl⟩ := List.cons.inj split
        exact after before later tail rfl

/-- What happens in some turns happens in one of them for the last time. -/
theorem never_or_latest (happens : Machine → Turn → Prop) (machine : Machine)
    (turns : List Turn) :
    machine.Never happens turns ∨
      ∃ earlier turn later, turns = earlier ++ turn :: later ∧
        happens (machine.through earlier) turn ∧
        (machine.through (earlier ++ [turn])).Never happens later := by
  induction turns generalizing machine with
  | nil => exact .inl (machine.never_nil happens)
  | cons turn rest ih =>
      rcases ih (machine.act turn.action) with never | ⟨earlier, last, later, rfl, here, never⟩
      · by_cases here : happens machine turn
        · exact .inr ⟨[], turn, rest, rfl, here, never⟩
        · exact .inl (never_cons.mpr ⟨here, never⟩)
      · exact .inr ⟨turn :: earlier, last, later, rfl, here, never⟩

theorem ticks_of_never_succeeds {machine : Machine} {turns : List Turn}
    (never : machine.Never Succeeds turns) :
    (machine.through turns).ticks = machine.ticks ++ turns.flatMap Turn.puts := by
  induction turns generalizing machine with
  | nil => simp [through, run]
  | cons turn rest ih =>
      obtain ⟨fails, never⟩ := never_cons.mp never
      rw [through_cons, ih never, List.flatMap_cons, ← List.append_assoc]
      congr 1
      cases turn with
      | put ticks => rfl
      | step around =>
          cases result : (machine.step around).2 with
          | error fault =>
              rw [Turn.puts, List.append_nil]
              exact ticks_step_of_error result
          | ok snapshot => exact absurd ⟨snapshot, result⟩ fails

theorem ticks_of_succeeds {machine : Machine} {turn : Turn} (h : machine.Succeeds turn) :
    (machine.act turn.action).ticks = [] := by
  cases turn with
  | put ticks => exact h.elim
  | step around =>
      obtain ⟨snapshot, succeeds⟩ := h
      exact ticks_step_of_ok succeeds

/-- No tick is lost and none is doubled: what is taken off the queue and what is
left on it is what was there and what has been put. -/
theorem taken_add (machine : Machine) (turn : Turn) :
    machine.taken turn + (machine.act turn.action).ticks.sum =
      machine.ticks.sum + turn.puts.sum := by
  cases turn with
  | put ticks => simp [taken, act, Turn.action, Turn.puts, queueTicks]
  | step around =>
      have less : (machine.step around).1.ticks.sum ≤ machine.ticks.sum := by
        cases result : (machine.step around).2 with
        | error fault => rw [ticks_step_of_error result]
        | ok snapshot => simp [ticks_step_of_ok result]
      exact Nat.sub_add_cancel less

theorem drained_add (machine : Machine) (turns : List Turn) :
    machine.drained turns + (machine.through turns).ticks.sum =
      machine.ticks.sum + (turns.flatMap Turn.puts).sum := by
  induction turns generalizing machine with
  | nil => simp [drained, through, run]
  | cons turn rest ih =>
      have first := machine.taken_add turn
      have later := ih (machine.act turn.action)
      rw [drained, through_cons, List.flatMap_cons, List.sum_append]
      omega

/-- One turn: a step that loads a timer does so before the ticks reach it. -/
theorem value_act (timer : Timer) (machine : Machine) (turn : Turn) :
    (∃ value, machine.Loads timer value turn ∧
      (timer.value (machine.act turn.action).registers).toNat =
        value.toNat - machine.taken turn) ∨
    ¬ LoadsAny timer machine turn ∧
      (timer.value (machine.act turn.action).registers).toNat =
        (timer.value machine.registers).toNat - machine.taken turn := by
  cases turn with
  | put ticks =>
      refine .inr ⟨?_, rfl⟩
      rintro ⟨value, loads⟩
      exact loads
  | step around =>
      have unqueued : machine.pass ⟨[], around⟩ = machine.step around := by
        simp [pass, queueTicks]
      simp only [Turn.action, act, taken, LoadsAny, Loads, CarriesOut, unqueued]
      have way := step_case around machine
      generalize machine.step around = result at way ⊢
      cases way with
      | served waiting served eq =>
          subst eq
          refine .inr ⟨?_, ?_⟩
          · rintro ⟨value, word, ⟨idle, _⟩, _⟩
            exact waiting idle
          · rw [value_drainTicks, value_serveWait, serveWait_ticks]
            rfl
      | refused idle fault failed =>
          refine .inr ⟨?_, by simp⟩
          rintro ⟨value, word, ⟨_, _, snapshot, succeeds⟩, _⟩
          exact absurd succeeds (by simp)
      | obeyed idle word instruction performed flow moved fetched decoded performs eq =>
          subst eq
          have queue := perform_ticks around { machine with redraw := false } instruction
          rw [performs] at queue
          have drains : (timer.value (performed.follow flow).drainTicks.registers).toNat =
              (timer.value performed.registers).toNat - machine.ticks.sum := by
            rw [value_drainTicks, value_follow, ← queue]
            rfl
          by_cases loads : ∃ x, instruction = timer.load x
          · obtain ⟨x, rfl⟩ := loads
            have form := Instruction.hasForm_of_decode? decoded
            rw [timer.form_load] at form
            obtain rfl := Instruction.register?_of_decode? decoded (timer.register?_load x)
            have loaded := value_perform_load timer (nibble (word / 256)) around
              { machine with redraw := false }
            rw [performs] at loaded
            refine .inl ⟨_, ⟨word, ⟨idle, fetched, _, rfl⟩, form, rfl⟩, ?_⟩
            rw [drains, loaded]
            rfl
          · refine .inr ⟨?_, ?_⟩
            · rintro ⟨value, other, ⟨_, current, _⟩, form, _⟩
              obtain rfl : word = other := Except.ok.inj (fetched.symm.trans current)
              rw [Instruction.hasForm_iff (word_lt_of_fetched fetched) timer.form_mem,
                decoded] at form
              exact loads (Timer.exists_load_of_form (Option.some.inj form))
            · have kept := value_perform timer around { machine with redraw := false }
                (fun x same => loads ⟨x, same⟩)
              rw [performs] at kept
              rw [drains, kept]
              rfl

/-- Turns that do not load a timer only count it down. -/
theorem value_of_never_loads {timer : Timer} {machine : Machine} {turns : List Turn}
    (never : machine.Never (LoadsAny timer) turns) :
    (timer.value (machine.through turns).registers).toNat =
      (timer.value machine.registers).toNat - machine.drained turns := by
  induction turns generalizing machine with
  | nil => simp [drained, through, run]
  | cons turn rest ih =>
      obtain ⟨unloaded, never⟩ := never_cons.mp never
      rcases machine.value_act timer turn with ⟨value, loads, _⟩ | ⟨_, counted⟩
      · exact absurd ⟨value, loads⟩ unloaded
      · rw [through_cons, ih never, counted, drained, Nat.sub_sub]

/-- After some turns the queue holds what was put on it since the last step that
succeeded, in order. -/
def QueueSinceSuccess (machine : Machine) (turns : List Turn) : Prop :=
  ∃ earlier later, turns = earlier ++ later ∧
    (earlier = [] ∨ ∃ before turn, earlier = before ++ [turn] ∧
      (machine.through before).Succeeds turn) ∧
    (machine.through earlier).Never Succeeds later ∧
    (machine.through turns).ticks = later.flatMap Turn.puts

/-- After some turns a timer stands at what it was last loaded with, or at what it
was at first, less the ticks taken off the queue since, the loading step's own
among them. -/
def ValueSinceLoad (machine : Machine) (timer : Timer) (turns : List Turn) : Prop :=
  machine.Never (LoadsAny timer) turns ∧
      (timer.value (machine.through turns).registers).toNat =
        (timer.value machine.registers).toNat - machine.drained turns ∨
    ∃ earlier turn later value, turns = earlier ++ turn :: later ∧
      (machine.through earlier).Loads timer value turn ∧
      (machine.through (earlier ++ [turn])).Never (LoadsAny timer) later ∧
      (timer.value (machine.through turns).registers).toNat =
        value.toNat - (machine.through earlier).drained (turn :: later)

theorem queueSinceSuccess {machine : Machine} (unqueued : machine.ticks = [])
    (turns : List Turn) : machine.QueueSinceSuccess turns := by
  rcases never_or_latest Succeeds machine turns with
    never | ⟨before, turn, later, rfl, succeeds, never⟩
  · refine ⟨[], turns, rfl, .inl rfl, never, ?_⟩
    rw [ticks_of_never_succeeds never, unqueued, List.nil_append]
  · refine ⟨before ++ [turn], later, by simp, .inr ⟨before, turn, rfl, succeeds⟩, never, ?_⟩
    have emptied : (machine.through (before ++ [turn])).ticks = [] := by
      rw [through_append]
      exact ticks_of_succeeds succeeds
    rw [List.append_cons, through_append, ticks_of_never_succeeds never, emptied, List.nil_append]

theorem valueSinceLoad (machine : Machine) (timer : Timer) (turns : List Turn) :
    machine.ValueSinceLoad timer turns := by
  rcases never_or_latest (LoadsAny timer) machine turns with
    never | ⟨earlier, turn, later, rfl, loadsAny, never⟩
  · exact .inl ⟨never, value_of_never_loads never⟩
  · rcases (machine.through earlier).value_act timer turn with
      ⟨value, loads, counted⟩ | ⟨unloaded, _⟩
    · refine .inr ⟨earlier, turn, later, value, rfl, loads, never, ?_⟩
      have after : machine.through (earlier ++ [turn]) =
          (machine.through earlier).act turn.action := through_append machine earlier [turn]
      rw [after] at never
      rw [through_append, through_cons, value_of_never_loads never, counted, drained, Nat.sub_sub]
    · exact absurd loadsAny unloaded

theorem soundOn_of_ok {machine : Machine} {around : Surroundings} {shown : Snapshot}
    (h : (machine.step around).2 = .ok shown) :
    shown.soundOn = true ↔ 0 < (Timer.sound.value (machine.step around).1.registers).toNat := by
  rw [← snapshot_of_ok h]
  simp [snapshot, Timer.value, UInt8.lt_iff_toNat_lt]

/-- The books of ticks and timers after some turns. -/
structure TickAccount (machine : Machine) (turns : List Turn) : Prop where
  queue : machine.QueueSinceSuccess turns
  /-- A step that meets a fault takes nothing off the queue. -/
  refused : ∀ around fault, ((machine.through turns).step around).2 = .error fault →
    ((machine.through turns).step around).1.ticks = (machine.through turns).ticks
  /-- What has been taken off the queue and what is on it is what has been put. -/
  conserved : machine.drained turns + (machine.through turns).ticks.sum =
    (turns.flatMap Turn.puts).sum
  timer : ∀ timer, machine.ValueSinceLoad timer turns
  soundOn : ∀ around shown, ((machine.through turns).step around).2 = .ok shown →
    (shown.soundOn = true ↔
      0 < (Timer.sound.value (machine.through (turns ++ [.step around])).registers).toNat)
  /-- Of the queue a step that succeeds looks at the sum alone. -/
  sum_only : ∀ around shown ticks, ((machine.through turns).step around).2 = .ok shown →
    ticks.sum = (machine.through turns).ticks.sum →
    { machine.through turns with ticks }.step around = (machine.through turns).step around

/-- Over every interleaving of puts and steps no tick is lost, doubled or wrapped. -/
theorem tickAccount_of_turns (machine : Machine) (unqueued : machine.ticks = [])
    (turns : List Turn) : machine.TickAccount turns where
  queue := queueSinceSuccess unqueued turns
  refused around fault failed := ticks_step_of_error failed
  conserved := by simpa [unqueued] using machine.drained_add turns
  timer timer := machine.valueSinceLoad timer turns
  soundOn around shown succeeds := by
    rw [through_append]
    exact soundOn_of_ok succeeds
  sum_only around shown ticks succeeds same := by
    obtain ⟨moved, moves⟩ := step_of_ok succeeds
    have other := moves around 0 ticks (machine.through turns).redraw rfl
    have now := moves around 0 (machine.through turns).ticks (machine.through turns).redraw rfl
    rw [same] at other
    exact other.trans now.symm

/-- A machine about to load the delay timer. -/
def counting : Machine :=
  { initial {} with
    memory := Memory.initial.place programStart [0xF5, 0x15]
    registers := Registers.initial.set (nibble 5) 9 }

theorem tickAccount_of_turns_counting :
    counting.ticks = [] ∧
      (counting.through [.put 4]).Loads .delay 9 (.step quiet) ∧
      counting.TickAccount [.put 4, .step quiet, .put 1, .put 2] := by
  have fetched : counting.currentWord = .ok 0xF515 := by
    rw [currentWord, Memory.readWord_natCast]
    simp [counting, initial, Registers.initial, Memory.byte_place, programStart, memorySize]
  have current : { counting with ticks := [4] }.currentWord = .ok 0xF515 := fetched
  have carried : { counting with ticks := [4] }.executeCurrent quiet = (_, .ok .advance) :=
    executeCurrent_of_decode current rfl
  refine ⟨rfl, ⟨0xF515, ⟨rfl, fetched, ?_⟩, by decide, by decide⟩,
    tickAccount_of_turns counting rfl _⟩
  have rests : { counting with ticks := [4] }.wait = .idle := rfl
  exact ⟨_, congrArg Prod.snd (step_of_flow rests carried)⟩

end Machine
end Chip8
