import Chip8.Proofs.Timers

/-!
Reloading.  A reset leaves the queue of ticks and the place in the random sequence
as they are.  A machine that is reset and given a program runs all the same like
one just switched on: its timers are at zero when the old ticks reach them, and if
its first step meets a fault, it meets that fault for ever.
-/

namespace Chip8

/-- The moment with the first random numbers left out. -/
def Moment.later (moment : Moment) (used : Nat) : Moment :=
  { moment with around := moment.around.later used }

namespace Registers

/-- Byte registers and timers as they are at power-on. -/
structure Cleared (registers : Registers) : Prop where
  get_eq : ∀ x, registers.get x = 0
  delay_eq : registers.delay = 0
  sound_eq : registers.sound = 0

theorem cleared_initial : initial.Cleared where
  get_eq x := by simp [initial, get]
  delay_eq := rfl
  sound_eq := rfl

theorem tick_of_zero {registers : Registers} (delay : registers.delay = 0)
    (sound : registers.sound = 0) (ticks : Nat) : registers.tick ticks = registers := by
  obtain ⟨v, index, counter, stack, _, _⟩ := registers
  subst delay sound
  simp [tick, countDown]

end Registers

namespace Machine

/-- The timers of a cleared machine are at zero after its next step, whatever the
step does. -/
theorem value_step_of_cleared {machine : Machine} (cleared : machine.registers.Cleared)
    (timer : Timer) (around : Surroundings) :
    timer.value (machine.step around).1.registers = 0 := by
  have start : timer.value machine.registers = 0 := by
    cases timer
    · exact cleared.delay_eq
    · exact cleared.sound_eq
  apply UInt8.toNat_inj.mp
  rcases machine.value_act timer (.step around) with ⟨value, loads, counted⟩ | ⟨_, counted⟩
  · obtain ⟨word, _, _, rfl⟩ := loads
    exact counted.trans (by simp [cleared.get_eq])
  · exact counted.trans (by simp [start])

/-- A machine that goes on like a fresh one: it differs in the queue, in the redraw
flag and in the place in the random sequence alone, and what is on the two queues
is no difference to the timers. -/
inductive InStep (used : Nat) (fresh : Machine) : Machine → Prop where
  | intro (ticks : List Nat) (redraw : Bool)
      (harmless : ticks.sum = fresh.ticks.sum ∨ fresh.hazard? ≠ none ∨ fresh.registers.Cleared) :
      InStep used fresh { fresh.displaced used ticks with redraw }

variable {used : Nat} {machine fresh : Machine}

theorem InStep.pass (h : InStep used fresh machine) (moment : Moment) :
    InStep used (fresh.pass (moment.later used)).1 (machine.pass moment).1 ∧
      (machine.pass moment).2 = (fresh.pass (moment.later used)).2 := by
  obtain ⟨ticks, redraw, harmless⟩ := h
  cases hazard : fresh.hazard? with
  | some fault =>
      have here : { fresh.displaced used ticks with redraw }.hazard? = some fault := hazard
      have faces : fresh.hazard? ≠ none := by simp [hazard]
      rw [pass_of_hazard here, pass_of_hazard hazard]
      exact ⟨.intro (ticks ++ moment.ticks) false (.inr (.inl faces)), rfl⟩
  | none =>
      obtain ⟨shown, succeeds⟩ : ∃ shown, ((fresh.queueTicks moment.ticks).step
          (moment.around.later used)).2 = .ok shown := by
        rw [← faultOf?_eq_none_iff, faultOf?_step]
        exact hazard
      obtain ⟨moved, moves⟩ := step_of_ok succeeds
      have here := moves moment.around used (ticks ++ moment.ticks) redraw rfl
      have there := moves (moment.around.later used) 0 (fresh.ticks ++ moment.ticks)
        fresh.redraw rfl
      have registers : moved.registers.tick (ticks ++ moment.ticks).sum =
          moved.registers.tick (fresh.ticks ++ moment.ticks).sum := by
        rcases harmless with equal | faces | cleared
        · rw [List.sum_append, List.sum_append, equal]
        · exact absurd hazard faces
        · have bare := moves (moment.around.later used) 0 [] fresh.redraw rfl
          have stepped : { fresh with ticks := [] }.step (moment.around.later used) = _ := bare
          have rested : { fresh with ticks := [] }.registers.Cleared := cleared
          have zero : ∀ timer : Timer, timer.value moved.registers = 0 := by
            intro timer
            have after := value_step_of_cleared rested timer (moment.around.later used)
            rw [stepped] at after
            simpa [Registers.tick_zero] using after
          rw [Registers.tick_of_zero (zero .delay) (zero .sound),
            Registers.tick_of_zero (zero .delay) (zero .sound)]
      rw [registers] at here
      have left : { fresh.displaced used ticks with redraw }.pass moment = _ := here
      have right : fresh.pass (moment.later used) = _ := there
      rw [left, right]
      exact ⟨.intro [] moved.redraw (.inl rfl), rfl⟩

theorem InStep.stateAt (h : InStep used fresh machine) (history : Nat → Moment) (number : Nat) :
    InStep used (fresh.stateAt (fun number => (history number).later used) number)
      (machine.stateAt history number) := by
  induction number with
  | zero => exact h
  | succ number ih => exact (ih.pass (history number)).1

theorem load_of_ok {program : List UInt8} {memory : Memory}
    (placed : machine.memory.load program programStart = .ok memory) :
    machine.load program = .ok { machine with memory } := by
  simp [load, placed, bind, Except.bind, pure, Except.pure]

theorem load_of_error {program : List UInt8} {fault : Fault}
    (refused : machine.memory.load program programStart = .error fault) :
    machine.load program = .error fault := by
  simp [load, refused, bind, Except.bind]

theorem programTooBig_of_error {memory : Memory} {program : List UInt8} {offset : Nat}
    {fault : Fault} (h : memory.load program offset = .error fault) :
    ∃ size endAddress, fault = .programTooBig size endAddress := by
  unfold Memory.load at h
  split at h
  next => exact ⟨_, _, (Except.error.inj h).symm⟩
  next => cases h

/-- All that is to be seen of two machines, and all that their programs can tell,
is the same. -/
structure Alike (machine other : Machine) : Prop where
  dialect : machine.dialect = other.dialect
  registers : machine.registers = other.registers
  memory : machine.memory = other.memory
  screen : machine.screen = other.screen
  wait : machine.wait = other.wait

theorem InStep.alike (h : InStep used fresh machine) : Alike machine fresh := by
  obtain ⟨ticks, redraw, _⟩ := h
  exact ⟨rfl, rfl, rfl, rfl, rfl⟩

theorem inStep_reset (machine : Machine) (memory : Memory) :
    InStep machine.drawn { initial machine.dialect with memory } { machine.reset with memory } := by
  have cleared : { initial machine.dialect with memory }.registers.Cleared :=
    Registers.cleared_initial
  have start : InStep machine.drawn { initial machine.dialect with memory }
      { { initial machine.dialect with memory }.displaced machine.drawn machine.ticks with
        redraw := true } :=
    .intro machine.ticks true (.inr (.inr cleared))
  simpa only [displaced, initial, reset_eq, Nat.zero_add] using start

/-- A machine in any state that is reset and given a program, and a machine just
switched on that is given the same program and the random numbers that the first
has not used yet: the program is too big for both, or they stay alike and, step by
step, show the same or meet the same fault, whatever keys and ticks come.  The
ticks that were on the queue at the reset are still there when the program has
been loaded. -/
theorem reload_alike_powerOn (machine : Machine) (program : List UInt8) :
    (∃ size endAddress,
      machine.reset.load program = .error (.programTooBig size endAddress) ∧
      (initial machine.dialect).load program = .error (.programTooBig size endAddress)) ∨
    ∃ reloaded fresh,
      machine.reset.load program = .ok reloaded ∧
      (initial machine.dialect).load program = .ok fresh ∧
      reloaded.ticks = machine.ticks ∧
      ∀ (history : Nat → Moment) (number : Nat),
        let old := reloaded.stateAt history number
        let new := fresh.stateAt (fun number => (history number).later machine.drawn) number
        Alike old new ∧
          (old.pass (history number)).2 = (new.pass ((history number).later machine.drawn)).2 := by
  have emptied : machine.reset.memory.load program programStart =
      Memory.initial.load program programStart := by rw [reset_eq]
  cases placed : Memory.initial.load program programStart with
  | error fault =>
      obtain ⟨size, endAddress, rfl⟩ := programTooBig_of_error placed
      have reloads : machine.reset.load program = _ := load_of_error (emptied.trans placed)
      have starts : (initial machine.dialect).load program = _ := load_of_error placed
      exact .inl ⟨size, endAddress, reloads, starts⟩
  | ok memory =>
      have reloads : machine.reset.load program = _ := load_of_ok (emptied.trans placed)
      have starts : (initial machine.dialect).load program = _ := load_of_ok placed
      refine .inr ⟨_, _, reloads, starts, by simp only [reset_ticks], ?_⟩
      intro history number old new
      have here : InStep machine.drawn new old :=
        (inStep_reset machine memory).stateAt history number
      exact ⟨here.alike, (here.pass (history number)).2⟩

end Machine
end Chip8
