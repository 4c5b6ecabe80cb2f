import Mathlib.Algebra.Ring.Nat
import Chip8.Machine.Step

/-!
What a step can do, said once.  `Machine.step_case` lists the three ways a step
goes: it serves a key wait, it is refused with a fault, or it carries out one
instruction.  The lemmas on `Machine.perform` say which parts of the machine an
instruction can reach.
-/

namespace Chip8

theorem KeyWait.active_eq_true_iff (wait : KeyWait) : wait.active = true ↔ wait ≠ .idle := by
  cases wait <;> simp [active]

theorem KeyWait.active_eq_false_iff (wait : KeyWait) : wait.active = false ↔ wait = .idle := by
  cases wait <;> simp [active]

/-- A queue of ticks reaches the timers as its sum. -/
theorem Registers.foldl_tick (registers : Registers) (ticks : List Nat) :
    ticks.foldl tick registers = registers.tick ticks.sum := by
  induction ticks generalizing registers with
  | nil => exact (tick_zero registers).symm
  | cons first rest ih => rw [List.foldl_cons, ih, tick_tick, List.sum_cons]

namespace Machine

variable {around : Surroundings} {machine performed : Machine} {instruction : Instruction}
  {flow : Flow} {fault : Fault}

/-- An instruction that faults leaves the machine as it was. -/
theorem perform_of_error (h : (machine.perform around instruction).2 = .error fault) :
    (machine.perform around instruction).1 = machine := by
  -- Each instruction checks before it writes, so a branch that faults returns `machine` itself.
  revert h
  rw [perform.eq_def]
  cases instruction <;> dsimp only <;> (try split) <;> simp

/-- No instruction moves the program counter by itself. -/
theorem perform_counter (around : Surroundings) (machine : Machine) (instruction : Instruction) :
    (machine.perform around instruction).1.registers.counter = machine.registers.counter := by
  rw [perform.eq_def]
  cases instruction <;> dsimp only <;> (try split) <;> simp

/-- Only the waiting instruction touches the key wait. -/
theorem perform_wait (around : Surroundings) (machine : Machine)
    (h : ∀ x, instruction ≠ .awaitKey x) :
    (machine.perform around instruction).1.wait = machine.wait := by
  rw [perform.eq_def]
  cases instruction with
  | awaitKey x => exact absurd rfl (h x)
  | _ => dsimp only <;> (try split) <;> simp

theorem perform_awaitKey (idle : machine.wait = .idle) (x : Register) :
    machine.perform around (.awaitKey x) =
      ({ machine with wait := .awaitingRelease x }, .ok .suspend) := by
  rw [perform.eq_def, idle]
  rfl

/-- Only calls and returns touch the stack. -/
theorem perform_stack (around : Surroundings) (machine : Machine)
    (hcall : ∀ target, instruction ≠ .call target) (hreturn : instruction ≠ .returnFromCall) :
    (machine.perform around instruction).1.registers.stack = machine.registers.stack := by
  rw [perform.eq_def]
  cases instruction with
  | call target => exact absurd rfl (hcall target)
  | returnFromCall => exact absurd rfl hreturn
  | _ => dsimp only <;> (try split) <;> simp

theorem skipIf_ne_jump (condition : Bool) (target : UInt16) : skipIf condition ≠ .jump target := by
  cases condition <;> simp [skipIf]

theorem toNat_ofNat_address_le (address : Address) :
    (UInt16.ofNat address).toNat ≤ 0x10FE := by
  have := address.isLt
  rw [UInt16.toNat_ofNat']
  omega

/-- A jump leads to an address that its word names, a byte further at most, or
to a return address. -/
theorem perform_jump {target : UInt16}
    (h : (machine.perform around instruction).2 = .ok (.jump target)) :
    target.toNat ≤ 0x10FE ∨ ∃ rest, machine.registers.stack.pop = .ok (target, rest) := by
  revert h
  rw [perform.eq_def]
  cases instruction with
  | returnFromCall =>
      dsimp only
      split
      next => simp
      next returned rest popped =>
        intro h
        obtain rfl : returned = target := by simpa using h
        exact .inr ⟨rest, popped⟩
  | jump address =>
      intro h
      obtain rfl := Flow.jump.inj (Except.ok.inj h)
      exact .inl (toNat_ofNat_address_le address)
  | call address =>
      dsimp only
      split
      next => simp
      next =>
        intro h
        obtain rfl := Flow.jump.inj (Except.ok.inj h)
        exact .inl (toNat_ofNat_address_le address)
  | jumpOffset x address =>
      intro h
      obtain rfl := Flow.jump.inj (Except.ok.inj h)
      have addressLt := address.isLt
      have addedLt := (machine.registers.get
        (if machine.dialect.jumpByNamedRegister then x else .first)).toNat_lt
      exact .inl (by rw [UInt16.toNat_ofNat']; omega)
  | _ => dsimp only; (try split) <;> simp [skipIf_ne_jump]

theorem execute_of_decode {word : Nat} (h : Instruction.decode? word = some instruction) :
    machine.execute around word = machine.perform around instruction := by
  rw [execute, h]

theorem execute_of_error {word : Nat} (h : (machine.execute around word).2 = .error fault) :
    (machine.execute around word).1 = machine := by
  cases decoded : Instruction.decode? word with
  | none => rw [execute, decoded]
  | some instruction =>
      rw [execute_of_decode decoded] at h ⊢
      exact perform_of_error h

theorem executeCurrent_of_error (h : (machine.executeCurrent around).2 = .error fault) :
    (machine.executeCurrent around).1 = machine := by
  cases fetched : machine.currentWord with
  | error fault => rw [executeCurrent, fetched]
  | ok word =>
      rw [executeCurrent, fetched] at h ⊢
      exact execute_of_error h

theorem executeCurrent_of_ok (h : machine.executeCurrent around = (performed, .ok flow)) :
    ∃ word instruction, machine.currentWord = .ok word ∧
      Instruction.decode? word = some instruction ∧
      machine.perform around instruction = (performed, .ok flow) := by
  cases fetched : machine.currentWord with
  | error fault => simp [executeCurrent, fetched] at h
  | ok word =>
      cases decoded : Instruction.decode? word with
      | none => simp [executeCurrent, fetched, execute, decoded] at h
      | some instruction =>
          rw [executeCurrent, fetched] at h
          exact ⟨word, instruction, rfl, decoded, (execute_of_decode decoded).symm.trans h⟩

theorem executeCurrent_of_decode {word : Nat} (fetched : machine.currentWord = .ok word)
    (decoded : Instruction.decode? word = some instruction) :
    machine.executeCurrent around = machine.perform around instruction := by
  rw [executeCurrent, fetched]
  exact execute_of_decode decoded

/-- A step while a wait is under way looks at the keys and not at memory. -/
theorem step_of_waiting (h : machine.wait ≠ .idle) :
    machine.step around =
      let served := ({ machine with redraw := false }.serveWait around.held).drainTicks
      (served, .ok served.snapshot) := by
  have waiting : machine.wait.active = true := machine.wait.active_eq_true_iff.mpr h
  simp only [step, waiting, if_true]

/-- The step of a machine under no wait: fetch the word at the program counter,
carry it out and go on from there. -/
def obey (around : Surroundings) (machine : Machine) : Machine × Except Fault Snapshot :=
  match { machine with redraw := false }.executeCurrent around with
  | (kept, .error fault) => (kept, .error fault)
  | (performed, .ok flow) =>
      let moved := (performed.follow flow).drainTicks
      (moved, .ok moved.snapshot)

theorem step_of_idle (idle : machine.wait = .idle) : machine.step around = machine.obey around := by
  have resting : machine.wait.active = false := machine.wait.active_eq_false_iff.mpr idle
  simp only [step, resting, Bool.false_eq_true, if_false]
  rfl

/-- A step that cannot go on changes nothing but the redraw flag. -/
theorem step_of_fault (idle : machine.wait = .idle)
    (h : ({ machine with redraw := false }.executeCurrent around).2 = .error fault) :
    machine.step around = ({ machine with redraw := false }, .error fault) := by
  have result : { machine with redraw := false }.executeCurrent around =
      ({ machine with redraw := false }, .error fault) :=
    Prod.ext (executeCurrent_of_error h) h
  rw [step_of_idle idle, obey, result]

theorem step_of_flow (idle : machine.wait = .idle)
    (h : { machine with redraw := false }.executeCurrent around = (performed, .ok flow)) :
    machine.step around =
      let moved := (performed.follow flow).drainTicks
      (moved, .ok moved.snapshot) := by
  rw [step_of_idle idle, obey, h]

/-- The whole queue reaches the timers as its sum. -/
theorem drainTicks_eq (machine : Machine) :
    machine.drainTicks =
      { machine with registers := machine.registers.tick machine.ticks.sum, ticks := [] } := by
  rw [drainTicks, Registers.foldl_tick]

/-- Timers and the program counter do not meet. -/
theorem drainTicks_follow (machine : Machine) (flow : Flow) :
    (machine.follow flow).drainTicks = machine.drainTicks.follow flow := by
  rw [drainTicks_eq, drainTicks_eq]
  rfl

/-! What a look at the keys makes of each phase of a wait. -/

section Serving

variable {held : Key → Bool} {x : Register} {key : Key}

theorem serveWait_of_awaitingRelease (h : machine.wait = .awaitingRelease x) :
    machine.serveWait held =
      { machine with wait := if anyHeld held then .awaitingRelease x else .polling x } := by
  rw [serveWait, h]
  by_cases still : anyHeld held <;> simp [KeyWait.poll, KeyWait.next, KeyWait.active, still]

theorem serveWait_of_polling (h : machine.wait = .polling x) :
    machine.serveWait held =
      match firstHeld? held with
      | none => machine
      | some key =>
          { machine with
            wait := .awaitingKeyUp x key
            registers := machine.registers.set x (UInt8.ofNat key) } := by
  cases machine with
  | mk dialect memory registers screen wait redraw ticks drawn =>
      simp only at h
      subst h
      cases first : firstHeld? held <;>
        simp [serveWait, KeyWait.poll, KeyWait.next, KeyWait.active, first]

theorem serveWait_of_awaitingKeyUp (h : machine.wait = .awaitingKeyUp x key) :
    machine.serveWait held =
      if held key then machine else { machine with wait := .idle }.follow .advance := by
  cases machine with
  | mk dialect memory registers screen wait redraw ticks drawn =>
      simp only at h
      subst h
      by_cases down : held key <;>
        simp [serveWait, KeyWait.poll, KeyWait.next, KeyWait.active, down]

/-- A look at the keys changes one byte register, or moves the program counter, or
leaves the registers alone. -/
theorem registers_serveWait (held : Key → Bool) (machine : Machine) :
    (machine.serveWait held).registers = machine.registers ∨
      (∃ x value, (machine.serveWait held).registers = machine.registers.set x value) ∨
      (machine.serveWait held).registers = (machine.follow .advance).registers := by
  cases wait : machine.wait with
  | idle =>
      refine .inl ?_
      simp [serveWait, wait, KeyWait.poll, KeyWait.next, KeyWait.active]
  | awaitingRelease x =>
      rw [serveWait_of_awaitingRelease wait]
      exact .inl rfl
  | polling x =>
      rw [serveWait_of_polling wait]
      split
      next => exact .inl rfl
      next key _ => exact .inr (.inl ⟨x, UInt8.ofNat key, rfl⟩)
  | awaitingKeyUp x key =>
      rw [serveWait_of_awaitingKeyUp wait]
      split
      next => exact .inl rfl
      next => exact .inr (.inr rfl)

end Serving

/-- The three ways a step goes. -/
inductive StepCase (around : Surroundings) (machine : Machine) :
    Machine × Except Fault Snapshot → Prop where
  /-- A key wait is under way and is served. -/
  | served (waiting : machine.wait ≠ .idle) (served : Machine)
      (h : served = ({ machine with redraw := false }.serveWait around.held).drainTicks) :
      StepCase around machine (served, .ok served.snapshot)
  /-- The word at the program counter cannot be fetched or carried out. -/
  | refused (idle : machine.wait = .idle) (fault : Fault)
      (h : ({ machine with redraw := false }.executeCurrent around).2 = .error fault) :
      StepCase around machine ({ machine with redraw := false }, .error fault)
  /-- The word at the program counter is carried out. -/
  | obeyed (idle : machine.wait = .idle) (word : Nat) (instruction : Instruction)
      (performed : Machine) (flow : Flow) (moved : Machine)
      (fetched : machine.currentWord = .ok word)
      (decoded : Instruction.decode? word = some instruction)
      (performs : { machine with redraw := false }.perform around instruction =
        (performed, .ok flow))
      (h : moved = (performed.follow flow).drainTicks) :
      StepCase around machine (moved, .ok moved.snapshot)

theorem step_case (around : Surroundings) (machine : Machine) :
    StepCase around machine (machine.step around) := by
  by_cases idle : machine.wait = .idle
  · match result : { machine with redraw := false }.executeCurrent around with
    | (performed, .error fault) =>
        have failed := congrArg Prod.snd result
        rw [step_of_fault idle failed]
        exact .refused idle fault failed
    | (performed, .ok flow) =>
        obtain ⟨word, instruction, fetched, decoded, performs⟩ := executeCurrent_of_ok result
        rw [step_of_flow idle result]
        exact .obeyed idle word instruction performed flow _ fetched decoded performs rfl
  · rw [step_of_waiting idle]
    exact .served idle _ rfl

/-- A step that succeeds with no wait under way does what the word at the program
counter stands for. -/
theorem step_of_word {word : Nat} {shown : Snapshot} (idle : machine.wait = .idle)
    (current : machine.currentWord = .ok word) (succeeds : (machine.step around).2 = .ok shown) :
    ∃ instruction performed flow,
      Instruction.decode? word = some instruction ∧
      { machine with redraw := false }.perform around instruction = (performed, .ok flow) ∧
      (machine.step around).1 = (performed.follow flow).drainTicks := by
  have way := step_case around machine
  generalize machine.step around = result at way succeeds ⊢
  cases way with
  | served waiting => exact absurd idle waiting
  | refused => exact absurd succeeds (by simp)
  | obeyed _ fetchedWord instruction performed flow moved fetched decoded performs eq =>
      obtain rfl : fetchedWord = word := Except.ok.inj (fetched.symm.trans current)
      exact ⟨instruction, performed, flow, decoded, performs, eq⟩

/-- A step that succeeds shows the machine as it leaves it. -/
theorem snapshot_of_ok {shown : Snapshot} (h : (machine.step around).2 = .ok shown) :
    (machine.step around).1.snapshot = shown := by
  have way := step_case around machine
  generalize machine.step around = result at way h ⊢
  cases way with
  | served => exact Except.ok.inj h
  | refused => exact absurd h (by simp)
  | obeyed => exact Except.ok.inj h

end Machine
end Chip8
