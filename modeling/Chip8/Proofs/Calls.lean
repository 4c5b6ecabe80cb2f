import Chip8.Proofs.Faults
import Chip8.Proofs.Invariant

/-!
Calls and returns.  A call puts its way back on top of the stack, and until the
stack is back at its depth no step, be it a nested call, a return from one, a wait
or a fault, touches what lies at that depth or below.  So the step that brings the
stack back is a return, and it goes to the call site.
-/

namespace Chip8

namespace CallStack

/-- A stack that has grown from a base: the slots of the base are as they were,
and a return address lies on top of them. -/
structure Above (base : CallStack) (address : UInt16) (stack : CallStack) : Prop where
  deeper : base.depth < stack.depth
  below : ∀ slot < base.depth, stack.slots[slot]? = base.slots[slot]?
  top : stack.slots[base.depth]? = some address

variable {base stack pushed rest : CallStack} {address target : UInt16}

theorem depth_of_push (h : stack.push address = .ok pushed) :
    pushed.depth = stack.depth + 1 := by
  unfold push at h
  split at h
  next => rw [← Except.ok.inj h]
  next => cases h

theorem getElem?_of_push (h : stack.push address = .ok pushed) (slot : Nat) :
    pushed.slots[slot]? = if slot = stack.depth then some address else stack.slots[slot]? := by
  unfold push at h
  split at h
  next room =>
    rw [← Except.ok.inj h]
    by_cases here : slot = stack.depth
    · simp [here, room]
    · simp [here, Ne.symm here]
  next => cases h

theorem pop_eq_ok (h : stack.pop = .ok (target, rest)) :
    rest.slots = stack.slots ∧ stack.depth = rest.depth + 1 ∧
      stack.slots[rest.depth]? = some target := by
  unfold pop at h
  split at h
  next some_left =>
    have top : stack.depth - 1 < 16 := by have := stack.depth_le; omega
    obtain ⟨rfl, rfl⟩ := Prod.mk.inj (Except.ok.inj h)
    exact ⟨rfl, by dsimp only; omega, by simp [top]⟩
  next => cases h

theorem above_push (h : stack.push address = .ok pushed) : stack.Above address pushed where
  deeper := by rw [depth_of_push h]; omega
  below slot inside := by rw [getElem?_of_push h, if_neg (Nat.ne_of_lt inside)]
  top := by rw [getElem?_of_push h, if_pos rfl]

theorem Above.push (above : base.Above address stack) {other : UInt16}
    (h : stack.push other = .ok pushed) : base.Above address pushed where
  deeper := by rw [depth_of_push h]; exact Nat.lt_succ_of_lt above.deeper
  below slot inside := by
    rw [getElem?_of_push h, if_neg (Nat.ne_of_lt (Nat.lt_trans inside above.deeper))]
    exact above.below slot inside
  top := by
    rw [getElem?_of_push h, if_neg (Nat.ne_of_lt above.deeper)]
    exact above.top

theorem Above.pop (above : base.Above address stack) (h : stack.pop = .ok (target, rest))
    (away : rest.depth ≠ base.depth) : base.Above address rest := by
  obtain ⟨same, depth, _⟩ := pop_eq_ok h
  have deeper := above.deeper
  refine ⟨by omega, ?_, ?_⟩
  · rw [same]
    exact above.below
  · rw [same]
    exact above.top

/-- The pop that brings the stack back to its base takes the address off. -/
theorem Above.target_eq (above : base.Above address stack) (h : stack.pop = .ok (target, rest))
    (back : rest.depth = base.depth) : target = address := by
  obtain ⟨_, _, top⟩ := pop_eq_ok h
  rw [back, above.top] at top
  exact (Option.some.inj top).symm

end CallStack

namespace Machine

variable {around : Surroundings} {machine performed : Machine} {instruction : Instruction}
  {flow : Flow} {moment : Moment} {word : Nat}

theorem perform_call {target : Address}
    (performs : machine.perform around (.call target) = (performed, .ok flow)) :
    machine.registers.stack.push (machine.registers.counter + 2) =
      .ok performed.registers.stack := by
  rw [perform.eq_def] at performs
  dsimp only at performs
  split at performs
  next => simp at performs
  next stack pushes =>
    obtain ⟨rfl, _⟩ := Prod.mk.inj performs
    exact pushes

theorem perform_return
    (performs : machine.perform around .returnFromCall = (performed, .ok flow)) :
    ∃ target, machine.registers.stack.pop = .ok (target, performed.registers.stack) ∧
      flow = .jump target := by
  rw [perform.eq_def] at performs
  dsimp only at performs
  split at performs
  next => simp at performs
  next target stack pops =>
    obtain ⟨rfl, jumps⟩ := Prod.mk.inj performs
    exact ⟨target, pops, (Except.ok.inj jumps).symm⟩

theorem serveWait_stack (held : Key → Bool) (machine : Machine) :
    (machine.serveWait held).registers.stack = machine.registers.stack := by
  rcases machine.registers_serveWait held with same | ⟨x, value, changed⟩ | moved
  · rw [same]
  · rw [changed, Registers.set_stack]
  · rw [moved]
    rfl

theorem drainTicks_stack (machine : Machine) :
    machine.drainTicks.registers.stack = machine.registers.stack := by
  rw [drainTicks_eq]
  rfl

/-- A moment whose step carries out a word does what the word stands for. -/
theorem pass_of_carriesOut (carries : machine.CarriesOut moment word) :
    ∃ instruction performed flow,
      Instruction.decode? word = some instruction ∧
      { machine.queueTicks moment.ticks with redraw := false }.perform moment.around instruction =
        (performed, .ok flow) ∧
      (machine.pass moment).1 = (performed.follow flow).drainTicks := by
  obtain ⟨idle, current, shown, succeeds⟩ := carries
  have rests : (machine.queueTicks moment.ticks).wait = .idle := idle
  exact step_of_word rests current succeeds

/-- What a moment can do to the stack. -/
inductive StackCase (machine : Machine) (moment : Moment) : Prop where
  | kept (h : (machine.pass moment).1.registers.stack = machine.registers.stack)
  | called (address : UInt16)
      (pushes : machine.registers.stack.push address =
        .ok (machine.pass moment).1.registers.stack)
  | returned (carries : machine.CarriesOut moment 0x00EE) (target : UInt16)
      (pops : machine.registers.stack.pop =
        .ok (target, (machine.pass moment).1.registers.stack))
      (lands : (machine.pass moment).1.registers.counter = target)

theorem word_of_return (fetched : machine.currentWord = .ok word)
    (decoded : Instruction.decode? word = some .returnFromCall) : word = 0x00EE := by
  have small := word_lt_of_fetched fetched
  have form := Instruction.hasForm_of_decode? decoded
  simp [Instruction.form, hasForm, wordDigits, markDigit?] at form
  omega

theorem stackCase (machine : Machine) (moment : Moment) : machine.StackCase moment := by
  by_cases carries : ∃ word, machine.CarriesOut moment word
  · obtain ⟨word, carries⟩ := carries
    obtain ⟨instruction, performed, flow, decoded, performs, after⟩ := pass_of_carriesOut carries
    have stack : (machine.pass moment).1.registers.stack = performed.registers.stack := by
      rw [after, drainTicks_stack]
      rfl
    by_cases calls : ∃ target, instruction = .call target
    · obtain ⟨target, rfl⟩ := calls
      have pushes := perform_call performs
      rw [← stack] at pushes
      exact .called (machine.registers.counter + 2) pushes
    · by_cases returns : instruction = .returnFromCall
      · subst returns
        obtain rfl := word_of_return carries.2.1 decoded
        obtain ⟨target, pops, rfl⟩ := perform_return performs
        rw [← stack] at pops
        refine .returned carries target pops ?_
        rw [after, drainTicks_eq]
        rfl
      · refine .kept ?_
        have kept := perform_stack moment.around
          { machine.queueTicks moment.ticks with redraw := false }
          (fun target same => calls ⟨target, same⟩) returns
        rw [performs] at kept
        exact stack.trans kept
  · refine .kept ?_
    have way := step_case moment.around (machine.queueTicks moment.ticks)
    rw [pass]
    generalize same : (machine.queueTicks moment.ticks).step moment.around = result at way ⊢
    cases way with
    | served waiting served eq =>
        rw [eq, drainTicks_stack, serveWait_stack]
        rfl
    | refused => rfl
    | obeyed idle word instruction performed flow moved fetched decoded performs eq =>
        exact absurd ⟨word, idle, fetched, _, congrArg Prod.snd same⟩ carries

theorem exists_call_of_form (h : instruction.form = "2NNN") :
    ∃ target, instruction = .call target := by
  cases instruction
  case call target => exact ⟨target, rfl⟩
  case arithmetic operation x y => cases operation <;> simp [Instruction.form, Arithmetic.form] at h
  all_goals simp [Instruction.form] at h

/-- A call leaves the stack one deeper, with its way back on top. -/
theorem above_of_call (carries : machine.CarriesOut moment word)
    (calls : hasForm "2NNN" word = true) :
    machine.registers.stack.Above (machine.registers.counter + 2)
      (machine.pass moment).1.registers.stack := by
  obtain ⟨instruction, performed, flow, decoded, performs, after⟩ := pass_of_carriesOut carries
  rw [Instruction.hasForm_iff (word_lt_of_fetched carries.2.1) (by decide), decoded] at calls
  obtain ⟨target, rfl⟩ := exists_call_of_form (Option.some.inj calls)
  rw [after, drainTicks_stack]
  have pushes := perform_call performs
  exact CallStack.above_push pushes

/-- One step keeps what lies under the way back, unless it is the return. -/
theorem above_pass {base : CallStack} {address : UInt16}
    (above : base.Above address machine.registers.stack) (moment : Moment)
    (away : (machine.pass moment).1.registers.stack.depth ≠ base.depth) :
    base.Above address (machine.pass moment).1.registers.stack := by
  rcases machine.stackCase moment with kept | ⟨_, pushes⟩ | ⟨_, _, pops, _⟩
  · rw [kept]
    exact above
  · exact above.push pushes
  · exact above.pop pops away

/-- The way back stays on the stack for as long as no step after the call brings the stack
back to its depth of before. -/
theorem above_stateAt {history : Nat → Moment} (carries : machine.CarriesOut (history 0) word)
    (calls : hasForm "2NNN" word = true) (number : Nat)
    (away : ∀ later, 0 < later → later ≤ number →
      (machine.stateAt history (later + 1)).registers.stack.depth ≠
        machine.registers.stack.depth) :
    machine.registers.stack.Above (machine.registers.counter + 2)
      (machine.stateAt history (number + 1)).registers.stack := by
  induction number with
  | zero => exact above_of_call carries calls
  | succ number ih =>
      have before := ih fun later positive le => away later positive (Nat.le_succ_of_le le)
      exact above_pass before (history (number + 1)) (away _ number.succ_pos (Nat.le_refl _))

/-- A call returns to its call site.  A call is carried out, and no step after it has brought
the stack back to its depth of before: it is deeper, the slots below that depth are as they
were and the next one holds the address after the call.  If the next step brings the stack
back, that step is a return, it goes to the address after the call, and the slots are as they
were before it. -/
theorem call_returns {history : Nat → Moment} (carries : machine.CarriesOut (history 0) word)
    (calls : hasForm "2NNN" word = true) (number : Nat)
    (away : ∀ later, 0 < later → later ≤ number →
      (machine.stateAt history (later + 1)).registers.stack.depth ≠
        machine.registers.stack.depth) :
    let before := machine.registers
    let now := machine.stateAt history (number + 1)
    let next := machine.stateAt history (number + 2)
    (before.counter + 2).toNat = before.counter.toNat + 2 ∧
    before.stack.Above (before.counter + 2) now.registers.stack ∧
    (next.registers.stack.depth = before.stack.depth →
      now.CarriesOut (history (number + 1)) 0x00EE ∧
      next.registers.counter = before.counter + 2 ∧
      ∀ slot < before.stack.depth,
        next.registers.stack.slots[slot]? = before.stack.slots[slot]?) := by
  intro before now next
  have above : before.stack.Above (before.counter + 2) now.registers.stack :=
    above_stateAt carries calls number away
  refine ⟨?_, above, ?_⟩
  · have inside : before.counter.toNat ≤ 0xFFE := counter_le_of_fetched carries.2.1
    have two : (2 : UInt16).toNat = 2 := rfl
    rw [UInt16.toNat_add]
    omega
  · intro back
    rcases now.stackCase (history (number + 1)) with
      kept | ⟨_, pushes⟩ | ⟨returns, target, pops, lands⟩
    · have same : next.registers.stack = now.registers.stack := kept
      rw [same] at back
      exact absurd back.symm (Nat.ne_of_lt above.deeper)
    · have deeper : next.registers.stack.depth = _ := CallStack.depth_of_push pushes
      have := above.deeper
      omega
    · have slots : next.registers.stack.slots = now.registers.stack.slots :=
        (CallStack.pop_eq_ok pops).1
      refine ⟨returns, ?_, ?_⟩
      · rw [← above.target_eq pops back]
        exact lands
      · rw [slots]
        exact above.below

/-- A machine about to call a subroutine of a jump and a return. -/
def visiting : Machine :=
  { initial {} with
    memory := Memory.initial.place programStart
      [0x22, 0x04, 0x12, 0x02, 0x12, 0x06, 0x00, 0xEE] }

/-- The machine somewhere in the subroutine. -/
def visited (stack : CallStack) (counter : UInt16) : Machine :=
  { visiting with registers := { Registers.initial with counter, stack } }

theorem pass_visiting :
    visiting.CarriesOut ⟨[], quiet⟩ 0x2204 ∧
      ∃ stack, CallStack.empty.push 0x202 = .ok stack ∧
        (visiting.pass ⟨[], quiet⟩).1 = visited stack 0x204 := by
  have fetched : visiting.currentWord = .ok 0x2204 := by
    rw [currentWord, Memory.readWord_natCast]
    simp [visiting, initial, Registers.initial, Memory.byte_place, programStart, memorySize]
  have carried : visiting.executeCurrent quiet = (_, .ok (.jump 0x204)) :=
    executeCurrent_of_decode fetched rfl
  have rests : visiting.wait = .idle := rfl
  have steps : visiting.pass ⟨[], quiet⟩ = _ := step_of_flow rests carried
  exact ⟨⟨rests, fetched, _, congrArg Prod.snd steps⟩, _, rfl, congrArg Prod.fst steps⟩

theorem pass_visited (stack : CallStack) :
    ((visited stack 0x204).pass ⟨[], quiet⟩).1 = visited stack 0x206 := by
  have fetched : (visited stack 0x204).currentWord = .ok 0x1206 := by
    rw [currentWord, Memory.readWord_natCast]
    simp [visited, visiting, initial, Memory.byte_place, programStart, memorySize]
  have carried : (visited stack 0x204).executeCurrent quiet = (_, .ok (.jump 0x206)) :=
    executeCurrent_of_decode fetched rfl
  have rests : (visited stack 0x204).wait = .idle := rfl
  have steps : (visited stack 0x204).pass ⟨[], quiet⟩ = _ := step_of_flow rests carried
  exact congrArg Prod.fst steps

/-- The return takes the stack back to where it was. -/
theorem depth_pass_visited {stack rest : CallStack} (pops : stack.pop = .ok (0x202, rest)) :
    ((visited stack 0x206).pass ⟨[], quiet⟩).1.registers.stack.depth = rest.depth := by
  have fetched : (visited stack 0x206).currentWord = .ok 0x00EE := by
    rw [currentWord, Memory.readWord_natCast]
    simp [visited, visiting, initial, Memory.byte_place, programStart, memorySize]
  have performs : (visited stack 0x206).perform quiet .returnFromCall =
      ({ visited stack 0x206 with
          registers := { (visited stack 0x206).registers with stack := rest } },
       .ok (.jump 0x202)) := by
    have top : (visited stack 0x206).registers.stack.pop = .ok (0x202, rest) := pops
    rw [perform.eq_def]
    dsimp only
    rw [top]
  have carried : (visited stack 0x206).executeCurrent quiet = _ :=
    (executeCurrent_of_decode fetched rfl).trans performs
  have rests : (visited stack 0x206).wait = .idle := rfl
  have steps : (visited stack 0x206).pass ⟨[], quiet⟩ = _ := step_of_flow rests carried
  rw [steps, drainTicks_stack]
  rfl

theorem call_returns_visiting :
    let history : Nat → Moment := fun _ => ⟨[], quiet⟩
    (visiting.stateAt history 2).registers.stack.depth = 1 ∧
      (visiting.stateAt history 3).registers.stack.depth = 0 ∧
      (visiting.stateAt history 2).CarriesOut (history 2) 0x00EE ∧
      (visiting.stateAt history 3).registers.counter = visiting.registers.counter + 2 := by
  intro history
  obtain ⟨carries, stack, pushes, goes⟩ := pass_visiting
  have second : visiting.stateAt history 2 = visited stack 0x206 := by
    have first : visiting.stateAt history 1 = visited stack 0x204 := goes
    rw [stateAt, first]
    exact pass_visited stack
  have deep : (visited stack 0x206).registers.stack.depth = 1 := CallStack.depth_of_push pushes
  obtain ⟨rest, pops, back⟩ : ∃ rest, stack.pop = .ok (0x202, rest) ∧ rest.depth = 0 := by
    cases pushes
    exact ⟨_, rfl, rfl⟩
  have empty : visiting.registers.stack.depth = 0 := rfl
  have third : (visiting.stateAt history 3).registers.stack.depth =
      visiting.registers.stack.depth := by
    rw [stateAt, second, empty, ← back]
    exact depth_pass_visited pops
  have away : ∀ later, 0 < later → later ≤ 1 →
      (visiting.stateAt history (later + 1)).registers.stack.depth ≠
        visiting.registers.stack.depth := by
    intro later positive le
    obtain rfl : later = 1 := by omega
    rw [second, empty, deep]
    decide
  have calls : visiting.CarriesOut (history 0) 0x2204 := carries
  have returns := (call_returns calls (by decide) 1 away).2.2 third
  exact ⟨by rw [second, deep], third.trans empty, returns.1, returns.2.1⟩

end Machine
end Chip8
