import Chip8.Proofs.Execution
import Chip8.Proofs.History

/-!
The machine invariant.  The program counter runs at most two instructions past
the end of memory, return addresses point at most one past it, and a key wait
stands on a fetched instruction with its key already in its register.  The three
bounds hold each other up: a return goes to a return address, a call keeps one
that was fetched below it, and only a wait that stands inside memory can move
the counter without a fetch.  Every run keeps them, faults and failed loads
included.
-/

namespace Chip8

/-- Every return address ever kept is at most the end of memory. -/
def CallStack.Bounded (stack : CallStack) : Prop :=
  ∀ slot : Fin 16, stack.slots[slot].toNat ≤ 0x1000

theorem CallStack.bounded_empty : CallStack.empty.Bounded := by
  intro slot
  simp [empty]

theorem CallStack.Bounded.push {stack pushed : CallStack} (h : stack.Bounded) {address : UInt16}
    (small : address.toNat ≤ 0x1000) (pushes : stack.push address = .ok pushed) :
    pushed.Bounded := by
  unfold CallStack.push at pushes
  split at pushes
  next room =>
    rw [← Except.ok.inj pushes]
    intro slot
    by_cases here : stack.depth = slot.val
    · simpa [Vector.getElem_set, here] using small
    · simpa [Vector.getElem_set, here] using h slot
  next full => exact absurd pushes (by simp)

theorem CallStack.Bounded.pop {stack rest : CallStack} (h : stack.Bounded) {target : UInt16}
    (pops : stack.pop = .ok (target, rest)) : target.toNat ≤ 0x1000 ∧ rest.Bounded := by
  unfold CallStack.pop at pops
  split at pops
  next some_left =>
    have top : stack.depth - 1 < 16 := by have := stack.depth_le; omega
    obtain ⟨rfl, rfl⟩ := Prod.mk.inj (Except.ok.inj pops)
    exact ⟨h ⟨stack.depth - 1, top⟩, h⟩
  next none_left => exact absurd pops (by simp)

namespace Machine

/-- What every run keeps. -/
structure Sound (machine : Machine) : Prop where
  /-- The counter can be a jump with offset from the last address, and no more. -/
  counter_le : machine.registers.counter.toNat ≤ 0x10FE
  stack_bounded : machine.registers.stack.Bounded
  /-- A wait stands on the instruction that began it. -/
  waiting_counter_le : machine.wait ≠ .idle → machine.registers.counter.toNat ≤ 0xFFE
  /-- The key that a wait has seen go down is in the register it is for. -/
  pressed_eq : ∀ x key, machine.wait = .awaitingKeyUp x key →
    (machine.registers.get x).toNat = key

variable {around : Surroundings} {machine performed : Machine} {instruction : Instruction}
  {flow : Flow}

theorem sound_initial (dialect : Dialect) : (initial dialect).Sound where
  counter_le := by simp [initial, Registers.initial, programStart]
  stack_bounded := CallStack.bounded_empty
  waiting_counter_le h := absurd rfl h
  pressed_eq x key h := by simp [initial] at h

/-- The invariant is about the registers and the wait alone. -/
theorem Sound.of_eq (h : machine.Sound) {other : Machine}
    (registers : other.registers = machine.registers) (wait : other.wait = machine.wait) :
    other.Sound := by
  obtain ⟨counter_le, stack_bounded, waiting_counter_le, pressed_eq⟩ := h
  rw [← registers, ← wait] at *
  exact ⟨counter_le, stack_bounded, waiting_counter_le, pressed_eq⟩

theorem Sound.drainTicks (h : machine.Sound) : machine.drainTicks.Sound := by
  rw [drainTicks_eq]
  exact ⟨h.counter_le, h.stack_bounded, h.waiting_counter_le, h.pressed_eq⟩

/-- A look at the keys keeps the invariant: the only counter it moves stands on
a fetched instruction. -/
theorem Sound.serveWait (h : machine.Sound) (waiting : machine.wait ≠ .idle)
    (held : Key → Bool) : (machine.serveWait held).Sound := by
  have standing := h.waiting_counter_le waiting
  cases wait : machine.wait with
  | idle => exact absurd wait waiting
  | awaitingRelease x =>
      rw [serveWait_of_awaitingRelease wait]
      refine ⟨h.counter_le, h.stack_bounded, fun _ => standing, ?_⟩
      intro y key pressed
      by_cases still : anyHeld held <;> simp [still] at pressed
  | polling x =>
      rw [serveWait_of_polling wait]
      split
      next => exact h
      next key _ =>
        refine ⟨h.counter_le, h.stack_bounded, fun _ => standing, ?_⟩
        intro y other pressed
        obtain ⟨rfl, rfl⟩ := KeyWait.awaitingKeyUp.inj pressed
        have small := key.isLt
        simp only [Registers.get_set, if_true, UInt8.toNat_ofNat']
        omega
  | awaitingKeyUp x key =>
      rw [serveWait_of_awaitingKeyUp wait]
      split
      next => exact h
      next =>
        refine ⟨?_, h.stack_bounded, fun still => absurd rfl still, ?_⟩
        · simp only [follow, Flow.apply, UInt16.toNat_add]
          have : (2 : UInt16).toNat = 2 := rfl
          omega
        · intro y other pressed
          simp [follow] at pressed

/-- A word that can be fetched lies inside memory, both bytes of it. -/
theorem counter_le_of_fetched {word : Nat} (fetched : machine.currentWord = .ok word) :
    machine.registers.counter.toNat ≤ 0xFFE := by
  rw [currentWord, Memory.readWord_natCast] at fetched
  split at fetched
  next inside => exact Nat.le_of_add_le_add_right inside
  next => exact absurd fetched (by simp)

/-- An instruction keeps the return addresses bounded: the one that a call
keeps comes after a fetched word. -/
theorem bounded_perform (h : machine.registers.stack.Bounded)
    (inside : machine.registers.counter.toNat ≤ 0xFFE) (around : Surroundings)
    (instruction : Instruction) :
    (machine.perform around instruction).1.registers.stack.Bounded := by
  cases instruction with
  | call target =>
      rw [perform.eq_def]
      dsimp only
      split
      next => exact h
      next stack pushes =>
        have two : (2 : UInt16).toNat = 2 := rfl
        exact h.push (by rw [UInt16.toNat_add]; omega) pushes
  | returnFromCall =>
      rw [perform.eq_def]
      dsimp only
      split
      next => exact h
      next target rest pops => exact (h.pop pops).2
  | _ =>
      rw [perform_stack around machine (by simp) (by simp)]
      exact h

/-- Where an instruction sends the program counter. -/
theorem counter_le_of_flow (h : machine.registers.stack.Bounded)
    (inside : machine.registers.counter.toNat ≤ 0xFFE)
    (performs : (machine.perform around instruction).2 = .ok flow) :
    (flow.apply machine.registers.counter).toNat ≤ 0x10FE := by
  have two : (2 : UInt16).toNat = 2 := rfl
  have four : (4 : UInt16).toNat = 4 := rfl
  cases flow with
  | advance =>
      simp only [Flow.apply, UInt16.toNat_add]
      omega
  | skip =>
      simp only [Flow.apply, UInt16.toNat_add]
      omega
  | jump target =>
      rcases perform_jump performs with near | ⟨rest, pops⟩
      · exact near
      · exact Nat.le_trans (h.pop pops).1 (by decide)
  | suspend => exact Nat.le_trans inside (by decide)

/-- An instruction leaves no wait behind, or one that stands on it. -/
theorem wait_of_perform (idle : machine.wait = .idle)
    (performs : machine.perform around instruction = (performed, .ok flow)) :
    performed.wait = .idle ∨ ∃ x, performed.wait = .awaitingRelease x ∧ flow = .suspend := by
  by_cases awaits : ∃ x, instruction = .awaitKey x
  · obtain ⟨x, rfl⟩ := awaits
    rw [perform_awaitKey idle] at performs
    obtain ⟨rfl, ends⟩ := Prod.mk.inj performs
    exact .inr ⟨x, rfl, (Except.ok.inj ends).symm⟩
  · have kept := perform_wait around machine fun x same => awaits ⟨x, same⟩
    rw [performs, idle] at kept
    exact .inl kept

/-- An instruction that was fetched and carried out keeps the invariant. -/
theorem Sound.obey (h : machine.Sound) (idle : machine.wait = .idle)
    (inside : machine.registers.counter.toNat ≤ 0xFFE)
    (performs : machine.perform around instruction = (performed, .ok flow)) :
    (performed.follow flow).Sound := by
  have kept : performed.registers.counter = machine.registers.counter := by
    rw [← perform_counter around machine instruction, performs]
  -- A wait that the instruction began is still to see its key, so it says nothing of registers.
  have waits := wait_of_perform idle performs
  refine ⟨?_, ?_, ?_, ?_⟩
  · have lands := counter_le_of_flow h.stack_bounded inside (congrArg Prod.snd performs)
    rwa [← kept] at lands
  · have bounded := bounded_perform h.stack_bounded inside around instruction
    rwa [performs] at bounded
  · intro waiting
    rcases waits with none_left | ⟨x, _, rfl⟩
    · exact absurd none_left waiting
    · rwa [← kept] at inside
  · intro x key pressed
    rcases waits with none_left | ⟨y, begun, _⟩
    · exact absurd (none_left.symm.trans pressed) (by simp)
    · exact absurd (begun.symm.trans pressed) (by simp)

theorem Sound.step (h : machine.Sound) (around : Surroundings) : (machine.step around).1.Sound := by
  have cleared : { machine with redraw := false }.Sound := h.of_eq rfl rfl
  have way := step_case around machine
  generalize machine.step around = result at way ⊢
  cases way with
  | served waiting served eq =>
      subst eq
      exact (cleared.serveWait waiting around.held).drainTicks
  | refused idle fault _ => exact cleared
  | obeyed idle word instruction performed flow moved fetched decoded performs eq =>
      subst eq
      exact (cleared.obey idle (counter_le_of_fetched fetched) performs).drainTicks

theorem Sound.load (h : machine.Sound) {program : List UInt8} {loaded : Machine}
    (loads : machine.load program = .ok loaded) : loaded.Sound := by
  cases placed : machine.memory.load program programStart with
  | error fault => simp [Machine.load, placed, bind, Except.bind] at loads
  | ok memory =>
      obtain rfl : { machine with memory } = loaded := by
        simpa [Machine.load, placed, bind, Except.bind, pure, Except.pure] using loads
      exact h.of_eq rfl rfl

theorem Sound.act (h : machine.Sound) (action : Action) : (machine.act action).Sound := by
  cases action with
  | load program =>
      rw [Machine.act]
      split
      next loaded loads => exact h.load loads
      next => exact h
  | step around => exact h.step around
  | reset => exact (sound_initial machine.dialect).of_eq rfl rfl
  | queue ticks => exact h.of_eq rfl rfl
  | adopt dialect => exact h.of_eq rfl rfl

/-- Every part of a machine in its range, said in numbers.  Sizes and byte ranges
lie in the types; the bounds on return addresses and on the program counter and
what is said of the wait are the invariant's. -/
structure WellFormed (machine : Machine) : Prop where
  memory_size : machine.memory.cells.toList.length = 4096
  memory_le : ∀ cell ∈ machine.memory.cells.toList, cell.toNat ≤ 255
  registers_size : machine.registers.v.toList.length = 16
  registers_le : ∀ value ∈ machine.registers.v.toList, value.toNat ≤ 255
  index_le : machine.registers.index.toNat ≤ 0xFFFF
  depth_le : machine.registers.stack.depth ≤ 16
  slots_size : machine.registers.stack.slots.toList.length = 16
  slots_le : ∀ slot ∈ machine.registers.stack.slots.toList, slot.toNat ≤ 0x1000
  delay_le : machine.registers.delay.toNat ≤ 255
  sound_le : machine.registers.sound.toNat ≤ 255
  rows_size : machine.screen.rows.toList.length = 32
  columns_size : ∀ row ∈ machine.screen.rows.toList, row.toList.length = 64
  pixel_eq : ∀ row ∈ machine.screen.rows.toList, ∀ pixel ∈ row.toList,
    pixel.toNat = 0 ∨ pixel.toNat = 1
  counter_le : machine.registers.counter.toNat ≤ 0x10FE
  /-- What is kept by a call, and where a step goes on, is no wrapped number. -/
  advance_eq : (machine.registers.counter + 2).toNat = machine.registers.counter.toNat + 2
  skip_eq : (machine.registers.counter + 4).toNat = machine.registers.counter.toNat + 4
  offset_eq : ∀ (target : Address) (x : Register),
    (UInt16.ofNat (target + (machine.registers.get x).toNat)).toNat =
      target + (machine.registers.get x).toNat
  register_eq_none : machine.wait.register? = none ↔ machine.wait.phase = "idle"
  register_lt : ∀ x, machine.wait.register? = some x → x.val < 16
  key_isSome : machine.wait.key?.isSome ↔ machine.wait.phase = "awaiting_release_post"
  pressed : machine.wait.phase = "awaiting_release_post" →
    ∃ x key, machine.wait.register? = some x ∧ machine.wait.key? = some key ∧
      key.val < 16 ∧ (machine.registers.get x).toNat = key.val
  waiting_counter_le : machine.wait.active = true → machine.registers.counter.toNat ≤ 0xFFE

theorem Sound.wellFormed (h : machine.Sound) : machine.WellFormed where
  memory_size := machine.memory.cells.length_toList
  memory_le cell _ := Nat.le_of_lt_succ cell.toNat_lt
  registers_size := machine.registers.v.length_toList
  registers_le value _ := Nat.le_of_lt_succ value.toNat_lt
  index_le := Nat.le_of_lt_succ machine.registers.index.toNat_lt
  depth_le := machine.registers.stack.depth_le
  slots_size := machine.registers.stack.slots.length_toList
  slots_le slot member := by
    obtain ⟨place, small, rfl⟩ := List.mem_iff_getElem.mp member
    have bound : place < 16 := by simpa using small
    simpa using h.stack_bounded ⟨place, bound⟩
  delay_le := Nat.le_of_lt_succ machine.registers.delay.toNat_lt
  sound_le := Nat.le_of_lt_succ machine.registers.sound.toNat_lt
  rows_size := machine.screen.rows.length_toList
  columns_size row _ := row.length_toList
  pixel_eq _ _ pixel _ := by cases pixel <;> simp
  counter_le := h.counter_le
  advance_eq := by
    have := h.counter_le
    have two : (2 : UInt16).toNat = 2 := rfl
    rw [UInt16.toNat_add]
    omega
  skip_eq := by
    have := h.counter_le
    have four : (4 : UInt16).toNat = 4 := rfl
    rw [UInt16.toNat_add]
    omega
  offset_eq target x := by
    have := target.isLt
    have := (machine.registers.get x).toNat_lt
    rw [UInt16.toNat_ofNat']
    omega
  register_eq_none := by
    cases machine.wait <;> simp [KeyWait.register?, KeyWait.phase]
  register_lt x _ := x.isLt
  key_isSome := by
    cases machine.wait <;> simp [KeyWait.key?, KeyWait.phase]
  pressed phase := by
    cases wait : machine.wait with
    | awaitingKeyUp x key => exact ⟨x, key, rfl, rfl, key.isLt, h.pressed_eq x key wait⟩
    | _ => simp [wait, KeyWait.phase] at phase
  waiting_counter_le active := h.waiting_counter_le (machine.wait.active_eq_true_iff.mp active)

/-- Every machine that any run leads to from power-on is well formed. -/
theorem run_wellFormed (dialect : Dialect) (actions : List Action) :
    ((initial dialect).run actions).WellFormed := by
  have sound : ((initial dialect).run actions).Sound :=
    run_preserves (fun _ action h => h.act action) actions (sound_initial dialect)
  exact sound.wellFormed

end Machine
end Chip8
