import Chip8.Proofs.Calls
import Chip8.Proofs.Dialects
import Chip8.Proofs.Operations
import Chip8.Proofs.Surroundings
import Chip8.Proofs.Timers

/-!
What a word can change.  `Machine.Effect` goes through the parts of the machine
and names, for each of them, the forms of the words that reach it; all other words
leave that part alone.  Where a form can change a part, the structure also says
how far: which bytes, which slot, which registers.
-/

namespace Chip8

/-- Whether a word of a form may change a byte register, `x` being the register
that it names first. -/
def MayChange (dialect : Dialect) (form : String) (x r : Register) : Prop :=
  (r = x ∧ form ∈ ["6XKK", "7XKK", "8XY0", "8XY1", "8XY2", "8XY3", "8XY4", "8XY5", "8XY6",
    "8XY7", "8XYE", "CXKK", "FX07"]) ∨
  (r = .flag ∧ form ∈ ["8XY4", "8XY5", "8XY6", "8XY7", "8XYE", "DXYN"]) ∨
  (r = .flag ∧ dialect.resetFlagOnLogic = true ∧ form ∈ ["8XY1", "8XY2", "8XY3"]) ∨
  (r ≤ x ∧ form = "FX65")

/-- An operation that may not change the flag register leaves it out of its result. -/
theorem Arithmetic.apply_snd_of_not_mayChange {dialect : Dialect} {operation : Arithmetic}
    {x : Register} (kept : ¬ MayChange dialect operation.form x .flag) (a b : UInt8) :
    (operation.apply dialect a b).2 = none := by
  cases operation with
  | load => rfl
  | or | and | xor =>
      have keeps : dialect.resetFlagOnLogic = false := by
        rw [← Bool.not_eq_true]
        exact fun resets => kept (.inr (.inr (.inl ⟨rfl, resets, by decide⟩)))
      simp [apply, keeps]
  | add | subtract | shiftRight | subtractFrom | shiftLeft =>
      exact absurd (.inr (.inl ⟨rfl, by decide⟩)) kept

/-- Memory is zero behind the glyphs. -/
theorem Memory.byte_initial {address : Nat} (behind : 80 ≤ address) :
    initial.byte address = 0 := by
  have length : glyphs.length = 80 := rfl
  rw [byte_initial_eq, List.getElem?_eq_none (by omega), Option.getD_none]

/-- Bytes that a write does not reach stay as they are. -/
theorem Memory.byte_of_writeBytes {memory written : Memory} {start : Nat} {bytes : List UInt8}
    (writes : memory.writeBytes start bytes = .ok written) {address : Nat}
    (outside : ¬(start ≤ address ∧ address < start + bytes.length)) :
    written.byte address = memory.byte address := by
  rw [writeBytes_natCast] at writes
  split at writes
  next => rw [← Except.ok.inj writes, byte_place, if_neg (by omega)]
  next => cases writes

namespace Machine

/-- Whether a word of a form skips the word behind it. -/
def skips (around : Surroundings) (machine : Machine) (form : String) (word : Nat) : Bool :=
  let x := machine.registers.get (nibble (word / 256))
  let y := machine.registers.get (nibble (word / 16))
  match form with
  | "3XKK" => x.toNat == word % 256
  | "4XKK" => x.toNat != word % 256
  | "5XY0" => x == y
  | "9XY0" => x != y
  | "EX9E" => around.held (nibble x.toNat)
  | "EXA1" => !around.held (nibble x.toNat)
  | _ => false

/-- What a step on a word of a form has changed, at most. -/
structure Effect (around : Surroundings) (form : String) (word : Nat) (before after : Machine) :
    Prop where
  dialect_eq : after.dialect = before.dialect
  /-- Every queued tick has reached the timers. -/
  ticks_eq : after.ticks = []
  /-- Bytes change in the block of three digits or of registers at the index. -/
  byte_eq : ∀ address,
    ¬(form = "FX33" ∧ before.registers.index.toNat ≤ address ∧
      address ≤ before.registers.index.toNat + 2) →
    ¬(form = "FX55" ∧ before.registers.index.toNat ≤ address ∧
      address ≤ before.registers.index.toNat + (nibble (word / 256)).val) →
    after.memory.byte address = before.memory.byte address
  screen_eq : form ∉ ["00E0", "DXYN"] → after.screen = before.screen
  redraw_iff : after.redraw = true ↔ form ∈ ["00E0", "DXYN"]
  stack_eq : form ∉ ["2NNN", "00EE"] → after.registers.stack = before.registers.stack
  /-- A call keeps the way back in the slot at its depth. -/
  call_eq : form = "2NNN" →
    after.registers.stack.depth = before.registers.stack.depth + 1 ∧
    ∀ slot, after.registers.stack.slots[slot]? =
      if slot = before.registers.stack.depth then some (before.registers.counter + 2)
      else before.registers.stack.slots[slot]?
  /-- A return writes no slot and goes where the topmost one says. -/
  return_eq : form = "00EE" →
    after.registers.stack.depth + 1 = before.registers.stack.depth ∧
    after.registers.stack.slots = before.registers.stack.slots ∧
    before.registers.stack.slots[after.registers.stack.depth]? = some after.registers.counter
  index_eq : form ∉ ["ANNN", "FX1E", "FX29"] →
    ¬(before.dialect.advanceIndexOnCopy = true ∧ form ∈ ["FX55", "FX65"]) →
    after.registers.index = before.registers.index
  get_eq : ∀ r, ¬ MayChange before.dialect form (nibble (word / 256)) r →
    after.registers.get r = before.registers.get r
  /-- The word may load a timer; then the ticks reach it. -/
  timer_eq : ∀ timer : Timer, (timer.value after.registers).toNat =
    (if form = timer.form then before.registers.get (nibble (word / 256))
      else timer.value before.registers).toNat - before.ticks.sum
  wait_eq : after.wait =
    if form = "FX0A" then .awaitingRelease (nibble (word / 256)) else before.wait
  drawn_eq : after.drawn = before.drawn + if form = "CXKK" then 1 else 0
  jump_eq : form ∈ ["1NNN", "2NNN"] → after.registers.counter.toNat = word % 4096
  offset_eq : form = "BNNN" → after.registers.counter.toNat = word % 4096 +
    (before.registers.get
      (if before.dialect.jumpByNamedRegister then nibble (word / 256) else .first)).toNat
  suspend_eq : form = "FX0A" → after.registers.counter = before.registers.counter
  /-- All other words go on to the next word or to the one behind it. -/
  advance_eq : form ∉ ["00EE", "1NNN", "2NNN", "BNNN", "FX0A"] →
    after.registers.counter.toNat = before.registers.counter.toNat +
      if before.skips around form word then 4 else 2

/-! What an instruction leaves alone, by its form. -/

section Parts

variable {around : Surroundings} {machine performed : Machine} {instruction : Instruction}
  {flow : Flow} {word : Nat} {x : Register}

theorem eq_of_performs (performs : machine.perform around instruction = (performed, .ok flow)) :
    performed = (machine.perform around instruction).1 :=
  (congrArg Prod.fst performs).symm

/-- Bytes outside the block that is written stay as they are. -/
theorem byte_perform (performs : machine.perform around instruction = (performed, .ok flow))
    (named : ∀ y, instruction.register? = some y → y = x) (address : Nat)
    (digits : ¬(instruction.form = "FX33" ∧ machine.registers.index.toNat ≤ address ∧
      address ≤ machine.registers.index.toNat + 2))
    (block : ¬(instruction.form = "FX55" ∧ machine.registers.index.toNat ≤ address ∧
      address ≤ machine.registers.index.toNat + x.val)) :
    performed.memory.byte address = machine.memory.byte address := by
  rw [eq_of_performs performs, perform.eq_def]
  cases instruction with
  | decimal y =>
      dsimp only
      split
      next => rfl
      next memory writes =>
        apply Memory.byte_of_writeBytes writes
        rintro ⟨start, stop⟩
        exact digits ⟨rfl, start, Nat.le_of_lt_succ stop⟩
  | store y =>
      obtain rfl := named y rfl
      dsimp only
      split
      next => rfl
      next memory writes =>
        apply Memory.byte_of_writeBytes writes
        rintro ⟨start, stop⟩
        rw [List.length_take] at stop
        exact block ⟨rfl, start, by omega⟩
  | _ => dsimp only <;> (try split) <;> rfl

theorem screen_perform (performs : machine.perform around instruction = (performed, .ok flow))
    (undrawn : instruction.form ∉ ["00E0", "DXYN"]) : performed.screen = machine.screen := by
  rw [eq_of_performs performs, perform.eq_def]
  cases instruction with
  | clearScreen | draw x y height => simp [Instruction.form] at undrawn
  | _ => dsimp only <;> (try split) <;> rfl

/-- The redraw flag is raised by the words that touch the screen. -/
theorem redraw_perform (shown : machine.redraw = false)
    (performs : machine.perform around instruction = (performed, .ok flow)) :
    performed.redraw = true ↔ instruction.form ∈ ["00E0", "DXYN"] := by
  rw [eq_of_performs performs]
  rw [perform.eq_def] at performs ⊢
  cases instruction with
  | clearScreen => simp [Instruction.form]
  | draw x y height =>
      dsimp only at performs ⊢
      split at performs
      next => simp at performs
      next => simp [Instruction.form]
  | arithmetic operation x y =>
      dsimp only
      split <;> cases operation <;> simp [Instruction.form, Arithmetic.form, shown]
  | _ => dsimp only; (try split) <;> simp [Instruction.form, shown]

theorem index_perform (performs : machine.perform around instruction = (performed, .ok flow))
    (unset : instruction.form ∉ ["ANNN", "FX1E", "FX29"])
    (uncopied : ¬(machine.dialect.advanceIndexOnCopy = true ∧
      instruction.form ∈ ["FX55", "FX65"])) :
    performed.registers.index = machine.registers.index := by
  rw [eq_of_performs performs, perform.eq_def]
  cases instruction with
  | setIndex target | addIndex x | glyph x => simp [Instruction.form] at unset
  | store x | fetch x =>
      have stays : machine.dialect.advanceIndexOnCopy = false := by
        simpa [Instruction.form] using uncopied
      dsimp only
      split
      next => rfl
      next => simp [indexAfterCopy, stays]
  | _ => dsimp only <;> (try split) <;> rfl

/-- Only the registers that a form may change do change. -/
theorem get_perform (performs : machine.perform around instruction = (performed, .ok flow))
    (named : ∀ y, instruction.register? = some y → y = x) (r : Register)
    (kept : ¬ MayChange machine.dialect instruction.form x r) :
    performed.registers.get r = machine.registers.get r := by
  rw [eq_of_performs performs]
  cases instruction with
  | arithmetic operation y z =>
      obtain rfl := named y rfl
      have other : r ≠ y := fun same =>
        kept (.inl ⟨same, by cases operation <;> simp [Instruction.form, Arithmetic.form]⟩)
      rw [perform_arithmetic]
      dsimp only
      rw [Registers.get_record, if_neg other]
      split
      next flag =>
        subst flag
        rw [Arithmetic.apply_snd_of_not_mayChange kept]
        rfl
      next => rfl
  | setByte y value | addByte y value | random y mask | readDelay y =>
      obtain rfl := named y rfl
      have other : r ≠ y := fun same => kept (.inl ⟨same, by simp [Instruction.form]⟩)
      rw [perform.eq_def]
      simp [Registers.get_set, other]
  | draw y z height =>
      have other : r ≠ .flag := fun same => kept (.inr (.inl ⟨same, by simp [Instruction.form]⟩))
      rw [perform.eq_def]
      dsimp only
      split
      next => rfl
      next => simp [Registers.get_set, other]
  | fetch y =>
      obtain rfl := named y rfl
      have past : y.val < r.val :=
        Fin.not_le.mp fun below => kept (.inr (.inr (.inr ⟨below, rfl⟩)))
      rw [perform.eq_def]
      dsimp only
      split
      next => rfl
      next values reads =>
        have length : values.length = y + 1 := Memory.length_of_readBlock reads
        have beyond : values[r.val]? = none := List.getElem?_eq_none (by omega)
        refine (Registers.get_setFirst machine.registers values r).trans ?_
        rw [beyond, Option.getD_none]
  | _ => rw [perform.eq_def] <;> dsimp only <;> (try split) <;> rfl

/-! Where the program goes on. -/

theorem toNat_apply_skipIf {counter : UInt16} (inside : counter.toNat ≤ 0xFFE) (taken : Bool) :
    ((skipIf taken).apply counter).toNat = counter.toNat + if taken then 4 else 2 := by
  have two : (2 : UInt16).toNat = 2 := rfl
  have four : (4 : UInt16).toNat = 4 := rfl
  cases taken
  · simp only [skipIf, Flow.apply, UInt16.toNat_add, Bool.false_eq_true, if_false]
    omega
  · simp only [skipIf, Flow.apply, UInt16.toNat_add, if_true]
    omega

theorem beq_ofNat (value : UInt8) (word : Nat) :
    (value == UInt8.ofNat word) = (value.toNat == word % 256) := by
  rw [Bool.eq_iff_iff, beq_iff_eq, beq_iff_eq, ← UInt8.toNat_inj, UInt8.toNat_ofNat']

theorem Key.eq_nibble_of_ofInt {index : Nat} {key : Key} (known : Key.ofInt index = .ok key) :
    key = nibble index := by
  unfold Key.ofInt at known
  split at known
  next inside =>
    rw [← Except.ok.inj known]
    apply Fin.ext
    simp only [nibble]
    omega
  next => cases known

/-- A word that neither jumps nor waits goes on to the next word, or skips it. -/
theorem flow_perform (performs : machine.perform around instruction = (performed, .ok flow))
    (operands : instruction.OperandsIn word)
    (stays : instruction.form ∉ ["00EE", "1NNN", "2NNN", "BNNN", "FX0A"]) :
    flow = skipIf (machine.skips around instruction.form word) := by
  rw [perform.eq_def] at performs
  cases instruction with
  | returnFromCall | jump target | call target | jumpOffset x target | awaitKey x =>
      simp [Instruction.form] at stays
  | skipIfByte x value =>
      obtain ⟨rfl, rfl⟩ := operands
      rw [← Except.ok.inj (Prod.mk.inj performs).2, beq_ofNat]
      rfl
  | skipUnlessByte x value =>
      obtain ⟨rfl, rfl⟩ := operands
      rw [← Except.ok.inj (Prod.mk.inj performs).2, bne, beq_ofNat]
      rfl
  | skipIfSame x y | skipUnlessSame x y =>
      obtain ⟨rfl, rfl⟩ := operands
      exact (Except.ok.inj (Prod.mk.inj performs).2).symm
  | skipIfHeld x | skipUnlessHeld x =>
      obtain rfl := operands
      dsimp only at performs
      split at performs
      next => simp at performs
      next key known =>
        rw [← Except.ok.inj (Prod.mk.inj performs).2, Key.eq_nibble_of_ofInt known]
        rfl
  | arithmetic operation x y =>
      dsimp only at performs
      split at performs <;> cases operation <;>
        exact (Except.ok.inj (Prod.mk.inj performs).2).symm
  | draw x y height | decimal x | store x | fetch x =>
      dsimp only at performs
      split at performs
      next => simp at performs
      next => exact (Except.ok.inj (Prod.mk.inj performs).2).symm
  | _ => exact (Except.ok.inj (Prod.mk.inj performs).2).symm

theorem toNat_ofNat_word (word : Nat) :
    (UInt16.ofNat (Address.ofNat word)).toNat = word % 4096 := by
  simp only [Address.ofNat, UInt16.toNat_ofNat']
  omega

theorem flow_of_jump (performs : machine.perform around instruction = (performed, .ok flow))
    (operands : instruction.OperandsIn word) (jumps : instruction.form ∈ ["1NNN", "2NNN"]) :
    ∃ target : UInt16, flow = .jump target ∧ target.toNat = word % 4096 := by
  rw [perform.eq_def] at performs
  cases instruction with
  | jump target =>
      obtain rfl := operands
      exact ⟨_, (Except.ok.inj (Prod.mk.inj performs).2).symm, toNat_ofNat_word word⟩
  | call target =>
      obtain rfl := operands
      dsimp only at performs
      split at performs
      next => simp at performs
      next => exact ⟨_, (Except.ok.inj (Prod.mk.inj performs).2).symm, toNat_ofNat_word word⟩
  | arithmetic operation x y =>
      cases operation <;> simp [Instruction.form, Arithmetic.form] at jumps
  | _ => simp [Instruction.form] at jumps

theorem flow_of_offset (performs : machine.perform around instruction = (performed, .ok flow))
    (operands : instruction.OperandsIn word) (jumps : instruction.form = "BNNN") :
    ∃ target : UInt16, flow = .jump target ∧ target.toNat = word % 4096 +
      (machine.registers.get
        (if machine.dialect.jumpByNamedRegister then nibble (word / 256) else .first)).toNat := by
  rw [perform.eq_def] at performs
  cases instruction with
  | jumpOffset x target =>
      obtain ⟨rfl, rfl⟩ := operands
      refine ⟨_, (Except.ok.inj (Prod.mk.inj performs).2).symm, ?_⟩
      have small := (machine.registers.get
        (if machine.dialect.jumpByNamedRegister then nibble (word / 256) else .first)).toNat_lt
      simp only [Address.ofNat, UInt16.toNat_ofNat']
      omega
  | arithmetic operation x y =>
      cases operation <;> simp [Instruction.form, Arithmetic.form] at jumps
  | _ => simp [Instruction.form] at jumps

/-- A call writes the slot at its depth and no other. -/
theorem stack_of_call (performs : machine.perform around instruction = (performed, .ok flow))
    (calls : instruction.form = "2NNN") :
    performed.registers.stack.depth = machine.registers.stack.depth + 1 ∧
    ∀ slot, performed.registers.stack.slots[slot]? =
      if slot = machine.registers.stack.depth then some (machine.registers.counter + 2)
      else machine.registers.stack.slots[slot]? := by
  obtain ⟨target, rfl⟩ := exists_call_of_form calls
  have pushes := perform_call performs
  exact ⟨CallStack.depth_of_push pushes, CallStack.getElem?_of_push pushes⟩

/-- A return writes no slot and goes where the topmost one says. -/
theorem stack_of_return (performs : machine.perform around instruction = (performed, .ok flow))
    (returns : instruction.form = "00EE") :
    ∃ target, flow = .jump target ∧
      performed.registers.stack.depth + 1 = machine.registers.stack.depth ∧
      performed.registers.stack.slots = machine.registers.stack.slots ∧
      machine.registers.stack.slots[performed.registers.stack.depth]? = some target := by
  cases instruction with
  | returnFromCall =>
      obtain ⟨target, pops, jumps⟩ := perform_return performs
      obtain ⟨slots, depth, top⟩ := CallStack.pop_eq_ok pops
      exact ⟨target, jumps, depth.symm, slots, top⟩
  | arithmetic operation x y =>
      cases operation <;> simp [Instruction.form, Arithmetic.form] at returns
  | _ => simp [Instruction.form] at returns

theorem stack_perform (performs : machine.perform around instruction = (performed, .ok flow))
    (kept : instruction.form ∉ ["2NNN", "00EE"]) :
    performed.registers.stack = machine.registers.stack := by
  rw [eq_of_performs performs]
  apply perform_stack
  · rintro target rfl
    simp [Instruction.form] at kept
  · rintro rfl
    simp [Instruction.form] at kept

/-- A timer is loaded by the words of its form and by no others. -/
theorem timer_perform (performs : machine.perform around instruction = (performed, .ok flow))
    (named : ∀ y, instruction.register? = some y → y = x) (timer : Timer) :
    timer.value performed.registers =
      if instruction.form = timer.form then machine.registers.get x
      else timer.value machine.registers := by
  rw [eq_of_performs performs]
  split
  next loads =>
    obtain ⟨y, rfl⟩ := Timer.exists_load_of_form loads
    obtain rfl := named y (timer.register?_load y)
    exact value_perform_load timer y around machine
  next other =>
    apply value_perform timer around machine
    rintro y rfl
    exact other (timer.form_load y)

/-- The waiting instruction begins a wait and stays where it is. -/
theorem wait_perform (idle : machine.wait = .idle)
    (performs : machine.perform around instruction = (performed, .ok flow))
    (named : ∀ y, instruction.register? = some y → y = x) :
    (performed.wait = if instruction.form = "FX0A" then .awaitingRelease x else machine.wait) ∧
      (instruction.form = "FX0A" → flow = .suspend) := by
  by_cases waits : ∃ y, instruction = .awaitKey y
  · obtain ⟨y, rfl⟩ := waits
    obtain rfl := named y rfl
    rw [perform_awaitKey idle] at performs
    obtain ⟨rfl, suspends⟩ := Prod.mk.inj performs
    exact ⟨rfl, fun _ => (Except.ok.inj suspends).symm⟩
  · have other : instruction.form ≠ "FX0A" := by
      intro form
      cases instruction with
      | awaitKey y => exact waits ⟨y, rfl⟩
      | arithmetic operation y z =>
          cases operation <;> simp [Instruction.form, Arithmetic.form] at form
      | _ => simp [Instruction.form] at form
    rw [eq_of_performs performs, if_neg other]
    exact ⟨perform_wait around machine fun y same => waits ⟨y, same⟩, fun form => absurd form other⟩

end Parts

variable {around : Surroundings} {machine performed : Machine} {instruction : Instruction}
  {flow : Flow} {word : Nat}

/-- What an instruction and the way on from it have changed. -/
theorem effect_perform (idle : machine.wait = .idle) (current : machine.currentWord = .ok word)
    (decoded : Instruction.decode? word = some instruction)
    (performs : { machine with redraw := false }.perform around instruction =
      (performed, .ok flow)) :
    Effect around instruction.form word machine (performed.follow flow).drainTicks := by
  have operands := Instruction.operandsIn_of_decode? decoded
  have named : ∀ y, instruction.register? = some y → y = nibble (word / 256) := fun y first =>
    Instruction.register?_of_decode? decoded first
  have rests : { machine with redraw := false }.wait = .idle := idle
  have counter : performed.registers.counter = machine.registers.counter := by
    rw [eq_of_performs performs, perform_counter]
  have queue : performed.ticks = machine.ticks := by
    rw [eq_of_performs performs, perform_ticks]
  have dialect : performed.dialect = machine.dialect := by
    rw [eq_of_performs performs, perform_dialect]
  have drawn : performed.drawn = machine.drawn + if instruction.form = "CXKK" then 1 else 0 := by
    rw [eq_of_performs performs, perform_drawn]
  have bytes := byte_perform performs named
  have screen := screen_perform performs
  have redraw := redraw_perform rfl performs
  have waits := wait_perform rests performs named
  have kept := stack_perform performs
  have called := stack_of_call performs
  have index := index_perform performs
  have registers := get_perform performs named
  have onward := flow_perform performs operands
  constructor
  case dialect_eq => exact dialect
  case ticks_eq => rfl
  case byte_eq => exact bytes
  case screen_eq => exact screen
  case redraw_iff => exact redraw
  case wait_eq => exact waits.1
  case drawn_eq => exact drawn
  case timer_eq =>
    intro timer
    rw [value_drainTicks, value_follow, timer_perform performs named timer]
    exact congrArg (_ - List.sum ·) queue
  -- What is left is about registers that the ticks do not reach.
  all_goals rw [drainTicks_eq]
  case stack_eq => exact kept
  case call_eq => exact called
  case return_eq =>
    intro returns
    obtain ⟨target, rfl, depth, slots, top⟩ := stack_of_return performs returns
    exact ⟨depth, slots, top⟩
  case index_eq => exact index
  case get_eq => exact registers
  case jump_eq =>
    intro jumps
    obtain ⟨target, rfl, lands⟩ := flow_of_jump performs operands jumps
    exact lands
  case offset_eq =>
    intro jumps
    obtain ⟨target, rfl, lands⟩ := flow_of_offset performs operands jumps
    exact lands
  case suspend_eq =>
    intro form
    rw [waits.2 form]
    exact counter
  case advance_eq =>
    intro stays
    have lands := toNat_apply_skipIf (counter_le_of_fetched current)
      (machine.skips around instruction.form word)
    rw [← counter] at lands ⊢
    rw [onward stays]
    exact lands

/-- A bulk load that stays inside memory. -/
theorem perform_fetch {x : Register} {values : List UInt8}
    (reads : machine.memory.readBlock machine.registers.index.toNat (x + 1 : Nat) = .ok values)
    (around : Surroundings) :
    machine.perform around (.fetch x) =
      ({ machine with registers :=
          { machine.registers.setFirst values with index := machine.indexAfterCopy x } },
       .ok .advance) := by
  rw [perform.eq_def]
  dsimp only
  rw [reads]

/-! The table of registers is exact: what a form may change, some step on it changes. -/

/-- Some sound machine has a byte register changed by a step on a word of a form, whose
first register is `x`. -/
def Changes (dialect : Dialect) (form : String) (x r : Register) : Prop :=
  ∃ (machine : Machine) (around : Surroundings) (word : Nat) (shown : Snapshot),
    machine.Sound ∧ machine.dialect = dialect ∧ machine.wait = .idle ∧
      machine.currentWord = .ok word ∧ hasForm form word = true ∧ nibble (word / 256) = x ∧
      (machine.step around).2 = .ok shown ∧
      (machine.step around).1.registers.get r ≠ machine.registers.get r

/-- The word of a first digit, a register and a low byte. -/
def wordOf (first : Fin 16) (x : Register) (low : Fin 256) : Nat := 4096 * first + 256 * x + low

/-- A register that is neither the given one nor the flag register. -/
def spare (x : Register) : Register := if x = .first then ⟨1, by decide⟩ else .first

theorem spare_ne : ∀ x, spare x ≠ x ∧ spare x ≠ .flag := by decide

/-- A machine about to carry out a word with a first register `x`.  Every byte register
has eight but for the spare one, which has one, and the index is on zeros behind the
glyphs. -/
def poised (dialect : Dialect) (x : Register) (word : Nat) : Machine :=
  { initial dialect with
    memory := Memory.initial.place programStart [UInt8.ofNat (word / 256), UInt8.ofNat word]
    registers := { Registers.initial with
      v := Vector.ofFn fun r => if r = spare x then 1 else 8
      index := 80 } }

section Poised

variable {dialect : Dialect} {x r : Register} {word : Nat}

theorem currentWord_poised (small : word < 65536) :
    (poised dialect x word).currentWord = .ok word := by
  rw [currentWord, Memory.readWord_natCast]
  simp [poised, initial, Registers.initial, Memory.byte_place, programStart, memorySize]
  omega

theorem get_poised (r : Register) :
    (poised dialect x word).registers.get r = if r = spare x then 1 else 8 := by
  simp [poised, Registers.get]

theorem get_poised_of_ne (apart : spare x ≠ r) : (poised dialect x word).registers.get r = 8 := by
  rw [get_poised, if_neg apart.symm]

theorem byte_poised {address : Nat} (behind : 80 ≤ address) (before : address < programStart) :
    (poised dialect x word).memory.byte address = 0 := by
  have unplaced : ¬ programStart ≤ address := Nat.not_le.mpr before
  refine Eq.trans ?_ (Memory.byte_initial behind)
  simp [poised, Memory.byte_place, unplaced]

theorem sound_poised : (poised dialect x word).Sound where
  counter_le := by simp [poised, Registers.initial, programStart]
  stack_bounded := CallStack.bounded_empty
  waiting_counter_le waiting := by simp [poised, initial] at waiting
  pressed_eq x key pressed := by simp [poised, initial] at pressed

theorem changes_of_perform {first : Fin 16} {low : Fin 256} {instruction : Instruction}
    {performed : Machine} {form : String}
    (decoded : Instruction.decode? (wordOf first x low) = some instruction)
    (fits : instruction.form = form)
    (performs : (poised dialect x (wordOf first x low)).perform quiet instruction =
      (performed, .ok .advance))
    (changed : performed.registers.get r ≠
      (poised dialect x (wordOf first x low)).registers.get r) :
    Changes dialect form x r := by
  have firstLt := first.isLt
  have xLt := x.isLt
  have lowLt := low.isLt
  have small : wordOf first x low < 65536 := by
    unfold wordOf
    omega
  have named : nibble (wordOf first x low / 256) = x := by
    apply Fin.ext
    simp only [nibble, wordOf]
    omega
  have current : (poised dialect x (wordOf first x low)).currentWord = .ok (wordOf first x low) :=
    currentWord_poised small
  have carried : { poised dialect x (wordOf first x low) with redraw := false }.executeCurrent
      quiet = (performed, .ok .advance) :=
    (executeCurrent_of_decode current decoded).trans performs
  have rests : (poised dialect x (wordOf first x low)).wait = .idle := rfl
  have steps := step_of_flow rests carried
  have form_eq := Instruction.hasForm_of_decode? decoded
  rw [fits] at form_eq
  refine ⟨poised dialect x (wordOf first x low), quiet, wordOf first x low, _, sound_poised, rfl,
    rfl, current, form_eq, named, congrArg Prod.snd steps, ?_⟩
  rw [steps, drainTicks_eq]
  exact changed

end Poised

def lastDigit : Arithmetic → Nat
  | .load => 0x0
  | .or => 0x1
  | .and => 0x2
  | .xor => 0x3
  | .add => 0x4
  | .subtract => 0x5
  | .shiftRight => 0x6
  | .subtractFrom => 0x7
  | .shiftLeft => 0xE

/-- The low byte of a word for an operation with the spare register. -/
def lowByte (x : Register) (operation : Arithmetic) : Fin 256 :=
  Fin.ofNat 256 (16 * spare x + lastDigit operation)

theorem decode?_arithmetic (operation : Arithmetic) (x : Register) :
    Instruction.decode? (wordOf 8 x (lowByte x operation)) =
      some (.arithmetic operation x (spare x)) := by
  cases operation <;> revert x <;> decide

theorem decode?_others : ∀ x : Register,
    Instruction.decode? (wordOf 0x6 x 0x01) = some (.setByte x 1) ∧
    Instruction.decode? (wordOf 0x7 x 0x01) = some (.addByte x 1) ∧
    Instruction.decode? (wordOf 0xC x 0x01) = some (.random x 1) ∧
    Instruction.decode? (wordOf 0xD x 0x00) = some (.draw x 0 0) ∧
    Instruction.decode? (wordOf 0xF x 0x07) = some (.readDelay x) ∧
    Instruction.decode? (wordOf 0xF x 0x65) = some (.fetch x) := by
  decide

/-- No operation makes eight of eight and one, nor puts eight into the flag register. -/
theorem apply_ne (dialect : Dialect) (operation : Arithmetic) :
    (operation.apply dialect 8 1).1 ≠ 8 ∧ (operation.apply dialect 8 1).2 ≠ some 8 := by
  obtain ⟨reset, advance, shift, jump, clip⟩ := dialect
  cases operation <;> decide +revert

theorem mayChange_arithmetic {dialect : Dialect} {operation : Arithmetic} {x r : Register}
    (may : MayChange dialect operation.form x r) (a b : UInt8) :
    r = x ∨ (r = .flag ∧ (operation.apply dialect a b).2 ≠ none) := by
  rcases may with ⟨same, _⟩ | ⟨flag, form⟩ | ⟨flag, reset, form⟩ | ⟨_, form⟩
  · exact .inl same
  · refine .inr ⟨flag, ?_⟩
    cases operation <;> simp [Arithmetic.form, Arithmetic.apply] at form ⊢
  · refine .inr ⟨flag, ?_⟩
    cases operation <;> simp [Arithmetic.form, Arithmetic.apply, reset] at form ⊢
  · cases operation <;> simp [Arithmetic.form] at form

theorem changes_arithmetic {dialect : Dialect} {operation : Arithmetic} {x r : Register}
    (may : MayChange dialect operation.form x r) : Changes dialect operation.form x r := by
  have reached := mayChange_arithmetic may 8 1
  obtain ⟨value_ne, flag_ne⟩ := apply_ne dialect operation
  obtain ⟨apart, unflagged⟩ := spare_ne x
  have performs := perform_arithmetic quiet (poised dialect x (wordOf 8 x (lowByte x operation)))
    operation x (spare x)
  dsimp only at performs
  apply changes_of_perform (decode?_arithmetic operation x) rfl performs
  have old : (poised dialect x (wordOf 8 x (lowByte x operation))).registers.get r = 8 := by
    apply get_poised_of_ne
    rcases reached with rfl | ⟨rfl, _⟩
    · exact apart
    · exact unflagged
  have same : (poised dialect x (wordOf 8 x (lowByte x operation))).dialect = dialect := rfl
  rw [get_poised_of_ne apart, get_poised, if_pos rfl, same]
  dsimp only
  rw [Registers.get_record, old]
  split
  next flag =>
    cases written : (operation.apply dialect 8 1).2 with
    | none =>
        have here : r = x := reached.resolve_right fun writes => writes.2 written
        simpa [here] using value_ne
    | some bit => simpa [written] using flag_ne
  next unlike =>
    have here : r = x := reached.resolve_right fun writes => unlike writes.1
    simpa [here] using value_ne

theorem changes_of_set {dialect : Dialect} {x : Register} {first : Fin 16} {low : Fin 256}
    {instruction : Instruction} {performed : Machine} {value : UInt8} {form : String}
    (decoded : Instruction.decode? (wordOf first x low) = some instruction)
    (fits : instruction.form = form)
    (performs : (poised dialect x (wordOf first x low)).perform quiet instruction =
      (performed, .ok .advance))
    (sets : performed.registers =
      (poised dialect x (wordOf first x low)).registers.set x value) (other : value ≠ 8) :
    Changes dialect form x x := by
  apply changes_of_perform decoded fits performs
  rw [sets, Registers.get_set, if_pos rfl, get_poised_of_ne (spare_ne x).1]
  exact other

theorem changes_draw (dialect : Dialect) (x : Register) : Changes dialect "DXYN" x .flag := by
  obtain ⟨_, _, _, decoded, _, _⟩ := decode?_others x
  apply changes_of_perform decoded rfl (perform.eq_def quiet _ _)
  rw [get_poised_of_ne (spare_ne x).2]
  dsimp only
  rw [Registers.get_set, if_pos rfl]
  split <;> decide

theorem changes_fetch {dialect : Dialect} {x r : Register} (below : r ≤ x) :
    Changes dialect "FX65" x r := by
  obtain ⟨_, _, _, _, _, decoded⟩ := decode?_others x
  have xLt := x.isLt
  have reads : (poised dialect x (wordOf 0xF x 0x65)).memory.readBlock
      (poised dialect x (wordOf 0xF x 0x65)).registers.index.toNat (x + 1 : Nat) =
      .ok ((poised dialect x (wordOf 0xF x 0x65)).memory.slice 80 (x + 1)) := by
    rw [Memory.readBlock_natCast]
    exact if_pos (show 80 + (x.val + 1) ≤ 4096 by omega)
  apply changes_of_perform decoded rfl (perform_fetch reads quiet)
  have inside : r.val < x.val + 1 := Nat.lt_succ_of_le below
  have value := Registers.get_setFirst (poised dialect x (wordOf 0xF x 0x65)).registers
    ((poised dialect x (wordOf 0xF x 0x65)).memory.slice 80 (x + 1)) r
  rw [Memory.getElem?_slice, if_pos inside, Option.getD_some,
    byte_poised (by omega) (by rw [programStart]; omega)] at value
  rw [get_poised]
  refine ne_of_eq_of_ne value ?_
  split <;> decide

/-- The forms of the operations. -/
theorem exists_operation {form : String} (operates : form ∈ ["8XY0", "8XY1", "8XY2", "8XY3",
    "8XY4", "8XY5", "8XY6", "8XY7", "8XYE"]) : ∃ operation : Arithmetic, operation.form = form := by
  simp only [List.mem_cons, List.not_mem_nil, or_false] at operates
  rcases operates with rfl | rfl | rfl | rfl | rfl | rfl | rfl | rfl | rfl
  exacts [⟨.load, rfl⟩, ⟨.or, rfl⟩, ⟨.and, rfl⟩, ⟨.xor, rfl⟩, ⟨.add, rfl⟩, ⟨.subtract, rfl⟩,
    ⟨.shiftRight, rfl⟩, ⟨.subtractFrom, rfl⟩, ⟨.shiftLeft, rfl⟩]

theorem changes_of_mayChange {dialect : Dialect} {form : String} {x r : Register}
    (may : MayChange dialect form x r) : Changes dialect form x r := by
  by_cases operates : ∃ operation : Arithmetic, operation.form = form
  · obtain ⟨operation, rfl⟩ := operates
    exact changes_arithmetic may
  · have other := mt exists_operation operates
    simp only [List.mem_cons, List.not_mem_nil, or_false, not_or] at other
    -- Of the forms that set a register four are left, each with a word that sets it to
    -- something else than the eight it has.
    obtain ⟨set, add, random, _, delay, _⟩ := decode?_others x
    rcases may with ⟨rfl, listed⟩ | ⟨rfl, listed⟩ | ⟨_, _, listed⟩ | ⟨below, rfl⟩
    · have left : form = "6XKK" ∨ form = "7XKK" ∨ form = "CXKK" ∨ form = "FX07" := by
        simpa [other] using listed
      rcases left with rfl | rfl | rfl | rfl
      · exact changes_of_set set rfl (perform.eq_def quiet _ _) rfl (by decide)
      · refine changes_of_set add rfl (perform.eq_def quiet _ _) rfl ?_
        rw [get_poised_of_ne (spare_ne r).1]
        decide
      · refine changes_of_set random rfl (perform.eq_def quiet _ _) rfl ?_
        change UInt8.ofInt 0 &&& 1 ≠ 8
        decide
      · refine changes_of_set delay rfl (perform.eq_def quiet _ _) rfl ?_
        change (0 : UInt8) ≠ 8
        decide
    · obtain rfl : form = "DXYN" := by simpa [other] using listed
      exact changes_draw dialect x
    · simp [other] at listed
    · exact changes_fetch below

/-- The effect of every word.  A step that succeeds with no wait under way carries out a
word of some form of the table, and it changes of each part of the machine no more than
the form allows; the screen is to be shown again just if the form is one that touches it.
The registers that a form may change are exactly those that some step on it does. -/
theorem step_effect :
    (∀ (around : Surroundings) (machine : Machine) (word : Nat) (shown : Snapshot),
      machine.wait = .idle → machine.currentWord = .ok word →
      (machine.step around).2 = .ok shown →
      (∃ form ∈ instructionForms, hasForm form word = true) ∧
      ∀ form ∈ instructionForms, hasForm form word = true →
        Effect around form word machine (machine.step around).1 ∧
        (shown.redraw = true ↔ form ∈ ["00E0", "DXYN"])) ∧
    ∀ (dialect : Dialect) (form : String) (x r : Register),
      MayChange dialect form x r → Changes dialect form x r := by
  constructor
  · intro around machine word shown idle current succeeds
    obtain ⟨instruction, performed, flow, decoded, performs, after⟩ :=
      step_of_word idle current succeeds
    refine ⟨⟨instruction.form, instruction.form_mem, Instruction.hasForm_of_decode? decoded⟩, ?_⟩
    intro form member fits
    rw [Instruction.hasForm_iff (word_lt_of_fetched current) member, decoded] at fits
    obtain rfl := Option.some.inj fits
    have effect := effect_perform idle current decoded performs
    rw [← after] at effect
    rw [← snapshot_of_ok succeeds]
    exact ⟨effect, effect.redraw_iff⟩
  · intro dialect form x r may
    exact changes_of_mayChange may

/-- A word that sets `V3` leaves `V4` and the random sequence alone and goes on to the
next word. -/
theorem step_effect_poised :
    ((poised {} 3 0x6342).step quiet).1.registers.get 4 = 8 ∧
      ((poised {} 3 0x6342).step quiet).1.drawn = 0 ∧
      ((poised {} 3 0x6342).step quiet).1.registers.counter.toNat = 0x202 ∧
      Changes {} "6XKK" 3 3 := by
  have current : (poised {} 3 0x6342).currentWord = .ok 0x6342 := currentWord_poised (by decide)
  have rests : (poised {} 3 0x6342).wait = .idle := rfl
  have carried : { poised {} 3 0x6342 with redraw := false }.executeCurrent quiet =
      ({ poised {} 3 0x6342 with registers := (poised {} 3 0x6342).registers.set 3 0x42 },
        .ok .advance) := executeCurrent_of_decode current rfl
  have succeeds := congrArg Prod.snd (step_of_flow rests carried)
  have effect := ((step_effect.1 quiet _ 0x6342 _ rests current succeeds).2 "6XKK" (by decide)
    (by decide)).1
  refine ⟨?_, effect.drawn_eq, effect.advance_eq (by decide), ?_⟩
  · rw [effect.get_eq 4 (by simp [MayChange, nibble]), get_poised_of_ne (by decide)]
  · exact step_effect.2 {} "6XKK" 3 3 (.inl ⟨rfl, by decide⟩)

end Machine
end Chip8
