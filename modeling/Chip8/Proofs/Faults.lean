import Chip8.Proofs.Execution
import Chip8.Proofs.History
import Chip8.Proofs.WordForm

/-!
Faults.  `Machine.hazard?` reads off a machine the fault that its next step
meets, from the word at the program counter, the registers and the stack alone.
The step meets exactly that fault, so keys, random numbers and ticks have no
part in it, and a machine that has met a fault meets it again for ever.
-/

namespace Chip8

/-- The fault that something came to. -/
def faultOf? {α : Type} : Except Fault α → Option Fault
  | .ok _ => none
  | .error fault => some fault

theorem faultOf?_eq_some_iff {α : Type} (result : Except Fault α) (fault : Fault) :
    faultOf? result = some fault ↔ result = .error fault := by
  cases result <;> simp [faultOf?]

theorem faultOf?_eq_none_iff {α : Type} (result : Except Fault α) :
    faultOf? result = none ↔ ∃ value, result = .ok value := by
  cases result <;> simp [faultOf?]

/-! When each operation under an instruction fails. -/

theorem CallStack.faultOf?_pop (stack : CallStack) :
    faultOf? stack.pop = if stack.depth = 0 then some .stackUnderflow else none := by
  unfold pop
  by_cases empty : stack.depth = 0
  · simp [empty, faultOf?]
  · have some_left : 0 < stack.depth := Nat.pos_of_ne_zero empty
    simp [empty, some_left, faultOf?]

theorem CallStack.faultOf?_push (stack : CallStack) (address : UInt16) :
    faultOf? (stack.push address) =
      if stack.depth = 16 then some (.stackOverflow 16) else none := by
  have depth_le := stack.depth_le
  unfold push
  by_cases full : stack.depth = 16
  · simp [full, faultOf?]
  · have room : stack.depth < 16 := by omega
    simp [full, room, faultOf?]

theorem Memory.faultOf?_inside {α : Type} (address length : Nat) (value : α) :
    faultOf? (if address + length ≤ memorySize then Except.ok value
      else .error (.outOfBounds address length)) =
      if address + length > 4096 then some (.outOfBounds address length) else none := by
  rw [memorySize]
  by_cases inside : address + length ≤ 4096
  · rw [if_pos inside, if_neg (Nat.not_lt.mpr inside), faultOf?]
  · rw [if_neg inside, if_pos (Nat.lt_of_not_le inside), faultOf?]

theorem Memory.faultOf?_readBlock (memory : Memory) (address length : Nat) :
    faultOf? (memory.readBlock address length) =
      if address + length > 4096 then some (.outOfBounds address length) else none := by
  rw [readBlock_natCast, faultOf?_inside]

theorem Memory.faultOf?_writeBytes (memory : Memory) (address : Nat) (bytes : List UInt8) :
    faultOf? (memory.writeBytes address bytes) =
      if address + bytes.length > 4096 then some (.outOfBounds address bytes.length)
      else none := by
  rw [writeBytes_natCast, faultOf?_inside]

theorem Key.faultOf?_ofInt (index : Nat) :
    faultOf? (Key.ofInt index) = if index > 15 then some (.keyOutOfRange index) else none := by
  unfold Key.ofInt
  by_cases known : index ≤ 15
  · rw [dif_pos (by omega), if_neg (by omega), faultOf?]
  · rw [dif_neg (by omega), if_pos (by omega), faultOf?]

/-- A keypad answers for every key there is. -/
theorem Keypad.ask_eq (keypad : Keypad) (key : Key) :
    keypad.ask key.val = .ok (keypad.isHeld key) := by
  have known : 0 ≤ (key.val : Int) ∧ (key.val : Int) < 16 := by have := key.isLt; omega
  rw [Keypad.ask, Key.ofInt, dif_pos known]
  rfl

theorem KeyWait.faultOf?_start (wait : KeyWait) (x : Register) :
    faultOf? (wait.start x) = wait.register?.map fun pending => .keyWaitPending pending.val := by
  unfold start
  cases wait.register? <;> rfl

namespace Machine

/-- The fault that a word meets, of those that a step can come to: the first
that applies. -/
def wordHazard? (machine : Machine) (word : Nat) : Option Fault :=
  let registers := machine.registers
  let index := registers.index.toNat
  let x : Register := nibble (word / 256)
  let n := word % 16
  if ∀ form ∈ instructionForms, hasForm form word = false then
    some (.unsupportedOpcode word (some registers.counter.toNat))
  else if hasForm "00EE" word ∧ registers.stack.depth = 0 then
    some .stackUnderflow
  else if hasForm "2NNN" word ∧ registers.stack.depth = 16 then
    some (.stackOverflow 16)
  else if hasForm "DXYN" word ∧ index + n > 4096 then
    some (.outOfBounds index n)
  else if (hasForm "EX9E" word ∨ hasForm "EXA1" word) ∧ (registers.get x).toNat > 15 then
    some (.keyOutOfRange (registers.get x).toNat)
  else if hasForm "FX33" word ∧ index + 3 > 4096 then
    some (.outOfBounds index 3)
  else if (hasForm "FX55" word ∨ hasForm "FX65" word) ∧ index + (x + 1) > 4096 then
    some (.outOfBounds index (x + 1 : Nat))
  else none

/-- The fault that the next step meets.  A wait under way meets none. -/
def hazard? (machine : Machine) : Option Fault :=
  let counter := machine.registers.counter.toNat
  if machine.wait.active then none
  else if counter > 0xFFE then some (.outOfBounds counter 2)
  else
    machine.wordHazard?
      (256 * (machine.memory.byte counter).toNat + (machine.memory.byte (counter + 1)).toNat)

/-- The fault that an instruction meets on a machine. -/
def performHazard? (machine : Machine) : Instruction → Option Fault
  | .returnFromCall =>
      if machine.registers.stack.depth = 0 then some .stackUnderflow else none
  | .call _ =>
      if machine.registers.stack.depth = 16 then some (.stackOverflow 16) else none
  | .draw _ _ height =>
      if machine.registers.index.toNat + height > 4096 then
        some (.outOfBounds machine.registers.index.toNat height)
      else none
  | .skipIfHeld x | .skipUnlessHeld x =>
      if (machine.registers.get x).toNat > 15 then
        some (.keyOutOfRange (machine.registers.get x).toNat)
      else none
  | .awaitKey _ => machine.wait.register?.map fun pending => .keyWaitPending pending.val
  | .decimal _ =>
      if machine.registers.index.toNat + 3 > 4096 then
        some (.outOfBounds machine.registers.index.toNat 3)
      else none
  | .store x | .fetch x =>
      if machine.registers.index.toNat + (x + 1) > 4096 then
        some (.outOfBounds machine.registers.index.toNat (x + 1 : Nat))
      else none
  | _ => none

/-- An instruction meets the fault foreseen for it and no other. -/
theorem faultOf?_perform (around : Surroundings) (machine : Machine) (instruction : Instruction) :
    faultOf? (machine.perform around instruction).2 = machine.performHazard? instruction := by
  rw [perform.eq_def]
  cases instruction with
  | returnFromCall =>
      refine Eq.trans ?_ machine.registers.stack.faultOf?_pop
      dsimp only
      split <;> simp only [faultOf?, *]
  | call target =>
      refine Eq.trans ?_ (machine.registers.stack.faultOf?_push (machine.registers.counter + 2))
      dsimp only
      split <;> simp only [faultOf?, *]
  | draw x y height =>
      refine Eq.trans ?_ (machine.memory.faultOf?_readBlock machine.registers.index.toNat height)
      dsimp only
      split <;> simp only [faultOf?, *]
  | skipIfHeld x | skipUnlessHeld x =>
      refine Eq.trans ?_ (Key.faultOf?_ofInt (machine.registers.get x).toNat)
      dsimp only
      split <;> simp only [faultOf?, *]
  | awaitKey x =>
      refine Eq.trans ?_ (machine.wait.faultOf?_start x)
      dsimp only
      split <;> simp only [faultOf?, *]
  | decimal x =>
      refine Eq.trans ?_ (machine.memory.faultOf?_writeBytes machine.registers.index.toNat
        (decimalDigits (machine.registers.get x)))
      dsimp only
      split <;> simp only [faultOf?, *]
  | store x =>
      have length : (machine.registers.v.toList.take (x + 1)).length = x + 1 := by
        rw [List.length_take, Vector.length_toList]
        exact Nat.min_eq_left x.isLt
      have foreseen := machine.memory.faultOf?_writeBytes machine.registers.index.toNat
        (machine.registers.v.toList.take (x + 1))
      rw [length] at foreseen
      refine Eq.trans ?_ foreseen
      dsimp only
      split <;> simp only [faultOf?, *]
  | fetch x =>
      refine Eq.trans ?_ (machine.memory.faultOf?_readBlock machine.registers.index.toNat (x + 1))
      dsimp only
      split <;> simp only [faultOf?, *]
  | arithmetic operation x y => dsimp only; split <;> rfl
  | _ => rfl

/-- A decoded word meets the fault of what it stands for; the one fault of an
instruction that a word cannot meet needs a wait under way. -/
theorem wordHazard?_of_decode? {machine : Machine} (idle : machine.wait = .idle) {word : Nat}
    (small : word < 65536) {instruction : Instruction}
    (decoded : Instruction.decode? word = some instruction) :
    machine.wordHazard? word = machine.performHazard? instruction := by
  have known : ¬ ∀ form ∈ instructionForms, hasForm form word = false := by
    rw [← Instruction.decode?_eq_none_iff small, decoded]
    simp
  have table : ∀ form ∈ instructionForms, (hasForm form word = true ↔ instruction.form = form) := by
    intro form member
    rw [Instruction.hasForm_iff small member, decoded]
    simp
  unfold wordHazard?
  dsimp only
  rw [if_neg known]
  simp only [table "00EE" (by decide), table "2NNN" (by decide), table "DXYN" (by decide),
    table "EX9E" (by decide), table "EXA1" (by decide), table "FX33" (by decide),
    table "FX55" (by decide), table "FX65" (by decide)]
  cases instruction with
  | draw x y height =>
      obtain rfl := Instruction.height_of_decode? decoded
      simp [Instruction.form, performHazard?, nibble]
  | skipIfHeld x | skipUnlessHeld x | store x | fetch x =>
      obtain rfl := Instruction.register?_of_decode? decoded rfl
      simp [Instruction.form, performHazard?]
  | arithmetic operation x y =>
      cases operation <;> simp [Instruction.form, Arithmetic.form, performHazard?]
  | awaitKey x => simp [Instruction.form, performHazard?, idle, KeyWait.register?]
  | _ => simp [Instruction.form, performHazard?]

theorem word_lt (memory : Memory) (address : Nat) :
    256 * (memory.byte address).toNat + (memory.byte (address + 1)).toNat < 65536 := by
  have high := (memory.byte address).toNat_lt
  have low := (memory.byte (address + 1)).toNat_lt
  omega

/-- A word that was fetched has sixteen bits. -/
theorem word_lt_of_fetched {machine : Machine} {word : Nat}
    (fetched : machine.currentWord = .ok word) : word < 65536 := by
  rw [currentWord, Memory.readWord_natCast] at fetched
  split at fetched
  next =>
    rw [← Except.ok.inj fetched]
    exact word_lt machine.memory machine.registers.counter.toNat
  next => cases fetched

theorem faultOf?_execute {machine : Machine} (idle : machine.wait = .idle) {word : Nat}
    (small : word < 65536) (around : Surroundings) :
    faultOf? (machine.execute around word).2 = machine.wordHazard? word := by
  cases decoded : Instruction.decode? word with
  | none =>
      have unfit := (Instruction.decode?_eq_none_iff small).mp decoded
      rw [execute, decoded, wordHazard?, if_pos unfit]
      rfl
  | some instruction =>
      rw [execute_of_decode decoded, faultOf?_perform, wordHazard?_of_decode? idle small decoded]

theorem faultOf?_executeCurrent (machine : Machine) (idle : machine.wait = .idle)
    (around : Surroundings) : faultOf? (machine.executeCurrent around).2 = machine.hazard? := by
  rw [executeCurrent, currentWord, Memory.readWord_natCast, hazard?]
  simp only [idle, KeyWait.active, Bool.false_eq_true, if_false]
  by_cases outside : machine.registers.counter.toNat > 0xFFE
  · rw [if_neg (by rw [memorySize]; omega), if_pos outside]
    rfl
  · rw [if_pos (by rw [memorySize]; omega), if_neg outside]
    exact faultOf?_execute idle (word_lt _ _) around

/-- A step meets the fault foreseen for it and no other. -/
theorem faultOf?_step (around : Surroundings) (machine : Machine) :
    faultOf? (machine.step around).2 = machine.hazard? := by
  by_cases idle : machine.wait = .idle
  · have met := faultOf?_executeCurrent { machine with redraw := false } idle around
    have same : { machine with redraw := false }.hazard? = machine.hazard? := rfl
    rw [← same, ← met]
    match result : { machine with redraw := false }.executeCurrent around with
    | (performed, .error fault) =>
        rw [step_of_fault idle (congrArg Prod.snd result)]
        rfl
    | (performed, .ok flow) =>
        rw [step_of_flow idle result]
        rfl
  · rw [step_of_waiting idle, hazard?, if_pos (machine.wait.active_eq_true_iff.mpr idle)]
    rfl

/-- The faults that a step can meet, by their kinds. -/
inductive OfStep : Fault → Prop where
  | unsupportedOpcode (word : Int) (address : Option Int) : OfStep (.unsupportedOpcode word address)
  | stackUnderflow : OfStep .stackUnderflow
  | stackOverflow (depth : Int) : OfStep (.stackOverflow depth)
  | outOfBounds (address length : Int) : OfStep (.outOfBounds address length)
  | keyOutOfRange (index : Int) : OfStep (.keyOutOfRange index)

theorem ofStep_of_ite {c : Prop} [Decidable c] {here fault : Fault} {rest : Option Fault}
    (first : OfStep here) (after : rest = some fault → OfStep fault)
    (h : (if c then some here else rest) = some fault) : OfStep fault := by
  split at h
  · exact Option.some.inj h ▸ first
  · exact after h

theorem ofStep_of_hazard? {machine : Machine} {fault : Fault} :
    machine.hazard? = some fault → OfStep fault := by
  unfold hazard?
  dsimp only
  split
  · simp
  · refine ofStep_of_ite (.outOfBounds _ _) ?_
    unfold wordHazard?
    repeat refine ofStep_of_ite (by constructor) ?_
    simp

theorem hazard?_ne_keyWaitPending (machine : Machine) (register : Int) :
    machine.hazard? ≠ some (.keyWaitPending register) := by
  intro met
  cases ofStep_of_hazard? met

theorem draw?_screen (machine : Machine) (clip : Bool) (x y : Int) (sprite : Sprite) :
    machine.screen.draw? clip x y sprite = some (machine.screen.draw clip x y sprite) := by
  rw [Screen.draw?, if_pos ⟨by decide, by decide⟩]

/-- Carry out an instruction by operations that can fail where the machine knows no fault.
There is no drawing on a screen without pixels, and a keypad checks the number of a key
again when it is asked for it. -/
def performChecked? (keypad : Keypad) (random : Nat → Int) (machine : Machine)
    (instruction : Instruction) : Option (Machine × Except Fault Flow) :=
  let registers := machine.registers
  match instruction with
  | .draw x y height =>
      match machine.memory.readBlock registers.index.toNat height.val with
      | .error fault => some (machine, .error fault)
      | .ok sprite =>
          (machine.screen.draw? machine.dialect.clipSprites
            (registers.get x).toNat (registers.get y).toNat sprite).map
            fun (screen, collision) =>
              ({ machine with
                  registers := registers.set .flag (if collision then 1 else 0)
                  screen := screen
                  redraw := true },
               .ok .advance)
  | .skipIfHeld x =>
      some (machine, do
        let key ← Key.ofInt (registers.get x).toNat
        return skipIf (← keypad.ask key.val))
  | .skipUnlessHeld x =>
      some (machine, do
        let key ← Key.ofInt (registers.get x).toNat
        return skipIf (!(← keypad.ask key.val)))
  | instruction => some (machine.perform ⟨keypad.isHeld, random⟩ instruction)

/-- With the keys of a keypad, instructions do as they would by operations that check. -/
theorem performChecked?_eq (keypad : Keypad) (random : Nat → Int) (machine : Machine)
    (instruction : Instruction) :
    machine.performChecked? keypad random instruction =
      some (machine.perform ⟨keypad.isHeld, random⟩ instruction) := by
  cases instruction with
  | draw x y height =>
      rw [performChecked?, perform.eq_def]
      dsimp only
      cases machine.memory.readBlock machine.registers.index.toNat height.val with
      | error fault => rfl
      | ok sprite => exact congrArg (Option.map _) (machine.draw?_screen _ _ _ sprite)
  | skipIfHeld x | skipUnlessHeld x =>
      rw [performChecked?, perform.eq_def]
      dsimp only
      cases Key.ofInt (machine.registers.get x).toNat with
      | error fault => rfl
      | ok key =>
          simp only [bind, Except.bind, Keypad.ask_eq]
          rfl
  | _ => rfl

/-- The faults of a step, exactly: the first condition of `hazard?` that holds,
and success where none does.  A step is never refused for a wait under way, the
screen it draws on is never without a pixel, and a keypad answers for every key
it can ask about, so that operations that check for either would never fail. -/
theorem step_fault_iff (around : Surroundings) (machine : Machine) :
    (∀ fault, (machine.step around).2 = .error fault ↔ machine.hazard? = some fault) ∧
      ((∃ snapshot, (machine.step around).2 = .ok snapshot) ↔ machine.hazard? = none) ∧
      (∀ register, (machine.step around).2 ≠ .error (.keyWaitPending register)) ∧
      (∀ clip x y sprite, machine.screen.draw? clip x y sprite =
        some (machine.screen.draw clip x y sprite)) ∧
      (∀ (keypad : Keypad) (key : Key), keypad.ask key.val = .ok (keypad.isHeld key)) ∧
      (∀ keypad random instruction, machine.performChecked? keypad random instruction =
        some (machine.perform ⟨keypad.isHeld, random⟩ instruction)) := by
  have met := faultOf?_step around machine
  refine ⟨?_, ?_, ?_, machine.draw?_screen, Keypad.ask_eq, fun keypad random =>
    machine.performChecked?_eq keypad random⟩
  · intro fault
    rw [← met, faultOf?_eq_some_iff]
  · rw [← met, faultOf?_eq_none_iff]
  · intro register refused
    rw [← faultOf?_eq_some_iff, met] at refused
    exact hazard?_ne_keyWaitPending machine register refused

theorem step_of_error {machine : Machine} {around : Surroundings} {fault : Fault}
    (h : (machine.step around).2 = .error fault) :
    machine.step around = ({ machine with redraw := false }, .error fault) := by
  have way := step_case around machine
  generalize machine.step around = result at way h ⊢
  cases way with
  | served => exact absurd h (by simp)
  | refused idle met _ =>
      obtain rfl := Except.error.inj h
      rfl
  | obeyed => exact absurd h (by simp)

/-- A step that meets a fault puts out the redraw flag and does nothing else. -/
theorem eq_of_step_error {machine after : Machine} {around : Surroundings} {fault : Fault}
    (h : machine.step around = (after, .error fault)) :
    after = { machine with redraw := false } := by
  have refused := step_of_error (congrArg Prod.snd h)
  exact (Prod.mk.inj (h.symm.trans refused)).1

/-- A machine that faces a fault meets it, whatever ticks and keys come first. -/
theorem pass_of_hazard {machine : Machine} {fault : Fault}
    (hazard : machine.hazard? = some fault) (moment : Moment) :
    machine.pass moment =
      ({ machine with redraw := false, ticks := machine.ticks ++ moment.ticks }, .error fault) := by
  have still : (machine.queueTicks moment.ticks).hazard? = some fault := hazard
  have met := faultOf?_step moment.around (machine.queueTicks moment.ticks)
  rw [still, faultOf?_eq_some_iff] at met
  exact step_of_error met

/-- Steps and ticks leave a machine that faces a fault as it is. -/
theorem stateAt_of_hazard {machine : Machine} {fault : Fault}
    (hazard : machine.hazard? = some fault) (shown : machine.redraw = false)
    (history : Nat → Moment) (number : Nat) :
    machine.stateAt history number =
      { machine with ticks := machine.ticks ++ queuedBefore history number } := by
  induction number with
  | zero => simp [stateAt, queuedBefore_zero]
  | succ number ih =>
      have still : { machine with
          ticks := machine.ticks ++ queuedBefore history number }.hazard? = some fault := hazard
      rw [stateAt, ih, pass_of_hazard still, queuedBefore_succ, ← List.append_assoc, ← shown]

/-- A fault changes nothing but the redraw flag, and it is for ever: every later
step meets it again and only the queue of ticks grows.  A word carried out by
itself changes nothing at all when it faults, the waiting instruction under a
wait that is not over among them. -/
theorem fault_permanent (machine : Machine) (around : Surroundings) :
    (∀ fault, (machine.step around).2 = .error fault →
      (machine.step around).1 = { machine with redraw := false } ∧
      ∀ (history : Nat → Moment) (number : Nat),
        (machine.step around).1.stateAt history number =
          { machine with
            redraw := false
            ticks := machine.ticks ++ queuedBefore history number } ∧
        (((machine.step around).1.stateAt history number).pass (history number)).2 =
          .error fault) ∧
    (∀ word fault, (machine.execute around word).2 = .error fault →
      (machine.execute around word).1 = machine) ∧
    (∀ word pending, hasForm "FX0A" word = true → machine.wait.register? = some pending →
      machine.execute around word = (machine, .error (.keyWaitPending pending.val))) := by
  refine ⟨?_, ?_, ?_⟩
  · intro fault failed
    have hazard : { machine with redraw := false }.hazard? = some fault := by
      rw [← faultOf?_eq_some_iff, faultOf?_step] at failed
      exact failed
    rw [step_of_error failed]
    refine ⟨rfl, ?_⟩
    intro history number
    rw [stateAt_of_hazard hazard rfl]
    -- `hazard?` reads neither the queue nor the redraw flag.
    have still : { machine with
        redraw := false
        ticks := machine.ticks ++ queuedBefore history number }.hazard? = some fault := hazard
    exact ⟨rfl, congrArg Prod.snd (pass_of_hazard still (history number))⟩
  · intro word fault failed
    exact execute_of_error failed
  · intro word pending waiting register
    have failed : (machine.execute around word).2 = .error (.keyWaitPending pending.val) := by
      rw [execute_of_decode (Instruction.decode?_of_awaitKey waiting), ← faultOf?_eq_some_iff,
        faultOf?_perform, performHazard?, register]
      rfl
    exact Prod.ext (execute_of_error failed) failed

/-- No key held and nothing random. -/
def quiet : Surroundings := ⟨fun _ => false, fun _ => 0⟩

/-- A machine whose program counter has left memory. -/
def adrift : Machine :=
  { initial {} with registers := { Registers.initial with counter := 0x1000 } }

theorem fault_permanent_adrift :
    (((adrift.step quiet).1.stateAt (fun _ => ⟨[1, 2], quiet⟩) 3).pass ⟨[1, 2], quiet⟩).2 =
      .error (.outOfBounds 0x1000 2) ∧
    (adrift.execute quiet 0x00EE).1 = adrift ∧
    { adrift with wait := .polling 3 }.execute quiet 0xF50A =
      ({ adrift with wait := .polling 3 }, .error (.keyWaitPending 3)) := by
  have met : (adrift.step quiet).2 = .error (.outOfBounds 0x1000 2) := by
    rw [← faultOf?_eq_some_iff, faultOf?_step]
    rfl
  have empty : (adrift.execute quiet 0x00EE).2 = .error .stackUnderflow := by
    rw [← faultOf?_eq_some_iff, faultOf?_execute rfl (by decide)]
    decide
  refine ⟨?_, ?_, ?_⟩
  · exact (((fault_permanent adrift quiet).1 _ met).2 (fun _ => ⟨[1, 2], quiet⟩) 3).2
  · exact (fault_permanent adrift quiet).2.1 0x00EE _ empty
  · exact (fault_permanent { adrift with wait := .polling 3 } quiet).2.2 0xF50A 3
      (by decide) rfl

end Machine
end Chip8
