import Chip8.Memory

/-!
The register file: sixteen byte registers, the index register, the program
counter, the return stack and the two timers.
-/

namespace Chip8

/-- A register `V0` to `VF`. -/
abbrev Register := Fin 16

/-- The register that arithmetic and drawing report through. -/
def Register.flag : Register := ⟨15, by decide⟩

def Register.first : Register := ⟨0, by decide⟩

/-- The low four bits of a number. -/
def nibble (value : Nat) : Fin 16 := ⟨value % 16, Nat.mod_lt value (by decide)⟩

/-- Return addresses.  The slots above the depth keep what was popped. -/
structure CallStack where
  slots : Vector UInt16 16
  depth : Nat
  depth_le : depth ≤ 16
deriving DecidableEq, Repr

def CallStack.empty : CallStack :=
  ⟨Vector.replicate 16 0, 0, by decide⟩

def CallStack.push (stack : CallStack) (address : UInt16) : Except Fault CallStack :=
  if h : stack.depth < 16 then
    .ok ⟨stack.slots.set stack.depth address h, stack.depth + 1, h⟩
  else .error (.stackOverflow 16)

def CallStack.pop (stack : CallStack) : Except Fault (UInt16 × CallStack) :=
  if h : 0 < stack.depth then
    have top : stack.depth - 1 < 16 := by have := stack.depth_le; omega
    .ok (stack.slots[stack.depth - 1], ⟨stack.slots, stack.depth - 1, by omega⟩)
  else .error .stackUnderflow

structure Registers where
  v : Vector UInt8 16
  index : UInt16
  counter : UInt16
  stack : CallStack
  delay : UInt8
  sound : UInt8
deriving DecidableEq, Repr

namespace Registers

def initial : Registers where
  v := Vector.replicate 16 0
  index := 0
  counter := UInt16.ofNat programStart
  stack := .empty
  delay := 0
  sound := 0

def get (registers : Registers) (x : Register) : UInt8 :=
  registers.v[x]

def set (registers : Registers) (x : Register) (value : UInt8) : Registers :=
  { registers with v := registers.v.set x value }

/-- Change the byte registers from `V0` up. -/
def setFirst (registers : Registers) (values : List UInt8) : Registers :=
  { registers with v := Vector.ofFn fun x => values[x]?.getD (registers.get x) }

/-- A timer after some ticks; it stops at zero. -/
def countDown (timer : UInt8) (ticks : Nat) : UInt8 :=
  UInt8.ofNat (timer.toNat - ticks)

/-- Both timers after some ticks. -/
def tick (registers : Registers) (ticks : Nat) : Registers :=
  { registers with
    delay := countDown registers.delay ticks
    sound := countDown registers.sound ticks }

/-- Byte registers as text, two digits each. -/
def byteLine (values : List UInt8) : String :=
  " ".intercalate (values.map fun value => Hex.padded 2 value.toNat)

/-- The registers as the four lines of a dump. -/
def dumpLines (registers : Registers) : List String :=
  ["PC: $" ++ Hex.padded 3 registers.counter.toNat ++
      "  I: $" ++ Hex.padded 3 registers.index.toNat ++
      "  SP: " ++ toString registers.stack.depth,
   "DT: " ++ Hex.padded 2 registers.delay.toNat ++
      "  ST: " ++ Hex.padded 2 registers.sound.toNat,
   "V0-V7: " ++ byteLine (registers.v.toList.take 8),
   "V8-VF: " ++ byteLine (registers.v.toList.drop 8)]

def dump (registers : Registers) : String :=
  "\n".intercalate registers.dumpLines

/-- A changed register has its new value and the others keep theirs. -/
theorem get_set (registers : Registers) (x y : Register) (value : UInt8) :
    (registers.set x value).get y = if y = x then value else registers.get y := by
  by_cases h : y = x
  · subst h
    simp [get, set]
  · have apart : x.val ≠ y.val := fun same => h (Fin.ext same.symm)
    simp [get, set, apart, h]

/-- The registers that a list reaches take its values. -/
theorem get_setFirst (registers : Registers) (values : List UInt8) (x : Register) :
    (registers.setFirst values).get x = values[x.val]?.getD (registers.get x) := by
  simp [get, setFirst]

/-! Byte registers and timers are changed apart from everything else. -/

section Frames

variable (registers : Registers) (x : Register) (value : UInt8) (values : List UInt8) (ticks : Nat)

@[simp] theorem set_index : (registers.set x value).index = registers.index := rfl

@[simp] theorem set_counter : (registers.set x value).counter = registers.counter := rfl

@[simp] theorem set_stack : (registers.set x value).stack = registers.stack := rfl

@[simp] theorem set_delay : (registers.set x value).delay = registers.delay := rfl

@[simp] theorem set_sound : (registers.set x value).sound = registers.sound := rfl

@[simp] theorem setFirst_counter : (registers.setFirst values).counter = registers.counter := by
  rw [setFirst]

@[simp] theorem setFirst_stack : (registers.setFirst values).stack = registers.stack := by
  rw [setFirst]

@[simp] theorem setFirst_delay : (registers.setFirst values).delay = registers.delay := by
  rw [setFirst]

@[simp] theorem setFirst_sound : (registers.setFirst values).sound = registers.sound := by
  rw [setFirst]

@[simp] theorem get_tick : (registers.tick ticks).get x = registers.get x := rfl

@[simp] theorem tick_index : (registers.tick ticks).index = registers.index := rfl

@[simp] theorem tick_counter : (registers.tick ticks).counter = registers.counter := rfl

@[simp] theorem tick_stack : (registers.tick ticks).stack = registers.stack := rfl

end Frames

/-- A timer goes down by the ticks and stops at zero. -/
theorem toNat_countDown (timer : UInt8) (ticks : Nat) :
    (countDown timer ticks).toNat = timer.toNat - ticks := by
  have small := timer.toNat_lt
  simp only [countDown, UInt8.toNat_ofNat']
  omega

/-- Ticks add up: it does not matter how they are grouped. -/
theorem countDown_countDown (timer : UInt8) (first second : Nat) :
    countDown (countDown timer first) second = countDown timer (first + second) := by
  apply UInt8.toNat_inj.mp
  simp only [toNat_countDown]
  omega

theorem tick_zero (registers : Registers) : registers.tick 0 = registers := by
  simp [tick, countDown]

theorem tick_tick (registers : Registers) (first second : Nat) :
    (registers.tick first).tick second = registers.tick (first + second) := by
  simp only [tick, countDown_countDown]

/-- Timers and byte registers do not meet. -/
theorem tick_set (registers : Registers) (ticks : Nat) (x : Register) (value : UInt8) :
    (registers.tick ticks).set x value = (registers.set x value).tick ticks := by
  rfl

end Registers
end Chip8
