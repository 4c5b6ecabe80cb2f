import Chip8.Machine

/-!
Execution.  `Machine.perform` carries out one instruction and says where the
program goes on; a step fetches a word, carries it out, moves the program
counter and lets the queued ticks reach the timers.  Every operation returns
the machine beside its result, so what a fault leaves behind is part of the
answer.
-/

namespace Chip8

/-- The result of an operation on two values, and what becomes of the flag
register if anything does. -/
def Arithmetic.apply (dialect : Dialect) (operation : Arithmetic) (a b : UInt8) :
    UInt8 × Option UInt8 :=
  let cleared := if dialect.resetFlagOnLogic then some 0 else none
  let shifted := if dialect.shiftSecondRegister then b else a
  match operation with
  | .load => (b, none)
  | .or => (a ||| b, cleared)
  | .and => (a &&& b, cleared)
  | .xor => (a ^^^ b, cleared)
  | .add => (a + b, some (if a.toNat + b.toNat > 255 then 1 else 0))
  | .subtract => (a - b, some (if b ≤ a then 1 else 0))
  | .shiftRight => (shifted >>> 1, some (shifted &&& 1))
  | .subtractFrom => (b - a, some (if a ≤ b then 1 else 0))
  | .shiftLeft => (shifted <<< 1, some (shifted >>> 7))

/-- The hundreds, tens and ones of a byte. -/
def decimalDigits (value : UInt8) : List UInt8 :=
  [value / 100, value / 10 % 10, value % 10]

/-- Where the program counter goes. -/
def Flow.apply (counter : UInt16) : Flow → UInt16
  | .advance => counter + 2
  | .skip => counter + 4
  | .jump target => target
  | .suspend => counter

namespace Machine

def skipIf (condition : Bool) : Flow :=
  if condition then .skip else .advance

/-- The index register after a bulk copy up to a register. -/
def indexAfterCopy (machine : Machine) (x : Register) : UInt16 :=
  if machine.dialect.advanceIndexOnCopy then
    machine.registers.index + UInt16.ofNat (x + 1)
  else machine.registers.index

/-- Carry out an instruction.  The program counter stays where it is. -/
def perform (around : Surroundings) (machine : Machine) (instruction : Instruction) :
    Machine × Except Fault Flow :=
  let registers := machine.registers
  let keep (changed : Registers) : Machine × Except Fault Flow :=
    ({ machine with registers := changed }, .ok .advance)
  match instruction with
  | .clearScreen =>
      ({ machine with screen := machine.screen.clear, redraw := true }, .ok .advance)
  | .returnFromCall =>
      match registers.stack.pop with
      | .error fault => (machine, .error fault)
      | .ok (target, stack) =>
          ({ machine with registers := { registers with stack } }, .ok (.jump target))
  | .jump target => (machine, .ok (.jump (UInt16.ofNat target)))
  | .call target =>
      match registers.stack.push (registers.counter + 2) with
      | .error fault => (machine, .error fault)
      | .ok stack =>
          ({ machine with registers := { registers with stack } },
           .ok (.jump (UInt16.ofNat target)))
  | .skipIfByte x value => (machine, .ok (skipIf (registers.get x == value)))
  | .skipUnlessByte x value => (machine, .ok (skipIf (registers.get x != value)))
  | .skipIfSame x y => (machine, .ok (skipIf (registers.get x == registers.get y)))
  | .skipUnlessSame x y => (machine, .ok (skipIf (registers.get x != registers.get y)))
  | .setByte x value => keep (registers.set x value)
  | .addByte x value => keep (registers.set x (registers.get x + value))
  | .arithmetic operation x y =>
      match operation.apply machine.dialect (registers.get x) (registers.get y) with
      | (value, none) => keep (registers.set x value)
      | (value, some flag) => keep ((registers.set x value).set .flag flag)
  | .setIndex target => keep { registers with index := UInt16.ofNat target }
  | .jumpOffset x target =>
      let added := registers.get (if machine.dialect.jumpByNamedRegister then x else .first)
      (machine, .ok (.jump (UInt16.ofNat (target + added.toNat))))
  | .random x mask =>
      let value := UInt8.ofInt (around.random machine.drawn) &&& mask
      ({ machine with registers := registers.set x value, drawn := machine.drawn + 1 },
       .ok .advance)
  | .draw x y height =>
      match machine.memory.readBlock registers.index.toNat height.val with
      | .error fault => (machine, .error fault)
      | .ok sprite =>
          let (screen, collision) :=
            machine.screen.draw machine.dialect.clipSprites
              (registers.get x).toNat (registers.get y).toNat sprite
          ({ machine with
              registers := registers.set .flag (if collision then 1 else 0)
              screen := screen
              redraw := true },
           .ok .advance)
  | .skipIfHeld x =>
      match Key.ofInt (registers.get x).toNat with
      | .error fault => (machine, .error fault)
      | .ok key => (machine, .ok (skipIf (around.held key)))
  | .skipUnlessHeld x =>
      match Key.ofInt (registers.get x).toNat with
      | .error fault => (machine, .error fault)
      | .ok key => (machine, .ok (skipIf (!around.held key)))
  | .readDelay x => keep (registers.set x registers.delay)
  | .awaitKey x =>
      match machine.wait.start x with
      | .error fault => (machine, .error fault)
      | .ok wait => ({ machine with wait }, .ok .suspend)
  | .setDelay x => keep { registers with delay := registers.get x }
  | .setSound x => keep { registers with sound := registers.get x }
  | .addIndex x =>
      keep { registers with index := registers.index + UInt16.ofNat (registers.get x).toNat }
  | .glyph x =>
      keep { registers with
        index := UInt16.ofNat ((registers.get x).toNat % 16 * glyphSize) }
  | .decimal x =>
      match machine.memory.writeBytes registers.index.toNat
          (decimalDigits (registers.get x)) with
      | .error fault => (machine, .error fault)
      | .ok memory => ({ machine with memory }, .ok .advance)
  | .store x =>
      match machine.memory.writeBytes registers.index.toNat
          (registers.v.toList.take (x + 1)) with
      | .error fault => (machine, .error fault)
      | .ok memory =>
          ({ machine with
              memory := memory
              registers := { registers with index := machine.indexAfterCopy x } },
           .ok .advance)
  | .fetch x =>
      match machine.memory.readBlock registers.index.toNat (x + 1 : Nat) with
      | .error fault => (machine, .error fault)
      | .ok values =>
          keep { registers.setFirst values with index := machine.indexAfterCopy x }

/-- Carry out a word.  The program counter stays where it is. -/
def execute (around : Surroundings) (machine : Machine) (word : Nat) :
    Machine × Except Fault Flow :=
  match Instruction.decode? word with
  | none =>
      (machine, .error (.unsupportedOpcode word (some machine.registers.counter.toNat)))
  | some instruction => machine.perform around instruction

/-- Fetch the word at the program counter and carry it out. -/
def executeCurrent (around : Surroundings) (machine : Machine) :
    Machine × Except Fault Flow :=
  match machine.currentWord with
  | .error fault => (machine, .error fault)
  | .ok word => machine.execute around word

/-- Move the program counter. -/
def follow (machine : Machine) (flow : Flow) : Machine :=
  { machine with
    registers := { machine.registers with
      counter := flow.apply machine.registers.counter } }

/-- Let every queued tick reach the timers, oldest first. -/
def drainTicks (machine : Machine) : Machine :=
  { machine with
    registers := machine.ticks.foldl Registers.tick machine.registers
    ticks := [] }

/-- Look at the keys for the wait under way; the program goes on past the
waiting instruction once the wait is over. -/
def serveWait (held : Key → Bool) (machine : Machine) : Machine :=
  match machine.wait.poll held machine.registers with
  | (wait, registers, finished) =>
      let served := { machine with wait, registers }
      if finished then served.follow .advance else served

/-- One step: serve the key wait if one is under way, else carry out the word
at the program counter; then the timers.  A step that faults leaves the queue
of ticks alone. -/
def step (around : Surroundings) (machine : Machine) :
    Machine × Except Fault Snapshot :=
  let machine := { machine with redraw := false }
  if machine.wait.active then
    let served := (machine.serveWait around.held).drainTicks
    (served, .ok served.snapshot)
  else
    match machine.executeCurrent around with
    | (machine, .error fault) => (machine, .error fault)
    | (machine, .ok flow) =>
        let moved := (machine.follow flow).drainTicks
        (moved, .ok moved.snapshot)

end Machine
end Chip8
