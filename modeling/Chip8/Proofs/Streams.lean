import Chip8.Proofs.Effects

/-!
Bulk copies as streams.  In the dialects whose bulk copies move the index register on, the
blocks that a program stores come to lie one behind another, and the same copies in the other
direction, from the same start, take them off in the same order.
-/

namespace Chip8

namespace Memory

theorem place_append (memory : Memory) (start : Nat) (first second : List UInt8) :
    memory.place start (first ++ second) =
      (memory.place start first).place (start + first.length) second := by
  induction first generalizing memory start with
  | nil => rfl
  | cons value rest ih =>
      rw [List.cons_append, place, place, ih, List.length_cons, Nat.add_right_comm, Nat.add_assoc]

theorem slice_add (memory : Memory) (address first second : Nat) :
    memory.slice address (first + second) =
      memory.slice address first ++ memory.slice (address + first) second := by
  simp only [slice, List.range_add, List.map_append, List.map_map, Function.comp_def,
    Nat.add_assoc]

/-- What was placed inside memory is there. -/
theorem slice_place (memory : Memory) {start : Nat} {bytes : List UInt8}
    (fits : start + bytes.length ≤ memorySize) :
    (memory.place start bytes).slice start bytes.length = bytes := by
  apply List.ext_getElem?
  intro offset
  rw [getElem?_slice]
  split
  next inside =>
    rw [byte_place, if_pos (by omega), Nat.add_sub_cancel_left,
      List.getElem?_eq_getElem inside, Option.getD_some]
  next past => rw [List.getElem?_eq_none (Nat.le_of_not_lt past)]

end Memory

/-- What a bulk copy is made of: the values of the byte registers, and the last register that
it reaches. -/
structure Block where
  last : Register
  values : Vector UInt8 16
deriving DecidableEq, Repr

def Block.bytes (block : Block) : List UInt8 :=
  block.values.toList.take (block.last + 1)

theorem length_take_values (values : Vector UInt8 16) (last : Register) :
    (values.toList.take (last + 1)).length = last + 1 := by
  have reached := last.isLt
  rw [List.length_take, Vector.length_toList]
  omega

theorem Block.length_bytes (block : Block) : block.bytes.length = block.last + 1 :=
  length_take_values block.values block.last

def streamSize (blocks : List Block) : Nat :=
  (blocks.map fun block => block.last.val + 1).sum

theorem streamSize_cons (block : Block) (rest : List Block) :
    streamSize (block :: rest) = block.last + 1 + streamSize rest := by
  rw [streamSize, List.map_cons, List.sum_cons, streamSize]

theorem streamSize_append (first second : List Block) :
    streamSize (first ++ second) = streamSize first + streamSize second := by
  rw [streamSize, List.map_append, List.sum_append, streamSize, streamSize]

theorem length_stream (blocks : List Block) :
    (blocks.flatMap Block.bytes).length = streamSize blocks := by
  simp only [List.length_flatMap, Block.length_bytes, streamSize]

namespace Machine

/-- The word that writes the registers up to one. -/
def storeWord (x : Register) : Nat := 0xF055 + 0x100 * x

/-- The word that reads the registers up to one. -/
def fetchWord (x : Register) : Nat := 0xF065 + 0x100 * x

/-! The copies of a list of blocks, each carried out as a word of its own. -/

def setValues (machine : Machine) (values : Vector UInt8 16) : Machine :=
  { machine with registers := { machine.registers with v := values } }

def setIndex (machine : Machine) (index : UInt16) : Machine :=
  { machine with registers := { machine.registers with index } }

/-- The machine that a word makes of a machine, unless it meets a fault. -/
def carryOut (around : Surroundings) (machine : Machine) (word : Nat) : Except Fault Machine :=
  match machine.execute around word with
  | (_, .error fault) => .error fault
  | (performed, .ok _) => .ok performed

/-- Set the byte registers to the values of a block and store it. -/
def storeBlock (around : Surroundings) (machine : Machine) (block : Block) :
    Except Fault Machine :=
  (machine.setValues block.values).carryOut around (storeWord block.last)

def storeAll (around : Surroundings) (machine : Machine) (blocks : List Block) :
    Except Fault Machine :=
  blocks.foldlM (storeBlock around) machine

/-- Read the registers up to one and then up to the next, over a list. -/
def fetchAll (around : Surroundings) (machine : Machine) (lasts : List Register) :
    Except Fault Machine :=
  lasts.foldlM (fun machine last => machine.carryOut around (fetchWord last)) machine

theorem decode?_storeWord :
    ∀ x, Instruction.decode? (storeWord x) = some (.store x) := by
  decide

theorem decode?_fetchWord :
    ∀ x, Instruction.decode? (fetchWord x) = some (.fetch x) := by
  decide

variable {machine : Machine}

/-! One copy. -/

/-- A bulk store that stays inside memory. -/
theorem perform_store (around : Surroundings) {x : Register}
    (fits : machine.registers.index.toNat + (x + 1) ≤ 4096) :
    machine.perform around (.store x) =
      ({ machine with
          memory := machine.memory.place machine.registers.index.toNat
            (machine.registers.v.toList.take (x + 1))
          registers := { machine.registers with index := machine.indexAfterCopy x } },
       .ok .advance) := by
  have writes := Memory.writeBytes_natCast machine.memory machine.registers.index.toNat
    (machine.registers.v.toList.take (x + 1))
  rw [length_take_values, memorySize, if_pos fits] at writes
  rw [perform.eq_def]
  dsimp only
  rw [writes]

theorem toNat_indexAfterCopy (advances : machine.dialect.advanceIndexOnCopy = true) {x : Register}
    (fits : machine.registers.index.toNat + (x + 1) ≤ 4096) :
    (machine.indexAfterCopy x).toNat = machine.registers.index.toNat + (x + 1) := by
  have reached := x.isLt
  rw [indexAfterCopy, if_pos advances, UInt16.toNat_add, UInt16.toNat_ofNat']
  omega

/-- The machine behind a block that it has stored. -/
def afterStore (machine : Machine) (block : Block) : Machine :=
  { machine with
    memory := machine.memory.place machine.registers.index.toNat block.bytes
    registers := { machine.registers with
      v := block.values
      index := machine.indexAfterCopy block.last } }

/-- The machine behind a block that it has fetched. -/
def afterFetch (machine : Machine) (x : Register) : Machine :=
  { machine with registers :=
    { machine.registers.setFirst
        (machine.memory.slice machine.registers.index.toNat (x + 1)) with
      index := machine.indexAfterCopy x } }

@[simp] theorem dialect_afterStore (block : Block) :
    (machine.afterStore block).dialect = machine.dialect := by
  rw [afterStore]

@[simp] theorem dialect_afterFetch (x : Register) :
    (machine.afterFetch x).dialect = machine.dialect := by
  rw [afterFetch]

@[simp] theorem memory_afterFetch (x : Register) :
    (machine.afterFetch x).memory = machine.memory := by
  rw [afterFetch]

theorem index_afterStore (advances : machine.dialect.advanceIndexOnCopy = true) {block : Block}
    (fits : machine.registers.index.toNat + (block.last + 1) ≤ 4096) :
    (machine.afterStore block).registers.index.toNat =
      machine.registers.index.toNat + (block.last + 1) := by
  rw [afterStore, toNat_indexAfterCopy advances fits]

theorem index_afterFetch (advances : machine.dialect.advanceIndexOnCopy = true) {x : Register}
    (fits : machine.registers.index.toNat + (x + 1) ≤ 4096) :
    (machine.afterFetch x).registers.index.toNat = machine.registers.index.toNat + (x + 1) := by
  rw [afterFetch, toNat_indexAfterCopy advances fits]

theorem storeBlock_eq (around : Surroundings) {block : Block}
    (fits : machine.registers.index.toNat + (block.last + 1) ≤ 4096) :
    machine.storeBlock around block = .ok (machine.afterStore block) := by
  have ready : (machine.setValues block.values).registers.index.toNat + (block.last + 1) ≤ 4096 :=
    fits
  rw [storeBlock, carryOut, execute_of_decode (decode?_storeWord block.last),
    perform_store around ready]
  rfl

theorem carryOut_fetchWord (around : Surroundings) {x : Register}
    (fits : machine.registers.index.toNat + (x + 1) ≤ 4096) :
    machine.carryOut around (fetchWord x) = .ok (machine.afterFetch x) := by
  have reads := Memory.readBlock_natCast machine.memory machine.registers.index.toNat (x + 1)
  rw [memorySize, if_pos fits] at reads
  rw [carryOut, execute_of_decode (decode?_fetchWord x), perform_fetch reads, afterFetch]

/-! Copies one after another.  Each of them begins where the one before has left the index
register, so the blocks of a list are the parts of one run of bytes. -/

/-- Stored blocks lie one behind another. -/
theorem storeAll_ok (around : Surroundings) (blocks : List Block)
    (advances : machine.dialect.advanceIndexOnCopy = true)
    (fits : machine.registers.index.toNat + streamSize blocks ≤ 4096) :
    ∃ stored, machine.storeAll around blocks = .ok stored ∧ stored.dialect = machine.dialect ∧
      stored.registers.index.toNat = machine.registers.index.toNat + streamSize blocks ∧
      stored.memory =
        machine.memory.place machine.registers.index.toNat (blocks.flatMap Block.bytes) := by
  induction blocks generalizing machine with
  | nil => exact ⟨machine, rfl, rfl, rfl, rfl⟩
  | cons block rest ih =>
      rw [streamSize_cons] at fits ⊢
      have here : machine.registers.index.toNat + (block.last + 1) ≤ 4096 := by omega
      have moved := index_afterStore advances here
      have onward : (machine.afterStore block).dialect.advanceIndexOnCopy = true := by
        rwa [dialect_afterStore]
      obtain ⟨stored, stores, dialect, index, memory⟩ := ih onward (by omega)
      rw [dialect_afterStore] at dialect
      rw [moved, Nat.add_assoc] at index
      refine ⟨stored, ?_, dialect, index, ?_⟩
      · rw [storeAll, List.foldlM_cons, storeBlock_eq around here]
        exact stores
      · rw [memory, moved, List.flatMap_cons, Memory.place_append, block.length_bytes, afterStore]

/-- Fetching leaves the index register behind the blocks, and memory alone. -/
theorem fetchAll_ok (around : Surroundings) (blocks : List Block)
    (advances : machine.dialect.advanceIndexOnCopy = true)
    (fits : machine.registers.index.toNat + streamSize blocks ≤ 4096) :
    ∃ fetched, machine.fetchAll around (blocks.map Block.last) = .ok fetched ∧
      fetched.dialect = machine.dialect ∧ fetched.memory = machine.memory ∧
      fetched.registers.index.toNat = machine.registers.index.toNat + streamSize blocks := by
  induction blocks generalizing machine with
  | nil => exact ⟨machine, rfl, rfl, rfl, rfl⟩
  | cons block rest ih =>
      rw [streamSize_cons] at fits ⊢
      have here : machine.registers.index.toNat + (block.last + 1) ≤ 4096 := by omega
      have moved := index_afterFetch advances here
      have onward : (machine.afterFetch block.last).dialect.advanceIndexOnCopy = true := by
        rwa [dialect_afterFetch]
      obtain ⟨fetched, fetches, dialect, memory, index⟩ := ih onward (by omega)
      rw [dialect_afterFetch] at dialect
      rw [memory_afterFetch] at memory
      rw [moved, Nat.add_assoc] at index
      refine ⟨fetched, ?_, dialect, memory, index⟩
      rw [List.map_cons, fetchAll, List.foldlM_cons, carryOut_fetchWord around here]
      exact fetches

/-- The part of a stream that belongs to one of its blocks. -/
theorem slice_of_stream {memory : Memory} {address : Nat} {first rest : List Block} {block : Block}
    (stream : memory.slice address (streamSize (first ++ block :: rest)) =
      (first ++ block :: rest).flatMap Block.bytes) :
    memory.slice (address + streamSize first) (block.last + 1) = block.bytes := by
  rw [streamSize_append, streamSize_cons, List.flatMap_append, List.flatMap_cons,
    Memory.slice_add, Memory.slice_add] at stream
  have behind := List.append_inj_right stream (by rw [Memory.length_slice, length_stream])
  exact List.append_inj_left behind (by rw [Memory.length_slice, block.length_bytes])

/-- What the registers are after a block has been fetched. -/
theorem get_afterFetch {block : Block}
    (stream : machine.memory.slice machine.registers.index.toNat (block.last + 1) = block.bytes)
    (r : Register) :
    (machine.afterFetch block.last).registers.get r =
      if r ≤ block.last then block.values.get r else machine.registers.get r := by
  have value := Registers.get_setFirst machine.registers block.bytes r
  rw [Block.bytes, List.getElem?_take, ← Block.bytes] at value
  rw [afterFetch, stream]
  refine value.trans ?_
  by_cases reached : r ≤ block.last
  · have before : r.val < block.last.val + 1 := Nat.lt_succ_of_le reached
    rw [if_pos reached]
    change _ = block.values[r]
    simp [before]
  · have past : ¬ r.val < block.last.val + 1 := fun before => reached (Nat.le_of_lt_succ before)
    simp [reached, past]

/-- A block that is fetched from a stream, behind those before it. -/
theorem fetch_of_stream (around : Surroundings) {first rest : List Block} {block : Block}
    (advances : machine.dialect.advanceIndexOnCopy = true)
    (fits : machine.registers.index.toNat + streamSize (first ++ block :: rest) ≤ 4096)
    (stream : machine.memory.slice machine.registers.index.toNat
      (streamSize (first ++ block :: rest)) = (first ++ block :: rest).flatMap Block.bytes) :
    ∃ before after,
      machine.fetchAll around (first.map Block.last) = .ok before ∧
      before.carryOut around (fetchWord block.last) = .ok after ∧
      machine.fetchAll around ((first ++ [block]).map Block.last) = .ok after ∧
      ∀ r : Register, after.registers.get r =
        if r ≤ block.last then block.values.get r else before.registers.get r := by
  have part := slice_of_stream stream
  rw [streamSize_append, streamSize_cons] at fits
  obtain ⟨before, reaches, _, memory, index⟩ := fetchAll_ok around first advances (by omega)
  rw [← memory, ← index] at part
  have fetches := carryOut_fetchWord around
    (show before.registers.index.toNat + (block.last + 1) ≤ 4096 by omega)
  refine ⟨before, before.afterFetch block.last, reaches, fetches, ?_, get_afterFetch part⟩
  rw [List.map_append, fetchAll, List.foldlM_append, ← fetchAll, reaches]
  exact (bind_pure _).trans fetches

/-- Bulk copies in the dialects that move the index register on: whatever blocks are stored
from a start on, as long as they fit into memory, the same copies from the same start fetch
them in order.  No copy meets a fault; the index register comes to lie behind the blocks both
times, and nothing else of memory changes. -/
theorem fetchAll_storeAll (around : Surroundings) (machine : Machine) (start : UInt16)
    (blocks : List Block) (advances : machine.dialect.advanceIndexOnCopy = true)
    (fits : start.toNat + streamSize blocks ≤ 4096) :
    ∃ stored fetched,
      (machine.setIndex start).storeAll around blocks = .ok stored ∧
      (stored.setIndex start).fetchAll around (blocks.map Block.last) = .ok fetched ∧
      stored.registers.index.toNat = start.toNat + streamSize blocks ∧
      fetched.registers.index.toNat = start.toNat + streamSize blocks ∧
      (∀ address, ¬(start.toNat ≤ address ∧ address < start.toNat + streamSize blocks) →
        stored.memory.byte address = machine.memory.byte address) ∧
      fetched.memory = stored.memory ∧
      ∀ first block rest, blocks = first ++ block :: rest →
        ∃ before after,
          (stored.setIndex start).fetchAll around (first.map Block.last) = .ok before ∧
          before.carryOut around (fetchWord block.last) = .ok after ∧
          (stored.setIndex start).fetchAll around ((first ++ [block]).map Block.last) =
            .ok after ∧
          ∀ r : Register, after.registers.get r =
            if r ≤ block.last then block.values.get r else before.registers.get r := by
  have ready : (machine.setIndex start).dialect.advanceIndexOnCopy = true := advances
  obtain ⟨stored, stores, dialect, index, memory⟩ := storeAll_ok around blocks ready fits
  have rewound : (stored.setIndex start).dialect.advanceIndexOnCopy = true :=
    (congrArg Dialect.advanceIndexOnCopy dialect).trans advances
  obtain ⟨fetched, fetches, _, fetchedMemory, fetchedIndex⟩ :=
    fetchAll_ok around blocks rewound fits
  have placed : stored.memory = machine.memory.place start.toNat (blocks.flatMap Block.bytes) :=
    memory
  have size := length_stream blocks
  have stream := Memory.slice_place machine.memory (size.symm ▸ fits)
  rw [← placed, size] at stream
  refine ⟨stored, fetched, stores, fetches, index, fetchedIndex, ?_, fetchedMemory, ?_⟩
  · intro address outside
    rw [placed, Memory.byte_place, size]
    exact if_neg fun inside => outside ⟨inside.1, inside.2.1⟩
  · rintro first block rest rfl
    exact fetch_of_stream around rewound fits stream

/-- All registers and then one of them, to the last byte of memory. -/
def tape : List Block := [⟨.flag, Vector.replicate 16 7⟩, ⟨.first, Vector.replicate 16 9⟩]

/-- The second block brings back `V0` and leaves `VF` as the first has. -/
theorem fetchAll_storeAll_tape :
    (initial {}).dialect.advanceIndexOnCopy = true ∧
      (4079 : UInt16).toNat + streamSize tape ≤ 4096 ∧
      ∃ stored fetched,
        ((initial {}).setIndex 4079).storeAll quiet tape = .ok stored ∧
        (stored.setIndex 4079).fetchAll quiet [.flag, .first] = .ok fetched ∧
        fetched.registers.index.toNat = 4096 ∧
        fetched.registers.get .first = 9 ∧ fetched.registers.get .flag = 7 := by
  have fits : (4079 : UInt16).toNat + streamSize tape ≤ 4096 := by decide
  obtain ⟨stored, fetched, stores, fetches, _, index, _, _, blocks⟩ :=
    fetchAll_storeAll quiet (initial {}) 4079 tape rfl fits
  obtain ⟨_, middle, _, _, reaches, first⟩ := blocks [] ⟨.flag, Vector.replicate 16 7⟩ _ rfl
  obtain ⟨before, after, again, _, ends, second⟩ := blocks [⟨.flag, Vector.replicate 16 7⟩] _ _ rfl
  obtain rfl : middle = before := Except.ok.inj (reaches.symm.trans again)
  obtain rfl : fetched = after := Except.ok.inj (fetches.symm.trans ends)
  refine ⟨rfl, fits, stored, fetched, stores, fetches, index, second .first, ?_⟩
  exact (second .flag).trans (first .flag)

end Machine
end Chip8
