import Chip8.Fault

/-!
Memory: 4096 bytes with the sixteen hexadecimal glyphs at the bottom.  Every
access is checked first and then done whole, so an access that fails leaves
each byte as it was.  `Memory.byte` is the view the other operations are
described by.
-/

namespace Chip8

def memorySize : Nat := 4096

def programStart : Nat := 0x200

/-- The number of bytes a program may have. -/
def programLimit : Nat := memorySize - programStart

/-- A program that has no more bytes than it may have ends inside memory. -/
theorem programStart_add_le_iff (length : Nat) :
    programStart + length ≤ memorySize ↔ length ≤ programLimit := by
  rw [programLimit, programStart, memorySize]
  omega

def glyphSize : Nat := 5

/-- The glyphs of the digits `0` to `F`, five rows of a sprite each. -/
def glyphs : List UInt8 :=
  [0xF0, 0x90, 0x90, 0x90, 0xF0,
   0x20, 0x60, 0x20, 0x20, 0x70,
   0xF0, 0x10, 0xF0, 0x80, 0xF0,
   0xF0, 0x10, 0xF0, 0x10, 0xF0,
   0x90, 0x90, 0xF0, 0x10, 0x10,
   0xF0, 0x80, 0xF0, 0x10, 0xF0,
   0xF0, 0x80, 0xF0, 0x90, 0xF0,
   0xF0, 0x10, 0x20, 0x40, 0x40,
   0xF0, 0x90, 0xF0, 0x90, 0xF0,
   0xF0, 0x90, 0xF0, 0x10, 0xF0,
   0xF0, 0x90, 0xF0, 0x90, 0x90,
   0xE0, 0x90, 0xE0, 0x90, 0xE0,
   0xF0, 0x80, 0x80, 0x80, 0xF0,
   0xE0, 0x90, 0x90, 0x90, 0xE0,
   0xF0, 0x80, 0xF0, 0x80, 0xF0,
   0xF0, 0x80, 0xF0, 0x80, 0x80]

structure Memory where
  cells : Vector UInt8 memorySize
deriving DecidableEq, Repr

namespace Memory

/-- The byte at an address, and zero past the end. -/
def byte (memory : Memory) (address : Nat) : UInt8 :=
  memory.cells[address]?.getD 0

/-- Write a run of bytes from an address on; what falls past the end is
dropped. -/
def place (memory : Memory) (address : Nat) : List UInt8 → Memory
  | [] => memory
  | value :: rest =>
      place ⟨memory.cells.setIfInBounds address value⟩ (address + 1) rest

/-- The run of `length` bytes from an address on. -/
def slice (memory : Memory) (address length : Nat) : List UInt8 :=
  (List.range length).map fun offset => memory.byte (address + offset)

/-- Memory at power-on: the glyphs, then zeros. -/
def initial : Memory :=
  place ⟨Vector.replicate memorySize 0⟩ 0 glyphs

/-- Write zero over every byte, and then the glyphs. -/
def clear (memory : Memory) : Memory :=
  place ⟨memory.cells.map fun _ => 0⟩ 0 glyphs

/-- Fails unless `length` bytes from `address` on lie in memory. -/
def check (address length : Int) : Except Fault Unit :=
  if address < 0 ∨ length < 0 ∨ address + length > memorySize then
    .error (.outOfBounds address length)
  else .ok ()

def read (memory : Memory) (address : Int) : Except Fault UInt8 := do
  check address 1
  return memory.byte address.toNat

/-- The word at an address, high byte first. -/
def readWord (memory : Memory) (address : Int) : Except Fault Nat := do
  check address 2
  return 256 * (memory.byte address.toNat).toNat + (memory.byte (address.toNat + 1)).toNat

def readBlock (memory : Memory) (address length : Int) : Except Fault (List UInt8) := do
  check address length
  return memory.slice address.toNat length.toNat

/-- Replace the bytes from an address on. -/
def writeBytes (memory : Memory) (address : Int) (bytes : List UInt8) :
    Except Fault Memory := do
  check address bytes.length
  return memory.place address.toNat bytes

/-- Replace the bytes from an address on by the low bytes of some numbers. -/
def writeBlock (memory : Memory) (address : Int) (values : List Int) :
    Except Fault Memory :=
  memory.writeBytes address (values.map UInt8.ofInt)

/-- Replace one byte by the low byte of a number. -/
def write (memory : Memory) (address value : Int) : Except Fault Memory :=
  memory.writeBlock address [value]

def load (memory : Memory) (program : List UInt8) (offset : Nat) : Except Fault Memory :=
  if offset + program.length > memorySize then
    .error (.programTooBig program.length (offset + program.length))
  else .ok (memory.place offset program)

/-- Memories with the same bytes are the same. -/
theorem ext_byte {a b : Memory} (h : ∀ address, a.byte address = b.byte address) : a = b := by
  obtain ⟨a⟩ := a
  obtain ⟨b⟩ := b
  congr 1
  apply Vector.ext
  intro i hi
  simpa [byte, hi] using h i

/-- A byte after a run was written is the one of the run where the run lies, and
the old one elsewhere. -/
theorem byte_place (memory : Memory) (start : Nat) (bytes : List UInt8) (address : Nat) :
    (memory.place start bytes).byte address =
      if start ≤ address ∧ address < start + bytes.length ∧ address < memorySize then
        bytes[address - start]?.getD 0
      else memory.byte address := by
  induction bytes generalizing memory start with
  | nil =>
      have outside : ¬(start ≤ address ∧ address < start + 0 ∧ address < memorySize) := by omega
      simp only [place, List.length_nil, if_neg outside]
  | cons value rest ih =>
      rw [place, ih]
      by_cases here : address = start
      · subst here
        have past : ¬ address + 1 ≤ address := by omega
        by_cases inside : address < memorySize <;> simp [byte, inside, past]
      · by_cases after : start < address
        · obtain ⟨gap, rfl⟩ : ∃ gap, address = start + 1 + gap := ⟨address - (start + 1), by omega⟩
          have fromHere : start + 1 + gap - start = gap + 1 := by omega
          simp only [List.length_cons, fromHere, List.getElem?_cons_succ,
            Nat.add_sub_cancel_left]
          by_cases inside : start + 1 + gap < memorySize
          · simp [byte, inside]
            grind
          · simp [byte, inside]
        · have before : ¬(start ≤ address ∧ address < start + (value :: rest).length ∧
              address < memorySize) := by omega
          have beforeNext : ¬(start + 1 ≤ address ∧ address < start + 1 + rest.length ∧
              address < memorySize) := by omega
          rw [if_neg before, if_neg beforeNext]
          simp only [byte, Vector.getElem?_setIfInBounds]
          have apart : ¬ start = address := fun h => here h.symm
          simp [apart]

/-- The bytes at power-on: the glyphs, then zeros. -/
theorem byte_initial_eq (address : Nat) : initial.byte address = glyphs[address]?.getD 0 := by
  have length : glyphs.length = 80 := rfl
  rw [initial, byte_place]
  split
  next inside => rw [Nat.sub_zero]
  next outside =>
    rw [List.getElem?_eq_none (by rw [memorySize] at outside; omega), Option.getD_none, byte,
      Vector.getElem?_replicate]
    split <;> rfl

/-- Nothing is left of what a memory held before it was cleared. -/
@[simp] theorem clear_eq (memory : Memory) : memory.clear = initial := by
  have zeros : memory.cells.map (fun _ => (0 : UInt8)) = Vector.replicate memorySize 0 := by
    apply Vector.ext
    intro i hi
    rw [Vector.getElem_map, Vector.getElem_replicate]
  rw [clear, zeros, initial]

/-- A run has as many bytes as it was asked for. -/
theorem length_slice (memory : Memory) (address length : Nat) :
    (memory.slice address length).length = length := by
  simp [slice]

/-- The bytes of a run are the bytes of memory. -/
theorem getElem?_slice (memory : Memory) (address length offset : Nat) :
    (memory.slice address length)[offset]? =
      if offset < length then some (memory.byte (address + offset)) else none := by
  by_cases h : offset < length <;> simp [slice, h]

/-- An access succeeds exactly inside memory. -/
theorem check_eq_ok_iff (address length : Int) :
    check address length = .ok () ↔
      0 ≤ address ∧ 0 ≤ length ∧ address + length ≤ memorySize := by
  unfold check
  split
  · simp only [reduceCtorEq, false_iff]
    omega
  · simp only [true_iff]
    omega

/-! Accesses at addresses that are no negative numbers, as the machine makes
them. -/

theorem check_natCast (address length : Nat) :
    check address length =
      if address + length ≤ memorySize then .ok () else .error (.outOfBounds address length) := by
  unfold check
  by_cases inside : address + length ≤ memorySize
  · rw [if_neg (by omega), if_pos inside]
  · rw [if_pos (by omega), if_neg inside]

theorem readWord_natCast (memory : Memory) (address : Nat) :
    memory.readWord address =
      if address + 2 ≤ memorySize then
        .ok (256 * (memory.byte address).toNat + (memory.byte (address + 1)).toNat)
      else .error (.outOfBounds address 2) := by
  unfold readWord
  rw [show (2 : Int) = (2 : Nat) from rfl, check_natCast]
  split <;> rfl

theorem readBlock_natCast (memory : Memory) (address length : Nat) :
    memory.readBlock address length =
      if address + length ≤ memorySize then .ok (memory.slice address length)
      else .error (.outOfBounds address length) := by
  unfold readBlock
  rw [check_natCast]
  split <;> rfl

theorem writeBytes_natCast (memory : Memory) (address : Nat) (bytes : List UInt8) :
    memory.writeBytes address bytes =
      if address + bytes.length ≤ memorySize then .ok (memory.place address bytes)
      else .error (.outOfBounds address bytes.length) := by
  unfold writeBytes
  rw [check_natCast]
  split <;> rfl

end Memory
end Chip8
