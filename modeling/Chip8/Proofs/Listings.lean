import Chip8.Listing
import Chip8.Proofs.ByteMap
import Chip8.Proofs.History
import Chip8.Proofs.Rounds

/-!
A listing shows what the machine will fetch.  Its lines are made from the bytes of a
program, two at a time.  A program file that can be read can be loaded, and then its bytes
lie where the lines say; one that is too big is refused on both sides with one fault.
-/

namespace Chip8

theorem Hex.signed_natCast (width value : Nat) :
    signed width (value : Int) = padded width value := by
  rw [signed, if_neg (by omega), Int.natAbs_natCast]

/-! The lines of a listing by their numbers. -/

section Lines

variable (jumpByNamed : Bool)

/-- There is a line for every two bytes, and one for a byte that is left. -/
theorem length_listing (address : Int) (program : List UInt8) :
    (listing jumpByNamed address program).length = (program.length + 1) / 2 := by
  fun_induction listing jumpByNamed address program with
  | case1 => rfl
  | case2 => simp
  | case3 address high low rest ih =>
      simp only [List.length_cons, ih]
      omega

theorem getElem?_listing (address : Int) {program : List UInt8} {number : Nat} {high low : UInt8}
    (first : program[2 * number]? = some high) (second : program[2 * number + 1]? = some low) :
    (listing jumpByNamed address program)[number]? =
      some (listingAddress (address + 2 * number) ++
        disassemble (256 * high.toNat + low.toNat) jumpByNamed) := by
  fun_induction listing jumpByNamed address program generalizing number with
  | case1 => simp at first
  | case2 => simp at second
  | case3 address front back rest ih =>
      cases number with
      | zero =>
          obtain rfl : front = high := by simpa using first
          obtain rfl : back = low := by simpa using second
          simp
      | succ number =>
          have later := ih first second
          have place : address + 2 + 2 * (number : Int) = address + 2 * (number + 1 : Nat) := by
            omega
          rw [List.getElem?_cons_succ, later, place]

theorem getElem?_listing_of_odd (address : Int) {program : List UInt8} {number : Nat}
    {last : UInt8} (odd : 2 * number + 1 = program.length)
    (left : program[2 * number]? = some last) :
    (listing jumpByNamed address program)[number]? =
      some (listingAddress (address + 2 * number) ++ ".byte " ++ Disassembly.byteText last) := by
  fun_induction listing jumpByNamed address program generalizing number with
  | case1 => simp at left
  | case2 address value =>
      obtain rfl : number = 0 := by simpa using odd
      obtain rfl : value = last := by simpa using left
      simp
  | case3 address high low rest ih =>
      cases number with
      | zero => simp at odd
      | succ number =>
          have later := ih (by simpa [Nat.mul_succ] using odd) left
          have place : address + 2 + 2 * (number : Int) = address + 2 * (number + 1 : Nat) := by
            omega
          rw [List.getElem?_cons_succ, later, place]

end Lines

example : listing false programStart [0x60, 0x05, 0x12, 0x00, 0xAB] =
    ["0200:  LD V0, $05", "0202:  JP $200", "0204:  .byte $AB"] := by
  decide +kernel

/-- The lines of a program say what a memory holds from an address on: each line of two bytes
the word at its address, and a last line of one byte that byte. -/
structure Listed (jumpByNamed : Bool) (start : Nat) (program : List UInt8) (memory : Memory) :
    Prop where
  length_eq : (listing jumpByNamed start program).length = (program.length + 1) / 2
  word (number : Nat) : 2 * number + 1 < program.length →
    ∃ word, memory.readWord (start + 2 * number : Nat) = .ok word ∧
      (listing jumpByNamed start program)[number]? =
        some (Hex.padded 4 (start + 2 * number) ++ ":  " ++ disassemble word jumpByNamed)
  byte : program.length % 2 = 1 →
    ∃ byte, memory.read (start + (program.length - 1) : Nat) = .ok byte ∧
      (listing jumpByNamed start program).getLast? =
        some (Hex.padded 4 (start + (program.length - 1)) ++ ":  " ++ ".byte " ++
          Disassembly.byteText byte)

theorem listed_of_bytes (jumpByNamed : Bool) {start : Nat} {program : List UInt8}
    {memory : Memory} (inside : start + program.length ≤ memorySize)
    (holds : ∀ offset value,
      program[offset]? = some value → memory.byte (start + offset) = value) :
    Listed jumpByNamed start program memory where
  length_eq := length_listing jumpByNamed start program
  word number paired := by
    obtain ⟨high, first⟩ : ∃ high, program[2 * number]? = some high :=
      ⟨_, List.getElem?_eq_getElem (by omega)⟩
    obtain ⟨low, second⟩ : ∃ low, program[2 * number + 1]? = some low :=
      ⟨_, List.getElem?_eq_getElem paired⟩
    refine ⟨256 * high.toNat + low.toNat, ?_, ?_⟩
    · rw [Memory.readWord_natCast, if_pos (by omega), holds _ _ first, Nat.add_assoc start,
        holds _ _ second]
    · have place : (start : Int) + 2 * number = (start + 2 * number : Nat) := by omega
      rw [getElem?_listing jumpByNamed start first second, listingAddress, place,
        Hex.signed_natCast]
  byte odd := by
    obtain ⟨number, ends⟩ : ∃ number, 2 * number + 1 = program.length :=
      ⟨program.length / 2, by omega⟩
    have before : program.length - 1 = 2 * number := by omega
    obtain ⟨last, left⟩ : ∃ last, program[2 * number]? = some last :=
      ⟨_, List.getElem?_eq_getElem (by omega)⟩
    refine ⟨last, ?_, ?_⟩
    · have limit : memorySize = 4096 := rfl
      rw [before, Memory.read_eq, if_neg (by omega), Int.toNat_natCast, holds _ _ left]
    · have lastLine : (listing jumpByNamed start program).length - 1 = number := by
        rw [length_listing]
        omega
      have place : (start : Int) + 2 * number = (start + (program.length - 1) : Nat) := by omega
      rw [List.getLast?_eq_getElem?, lastLine, getElem?_listing_of_odd jumpByNamed start ends left,
        listingAddress, place, Hex.signed_natCast]

namespace Memory

theorem byte_place_inside (memory : Memory) {start : Nat} {bytes : List UInt8}
    (inside : start + bytes.length ≤ memorySize) {offset : Nat} {value : UInt8}
    (there : bytes[offset]? = some value) :
    (memory.place start bytes).byte (start + offset) = value := by
  have within : offset < bytes.length := (List.getElem?_eq_some_iff.mp there).1
  rw [byte_place, if_pos (by omega), Nat.add_sub_cancel_left, there, Option.getD_some]

theorem read_place_outside (memory : Memory) {start : Nat} {bytes : List UInt8} {address : Int}
    (outside : address < start ∨ start + bytes.length ≤ address) :
    (memory.place start bytes).read address = memory.read address := by
  rw [read_eq, read_eq]
  by_cases refused : address < 0 ∨ address ≥ 4096
  · rw [if_pos refused, if_pos refused]
  · rw [if_neg refused, if_neg refused, byte_place, if_neg (by omega)]

end Memory

theorem Rom.read_of_found {files : Files} {path : Path} {program : List UInt8}
    (found : files.read path = .ok program) :
    read files path =
      if programLimit < program.length then
        .error (.fault (.programTooBig program.length (programStart + program.length)))
      else .ok program := by
  rw [read, found]

namespace Machine

theorem load_eq (machine : Machine) (program : List UInt8) :
    machine.load program =
      if programLimit < program.length then
        .error (.programTooBig program.length (programStart + program.length))
      else .ok { machine with memory := machine.memory.place programStart program } := by
  have limit := not_congr (programStart_add_le_iff program.length)
  rw [Nat.not_le, Nat.not_le] at limit
  split
  next big => exact load_of_error (if_pos (limit.mpr big))
  next fits => exact load_of_ok (if_neg (mt limit.mp fits))

/-- A file and any machine refuse a program alike, with its size and the address it would end
at, and the memory stays as it is.  Any other program is read and loaded; then its listing
says what is at the addresses it lies at, and all other addresses hold what they held. -/
theorem load_as_listed {files : Files} {path : Path} {program : List UInt8}
    (found : files.read path = .ok program) (machine : Machine) (jumpByNamed : Bool) :
    let loaded := machine.act (.load program)
    (∀ size stop, Rom.read files path = .error (.fault (.programTooBig size stop)) ↔
      machine.load program = .error (.programTooBig size stop)) ∧
    (programLimit < program.length →
      machine.load program =
        .error (.programTooBig program.length (programStart + program.length)) ∧
      loaded.memory = machine.memory) ∧
    (program.length ≤ programLimit →
      Rom.read files path = .ok program ∧ machine.load program = .ok loaded ∧
      Listed jumpByNamed programStart program loaded.memory ∧
      ∀ address : Int, address < programStart ∨ programStart + program.length ≤ address →
        loaded.memory.read address = machine.memory.read address) := by
  intro loaded
  have reads := Rom.read_of_found found
  have loads := machine.load_eq program
  refine ⟨fun size stop => ?_, fun big => ?_, fun fits => ?_⟩
  · rw [reads, loads]
    split <;> simp
  · rw [if_pos big] at loads
    have kept : loaded = machine := by simp only [loaded, act, loads]
    exact ⟨loads, by rw [kept]⟩
  · rw [if_neg (Nat.not_lt.mpr fits)] at reads loads
    have placed : loaded =
        { machine with memory := machine.memory.place programStart program } := by
      simp only [loaded, act, loads]
    have inside := (programStart_add_le_iff _).mpr fits
    rw [placed]
    refine ⟨reads, loads, ?_, fun address => machine.memory.read_place_outside⟩
    exact listed_of_bytes jumpByNamed inside fun offset value there =>
      machine.memory.byte_place_inside inside there

/-- A program with a byte that is left, and one that is a byte too long. -/
theorem load_as_listed_odd :
    let odd : List UInt8 := [0x60, 0x05, 0x12, 0x00, 0xAB]
    let long : List UInt8 := List.replicate 3585 0
    let loaded := ((initial {}).act (.load odd)).memory
    (loaded.readWord 0x202 = .ok 0x1200 ∧
      (listing false 0x200 odd)[1]? = some "0202:  JP $200" ∧
      loaded.read 0x204 = .ok 0xAB ∧
      (listing false 0x200 odd).getLast? = some "0204:  .byte $AB") ∧
    (initial {}).load long = .error (.programTooBig 3585 0x1001) := by
  intro odd long loaded
  have oddFound : (⟨fun _ => .ok odd, fun _ => .ok []⟩ : Files).read ⟨false, []⟩ = .ok odd := rfl
  have longFound : (⟨fun _ => .ok long, fun _ => .ok []⟩ : Files).read ⟨false, []⟩ = .ok long :=
    rfl
  obtain ⟨_, _, fits⟩ := load_as_listed oddFound (initial {}) false
  obtain ⟨_, loads, listed, _⟩ := fits (by decide)
  obtain ⟨word, fetched, line⟩ := listed.word 1 (by decide)
  obtain ⟨byte, left, lastLine⟩ := listed.byte (by decide)
  have placed : loaded = (initial {}).memory.place programStart odd := by
    rw [load_eq, if_neg (by decide)] at loads
    exact (congrArg Machine.memory (Except.ok.inj loads)).symm
  have held : loaded.readWord (0x202 : Nat) = .ok 0x1200 := by
    rw [placed, Memory.readWord_natCast]
    simp [odd, Memory.byte_place, programStart, memorySize]
  have last : loaded.read (0x204 : Nat) = .ok 0xAB := by
    rw [placed, Memory.read_eq]
    simp [odd, Memory.byte_place, programStart, memorySize]
  obtain rfl : 0x1200 = word := Except.ok.inj (held.symm.trans fetched)
  obtain rfl : 0xAB = byte := Except.ok.inj (last.symm.trans left)
  have texts : Hex.padded 4 0x202 ++ ":  " ++ disassemble 0x1200 false = "0202:  JP $200" ∧
      Hex.padded 4 0x204 ++ ":  " ++ ".byte " ++ Disassembly.byteText 0xAB =
        "0204:  .byte $AB" := by
    decide +kernel
  obtain ⟨_, refused, _⟩ := load_as_listed longFound (initial {}) false
  have length : long.length = 3585 := List.length_replicate
  have refusal := (refused (by rw [length]; decide)).1
  rw [length] at refusal
  exact ⟨⟨held, line.trans (congrArg some texts.1), last,
    lastLine.trans (congrArg some texts.2)⟩, refusal⟩

end Machine

end Chip8
