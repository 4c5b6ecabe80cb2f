import Mathlib.Data.List.Induction
import Chip8.Memory

/-!
Memory as a map of bytes.  Every edit of memory gives a run of values to the addresses from
some start on, and is carried out whole or refused whole, by its bounds alone.  So after any
edits at all an address has the value that the last edit to be carried out there gave it,
cut to a byte.
-/

namespace Chip8.Memory

def numbers (bytes : List UInt8) : List Int := bytes.map fun byte => (byte.toNat : Int)

/-- What can change a memory. -/
inductive Edit where
  | write (address value : Int)
  | writeBlock (address : Int) (values : List Int)
  | load (program : List UInt8) (offset : Nat)
  | clear
deriving DecidableEq, Repr

namespace Edit

def apply (memory : Memory) : Edit → Except Fault Memory
  | .write address value => memory.write address value
  | .writeBlock address values => memory.writeBlock address values
  | .load program offset => memory.load program offset
  | .clear => .ok memory.clear

/-- The first address that an edit covers. -/
def start : Edit → Int
  | .write address _ => address
  | .writeBlock address _ => address
  | .load _ offset => offset
  | .clear => 0

/-- The values that an edit gives, from its start on.  To clear the memory is to give it the
glyphs and then zeros. -/
def values : Edit → List Int
  | .write _ value => [value]
  | .writeBlock _ values => values
  | .load program _ => numbers program
  | .clear => numbers ((List.range memorySize).map fun address => glyphs[address]?.getD 0)

/-- The value that an edit gives to an address, if it covers it. -/
def given? (address : Int) (edit : Edit) : Option Int :=
  if edit.start ≤ address then edit.values[(address - edit.start).toNat]? else none

/-- An edit is refused if it does not lie within memory. -/
def Refused (edit : Edit) : Prop :=
  edit.start < 0 ∨ edit.start + edit.values.length > 4096

instance (edit : Edit) : Decidable edit.Refused :=
  inferInstanceAs (Decidable (_ ∨ _))

def complaint (edit : Edit) : Fault :=
  match edit with
  | .load program offset => .programTooBig program.length (offset + program.length)
  | _ => .outOfBounds edit.start edit.values.length

end Edit

/-- A memory after an edit.  One that is refused leaves it as it is. -/
def edited (memory : Memory) (edit : Edit) : Memory :=
  match edit.apply memory with
  | .ok changed => changed
  | .error _ => memory

/-- Memory after some edits from power-on on. -/
def afterEdits (edits : List Edit) : Memory :=
  edits.foldl edited initial

/-- The value given to an address last, where refused edits do not count and to be switched on
is to be cleared. -/
def lastGiven? (edits : List Edit) (address : Int) : Option Int :=
  (((.clear :: edits).filter fun edit => ¬ edit.Refused).filterMap (Edit.given? address)).getLast?

/-! The operations that change memory, each by its bounds. -/

theorem toNat_ofInt (value : Int) : ((UInt8.ofInt value).toNat : Int) = value % 256 := by
  simp only [UInt8.ofInt, UInt8.toNat_ofNat']
  omega

theorem ofInt_toNat (byte : UInt8) : UInt8.ofInt byte.toNat = byte := by
  have small := byte.toNat_lt
  apply UInt8.toNat_inj.mp
  have cut := toNat_ofInt byte.toNat
  omega

theorem map_ofInt_numbers (bytes : List UInt8) : (numbers bytes).map UInt8.ofInt = bytes := by
  have round : (UInt8.ofInt ∘ fun byte => (byte.toNat : Int)) = id := funext ofInt_toNat
  rw [numbers, List.map_map, round, List.map_id]

theorem byte_of_outside (memory : Memory) {address : Nat} (outside : memorySize ≤ address) :
    memory.byte address = 0 := by
  rw [byte, Vector.getElem?_eq_none outside, Option.getD_none]

/-- What is checked first fails outside memory. -/
theorem check_then {α : Type} (address length : Int) (result : α) :
    (do check address length; return result : Except Fault α) =
      if address < 0 ∨ length < 0 ∨ address + length > 4096 then
        .error (.outOfBounds address length)
      else .ok result := by
  have size : (memorySize : Int) = 4096 := rfl
  rw [check, size]
  split <;> rfl

theorem writeBlock_eq (memory : Memory) (address : Int) (values : List Int) :
    memory.writeBlock address values =
      if address < 0 ∨ address + values.length > 4096 then
        .error (.outOfBounds address values.length)
      else .ok (memory.place address.toNat (values.map UInt8.ofInt)) := by
  rw [writeBlock, writeBytes, check_then, List.length_map]
  exact if_congr (by omega) rfl rfl

theorem load_eq (memory : Memory) (program : List UInt8) (offset : Nat) :
    memory.load program offset =
      if (offset : Int) < 0 ∨ (offset : Int) + (numbers program).length > 4096 then
        .error (.programTooBig program.length (offset + program.length))
      else .ok (memory.place offset ((numbers program).map UInt8.ofInt)) := by
  rw [load, memorySize, map_ofInt_numbers, numbers, List.length_map]
  exact if_congr (by omega) rfl rfl

namespace Edit

theorem length_clear : clear.values.length = memorySize := by
  rw [values, numbers, List.length_map, List.length_map, List.length_range]

theorem clear_accepted : ¬ clear.Refused := by
  rw [Refused, length_clear, start]
  decide

/-- Clearing gives every address what it has at power-on. -/
theorem place_clear (memory : Memory) :
    memory.place clear.start.toNat (clear.values.map UInt8.ofInt) = initial := by
  apply ext_byte
  intro address
  by_cases inside : address < memorySize
  · have covered : clear.start.toNat ≤ address ∧
        address < clear.start.toNat + (clear.values.map UInt8.ofInt).length ∧
        address < memorySize := by
      rw [List.length_map, length_clear, start]
      omega
    rw [byte_place, if_pos covered, byte_initial_eq, values, map_ofInt_numbers]
    simp [start, inside]
  · have outside := Nat.le_of_not_lt inside
    rw [byte_of_outside _ outside, byte_of_outside _ outside]

/-- An edit is refused by its bounds, or it places its values. -/
theorem apply_eq (memory : Memory) (edit : Edit) :
    edit.apply memory =
      if edit.Refused then .error edit.complaint
      else .ok (memory.place edit.start.toNat (edit.values.map UInt8.ofInt)) := by
  cases edit with
  | write address value => exact writeBlock_eq memory address [value]
  | writeBlock address values => exact writeBlock_eq memory address values
  | load program offset => exact load_eq memory program offset
  | clear => rw [if_neg clear_accepted, place_clear, apply, clear_eq]

/-- After an edit that is carried out an address has what it was given, if it was given
anything. -/
theorem byte_place_values {edit : Edit} (accepted : ¬ edit.Refused) (memory : Memory)
    {address : Nat} (inside : address < memorySize) :
    (memory.place edit.start.toNat (edit.values.map UInt8.ofInt)).byte address =
      ((edit.given? address).map UInt8.ofInt).getD (memory.byte address) := by
  have bounds := not_or.mp accepted
  rw [byte_place, List.length_map, given?]
  by_cases before : (address : Int) < edit.start
  · rw [if_neg (by omega), if_neg (by omega)]
    rfl
  · rw [if_pos (show edit.start ≤ address by omega)]
    have offset : ((address : Int) - edit.start).toNat = address - edit.start.toNat := by omega
    rw [offset]
    by_cases covered : address < edit.start.toNat + edit.values.length
    · rw [if_pos (by omega), List.getElem?_map]
      rw [List.getElem?_eq_getElem (show address - edit.start.toNat < edit.values.length by omega)]
      rfl
    · rw [if_neg (by omega)]
      rw [List.getElem?_eq_none (show edit.values.length ≤ address - edit.start.toNat by omega)]
      rfl

end Edit

/-! Edits one after another. -/

theorem edited_eq (memory : Memory) (edit : Edit) :
    memory.edited edit =
      if edit.Refused then memory
      else memory.place edit.start.toNat (edit.values.map UInt8.ofInt) := by
  rw [edited, Edit.apply_eq]
  split
  next changed applied =>
    split at applied
    next => cases applied
    next accepted => rw [if_neg accepted, Except.ok.inj applied]
  next fault applied =>
    split at applied
    next refused => rw [if_pos refused]
    next => cases applied

theorem afterEdits_append (edits : List Edit) (edit : Edit) :
    afterEdits (edits ++ [edit]) = (afterEdits edits).edited edit := by
  simp [afterEdits]

theorem lastGiven?_append (edits : List Edit) (edit : Edit) (address : Int) :
    lastGiven? (edits ++ [edit]) address =
      (if edit.Refused then none else edit.given? address).or (lastGiven? edits address) := by
  rw [lastGiven?, ← List.cons_append, List.filter_append, List.filterMap_append,
    List.getLast?_append, lastGiven?]
  congr 1
  by_cases refused : edit.Refused
  · simp [refused]
  · cases given : edit.given? address <;> simp [refused, given]

theorem lastGiven?_nil (address : Int) : lastGiven? [] address = Edit.clear.given? address := by
  cases given : Edit.clear.given? address <;> simp [lastGiven?, Edit.clear_accepted, given]

/-- Every byte is the value given to its address last. -/
theorem byte_afterEdits (edits : List Edit) {address : Nat} (inside : address < memorySize) :
    ∃ value, lastGiven? edits address = some value ∧
      (afterEdits edits).byte address = UInt8.ofInt value := by
  -- The last edit comes first: it decides, unless it is refused or does not cover the address.
  induction edits using List.reverseRecOn with
  | nil =>
      have shown := Edit.byte_place_values Edit.clear_accepted initial inside
      have within : address < Edit.clear.values.length := Edit.length_clear.symm ▸ inside
      have given : Edit.clear.given? address = some Edit.clear.values[address] :=
        (if_pos (Int.natCast_nonneg address)).trans (List.getElem?_eq_getElem within)
      rw [Edit.place_clear, given] at shown
      exact ⟨_, (lastGiven?_nil address).trans given, shown⟩
  | append_singleton edits edit ih =>
      obtain ⟨value, given, shown⟩ := ih
      rw [afterEdits_append, lastGiven?_append, edited_eq, given]
      by_cases refused : edit.Refused
      · rw [if_pos refused, if_pos refused]
        exact ⟨value, rfl, shown⟩
      · rw [if_neg refused, if_neg refused, Edit.byte_place_values refused _ inside]
        cases edit.given? address with
        | none => exact ⟨value, rfl, shown⟩
        | some latest => exact ⟨latest, rfl, rfl⟩

/-! Reading. -/

theorem read_eq (memory : Memory) (address : Int) :
    memory.read address =
      if address < 0 ∨ address ≥ 4096 then .error (.outOfBounds address 1)
      else .ok (memory.byte address.toNat) := by
  rw [read, check_then]
  exact if_congr (by omega) rfl rfl

theorem readWord_eq (memory : Memory) (address : Int) :
    memory.readWord address =
      if address < 0 ∨ address + 2 > 4096 then .error (.outOfBounds address 2)
      else .ok (256 * (memory.byte address.toNat).toNat +
        (memory.byte (address.toNat + 1)).toNat) := by
  rw [readWord, check_then]
  exact if_congr (by omega) rfl rfl

theorem mapM_of_ok {α β : Type} {list : List α} {ask : α → Except Fault β} {answer : α → β}
    (answers : ∀ a ∈ list, ask a = .ok (answer a)) : list.mapM ask = .ok (list.map answer) := by
  induction list with
  | nil => rfl
  | cons a rest ih =>
      rw [List.mapM_cons, answers a List.mem_cons_self,
        ih fun later member => answers later (List.mem_cons_of_mem a member)]
      rfl

/-- A block is read byte by byte. -/
theorem mapM_read (memory : Memory) {address : Int} {length : Nat} (low : 0 ≤ address)
    (high : address + length ≤ 4096) :
    (List.range length).mapM (fun offset : Nat => memory.read (address + offset)) =
      .ok (memory.slice address.toNat length) := by
  apply mapM_of_ok
  intro offset member
  have before := List.mem_range.mp member
  rw [read_eq, if_neg (by omega), Int.toNat_add low (Int.natCast_nonneg offset), Int.toNat_natCast]

/-- A memory shows what some edits have left of one another. -/
structure ByteMap (edits : List Edit) (memory : Memory) : Prop where
  size_eq : memory.cells.toList.length = 4096
  /-- The next edit is refused just if it does not lie within memory, with its own complaint,
  and then no byte changes. -/
  refuses_iff (edit : Edit) (fault : Fault) :
    edit.apply memory = .error fault ↔ edit.Refused ∧ fault = edit.complaint
  unchanged (edit : Edit) : edit.Refused → afterEdits (edits ++ [edit]) = memory
  read_error_iff (address : Int) (fault : Fault) :
    memory.read address = .error fault ↔
      (address < 0 ∨ address ≥ 4096) ∧ fault = .outOfBounds address 1
  /-- An address inside memory holds the low byte of what was given to it last. -/
  read_ok (address : Int) : 0 ≤ address → address < 4096 →
    ∃ value byte, lastGiven? edits address = some value ∧ memory.read address = .ok byte ∧
      (byte.toNat : Int) = value % 256
  readBlock_ok_iff (address length : Int) :
    (∃ bytes, memory.readBlock address length = .ok bytes) ↔
      0 ≤ address ∧ 0 ≤ length ∧ address + length ≤ 4096
  readBlock_eq (address length : Int) (bytes : List UInt8) :
    memory.readBlock address length = .ok bytes →
      bytes.length = length ∧
      (List.range length.toNat).mapM (fun offset : Nat => memory.read (address + offset)) =
        .ok bytes
  readWord_ok (address : Int) : 0 ≤ address → address + 2 ≤ 4096 →
    ∃ high low, memory.read address = .ok high ∧ memory.read (address + 1) = .ok low ∧
      memory.readWord address = .ok (256 * high.toNat + low.toNat)
  readWord_error (address : Int) : ¬(0 ≤ address ∧ address + 2 ≤ 4096) →
    memory.readWord address = .error (.outOfBounds address 2)

/-- Memory is a map of bytes, whatever edits are asked of it and whichever of them it
refuses. -/
theorem byteMap_afterEdits (edits : List Edit) : ByteMap edits (afterEdits edits) where
  size_eq := Vector.length_toList
  refuses_iff edit fault := by
    rw [Edit.apply_eq]
    by_cases refused : edit.Refused <;> simp [refused, eq_comm]
  unchanged edit refused := by
    rw [afterEdits_append, edited_eq, if_pos refused]
  read_error_iff address fault := by
    rw [read_eq]
    by_cases outside : address < 0 ∨ address ≥ 4096 <;> simp [outside, eq_comm]
  read_ok address low high := by
    have inside : address.toNat < memorySize := by
      rw [memorySize]
      omega
    obtain ⟨value, given, shown⟩ := byte_afterEdits edits inside
    rw [Int.toNat_of_nonneg low] at given
    refine ⟨value, _, given, (read_eq _ _).trans (if_neg (by omega)), ?_⟩
    rw [shown, toNat_ofInt]
  readBlock_ok_iff address length := by
    rw [readBlock, check_then]
    by_cases outside : address < 0 ∨ length < 0 ∨ address + length > 4096
    · simp [outside]
      omega
    · simp [outside]
      omega
  readBlock_eq address length bytes reads := by
    rw [readBlock, check_then] at reads
    split at reads
    next => cases reads
    next inside =>
      obtain ⟨count, rfl⟩ := Int.eq_ofNat_of_zero_le (show 0 ≤ length by omega)
      obtain rfl := Except.ok.inj reads
      rw [length_slice, Int.toNat_natCast]
      exact ⟨rfl, mapM_read _ (by omega) (by omega)⟩
  readWord_ok address low high := by
    have next : (address + 1).toNat = address.toNat + 1 := by omega
    refine ⟨_, _, (read_eq _ _).trans (if_neg (by omega)),
      (read_eq _ _).trans (if_neg (by omega)), ?_⟩
    rw [readWord_eq, if_neg (by omega), next]
  readWord_error address outside := by
    rw [readWord_eq, if_pos (by omega)]

end Chip8.Memory
