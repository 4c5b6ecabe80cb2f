import Chip8.Proofs.Drawing
import Chip8.Proofs.Faults

/-!
Runs under two dialects.  A choice of a dialect is looked at by a few words
only, and by some of these only on certain operands; `Dialect.Point.matters`
says which.  Two machines that are alike but for their dialects stay alike for
as long as no word is carried out to which a choice matters that they do not
share.
-/

namespace Chip8

/-- Whether the choice on a point can matter to a word, as the machine stands. -/
def Dialect.Point.matters (point : Point) (machine : Machine) (word : Nat) : Bool :=
  let x := machine.registers.get (nibble (word / 256))
  let y := machine.registers.get (nibble (word / 16))
  match point with
  | .resetFlagOnLogic => hasForm "8XY1" word || hasForm "8XY2" word || hasForm "8XY3" word
  | .advanceIndexOnCopy => hasForm "FX55" word || hasForm "FX65" word
  | .shiftSecondRegister => (hasForm "8XY6" word || hasForm "8XYE" word) && x != y
  | .jumpByNamedRegister => hasForm "BNNN" word && x != machine.registers.get .first
  | .clipSprites =>
      hasForm "DXYN" word && (x.toNat % 64 + 8 > 64 || y.toNat % 32 + word % 16 > 32)

theorem Memory.length_of_readBlock {memory : Memory} {address length : Nat} {bytes : List UInt8}
    (reads : memory.readBlock address length = .ok bytes) : bytes.length = length := by
  rw [readBlock_natCast] at reads
  split at reads
  next => rw [← Except.ok.inj reads, length_slice]
  next => cases reads

namespace Machine

/-- The machine with another dialect and all else as it is. -/
def withDialect (machine : Machine) (dialect : Dialect) : Machine := { machine with dialect }

/-- Every choice that matters to a word is one that the dialect shares with
another. -/
def Shares (machine : Machine) (other : Dialect) (word : Nat) : Prop :=
  ∀ point : Dialect.Point, point.matters machine word = true →
    machine.dialect.choice point = other.choice point

/-! The places where an instruction looks at the dialect. -/

section Places

variable {machine : Machine} {other : Dialect} {word : Nat}

theorem apply_of_shares (shares : machine.Shares other word) {operation : Arithmetic}
    (form : hasForm operation.form word = true) :
    let a := machine.registers.get (nibble (word / 256))
    let b := machine.registers.get (nibble (word / 16))
    operation.apply other a b = operation.apply machine.dialect a b := by
  intro a b
  have logic : hasForm "8XY1" word = true ∨ hasForm "8XY2" word = true ∨
      hasForm "8XY3" word = true →
      machine.dialect.resetFlagOnLogic = other.resetFlagOnLogic := by
    intro operates
    apply shares .resetFlagOnLogic
    simpa [Dialect.Point.matters, or_assoc] using operates
  have shift : hasForm "8XY6" word = true ∨ hasForm "8XYE" word = true →
      (if other.shiftSecondRegister then b else a) =
        if machine.dialect.shiftSecondRegister then b else a := by
    intro shifts
    by_cases same : a = b
    · rw [same, ite_self, ite_self]
    · have shared : machine.dialect.shiftSecondRegister = other.shiftSecondRegister := by
        apply shares .shiftSecondRegister
        simpa [Dialect.Point.matters, a, b, same] using shifts
      rw [shared]
  cases operation with
  | or => simp only [Arithmetic.apply, logic (.inl form)]
  | and => simp only [Arithmetic.apply, logic (.inr (.inl form))]
  | xor => simp only [Arithmetic.apply, logic (.inr (.inr form))]
  | shiftRight => simp only [Arithmetic.apply, shift (.inl form)]
  | shiftLeft => simp only [Arithmetic.apply, shift (.inr form)]
  | load | add | subtract | subtractFrom => rfl

theorem added_of_shares (shares : machine.Shares other word)
    (form : hasForm "BNNN" word = true) :
    let x := nibble (word / 256)
    machine.registers.get (if other.jumpByNamedRegister then x else .first) =
      machine.registers.get (if machine.dialect.jumpByNamedRegister then x else .first) := by
  intro x
  by_cases same : machine.registers.get x = machine.registers.get .first
  · rw [apply_ite machine.registers.get, apply_ite machine.registers.get, same, ite_self, ite_self]
  · have shared : machine.dialect.jumpByNamedRegister = other.jumpByNamedRegister := by
      apply shares .jumpByNamedRegister
      simp [Dialect.Point.matters, form, x, same]
    rw [shared]

theorem draw_of_shares (shares : machine.Shares other word)
    (form : hasForm "DXYN" word = true) {sprite : Sprite} (height : sprite.length = word % 16) :
    let x := (machine.registers.get (nibble (word / 256))).toNat
    let y := (machine.registers.get (nibble (word / 16))).toNat
    machine.screen.draw other.clipSprites x y sprite =
      machine.screen.draw machine.dialect.clipSprites x y sprite := by
  intro x y
  by_cases inside : x % 64 + 8 ≤ 64 ∧ y % 32 + word % 16 ≤ 32
  · apply Screen.draw_of_inside
    · rw [screenWidth, spriteWidth]
      omega
    · rw [screenHeight, height]
      omega
  · have shared : machine.dialect.clipSprites = other.clipSprites := by
      apply shares .clipSprites
      simp only [Dialect.Point.matters, form, Bool.true_and, Bool.or_eq_true, decide_eq_true_eq]
      omega
    rw [shared]

theorem indexAfterCopy_of_shares (shares : machine.Shares other word)
    (form : hasForm "FX55" word = true ∨ hasForm "FX65" word = true) (x : Register) :
    (machine.withDialect other).indexAfterCopy x = machine.indexAfterCopy x := by
  have shared : machine.dialect.advanceIndexOnCopy = other.advanceIndexOnCopy := by
    apply shares .advanceIndexOnCopy
    simpa [Dialect.Point.matters] using form
  unfold indexAfterCopy
  rw [shared]
  rfl

end Places

variable {machine : Machine} {other : Dialect} {word : Nat} {instruction : Instruction}

/-- An instruction does the same under a dialect that shares what matters to
it. -/
theorem perform_withDialect (shares : machine.Shares other word)
    (decoded : Instruction.decode? word = some instruction) (around : Surroundings) :
    (machine.withDialect other).perform around instruction =
      ((machine.perform around instruction).1.withDialect other,
       (machine.perform around instruction).2) := by
  have form := Instruction.hasForm_of_decode? decoded
  have operands := Instruction.operandsIn_of_decode? decoded
  rw [perform.eq_def, perform.eq_def]
  cases instruction with
  | arithmetic operation x y =>
      obtain ⟨rfl, rfl⟩ := operands
      have same := apply_of_shares shares form
      dsimp only [withDialect] at same ⊢
      rw [same]
      split <;> rfl
  | jumpOffset x target =>
      obtain ⟨rfl, _⟩ := operands
      have same := added_of_shares shares form
      exact congrArg
        (fun added : UInt8 =>
          (machine.withDialect other, Except.ok (Flow.jump (UInt16.ofNat (target + added.toNat)))))
        same
  | draw x y height =>
      obtain ⟨rfl, rfl, rfl⟩ := operands
      dsimp only [withDialect]
      split
      next => rfl
      next sprite reads =>
        rw [draw_of_shares shares form (Memory.length_of_readBlock reads)]
  | store x =>
      have same := indexAfterCopy_of_shares shares (.inl form) x
      dsimp only [withDialect] at same ⊢
      split
      next => rfl
      next => rw [same]
  | fetch x =>
      have same := indexAfterCopy_of_shares shares (.inr form) x
      dsimp only [withDialect] at same ⊢
      split
      next => rfl
      next => rw [same]
  | returnFromCall | call target | skipIfHeld x | skipUnlessHeld x | awaitKey x | decimal x =>
      dsimp only [withDialect]
      split <;> rfl
  | _ => rfl

/-! Steps and runs. -/

theorem perform_dialect (around : Surroundings) (machine : Machine) (instruction : Instruction) :
    (machine.perform around instruction).1.dialect = machine.dialect := by
  rw [perform.eq_def]
  cases instruction <;> dsimp only <;> (try split) <;> rfl

theorem serveWait_dialect (held : Key → Bool) (machine : Machine) :
    (machine.serveWait held).dialect = machine.dialect := by
  unfold serveWait
  dsimp only
  split <;> rfl

theorem serveWait_withDialect (held : Key → Bool) (machine : Machine) (other : Dialect) :
    (machine.withDialect other).serveWait held = (machine.serveWait held).withDialect other := by
  unfold serveWait
  dsimp only [withDialect]
  split <;> rfl

/-- A step stays with its dialect. -/
theorem step_dialect (around : Surroundings) (machine : Machine) :
    (machine.step around).1.dialect = machine.dialect := by
  have way := step_case around machine
  generalize machine.step around = result at way ⊢
  cases way with
  | served waiting served eq =>
      subst eq
      exact serveWait_dialect around.held { machine with redraw := false }
  | refused => rfl
  | obeyed idle word instruction performed flow moved fetched decoded performs eq =>
      subst eq
      have kept := perform_dialect around { machine with redraw := false } instruction
      rw [performs] at kept
      exact kept

/-- A step does the same under a dialect that shares what matters to the word it
carries out. -/
theorem step_withDialect (around : Surroundings)
    (shares : ∀ word snapshot, machine.wait = .idle → machine.currentWord = .ok word →
      (machine.step around).2 = .ok snapshot → machine.Shares other word) :
    (machine.withDialect other).step around =
      ((machine.step around).1.withDialect other, (machine.step around).2) := by
  have cleared : { machine.withDialect other with redraw := false } =
      { machine with redraw := false }.withDialect other := rfl
  have foreseen := faultOf?_step around machine
  have way := step_case around machine
  generalize machine.step around = result at way shares foreseen ⊢
  cases way with
  | served waiting served eq =>
      subst eq
      have waits : (machine.withDialect other).wait ≠ .idle := waiting
      rw [step_of_waiting waits, cleared, serveWait_withDialect]
      rfl
  | refused idle fault met =>
      -- What is foreseen of a step does not look at the dialect.
      have hazard : (machine.withDialect other).hazard? = some fault := foreseen.symm
      rw [← faultOf?_step around, faultOf?_eq_some_iff] at hazard
      rw [step_of_error hazard, cleared]
  | obeyed idle word instruction performed flow moved fetched decoded performs eq =>
      subst eq
      have shared : { machine with redraw := false }.Shares other word :=
        shares word _ idle fetched rfl
      have rests : (machine.withDialect other).wait = .idle := idle
      have current : { machine.withDialect other with redraw := false }.currentWord = .ok word :=
        fetched
      have carried : { machine.withDialect other with redraw := false }.executeCurrent around =
          (performed.withDialect other, .ok flow) := by
        rw [executeCurrent_of_decode current decoded, cleared,
          perform_withDialect shared decoded, performs]
      rw [step_of_flow rests carried]
      rfl

theorem pass_withDialect {moment : Moment}
    (shares : ∀ word, machine.CarriesOut moment word → machine.Shares other word) :
    (machine.withDialect other).pass moment =
      ((machine.pass moment).1.withDialect other, (machine.pass moment).2) := by
  have queued : (machine.withDialect other).queueTicks moment.ticks =
      (machine.queueTicks moment.ticks).withDialect other := rfl
  rw [pass, pass, queued]
  apply step_withDialect
  intro word snapshot idle fetched succeeds
  exact shares word ⟨idle, fetched, snapshot, succeeds⟩

theorem stateAt_dialect (machine : Machine) (history : Nat → Moment) (number : Nat) :
    (machine.stateAt history number).dialect = machine.dialect := by
  induction number with
  | zero => rfl
  | succ number ih => exact (step_dialect _ _).trans ih

/-- Dialects differ only where a choice matters: a run under one dialect and a
run under another stay alike, state by state and step by step, as long as no
word has been carried out to which a choice matters that the two do not share. -/
theorem stateAt_withDialect (machine : Machine) (first second : Dialect)
    (history : Nat → Moment) (number : Nat)
    (unaffected : ∀ earlier < number, ∀ word,
      ((machine.withDialect first).stateAt history earlier).CarriesOut (history earlier) word →
      ∀ point : Dialect.Point, first.choice point ≠ second.choice point →
        point.matters ((machine.withDialect first).stateAt history earlier) word = false) :
    (∀ earlier ≤ number,
      (machine.withDialect second).stateAt history earlier =
        ((machine.withDialect first).stateAt history earlier).withDialect second) ∧
    ∀ earlier < number,
      (((machine.withDialect second).stateAt history earlier).pass (history earlier)).2 =
        (((machine.withDialect first).stateAt history earlier).pass (history earlier)).2 := by
  have passes : ∀ earlier < number,
      (((machine.withDialect first).stateAt history earlier).withDialect second).pass
          (history earlier) =
        ((((machine.withDialect first).stateAt history earlier).pass
            (history earlier)).1.withDialect second,
         (((machine.withDialect first).stateAt history earlier).pass (history earlier)).2) := by
    intro earlier before
    apply pass_withDialect
    intro word carries point matters
    by_contra differs
    rw [stateAt_dialect] at differs
    rw [unaffected earlier before word carries point differs] at matters
    exact absurd matters (by simp)
  have states : ∀ earlier ≤ number,
      (machine.withDialect second).stateAt history earlier =
        ((machine.withDialect first).stateAt history earlier).withDialect second := by
    intro earlier
    induction earlier with
    | zero => intro _; rfl
    | succ earlier ih =>
        intro reached
        rw [stateAt, ih (Nat.le_of_succ_le reached), passes earlier reached]
        rfl
  refine ⟨states, ?_⟩
  intro earlier before
  rw [states earlier before.le, passes earlier before]

/-- A machine that jumps on the spot: the register that it adds is zero under
every dialect. -/
def spinning : Machine :=
  { initial {} with memory := Memory.initial.place programStart [0xB2, 0x00] }

/-- No ticks, no keys and nothing random. -/
def uneventful (_ : Nat) : Moment := ⟨[], quiet⟩

theorem currentWord_spinning : spinning.currentWord = .ok 0xB200 := by
  rw [currentWord, Memory.readWord_natCast]
  simp [spinning, initial, Registers.initial, Memory.byte_place, programStart, memorySize]

theorem stateAt_spinning (dialect : Dialect) (number : Nat) :
    (spinning.withDialect dialect).stateAt uneventful number = spinning.withDialect dialect := by
  induction number with
  | zero => rfl
  | succ number ih =>
      have current : (spinning.withDialect dialect).currentWord = .ok 0xB200 :=
        currentWord_spinning
      have carried : (spinning.withDialect dialect).executeCurrent quiet =
          (spinning.withDialect dialect, .ok (.jump 0x200)) := by
        rw [executeCurrent_of_decode current rfl]
        obtain ⟨_, _, _, named, _⟩ := dialect
        cases named <;> rfl
      have rests : (spinning.withDialect dialect).wait = .idle := rfl
      rw [stateAt, ih]
      exact congrArg Prod.fst (step_of_flow rests carried)

theorem stateAt_withDialect_spinning :
    Preset.chip8.dialect.choice .jumpByNamedRegister ≠
        Preset.schip.dialect.choice .jumpByNamedRegister ∧
      (spinning.withDialect Preset.schip.dialect).stateAt uneventful 3 =
        ((spinning.withDialect Preset.chip8.dialect).stateAt uneventful 3).withDialect
          Preset.schip.dialect := by
  refine ⟨by decide, ?_⟩
  refine (stateAt_withDialect spinning Preset.chip8.dialect Preset.schip.dialect uneventful 3
    ?_).1 3 (Nat.le_refl 3)
  intro earlier _ word carries point _
  rw [stateAt_spinning] at carries ⊢
  obtain rfl : 0xB200 = word := Except.ok.inj (currentWord_spinning.symm.trans carries.2.1)
  cases point <;> rfl

end Machine
end Chip8
