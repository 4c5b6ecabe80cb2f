import Mathlib.Data.Nat.Count
import Chip8.Proofs.Faults

/-!
What a step asks of its surroundings.  A key is looked at by a wait under way and
by the two instructions that skip on one, and a random number is seen by the random
instruction alone, through its mask.  Two runs with the same ticks, and with other
keys and other random numbers at every step, stay the same until a step asks.
-/

namespace Chip8

/-- Whether an instruction looks at a key, or at a random number through a mask that
hides less than all of it. -/
def Instruction.asks : Instruction → Bool
  | .skipIfHeld _ | .skipUnlessHeld _ => true
  | .random _ mask => mask != 0
  | _ => false

/-- The words that ask are those of three forms, the random ones with a mask. -/
theorem Instruction.form_of_asks {word : Nat} {instruction : Instruction}
    (decoded : decode? word = some instruction) (asks : instruction.asks = true) :
    hasForm "EX9E" word = true ∨ hasForm "EXA1" word = true ∨
      (hasForm "CXKK" word = true ∧ word % 256 ≠ 0) := by
  have form := hasForm_of_decode? decoded
  cases instruction with
  | skipIfHeld x => exact .inl form
  | skipUnlessHeld x => exact .inr (.inl form)
  | random x mask =>
      refine .inr (.inr ⟨form, fun hidden => ?_⟩)
      obtain ⟨_, rfl⟩ : x = nibble (word / 256) ∧ mask = UInt8.ofNat word :=
        operandsIn_of_decode? decoded
      have zero : UInt8.ofNat word = 0 := UInt8.toNat_inj.mp (by simpa using hidden)
      simp [Instruction.asks, zero] at asks
  | _ => cases asks

namespace Machine

variable {machine : Machine} {instruction : Instruction}

/-- An instruction that does not ask does the same in all surroundings. -/
theorem perform_of_not_asks (silent : instruction.asks = false) (first second : Surroundings) :
    machine.perform second instruction = machine.perform first instruction := by
  rw [perform.eq_def, perform.eq_def]
  cases instruction with
  | skipIfHeld x | skipUnlessHeld x => cases silent
  | random x mask =>
      obtain rfl : mask = 0 := by simpa [Instruction.asks] using silent
      simp only [UInt8.and_zero]
  | _ => rfl

/-- The step of a moment looks at a key, or at a random number that its mask does not
hide. -/
def Consults (machine : Machine) (moment : Moment) : Prop :=
  machine.wait ≠ .idle ∨ ∃ word, machine.CarriesOut moment word ∧
    (hasForm "EX9E" word = true ∨ hasForm "EXA1" word = true ∨
      (hasForm "CXKK" word = true ∧ word % 256 ≠ 0))

/-- A step that does not ask comes to the same in all surroundings. -/
theorem pass_of_not_consults {first second : Moment} (ticks : first.ticks = second.ticks)
    (secluded : ¬ machine.Consults first) : machine.pass second = machine.pass first := by
  rw [Consults, not_or, not_not] at secluded
  obtain ⟨idle, silent⟩ := secluded
  have way := step_case first.around (machine.queueTicks first.ticks)
  have foreseen := faultOf?_step first.around (machine.queueTicks first.ticks)
  have rests : (machine.queueTicks first.ticks).wait = .idle := idle
  rw [pass, pass, ← ticks]
  generalize result : (machine.queueTicks first.ticks).step first.around = outcome
    at way foreseen ⊢
  cases way with
  | served waiting => exact absurd idle waiting
  | refused _ fault _ =>
      -- What is foreseen of a step does not look at the surroundings.
      rw [← faultOf?_step second.around] at foreseen
      exact step_of_error ((faultOf?_eq_some_iff _ _).mp foreseen.symm)
  | obeyed _ word instruction performed flow moved fetched decoded performs goes =>
      have carries : machine.CarriesOut first word :=
        ⟨idle, fetched, moved.snapshot, congrArg Prod.snd result⟩
      have quiet : instruction.asks = false := by
        rw [← Bool.not_eq_true]
        exact fun asks => silent ⟨word, carries, Instruction.form_of_asks decoded asks⟩
      have current : { machine.queueTicks first.ticks with redraw := false }.currentWord =
          .ok word := fetched
      have carried : { machine.queueTicks first.ticks with redraw := false }.executeCurrent
          second.around = (performed, .ok flow) := by
        rw [executeCurrent_of_decode current decoded, perform_of_not_asks quiet, performs]
      rw [step_of_flow rests carried, goes]

/-! How many random numbers are used. -/

/-- Whether the step of a moment carries out a word of a form. -/
def carriesOutForm (machine : Machine) (moment : Moment) (form : String) : Bool :=
  match machine.wait, machine.currentWord, (machine.pass moment).2 with
  | .idle, .ok word, .ok _ => hasForm form word
  | _, _, _ => false

theorem carriesOutForm_of_carriesOut {moment : Moment} {word : Nat}
    (carries : machine.CarriesOut moment word) (form : String) :
    machine.carriesOutForm moment form = hasForm form word := by
  obtain ⟨idle, fetched, snapshot, succeeds⟩ := carries
  simp only [carriesOutForm, idle, fetched, succeeds]

theorem perform_drawn (around : Surroundings) (machine : Machine) (instruction : Instruction) :
    (machine.perform around instruction).1.drawn =
      machine.drawn + if instruction.form = "CXKK" then 1 else 0 := by
  rw [perform.eq_def]
  cases instruction with
  | arithmetic operation x y =>
      dsimp only
      split <;> cases operation <;> simp [Instruction.form, Arithmetic.form]
  | returnFromCall | call | draw | skipIfHeld | skipUnlessHeld | awaitKey | decimal | store
  | fetch =>
      dsimp only
      split <;> simp [Instruction.form]
  | _ => simp [Instruction.form]

theorem serveWait_drawn (held : Key → Bool) (machine : Machine) :
    (machine.serveWait held).drawn = machine.drawn := by
  unfold serveWait
  dsimp only
  split <;> rfl

/-- A step uses one random number if it carries out a random word, whatever the mask, and
none otherwise. -/
theorem pass_drawn (machine : Machine) (moment : Moment) :
    (machine.pass moment).1.drawn =
      machine.drawn + if machine.carriesOutForm moment "CXKK" = true then 1 else 0 := by
  have way := step_case moment.around (machine.queueTicks moment.ticks)
  generalize result : (machine.queueTicks moment.ticks).step moment.around = outcome at way
  have passes : machine.pass moment = outcome := result
  cases way with
  | served waiting served goes =>
      have none_random : machine.carriesOutForm moment "CXKK" = false := by
        unfold carriesOutForm
        split
        next idle _ _ => exact absurd idle waiting
        next => rfl
      rw [passes, none_random, goes]
      exact serveWait_drawn moment.around.held _
  | refused idle fault _ =>
      have none_random : machine.carriesOutForm moment "CXKK" = false := by
        unfold carriesOutForm
        rw [passes]
        split
        next succeeds => cases succeeds
        next => rfl
      rw [passes, none_random]
      rfl
  | obeyed idle word instruction performed flow moved fetched decoded performs goes =>
      have carries : machine.CarriesOut moment word :=
        ⟨idle, fetched, moved.snapshot, congrArg Prod.snd passes⟩
      have counted := perform_drawn moment.around
        { machine.queueTicks moment.ticks with redraw := false } instruction
      have random_iff : hasForm "CXKK" word = true ↔ instruction.form = "CXKK" := by
        rw [Instruction.hasForm_iff (word_lt_of_fetched fetched) (by decide), decoded]
        simp
      rw [performs] at counted
      rw [passes, carriesOutForm_of_carriesOut carries, goes]
      simp only [random_iff]
      exact counted

/-- How many of the first steps of a history carry out a random word. -/
def randomSteps (machine : Machine) (history : Nat → Moment) (number : Nat) : Nat :=
  Nat.count (fun earlier =>
    (machine.stateAt history earlier).carriesOutForm (history earlier) "CXKK" = true) number

theorem drawn_stateAt (machine : Machine) (history : Nat → Moment) (number : Nat) :
    (machine.stateAt history number).drawn =
      machine.drawn + machine.randomSteps history number := by
  induction number with
  | zero => rfl
  | succ number ih =>
      rw [stateAt, pass_drawn, ih, randomSteps, randomSteps, Nat.count_succ, Nat.add_assoc]

/-- Keys and random numbers enter through their own instructions.  Two runs with the
same ticks and with any keys and random numbers are in the same state before every
step and come to the same in it, up to the first step that looks at a key or at a
random number not hidden by its mask; and each has used one random number for every
random word it has carried out. -/
theorem stateAt_of_secluded (machine : Machine) (first second : Nat → Moment) (number : Nat)
    (ticks : ∀ earlier < number, (first earlier).ticks = (second earlier).ticks)
    (secluded : ∀ earlier < number, ¬ (machine.stateAt first earlier).Consults (first earlier)) :
    (∀ earlier ≤ number,
      machine.stateAt second earlier = machine.stateAt first earlier ∧
      (machine.stateAt first earlier).drawn =
        machine.drawn + machine.randomSteps first earlier ∧
      (machine.stateAt second earlier).drawn =
        machine.drawn + machine.randomSteps second earlier) ∧
    ∀ earlier < number,
      ((machine.stateAt second earlier).pass (second earlier)).2 =
        ((machine.stateAt first earlier).pass (first earlier)).2 := by
  have states : ∀ earlier ≤ number,
      machine.stateAt second earlier = machine.stateAt first earlier := by
    intro earlier
    induction earlier with
    | zero => intro _; rfl
    | succ earlier ih =>
        intro reached
        rw [stateAt, stateAt, ih (Nat.le_of_succ_le reached),
          pass_of_not_consults (ticks earlier reached) (secluded earlier reached)]
  constructor
  · intro earlier reached
    exact ⟨states earlier reached, drawn_stateAt machine first earlier,
      drawn_stateAt machine second earlier⟩
  · intro earlier before
    rw [states earlier before.le,
      pass_of_not_consults (ticks earlier before) (secluded earlier before)]

/-- A machine about to carry out a random word whose mask hides everything. -/
def rolling : Machine :=
  { initial {} with memory := Memory.initial.place programStart [0xC3, 0x00] }

/-- Every key held, and the same number time after time. -/
def noisy : Surroundings := ⟨fun _ => true, fun _ => 255⟩

theorem stateAt_of_secluded_rolling :
    rolling.stateAt (fun _ => ⟨[2], noisy⟩) 1 = rolling.stateAt (fun _ => ⟨[2], quiet⟩) 1 ∧
      (rolling.stateAt (fun _ => ⟨[2], noisy⟩) 1).drawn = 1 := by
  have current : rolling.currentWord = .ok 0xC300 := by
    rw [currentWord, Memory.readWord_natCast]
    simp [rolling, initial, Registers.initial, Memory.byte_place, programStart, memorySize]
  have secluded : ¬ rolling.Consults ⟨[2], quiet⟩ := by
    rintro (waiting | ⟨word, ⟨_, fetched, _⟩, asks⟩)
    · exact waiting rfl
    · obtain rfl : 0xC300 = word := Except.ok.inj (current.symm.trans fetched)
      exact absurd asks (by decide)
  have same := (stateAt_of_secluded rolling (fun _ => ⟨[2], quiet⟩) (fun _ => ⟨[2], noisy⟩) 1
    (fun _ _ => rfl) (fun earlier before => by
      obtain rfl : earlier = 0 := Nat.lt_one_iff.mp before
      exact secluded)).1 1 (Nat.le_refl 1)
  refine ⟨same.1, ?_⟩
  have carried : { rolling.queueTicks [2] with redraw := false }.executeCurrent noisy = _ :=
    executeCurrent_of_decode current rfl
  have rests : (rolling.queueTicks [2]).wait = .idle := rfl
  have carries : rolling.CarriesOut ⟨[2], noisy⟩ 0xC300 :=
    ⟨rfl, current, _, congrArg Prod.snd (step_of_flow rests carried)⟩
  have random : rolling.carriesOutForm ⟨[2], noisy⟩ "CXKK" = true := by
    rw [carriesOutForm_of_carriesOut carries]
    decide
  have none_used : rolling.drawn = 0 := rfl
  rw [same.2.2, none_used, randomSteps, Nat.count_succ, Nat.count_zero, stateAt, if_pos random]

end Machine
end Chip8
