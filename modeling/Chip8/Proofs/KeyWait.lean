import Mathlib.Data.ENat.Lattice
import Chip8.Proofs.History
import Chip8.Proofs.Invariant
import Chip8.Proofs.WordForm

/-!
The wait for a key, from the instruction that begins it to the step that ends
it, over every history of keys and ticks.  The history alone says when the keys
held from before are let go, when a key is pressed and when that key comes up
again, or that one of these never happens; `Machine.waitState_of_awaitKey` gives
the whole machine after every step in between.
-/

namespace Chip8

/-- The first number after `start` at which something happens, if it ever does. -/
noncomputable def firstAfter (start : ℕ∞) (happens : Nat → Prop) : ℕ∞ :=
  sInf {index : ℕ∞ | ∃ number : Nat, index = number ∧ start < number ∧ happens number}

theorem firstAfter_le_iff {start : ℕ∞} {happens : Nat → Prop} {number : Nat} :
    firstAfter start happens ≤ number ↔
      ∃ earlier ≤ number, start < (earlier : ℕ∞) ∧ happens earlier := by
  constructor
  · intro h
    have found : {index : ℕ∞ | ∃ number : Nat,
        index = number ∧ start < number ∧ happens number}.Nonempty := by
      by_contra none_found
      rw [Set.not_nonempty_iff_eq_empty] at none_found
      rw [firstAfter, none_found, sInf_empty, top_le_iff] at h
      exact ENat.natCast_ne_top number h
    obtain ⟨earlier, least, started, here⟩ := csInf_mem found
    rw [firstAfter, least] at h
    exact ⟨earlier, ENat.natCast_le_natCast.mp h, started, here⟩
  · rintro ⟨earlier, le, started, here⟩
    have first : firstAfter start happens ≤ earlier := sInf_le ⟨earlier, rfl, started, here⟩
    exact first.trans (ENat.natCast_le_natCast.mpr le)

theorem natCast_le_succ (number : Nat) : (number : ℕ∞) ≤ (number + 1 : Nat) :=
  ENat.natCast_le_natCast.mpr (Nat.le_succ number)

theorem natCast_succ_le_of_lt {number : Nat} {limit : ℕ∞} (h : (number : ℕ∞) < limit) :
    ((number + 1 : Nat) : ℕ∞) ≤ limit := by
  simpa using Order.add_one_le_of_lt h

/-- Nothing happens for the first time before it can. -/
theorem lt_firstAfter {start : ℕ∞} {happens : Nat → Prop} {number : Nat}
    (early : (number : ℕ∞) ≤ start) : (number : ℕ∞) < firstAfter start happens := by
  rw [← not_le, firstAfter_le_iff]
  rintro ⟨earlier, le, started, _⟩
  exact absurd (started.trans_le ((ENat.natCast_le_natCast.mpr le).trans early)) (lt_irrefl _)

/-- While something has not happened yet, the next number is its first just if
it happens then. -/
theorem firstAfter_le_succ_iff {start : ℕ∞} {happens : Nat → Prop} {number : Nat}
    (started : start ≤ number) (before : (number : ℕ∞) < firstAfter start happens) :
    firstAfter start happens ≤ (number + 1 : Nat) ↔ happens (number + 1) := by
  rw [firstAfter_le_iff]
  constructor
  · rintro ⟨earlier, le, later, here⟩
    rcases Nat.lt_or_ge number earlier with next | old
    · rwa [Nat.le_antisymm le next] at here
    · exact absurd (firstAfter_le_iff.mpr ⟨earlier, old, later, here⟩) (not_le.mpr before)
  · intro here
    have next : start < ((number + 1 : Nat) : ℕ∞) :=
      started.trans_lt (ENat.natCast_lt_natCast.mpr (Nat.lt_succ_self number))
    exact ⟨number + 1, le_refl _, next, here⟩

theorem firstAfter_eq {start number : Nat} {happens : Nat → Prop} (later : start < number)
    (here : happens number)
    (first : ∀ earlier, start < earlier → earlier < number → ¬ happens earlier) :
    firstAfter start happens = number := by
  apply le_antisymm
  · exact firstAfter_le_iff.mpr ⟨number, le_refl _, ENat.natCast_lt_natCast.mpr later, here⟩
  · apply le_of_not_gt
    intro sooner
    obtain ⟨found, same⟩ := ENat.ne_top_iff_exists.mp sooner.ne_top
    obtain ⟨earlier, le, started, happened⟩ := firstAfter_le_iff.mp same.ge
    rw [← same, ENat.natCast_lt_natCast] at sooner
    exact first earlier (ENat.natCast_lt_natCast.mp started) (lt_of_le_of_lt le sooner) happened

theorem anyHeld_eq_false_iff (held : Key → Bool) :
    anyHeld held = false ↔ ∀ key, held key = false := by
  simp [anyHeld]

theorem firstHeld?_eq_none_iff (held : Key → Bool) :
    firstHeld? held = none ↔ ¬ ∃ key, held key = true := by
  simp [firstHeld?]

theorem firstHeld?_of_isLeast {held : Key → Bool} {key : Key}
    (h : IsLeast {key | held key = true} key) : firstHeld? held = some key := by
  cases found : firstHeld? held with
  | none => exact absurd ⟨key, h.1⟩ ((firstHeld?_eq_none_iff held).mp found)
  | some other =>
      rw [firstHeld?, List.find?_eq_some_iff_getElem] at found
      obtain ⟨down, place, _, rfl, earlier⟩ := found
      have least := h.2 down
      rcases Fin.lt_or_eq_of_le least with lower | same
      · have up := earlier key.val (by simpa [Fin.lt_def] using lower)
        simp only [List.getElem_finRange] at up
        exact absurd h.1 (by simpa using up)
      · rw [same]

/-! The three turns of a wait that begins at step zero. -/

/-- The first step that finds no key held. -/
noncomputable def releaseAt (history : Nat → Moment) : ℕ∞ :=
  firstAfter 0 fun number => ∀ key, (history number).around.held key = false

/-- The first step after that which finds a key held. -/
noncomputable def pressAt (history : Nat → Moment) : ℕ∞ :=
  firstAfter (releaseAt history) fun number => ∃ key, (history number).around.held key = true

/-- The first step after that which finds the given key up. -/
noncomputable def keyUpAt (history : Nat → Moment) (key : Key) : ℕ∞ :=
  firstAfter (pressAt history) fun number => (history number).around.held key = false

namespace Machine

/-- A machine held up by a wait: the registers apart from the timers, the wait,
and the ticks that have reached the timers since. -/
def suspended (machine : Machine) (registers : Registers) (wait : KeyWait) (ticks : Nat) :
    Machine :=
  { machine with
    registers := registers.tick ticks
    wait := wait
    redraw := false
    ticks := [] }

section Serving

variable (machine : Machine) (registers : Registers) (x : Register) (key : Key) (ticks : Nat)
  (moment : Moment)

/-- A step under a wait looks at the keys, and the ticks queued before it reach
the timers. -/
theorem pass_suspended {wait : KeyWait} (waiting : wait ≠ .idle) :
    (machine.suspended registers wait ticks).pass moment =
      let after := ({ machine.suspended registers wait ticks with
        ticks := moment.ticks }.serveWait moment.around.held).drainTicks
      (after, .ok after.snapshot) := by
  rw [pass, step_of_waiting (by simpa [suspended, queueTicks] using waiting)]
  simp [suspended, queueTicks]

theorem pass_awaitingRelease :
    (machine.suspended registers (.awaitingRelease x) ticks).pass moment =
      let after := machine.suspended registers
        (if anyHeld moment.around.held then .awaitingRelease x else .polling x)
        (ticks + moment.ticks.sum)
      (after, .ok after.snapshot) := by
  rw [pass_suspended _ _ _ _ (by simp), serveWait_of_awaitingRelease rfl, drainTicks_eq]
  simp [suspended, Registers.tick_tick]

theorem pass_polling_of_none (none_held : firstHeld? moment.around.held = none) :
    (machine.suspended registers (.polling x) ticks).pass moment =
      let after := machine.suspended registers (.polling x) (ticks + moment.ticks.sum)
      (after, .ok after.snapshot) := by
  rw [pass_suspended _ _ _ _ (by simp), serveWait_of_polling rfl, none_held, drainTicks_eq]
  simp [suspended, Registers.tick_tick]

theorem pass_polling_of_some (pressed : firstHeld? moment.around.held = some key) :
    (machine.suspended registers (.polling x) ticks).pass moment =
      let after := machine.suspended (registers.set x (UInt8.ofNat key)) (.awaitingKeyUp x key)
        (ticks + moment.ticks.sum)
      (after, .ok after.snapshot) := by
  rw [pass_suspended _ _ _ _ (by simp), serveWait_of_polling rfl, pressed, drainTicks_eq]
  simp [suspended, Registers.tick_tick, Registers.tick_set]

theorem pass_awaitingKeyUp_of_down (down : moment.around.held key = true) :
    (machine.suspended registers (.awaitingKeyUp x key) ticks).pass moment =
      let after := machine.suspended registers (.awaitingKeyUp x key) (ticks + moment.ticks.sum)
      (after, .ok after.snapshot) := by
  rw [pass_suspended _ _ _ _ (by simp), serveWait_of_awaitingKeyUp rfl, down, if_pos rfl,
    drainTicks_eq]
  simp [suspended, Registers.tick_tick]

theorem pass_awaitingKeyUp_of_up (up : moment.around.held key = false) :
    (machine.suspended registers (.awaitingKeyUp x key) ticks).pass moment =
      let after := (machine.suspended registers .idle (ticks + moment.ticks.sum)).follow .advance
      (after, .ok after.snapshot) := by
  rw [pass_suspended _ _ _ _ (by simp), serveWait_of_awaitingKeyUp rfl, up,
    if_neg Bool.false_ne_true, drainTicks_follow, drainTicks_eq]
  simp [suspended, Registers.tick_tick]

end Serving

variable {machine : Machine} {word : Nat}

theorem executeCurrent_awaitKey (machine : Machine) (idle : machine.wait = .idle)
    (fetched : machine.currentWord = .ok word) (waits : hasForm "FX0A" word = true)
    (around : Surroundings) :
    machine.executeCurrent around =
      ({ machine with wait := .awaitingRelease (nibble (word / 256)) }, .ok .suspend) := by
  rw [executeCurrent, fetched, ← perform_awaitKey idle]
  exact execute_of_decode (Instruction.decode?_of_awaitKey waits)

/-- The waiting instruction at the program counter holds the machine up. -/
theorem pass_awaitKey (idle : machine.wait = .idle) (fetched : machine.currentWord = .ok word)
    (waits : hasForm "FX0A" word = true) (moment : Moment) :
    machine.pass moment =
      let after := machine.suspended machine.registers (.awaitingRelease (nibble (word / 256)))
        (machine.ticks.sum + moment.ticks.sum)
      (after, .ok after.snapshot) := by
  have resting : (machine.queueTicks moment.ticks).wait = .idle := idle
  have begins := executeCurrent_awaitKey { machine.queueTicks moment.ticks with redraw := false }
    idle fetched waits moment.around
  rw [pass, step_of_flow resting begins, drainTicks_eq]
  simp [suspended, follow, queueTicks, Flow.apply]

/-- The ticks that have reached the timers once the step of the given number is
over. -/
def ticksThrough (machine : Machine) (history : Nat → Moment) (number : Nat) : Nat :=
  machine.ticks.sum + (queuedBefore history (number + 1)).sum

theorem ticksThrough_succ (machine : Machine) (history : Nat → Moment) (number : Nat) :
    machine.ticksThrough history (number + 1) =
      machine.ticksThrough history number + (history (number + 1)).ticks.sum := by
  rw [ticksThrough, queuedBefore_succ, List.sum_append, ← Nat.add_assoc, ticksThrough]

/-- How far a wait for a key has come when the step of the given number is over,
and the whole machine then. -/
inductive WaitState (machine : Machine) (history : Nat → Moment) (x : Register) (key : Key)
    (number : Nat) : Prop where
  | awaitingRelease (before : number < releaseAt history)
      (state : machine.stateAt history (number + 1) =
        machine.suspended machine.registers (.awaitingRelease x)
          (machine.ticksThrough history number))
  | polling (released : releaseAt history ≤ number) (before : number < pressAt history)
      (state : machine.stateAt history (number + 1) =
        machine.suspended machine.registers (.polling x) (machine.ticksThrough history number))
  | awaitingKeyUp (pressed : pressAt history ≤ number) (before : number < keyUpAt history key)
      (state : machine.stateAt history (number + 1) =
        machine.suspended (machine.registers.set x (UInt8.ofNat key)) (.awaitingKeyUp x key)
          (machine.ticksThrough history number))
  | finished (ended : keyUpAt history key = number)
      (state : machine.stateAt history (number + 1) =
        (machine.suspended (machine.registers.set x (UInt8.ofNat key)) .idle
          (machine.ticksThrough history number)).follow .advance)

/-- One step takes a wait one phase on, or leaves it where it is. -/
theorem WaitState.succ {history : Nat → Moment} {x : Register} {key : Key} {number : Nat}
    (lowest : ∀ pressed : Nat, pressAt history = pressed →
      IsLeast {held | (history pressed).around.held held = true} key)
    (h : machine.WaitState history x key number) (going : number < keyUpAt history key) :
    machine.WaitState history x key (number + 1) := by
  have next : machine.stateAt history (number + 2) =
      ((machine.stateAt history (number + 1)).pass (history (number + 1))).1 := rfl
  -- In each phase `turn` says when the history ends it, and the keys at this step decide.
  cases h with
  | awaitingRelease before state =>
      have turn : releaseAt history ≤ (number + 1 : Nat) ↔
          ∀ key, (history (number + 1)).around.held key = false :=
        firstAfter_le_succ_iff zero_le before
      rw [state, pass_awaitingRelease, ← ticksThrough_succ] at next
      by_cases released : ∀ key, (history (number + 1)).around.held key = false
      · rw [(anyHeld_eq_false_iff _).mpr released] at next
        exact .polling (turn.mpr released) (lt_firstAfter (natCast_succ_le_of_lt before)) next
      · rw [← anyHeld_eq_false_iff, Bool.not_eq_false] at released
        rw [released] at next
        refine .awaitingRelease ?_ next
        rw [← not_le, turn, ← anyHeld_eq_false_iff, released]
        simp
  | polling released before state =>
      have turn : pressAt history ≤ (number + 1 : Nat) ↔
          ∃ key, (history (number + 1)).around.held key = true :=
        firstAfter_le_succ_iff released before
      rw [state] at next
      by_cases found : ∃ key, (history (number + 1)).around.held key = true
      · have pressed : pressAt history = (number + 1 : Nat) :=
          le_antisymm (turn.mpr found) (natCast_succ_le_of_lt before)
        have first := firstHeld?_of_isLeast (lowest (number + 1) pressed)
        rw [pass_polling_of_some _ _ _ _ _ _ first, ← ticksThrough_succ] at next
        exact .awaitingKeyUp pressed.le (lt_firstAfter pressed.ge) next
      · have none_held := (firstHeld?_eq_none_iff _).mpr found
        rw [pass_polling_of_none _ _ _ _ _ none_held, ← ticksThrough_succ] at next
        refine .polling (released.trans (natCast_le_succ _)) ?_ next
        rw [← not_le, turn]
        exact found
  | awaitingKeyUp pressed before state =>
      have turn : keyUpAt history key ≤ (number + 1 : Nat) ↔
          (history (number + 1)).around.held key = false :=
        firstAfter_le_succ_iff pressed before
      rw [state] at next
      cases down : (history (number + 1)).around.held key with
      | true =>
          rw [pass_awaitingKeyUp_of_down _ _ _ _ _ _ down, ← ticksThrough_succ] at next
          refine .awaitingKeyUp (pressed.trans (natCast_le_succ _)) ?_ next
          rw [← not_le, turn, down]
          simp
      | false =>
          rw [pass_awaitingKeyUp_of_up _ _ _ _ _ _ down, ← ticksThrough_succ] at next
          exact .finished (le_antisymm (turn.mpr down) (natCast_succ_le_of_lt before)) next
  | finished ended _ => exact absurd ended going.ne'

/-- The whole machine after every step of a wait, up to the one that ends it. -/
theorem waitState_of_awaitKey (idle : machine.wait = .idle)
    (fetched : machine.currentWord = .ok word) (waits : hasForm "FX0A" word = true)
    {history : Nat → Moment} {key : Key}
    (lowest : ∀ pressed : Nat, pressAt history = pressed →
      IsLeast {held | (history pressed).around.held held = true} key)
    (number : Nat) (reached : number ≤ keyUpAt history key) :
    machine.WaitState history (nibble (word / 256)) key number := by
  induction number with
  | zero =>
      refine .awaitingRelease (lt_firstAfter (le_refl _)) ?_
      have first : machine.stateAt history 1 = (machine.pass (history 0)).1 := rfl
      rw [first, pass_awaitKey idle fetched waits, ticksThrough, queuedBefore_succ,
        queuedBefore_zero, List.nil_append]
  | succ number ih =>
      have before : (number : ℕ∞) < keyUpAt history key :=
        (ENat.natCast_lt_natCast.mpr (Nat.lt_succ_self number)).trans_le reached
      exact (ih before.le).succ lowest before

theorem pass_of_waiting (waiting : machine.wait ≠ .idle) (moment : Moment) :
    (machine.pass moment).2 = .ok (machine.pass moment).1.snapshot := by
  have queued : (machine.queueTicks moment.ticks).wait ≠ .idle := waiting
  rw [pass, step_of_waiting queued]

theorem serveWait_memory (held : Key → Bool) (machine : Machine) (memory : Memory) :
    { machine with memory }.serveWait held = { machine.serveWait held with memory } := by
  unfold serveWait
  dsimp only
  split <;> rfl

/-- A step under a wait does not look at memory: with any other memory it does
the same. -/
theorem pass_memory (waiting : machine.wait ≠ .idle) (moment : Moment) (memory : Memory) :
    { machine with memory }.pass moment =
      ({ (machine.pass moment).1 with memory }, (machine.pass moment).2) := by
  have queued : (machine.queueTicks moment.ticks).wait ≠ .idle := waiting
  have other : ({ machine with memory }.queueTicks moment.ticks).wait ≠ .idle := waiting
  have served := serveWait_memory moment.around.held
    { machine.queueTicks moment.ticks with redraw := false } memory
  rw [pass, pass, step_of_waiting queued, step_of_waiting other]
  dsimp only [queueTicks] at served ⊢
  rw [served]
  rfl

/-- What a wait for a key for `x` leaves alone, and the timers, which the given
ticks have reached. -/
structure Undisturbed (machine : Machine) (x : Register) (ticks : Nat) (after : Machine) :
    Prop where
  others : ∀ y, y ≠ x → after.registers.get y = machine.registers.get y
  index : after.registers.index = machine.registers.index
  stack : after.registers.stack = machine.registers.stack
  memory : after.memory = machine.memory
  screen : after.screen = machine.screen
  redraw : after.redraw = false
  drained : after.ticks = []
  delay : after.registers.delay.toNat = machine.registers.delay.toNat - ticks
  sound : after.registers.sound.toNat = machine.registers.sound.toNat - ticks

theorem undisturbed_suspended (machine : Machine) (x : Register) (wait : KeyWait) (ticks : Nat) :
    machine.Undisturbed x ticks (machine.suspended machine.registers wait ticks) where
  others _ _ := rfl
  index := rfl
  stack := rfl
  memory := rfl
  screen := rfl
  redraw := rfl
  drained := rfl
  delay := Registers.toNat_countDown _ _
  sound := Registers.toNat_countDown _ _

theorem Undisturbed.set {machine after : Machine} {x : Register} {ticks : Nat}
    (h : machine.Undisturbed x ticks after) (value : UInt8) :
    machine.Undisturbed x ticks { after with registers := after.registers.set x value } :=
  { h with
    others := by
      intro y apart
      rw [Registers.get_set, if_neg apart]
      exact h.others y apart }

theorem Undisturbed.follow {machine after : Machine} {x : Register} {ticks : Nat}
    (h : machine.Undisturbed x ticks after) (flow : Flow) :
    machine.Undisturbed x ticks (after.follow flow) :=
  ⟨h.others, h.index, h.stack, h.memory, h.screen, h.redraw, h.drained, h.delay, h.sound⟩

namespace WaitState

variable {history : Nat → Moment} {x : Register} {key : Key} {number : Nat}

theorem undisturbed (h : machine.WaitState history x key number) :
    machine.Undisturbed x (machine.ticksThrough history number)
      (machine.stateAt history (number + 1)) := by
  rcases h with ⟨_, state⟩ | ⟨_, _, state⟩ | ⟨_, _, state⟩ | ⟨_, state⟩ <;> rw [state]
  · exact undisturbed_suspended machine x _ _
  · exact undisturbed_suspended machine x _ _
  · exact (undisturbed_suspended machine x _ _).set _
  · exact ((undisturbed_suspended machine x _ _).set _).follow _

/-- A wait that is not over is under way, on the instruction that began it. -/
theorem of_going (h : machine.WaitState history x key number)
    (going : number < keyUpAt history key) :
    (machine.stateAt history (number + 1)).wait ≠ .idle ∧
      (machine.stateAt history (number + 1)).registers.counter = machine.registers.counter := by
  rcases h with ⟨_, state⟩ | ⟨_, _, state⟩ | ⟨_, _, state⟩ | ⟨ended, _⟩
  · simp [state, suspended]
  · simp [state, suspended]
  · simp [state, suspended]
  · exact absurd ended going.ne'

/-- A wait that is over is under way no more, and the program goes on. -/
theorem of_ended (h : machine.WaitState history x key number)
    (ended : keyUpAt history key = number) :
    (machine.stateAt history (number + 1)).wait = .idle ∧
      (machine.stateAt history (number + 1)).registers.counter =
        machine.registers.counter + 2 := by
  rcases h with ⟨before, _⟩ | ⟨_, before, _⟩ | ⟨_, before, _⟩ | ⟨_, state⟩
  · exact absurd ended (lt_firstAfter (lt_firstAfter before.le).le).ne'
  · exact absurd ended (lt_firstAfter before.le).ne'
  · exact absurd ended before.ne'
  · rw [state]
    exact ⟨rfl, rfl⟩

theorem get_of_unpressed (h : machine.WaitState history x key number)
    (unpressed : number < pressAt history) :
    (machine.stateAt history (number + 1)).registers.get x = machine.registers.get x := by
  rcases h with ⟨_, state⟩ | ⟨_, _, state⟩ | ⟨pressed, _, _⟩ | ⟨ended, _⟩
  · rw [state]
    rfl
  · rw [state]
    rfl
  · exact absurd unpressed (not_lt.mpr pressed)
  · exact absurd ended (lt_firstAfter unpressed.le).ne'

theorem get_of_pressed (h : machine.WaitState history x key number)
    (pressed : pressAt history ≤ number) :
    ((machine.stateAt history (number + 1)).registers.get x).toNat = key := by
  have small := key.isLt
  have written : ((machine.registers.set x (UInt8.ofNat key)).get x).toNat = key := by
    rw [Registers.get_set, if_pos rfl, UInt8.toNat_ofNat']
    omega
  rcases h with ⟨before, _⟩ | ⟨_, before, _⟩ | ⟨_, _, state⟩ | ⟨_, state⟩
  · exact absurd pressed (not_le.mpr (lt_firstAfter before.le))
  · exact absurd pressed (not_le.mpr before)
  · rw [state]
    exact written
  · rw [state]
    exact written

end WaitState

/-- What is to be seen of the step of the given number, for a machine that begins
at step zero to wait for a key for `x` and gets `key`. -/
structure WaitStep (machine : Machine) (history : Nat → Moment) (x : Register) (key : Key)
    (number : Nat) : Prop where
  succeeds : ((machine.stateAt history number).pass (history number)).2 =
    .ok (machine.stateAt history (number + 1)).snapshot
  active_iff : (machine.stateAt history (number + 1)).wait.active = true ↔
    number < keyUpAt history key
  counter_before : number < keyUpAt history key →
    (machine.stateAt history (number + 1)).registers.counter = machine.registers.counter
  counter_ended : keyUpAt history key = number →
    (machine.stateAt history (number + 1)).registers.counter.toNat =
      machine.registers.counter.toNat + 2
  value_before : number < pressAt history →
    (machine.stateAt history (number + 1)).registers.get x = machine.registers.get x
  value_pressed : pressAt history ≤ number →
    ((machine.stateAt history (number + 1)).registers.get x).toNat = key
  undisturbed : machine.Undisturbed x (machine.ticksThrough history number)
    (machine.stateAt history (number + 1))
  /-- After the first, no step of the wait looks at memory, so none fetches. -/
  unfetching : 0 < number → ∀ memory : Memory,
    { machine.stateAt history number with memory }.pass (history number) =
      ({ machine.stateAt history (number + 1) with memory },
       ((machine.stateAt history number).pass (history number)).2)
  /-- The step after the last fetches the next instruction. -/
  fetching : keyUpAt history key = number → ∀ moment : Moment,
    (machine.stateAt history (number + 1)).pass moment =
      ((machine.stateAt history (number + 1)).queueTicks moment.ticks).obey moment.around

/-- The course of a wait for a key, whatever the keys and ticks: every step up to
the one that finds the key up again succeeds, and the machine after each is as
the history says. -/
theorem awaitKey_trace (idle : machine.wait = .idle) (fetched : machine.currentWord = .ok word)
    (waits : hasForm "FX0A" word = true) (history : Nat → Moment) (key : Key)
    (lowest : ∀ pressed : Nat, pressAt history = pressed →
      IsLeast {held | (history pressed).around.held held = true} key)
    (number : Nat) (reached : number ≤ keyUpAt history key) :
    machine.WaitStep history (nibble (word / 256)) key number := by
  have states : ∀ earlier : Nat, earlier ≤ keyUpAt history key →
      machine.WaitState history (nibble (word / 256)) key earlier :=
    waitState_of_awaitKey idle fetched waits lowest
  have state := states number reached
  -- A step after the first starts from a machine that the wait before it left waiting.
  have waiting : 0 < number → (machine.stateAt history number).wait ≠ .idle := by
    intro later
    obtain ⟨earlier, rfl⟩ : ∃ earlier, number = earlier + 1 := ⟨number - 1, by omega⟩
    have going : (earlier : ℕ∞) < keyUpAt history key :=
      (ENat.natCast_lt_natCast.mpr (Nat.lt_succ_self earlier)).trans_le reached
    exact ((states earlier going.le).of_going going).1
  refine ⟨?_, ?_, ?_, ?_, state.get_of_unpressed, state.get_of_pressed, state.undisturbed, ?_, ?_⟩
  · rcases Nat.eq_zero_or_pos number with rfl | later
    · have begun : machine.stateAt history 1 = (machine.pass (history 0)).1 := rfl
      rw [begun, stateAt, pass_awaitKey idle fetched waits]
    · exact pass_of_waiting (waiting later) (history number)
  · rw [KeyWait.active_eq_true_iff]
    constructor
    · intro still
      refine lt_of_le_of_ne reached fun ended => still ?_
      exact (state.of_ended ended.symm).1
    · intro going
      exact (state.of_going going).1
  · intro going
    exact (state.of_going going).2
  · intro ended
    have inside := counter_le_of_fetched fetched
    have two : (2 : UInt16).toNat = 2 := rfl
    rw [(state.of_ended ended).2, UInt16.toNat_add]
    omega
  · intro later memory
    exact pass_memory (waiting later) (history number) memory
  · intro ended moment
    have resting : ((machine.stateAt history (number + 1)).queueTicks moment.ticks).wait = .idle :=
      (state.of_ended ended).1
    exact step_of_idle resting

/-- A machine about to wait for a key for `V3`. -/
def expectant : Machine :=
  { initial {} with memory := Memory.initial.place programStart [0xF3, 0x0A] }

/-- The keys down at each step: one held from before, then none, then two, of
which the higher stays down longer. -/
def keysDown : Nat → List Key
  | 0 => [5]
  | 1 => [5]
  | 2 => []
  | 3 => [3, 7]
  | 4 => [3, 7]
  | _ => [7]

/-- One tick before each step. -/
def keystroke (number : Nat) : Moment :=
  ⟨[1], fun key => (keysDown number).contains key, fun _ => 0⟩

theorem awaitKey_trace_keystroke :
    releaseAt keystroke = 2 ∧ pressAt keystroke = 3 ∧ keyUpAt keystroke 3 = 5 ∧
      ∀ number ≤ 5, expectant.WaitStep keystroke 3 3 number := by
  have released : releaseAt keystroke = (2 : Nat) := by
    refine firstAfter_eq (by decide) (by decide) ?_
    intro earlier started sooner
    obtain rfl : earlier = 1 := by omega
    decide
  have pressed : pressAt keystroke = (3 : Nat) := by
    rw [pressAt, released]
    refine firstAfter_eq (by decide) (by decide) ?_
    omega
  have up : keyUpAt keystroke 3 = (5 : Nat) := by
    rw [keyUpAt, pressed]
    refine firstAfter_eq (by decide) (by decide) ?_
    intro earlier started sooner
    obtain rfl : earlier = 4 := by omega
    decide
  have fetched : expectant.currentWord = .ok 0xF30A := by
    rw [currentWord, Memory.readWord_natCast]
    simp [expectant, initial, Registers.initial, Memory.byte_place, programStart, memorySize]
  refine ⟨released, pressed, up, ?_⟩
  intro number le
  refine awaitKey_trace rfl fetched (by decide) keystroke 3 ?_ number ?_
  · intro found same
    obtain rfl : 3 = found := by
      rw [pressed] at same
      exact ENat.natCast_inj.mp same
    constructor
    · decide
    · intro key down
      revert key
      decide
  · rw [up]
    exact ENat.natCast_le_natCast.mpr le

end Machine
end Chip8
