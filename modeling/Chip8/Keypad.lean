import Chip8.Registers

/-!
The keypad of sixteen keys, and the wait for a key to be pressed and let go.
The wait advances by at most one phase a step, so the timers go on counting
while the program stands still.
-/

namespace Chip8

/-- A key `0` to `F`. -/
abbrev Key := Fin 16

def Key.ofInt (index : Int) : Except Fault Key :=
  if h : 0 ≤ index ∧ index < 16 then .ok ⟨index.toNat, by omega⟩
  else .error (.keyOutOfRange index)

/-- The keys held at one moment. -/
structure Keypad where
  held : Vector Bool 16
deriving DecidableEq, Repr

namespace Keypad

def released : Keypad := ⟨Vector.replicate 16 false⟩

def isHeld (keypad : Keypad) (key : Key) : Bool := keypad.held[key]

/-- Whether the key of a number is held. -/
def ask (keypad : Keypad) (index : Int) : Except Fault Bool := do
  return keypad.isHeld (← Key.ofInt index)

/-- The keypad with exactly the given keys held. -/
def ofKeys (keys : List Key) : Keypad :=
  ⟨Vector.ofFn fun key => keys.contains key⟩

def ofIndices (indices : List Int) : Except Fault Keypad := do
  return ofKeys (← indices.mapM Key.ofInt)

/-- The held keys in order. -/
def keys (keypad : Keypad) : List Key :=
  (List.finRange 16).filter keypad.isHeld

theorem isHeld_released (key : Key) : released.isHeld key = false := by
  simp [isHeld, released]

theorem isHeld_ofKeys (keys : List Key) (key : Key) :
    (ofKeys keys).isHeld key = keys.contains key := by
  simp [isHeld, ofKeys]

end Keypad

def anyHeld (held : Key → Bool) : Bool :=
  (List.finRange 16).any held

/-- The lowest key held. -/
def firstHeld? (held : Key → Bool) : Option Key :=
  (List.finRange 16).find? held

/-- A wait for a key.  Keys held from before must be let go, then a key is
pressed, then that key is let go. -/
inductive KeyWait where
  | idle
  | awaitingRelease (register : Register)
  | polling (register : Register)
  | awaitingKeyUp (register : Register) (key : Key)
deriving DecidableEq, Repr

namespace KeyWait

def active : KeyWait → Bool
  | .idle => false
  | _ => true

/-- The register a wait is for. -/
def register? : KeyWait → Option Register
  | .idle => none
  | .awaitingRelease x => some x
  | .polling x => some x
  | .awaitingKeyUp x _ => some x

/-- The key whose release ends the wait. -/
def key? : KeyWait → Option Key
  | .awaitingKeyUp _ key => some key
  | _ => none

def phase : KeyWait → String
  | .idle => "idle"
  | .awaitingRelease _ => "awaiting_release_pre"
  | .polling _ => "polling"
  | .awaitingKeyUp _ _ => "awaiting_release_post"

def start (wait : KeyWait) (x : Register) : Except Fault KeyWait :=
  match wait.register? with
  | none => .ok (.awaitingRelease x)
  | some pending => .error (.keyWaitPending pending)

/-- Give up a wait: no register and no key belong to it any more. -/
def reset (_ : KeyWait) : KeyWait := .idle

@[simp] theorem reset_eq (wait : KeyWait) : wait.reset = .idle := rfl

/-- The wait after a look at the keys. -/
def next (held : Key → Bool) : KeyWait → KeyWait
  | .idle => .idle
  | .awaitingRelease x => if anyHeld held then .awaitingRelease x else .polling x
  | .polling x =>
      match firstHeld? held with
      | some key => .awaitingKeyUp x key
      | none => .polling x
  | .awaitingKeyUp x key =>
      if held key then .awaitingKeyUp x key else (KeyWait.awaitingKeyUp x key).reset

/-- What a look at the keys makes of a wait and of the registers, and whether
it ended the wait.  The key is in its register from the moment it is pressed. -/
def poll (held : Key → Bool) (wait : KeyWait) (registers : Registers) :
    KeyWait × Registers × Bool :=
  match wait, wait.next held with
  | .polling _, .awaitingKeyUp x key =>
      (.awaitingKeyUp x key, registers.set x (UInt8.ofNat key), false)
  | before, after => (after, registers, before.active && !after.active)

end KeyWait
end Chip8
