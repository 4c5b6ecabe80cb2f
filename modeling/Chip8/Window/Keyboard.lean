import Chip8.Keypad

/-!
The keyboard: which key of the keypad each physical key stands for.  The four
by four keys at the left of a keyboard take the shape of the keypad.
-/

namespace Chip8.Keyboard

/-- The physical keys row by row, each with the number of its key. -/
def layout : List (String × Nat) :=
  [("1", 0x1), ("2", 0x2), ("3", 0x3), ("4", 0xC),
   ("q", 0x4), ("w", 0x5), ("e", 0x6), ("r", 0xD),
   ("a", 0x7), ("s", 0x8), ("d", 0x9), ("f", 0xE),
   ("z", 0xA), ("x", 0x0), ("c", 0xB), ("v", 0xF)]

/-- The keypad while some physical keys are pressed. -/
def keypad (pressed : List String) : Keypad :=
  .ofKeys ((List.finRange 16).filter fun key =>
    layout.any fun (name, number) => number == key && pressed.contains name)

end Chip8.Keyboard
