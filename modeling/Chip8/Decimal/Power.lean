/-!
Powers of two and of ten as whole numbers.
-/

namespace Chip8

def twoTo (exponent : Nat) : Nat := Nat.pow 2 exponent

def tenTo (exponent : Nat) : Nat := Nat.pow 10 exponent

end Chip8
