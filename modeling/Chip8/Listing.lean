import Chip8.Disassembly

/-!
Listings: a program as lines of address and instruction.  A last byte without
a partner is shown as data.
-/

namespace Chip8

/-- The address column of a listing. -/
def listingAddress (address : Int) : String :=
  Hex.signed 4 address ++ ":  "

/-- The lines of a program that starts at an address. -/
def listing (jumpByNamed : Bool) (address : Int) : List UInt8 → List String
  | [] => []
  | [last] => [listingAddress address ++ ".byte " ++ Disassembly.byteText last]
  | high :: low :: rest =>
      (listingAddress address ++ disassemble (256 * high.toNat + low.toNat) jumpByNamed) ::
        listing jumpByNamed (address + 2) rest

end Chip8
