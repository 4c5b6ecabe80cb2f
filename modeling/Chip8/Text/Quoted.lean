import Chip8.Text.Hex
import Chip8.Text.Points
import Chip8.Text.Printable

/-!
Quoted text: a text between quotes with everything that would not print
written as an escape.  Single quotes are used unless the text holds single
quotes and no double ones.
-/

namespace Chip8.Quoted

/-- The quote that stands around a text. -/
def quoteFor (points : List Nat) : Nat :=
  if points.contains 39 && !points.contains 34 then 34 else 39

/-- Lower-case hexadecimal digits of a fixed count. -/
def escapeDigits (width point : Nat) : List Char :=
  (Hex.paddedDigits width point).map Char.toLower

/-- How one code point stands between quotes. -/
def escape (quote point : Nat) : List Char :=
  if point == quote || point == 92 then ['\\', Char.ofNat point]
  else if point == 9 then ['\\', 't']
  else if point == 10 then ['\\', 'n']
  else if point == 13 then ['\\', 'r']
  else if Printable.isPrintable point then [Char.ofNat point]
  else if point < 0x100 then '\\' :: 'x' :: escapeDigits 2 point
  else if point < 0x10000 then '\\' :: 'u' :: escapeDigits 4 point
  else '\\' :: 'U' :: escapeDigits 8 point

def quote (text : Points) : String :=
  let mark := quoteFor text.points
  String.ofList
    (Char.ofNat mark :: text.points.flatMap (escape mark) ++ [Char.ofNat mark])

def quoteString (text : String) : String := quote (.ofString text)

end Chip8.Quoted
