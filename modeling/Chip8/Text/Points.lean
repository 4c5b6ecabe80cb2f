/-!
Texts as code points.  Unlike a `String` such a text can hold half of a
surrogate pair, which an escape in a document can name and an argument of a
command can hold.  A string stands for its text wherever a text is asked for.
-/

namespace Chip8

/-- A text as its code points. -/
structure Points where
  points : List Nat
deriving DecidableEq, Repr

namespace Points

def ofString (text : String) : Points :=
  ⟨text.toList.map Char.toNat⟩

instance : Coe String Points := ⟨ofString⟩

/-- The string of a text, with a mark in place of what no string can hold. -/
def toString (text : Points) : String :=
  String.ofList (text.points.map fun point =>
    if point.isValidChar then Char.ofNat point else Char.ofNat 0xFFFD)

def append (a b : Points) : Points := ⟨a.points ++ b.points⟩

instance : Append Points := ⟨append⟩

def join (texts : List Points) : Points := ⟨texts.flatMap Points.points⟩

def intercalate (separator : Points) (texts : List Points) : Points :=
  ⟨separator.points.intercalate (texts.map Points.points)⟩

/-- Whether a list of code points comes no later than another in the order of a
dictionary. -/
def listBefore : List Nat → List Nat → Bool
  | [], _ => true
  | _ :: _, [] => false
  | a :: left, b :: right => a < b || (a == b && listBefore left right)

/-- Whether a text comes no later than another. -/
def before (a b : Points) : Bool := listBefore a.points b.points

/-- A text with the capitals `A` to `Z` made small. -/
def lower (text : Points) : Points :=
  ⟨text.points.map fun point => if 65 ≤ point ∧ point ≤ 90 then point + 32 else point⟩

def startsWith (text start : Points) : Bool := start.points.isPrefixOf text.points

def contains (text : Points) (point : Nat) : Bool := text.points.contains point

/-- A list cut at every mark. -/
def splitList (mark : Nat) : List Nat → List (List Nat)
  | [] => [[]]
  | point :: rest =>
      if point = mark then [] :: splitList mark rest
      else (splitList mark rest).modifyHead (point :: ·)

/-- A text cut at every mark. -/
def split (mark : Nat) (text : Points) : List Points :=
  (splitList mark text.points).map Points.mk

/-- Whether a code point is half of a surrogate pair. -/
def isHalf (point : Nat) : Bool := 0xD800 ≤ point && point ≤ 0xDFFF

/-- Whether a text is one that a string can hold. -/
def isWhole (text : Points) : Bool := !text.points.any isHalf

/-- A string is not changed by a way through its code points. -/
theorem toString_ofString (text : String) : (ofString text).toString = text := by
  have kept : ∀ c : Char,
      (if c.toNat.isValidChar then Char.ofNat c.toNat else Char.ofNat 0xFFFD) = c := by
    intro c
    have valid : c.toNat.isValidChar := c.valid
    rw [if_pos valid, Char.ofNat_toNat]
  simp only [toString, ofString, List.map_map, Function.comp_def, kept, List.map_id',
    String.ofList_toList]

end Points
end Chip8
