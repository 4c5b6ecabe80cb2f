/-!
The screen: a grid of pixels, and the drawing of sprites on it.  A sprite is a
column of bytes, one for each of its rows, most significant bit leftmost.  All
of a sprite is read against the screen as it was before the drawing; where two
bits of one sprite land on one pixel, the later one decides it.
-/

namespace Chip8

/-- A grid of pixels, true for lit. -/
structure Screen (width height : Nat) where
  rows : Vector (Vector Bool width) height
deriving DecidableEq, Repr

/-- The rows of a sprite from top to bottom. -/
abbrev Sprite := List UInt8

def spriteWidth : Nat := 8

/-- Whether a row of a sprite is set in a column, counted from the left. -/
def spriteBit (row : UInt8) (column : Nat) : Bool :=
  row.toNat.testBit (spriteWidth - 1 - column)

namespace Screen

variable {width height : Nat}

def blank : Screen width height :=
  ⟨Vector.replicate height (Vector.replicate width false)⟩

/-- Put out every pixel. -/
def clear (screen : Screen width height) : Screen width height :=
  ⟨screen.rows.map fun row => row.map fun _ => false⟩

def pixel (screen : Screen width height) (column : Fin width) (row : Fin height) : Bool :=
  screen.rows[row][column]

def put (screen : Screen width height) (column : Fin width) (row : Fin height)
    (lit : Bool) : Screen width height :=
  ⟨screen.rows.set row (screen.rows[row].set column lit)⟩

/-- The number of lit pixels. -/
def lit (screen : Screen width height) : Nat :=
  (screen.rows.toList.flatMap Vector.toList).count true

/-- A bit of a sprite that lands on the screen, and where. -/
structure Hit (width height : Nat) where
  column : Fin width
  row : Fin height
  bit : Bool
deriving DecidableEq, Repr

/-- Where an offset along one axis lands.  With clipping an offset past the
edge lands nowhere; without, it comes back in at the other edge. -/
def land? (size : Nat) (clip : Bool) (start : Int) (offset : Nat) : Option (Fin size) :=
  let place := (start % size).toNat + offset
  let place := if clip then place else place % size
  if h : place < size then some ⟨place, h⟩ else none

/-- The bits of one sprite row that land on the screen, from left to right. -/
def rowHits (clip : Bool) (x y : Int) (bits : UInt8) (offset : Nat) :
    List (Hit width height) :=
  match land? height clip y offset with
  | none => []
  | some row =>
      (List.range spriteWidth).filterMap fun column =>
        (land? width clip x column).map fun place =>
          ⟨place, row, spriteBit bits column⟩

/-- The bits of a sprite that land on the screen, row by row. -/
def hits (clip : Bool) (x y : Int) (sprite : Sprite) : List (Hit width height) :=
  sprite.zipIdx.flatMap fun (bits, offset) => rowHits clip x y bits offset

/-- Whether a set bit lands on a lit pixel. -/
def Hit.collides (screen : Screen width height) (hit : Hit width height) : Bool :=
  screen.pixel hit.column hit.row && hit.bit

/-- The pixel under a bit, flipped if the bit is set. -/
def Hit.flipped (screen : Screen width height) (hit : Hit width height) : Bool :=
  screen.pixel hit.column hit.row ^^ hit.bit

/-- Draw a sprite with its top left corner at a position, which is first
brought onto the screen.  The result is the new screen and whether a lit pixel
was met by a set bit. -/
def draw (screen : Screen width height) (clip : Bool) (x y : Int) (sprite : Sprite) :
    Screen width height × Bool :=
  let landed := hits clip x y sprite
  (landed.foldl (fun drawn hit => drawn.put hit.column hit.row (hit.flipped screen)) screen,
   landed.any (Hit.collides screen))

/-- Drawing on a screen that may have no pixels, where no position can be
brought onto the screen. -/
def draw? (screen : Screen width height) (clip : Bool) (x y : Int) (sprite : Sprite) :
    Option (Screen width height × Bool) :=
  if 0 < width ∧ 0 < height then some (screen.draw clip x y sprite) else none

/-- Screens with the same pixels are the same. -/
theorem ext_pixel {a b : Screen width height}
    (h : ∀ column row, a.pixel column row = b.pixel column row) : a = b := by
  obtain ⟨a⟩ := a
  obtain ⟨b⟩ := b
  congr 1
  apply Vector.ext
  intro row hrow
  apply Vector.ext
  intro column hcolumn
  exact h ⟨column, hcolumn⟩ ⟨row, hrow⟩

theorem pixel_blank (column : Fin width) (row : Fin height) :
    (blank : Screen width height).pixel column row = false := by
  simp [blank, pixel]

@[simp] theorem clear_eq (screen : Screen width height) : screen.clear = blank := by
  apply ext_pixel
  intro column row
  rw [pixel_blank]
  simp [clear, pixel]

/-- A changed pixel has its new value and the others keep theirs. -/
theorem pixel_put (screen : Screen width height) (column place : Fin width)
    (row line : Fin height) (lit : Bool) :
    (screen.put column row lit).pixel place line =
      if place = column ∧ line = row then lit else screen.pixel place line := by
  by_cases sameRow : line = row
  · subst sameRow
    by_cases sameColumn : place = column
    · subst sameColumn
      simp [put, pixel]
    · have apart : column.val ≠ place.val := fun same => sameColumn (Fin.ext same.symm)
      simp [put, pixel, apart, sameColumn]
  · have apart : row.val ≠ line.val := fun same => sameRow (Fin.ext same.symm)
    simp [put, pixel, apart, sameRow]

end Screen

def screenWidth : Nat := 64

def screenHeight : Nat := 32

abbrev Bitmap := Screen screenWidth screenHeight

end Chip8
