import Mathlib.Data.List.Basic
import Mathlib.Data.Nat.ModEq
import Chip8.Screen

/-!
Drawing bit by bit.  `Screen.draw` reads a sprite against the screen as it was;
`Screen.drawInTurn` brings one bit after another to the screen as the bits
before have left it.  The two agree as soon as no two bits of the sprite meet on
one pixel, which clipping sees to by itself and which a sprite that is no larger
than the screen sees to without it.
-/

namespace Chip8.Screen

variable {width height : Nat}

section InTurn

variable [NeZero width] [NeZero height]

/-- A drawing after one more bit.  The place of the bit is counted from the
corner of the screen and may lie past its edge: with clipping the bit is then
skipped, without it comes back in at the other edge.  A set bit flips the pixel
it falls on, and meets it if it is lit at the time. -/
def stamp (clip : Bool) (column row : Nat) (bit : Bool)
    (drawing : Screen width height × Bool) : Screen width height × Bool :=
  let place := Fin.ofNat width column
  let line := Fin.ofNat height row
  let lit := drawing.1.pixel place line
  if clip && !(column < width && row < height) then drawing
  else if bit then (drawing.1.put place line (!lit), drawing.2 || lit)
  else drawing

/-- Draw a sprite row by row and bit by bit, from the left. -/
def drawInTurn (screen : Screen width height) (clip : Bool) (x y : Int) (sprite : Sprite) :
    Screen width height × Bool := Id.run do
  let left := (x % width).toNat
  let top := (y % height).toNat
  let mut drawing := (screen, false)
  for (bits, row) in sprite.zipIdx do
    for column in List.range spriteWidth do
      drawing := stamp clip (left + column) (top + row) (spriteBit bits column) drawing
  return drawing

end InTurn

/-! Where offsets land. -/

section Landing

variable {size : Nat}

theorem land?_wrapped [NeZero size] (start : Int) (offset : Nat) :
    land? size false start offset = some (Fin.ofNat size ((start % size).toNat + offset)) := by
  have inside := Nat.mod_lt ((start % size).toNat + offset) (Nat.pos_of_neZero size)
  simp only [land?, Bool.false_eq_true, if_false, dif_pos inside]
  rfl

theorem land?_clipped [NeZero size] (start : Int) (offset : Nat) :
    land? size true start offset =
      if (start % size).toNat + offset < size then
        some (Fin.ofNat size ((start % size).toNat + offset))
      else none := by
  simp only [land?, if_true]
  split
  next inside =>
    congr 1
    exact Fin.ext (Nat.mod_eq_of_lt inside).symm
  next => rfl

/-- Offsets that land on one place are one offset: with clipping always, without
if they are shorter than the way around. -/
theorem land?_injective {clip : Bool} {start : Int} {first second : Nat} {place : Fin size}
    (short : clip = true ∨ (first < size ∧ second < size))
    (one : land? size clip start first = some place)
    (other : land? size clip start second = some place) : first = second := by
  have : NeZero size := ⟨Nat.ne_of_gt (Nat.lt_of_le_of_lt (Nat.zero_le _) place.isLt)⟩
  cases clip with
  | true =>
      rw [land?_clipped] at one other
      split at one
      next inside =>
        split at other
        next otherInside =>
          have same := congrArg Fin.val (Option.some.inj (one.trans other.symm))
          simp only [Fin.val_ofNat, Nat.mod_eq_of_lt inside, Nat.mod_eq_of_lt otherInside] at same
          exact Nat.add_left_cancel same
        next => cases other
      next => cases one
  | false =>
      obtain ⟨firstLt, secondLt⟩ := short.resolve_left (by simp)
      rw [land?_wrapped] at one other
      have same : (start % size).toNat + first ≡ (start % size).toNat + second [MOD size] :=
        congrArg Fin.val (Option.some.inj (one.trans other.symm))
      exact (Nat.ModEq.add_left_cancel' _ same).eq_of_lt_of_lt firstLt secondLt

end Landing

/-! The loop as a walk over the bits that land. -/

/-- A drawing after one more bit that lands. -/
def Hit.add (drawing : Screen width height × Bool) (hit : Hit width height) :
    Screen width height × Bool :=
  let lit := drawing.1.pixel hit.column hit.row
  if hit.bit then (drawing.1.put hit.column hit.row (!lit), drawing.2 || lit) else drawing

section Walk

variable [NeZero width] [NeZero height]

theorem stamp_eq (clip bit : Bool) (x y : Int) (column row : Nat)
    (drawing : Screen width height × Bool) :
    stamp clip ((x % width).toNat + column) ((y % height).toNat + row) bit drawing =
      match land? height clip y row with
      | none => drawing
      | some line =>
          match (land? width clip x column).map fun place => (⟨place, line, bit⟩ : Hit width height)
          with
          | none => drawing
          | some hit => hit.add drawing := by
  cases clip with
  | false =>
      rw [land?_wrapped, land?_wrapped]
      rfl
  | true =>
      rw [land?_clipped, land?_clipped]
      by_cases rowInside : (y % height).toNat + row < height
      · by_cases columnInside : (x % width).toNat + column < width
        · simp [stamp, Hit.add, rowInside, columnInside]
        · simp [stamp, rowInside, columnInside]
      · simp [stamp, rowInside]

theorem foldl_stamp_row (clip : Bool) (x y : Int) (bits : UInt8) (row : Nat)
    (drawing : Screen width height × Bool) :
    (List.range spriteWidth).foldl
        (fun drawing column =>
          stamp clip ((x % width).toNat + column) ((y % height).toNat + row)
            (spriteBit bits column) drawing)
        drawing =
      (rowHits clip x y bits row).foldl Hit.add drawing := by
  simp only [stamp_eq, rowHits]
  cases land? height clip y row with
  | none => exact List.foldl_fixed _
  | some line =>
      rw [List.foldl_filterMap]
      congr 1
      funext drawing column
      cases land? width clip x column <;> rfl

theorem drawInTurn_eq_foldl (screen : Screen width height) (clip : Bool) (x y : Int)
    (sprite : Sprite) :
    screen.drawInTurn clip x y sprite =
      (hits clip x y sprite).foldl Hit.add (screen, false) := by
  unfold drawInTurn
  simp only [List.forIn_pure_yield_eq_foldl, bind_pure, pure_bind, Id.run_pure,
    foldl_stamp_row, hits, List.foldl_flatMap]

end Walk

/-! Bits that do not meet. -/

/-- Two bits that land on two pixels. -/
def Hit.Apart (a b : Hit width height) : Prop :=
  ¬(a.column = b.column ∧ a.row = b.row)

theorem put_pixel (screen : Screen width height) (column : Fin width) (row : Fin height) :
    screen.put column row (screen.pixel column row) = screen := by
  apply ext_pixel
  intro place line
  rw [pixel_put]
  split
  next here => rw [here.1, here.2]
  next => rfl

/-- A bit that meets its pixel as the screen had it does there what it would do
to the screen. -/
theorem Hit.add_of_fresh {screen : Screen width height} {drawing : Screen width height × Bool}
    {hit : Hit width height}
    (fresh : drawing.1.pixel hit.column hit.row = screen.pixel hit.column hit.row) :
    hit.add drawing =
      (drawing.1.put hit.column hit.row (hit.flipped screen),
       drawing.2 || hit.collides screen) := by
  unfold Hit.add Hit.flipped Hit.collides
  rw [← fresh]
  cases hit.bit with
  | false => simp [put_pixel]
  | true => simp

/-- Bits that do not meet can be drawn in turn or all at once. -/
theorem foldl_add (screen : Screen width height) {landed : List (Hit width height)}
    (apart : landed.Pairwise Hit.Apart) (drawing : Screen width height × Bool)
    (fresh : ∀ hit ∈ landed,
      drawing.1.pixel hit.column hit.row = screen.pixel hit.column hit.row) :
    landed.foldl Hit.add drawing =
      (landed.foldl (fun drawn hit => drawn.put hit.column hit.row (hit.flipped screen))
         drawing.1,
       drawing.2 || landed.any (Hit.collides screen)) := by
  induction landed generalizing drawing with
  | nil => simp
  | cons hit rest ih =>
      obtain ⟨apartHere, apartRest⟩ := List.pairwise_cons.mp apart
      have added := Hit.add_of_fresh (fresh hit List.mem_cons_self)
      rw [List.foldl_cons, List.foldl_cons, added, ih apartRest, List.any_cons, Bool.or_assoc]
      -- The pixel just flipped is none of those still to come.
      intro later member
      have elsewhere : ¬(later.column = hit.column ∧ later.row = hit.row) := fun same =>
        apartHere later member ⟨same.1.symm, same.2.symm⟩
      rw [pixel_put, if_neg elsewhere]
      exact fresh later (List.mem_cons_of_mem hit member)

theorem row_of_mem_rowHits {clip : Bool} {x y : Int} {bits : UInt8} {offset : Nat}
    {hit : Hit width height} (member : hit ∈ rowHits clip x y bits offset) :
    land? height clip y offset = some hit.row := by
  unfold rowHits at member
  split at member
  next => cases member
  next line lands =>
    obtain ⟨column, _, made⟩ := List.mem_filterMap.mp member
    obtain ⟨place, _, rfl⟩ := Option.map_eq_some_iff.mp made
    exact lands

/-- No two bits of one row meet if the row is no longer than the screen is wide. -/
theorem pairwise_rowHits {clip : Bool} (fits : clip = true ∨ spriteWidth ≤ width) (x y : Int)
    (bits : UInt8) (offset : Nat) :
    (rowHits clip x y bits offset : List (Hit width height)).Pairwise Hit.Apart := by
  unfold rowHits
  split
  next => exact List.Pairwise.nil
  next line lands =>
    rw [List.pairwise_filterMap]
    refine List.pairwise_lt_range.imp_of_mem ?_
    intro first second firstIn secondIn before a firstLands b secondLands same
    obtain ⟨place, atPlace, rfl⟩ := Option.map_eq_some_iff.mp firstLands
    obtain ⟨other, atOther, rfl⟩ := Option.map_eq_some_iff.mp secondLands
    obtain rfl : place = other := same.1
    have short : clip = true ∨ (first < width ∧ second < width) := fits.imp_right fun wide =>
      ⟨(List.mem_range.mp firstIn).trans_le wide, (List.mem_range.mp secondIn).trans_le wide⟩
    exact before.ne (land?_injective short atPlace atOther)

/-- No two bits of a sprite meet if the sprite is no larger than the screen. -/
theorem pairwise_hits {clip : Bool} {sprite : Sprite}
    (fits : clip = true ∨ (sprite.length ≤ height ∧ spriteWidth ≤ width)) (x y : Int) :
    (hits clip x y sprite : List (Hit width height)).Pairwise Hit.Apart := by
  rw [hits, List.pairwise_flatMap]
  constructor
  · intro row _
    exact pairwise_rowHits (fits.imp_right And.right) x y row.1 row.2
  · have ordered : sprite.zipIdx.Pairwise fun first second => first.2 < second.2 := by
      rw [← List.pairwise_map (f := Prod.snd), List.zipIdx_map_snd]
      exact List.pairwise_lt_range'
    refine ordered.imp_of_mem ?_
    intro first second firstIn secondIn before a aIn b bIn same
    have atRow := row_of_mem_rowHits aIn
    have atOther := row_of_mem_rowHits bIn
    rw [← same.2] at atOther
    have short : clip = true ∨ (first.2 < height ∧ second.2 < height) := by
      refine fits.imp_right fun small => ?_
      have firstLt := (List.mem_zipIdx firstIn).2.1
      have secondLt := (List.mem_zipIdx secondIn).2.1
      omega
    exact before.ne (land?_injective short atRow atOther)

/-! Sprites that lie on the screen. -/

theorem land?_of_inside {size : Nat} (clip : Bool) {start : Int} {offset : Nat}
    (inside : (start % size).toNat + offset < size) :
    land? size clip start offset = some ⟨(start % size).toNat + offset, inside⟩ := by
  cases clip <;> simp [land?, inside, Nat.mod_eq_of_lt inside]

theorem hits_of_inside (clip other : Bool) {x y : Int} {sprite : Sprite}
    (columns : (x % width).toNat + spriteWidth ≤ width)
    (rows : (y % height).toNat + sprite.length ≤ height) :
    (hits clip x y sprite : List (Hit width height)) = hits other x y sprite := by
  unfold hits
  refine List.flatMap_congr fun row member => ?_
  have rowInside : (y % height).toNat + row.2 < height := by
    have := (List.mem_zipIdx member).2.1
    omega
  simp only [rowHits, land?_of_inside clip rowInside, land?_of_inside other rowInside]
  refine List.filterMap_congr fun column member => ?_
  have columnInside : (x % width).toNat + column < width := by
    have := List.mem_range.mp member
    omega
  rw [land?_of_inside clip columnInside, land?_of_inside other columnInside]

/-- Clipping makes no difference to a sprite that lies on the screen. -/
theorem draw_of_inside (screen : Screen width height) (clip other : Bool) {x y : Int}
    {sprite : Sprite} (columns : (x % width).toNat + spriteWidth ≤ width)
    (rows : (y % height).toNat + sprite.length ≤ height) :
    screen.draw clip x y sprite = screen.draw other x y sprite := by
  rw [draw, draw, hits_of_inside clip other columns rows]

/-- A sprite is drawn as if bit by bit: on every screen with a pixel, clipped or
else no larger than the screen. -/
theorem draw?_eq_drawInTurn [NeZero width] [NeZero height] (screen : Screen width height)
    (clip : Bool) (x y : Int) (sprite : Sprite)
    (fits : clip = true ∨ (sprite.length ≤ height ∧ 8 ≤ width)) :
    screen.draw? clip x y sprite = some (screen.drawInTurn clip x y sprite) := by
  have apart : (hits clip x y sprite : List (Hit width height)).Pairwise Hit.Apart :=
    pairwise_hits fits x y
  rw [draw?, if_pos ⟨Nat.pos_of_neZero width, Nat.pos_of_neZero height⟩, drawInTurn_eq_foldl,
    foldl_add screen apart (screen, false) (fun _ _ => rfl), Bool.false_or]
  rfl

/-- A screen with its top row lit but for the last pixel. -/
def topLit : Screen 9 3 := (blank.draw true 0 0 [0xFF]).1

theorem draw?_eq_drawInTurn_topLit :
    topLit.draw? false (-3) 2 [0x81, 0xFF] = some (topLit.drawInTurn false (-3) 2 [0x81, 0xFF]) ∧
      (topLit.drawInTurn false (-3) 2 [0x81, 0xFF]).2 = true ∧
      topLit.draw? true (-3) 2 [0x81, 0xFF] = some (topLit.drawInTurn true (-3) 2 [0x81, 0xFF]) ∧
      (topLit.drawInTurn true (-3) 2 [0x81, 0xFF]).2 = false := by
  refine ⟨?_, by decide, ?_, by decide⟩
  · exact draw?_eq_drawInTurn topLit false (-3) 2 [0x81, 0xFF] (.inr (by decide))
  · exact draw?_eq_drawInTurn topLit true (-3) 2 [0x81, 0xFF] (.inl rfl)

-- On a screen narrower than a sprite the bits do meet: in turn they put out what they lit.
example :
    (blank : Screen 4 1).draw false 0 0 [0xFF] ≠
      (blank : Screen 4 1).drawInTurn false 0 0 [0xFF] := by
  decide

end Chip8.Screen
