import Mathlib.Algebra.BigOperators.Group.Finset.Basic
import Mathlib.Algebra.Group.Nat.Even
import Chip8.Proofs.Drawing

/-!
Drawing is addition.  Two screens are added by lighting the pixels that are lit on just
one of them, so that every screen is its own negative.  A sprite adds a mask to the
screen it is drawn on, and the screen has no part in the mask, also where several bits
of the sprite meet on one pixel.  So drawings can be made in any order, and a drawing
that is made twice leaves no trace.
-/

namespace Chip8.Screen

variable {width height : Nat}

/-! Screens are added pixel by pixel. -/

def ofPixels (lit : Fin width → Fin height → Bool) : Screen width height :=
  ⟨Vector.ofFn fun row => Vector.ofFn fun column => lit column row⟩

@[simp] theorem pixel_ofPixels (lit : Fin width → Fin height → Bool) (column : Fin width)
    (row : Fin height) : (ofPixels lit).pixel column row = lit column row := by
  simp [ofPixels, pixel]

/-- The sum of two screens has the pixels that are lit on just one of them. -/
instance : Add (Screen width height) :=
  ⟨fun a b => ofPixels fun column row => a.pixel column row ^^ b.pixel column row⟩

instance : Zero (Screen width height) := ⟨blank⟩

theorem pixel_add (a b : Screen width height) (column : Fin width) (row : Fin height) :
    (a + b).pixel column row = (a.pixel column row ^^ b.pixel column row) :=
  pixel_ofPixels _ column row

theorem pixel_zero (column : Fin width) (row : Fin height) :
    (0 : Screen width height).pixel column row = false :=
  pixel_blank column row

instance : AddCommMonoid (Screen width height) where
  add_assoc a b c := ext_pixel fun column row => by simp only [pixel_add, Bool.xor_assoc]
  add_comm a b := ext_pixel fun column row => by rw [pixel_add, pixel_add, Bool.xor_comm]
  zero_add a := ext_pixel fun column row => by rw [pixel_add, pixel_zero, Bool.false_xor]
  add_zero a := ext_pixel fun column row => by rw [pixel_add, pixel_zero, Bool.xor_false]
  nsmul := nsmulRec

theorem add_self (screen : Screen width height) : screen + screen = 0 := by
  apply ext_pixel
  intro column row
  rw [pixel_add, Bool.xor_self, pixel_zero]

theorem nsmul_of_even {count : Nat} (even : Even count) (screen : Screen width height) :
    count • screen = 0 := by
  obtain ⟨half, rfl⟩ := even
  rw [add_nsmul, add_self]

/-- Terms that all come an even number of times cancel. -/
theorem sum_of_even {α : Type} [DecidableEq α] (term : α → Screen width height) {list : List α}
    (even : ∀ a ∈ list, Even (list.count a)) : (list.map term).sum = 0 := by
  rw [Finset.sum_list_map_count]
  apply Finset.sum_eq_zero
  intro a member
  exact nsmul_of_even (even a (List.mem_toFinset.mp member)) (term a)

/-! What a sprite adds. -/

/-- The bit on a pixel after one more has landed. -/
def Hit.cover (column : Fin width) (row : Fin height) (bit : Bool) (hit : Hit width height) :
    Bool :=
  if column = hit.column ∧ row = hit.row then hit.bit else bit

/-- The pixels that a sprite flips: those where the last bit to land is set. -/
def mask (clip : Bool) (x y : Int) (sprite : Sprite) : Screen width height :=
  ofPixels fun column row => (hits clip x y sprite).foldl (Hit.cover column row) false

/-- Bits that land one over another still flip the pixel as it was, so a pixel is at every
time what it was and the bit that landed last. -/
theorem pixel_foldl_put (screen drawn : Screen width height) (column : Fin width)
    (row : Fin height) (bit : Bool)
    (here : drawn.pixel column row = (screen.pixel column row ^^ bit))
    (landed : List (Hit width height)) :
    (landed.foldl (fun drawn hit => drawn.put hit.column hit.row (hit.flipped screen))
        drawn).pixel column row =
      (screen.pixel column row ^^ landed.foldl (Hit.cover column row) bit) := by
  induction landed generalizing drawn bit with
  | nil => exact here
  | cons hit rest ih =>
      rw [List.foldl_cons, List.foldl_cons]
      apply ih
      rw [pixel_put, Hit.cover]
      split
      next on =>
        rw [on.1, on.2]
        rfl
      next => exact here

theorem draw_fst (screen : Screen width height) (clip : Bool) (x y : Int) (sprite : Sprite) :
    (screen.draw clip x y sprite).1 = screen + mask clip x y sprite := by
  apply ext_pixel
  intro column row
  rw [pixel_add, mask, pixel_ofPixels]
  exact pixel_foldl_put screen screen column row false (Bool.xor_false _).symm _

/-! Drawing time after time. -/

/-- One drawing: what is drawn, where, and whether it is clipped. -/
structure Stroke where
  clip : Bool
  x : Int
  y : Int
  sprite : Sprite
deriving DecidableEq, Repr

namespace Stroke

def draw? (screen : Screen width height) (stroke : Stroke) : Option (Screen width height) :=
  (screen.draw? stroke.clip stroke.x stroke.y stroke.sprite).map Prod.fst

def mask (stroke : Stroke) : Screen width height :=
  Screen.mask stroke.clip stroke.x stroke.y stroke.sprite

theorem draw?_eq [NeZero width] [NeZero height] (screen : Screen width height) (stroke : Stroke) :
    stroke.draw? screen = some (screen + stroke.mask) := by
  rw [draw?, Screen.draw?, if_pos ⟨Nat.pos_of_neZero width, Nat.pos_of_neZero height⟩,
    Option.map_some, draw_fst, mask]

end Stroke

/-- The screen after drawings made one after another. -/
def drawAll? (screen : Screen width height) (strokes : List Stroke) :
    Option (Screen width height) :=
  strokes.foldlM Stroke.draw? screen

variable [NeZero width] [NeZero height]

theorem drawAll?_eq (screen : Screen width height) (strokes : List Stroke) :
    screen.drawAll? strokes = some (screen + (strokes.map Stroke.mask).sum) := by
  unfold drawAll?
  induction strokes generalizing screen with
  | nil => exact congrArg some (add_zero screen).symm
  | cons stroke rest ih =>
      rw [List.foldlM_cons, Stroke.draw?_eq, Option.bind_eq_bind, Option.bind_some, ih,
        List.map_cons, List.sum_cons, add_assoc]

/-- Drawings of any sprites, at any places, clipped or not, add the sum of their masks to
a screen of any size.  So it does not matter in which order they are made, and if each
of them is made an even number of times the screen is as it was. -/
theorem drawAll?_masks (screen : Screen width height) (strokes : List Stroke) :
    screen.drawAll? strokes = some (screen + (strokes.map Stroke.mask).sum) ∧
      (∀ others, strokes.Perm others → screen.drawAll? others = screen.drawAll? strokes) ∧
      ((∀ stroke ∈ strokes, Even (strokes.count stroke)) →
        screen.drawAll? strokes = some screen) := by
  refine ⟨drawAll?_eq screen strokes, ?_, ?_⟩
  · intro others permuted
    rw [drawAll?_eq, drawAll?_eq, (permuted.map Stroke.mask).sum_eq]
  · intro even
    rw [drawAll?_eq, sum_of_even Stroke.mask even, add_zero]

/-- Two drawings whose bits meet on a screen of four pixels, which the one overlaps at
its sides and below. -/
def overlapping : List Stroke := [⟨false, -3, 7, [0xF1, 0x0F, 0xA5]⟩, ⟨true, 2, 0, [0xC0]⟩]

theorem drawAll?_masks_overlapping :
    (∀ stroke ∈ overlapping ++ overlapping,
      Even ((overlapping ++ overlapping).count stroke)) ∧
    (blank : Screen 4 1).drawAll? overlapping ≠ some blank ∧
    (blank : Screen 4 1).drawAll? overlapping.reverse = (blank : Screen 4 1).drawAll? overlapping ∧
    (blank : Screen 4 1).drawAll? (overlapping ++ overlapping) = some blank := by
  have even : ∀ stroke ∈ overlapping ++ overlapping,
      Even ((overlapping ++ overlapping).count stroke) := by decide
  have permuted : overlapping.Perm overlapping.reverse := (List.reverse_perm _).symm
  refine ⟨even, by decide, ?_, ?_⟩
  · exact (drawAll?_masks blank overlapping).2.1 _ permuted
  · exact (drawAll?_masks blank (overlapping ++ overlapping)).2.2 even

end Chip8.Screen
