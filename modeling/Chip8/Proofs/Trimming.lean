import Chip8.Proofs.Collisions

/-!
Trimming.  A sprite drawn with clipping loses what lies past the right and the lower edge.
The same can be had by cutting those bits off beforehand: what is left no longer reaches an
edge, so nothing of it wraps around.
-/

namespace Chip8.Screen

variable {width height : Nat}

/-- The leftmost bits of a sprite row, with the others cleared. -/
def leftmost (count : Nat) (row : UInt8) : UInt8 :=
  UInt8.ofNat (row.toNat / 2 ^ (spriteWidth - count) * 2 ^ (spriteWidth - count))

theorem spriteBit_leftmost (count : Nat) (row : UInt8) {column : Nat}
    (inside : column < spriteWidth) :
    spriteBit (leftmost count row) column = (decide (column < count) && spriteBit row column) := by
  have small : row.toNat / 2 ^ (spriteWidth - count) * 2 ^ (spriteWidth - count) < 2 ^ 8 :=
    (Nat.div_mul_le_self _ _).trans_lt row.toNat_lt
  have kept : spriteWidth - count ≤ spriteWidth - 1 - column ↔ column < count := by omega
  simp only [spriteBit, leftmost, UInt8.toNat_ofNat', Nat.mod_eq_of_lt small,
    Nat.testBit_mul_two_pow, Nat.testBit_div_two_pow, kept]
  by_cases before : column < count
  · rw [Nat.sub_add_cancel (kept.mpr before)]
  · simp [before]

/-- The part of a sprite that comes to lie before the right and the lower edge. -/
def trim (width height : Nat) (x y : Int) (sprite : Sprite) : Sprite :=
  (sprite.take (min sprite.length (height - (y % height).toNat))).map
    (leftmost (min spriteWidth (width - (x % width).toNat)))

theorem length_trim_le (x y : Int) (sprite : Sprite) :
    (trim width height x y sprite).length ≤ height := by
  simp only [trim, List.length_map, List.length_take]
  omega

/-- Of the trimmed sprite the bits land that clipping leaves of the whole one. -/
theorem landed_trim (x y : Int) (sprite : Sprite) :
    landed width height false x y (trim width height x y sprite) =
      landed width height true x y sprite := by
  ext ⟨column, row⟩
  simp only [landed, Finset.mem_filter, mem_setBits, trim, List.getElem?_map, List.getElem?_take,
    Option.map_eq_some_iff, Bool.false_eq_true, false_imp_iff, true_imp_iff, and_true]
  constructor
  · rintro ⟨inside, _, ⟨bits, atRow, rfl⟩, set⟩
    rw [spriteBit_leftmost _ _ inside, Bool.and_eq_true, decide_eq_true_eq] at set
    obtain ⟨rowInside, atRow⟩ := Option.ite_none_right_eq_some.mp atRow
    exact ⟨⟨inside, bits, atRow, set.2⟩, by omega, by omega⟩
  · rintro ⟨⟨inside, bits, atRow, set⟩, columnInside, rowInside⟩
    have withinSprite := (List.getElem?_eq_some_iff.mp atRow).1
    refine ⟨inside, _, ⟨bits, by rw [if_pos (by omega), atRow], rfl⟩, ?_⟩
    rw [spriteBit_leftmost _ _ inside, set, Bool.and_true, decide_eq_true_eq]
    omega

theorem ext_lights {a b : Screen width height} (same : a.lights = b.lights) : a = b := by
  apply ext_pixel
  intro column row
  have place := Finset.ext_iff.mp same (column, row)
  rw [mem_lights, mem_lights] at place
  exact Bool.eq_iff_iff.mpr place

/-- Drawings whose bits do not meet are known by the set bits that land. -/
theorem draw_eq_of_landed [NeZero width] [NeZero height] (screen : Screen width height) {x y : Int}
    {clip otherClip : Bool} {sprite other : Sprite}
    (fits : clip = true ∨ (sprite.length ≤ height ∧ spriteWidth ≤ width))
    (otherFits : otherClip = true ∨ (other.length ≤ height ∧ spriteWidth ≤ width))
    (same : landed width height clip x y sprite = landed width height otherClip x y other) :
    screen.draw clip x y sprite = screen.draw otherClip x y other := by
  apply Prod.ext
  · have masks : (mask clip x y sprite : Screen width height) = mask otherClip x y other := by
      apply ext_lights
      rw [lights_mask fits, lights_mask otherFits, same]
    rw [draw_fst, draw_fst, masks]
  · rw [Bool.eq_iff_iff, draw_snd_iff, draw_snd_iff, met, met, same]

/-- Drawing with clipping is drawing the trimmed sprite without, for sprites of any height on
every screen that is as wide as a sprite.  So clipping makes no difference to a sprite that
lies on the screen. -/
theorem draw?_trim [NeZero height] (screen : Screen width height) (x y : Int) (sprite : Sprite)
    (wide : 8 ≤ width) :
    (∃ drawn, screen.draw? true x y sprite = some drawn ∧
      screen.draw? false x y (trim width height x y sprite) = some drawn) ∧
    ((x % width).toNat + 8 ≤ width → (y % height).toNat + sprite.length ≤ height →
      screen.draw? true x y sprite = screen.draw? false x y sprite) := by
  have : NeZero width := ⟨by omega⟩
  simp only [draw?_of_neZero]
  constructor
  · refine ⟨_, rfl, congrArg some ?_⟩
    exact draw_eq_of_landed screen (.inr ⟨length_trim_le x y sprite, wide⟩) (.inl rfl)
      (landed_trim x y sprite)
  · intro columns rows
    exact congrArg some (draw_of_inside screen true false columns rows)

/-- Of two rows one is left, and of that the three bits that the screen has room for. -/
theorem draw?_trim_topLit :
    8 ≤ 9 ∧ trim 9 3 (-3) 2 [0xBF, 0x81] = [0xA0] ∧
      topLit.draw? true (-3) 2 [0xBF, 0x81] = topLit.draw? false (-3) 2 [0xA0] ∧
      topLit.draw? true 1 0 [0xBF, 0x81] = topLit.draw? false 1 0 [0xBF, 0x81] := by
  have wide : 8 ≤ 9 := by decide
  have trimmed : trim 9 3 (-3) 2 [0xBF, 0x81] = [0xA0] := by decide
  obtain ⟨drawn, clipped, wrapped⟩ := (draw?_trim topLit (-3) 2 [0xBF, 0x81] wide).1
  rw [trimmed] at wrapped
  exact ⟨wide, trimmed, clipped.trans wrapped.symm,
    (draw?_trim topLit 1 0 [0xBF, 0x81] wide).2 (by decide) (by decide)⟩

-- A sprite taller than the screen wraps onto itself, and its last row decides.
example :
    (blank : Screen 8 1).draw true 0 0 [0xFF, 0x00] ≠
      (blank : Screen 8 1).draw false 0 0 [0xFF, 0x00] := by
  decide

end Chip8.Screen
