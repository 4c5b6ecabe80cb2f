import Mathlib.Algebra.BigOperators.Fin
import Mathlib.Data.Finset.SymmDiff
import Mathlib.Data.Fintype.Prod
import Chip8.Proofs.Masks

/-!
Collisions.  A sprite whose bits do not meet brings each of its set bits to a pixel of its
own, so its mask has as many pixels as the sprite has set bits that land.  The pixels that
the drawing leaves lit are those of the screen or of the mask but not of both: what the two
share goes out, and a collision says that there is something to go out.
-/

namespace Chip8.Screen

open scoped symmDiff

variable {width height : Nat}

/-! The lit pixels of a screen. -/

/-- The places of the lit pixels. -/
def lights (screen : Screen width height) : Finset (Fin width × Fin height) :=
  {place | screen.pixel place.1 place.2 = true}

theorem mem_lights {screen : Screen width height} {place : Fin width × Fin height} :
    place ∈ screen.lights ↔ screen.pixel place.1 place.2 = true := by
  simp [lights]

theorem count_true_eq_sum (list : List Bool) :
    list.count true = (list.map fun lit => if lit = true then 1 else 0).sum := by
  induction list with
  | nil => rfl
  | cons lit rest ih => cases lit <;> simp [ih, Nat.add_comm]

theorem sum_map_toList {α : Type} {size : Nat} (entries : Vector α size) (value : α → Nat) :
    (entries.toList.map value).sum = ∑ place : Fin size, value (entries.get place) := by
  have tabulated : Vector.ofFn entries.get = entries := Vector.ofFn_getElem
  conv_lhs => rw [← tabulated, Vector.toList_ofFn, List.map_ofFn, List.sum_ofFn]
  rfl

theorem lit_eq_card (screen : Screen width height) : screen.lit = screen.lights.card := by
  calc screen.lit
      = (screen.rows.toList.map fun line => line.toList.count true).sum := List.count_flatMap
    _ = ∑ row : Fin height, ∑ column : Fin width,
          if screen.pixel column row = true then 1 else 0 := by
        simp only [sum_map_toList, count_true_eq_sum]
        rfl
    _ = screen.lights.card := by
        rw [lights, Finset.card_filter, Fintype.sum_prod_type_right]

theorem lights_add (a b : Screen width height) : (a + b).lights = a.lights ∆ b.lights := by
  ext place
  simp only [Finset.mem_symmDiff, mem_lights, pixel_add]
  cases a.pixel place.1 place.2 <;> cases b.pixel place.1 place.2 <;> decide

/-- What two screens share is lit on both and dark on their sum. -/
theorem lit_add (a b : Screen width height) :
    (a + b).lit + 2 * (a.lights ∩ b.lights).card = a.lit + b.lit := by
  have apart : Disjoint (a.lights \ b.lights) (b.lights \ a.lights) := disjoint_sdiff_sdiff
  have one := Finset.card_sdiff_add_card_inter a.lights b.lights
  have other := Finset.card_sdiff_add_card_inter b.lights a.lights
  rw [Finset.inter_comm] at other
  rw [lit_eq_card, lit_eq_card, lit_eq_card, lights_add, Finset.symmDiff_def,
    Finset.card_union_of_disjoint apart]
  omega

/-! The bits of a sprite and where they land. -/

/-- The set bits of a sprite, each by its column and its row in the sprite. -/
def setBits (sprite : Sprite) : Finset (Nat × Nat) :=
  {bit ∈ Finset.range spriteWidth ×ˢ Finset.range sprite.length |
    ∃ row ∈ sprite[bit.2]?, spriteBit row bit.1 = true}

theorem mem_setBits {sprite : Sprite} {bit : Nat × Nat} :
    bit ∈ setBits sprite ↔
      bit.1 < spriteWidth ∧ ∃ row, sprite[bit.2]? = some row ∧ spriteBit row bit.1 = true := by
  simp only [setBits, Finset.mem_filter, Finset.mem_product, Finset.mem_range, Option.mem_def]
  constructor
  · rintro ⟨⟨column, _⟩, set⟩
    exact ⟨column, set⟩
  · rintro ⟨column, row, atRow, set⟩
    exact ⟨⟨column, (List.getElem?_eq_some_iff.mp atRow).1⟩, row, atRow, set⟩

/-- The set bits of a sprite that land on the screen: without clipping all of them, with
clipping those that come to lie before the right and the lower edge. -/
def landed (width height : Nat) (clip : Bool) (x y : Int) (sprite : Sprite) :
    Finset (Nat × Nat) :=
  {bit ∈ setBits sprite |
    clip = true → (x % width).toNat + bit.1 < width ∧ (y % height).toNat + bit.2 < height}

theorem mem_hits {clip : Bool} {x y : Int} {sprite : Sprite} {hit : Hit width height} :
    hit ∈ hits clip x y sprite ↔
      ∃ column row bits, column < spriteWidth ∧ sprite[row]? = some bits ∧
        land? width clip x column = some hit.column ∧
        land? height clip y row = some hit.row ∧ spriteBit bits column = hit.bit := by
  simp only [hits, List.mem_flatMap, Prod.exists, List.mem_zipIdx_iff_getElem?]
  constructor
  · rintro ⟨bits, row, atRow, member⟩
    have atLine := row_of_mem_rowHits member
    simp only [rowHits, atLine, List.mem_filterMap, List.mem_range,
      Option.map_eq_some_iff] at member
    obtain ⟨column, inside, place, atPlace, made⟩ := member
    rw [show place = hit.column from congrArg Hit.column made] at atPlace
    exact ⟨column, row, bits, inside, atRow, atPlace, atLine, congrArg Hit.bit made⟩
  · rintro ⟨column, row, bits, inside, atRow, atPlace, atLine, made⟩
    refine ⟨bits, row, atRow, ?_⟩
    simp only [rowHits, atLine, List.mem_filterMap, List.mem_range, Option.map_eq_some_iff]
    exact ⟨column, inside, hit.column, atPlace, by rw [made]⟩

/-! The mask of bits that do not meet. -/

theorem foldl_cover_of_elsewhere {place : Fin width × Fin height} {list : List (Hit width height)}
    (elsewhere : ∀ hit ∈ list, (hit.column, hit.row) ≠ place) (bit : Bool) :
    list.foldl (Hit.cover place.1 place.2) bit = bit := by
  induction list with
  | nil => rfl
  | cons hit rest ih =>
      have away : ¬(place.1 = hit.column ∧ place.2 = hit.row) := fun here =>
        elsewhere hit List.mem_cons_self (Prod.ext here.1.symm here.2.symm)
      rw [List.foldl_cons, Hit.cover, if_neg away]
      exact ih fun later member => elsewhere later (List.mem_cons_of_mem hit member)

/-- Where bits do not meet, a pixel is covered just if a set bit lands on it. -/
theorem foldl_cover_iff {list : List (Hit width height)} (apart : list.Pairwise Hit.Apart)
    (place : Fin width × Fin height) :
    list.foldl (Hit.cover place.1 place.2) false = true ↔
      ∃ hit ∈ list, (hit.column, hit.row) = place ∧ hit.bit = true := by
  induction list with
  | nil => simp
  | cons hit rest ih =>
      obtain ⟨apartHere, apartRest⟩ := List.pairwise_cons.mp apart
      simp only [List.foldl_cons, List.mem_cons, exists_eq_or_imp]
      rw [Hit.cover]
      by_cases here : (hit.column, hit.row) = place
      · subst here
        -- No later bit comes to this pixel again.
        have elsewhere : ∀ later ∈ rest, (later.column, later.row) ≠ (hit.column, hit.row) := by
          intro later member same
          obtain ⟨sameColumn, sameRow⟩ := Prod.mk.inj same
          exact apartHere later member ⟨sameColumn.symm, sameRow.symm⟩
        rw [if_pos ⟨rfl, rfl⟩, foldl_cover_of_elsewhere elsewhere]
        constructor
        · exact fun set => .inl ⟨rfl, set⟩
        · rintro (⟨_, set⟩ | ⟨later, member, same, _⟩)
          · exact set
          · exact absurd same (elsewhere later member)
      · have away : ¬(place.1 = hit.column ∧ place.2 = hit.row) := fun same =>
          here (Prod.ext same.1.symm same.2.symm)
        rw [if_neg away, ih apartRest]
        simp [here]

section Landing

variable [NeZero width] [NeZero height]

/-- The pixel that a bit of a sprite lands on. -/
def landing (x y : Int) (bit : Nat × Nat) : Fin width × Fin height :=
  (Fin.ofNat width ((x % width).toNat + bit.1), Fin.ofNat height ((y % height).toNat + bit.2))

/-- The set bits of a sprite that land on a lit pixel. -/
def met (screen : Screen width height) (clip : Bool) (x y : Int) (sprite : Sprite) :
    Finset (Nat × Nat) :=
  {bit ∈ landed width height clip x y sprite | landing x y bit ∈ screen.lights}

theorem land?_eq {size : Nat} [NeZero size] (clip : Bool) (start : Int) (offset : Nat) :
    land? size clip start offset =
      if clip = true → (start % size).toNat + offset < size then
        some (Fin.ofNat size ((start % size).toNat + offset))
      else none := by
  cases clip with
  | false => simp [land?_wrapped]
  | true => simp [land?_clipped]

/-- The set bits among those that a sprite brings to the screen. -/
theorem exists_hit_iff {clip : Bool} {x y : Int} {sprite : Sprite}
    {place : Fin width × Fin height} :
    (∃ hit ∈ hits clip x y sprite, (hit.column, hit.row) = place ∧ hit.bit = true) ↔
      ∃ bit ∈ landed width height clip x y sprite, landing x y bit = place := by
  simp only [mem_hits, landed, Finset.mem_filter, mem_setBits, land?_eq,
    Option.ite_none_right_eq_some, Option.some.injEq]
  constructor
  · rintro ⟨hit, ⟨column, row, bits, inside, atRow, ⟨withinColumns, atColumn⟩,
      ⟨withinRows, atLine⟩, made⟩, rfl, set⟩
    refine ⟨(column, row), ⟨⟨inside, bits, atRow, made.trans set⟩, ?_⟩,
      Prod.ext atColumn atLine⟩
    exact fun clipped => ⟨withinColumns clipped, withinRows clipped⟩
  · rintro ⟨⟨column, row⟩, ⟨⟨inside, bits, atRow, set⟩, within⟩, rfl⟩
    exact ⟨⟨_, _, true⟩, ⟨column, row, bits, inside, atRow,
      ⟨fun clipped => (within clipped).1, rfl⟩, ⟨fun clipped => (within clipped).2, rfl⟩, set⟩,
      rfl, rfl⟩

theorem draw?_of_neZero (screen : Screen width height) (clip : Bool) (x y : Int)
    (sprite : Sprite) : screen.draw? clip x y sprite = some (screen.draw clip x y sprite) :=
  if_pos ⟨Nat.pos_of_neZero width, Nat.pos_of_neZero height⟩

/-- A drawing collides just if a set bit lands on a lit pixel. -/
theorem draw_snd_iff (screen : Screen width height) (clip : Bool) (x y : Int) (sprite : Sprite) :
    (screen.draw clip x y sprite).2 = true ↔ (screen.met clip x y sprite).Nonempty := by
  simp only [draw, List.any_eq_true, Hit.collides, Bool.and_eq_true, Finset.Nonempty, met,
    Finset.mem_filter]
  constructor
  · rintro ⟨hit, member, lit, set⟩
    obtain ⟨bit, lands, here⟩ := exists_hit_iff.mp ⟨hit, member, rfl, set⟩
    exact ⟨bit, lands, mem_lights.mpr (here ▸ lit)⟩
  · rintro ⟨bit, lands, lit⟩
    obtain ⟨hit, member, here, set⟩ := exists_hit_iff.mpr ⟨bit, lands, rfl⟩
    rw [← here] at lit
    exact ⟨hit, member, mem_lights.mp lit, set⟩

theorem lands_of_mem_landed {clip : Bool} {x y : Int} {sprite : Sprite} {bit : Nat × Nat}
    (lands : bit ∈ landed width height clip x y sprite) :
    bit.1 < spriteWidth ∧ bit.2 < sprite.length ∧
      land? width clip x bit.1 = some (landing x y bit : Fin width × Fin height).1 ∧
      land? height clip y bit.2 = some (landing x y bit : Fin width × Fin height).2 := by
  obtain ⟨set, within⟩ := Finset.mem_filter.mp lands
  obtain ⟨inside, row, atRow, _⟩ := mem_setBits.mp set
  refine ⟨inside, (List.getElem?_eq_some_iff.mp atRow).1, ?_, ?_⟩
  · rw [land?_eq, if_pos fun clipped => (within clipped).1]
    rfl
  · rw [land?_eq, if_pos fun clipped => (within clipped).2]
    rfl

section Fitting

variable {clip : Bool} {sprite : Sprite}

theorem lights_mask (fits : clip = true ∨ (sprite.length ≤ height ∧ spriteWidth ≤ width))
    (x y : Int) :
    (mask clip x y sprite : Screen width height).lights =
      (landed width height clip x y sprite).image (landing x y) := by
  ext place
  rw [mem_lights, mask, pixel_ofPixels, foldl_cover_iff (pairwise_hits fits x y),
    exists_hit_iff, Finset.mem_image]

/-- No two set bits land on one pixel. -/
theorem landing_injOn (fits : clip = true ∨ (sprite.length ≤ height ∧ spriteWidth ≤ width))
    (x y : Int) :
    Set.InjOn (landing x y : Nat × Nat → Fin width × Fin height)
      (landed width height clip x y sprite) := by
  intro bit lands other otherLands same
  obtain ⟨inside, rowInside, atPlace⟩ := lands_of_mem_landed lands
  obtain ⟨otherInside, otherRowInside, atOther⟩ := lands_of_mem_landed otherLands
  rw [← same] at atOther
  refine Prod.ext (land?_injective ?_ atPlace.1 atOther.1) (land?_injective ?_ atPlace.2 atOther.2)
  · exact fits.imp_right fun small => ⟨inside.trans_le small.2, otherInside.trans_le small.2⟩
  · exact fits.imp_right fun small => ⟨rowInside.trans_le small.1, otherRowInside.trans_le small.1⟩

/-- The pixels that the screen and the mask share are those that set bits meet. -/
theorem card_lights_inter_mask
    (fits : clip = true ∨ (sprite.length ≤ height ∧ spriteWidth ≤ width))
    (screen : Screen width height) (x y : Int) :
    (screen.lights ∩ (mask clip x y sprite).lights).card = (screen.met clip x y sprite).card := by
  have shared : screen.lights ∩ (mask clip x y sprite).lights =
      (screen.met clip x y sprite).image (landing x y) := by
    rw [lights_mask fits, Finset.inter_comm, ← Finset.filter_mem_eq_inter, Finset.filter_image, met]
  rw [shared]
  apply Finset.card_image_of_injOn
  exact (landing_injOn fits x y).mono (Finset.coe_subset.mpr (Finset.filter_subset _ _))

/-- A pixel goes out just where the screen and the mask share it. -/
theorem exists_extinguished_iff
    (fits : clip = true ∨ (sprite.length ≤ height ∧ spriteWidth ≤ width))
    (screen : Screen width height) (x y : Int) :
    (∃ column row, screen.pixel column row = true ∧
        (screen.draw clip x y sprite).1.pixel column row = false) ↔
      0 < (screen.met clip x y sprite).card := by
  rw [← card_lights_inter_mask fits, Finset.card_pos]
  simp only [Finset.Nonempty, Finset.mem_inter, mem_lights, Prod.exists]
  refine exists_congr fun column => exists_congr fun row => and_congr_right fun lit => ?_
  rw [draw_fst, pixel_add, lit]
  cases (mask clip x y sprite : Screen width height).pixel column row <;> decide

end Fitting

/-- A drawing of a sprite whose bits do not meet lights a pixel for each set bit that lands,
but puts one out for each of them that meets a lit pixel; it tells of a collision just if
there is such a bit, and just if some pixel has gone out. -/
theorem draw?_balance (screen : Screen width height) (clip : Bool) (x y : Int) (sprite : Sprite)
    (fits : clip = true ∨ (sprite.length ≤ height ∧ 8 ≤ width)) :
    ∃ drawn collision, screen.draw? clip x y sprite = some (drawn, collision) ∧
      (clip = false → landed width height clip x y sprite = setBits sprite) ∧
      (drawn.lit : Int) = screen.lit + (landed width height clip x y sprite).card -
        2 * (screen.met clip x y sprite).card ∧
      (collision = true ↔ 0 < (screen.met clip x y sprite).card) ∧
      (0 < (screen.met clip x y sprite).card ↔
        ∃ column row, screen.pixel column row = true ∧ drawn.pixel column row = false) := by
  refine ⟨(screen.draw clip x y sprite).1, (screen.draw clip x y sprite).2,
    draw?_of_neZero screen clip x y sprite, ?_, ?_, ?_,
    (exists_extinguished_iff fits screen x y).symm⟩
  · rintro rfl
    simp [landed]
  · have balance := lit_add screen (mask clip x y sprite)
    rw [card_lights_inter_mask fits, lit_eq_card (mask clip x y sprite), lights_mask fits,
      Finset.card_image_of_injOn (landing_injOn fits x y)] at balance
    rw [draw_fst]
    omega
  · rw [draw_snd_iff, Finset.card_pos]

/-- Ten set bits wrap around two edges, and seven of them fall on the eight lit pixels. -/
theorem draw?_balance_topLit :
    ∃ drawn, topLit.draw? false (-3) 2 [0x81, 0xFF] = some (drawn, true) ∧
      topLit.lit = 8 ∧ (landed 9 3 false (-3) 2 [0x81, 0xFF]).card = 10 ∧
      (topLit.met false (-3) 2 [0x81, 0xFF]).card = 7 ∧ drawn.lit = 4 := by
  have fits : false = true ∨ ([0x81, 0xFF] : Sprite).length ≤ 3 ∧ 8 ≤ 9 := .inr (by decide)
  obtain ⟨drawn, collision, draws, _, balance, collides, _⟩ :=
    draw?_balance topLit false (-3) 2 [0x81, 0xFF] fits
  have lit : topLit.lit = 8 := by decide
  have set : (landed 9 3 false (-3) 2 [0x81, 0xFF]).card = 10 := by decide
  have shared : (topLit.met false (-3) 2 [0x81, 0xFF]).card = 7 := by decide
  obtain rfl : collision = true := collides.mpr (by omega)
  exact ⟨drawn, draws, lit, set, shared, by omega⟩

end Landing

end Chip8.Screen
