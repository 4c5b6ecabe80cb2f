import Chip8.Proofs.Choices

/-!
Which documents are accepted as settings, and what they mean.  `Settings.Acceptable`
says what every member must be like, and `Settings.Means` what the settings are then: of
each the value given, and where none is given the standard one.  A document is accepted
just if it is acceptable, and in which order it names its members does not matter.
-/

namespace Chip8

open Json (member? Distinct)

theorem Color.name_injective {a b : Color}
    (same : Points.ofString a.name = Points.ofString b.name) : a = b := by
  cases a <;> cases b <;> first | rfl | exact absurd same (by decide)

namespace Settings

/-- A number is the one given, or else it stays as it is. -/
def NumberTaken : Option Json.Value → Nat → Nat → Prop
  | none, kept, number => number = kept
  | some value, _, number => value = .integer number

/-- A colour is the one named, or else it stays as it is. -/
def ColorTaken : Option Json.Value → Color → Color → Prop
  | none, kept, color => color = kept
  | some value, _, color => value = .text color.name

/-- What is accepted as settings: members with the names of settings, whole numbers above
zero, the name of a colour and a dialect. -/
structure Acceptable (members : List (Points × Json.Value)) : Prop where
  known : NamesKnown members ["clock_hz", "timer_hz", "input_hz", "scale", "color", "quirks"]
  number : ∀ name ∈ ["clock_hz", "timer_hz", "input_hz", "scale"], ∀ value,
    member? (.ofString name) members = some value →
      ∃ number : Int, value = .integer number ∧ 0 < number
  color : ∀ value, member? "color" members = some value →
    ∃ name ∈ ["green", "amber", "white", "blue"], value = .text (.ofString name)
  dialect : ∀ value, member? "quirks" members = some value → Dialect.Acceptable value

structure Means (members : List (Points × Json.Value)) (settings : Settings) : Prop where
  clockHz : NumberTaken (member? "clock_hz" members) 500 settings.clockHz.val
  timerHz : NumberTaken (member? "timer_hz" members) 60 settings.timerHz.val
  inputHz : NumberTaken (member? "input_hz" members) 60 settings.inputHz.val
  scale : NumberTaken (member? "scale" members) 12 settings.scale.val
  color : ColorTaken (member? "color" members) .green settings.color
  dialect : Dialect.Means (member? "quirks" members) settings.dialect

theorem NumberTaken.unique {given? : Option Json.Value} {kept : Nat} {a b : Positive}
    (first : NumberTaken given? kept a.val) (second : NumberTaken given? kept b.val) : a = b := by
  apply Subtype.ext
  cases given? with
  | none => exact first.trans second.symm
  | some value => exact Int.ofNat_inj.mp (Json.Value.integer.inj (first.symm.trans second))

theorem ColorTaken.unique {given? : Option Json.Value} {kept a b : Color}
    (first : ColorTaken given? kept a) (second : ColorTaken given? kept b) : a = b := by
  cases given? with
  | none => exact first.trans second.symm
  | some value => exact Color.name_injective (Json.Value.text.inj (first.symm.trans second))

theorem Means.unique {members : List (Points × Json.Value)} {a b : Settings}
    (first : Means members a) (second : Means members b) : a = b := by
  obtain ⟨_, _, _, _, _, _⟩ := a
  obtain ⟨_, _, _, _, _, _⟩ := b
  obtain rfl := first.clockHz.unique second.clockHz
  obtain rfl := first.timerHz.unique second.timerHz
  obtain rfl := first.inputHz.unique second.inputHz
  obtain rfl := first.scale.unique second.scale
  obtain rfl := first.color.unique second.color
  obtain rfl := first.dialect.unique second.dialect
  rfl

/-! One setting at a time. -/

theorem number_eq_ok_iff {name : String} {kept number : Positive} {change : Option Json.Value} :
    Settings.number name kept change = .ok number ↔ NumberTaken change kept.val number.val := by
  cases change with
  | none =>
      rw [Settings.number, Except.ok.injEq, NumberTaken, Subtype.ext_iff]
      exact eq_comm
  | some value =>
      cases value with
      | integer value =>
          have positive := number.property
          simp only [Settings.number, NumberTaken, Json.Value.integer.injEq]
          split
          · rw [Except.ok.injEq, Subtype.ext_iff]
            dsimp only
            omega
          · refine iff_of_false (by simp) ?_
            omega
      | _ => exact iff_of_false (by simp [Settings.number]) (by simp [NumberTaken])

theorem exists_numberTaken {change : Option Json.Value} (kept : Positive)
    (good : ∀ value, change = some value → ∃ number : Int, value = .integer number ∧ 0 < number) :
    ∃ number : Positive, NumberTaken change kept.val number.val := by
  cases change with
  | none => exact ⟨kept, rfl⟩
  | some value =>
      obtain ⟨number, rfl, positive⟩ := good value rfl
      exact ⟨⟨number.toNat, by omega⟩, congrArg Json.Value.integer (by dsimp only; omega)⟩

theorem NumberTaken.good {change : Option Json.Value} {kept : Nat} {number : Positive}
    (taken : NumberTaken change kept number.val) (value : Json.Value)
    (given : change = some value) : ∃ number : Int, value = .integer number ∧ 0 < number := by
  subst given
  exact ⟨number.val, taken, Int.natCast_pos.mpr number.property⟩

theorem exists_colorTaken {change : Option Json.Value} (kept : Color)
    (good : ∀ value, change = some value →
      ∃ name ∈ ["green", "amber", "white", "blue"], value = .text (.ofString name)) :
    ∃ color, ColorTaken change kept color := by
  cases change with
  | none => exact ⟨kept, rfl⟩
  | some value =>
      obtain ⟨name, known, rfl⟩ := good value rfl
      simp only [List.mem_cons, List.not_mem_nil, or_false] at known
      rcases known with rfl | rfl | rfl | rfl
      · exact ⟨.green, rfl⟩
      · exact ⟨.amber, rfl⟩
      · exact ⟨.white, rfl⟩
      · exact ⟨.blue, rfl⟩

theorem ColorTaken.good {change : Option Json.Value} {kept color : Color}
    (taken : ColorTaken change kept color) (value : Json.Value) (given : change = some value) :
    ∃ name ∈ ["green", "amber", "white", "blue"], value = .text (.ofString name) := by
  subst given
  refine ⟨color.name, ?_, taken⟩
  cases color <;> simp [Color.name]

theorem colorAfter_eq_ok_iff {kept color : Color} {change : Option Json.Value} :
    colorAfter kept change = .ok color ↔ ColorTaken change kept color := by
  cases change with
  | none =>
      rw [colorAfter, Except.ok.injEq]
      exact eq_comm
  | some value =>
      cases value with
      | text name =>
          simp only [colorAfter, ColorTaken, Json.Value.text.injEq]
          split
          next found here =>
            have same : Points.ofString found.name = name := by simpa using List.find?_some here
            rw [Except.ok.injEq]
            constructor
            · rintro rfl
              exact same.symm
            · intro named
              exact Color.name_injective (same.trans named)
          next missing =>
            refine iff_of_false (by simp) fun named => ?_
            have here : color ∈ Color.all := by cases color <;> decide
            exact List.find?_eq_none.mp missing color here (beq_iff_eq.mpr named.symm)
      | _ => exact iff_of_false (by simp [colorAfter]) (by simp [ColorTaken])

/-- What comes of a change: every setting is the one asked for, or else the one it was. -/
theorem override_eq_ok_iff {settings changed : Settings} {changes : Changes} :
    settings.override changes = .ok changed ↔
      NumberTaken changes.clockHz settings.clockHz.val changed.clockHz.val ∧
      NumberTaken changes.timerHz settings.timerHz.val changed.timerHz.val ∧
      NumberTaken changes.inputHz settings.inputHz.val changed.inputHz.val ∧
      NumberTaken changes.scale settings.scale.val changed.scale.val ∧
      ColorTaken changes.color settings.color changed.color ∧
      changed.dialect = changes.dialect.getD settings.dialect := by
  unfold override
  simp only [bind_eq_ok_iff, number_eq_ok_iff, colorAfter_eq_ok_iff]
  constructor
  · rintro ⟨clockHz, clock, timerHz, timer, inputHz, input, scale, scaled, color, colored, ends⟩
    obtain rfl := Except.ok.inj ends
    exact ⟨clock, timer, input, scaled, colored, rfl⟩
  · rintro ⟨clock, timer, input, scaled, colored, same⟩
    exact ⟨_, clock, _, timer, _, input, _, scaled, _, colored, by rw [← same]; rfl⟩

/-! The whole document. -/

theorem ofEntries_eq_ok_iff {members : List (Points × Json.Value)} {settings : Settings} :
    ofEntries ⟨members, false⟩ = .ok settings ↔
      NamesKnown members names ∧
        ∃ dialect, Dialect.ofSetting? (member? "quirks" members) = .ok dialect ∧
          standard.override (changesOf members (some dialect)) = .ok settings := by
  have unfolded : ofEntries ⟨members, false⟩ = (do
      checkNames ⟨members, false⟩ names .unknownKeys
      let dialect ← Dialect.ofSetting? (member? "quirks" members)
      standard.override (changesOf members (some dialect))) := by
    unfold ofEntries
    dsimp only
    cases member? "quirks" members <;> rfl
  rw [unfolded, bind_eq_ok_iff]
  simp only [bind_eq_ok_iff]
  constructor
  · rintro ⟨⟨⟩, passes, rest⟩
    exact ⟨checkNames_eq_ok_iff.mp passes, rest⟩
  · rintro ⟨known, rest⟩
    exact ⟨(), checkNames_eq_ok_iff.mpr known, rest⟩

theorem of_ofEntries {members : List (Points × Json.Value)} {settings : Settings}
    (inside : ∀ member ∈ members, member.2.Unambiguous)
    (reads : ofEntries ⟨members, false⟩ = .ok settings) :
    Acceptable members ∧ Means members settings := by
  obtain ⟨known, dialect, chosen, changed⟩ := ofEntries_eq_ok_iff.mp reads
  obtain ⟨clock, timer, input, scale, color, rfl⟩ := override_eq_ok_iff.mp changed
  obtain ⟨acceptable, means⟩ :=
    Dialect.of_ofSetting? (fun value given => inside _ (Json.mem_of_member? given)) chosen
  refine ⟨⟨known, ?_, color.good, acceptable⟩, ⟨clock, timer, input, scale, color, means⟩⟩
  · simp only [List.forall_mem_cons, List.not_mem_nil, false_imp_iff, implies_true, and_true]
    exact ⟨clock.good, timer.good, input.good, scale.good⟩

theorem exists_ofEntries {members : List (Points × Json.Value)} (acceptable : Acceptable members) :
    ∃ settings, ofEntries ⟨members, false⟩ = .ok settings := by
  obtain ⟨known, number, color, dialect⟩ := acceptable
  simp only [List.forall_mem_cons, List.not_mem_nil, false_imp_iff, implies_true, and_true]
    at number
  obtain ⟨clock, timer, input, scale⟩ := number
  obtain ⟨clockHz, clock⟩ := exists_numberTaken standard.clockHz clock
  obtain ⟨timerHz, timer⟩ := exists_numberTaken standard.timerHz timer
  obtain ⟨inputHz, input⟩ := exists_numberTaken standard.inputHz input
  obtain ⟨scaled, scale⟩ := exists_numberTaken standard.scale scale
  obtain ⟨chosen, colored⟩ := exists_colorTaken standard.color color
  obtain ⟨spoken, reads⟩ := Dialect.exists_ofSetting? dialect
  exact ⟨⟨clockHz, timerHz, inputHz, scaled, chosen, spoken⟩, ofEntries_eq_ok_iff.mpr
    ⟨known, spoken, reads, override_eq_ok_iff.mpr ⟨clock, timer, input, scale, colored, rfl⟩⟩⟩

/-! The order of the members. -/

section Reordered

variable {first second : Option Json.Value}

theorem eq_or_objects_of_rel (same : Option.Rel Json.Value.Reordered first second) :
    first = second ∨ ∃ members others,
      first = some (.object members) ∧ second = some (.object others) ∧ members.Perm others := by
  cases same with
  | none => exact .inl rfl
  | some alike =>
      rcases alike with rfl | ⟨members, others, rfl, rfl, reordered⟩
      · exact .inl rfl
      · exact .inr ⟨members, others, rfl, rfl, reordered⟩

theorem numberTaken_iff_of_rel (same : Option.Rel Json.Value.Reordered first second)
    (kept number : Nat) : NumberTaken first kept number ↔ NumberTaken second kept number := by
  rcases eq_or_objects_of_rel same with rfl | ⟨members, others, rfl, rfl, -⟩
  · rfl
  · simp [NumberTaken]

theorem colorTaken_iff_of_rel (same : Option.Rel Json.Value.Reordered first second)
    (kept color : Color) : ColorTaken first kept color ↔ ColorTaken second kept color := by
  rcases eq_or_objects_of_rel same with rfl | ⟨members, others, rfl, rfl, -⟩
  · rfl
  · simp [ColorTaken]

theorem ofSetting?_iff_of_rel (same : Option.Rel Json.Value.Reordered first second)
    (unambiguous : ∀ value, first = some value → value.Unambiguous) (dialect : Dialect) :
    Dialect.ofSetting? first = .ok dialect ↔ Dialect.ofSetting? second = .ok dialect := by
  rcases eq_or_objects_of_rel same with rfl | ⟨members, others, rfl, rfl, reordered⟩
  · rfl
  · cases unambiguous _ rfl with
    | object distinct => exact Dialect.ofEntries_of_perm distinct reordered

end Reordered

theorem namesKnown_iff_of_reordered {members others : List (Points × Json.Value)}
    (same : Json.Reordered members others) (known : List String) :
    NamesKnown members known ↔ NamesKnown others known := by
  have by_name : ∀ members : List (Points × Json.Value), NamesKnown members known ↔
      ∀ name ∈ members.map Prod.fst, name ∈ known.map Points.ofString := by
    intro members
    simp [NamesKnown]
  rw [by_name, by_name]
  simp only [same.names_perm.mem_iff]

theorem ofEntries_of_reordered {members others : List (Points × Json.Value)} {settings : Settings}
    (distinct : Distinct members) (inside : ∀ member ∈ members, member.2.Unambiguous)
    (same : Json.Reordered members others) :
    ofEntries ⟨members, false⟩ = .ok settings ↔ ofEntries ⟨others, false⟩ = .ok settings := by
  have under := same.member? distinct
  simp only [ofEntries_eq_ok_iff, override_eq_ok_iff, changesOf,
    namesKnown_iff_of_reordered same,
    ofSetting?_iff_of_rel (under _) fun value given => inside _ (Json.mem_of_member? given),
    numberTaken_iff_of_rel (under _), colorTaken_iff_of_rel (under _)]

/-- Which objects are accepted as settings, and what they mean.  The order in which an
object names its members and its choices of a dialect does not matter. -/
theorem ofDocument_accepts {members : List (Points × Json.Value)}
    (object : (Json.Value.object members).Unambiguous) :
    ((∃ settings, ofDocument (.object members) = .ok settings) ↔ Acceptable members) ∧
      (∀ settings, ofDocument (.object members) = .ok settings → Means members settings) ∧
      ∀ others, Json.Reordered members others → ∀ settings,
        ofDocument (.object members) = .ok settings ↔
          ofDocument (.object others) = .ok settings := by
  cases object with
  | object distinct inside =>
      refine ⟨⟨?_, exists_ofEntries⟩, ?_, ?_⟩
      · rintro ⟨settings, reads⟩
        exact (of_ofEntries inside reads).1
      · intro settings reads
        exact (of_ofEntries inside reads).2
      · intro others same settings
        exact ofEntries_of_reordered distinct inside same

/-- A colour, and a dialect by its name in capitals with a choice of its own. -/
def amberMembers : List (Points × Json.Value) :=
  [("color", .text "amber"),
   ("quirks", .object [("clip_sprites", .boolean false), ("preset", .text "SCHIP")])]

/-- The same in another order. -/
def amberMembers' : List (Points × Json.Value) :=
  [("quirks", .object [("preset", .text "SCHIP"), ("clip_sprites", .boolean false)]),
   ("color", .text "amber")]

theorem ofDocument_accepts_amber :
    (Json.Value.object amberMembers).Unambiguous ∧ Acceptable amberMembers ∧
      ∃ settings, ofDocument (.object amberMembers') = .ok settings ∧
        settings.color = .amber ∧ settings.clockHz.val = 500 ∧
        settings.dialect = { Preset.schip.dialect with clipSprites := false } := by
  have object : (Json.Value.object amberMembers).Unambiguous := by
    refine .object (by decide) ?_
    intro member inside
    simp only [amberMembers, List.mem_cons, List.not_mem_nil, or_false] at inside
    rcases inside with rfl | rfl
    · exact .text _
    · refine .object (by decide) ?_
      intro choice inside
      simp only [List.mem_cons, List.not_mem_nil, or_false] at inside
      rcases inside with rfl | rfl
      · exact .boolean _
      · exact .text _
  have same : Json.Reordered amberMembers amberMembers' :=
    ⟨_, List.Perm.swap _ _ [], .cons ⟨rfl, .inr ⟨_, _, rfl, rfl, List.Perm.swap _ _ []⟩⟩
      (.cons ⟨rfl, .inl rfl⟩ .nil)⟩
  have reads : ofDocument (.object amberMembers) = .ok
      { Settings.standard with
        color := .amber
        dialect := { Preset.schip.dialect with clipSprites := false } } := rfl
  obtain ⟨accepts, -, order⟩ := ofDocument_accepts object
  exact ⟨object, accepts.mp ⟨_, reads⟩, _, (order _ same _).mp reads, rfl, rfl, rfl⟩

end Settings
end Chip8
