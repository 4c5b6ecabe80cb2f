import Chip8.Proofs.Documents
import Chip8.Proofs.Members

/-!
What is accepted as a dialect, and what it means.  A dialect is named, or it is an
object of choices that may name one.  `Dialect.Acceptable` says what it must be like, and
`Dialect.Means` what it is then: on every point of difference the choice given, and where
none is given that of the dialect named, or else of the standard one.  In which order the
choices are given does not matter.
-/

namespace Chip8

open Json (member? Distinct)

theorem checkNames_eq_ok_iff {members : List (Points × Json.Value)} {known : List String}
    {report : List Points → Problem} :
    checkNames ⟨members, false⟩ known report = .ok () ↔ NamesKnown members known := by
  refine ⟨fun passes => ?_, fun h => checkNames_of_known h report⟩
  by_contra unknown
  obtain ⟨problem, refused⟩ := checkNames_of_unknown unknown report
  rw [refused] at passes
  cases passes

theorem Preset.name_injective {a b : Preset}
    (same : Points.ofString a.name = Points.ofString b.name) : a = b := by
  cases a <;> cases b <;> first | rfl | exact absurd same (by decide)

namespace Dialect

theorem eq_of_choice {a b : Dialect} (same : ∀ point, a.choice point = b.choice point) : a = b := by
  obtain ⟨_, _, _, _, _⟩ := a
  obtain ⟨_, _, _, _, _⟩ := b
  have reset := same .resetFlagOnLogic
  have advance := same .advanceIndexOnCopy
  have shift := same .shiftSecondRegister
  have jump := same .jumpByNamedRegister
  have clip := same .clipSprites
  simp only [choice] at reset advance shift jump clip
  simp only [reset, advance, shift, jump, clip]

theorem Point.find?_name (point : Point) :
    Point.all.find? (fun other => Points.ofString other.name == Points.ofString point.name) =
      some point := by
  cases point <;> decide

/-- A value is the name of a dialect, in whatever mixture of small and capital
letters. -/
def Names (value : Json.Value) (preset : Preset) : Prop :=
  ∃ name, value = .text name ∧ name.lower = preset.name

/-- The dialect that choices are made from: the one named, or else the standard one. -/
def IsBasis : Option Json.Value → Dialect → Prop
  | none, dialect => dialect = {}
  | some value, dialect => ∃ preset, Names value preset ∧ dialect = preset.dialect

/-- A choice is the one given, or else it stays as it is. -/
def ChoiceTaken : Option Json.Value → Bool → Bool → Prop
  | none, kept, choice => choice = kept
  | some value, _, choice => value = .boolean choice

/-- The dialect that is named: by the value itself, or in it if it is an object. -/
def named? : Option Json.Value → Option Json.Value
  | some (.object choices) => member? "preset" choices
  | given? => given?

/-- The choice on a point that is given; only an object gives any. -/
def given? (point : Point) : Option Json.Value → Option Json.Value
  | some (.object choices) => member? (.ofString point.name) choices
  | _ => none

/-- What the dialect of the settings is: the one named, with the choices given. -/
def Means (setting? : Option Json.Value) (dialect : Dialect) : Prop :=
  ∃ basis, IsBasis (named? setting?) basis ∧
    ∀ point : Point,
      ChoiceTaken (given? point setting?) (basis.choice point) (dialect.choice point)

/-- What is accepted as the name of a dialect.  It is enough that `lower` knows the letters
`A` to `Z`: no other character made small is one letter of these names. -/
def AcceptableName (value : Json.Value) : Prop :=
  ∃ name, value = .text name ∧ (name.lower = "chip8" ∨ name.lower = "schip")

/-- What is accepted as a dialect: a name, or an object that may name one and has truth
values for some of the points of difference. -/
def Acceptable (value : Json.Value) : Prop :=
  AcceptableName value ∨
    ∃ choices, value = .object choices ∧
      NamesKnown choices
        ["preset", "reset_flag_on_logic_ops", "increment_index_on_bulk_copy",
          "use_secondary_register_in_shift", "use_source_register_in_jump", "clip_sprites"] ∧
      (∀ named, member? "preset" choices = some named → AcceptableName named) ∧
      ∀ member ∈ choices, member.1 ≠ "preset" → ∃ choice, member.2 = .boolean choice

theorem acceptableName_iff {value : Json.Value} :
    AcceptableName value ↔ ∃ preset, Names value preset := by
  constructor
  · rintro ⟨name, rfl, same | same⟩
    · exact ⟨.chip8, name, rfl, same⟩
    · exact ⟨.schip, name, rfl, same⟩
  · rintro ⟨preset, name, rfl, same⟩
    cases preset
    · exact ⟨name, rfl, .inl same⟩
    · exact ⟨name, rfl, .inr same⟩

theorem Names.unique {value : Json.Value} {a b : Preset} (first : Names value a)
    (second : Names value b) : a = b := by
  obtain ⟨name, rfl, lower⟩ := first
  obtain ⟨other, same, lower'⟩ := second
  obtain rfl := Json.Value.text.inj same
  exact Preset.name_injective (lower.symm.trans lower')

theorem IsBasis.unique {given? : Option Json.Value} {a b : Dialect} (first : IsBasis given? a)
    (second : IsBasis given? b) : a = b := by
  cases given? with
  | none => exact first.trans second.symm
  | some value =>
      obtain ⟨preset, names, rfl⟩ := first
      obtain ⟨other, names', rfl⟩ := second
      rw [names.unique names']

theorem ChoiceTaken.unique {given? : Option Json.Value} {kept a b : Bool}
    (first : ChoiceTaken given? kept a) (second : ChoiceTaken given? kept b) : a = b := by
  cases given? with
  | none => exact first.trans second.symm
  | some value => exact Json.Value.boolean.inj (first.symm.trans second)

theorem Means.unique {setting? : Option Json.Value} {a b : Dialect} (first : Means setting? a)
    (second : Means setting? b) : a = b := by
  obtain ⟨basis, based, chosen⟩ := first
  obtain ⟨other, based', chosen'⟩ := second
  obtain rfl := based.unique based'
  exact eq_of_choice fun point => (chosen point).unique (chosen' point)

theorem ofPresetName_eq_ok_iff {name : Points} {dialect : Dialect} :
    ofPresetName name = .ok dialect ↔
      ∃ preset, Names (.text name) preset ∧ dialect = preset.dialect := by
  have names_iff : ∀ preset, Names (.text name) preset ↔ name.lower = preset.name := by
    intro preset
    refine ⟨?_, fun same => ⟨name, rfl, same⟩⟩
    rintro ⟨_, same, lower⟩
    rwa [Json.Value.text.inj same]
  unfold ofPresetName
  split
  next preset found =>
    have same : Points.ofString preset.name = name.lower := by simpa using List.find?_some found
    rw [Except.ok.injEq]
    constructor
    · rintro rfl
      exact ⟨preset, (names_iff preset).mpr same.symm, rfl⟩
    · rintro ⟨other, names, rfl⟩
      rw [Preset.name_injective (same.trans ((names_iff other).mp names))]
  next missing =>
    refine iff_of_false (by simp) ?_
    rintro ⟨preset, names, -⟩
    have here : preset ∈ Preset.all := by cases preset <;> decide
    exact List.find?_eq_none.mp missing preset here
      (beq_iff_eq.mpr ((names_iff preset).mp names).symm)

theorem ofPreset_eq_ok_iff {value : Json.Value} {dialect : Dialect} :
    ofPreset value = .ok dialect ↔ IsBasis (some value) dialect := by
  cases value with
  | text name => exact ofPresetName_eq_ok_iff
  | _ => exact iff_of_false (by simp [ofPreset]) (by simp [IsBasis, Names])

theorem basis_eq_ok_iff {entries : Entries} {dialect : Dialect} :
    basis entries = .ok dialect ↔ IsBasis (member? "preset" entries.members) dialect := by
  unfold basis
  split
  next missing =>
    rw [missing, Except.ok.injEq]
    exact eq_comm
  next value given =>
    rw [given]
    exact ofPreset_eq_ok_iff

/-! The choices one after the other. -/

theorem chooseMember_eq_ok_iff {dialect chosen : Dialect} {point : Point} {value : Json.Value} :
    dialect.chooseMember (.ofString point.name, value) = .ok chosen ↔
      ∃ choice, value = .boolean choice ∧ chosen = dialect.choose point choice := by
  cases value with
  | boolean choice => simp [chooseMember, Point.find?_name, eq_comm]
  | _ => simp [chooseMember]

/-- A truth value for each of the choices is all that it takes to make them. -/
theorem exists_foldlM_chooseMember {choices : List (Points × Json.Value)} (dialect : Dialect)
    (booleans : ∀ member ∈ choices, ∃ choice, member.2 = .boolean choice) :
    ∃ chosen, choices.foldlM chooseMember dialect = .ok chosen := by
  induction choices generalizing dialect with
  | nil => exact ⟨dialect, rfl⟩
  | cons member rest ih =>
      obtain ⟨name, value⟩ := member
      obtain ⟨choice, rfl⟩ := booleans _ List.mem_cons_self
      have made : ∃ next, dialect.chooseMember (name, .boolean choice) = .ok next := by
        unfold chooseMember
        dsimp only
        split <;> exact ⟨_, rfl⟩
      obtain ⟨next, made⟩ := made
      obtain ⟨chosen, makes⟩ := ih next fun member later =>
        booleans member (List.mem_cons_of_mem _ later)
      exact ⟨chosen, by rw [List.foldlM_cons, made]; exact makes⟩

/-- What comes of making the choices: every point has the choice given, or else the one
it had. -/
theorem of_foldlM_chooseMember {choices : List (Points × Json.Value)} {dialect chosen : Dialect}
    (distinct : Distinct choices) (known : NamesKnown choices (Point.all.map Point.name))
    (makes : choices.foldlM chooseMember dialect = .ok chosen) :
    (∀ member ∈ choices, ∃ choice, member.2 = .boolean choice) ∧
      ∀ point : Point, ChoiceTaken (member? (.ofString point.name) choices)
        (dialect.choice point) (chosen.choice point) := by
  induction choices generalizing dialect with
  | nil =>
      obtain rfl := Except.ok.inj makes
      exact ⟨by simp, fun point => rfl⟩
  | cons member rest ih =>
      obtain ⟨name, value⟩ := member
      obtain ⟨fresh, distinct'⟩ := List.nodup_cons.mp distinct
      rw [List.foldlM_cons, bind_eq_ok_iff] at makes
      obtain ⟨next, made, makes⟩ := makes
      have named := known _ List.mem_cons_self
      simp only [List.map_map, List.mem_map, Function.comp_apply] at named
      obtain ⟨here, -, rfl⟩ := named
      obtain ⟨choice, rfl, rfl⟩ := chooseMember_eq_ok_iff.mp made
      obtain ⟨booleans, taken⟩ :=
        ih distinct' (fun member later => known member (List.mem_cons_of_mem _ later)) makes
      refine ⟨?_, fun point => ?_⟩
      · intro member inside
        rcases List.mem_cons.mp inside with rfl | later
        · exact ⟨choice, rfl⟩
        · exact booleans member later
      · have after := taken point
        rw [Json.member?_cons]
        rw [choice_choose] at after
        by_cases same : point = here
        · subst same
          rw [Json.member?_eq_none_iff.mpr fresh] at after
          rw [if_pos rfl]
          simpa [ChoiceTaken, eq_comm] using after
        · have apart : ¬ Points.ofString point.name = Points.ofString here.name := by
            intro name
            have found := here.find?_name
            rw [← name, point.find?_name] at found
            exact same (Option.some.inj found)
          rw [if_neg same] at after
          rwa [if_neg apart]

/-! Objects and the whole setting. -/

/-- The choices of an object but for the dialect that it names. -/
def withoutPreset (choices : List (Points × Json.Value)) : List (Points × Json.Value) :=
  choices.filter fun member => member.1 != "preset"

theorem mem_withoutPreset {choices : List (Points × Json.Value)} {member : Points × Json.Value} :
    member ∈ withoutPreset choices ↔ member ∈ choices ∧ member.1 ≠ "preset" := by
  simp [withoutPreset]

theorem ofEntries_eq_ok_iff_steps {choices : List (Points × Json.Value)} {dialect : Dialect} :
    ofEntries ⟨choices, false⟩ = .ok dialect ↔
      ∃ basis, IsBasis (member? "preset" choices) basis ∧
        NamesKnown (withoutPreset choices) (Point.all.map Point.name) ∧
        (withoutPreset choices).foldlM chooseMember basis = .ok dialect := by
  unfold ofEntries
  simp only [bind_eq_ok_iff, basis_eq_ok_iff]
  refine exists_congr fun start => and_congr_right fun _ => ?_
  constructor
  · rintro ⟨⟨⟩, passes, makes⟩
    exact ⟨checkNames_eq_ok_iff.mp passes, makes⟩
  · rintro ⟨known, makes⟩
    exact ⟨(), checkNames_eq_ok_iff.mpr known, makes⟩

theorem namesKnown_withoutPreset_iff {choices : List (Points × Json.Value)} :
    NamesKnown (withoutPreset choices) (Point.all.map Point.name) ↔
      NamesKnown choices
        ["preset", "reset_flag_on_logic_ops", "increment_index_on_bulk_copy",
          "use_secondary_register_in_shift", "use_source_register_in_jump", "clip_sprites"] := by
  constructor
  · intro known member inside
    by_cases preset : member.1 = "preset"
    · exact preset ▸ List.mem_cons_self
    · exact List.mem_cons_of_mem _ (known member (mem_withoutPreset.mpr ⟨inside, preset⟩))
  · intro known member inside
    obtain ⟨inside, other⟩ := mem_withoutPreset.mp inside
    exact (List.mem_cons.mp (known member inside)).resolve_left other

theorem of_ofEntries {choices : List (Points × Json.Value)} {dialect : Dialect}
    (distinct : Distinct choices) (reads : ofEntries ⟨choices, false⟩ = .ok dialect) :
    Acceptable (.object choices) ∧ Means (some (.object choices)) dialect := by
  obtain ⟨start, based, known, makes⟩ := ofEntries_eq_ok_iff_steps.mp reads
  have distinct' : Distinct (withoutPreset choices) :=
    distinct.sublist (List.Sublist.map _ List.filter_sublist)
  obtain ⟨booleans, taken⟩ := of_foldlM_chooseMember distinct' known makes
  refine ⟨.inr ⟨choices, rfl, namesKnown_withoutPreset_iff.mp known, ?_, ?_⟩, start, based, ?_⟩
  · intro named given
    rw [given] at based
    obtain ⟨preset, names, -⟩ := based
    exact acceptableName_iff.mpr ⟨preset, names⟩
  · intro member inside other
    exact booleans member (mem_withoutPreset.mpr ⟨inside, other⟩)
  · intro point
    have other : Points.ofString point.name ≠ "preset" := by cases point <;> decide
    rw [given?, ← Json.member?_without other]
    exact taken point

theorem exists_ofEntries {choices : List (Points × Json.Value)}
    (acceptable : Acceptable (.object choices)) :
    ∃ dialect, ofEntries ⟨choices, false⟩ = .ok dialect := by
  rcases acceptable with ⟨name, same, -⟩ | ⟨_, same, known, named, booleans⟩
  · cases same
  obtain rfl := Json.Value.object.inj same
  have based : ∃ start, IsBasis (member? "preset" choices) start := by
    cases given : member? "preset" choices with
    | none => exact ⟨{}, rfl⟩
    | some value =>
        obtain ⟨preset, names⟩ := acceptableName_iff.mp (named value given)
        exact ⟨preset.dialect, preset, names, rfl⟩
  obtain ⟨start, based⟩ := based
  obtain ⟨dialect, makes⟩ := exists_foldlM_chooseMember start fun member inside =>
    booleans member (mem_withoutPreset.mp inside).1 (mem_withoutPreset.mp inside).2
  exact ⟨dialect, ofEntries_eq_ok_iff_steps.mpr
    ⟨start, based, namesKnown_withoutPreset_iff.mpr known, makes⟩⟩

theorem ofEntries_eq_ok_iff {choices : List (Points × Json.Value)} {dialect : Dialect}
    (distinct : Distinct choices) :
    ofEntries ⟨choices, false⟩ = .ok dialect ↔
      Acceptable (.object choices) ∧ Means (some (.object choices)) dialect := by
  refine ⟨of_ofEntries distinct, ?_⟩
  rintro ⟨acceptable, means⟩
  obtain ⟨chosen, reads⟩ := exists_ofEntries acceptable
  rwa [means.unique (of_ofEntries distinct reads).2]

theorem Acceptable.of_perm {choices others : List (Points × Json.Value)}
    (distinct : Distinct choices) (reordered : choices.Perm others)
    (acceptable : Acceptable (.object choices)) : Acceptable (.object others) := by
  rcases acceptable with ⟨name, same, -⟩ | ⟨_, same, known, named, booleans⟩
  · cases same
  obtain rfl := Json.Value.object.inj same
  refine .inr ⟨others, rfl, ?_, ?_, ?_⟩
  · exact fun member inside => known member (reordered.mem_iff.mpr inside)
  · rwa [← Json.member?_eq_of_perm distinct reordered]
  · exact fun member inside => booleans member (reordered.mem_iff.mpr inside)

/-- The order of the choices does not matter. -/
theorem ofEntries_of_perm {choices others : List (Points × Json.Value)} {dialect : Dialect}
    (distinct : Distinct choices) (reordered : choices.Perm others) :
    ofEntries ⟨choices, false⟩ = .ok dialect ↔ ofEntries ⟨others, false⟩ = .ok dialect := by
  have distinct' : Distinct others := (reordered.map Prod.fst).nodup_iff.mp distinct
  rw [ofEntries_eq_ok_iff distinct, ofEntries_eq_ok_iff distinct']
  have same : ∀ name, member? name choices = member? name others := fun name =>
    Json.member?_eq_of_perm distinct reordered
  simp only [Means, named?, given?, same]
  exact and_congr_left fun _ =>
    ⟨fun h => h.of_perm distinct reordered, fun h => h.of_perm distinct' reordered.symm⟩

theorem of_ofSetting {value : Json.Value} {dialect : Dialect} (unambiguous : value.Unambiguous)
    (reads : ofSetting value = .ok dialect) : Acceptable value ∧ Means (some value) dialect := by
  cases value with
  | text name =>
      obtain ⟨preset, names, rfl⟩ := ofPresetName_eq_ok_iff.mp reads
      exact ⟨.inl (acceptableName_iff.mpr ⟨preset, names⟩), preset.dialect,
        ⟨preset, names, rfl⟩, fun point => rfl⟩
  | object choices =>
      cases unambiguous with
      | object distinct inside => exact of_ofEntries distinct reads
  | _ => cases reads

theorem exists_ofSetting {value : Json.Value} (acceptable : Acceptable value) :
    ∃ dialect, ofSetting value = .ok dialect := by
  rcases acceptable with named | ⟨choices, rfl, rest⟩
  · obtain ⟨preset, name, rfl, same⟩ := acceptableName_iff.mp named
    exact ⟨preset.dialect, ofPresetName_eq_ok_iff.mpr ⟨preset, ⟨name, rfl, same⟩, rfl⟩⟩
  · exact exists_ofEntries (.inr ⟨choices, rfl, rest⟩)

/-- The dialect of settings that may be without one. -/
def ofSetting? : Option Json.Value → Except Failure Dialect
  | none => .ok {}
  | some value => ofSetting value

theorem of_ofSetting? {setting? : Option Json.Value} {dialect : Dialect}
    (unambiguous : ∀ value, setting? = some value → value.Unambiguous)
    (reads : ofSetting? setting? = .ok dialect) :
    (∀ value, setting? = some value → Acceptable value) ∧ Means setting? dialect := by
  cases setting? with
  | none =>
      obtain rfl := Except.ok.inj reads
      exact ⟨by simp, {}, rfl, fun point => rfl⟩
  | some value =>
      obtain ⟨acceptable, means⟩ := of_ofSetting (unambiguous value rfl) reads
      exact ⟨fun _ same => Option.some.inj same ▸ acceptable, means⟩

theorem exists_ofSetting? {setting? : Option Json.Value}
    (acceptable : ∀ value, setting? = some value → Acceptable value) :
    ∃ dialect, ofSetting? setting? = .ok dialect := by
  cases setting? with
  | none => exact ⟨{}, rfl⟩
  | some value => exact exists_ofSetting (acceptable value rfl)

end Dialect
end Chip8
