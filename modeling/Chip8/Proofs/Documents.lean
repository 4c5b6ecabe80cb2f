import Mathlib.Data.List.Basic
import Chip8.Proofs.Members
import Chip8.Proofs.Reports

/-!
Which files of settings are refused and which break the program down.  Nearly all that
can be wrong with a document is reported as a problem.  Five things are not: bytes that
are no text, a numeral of too many digits, brackets too deep in each other, a dialect
named by something other than a text, and a list or an object in place of a colour.
-/

namespace Chip8

/-- A value or a problem, and so nothing that breaks the program down. -/
def Foreseen {α : Type} (result : Except Failure α) : Prop :=
  (∃ value, result = .ok value) ∨ ∃ problem, result = .error (.problem problem)

section Foreseen

variable {α β : Type}

theorem foreseen_ok (value : α) : Foreseen (.ok value) := .inl ⟨value, rfl⟩

theorem foreseen_problem (problem : Problem) :
    Foreseen (.error (.problem problem) : Except Failure α) := .inr ⟨problem, rfl⟩

theorem Foreseen.bind {first : Except Failure α} {next : α → Except Failure β}
    (h : Foreseen first) (later : ∀ value, first = .ok value → Foreseen (next value)) :
    Foreseen (first >>= next) := by
  rcases h with ⟨value, rfl⟩ | ⟨problem, rfl⟩
  · exact later value rfl
  · exact foreseen_problem problem

theorem Foreseen.foldlM {step : β → α → Except Failure β}
    (one : ∀ value item, Foreseen (step value item)) (items : List α) (value : β) :
    Foreseen (items.foldlM step value) := by
  induction items generalizing value with
  | nil => exact foreseen_ok value
  | cons item rest ih =>
      rw [List.foldlM_cons]
      exact (one value item).bind fun next _ => ih next

theorem Foreseen.not_breakdown {result : Except Failure α} (h : Foreseen result)
    (cause : Breakdown) : result ≠ .error (.breakdown cause) := by
  rcases h with ⟨value, rfl⟩ | ⟨problem, rfl⟩ <;> simp

end Foreseen

/-- Whether a value holds other values. -/
def Json.Value.isCollection : Json.Value → Bool
  | .array _ | .object _ => true
  | _ => false

/-! The names of the members. -/

/-- Every member has a name that is known. -/
def NamesKnown (members : List (Points × Json.Value)) (known : List String) : Prop :=
  ∀ member ∈ members, member.1 ∈ known.map Points.ofString

theorem checkNames_of_known {members : List (Points × Json.Value)} {known : List String}
    (h : NamesKnown members known) (report : List Points → Problem) :
    checkNames ⟨members, false⟩ known report = .ok () := by
  have none_unknown : ((members.map (·.1)).filter fun name =>
      !(known.map Points.ofString).contains name) = [] := by
    rw [List.filter_eq_nil_iff]
    intro name member
    obtain ⟨entry, inside, rfl⟩ := List.mem_map.mp member
    simpa using h entry inside
  simp only [checkNames, none_unknown, Bool.false_eq_true, if_false, List.isEmpty_nil, if_true]

theorem checkNames_of_unknown {members : List (Points × Json.Value)} {known : List String}
    (h : ¬ NamesKnown members known) (report : List Points → Problem) :
    ∃ problem, checkNames ⟨members, false⟩ known report = .error (.problem problem) := by
  have some_unknown : ((members.map (·.1)).filter fun name =>
      !(known.map Points.ofString).contains name).isEmpty = false := by
    rw [← Bool.not_eq_true, List.isEmpty_iff, List.filter_eq_nil_iff]
    intro all_known
    apply h
    intro entry inside
    simpa using all_known entry.1 (List.mem_map.mpr ⟨entry, inside, rfl⟩)
  simp only [checkNames, some_unknown, Bool.false_eq_true, if_false]
  exact ⟨_, rfl⟩

theorem foreseen_checkNames (members : List (Points × Json.Value)) (known : List String)
    (report : List Points → Problem) : Foreseen (checkNames ⟨members, false⟩ known report) := by
  by_cases h : NamesKnown members known
  · exact .inl ⟨(), checkNames_of_known h report⟩
  · exact .inr (checkNames_of_unknown h report)

/-! The dialect. -/

namespace Dialect

theorem foreseen_ofPresetName (name : Points) : Foreseen (ofPresetName name) := by
  unfold ofPresetName
  split
  · exact foreseen_ok _
  · exact foreseen_problem _

theorem foreseen_chooseMember (dialect : Dialect) (member : Points × Json.Value) :
    Foreseen (dialect.chooseMember member) := by
  unfold chooseMember
  split
  · split
    · exact foreseen_ok _
    · exact foreseen_ok _
  · exact foreseen_problem _

theorem foreseen_ofEntries {choices : List (Points × Json.Value)}
    (named : ∀ value, Json.member? "preset" choices = some value → ∃ name, value = .text name) :
    Foreseen (ofEntries ⟨choices, false⟩) := by
  have based : Foreseen (basis ⟨choices, false⟩) := by
    unfold basis
    split
    next => exact foreseen_ok _
    next value given =>
      obtain ⟨name, rfl⟩ := named value given
      exact foreseen_ofPresetName name
  unfold ofEntries
  refine based.bind fun dialect _ => ?_
  refine (foreseen_checkNames _ _ _).bind fun _ _ => ?_
  exact Foreseen.foldlM foreseen_chooseMember _ dialect

theorem ofEntries_of_unnamed {choices : List (Points × Json.Value)} {value : Json.Value}
    (given : Json.member? "preset" choices = some value) (unnamed : ∀ name, value ≠ .text name) :
    ofEntries ⟨choices, false⟩ = .error (.breakdown .presetNotText) := by
  have unbased : basis ⟨choices, false⟩ = .error (.breakdown .presetNotText) := by
    unfold basis
    rw [given]
    cases value with
    | text name => exact absurd rfl (unnamed name)
    | _ => rfl
  rw [ofEntries, unbased]
  rfl

end Dialect

namespace Settings

/-- The dialect of the settings is an object that names another dialect by something
other than a text, and nothing before it is wrong. -/
def PresetNotText (members : List (Points × Json.Value)) : Prop :=
  NamesKnown members names ∧
    ∃ choices value, Json.member? "quirks" members = some (.object choices) ∧
      Json.member? "preset" choices = some value ∧ ∀ name, value ≠ .text name

/-- The members but for the colour. -/
def withoutColor (members : List (Points × Json.Value)) : List (Points × Json.Value) :=
  members.filter fun member => member.1 != "color"

/-- The colour of the settings is a list or an object, and without it the settings
could be read. -/
def ColorNotName (members : List (Points × Json.Value)) : Prop :=
  (∃ value, Json.member? "color" members = some value ∧ value.isCollection = true) ∧
    ∃ settings, ofEntries ⟨withoutColor members, false⟩ = .ok settings

theorem foreseen_number (name : String) (kept : Positive) (change : Option Json.Value) :
    Foreseen (number name kept change) := by
  unfold number
  split
  · exact foreseen_ok _
  · split
    · exact foreseen_ok _
    · exact foreseen_problem _
  · exact foreseen_problem _

theorem foreseen_colorAfter (kept : Color) {change : Option Json.Value}
    (nameable : ∀ value, change = some value → value.isCollection = false) :
    Foreseen (colorAfter kept change) := by
  unfold colorAfter
  split
  · exact foreseen_ok _
  · split
    · exact foreseen_ok _
    · exact foreseen_problem _
  · cases nameable _ rfl
  · cases nameable _ rfl
  · exact foreseen_problem _

theorem colorAfter_of_collection (kept : Color) {value : Json.Value}
    (collection : value.isCollection = true) :
    colorAfter kept (some value) = .error (.breakdown .wrongType) := by
  cases value with
  | array | object => rfl
  | _ => cases collection

/-- The colour is looked at when all else has been found right. -/
theorem override_eq (settings : Settings) (changes : Changes) :
    settings.override changes =
      (do
        let changed ← settings.override { changes with color := none }
        return { changed with color := ← colorAfter settings.color changes.color }) := by
  unfold override
  cases number "clock_hz" settings.clockHz changes.clockHz with
  | error => rfl
  | ok =>
    cases number "timer_hz" settings.timerHz changes.timerHz with
    | error => rfl
    | ok =>
      cases number "input_hz" settings.inputHz changes.inputHz with
      | error => rfl
      | ok =>
        cases number "scale" settings.scale changes.scale with
        | error => rfl
        | ok => rfl

section WithoutColor

variable (members : List (Points × Json.Value))

theorem member?_withoutColor {name : Points} (other : name ≠ "color") :
    Json.member? name (withoutColor members) = Json.member? name members :=
  Json.member?_without other

theorem member?_color_withoutColor : Json.member? "color" (withoutColor members) = none := by
  rw [Json.member?, List.lookup_eq_none_iff]
  intro member inside
  have other := (List.mem_filter.mp inside).2
  simp only [bne_iff_ne, ne_eq] at other ⊢
  exact fun same => other same.symm

theorem checkNames_withoutColor (report : List Points → Problem) :
    checkNames ⟨withoutColor members, false⟩ names report =
      checkNames ⟨members, false⟩ names report := by
  have unknown : ((withoutColor members).map (·.1)).filter
        (fun name => !(names.map Points.ofString).contains name) =
      (members.map (·.1)).filter fun name => !(names.map Points.ofString).contains name := by
    rw [withoutColor, List.filter_map, List.filter_map, List.filter_filter]
    congr 1
    apply List.filter_congr
    intro member _
    by_cases color : member.1 = "color"
    · have known : (names.map Points.ofString).contains member.1 = true := by
        rw [color]
        decide
      simp only [Function.comp, known, Bool.not_true, Bool.false_and]
    · simp [Function.comp, color]
  simp only [checkNames, unknown]

theorem changesOf_withoutColor (dialect : Option Dialect) :
    changesOf (withoutColor members) dialect =
      { changesOf members dialect with color := none } := by
  have other : ∀ name ∈ ["clock_hz", "timer_hz", "input_hz", "scale"],
      Points.ofString name ≠ Points.ofString "color" := by decide
  simp only [List.forall_mem_cons, List.not_mem_nil, false_imp_iff, implies_true,
    and_true] at other
  obtain ⟨clock, timer, input, scale⟩ := other
  simp only [changesOf, member?_withoutColor members clock, member?_withoutColor members timer,
    member?_withoutColor members input, member?_withoutColor members scale,
    member?_color_withoutColor]

theorem override_changesOf (dialect : Option Dialect) :
    standard.override (changesOf members dialect) =
      (do
        let changed ← standard.override (changesOf (withoutColor members) dialect)
        return { changed with
          color := ← colorAfter standard.color (Json.member? "color" members) }) := by
  rw [changesOf_withoutColor]
  exact override_eq standard (changesOf members dialect)

/-- The settings of a document are those of the document without its colour, if there
are any, and then the colour. -/
theorem ofEntries_eq :
    ofEntries ⟨members, false⟩ =
      (do
        let settings ← ofEntries ⟨withoutColor members, false⟩
        return { settings with
          color := ← colorAfter standard.color (Json.member? "color" members) }) := by
  have quirks : Json.member? "quirks" (withoutColor members) = Json.member? "quirks" members :=
    member?_withoutColor members (by decide)
  unfold ofEntries
  rw [checkNames_withoutColor]
  dsimp only
  rw [quirks]
  cases checkNames ⟨members, false⟩ names .unknownKeys with
  | error => rfl
  | ok =>
      cases Json.member? "quirks" members with
      | none => exact override_changesOf members (some {})
      | some value =>
          cases read : Dialect.ofSetting value with
          | error => simp only [read]; rfl
          | ok dialect => simp only [read]; exact override_changesOf members (some dialect)

theorem presetNotText_of_withoutColor (h : PresetNotText (withoutColor members)) :
    PresetNotText members := by
  obtain ⟨known, choices, value, quirks, preset, unnamed⟩ := h
  rw [member?_withoutColor members (by decide)] at quirks
  refine ⟨fun member inside => ?_, choices, value, quirks, preset, unnamed⟩
  by_cases color : member.1 = "color"
  · rw [color]
    decide
  · exact known member (List.mem_filter.mpr ⟨inside, by simpa using color⟩)

end WithoutColor

section Entries

variable {members : List (Points × Json.Value)}

theorem foreseen_override (settings : Settings) {changes : Changes}
    (nameable : ∀ value, changes.color = some value → value.isCollection = false) :
    Foreseen (settings.override changes) := by
  unfold override
  refine (foreseen_number _ _ _).bind fun _ _ => ?_
  refine (foreseen_number _ _ _).bind fun _ _ => ?_
  refine (foreseen_number _ _ _).bind fun _ _ => ?_
  refine (foreseen_number _ _ _).bind fun _ _ => ?_
  exact (foreseen_colorAfter _ nameable).bind fun _ _ => foreseen_ok _

theorem foreseen_of_nameable (named : ¬ PresetNotText members)
    (nameable : ∀ value, Json.member? "color" members = some value → value.isCollection = false) :
    Foreseen (ofEntries ⟨members, false⟩) := by
  have overridden : ∀ dialect, Foreseen (standard.override (changesOf members (some dialect))) :=
    fun _ => foreseen_override standard nameable
  unfold ofEntries
  by_cases known : NamesKnown members names
  · rw [checkNames_of_known known]
    cases quirks : Json.member? "quirks" members with
    | none =>
        exact overridden {}
    | some value =>
        have dialect : Foreseen (Dialect.ofSetting value) := by
          cases value with
          | text name => exact Dialect.foreseen_ofPresetName name
          | object choices =>
              apply Dialect.foreseen_ofEntries
              intro value preset
              by_contra unnamed
              exact named ⟨known, choices, value, quirks, preset,
                fun name same => unnamed ⟨name, same⟩⟩
          | _ => exact foreseen_problem _
        exact dialect.bind fun dialect _ => overridden dialect
  · obtain ⟨problem, refused⟩ := checkNames_of_unknown known .unknownKeys
    rw [refused]
    exact foreseen_problem problem

theorem ofEntries_of_presetNotText (h : PresetNotText members) :
    ofEntries ⟨members, false⟩ = .error (.breakdown .presetNotText) := by
  obtain ⟨known, choices, value, quirks, preset, unnamed⟩ := h
  have dialect : Dialect.ofSetting (.object choices) = .error (.breakdown .presetNotText) :=
    Dialect.ofEntries_of_unnamed preset unnamed
  rw [ofEntries, checkNames_of_known known]
  simp only [quirks, dialect]
  rfl

theorem ofEntries_of_colorNotName (h : ColorNotName members) :
    ofEntries ⟨members, false⟩ = .error (.breakdown .wrongType) := by
  obtain ⟨⟨value, given, several⟩, settings, read⟩ := h
  rw [ofEntries_eq, read, given, colorAfter_of_collection _ several]
  rfl

/-- What is foreseen of a document: all but the two things that are not. -/
theorem foreseen_ofEntries (named : ¬ PresetNotText members) (colored : ¬ ColorNotName members) :
    Foreseen (ofEntries ⟨members, false⟩) := by
  by_cases collection : ∃ value, Json.member? "color" members = some value ∧
      value.isCollection = true
  · -- The colour would be wrong, so something before it must be.
    have uncolored : Foreseen (ofEntries ⟨withoutColor members, false⟩) := by
      apply foreseen_of_nameable fun h => named (presetNotText_of_withoutColor members h)
      simp [member?_color_withoutColor]
    rcases uncolored with read | ⟨problem, refused⟩
    · exact absurd ⟨collection, read⟩ colored
    · rw [ofEntries_eq, refused]
      exact foreseen_problem problem
  · apply foreseen_of_nameable named
    intro value given
    rw [← Bool.not_eq_true]
    exact fun several => collection ⟨value, given, several⟩

/-- The dialect is read before the colour, so not both are what the reading breaks
down on. -/
theorem not_colorNotName_of_presetNotText (h : PresetNotText members) :
    ¬ ColorNotName members := by
  intro colored
  have breaks := ofEntries_of_presetNotText h
  rw [ofEntries_of_colorNotName colored] at breaks
  cases breaks

end Entries

/-! The file. -/

/-- What the bytes of a file come to as a document; none if they are no text. -/
def documentOf? (bytes : List UInt8) : Option (Except Json.Failure Json.Value) :=
  (String.fromUTF8? bytes.toByteArray).map fun content : String =>
    Json.read (Json.unifyLineEnds content)

/-- What a file holds that no check foresees, and what it comes to. -/
def Unforeseen (bytes : List UInt8) (cause : Breakdown) : Prop :=
  match documentOf? bytes with
  | none => cause = .undecodable
  | some (.error .numeralTooLong) => cause = .numeralTooLong
  | some (.error .tooDeep) => cause = .tooDeep
  | some (.error (.malformed _ _)) => False
  | some (.ok (.object members)) =>
      (cause = .presetNotText ∧ PresetNotText members) ∨
        (cause = .wrongType ∧ ColorNotName members)
  | some (.ok _) => False

section File

variable {files : Files} {path : Path} {bytes : List UInt8}

/-- A file that can be read breaks the reading down just if it holds what is not
foreseen; otherwise it comes to settings or to a problem. -/
theorem load_case (readable : files.read path = .ok bytes) :
    (Foreseen (load files path) ∧ ∀ cause, ¬ Unforeseen bytes cause) ∨
      ∃ cause, load files path = .error (.breakdown cause) ∧
        ∀ other, Unforeseen bytes other ↔ other = cause := by
  simp only [load, readable]
  unfold readDocument Unforeseen documentOf?
  cases String.fromUTF8? bytes.toByteArray with
  | none => exact .inr ⟨.undecodable, rfl, fun _ => Iff.rfl⟩
  | some content =>
      dsimp only [Option.map_some]
      cases Json.read (Json.unifyLineEnds content) with
      | error failure =>
          cases failure with
          | malformed complaint offset => exact .inl ⟨foreseen_problem _, fun _ => id⟩
          | numeralTooLong => exact .inr ⟨.numeralTooLong, rfl, fun _ => Iff.rfl⟩
          | tooDeep => exact .inr ⟨.tooDeep, rfl, fun _ => Iff.rfl⟩
      | ok document =>
          cases document with
          | object members =>
              by_cases unnamed : PresetNotText members
              · refine .inr ⟨.presetNotText, ofEntries_of_presetNotText unnamed, fun other => ?_⟩
                simp [unnamed, not_colorNotName_of_presetNotText unnamed]
              · by_cases colored : ColorNotName members
                · refine .inr ⟨.wrongType, ofEntries_of_colorNotName colored, fun other => ?_⟩
                  simp [unnamed, colored]
                · refine .inl ⟨foreseen_ofEntries unnamed colored, fun cause => ?_⟩
                  simp [unnamed, colored]
          | _ => exact .inl ⟨foreseen_problem _, fun _ => id⟩

end File

end Settings

namespace Program

variable {world : World} {arguments : List Points} {options : CommandLine.Options}
  {least : Log.Level} {path : Path} {failure : Failure}

/-- Settings that cannot be loaded are all that the program comes to. -/
theorem run_of_unloaded (parsed : CommandLine.parse arguments = .ok (.run options))
    (level : options.logLevel = .value least) (given : configPath? options = some path)
    (unloaded : Settings.load world.files path = .error failure) :
    ∃ console : Console, console.Shows least "" ∧ run world arguments = fail console failure := by
  have unresolved : resolve world.files options = .error failure := by
    simp only [resolve, baseSettings, given, unloaded]
    rfl
  refine ⟨_, shows_settingsLog least world.files options, ?_⟩
  simp only [run, parsed, perform, level, performAt, unresolved]

/-- A file of settings that can be read comes to settings or to a problem, unless it
holds one of five things that are not foreseen, and then it comes to the breakdown of
that thing.  A problem is told, and the program ends with code one; a breakdown ends it
without a report. -/
theorem load_readable {bytes : List UInt8} (readable : world.files.read path = .ok bytes) :
    (∀ cause, Settings.load world.files path = .error (.breakdown cause) ↔
      Settings.Unforeseen bytes cause) ∧
    ((∀ cause, ¬ Settings.Unforeseen bytes cause) → Foreseen (Settings.load world.files path)) ∧
    ∀ arguments options least, CommandLine.parse arguments = .ok (.run options) →
      options.logLevel = .value least → configPath? options = some path →
      (∀ problem, Settings.load world.files path = .error (.problem problem) →
        (run world arguments).Tells least "" 1 (some problem.message)) ∧
      ∀ cause, Settings.Unforeseen bytes cause →
        (run world arguments).ending = .crash (.breakdown cause) := by
  have breaks_iff : ∀ cause, Settings.load world.files path = .error (.breakdown cause) ↔
      Settings.Unforeseen bytes cause := by
    intro cause
    rcases Settings.load_case readable with ⟨foreseen, none_such⟩ | ⟨met, breaks, only⟩
    · exact iff_of_false (foreseen.not_breakdown cause) (none_such cause)
    · rw [breaks, only]
      simp [eq_comm]
  refine ⟨breaks_iff, ?_, ?_⟩
  · intro none_such
    rcases Settings.load_case readable with ⟨foreseen, _⟩ | ⟨met, breaks, only⟩
    · exact foreseen
    · exact absurd ((only met).mpr rfl) (none_such met)
  · intro arguments options least parsed level given
    constructor
    · intro problem refused
      obtain ⟨console, shows, ends⟩ := run_of_unloaded parsed level given refused
      rw [ends]
      exact tells_fail shows rfl
    · intro cause unforeseen
      obtain ⟨console, _, ends⟩ :=
        run_of_unloaded parsed level given ((breaks_iff cause).mpr unforeseen)
      rw [ends]
      rfl

/-- The document `{"color":[]}` as its bytes. -/
def listedColor : List UInt8 :=
  [0x7B, 0x22, 0x63, 0x6F, 0x6C, 0x6F, 0x72, 0x22, 0x3A, 0x5B, 0x5D, 0x7D]

/-- Files all of which hold that document. -/
def listed : World where
  files := ⟨fun _ => .ok listedColor, fun _ => .ok []⟩
  random := fun _ => 0
  frames := []

theorem unforeseen_listedColor : Settings.Unforeseen listedColor .wrongType := by
  have decoded : String.fromUTF8? listedColor.toByteArray = some "\x7b\"color\":[]\x7d" := by
    decide +kernel
  have read : Json.read (Json.unifyLineEnds ("\x7b\"color\":[]\x7d" : String)) =
      .ok (.object [("color", .array [])]) := by
    cbv
  have document : Settings.documentOf? listedColor =
      some (.ok (.object [("color", .array [])])) := by
    rw [Settings.documentOf?, decoded]
    exact congrArg some read
  rw [Settings.Unforeseen, document]
  exact .inr ⟨rfl, ⟨.array [], rfl, rfl⟩, .standard, rfl⟩

theorem parse_listed : CommandLine.parse ["--config", "meow.json", "game.ch8", "--headless"] =
    .ok (.run { rom := some ("game.ch8" : Points),
                config := some (.value "meow.json"),
                headless := true }) := by
  decide +kernel

theorem load_readable_listed :
    Settings.load listed.files (.ofText "meow.json") = .error (.breakdown .wrongType) ∧
      (run listed ["--config", "meow.json", "game.ch8", "--headless"]).ending =
        .crash (.breakdown .wrongType) := by
  have readable : listed.files.read (.ofText "meow.json") = .ok listedColor := rfl
  have all := load_readable readable
  exact ⟨(all.1 .wrongType).mpr unforeseen_listedColor,
    (all.2.2 _ _ _ parse_listed rfl rfl).2 .wrongType unforeseen_listedColor⟩

/-- A list in place of a colour is not reported. -/
theorem load_unreported_listed :
    ¬ Foreseen (Settings.load listed.files (.ofText "meow.json")) ∧
      ∀ code, (run listed ["--config", "meow.json", "game.ch8", "--headless"]).ending ≠
        .exit code := by
  have readable : listed.files.read (.ofText "meow.json") = .ok listedColor := rfl
  rcases Settings.load_case readable with ⟨_, none_such⟩ | ⟨cause, breaks, _⟩
  · exact absurd unforeseen_listedColor (none_such .wrongType)
  · refine ⟨fun foreseen => foreseen.not_breakdown cause breaks, fun code ends => ?_⟩
    obtain ⟨console, _, goes⟩ := run_of_unloaded parse_listed rfl rfl breaks
    rw [goes] at ends
    cases ends

end Program
end Chip8
