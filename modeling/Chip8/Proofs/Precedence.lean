import Chip8.Proofs.Acceptance

/-!
Flags over file over standard.  The settings to run with are those of the flags that are
given, where none is given those of the document, and where it has none the standard
ones, each for itself.  The document is read first and as a whole, so what is wrong with
it is told even where a flag would take its place.
-/

namespace Chip8

open Json (member?)

/-- What the flags for the settings say, each of them given or not. -/
structure Flags where
  preset : Option Preset
  clockHz : Option Int
  timerHz : Option Int
  scale : Option Int
  color : Option Color

namespace Flags

/-- Options with these flags in place of their own. -/
def on (flags : Flags) (options : CommandLine.Options) : CommandLine.Options :=
  { options with
    preset := flags.preset.map .value
    clockHz := flags.clockHz.map .value
    timerHz := flags.timerHz.map .value
    scale := flags.scale.map .value
    color := flags.color.map .value }

/-- The flags with numbers, under the names of their settings and in the order in which
they are looked at. -/
def numbers (flags : Flags) : List (String × Option Int) :=
  [("clock_hz", flags.clockHz), ("timer_hz", flags.timerHz), ("scale", flags.scale)]

/-- Every number given is above zero. -/
def AllPositive (flags : Flags) : Prop :=
  ∀ flag ∈ flags.numbers, ∀ number, flag.2 = some number → 0 < number

/-- The first number given that is not above zero. -/
def refused? (flags : Flags) : Option (String × Int) :=
  flags.numbers.findSome? fun (name, number?) =>
    (number?.filter (· ≤ 0)).map fun number => (name, number)

/-- What the settings are with flags over a document: each is what its flag says, and
without a flag what the document makes it. -/
structure Over (flags : Flags) (members : List (Points × Json.Value)) (settings : Settings) :
    Prop where
  clockHz : flags.clockHz.elim
    (Settings.NumberTaken (member? "clock_hz" members) 500 settings.clockHz.val)
    (fun number => settings.clockHz.val = number)
  timerHz : flags.timerHz.elim
    (Settings.NumberTaken (member? "timer_hz" members) 60 settings.timerHz.val)
    (fun number => settings.timerHz.val = number)
  inputHz : Settings.NumberTaken (member? "input_hz" members) 60 settings.inputHz.val
  scale : flags.scale.elim
    (Settings.NumberTaken (member? "scale" members) 12 settings.scale.val)
    (fun number => settings.scale.val = number)
  color : flags.color.elim
    (Settings.ColorTaken (member? "color" members) .green settings.color)
    (fun color => settings.color = color)
  dialect : flags.preset.elim
    (Dialect.Means (member? "quirks" members) settings.dialect)
    (fun preset => settings.dialect = preset.dialect)

/-- The changes that flags ask for. -/
def changes (flags : Flags) : Settings.Changes where
  clockHz := flags.clockHz.map .integer
  timerHz := flags.timerHz.map .integer
  scale := flags.scale.map .integer
  color := flags.color.map fun color => .text color.name
  dialect := flags.preset.map Preset.dialect

theorem flagChanges_on (flags : Flags) (options : CommandLine.Options) :
    Program.flagChanges (flags.on options) = flags.changes := by
  obtain ⟨preset, clockHz, timerHz, scale, color⟩ := flags
  cases preset <;> simp [Program.flagChanges, Program.flagDialect?, on, changes,
    Function.comp_def, Program.documentValue]

end Flags

/-! A change by flags. -/

namespace Settings

variable {flags : Flags} {base : Settings}

/-- A number flag is passed over, or it sets its number, or it is refused. -/
theorem number_flag (name : String) (kept : Positive) (flag : Option Int) :
    flag.filter (· ≤ 0) = none ∧
        (∃ number, Settings.number name kept (flag.map .integer) = .ok number) ∨
      ∃ number, flag.filter (· ≤ 0) = some number ∧
        Settings.number name kept (flag.map .integer) =
          .error (.problem (.notPositive name (.integer number))) := by
  cases flag with
  | none => exact .inl ⟨rfl, kept, rfl⟩
  | some number =>
      by_cases positive : 0 < number
      · have above : 0 < number.toNat := by omega
        refine .inl ⟨by simpa using positive, ⟨number.toNat, above⟩, ?_⟩
        rw [Option.map_some, Settings.number, dif_pos above]
      · have low : number ≤ 0 := by omega
        have none_above : ¬ 0 < number.toNat := by omega
        refine .inr ⟨number, by simp [low], ?_⟩
        rw [Option.map_some, Settings.number, dif_neg none_above]

theorem override_of_refused {name : String} {number : Int}
    (refused : flags.refused? = some (name, number)) :
    base.override flags.changes = .error (.problem (.notPositive name (.integer number))) := by
  simp only [Flags.refused?, Flags.numbers, List.findSome?_cons, List.findSome?_nil] at refused
  unfold override
  rcases number_flag "clock_hz" base.clockHz flags.clockHz with ⟨clock, _, sets⟩ | ⟨_, clock, stops⟩
  · rcases number_flag "timer_hz" base.timerHz flags.timerHz with
      ⟨timer, _, sets'⟩ | ⟨_, timer, stops⟩
    · rcases number_flag "scale" base.scale flags.scale with ⟨scale, _, -⟩ | ⟨_, scale, stops⟩
      · simp [clock, timer, scale] at refused
      · simp only [clock, timer, scale, Option.map_none, Option.map_some, Option.some.injEq,
          Prod.mk.injEq] at refused
        obtain ⟨rfl, rfl⟩ := refused
        simp only [Flags.changes, sets, sets', stops]
        rfl
    · simp only [clock, timer, Option.map_none, Option.map_some, Option.some.injEq,
        Prod.mk.injEq] at refused
      obtain ⟨rfl, rfl⟩ := refused
      simp only [Flags.changes, sets, stops]
      rfl
  · simp only [clock, Option.map_some, Option.some.injEq, Prod.mk.injEq] at refused
    obtain ⟨rfl, rfl⟩ := refused
    simp only [Flags.changes, stops]
    rfl

theorem numberTaken_flag {flag : Option Int} {kept : Nat} {number : Positive} :
    NumberTaken (flag.map .integer) kept number.val ↔
      flag.elim (number.val = kept) fun asked => number.val = asked := by
  cases flag with
  | none => rfl
  | some asked => simp [NumberTaken, eq_comm]

theorem colorTaken_flag {flag : Option Color} {kept color : Color} :
    ColorTaken (flag.map fun color => .text color.name) kept color ↔
      flag.elim (color = kept) fun asked => color = asked := by
  cases flag with
  | none => rfl
  | some asked =>
      simp only [ColorTaken, Option.map_some, Json.Value.text.injEq, Option.elim]
      exact ⟨fun same => (Color.name_injective same).symm, fun same => by rw [same]⟩

theorem exists_override_iff (base : Settings) (flags : Flags) :
    (∃ changed, base.override flags.changes = .ok changed) ↔ flags.AllPositive := by
  simp only [Flags.AllPositive, Flags.numbers, List.forall_mem_cons, List.not_mem_nil,
    false_imp_iff, implies_true, and_true]
  have good_iff : ∀ flag : Option Int,
      (∀ value, flag.map Json.Value.integer = some value →
        ∃ number : Int, value = .integer number ∧ 0 < number) ↔
      ∀ number, flag = some number → 0 < number := by
    rintro (- | number) <;> simp
  constructor
  · rintro ⟨changed, changes⟩
    obtain ⟨clock, timer, -, scale, -⟩ := override_eq_ok_iff.mp changes
    exact ⟨(good_iff _).mp clock.good, (good_iff _).mp timer.good, (good_iff _).mp scale.good⟩
  · rintro ⟨clock, timer, scale⟩
    obtain ⟨clockHz, clock⟩ := exists_numberTaken base.clockHz ((good_iff _).mpr clock)
    obtain ⟨timerHz, timer⟩ := exists_numberTaken base.timerHz ((good_iff _).mpr timer)
    obtain ⟨scaled, scale⟩ := exists_numberTaken base.scale ((good_iff _).mpr scale)
    exact ⟨⟨clockHz, timerHz, base.inputHz, scaled, flags.color.getD base.color,
      (flags.preset.map Preset.dialect).getD base.dialect⟩, override_eq_ok_iff.mpr
        ⟨clock, timer, rfl, scale, colorTaken_flag.mpr (by cases flags.color <;> rfl), rfl⟩⟩

/-- Without a flag the number is the one under it. -/
theorem NumberTaken.under_flag {flag : Option Int} {given? : Option Json.Value} {standard : Nat}
    {kept number : Positive} (under : NumberTaken given? standard kept.val)
    (taken : NumberTaken (flag.map .integer) kept.val number.val) :
    flag.elim (NumberTaken given? standard number.val) fun asked => number.val = asked := by
  cases flag with
  | none =>
      have same : number.val = kept.val := taken
      rwa [Option.elim, same]
  | some asked => exact numberTaken_flag.mp taken

/-- Without a flag the colour is the one under it. -/
theorem ColorTaken.under_flag {flag : Option Color} {given? : Option Json.Value}
    {standard kept color : Color} (under : ColorTaken given? standard kept)
    (taken : ColorTaken (flag.map fun color => .text color.name) kept color) :
    flag.elim (ColorTaken given? standard color) fun asked => color = asked := by
  cases flag with
  | none =>
      have same : color = kept := taken
      rwa [Option.elim, same]
  | some asked => exact colorTaken_flag.mp taken

/-- What lies under the flags shows through where none is given. -/
theorem over_of_override {members : List (Points × Json.Value)} {changed : Settings}
    (means : Means members base) (changes : base.override flags.changes = .ok changed) :
    flags.Over members changed := by
  obtain ⟨clock, timer, input, scale, color, dialect⟩ := override_eq_ok_iff.mp changes
  refine ⟨means.clockHz.under_flag clock, means.timerHz.under_flag timer, ?_,
    means.scale.under_flag scale, means.color.under_flag color, ?_⟩
  · have same : changed.inputHz.val = base.inputHz.val := input
    rw [same]
    exact means.inputHz
  · rw [dialect]
    cases given : flags.preset with
    | none => simpa [Flags.changes, given] using means.dialect
    | some preset => simp [Flags.changes, given]

/-! The document. -/

theorem means_standard : Means [] standard :=
  ⟨rfl, rfl, rfl, rfl, rfl, {}, rfl, fun _ => rfl⟩

/-- The settings of a file are those of the object that it holds. -/
theorem load_eq_ok_iff {files : Files} {path : Path} {settings : Settings} :
    load files path = .ok settings ↔
      ∃ bytes members, files.read path = .ok bytes ∧
        documentOf? bytes = some (.ok (.object members)) ∧
        ofEntries ⟨members, false⟩ = .ok settings := by
  unfold load
  cases readable : files.read path with
  | error fault =>
      refine iff_of_false ?_ (by simp)
      dsimp only
      split <;> simp
  | ok bytes =>
      simp only [bind_eq_ok_iff, Except.ok.injEq, exists_and_left, exists_eq_left']
      unfold readDocument documentOf?
      cases String.fromUTF8? bytes.toByteArray with
      | none => simp
      | some content =>
          simp only [Option.map_some, Option.some.injEq]
          cases Json.read (Json.unifyLineEnds content) with
          | error failure => cases failure <;> simp
          | ok document => cases document <;> simp [throw, throwThe, MonadExceptOf.throw]

end Settings

namespace Program

/-- The members of the document in the file of settings; without a file there are
none. -/
def HasDocument (files : Files) (options : CommandLine.Options)
    (members : List (Points × Json.Value)) : Prop :=
  match configPath? options with
  | none => members = []
  | some path => ∃ bytes, files.read path = .ok bytes ∧
      Settings.documentOf? bytes = some (.ok (.object members))

/-- The file of settings, if there is one, is accepted. -/
def FileAccepted (files : Files) (options : CommandLine.Options) : Prop :=
  ∀ path, configPath? options = some path → ∃ settings, Settings.load files path = .ok settings

variable {files : Files} {options : CommandLine.Options} {base : Settings}

theorem exists_baseSettings_iff :
    (∃ base, baseSettings files options = .ok base) ↔ FileAccepted files options := by
  unfold baseSettings FileAccepted
  cases configPath? options with
  | none => simp
  | some path => simp

theorem means_of_baseSettings (found : baseSettings files options = .ok base) :
    ∃ members, HasDocument files options members ∧ Settings.Means members base := by
  unfold baseSettings at found
  unfold HasDocument
  cases given : configPath? options with
  | none =>
      rw [given] at found
      obtain rfl := Except.ok.inj found
      exact ⟨[], rfl, Settings.means_standard⟩
  | some path =>
      rw [given] at found
      obtain ⟨bytes, members, readable, document, reads⟩ := Settings.load_eq_ok_iff.mp found
      refine ⟨members, ⟨bytes, readable, document⟩, ?_⟩
      obtain ⟨content, -, parsed⟩ := Option.map_eq_some_iff.mp document
      cases Json.unambiguous_of_read parsed with
      | object distinct inside => exact (Settings.of_ofEntries inside reads).2

theorem resolve_on (files : Files) (options : CommandLine.Options) (flags : Flags) :
    resolve files (flags.on options) =
      (baseSettings files options >>= fun base => base.override flags.changes) := by
  rw [resolve, Flags.flagChanges_on]
  rfl

/-- The order of precedence among flags, file and standard. -/
structure Precedence (files : Files) (options : CommandLine.Options) (flags : Flags) : Prop where
  accepted : (∃ settings, resolve files (flags.on options) = .ok settings) ↔
    FileAccepted files options ∧ flags.AllPositive
  layered : ∀ settings, resolve files (flags.on options) = .ok settings →
    ∃ members, HasDocument files options members ∧ flags.Over members settings
  /-- What is wrong with the file is told whatever the flags are. -/
  fileFirst : ∀ path failure, configPath? options = some path →
    Settings.load files path = .error failure →
    resolve files (flags.on options) = .error failure
  /-- With nothing wrong in the file the first number that is not above zero is told. -/
  flagRefused : FileAccepted files options → ∀ name number,
    flags.refused? = some (name, number) →
    resolve files (flags.on options) = .error (.problem (.notPositive name (.integer number)))

/-- The settings to run with, for all documents and all flags. -/
theorem resolve_precedence (files : Files) (options : CommandLine.Options) (flags : Flags) :
    Precedence files options flags where
  accepted := by
    simp only [resolve_on, bind_eq_ok_iff, ← exists_baseSettings_iff]
    constructor
    · rintro ⟨settings, base, found, changes⟩
      exact ⟨⟨base, found⟩, (Settings.exists_override_iff base flags).mp ⟨settings, changes⟩⟩
    · rintro ⟨⟨base, found⟩, positive⟩
      obtain ⟨settings, changes⟩ := (Settings.exists_override_iff base flags).mpr positive
      exact ⟨settings, base, found, changes⟩
  layered settings resolved := by
    rw [resolve_on, bind_eq_ok_iff] at resolved
    obtain ⟨base, found, changes⟩ := resolved
    obtain ⟨members, document, means⟩ := means_of_baseSettings found
    exact ⟨members, document, Settings.over_of_override means changes⟩
  fileFirst path failure given refused := by
    rw [resolve_on, baseSettings, given]
    dsimp only
    rw [refused]
    rfl
  flagRefused accepted name number refused := by
    obtain ⟨base, found⟩ := exists_baseSettings_iff.mpr accepted
    rw [resolve_on, found]
    exact Settings.override_of_refused refused

end Program
end Chip8
