import Chip8.CommandLine
import Chip8.Text.Numeral

/-!
Reading the command line.  Every argument is first classed by itself: a flag,
a plain word, or the mark after which all words are plain.  Then the flags take
their values and the first plain word left over names the program; what nobody
takes is reported at the end.
-/

namespace Chip8.CommandLine

/-- What an argument is by itself. -/
inductive Class where
  /-- The mark that ends the flags. -/
  | separator
  | plain
  /-- A flag, the full name it was recognised by, and the text behind it in the
  same argument. -/
  | flag (flag : Flag) (name : String) (tail : Option Points)
  /-- Something that looks like a flag and is none. -/
  | unknown
deriving DecidableEq, Repr

/-- An argument with its class. -/
structure Word where
  text : Points
  kind : Class
deriving DecidableEq, Repr

/-- Whether all of a nonempty text is decimal digits. -/
def allDigits (text : List Char) : Bool :=
  !text.isEmpty && text.all fun c => (Numeral.digit? c).isSome

/-- Whether a text is a negative number, with or without a fraction; a line end
behind it does not matter. -/
def isNegativeNumber (text : Points) : Bool :=
  match text.toString.toList with
  | '-' :: rest =>
      let rest := if rest.getLast? = some '\n' then rest.dropLast else rest
      match rest.span (· != '.') with
      | (whole, '.' :: fraction) => whole.all (fun c => (Numeral.digit? c).isSome) &&
          allDigits fraction
      | (whole, _) => allDigits whole
  | _ => false

def equalsSign : Nat := 0x3D

/-- A text cut at its first equals sign. -/
def splitValue (text : Points) : Points × Option Points :=
  match text.points.span (· != equalsSign) with
  | (name, _ :: value) => (⟨name⟩, some ⟨value⟩)
  | (_, []) => (text, none)

/-- The flags that a text which is no full name may stand for: a short flag with
something behind it, or the long ones that it begins. -/
def candidates (text : Points) : List Class :=
  if text.startsWith "--" then
    let (start, tail) := splitValue text
    (Flag.spellings.filter fun (name, _) => Points.startsWith name start).map
      fun (name, flag) => .flag flag name tail
  else
    let short : Points := ⟨text.points.take 2⟩
    (Flag.spellings.filter fun (name, _) => short == name).map
      fun (name, flag) => .flag flag name (some ⟨text.points.drop 2⟩)

/-- The name a candidate was recognised by. -/
def Class.name : Class → String
  | .flag _ name _ => name
  | _ => ""

/-- The class of an argument that stands before the mark. -/
def classify (text : Points) : Except Mistake Class :=
  if !text.startsWith "-" || text == "-" then .ok .plain
  else
    match Flag.find? text with
    | some (name, flag) => .ok (.flag flag name none)
    | none =>
        let (start, tail) := splitValue text
        match Flag.find? start with
        | some (name, flag) => .ok (.flag flag name tail)
        | none =>
            match candidates text with
            | [candidate] => .ok candidate
            | [] =>
                if isNegativeNumber text || text.contains 0x20 then .ok .plain
                else .ok .unknown
            | several => .error (.ambiguous text (several.map Class.name))

/-- The mark that ends the flags. -/
def mark : Points := "--"

def classifyAll : List Points → Except Mistake (List Word)
  | [] => .ok []
  | text :: rest =>
      if text = mark then .ok (⟨text, .separator⟩ :: rest.map (⟨·, .plain⟩))
      else do
        let kind ← classify text
        return ⟨text, kind⟩ :: (← classifyAll rest)

/-- A flag to act on, with its value if it takes one. -/
abbrev Action := Flag × Option Points

/-- What one flag argument comes to. -/
structure Reading where
  actions : List Action
  /-- The flag that still waits for the next argument as its value. -/
  waiting : Option Flag := none
deriving DecidableEq, Repr

/-- The reading of a flag with a text behind it.  A flag with a value takes the
text.  Behind a short flag without a value come further short flags, and a long
one takes nothing. -/
def readJoined (flag : Flag) (name : String) : List Nat → Except Mistake Reading
  | [] =>
      if flag.takesValue then .ok ⟨[(flag, some "")], none⟩
      else .error (.unwantedValue flag "")
  | point :: rest =>
      let value : Points := ⟨point :: rest⟩
      if flag.takesValue then .ok ⟨[(flag, some value)], none⟩
      else if name.startsWith "--" then .error (.unwantedValue flag value)
      else
        match Flag.find? ("-" ++ ⟨[point]⟩), rest with
        | none, _ => .error (.unwantedValue flag value)
        | some (_, following), [] =>
            if following.takesValue then .ok ⟨[(flag, none)], some following⟩
            else .ok ⟨[(flag, none), (following, none)], none⟩
        | some (next, following), other :: more => do
            let reading ← readJoined following next (other :: more)
            return { reading with actions := (flag, none) :: reading.actions }

def readFlag (flag : Flag) (name : String) : Option Points → Except Mistake Reading
  | some text => readJoined flag name text.points
  | none =>
      if flag.takesValue then .ok ⟨[], some flag⟩
      else .ok ⟨[(flag, none)], none⟩

/-- The number of a value.  What no string can hold is no part of a numeral, and
neither is the mark in its place. -/
def numberOf (flag : Flag) (text : Points) : Except Mistake Int :=
  match Numeral.readInt? text.toString with
  | some value => .ok value
  | none => .error (.notANumber flag text)

def choiceOf {α : Type} (flag : Flag) (text : Points) (choices : List (String × α)) :
    Except Mistake α :=
  match choices.find? fun (name, _) => text == name with
  | some (_, choice) => .ok choice
  | none => .error (.notAChoice flag text (choices.map (·.1)))

def presetChoices : List (String × Preset) :=
  Preset.all.map fun preset => (preset.name, preset)

def colorChoices : List (String × Color) :=
  [Color.amber, .blue, .green, .white].map fun color => (color.name, color)

def levelChoices : List (String × Log.Level) :=
  Log.Level.all.map fun level => (level.name, level)

/-- What the text behind a flag gives.  The mark gives nothing and is not read. -/
def givenOf {α : Type} (read : Points → Except Mistake α) :
    Option Points → Except Mistake (Given α)
  | none => .ok .nothing
  | some text => if text = mark then .ok .nothing else .value <$> read text

/-- What a flag makes of the options; none if it asks for help. -/
def act (options : Options) : Action → Except Mistake (Option Options)
  | (.help, _) => .ok none
  | (.headless, _) => .ok (some { options with headless := true })
  | (.disassemble, _) => .ok (some { options with disassemble := true })
  | (.config, text) => do
      return some { options with config := some (← givenOf .ok text) }
  | (.preset, text) => do
      let preset ← givenOf (choiceOf .preset · presetChoices) text
      return some { options with preset := some preset }
  | (.color, text) => do
      let color ← givenOf (choiceOf .color · colorChoices) text
      return some { options with color := some color }
  | (.logLevel, text) => do
      return some { options with logLevel := ← givenOf (choiceOf .logLevel · levelChoices) text }
  | (.clockHz, text) => do
      return some { options with clockHz := some (← givenOf (numberOf .clockHz) text) }
  | (.timerHz, text) => do
      return some { options with timerHz := some (← givenOf (numberOf .timerHz) text) }
  | (.scale, text) => do
      return some { options with scale := some (← givenOf (numberOf .scale) text) }
  | (.cycles, text) => do
      return some { options with cycles := ← givenOf (numberOf .cycles) text }

/-- What flags make of the options one after the other; none if one of them
asks for help. -/
def actAll (options : Options) : List Action → Except Mistake (Option Options)
  | [] => .ok (some options)
  | action :: rest => do
      match ← act options action with
      | none => return none
      | some options => actAll options rest

/-- The words after the last flag: the first plain one names the program, unless
one before did.  The mark goes with the word beside it. -/
def finish (options : Options) (named : Bool) (words : List Word) : Options × List Points :=
  let texts := words.map Word.text
  if named then (options, texts)
  else
    match words with
    | [] => (options, [])
    | ⟨_, .separator⟩ :: ⟨text, _⟩ :: _ => ({ options with rom := some text }, texts.drop 2)
    | ⟨_, .separator⟩ :: [] => (options, [])
    | ⟨text, _⟩ :: ⟨_, .separator⟩ :: _ => ({ options with rom := some text }, texts.drop 2)
    | ⟨text, _⟩ :: _ => ({ options with rom := some text }, texts.drop 1)

/-- Whether an argument is, or looks like, a flag. -/
def Word.isFlag (word : Word) : Bool :=
  match word.kind with
  | .flag .. | .unknown => true
  | _ => false

/-- Go through the words.  `named` tells whether the program has been named, and
`left` holds the arguments nobody took, last first. -/
def consume (options : Options) (named : Bool) (left : List Points) (words : List Word) :
    Except Mistake Request :=
  if !words.any Word.isFlag then
    let (options, more) := finish options named words
    match left.reverse ++ more with
    | [] => .ok (.run options)
    | arguments => .error (.unrecognized arguments)
  else
    match words with
    | [] => .ok (.run options)
    | ⟨text, .unknown⟩ :: rest => consume options named (text :: left) rest
    | ⟨_, .flag flag name tail⟩ :: rest =>
        match readFlag flag name tail with
        | .error mistake => .error mistake
        | .ok ⟨actions, none⟩ =>
            match actAll options actions with
            | .error mistake => .error mistake
            | .ok none => .ok .help
            | .ok (some options) => consume options named left rest
        | .ok ⟨actions, some waiting⟩ =>
            match rest with
            | ⟨text, .plain⟩ :: rest =>
                match actAll options (actions ++ [(waiting, some text)]) with
                | .error mistake => .error mistake
                | .ok none => .ok .help
                | .ok (some options) => consume options named left rest
            | _ => .error (.missingValue waiting)
    | ⟨text, _⟩ :: rest =>
        if named then consume options named (text :: left) rest
        else consume { options with rom := some text } true left rest
termination_by words.length

def parse (arguments : List Points) : Except Mistake Request := do
  consume {} false [] (← classifyAll arguments)

end Chip8.CommandLine
