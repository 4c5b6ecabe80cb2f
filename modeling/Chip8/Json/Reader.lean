import Chip8.Decimal.Binary64
import Chip8.Json.Value
import Chip8.Text.Numeral

/-!
Reading documents.  The reader goes through the code points once and, where the
text is not a document, says what it missed and at which code point.
-/

namespace Chip8.Json

namespace Mark

/-! The code points that mean something in a document. -/

@[match_pattern] abbrev lineFeed : Nat := 0x0A
@[match_pattern] abbrev carriageReturn : Nat := 0x0D
@[match_pattern] abbrev quote : Nat := 0x22
@[match_pattern] abbrev plus : Nat := 0x2B
@[match_pattern] abbrev comma : Nat := 0x2C
@[match_pattern] abbrev minus : Nat := 0x2D
@[match_pattern] abbrev point : Nat := 0x2E
@[match_pattern] abbrev zero : Nat := 0x30
@[match_pattern] abbrev colon : Nat := 0x3A
@[match_pattern] abbrev openBracket : Nat := 0x5B
@[match_pattern] abbrev backslash : Nat := 0x5C
@[match_pattern] abbrev closeBracket : Nat := 0x5D
@[match_pattern] abbrev letterU : Nat := 0x75
@[match_pattern] abbrev openBrace : Nat := 0x7B
@[match_pattern] abbrev closeBrace : Nat := 0x7D

end Mark

/-- What the reader misses, or meets where it should not. -/
inductive Complaint where
  | value
  | memberName
  | colon
  | comma
  | extraData
  | unterminatedText
  | controlCharacter
  | escape
  | unicodeEscape
  | byteOrderMark
deriving DecidableEq, Repr

def Complaint.message : Complaint → String
  | .value => "Expecting value"
  | .memberName => "Expecting property name enclosed in double quotes"
  | .colon => "Expecting ':' delimiter"
  | .comma => "Expecting ',' delimiter"
  | .extraData => "Extra data"
  | .unterminatedText => "Unterminated string starting at"
  | .controlCharacter => "Invalid control character at"
  | .escape => "Invalid \\escape"
  | .unicodeEscape => "Invalid \\uXXXX escape"
  | .byteOrderMark => "Unexpected UTF-8 BOM (decode using utf-8-sig)"

/-- Why a text is not read. -/
inductive Failure where
  /-- The text is no document. -/
  | malformed (complaint : Complaint) (offset : Nat)
  /-- The text has a numeral of too many digits. -/
  | numeralTooLong
  /-- The text has too many brackets inside brackets. -/
  | tooDeep
deriving DecidableEq, Repr

/-- The line and the column of a code point, both counted from one. -/
def position (text : Points) (offset : Nat) : Nat × Nat :=
  let before := text.points.take offset
  (before.count Mark.lineFeed + 1, (before.reverse.takeWhile (· != Mark.lineFeed)).length + 1)

/-- A complaint with its place in the text. -/
def Complaint.located (complaint : Complaint) (text : Points) (offset : Nat) : String :=
  let (line, column) := position text offset
  complaint.message ++ ": line " ++ toString line ++ " column " ++ toString column ++
    " (char " ++ toString offset ++ ")"

/-- What is left of a text, and how many code points came before. -/
structure Cursor where
  rest : List Nat
  offset : Nat

def complain {α : Type} (complaint : Complaint) (offset : Nat) : Except Failure α :=
  .error (.malformed complaint offset)

/-- Whether a code point may stand between the tokens of a document. -/
def isSpace (point : Nat) : Bool :=
  point == 0x20 || point == 0x09 || point == Mark.lineFeed || point == Mark.carriageReturn

/-- Go to the next token. -/
def Cursor.skip (cursor : Cursor) : Cursor :=
  { rest := cursor.rest.dropWhile isSpace
    offset := cursor.offset + (cursor.rest.takeWhile isSpace).length }

/-- Go past some code points. -/
def Cursor.advance (cursor : Cursor) (count : Nat) : Cursor :=
  { rest := cursor.rest.drop count, offset := cursor.offset + count }

def hexDigit? (point : Nat) : Option Nat :=
  if 0x30 ≤ point ∧ point ≤ 0x39 then some (point - 0x30)
  else if 0x61 ≤ point ∧ point ≤ 0x66 then some (point - 0x61 + 10)
  else if 0x41 ≤ point ∧ point ≤ 0x46 then some (point - 0x41 + 10)
  else none

/-- The number of four hexadecimal digits at the front. -/
def fourDigits? : List Nat → Option Nat
  | a :: b :: c :: d :: _ => do
      return (((← hexDigit? a) * 16 + (← hexDigit? b)) * 16 + (← hexDigit? c)) * 16 +
        (← hexDigit? d)
  | _ => none

def isHighSurrogate (point : Nat) : Bool := 0xD800 ≤ point && point < 0xDC00

def isLowSurrogate (point : Nat) : Bool := 0xDC00 ≤ point && point < 0xE000

def joinSurrogates (high low : Nat) : Nat :=
  0x10000 + (high - 0xD800) * 0x400 + (low - 0xDC00)

/-- The rest of a numbered escape whose `u` stands at `offset`: its code point,
and how many more after the `u` it takes.  Some code point must follow the four
digits.  A second escape is looked at if the first is half of a pair and
the text goes on behind it. -/
def numberedEscape (offset : Nat) (rest : List Nat) : Except Failure (Nat × Nat) :=
  if rest.length < 5 then complain .unicodeEscape offset
  else
    match fourDigits? rest with
    | none => complain .unicodeEscape offset
    | some point =>
        match rest.drop 4 with
        | Mark.backslash :: Mark.letterU :: more =>
            if isHighSurrogate point && 4 < more.length then
              match fourDigits? more with
              | none => complain .unicodeEscape (offset + 6)
              | some second =>
                  if isLowSurrogate second then .ok (joinSurrogates point second, 10)
                  else .ok (point, 4)
            else .ok (point, 4)
        | _ => .ok (point, 4)

/-- The escapes of one letter or mark, with the code points they stand for. -/
def escapes : List (Nat × Nat) :=
  [(Mark.quote, Mark.quote), (Mark.backslash, Mark.backslash), (0x2F, 0x2F), (0x62, 0x08),
   (0x66, 0x0C), (0x6E, 0x0A), (0x72, 0x0D), (0x74, 0x09)]

/-- The escape behind a backslash at `offset`: its code point, and how many after
the backslash it takes.  The text it stands in starts at `start`. -/
def readEscape (start offset : Nat) : List Nat → Except Failure (Nat × Nat)
  | [] => complain .unterminatedText start
  | Mark.letterU :: rest => do
      let (point, taken) ← numberedEscape (offset + 1) rest
      return (point, taken + 1)
  | letter :: _ =>
      match escapes.lookup letter with
      | some point => .ok (point, 1)
      | none => complain .escape offset

/-- The rest of a text whose opening quote stands at `start`; the code points
read so far are in `read`, last first. -/
def readText (start offset : Nat) (read : List Nat) :
    List Nat → Except Failure (Points × Cursor)
  | [] => complain .unterminatedText start
  | Mark.quote :: rest => .ok (⟨read.reverse⟩, ⟨rest, offset + 1⟩)
  | Mark.backslash :: rest =>
      match readEscape start offset rest with
      | .error failure => .error failure
      | .ok (point, taken) =>
          readText start (offset + 1 + taken) (point :: read) (rest.drop taken)
  | point :: rest =>
      if point < 0x20 then complain .controlCharacter offset
      else readText start (offset + 1) (point :: read) rest
termination_by text => text.length
decreasing_by
  · simp only [List.length_drop, List.length_cons]
    omega
  · simp only [List.length_cons]
    omega

def isDigit (point : Nat) : Bool := 0x30 ≤ point && point ≤ 0x39

/-- The digits at the front, and what follows them. -/
def takeDigits (text : List Nat) : List Nat × List Nat :=
  (text.takeWhile isDigit, text.dropWhile isDigit)

/-- The whole part of a numeral: a zero alone, or digits that start with
another digit. -/
def wholePart? : List Nat → Option (List Nat × List Nat)
  | Mark.zero :: rest => some ([Mark.zero], rest)
  | text => match takeDigits text with
      | ([], _) => none
      | found => some found

/-- The digits behind a point, if a digit stands there. -/
def fractionPart? : List Nat → Option (List Nat × List Nat)
  | Mark.point :: rest => match takeDigits rest with
      | ([], _) => none
      | found => some found
  | _ => none

/-- The sign and the digits of an exponent, if a digit stands there. -/
def exponentPart? : List Nat → Option (Bool × List Nat × List Nat)
  | letter :: rest =>
      if letter == 0x65 || letter == 0x45 then
        let (negative, rest) := match rest with
          | Mark.minus :: rest => (true, rest)
          | Mark.plus :: rest => (false, rest)
          | rest => (false, rest)
        match takeDigits rest with
        | ([], _) => none
        | (digits, rest) => some (negative, digits, rest)
      else none
  | [] => none

def digitsValue (digits : List Nat) : Nat :=
  Numeral.ofDigits (digits.map (· - Mark.zero))

/-- The numeral at the front, the longest there is, and what follows it.  With
a fraction or an exponent it is a real number and else a whole one. -/
def readNumber (cursor : Cursor) : Except Failure (Value × Cursor) :=
  let (negative, unsigned) := match cursor.rest with
    | Mark.minus :: rest => (true, rest)
    | rest => (false, rest)
  match wholePart? unsigned with
  | none => complain .value cursor.offset
  | some (whole, rest) =>
      let fraction := fractionPart? rest
      let (decimals, rest) := fraction.getD ([], rest)
      let exponent := exponentPart? rest
      let (exponentNegative, exponentDigits, rest) := exponent.getD (false, [], rest)
      let after : Cursor := cursor.advance (cursor.rest.length - rest.length)
      if fraction.isSome || exponent.isSome then
        let size : Int := digitsValue exponentDigits
        let power := (if exponentNegative then -size else size) - decimals.length
        .ok (.real (Binary64.read negative (digitsValue (whole ++ decimals)) power), after)
      else if Numeral.digitLimit < whole.length then .error .numeralTooLong
      else
        let value : Int := digitsValue whole
        .ok (.integer (if negative then -value else value), after)

/-- The values that are words. -/
def constants : List (Points × Value) :=
  [("null", .null), ("true", .boolean true), ("false", .boolean false),
   ("NaN", .real (Float.ofBits 0x7FF8000000000000)),
   ("Infinity", .real (Float.ofBits 0x7FF0000000000000)),
   ("-Infinity", .real (Float.ofBits 0xFFF0000000000000))]

/-- The word at the front, or else the numeral. -/
def readScalar (cursor : Cursor) : Except Failure (Value × Cursor) :=
  match constants.find? fun (word, _) => word.points.isPrefixOf cursor.rest with
  | some (word, value) => .ok (value, cursor.advance word.points.length)
  | none => readNumber cursor

/-- How many brackets may stand inside each other. -/
def depthLimit : Nat := 990

mutual

/-- The value at the front.  The first argument bounds how far the reading may
go.  A bracket costs two of it, one for itself and one for what it holds, and
takes a code point of the text; so twice their number and one are enough.  The
second argument is how many brackets may still be opened inside each other. -/
def readValue : Nat → Nat → Cursor → Except Failure (Value × Cursor)
  | 0, _, cursor => complain .value cursor.offset
  | bound + 1, depth, cursor =>
      match cursor.rest, depth with
      | Mark.quote :: rest, _ => do
          let (text, after) ← readText cursor.offset (cursor.offset + 1) [] rest
          return (.text text, after)
      | Mark.openBrace :: _, 0 => .error .tooDeep
      | Mark.openBrace :: _, depth + 1 =>
          let inside := (cursor.advance 1).skip
          match inside.rest with
          | Mark.closeBrace :: _ => .ok (.object [], inside.advance 1)
          | _ => readMembers bound depth inside []
      | Mark.openBracket :: _, 0 => .error .tooDeep
      | Mark.openBracket :: _, depth + 1 =>
          let inside := (cursor.advance 1).skip
          match inside.rest with
          | Mark.closeBracket :: _ => .ok (.array [], inside.advance 1)
          | _ => readItems bound depth inside []
      | _, _ => readScalar cursor

/-- The members of an object from the next name on. -/
def readMembers : Nat → Nat → Cursor → List (Points × Value) →
    Except Failure (Value × Cursor)
  | 0, _, cursor, _ => complain .value cursor.offset
  | bound + 1, depth, cursor, members =>
      match cursor.rest with
      | Mark.quote :: rest => do
          let (name, after) ← readText cursor.offset (cursor.offset + 1) [] rest
          let colon := after.skip
          match colon.rest with
          | Mark.colon :: _ =>
              let (value, after) ← readValue bound depth (colon.advance 1).skip
              let members := insertMember name value members
              let next := after.skip
              match next.rest with
              | Mark.closeBrace :: _ => return (.object members, next.advance 1)
              | Mark.comma :: _ => readMembers bound depth (next.advance 1).skip members
              | _ => complain .comma next.offset
          | _ => complain .colon colon.offset
      | _ => complain .memberName cursor.offset

/-- The items of an array from the next one on, those before it last first. -/
def readItems : Nat → Nat → Cursor → List Value → Except Failure (Value × Cursor)
  | 0, _, cursor, _ => complain .value cursor.offset
  | bound + 1, depth, cursor, items => do
      let (item, after) ← readValue bound depth cursor
      let next := after.skip
      match next.rest with
      | Mark.closeBracket :: _ => return (.array (item :: items).reverse, next.advance 1)
      | Mark.comma :: _ => readItems bound depth (next.advance 1).skip (item :: items)
      | _ => complain .comma next.offset

end

/-- The mark that some writers put before a text. -/
def byteOrderMark : Nat := 0xFEFF

def read (text : Points) : Except Failure Value :=
  if text.points.head? = some byteOrderMark then complain .byteOrderMark 0
  else do
    let start : Cursor := { rest := text.points, offset := 0 }
    let (value, after) ← readValue (2 * text.points.length + 1) depthLimit start.skip
    let finish := after.skip
    if finish.rest.isEmpty then return value else complain .extraData finish.offset

/-- Code points with every line end written as one line feed. -/
def unifyList : List Nat → List Nat
  | [] => []
  | Mark.carriageReturn :: Mark.lineFeed :: rest => Mark.lineFeed :: unifyList rest
  | Mark.carriageReturn :: rest => Mark.lineFeed :: unifyList rest
  | point :: rest => point :: unifyList rest

/-- A text with every line end written as one line feed. -/
def unifyLineEnds (text : Points) : Points := ⟨unifyList text.points⟩

end Chip8.Json
