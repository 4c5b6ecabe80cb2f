import Chip8.Decimal.Shortest
import Chip8.Text.Quoted

/-!
Documents: nested values as a configuration file holds them, and the way a
value is shown in a message.
-/

namespace Chip8.Json

/-- A value of a document.  Members stand in the order they were first
named. -/
inductive Value where
  | null
  | boolean (value : Bool)
  | integer (value : Int)
  | real (value : Float)
  | text (value : Points)
  | array (items : List Value)
  | object (members : List (Points × Value))

/-- Add a member.  A name that is there already keeps its place and takes the
new value. -/
def insertMember (name : Points) (value : Value) :
    List (Points × Value) → List (Points × Value)
  | [] => [(name, value)]
  | (old, kept) :: rest =>
      if old = name then (old, value) :: rest
      else (old, kept) :: insertMember name value rest

def member? (name : Points) (members : List (Points × Value)) : Option Value :=
  members.lookup name

mutual

/-- A value as a message shows it. -/
def Value.shown : Value → String
  | .null => "None"
  | .boolean true => "True"
  | .boolean false => "False"
  | .integer value => toString value
  | .real value => Shortest.render value
  | .text value => Quoted.quote value
  | .array items => "[" ++ ", ".intercalate (shownItems items) ++ "]"
  | .object members => "\x7b" ++ ", ".intercalate (shownMembers members) ++ "\x7d"

/-- The items of an array as a message shows them. -/
def shownItems : List Value → List String
  | [] => []
  | item :: rest => item.shown :: shownItems rest

/-- The members of an object as a message shows them. -/
def shownMembers : List (Points × Value) → List String
  | [] => []
  | (name, value) :: rest =>
      (Quoted.quote name ++ ": " ++ value.shown) :: shownMembers rest

end

end Chip8.Json
