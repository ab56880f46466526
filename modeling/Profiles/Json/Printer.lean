import Profiles.Json.Basic
import Profiles.Json.Quoted
import Profiles.Outline

/-!
# Printing JSON

One printer, `render`, writes a value in a `Layout`, which says what stands at the start of a line and
between a name and its value. In the `compact` layout a line break is nothing at all; in the `pretty` one
each item and member has a line of its own, two spaces further in than what holds it. An empty array or
object stays on its line in both.

An outline is printed by way of its document, `Outline.toJson`: a structure becomes an object with the fields
as members, in their order, and its name is not kept; a number becomes a JSON number. `Outline.json` is the text
of that document in either layout.
-/

namespace Profiles

namespace Json

/-- How a document is laid out. -/
structure Layout where
  /-- What comes before an item or a closing mark that many levels in. -/
  lineBreak : Nat → List Char
  /-- What stands between a name and its value. -/
  colon : List Char

/-- Everything on one line, with no space. -/
def Layout.compact : Layout where
  lineBreak _ := []
  colon := [':']

/-- One item a line, two spaces a level. -/
def Layout.pretty : Layout where
  lineBreak depth := '\n' :: List.replicate (2 * depth) ' '
  colon := [':', ' ']

/-- The layout that a request for pretty text selects. -/
def Layout.select (pretty : Bool) : Layout := if pretty then .pretty else .compact

/-- A name and what divides it from its value. -/
def renderName (layout : Layout) (name : String) : List Char :=
  Quoted.encode name.toList ++ layout.colon

mutual

/-- **The text of a value** that stands `depth` levels in. -/
def render (layout : Layout) (depth : Nat) : Json → List Char
  | null => ['n', 'u', 'l', 'l']
  | bool b => Text.boolWord b
  | int n => Numeral.decimal n
  | decimal mantissa exponent => Numeral.decimal mantissa ++ 'e' :: Numeral.decimal exponent
  | str text => Quoted.encode text.toList
  -- nothing to set apart, so the two marks stay together
  | arr [] => ['[', ']']
  | arr (item :: items) =>
    '[' :: layout.lineBreak (depth + 1) ++ item.render layout (depth + 1)
      ++ renderItems layout (depth + 1) items ++ layout.lineBreak depth ++ [']']
  | obj [] => ['{', '}']
  | obj ((name, value) :: members) =>
    -- the mark at the end stands one level further out than the members
    '{' :: layout.lineBreak (depth + 1) ++ renderName layout name ++ value.render layout (depth + 1)
      ++ renderMembers layout (depth + 1) members ++ layout.lineBreak depth ++ ['}']

/-- The items of an array after its first, each with the comma before it. -/
def renderItems (layout : Layout) (depth : Nat) : List Json → List Char
  | [] => []
  | item :: items =>
    ',' :: layout.lineBreak depth ++ item.render layout depth ++ renderItems layout depth items

/-- The members of an object after its first, each with the comma before it. -/
def renderMembers (layout : Layout) (depth : Nat) : List (String × Json) → List Char
  | [] => []
  | (name, value) :: members =>
    ',' :: layout.lineBreak depth ++ renderName layout name ++ value.render layout depth
      ++ renderMembers layout depth members

end

/-- The document of a value on one line. -/
def compact (value : Json) : String := String.ofList (value.render .compact 0)

end Json

/-! ### Outlines -/

/-- The value that a leaf becomes. The number of a leaf is an integer, whatever its size. -/
def Scalar.toJson : Scalar → Json
  | str text => .str text
  | int value => .int value.toInt
  | bool value => .bool value

namespace Outline

mutual

/-- **The document of an outline.** -/
def toJson : Outline → Json
  | scalar value => value.toJson
  | struct _ fields => .obj (membersOf fields)

/-- The members that some fields become. -/
def membersOf : List (String × Outline) → List (String × Json)
  | [] => []
  | (key, value) :: fields => (key, value.toJson) :: membersOf fields

end

/-- The document of an outline as text. -/
def json (outline : Outline) (pretty : Bool) : String :=
  String.ofList (outline.toJson.render (.select pretty) 0)

end Outline

end Profiles
