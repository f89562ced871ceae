import Handover.Json.StringLiteral

/-! # JSON values and their text

The values that are written have whole numbers, strings, truth values, lists and objects; the members
of an object keep their order.  A layout decides about the space between the parts: `compact` leaves
none, `indented` puts every item on a line of its own, two blanks deeper than its bracket.  An empty
list or object is written without anything between its brackets.
-/

namespace Handover

inductive Json where
  | number (value : Int)
  | text (value : String)
  | boolean (value : Bool)
  | list (items : List Json)
  | object (members : List (String × Json))

namespace Json

/-- The space in a text. -/
structure Layout where
  /-- What stands before an item at a depth, and before the closing bracket of its list. -/
  gap : Nat → List Char
  /-- What stands between the name of a member and its value. -/
  colon : List Char

namespace Layout

def compact : Layout := ⟨fun _ => [], [':']⟩

def indented : Layout := ⟨fun depth => '\n' :: List.replicate (2 * depth) ' ', [':', ' ']⟩

end Layout

mutual

/-- The text of a value whose brackets stand at the given depth. -/
def render (layout : Layout) (depth : Nat) : Json → List Char
  | .number z => (toString z).toList
  | .text s => stringLiteral s
  | .boolean true => ['t', 'r', 'u', 'e']
  | .boolean false => ['f', 'a', 'l', 's', 'e']
  | .list [] => ['[', ']']
  | .list (item :: items) =>
    '[' :: (layout.gap (depth + 1) ++ render layout (depth + 1) item ++
      renderItems layout (depth + 1) items) ++ layout.gap depth ++ [']']
  | .object [] => ['\x7b', '\x7d']
  | .object ((name, value) :: members) =>
    '\x7b' :: (layout.gap (depth + 1) ++ stringLiteral name ++ layout.colon ++
      render layout (depth + 1) value ++ renderMembers layout (depth + 1) members) ++
      layout.gap depth ++ ['\x7d']

/-- The items of a list after its first, each after a comma. -/
def renderItems (layout : Layout) (depth : Nat) : List Json → List Char
  | [] => []
  | item :: items =>
    ',' :: (layout.gap depth ++ render layout depth item) ++ renderItems layout depth items

/-- The members of an object after its first, each after a comma. -/
def renderMembers (layout : Layout) (depth : Nat) : List (String × Json) → List Char
  | [] => []
  | (name, value) :: members =>
    ',' :: (layout.gap depth ++ stringLiteral name ++ layout.colon ++ render layout depth value) ++
      renderMembers layout depth members

end

/-- The text without any space. -/
def compact (json : Json) : String := .ofList (json.render .compact 0)

/-- The text with every item on a line of its own. -/
def indented (json : Json) : String := .ofList (json.render .indented 0)

end Json

end Handover
