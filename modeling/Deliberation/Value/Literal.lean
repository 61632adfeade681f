/-
# Value.Literal -- a value as it stands in a message

Two ways to show a value in running text.  `display` shows a text bare and a kind by its label;
`literal` quotes a text and names the kind, and is how items show inside lists and records.
-/
import Deliberation.Value.Basic
import Deliberation.Text.Quoted

set_option autoImplicit false

namespace Deliberation.Value

open Deliberation.Text

mutual

/-- The value as an item shows. -/
def literal : Value → String
  | null => "None"
  | bool true => "True"
  | bool false => "False"
  | number n => n.text .plain
  | text s => quoted s
  | kind k => "<FeedbackType." ++ k.label ++ ": " ++ quoted k.label ++ ">"
  | list items => "[" ++ literalItems items ++ "]"
  | record fields => "\x7b" ++ literalFields fields ++ "\x7d"

/-- The items of a list. -/
def literalItems : List Value → String
  | [] => ""
  | [v] => literal v
  | v :: w :: rest => literal v ++ ", " ++ literalItems (w :: rest)

/-- The fields of a record. -/
def literalFields : List (String × Value) → String
  | [] => ""
  | [f] => literalField f
  | f :: g :: rest => literalField f ++ ", " ++ literalFields (g :: rest)

/-- A name and a value. -/
def literalField : String × Value → String
  | (name, v) => quoted name ++ ": " ++ literal v

end

/-- The value by itself. -/
def display : Value → String
  | text s => s
  | kind k => "FeedbackType." ++ k.label
  | v => v.literal

end Deliberation.Value
