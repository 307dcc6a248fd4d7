/-
# The text of a JSON value

The form in which messages and generated code show a value: a text on its own stands
as it is; anything else is shown in the notation for values, where texts are quoted.
-/
import CatalogClasses.Json.Basic
import CatalogClasses.Number.Shortest
import CatalogClasses.Text.Quoted

namespace CatalogClasses.Json

open Number

/-- The text of an integer. -/
def intText (n : Int) : String := String.ofList (integerText n)

/-- A text between quotes. -/
def quotedText (s : String) : String := String.ofList (Text.quoted s.toList)

mutual

/-- A value in the notation for values. -/
def shown : Json → String
  | null => "None"
  | bool true => "True"
  | bool false => "False"
  | int n => intText n
  | float x => String.ofList x.text
  | str s => quotedText s
  | arr elements => "[" ++ shownElements elements ++ "]"
  | obj fields => "\x7b" ++ shownFields fields ++ "\x7d"

/-- Elements in the notation for values, with commas between them. -/
def shownElements : List Json → String
  | [] => ""
  | [x] => shown x
  | x :: rest => shown x ++ ", " ++ shownElements rest

/-- Fields in the notation for values, with commas between them. -/
def shownFields : List (String × Json) → String
  | [] => ""
  | [(k, v)] => quotedText k ++ ": " ++ shown v
  | (k, v) :: rest => quotedText k ++ ": " ++ shown v ++ ", " ++ shownFields rest

end

/-- The text of a value: a text as it is, anything else in the notation for values. -/
def text : Json → String
  | str s => s
  | other => other.shown

end CatalogClasses.Json
