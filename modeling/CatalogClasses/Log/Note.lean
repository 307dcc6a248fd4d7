/-
# Notes

What generation has to say beside its result: which arguments it passes over, which
defaults it drops, which collections it turns into single values.
-/
import CatalogClasses.Json.Text

namespace CatalogClasses

/-! ## Levels and sources -/

/-- How important a note is. -/
inductive Level where
  | debug
  | info
  | warning
deriving DecidableEq, Repr

namespace Level

/-- The word for a level. -/
def word : Level → String
  | debug => "DEBUG"
  | info => "INFO"
  | warning => "WARNING"

/-- The number of a level; a more important one has a larger number. -/
def number : Level → Nat
  | debug => 10
  | info => 20
  | warning => 30

end Level

/-- The name under which all notes are made. -/
def programName : String := "arg_schema_to_code"

/-- The name of one of the places that make notes, or of all of them together. -/
def sourceName (place : String) : String :=
  if place = "" then programName else programName ++ "." ++ place

/-! ## Notes -/

/-- Something worth noting. -/
inductive Note where
  | excluded (name : Json)
  | hidden (name : Json)
  | droppedDefault (name : Json) (count : Nat)
  | lifted (name : String) (component : Json)
  | generating (className : String) (kind : Json)
  | wrote (count : Nat) (path : String)
deriving Repr

namespace Note

/-- How important a note is. -/
def level : Note → Level
  | excluded _ | hidden _ | droppedDefault _ _ => .debug
  | lifted _ _ => .warning
  | generating _ _ | wrote _ _ => .info

/-- The place that makes a note. -/
def place : Note → String
  | excluded _ | hidden _ => "walker"
  | droppedDefault _ _ => "csharp"
  | lifted _ _ => "members"
  | generating _ _ => "generator"
  | wrote _ _ => ""

/-- The wording of a note. -/
def message : Note → String
  | excluded name => "Skipping excluded argument '" ++ name.text ++ "'"
  | hidden name => "Skipping hidden argument '" ++ name.text ++ "'"
  | droppedDefault name count => "Dropping default of '" ++ name.text ++ "': " ++
      Json.intText count ++ " values do not fit a single member"
  | lifted name component => "Collection argument '" ++ name ++ "' of '" ++
      component.text ++ "' is generated as a single value"
  | generating className kind => "Generating " ++ className ++ " (" ++ kind.text ++ ")"
  | wrote count path => "Wrote " ++ Json.intText count ++ " component(s) to " ++ path

/-- A note as one line: its level, its source and its wording. -/
def line (note : Note) : String :=
  note.level.word ++ " " ++ sourceName note.place ++ ": " ++ note.message

end Note

end CatalogClasses
