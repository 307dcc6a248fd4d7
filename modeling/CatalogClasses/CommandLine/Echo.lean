/-
# The command line in the comment

The comment at the top of a file shows the command line that made it: first the
positional values, then the options that differ from their defaults.  A value that is
the path of something that exists is shown by its last name.
-/
import CatalogClasses.CommandLine.Snapshot
import CatalogClasses.Json.Text
import CatalogClasses.Log.Note

namespace CatalogClasses.CommandLine

/-! ## Parameters -/

/-- A parameter of a command. -/
inductive Parameter where
  | positional (name : String)
  /-- An option by its name, the flag it is shown with, whether that is all there is to
  show, and its default. -/
  | option (name flag : String) (isSwitch : Bool) (default? : Option Json)

/-- The name of a parameter. -/
def Parameter.name : Parameter → String
  | positional name => name
  | option name _ _ _ => name

/-! ## Values -/

/-- A way of finding out whether something is at the path with a text. -/
abbrev Probe := String → Except PathFault Bool

/-- A value as it is shown. -/
def shownValue (probe : Probe) : Json → Except PathFault String
  | .str text => do
      let found ← probe text
      return if found then lastName text else text
  | value => return value.text

/-- Some values as they are shown, in their order. -/
def shownValues (probe : Probe) : List Json → Except PathFault (List String)
  | [] => return []
  | value :: rest => do
      let first ← shownValue probe value
      let others ← shownValues probe rest
      return first :: others

/-- The values of a parameter that may be repeated. -/
def eachValue : Json → List Json
  | .arr values => values
  | value => [value]

/-- What is shown of a parameter for the texts of its values. -/
def Parameter.words (value : Json) (texts : List String) : Parameter → List String
  | positional _ => texts
  | option _ flag isSwitch default? =>
      if default?.any (value.same ·) then []
      else if isSwitch then [flag]
      else texts.flatMap fun text => [flag, text]

/-- What is shown of a parameter with a value.  The texts of its values are made also
where they are not shown. -/
def shownParameter (probe : Probe) (value : Json) (parameter : Parameter) :
    Except PathFault (List String) := do
  let texts ← shownValues probe (eachValue value)
  return parameter.words value texts

/-! ## The command line -/

/-- A positional parameter comes before the options. -/
def Parameter.isPositional : Parameter → Bool
  | positional _ => true
  | option .. => false

/-- What is shown of a parameter, by the values of all parameters; without a value, or
with one that counts as false, it is not shown. -/
def shownIfGiven (probe : Probe) (values : List (String × Json)) (parameter : Parameter) :
    Except PathFault (List String) :=
  let value := (Json.lookup parameter.name values).getD .null
  if value.isTruthy then shownParameter probe value parameter else .ok []

/-- What is shown of some parameters, in their order. -/
def shownParameters (probe : Probe) (values : List (String × Json)) :
    List Parameter → Except PathFault (List String)
  | [] => return []
  | parameter :: rest => do
      let first ← shownIfGiven probe values parameter
      let others ← shownParameters probe values rest
      return first ++ others

/-- The command line for some parameters and their values. -/
def echo (probe : Probe) (values : List (String × Json)) (parameters : List Parameter) :
    Except PathFault String := do
  let positional ← shownParameters probe values (parameters.filter (·.isPositional))
  let options ← shownParameters probe values (parameters.filter (!·.isPositional))
  return " ".intercalate (programName :: positional ++ options)

/-- The comment for a version of the program and a command line. -/
def generationComment (version commandLine : String) : String :=
  "// Generated by " ++ programName ++ " v" ++ version ++ " : " ++ commandLine

end CatalogClasses.CommandLine
