/-
# The program

Looks at the files that the command line may name, runs the command on what it has
seen, and then writes the file and the messages of its outcome.
-/
import CatalogClasses.CommandLine.Run

namespace CatalogClasses.CommandLine

/-! ## Looking at files -/

/-- The texts in a word that may be values: the word itself, what follows an equals
sign, and what follows each of its letters. -/
def valuesWithin (word : String) : List String :=
  let chars := word.toList
  (List.range (chars.length + 1)).map fun n => String.ofList (chars.drop n)

/-- The way to a path, from the root to the path itself. -/
def wayTo (path : Path) : List Path :=
  (List.range (path.length + 1)).map fun n => path.take n

/-- What an open handle leads to.  A directory can be opened, but not read. -/
def readEntry (handle : IO.FS.Handle) : IO Entry := do
  try
    let bytes ← handle.readBinToEnd
    return .file ((String.fromUTF8? bytes).getD "")
  catch _ => return .directory

/-- What is at a path, if anything. -/
def lookAt (path : Path) : IO (Option Entry) := do
  try
    let handle ← IO.FS.Handle.mk (pathText path) .read
    let entry ← readEntry handle
    return some entry
  catch _ => return none

/-- What is at some paths, as far as there is anything. -/
def lookAtAll (paths : List Path) : IO (List (Path × Entry)) :=
  paths.filterMapM fun path => do
    let entry? ← lookAt path
    return entry?.map fun entry => (path, entry)

/-- The files that a command line may name, as they are now. -/
def takeSnapshot (words : List String) : IO Snapshot := do
  let workingDirectory := pathNames (toString (← IO.currentDir))
  let place : Snapshot := ⟨workingDirectory, []⟩
  let texts := (words.flatMap valuesWithin).eraseDups
  let paths := (texts.flatMap fun text => wayTo (place.resolve text)).eraseDups
  return { place with entries := ← lookAtAll paths }

/-! ## Reporting -/

/-- How the command is used. -/
def usageText : String := "Usage: " ++ programName ++ " [OPTIONS] CATALOG OUTPUT"

/-- What is said about a run that was given up, beside its messages. -/
def refusalText : Refusal → Option String
  | .usage => some usageText
  | .message _ => none
  | .crash (.malformed .notJson) => some "An input file does not hold JSON."
  | .crash (.malformed _) => some "An input file holds a value of the wrong sort."
  | .crash (.path .noSuchFile) => some "A file does not exist."
  | .crash (.path .isDirectory) => some "A directory stands where a file is expected."
  | .crash (.path .notDirectory) => some "A file stands where a directory is expected."
  | .crash (.path .tooLong) => some "A name or a path is too long."
  | .crash (.path .endsEarly) => some "A path holds a zero character."

/-- Writes the file and the messages of an outcome. -/
def report (outcome : Outcome) : IO UInt32 := do
  if let some (path, content) := outcome.written? then
    IO.FS.writeFile (pathText path) content
  for message in outcome.messages do IO.eprintln message
  if let some text := outcome.refusal?.bind refusalText then IO.eprintln text
  return outcome.exitCode.toUInt32

end CatalogClasses.CommandLine

open CatalogClasses.CommandLine in
/-- Runs the command on the words of its command line. -/
def main (words : List String) : IO UInt32 := do
  if (readWords .nothing words).any (·.help) then
    IO.println usageText
    return 0
  let snapshot ← takeSnapshot words
  report (run snapshot words)
