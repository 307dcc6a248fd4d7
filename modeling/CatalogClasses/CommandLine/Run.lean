/-
# Running the command

A run reads the options and the catalog, generates the source file, and writes it at
the very end.  So a run that meets any fault writes nothing.
-/
import CatalogClasses.Catalog.Entry
import CatalogClasses.CommandLine.Echo
import CatalogClasses.CommandLine.Given
import CatalogClasses.Log.Settings
import CatalogClasses.SourceFile

namespace CatalogClasses.CommandLine

/-! ## Outcomes -/

/-- What ends a run without a message of its own. -/
inductive Crash where
  | malformed (malformed : Malformed)
  | path (fault : PathFault)
deriving DecidableEq, Repr

/-- Why a run is given up. -/
inductive Refusal where
  /-- The command line is not understood, or an input path has nothing at its end. -/
  | usage
  /-- A message for the user. -/
  | message (text : String)
  | crash (crash : Crash)
deriving Repr

/-- A step of a run. -/
abbrev RunResult (α : Type) : Type := Except Refusal α

/-- The outcome of a run: the notes made, why it was given up, if it was, and the path
and the content of the file that it wrote, if it wrote one. -/
structure Outcome where
  verbose : Bool
  notes : List Note
  refusal? : Option Refusal
  written? : Option (Path × String)

namespace Outcome

/-- The exit code of the program. -/
def exitCode (outcome : Outcome) : Nat :=
  match outcome.refusal? with
  | none => 0
  | some .usage => 2
  | some (.message _) => 1
  | some (.crash _) => 1

/-- The lines for the user: the notes that are to be shown, then the message. -/
def messages (outcome : Outcome) : List String :=
  let shown := (notesFrom (LogSettings.shownLevel outcome.verbose) outcome.notes).map
    fun note => "[" ++ programName ++ "] " ++ note.level.word ++ " " ++ note.message
  match outcome.refusal? with
  | some (.message text) => shown ++ ["Error: " ++ text]
  | _ => shown

end Outcome

/-! ## Input -/

/-- The program version that comments name. -/
def version : String := "0.1.0"

/-- The result, with a failure as a message that begins with the given words. -/
def refusing {α : Type} (what : String) : Fallible α → RunResult α
  | .ok value => .ok value
  | .error (.failure failure) => .error (.message (what ++ ": " ++ failure.message))
  | .error (.malformed m) => .error (.crash (.malformed m))

/-- The content of the file at a path. -/
def readFile (snapshot : Snapshot) (path : Path) : RunResult String :=
  match snapshot.entry? path with
  | some (.file content) => .ok content
  | some .directory => .error (.crash (.path .isDirectory))
  | none => .error (.crash (.path .noSuchFile))

/-- The path of an output. -/
def outputPath (snapshot : Snapshot) (text : String) : RunResult Path :=
  if hasTerminator text then .error (.crash (.path .endsEarly))
  else .ok (snapshot.resolve text)

/-- The path of an input, which has to exist. -/
def inputPath (snapshot : Snapshot) (text : String) : RunResult Path := do
  let path ← outputPath snapshot text
  if (snapshot.entry? path).isSome then return path else .error .usage

/-- The path of the file with the options, if one is given. -/
def configPath (snapshot : Snapshot) : Option String → RunResult (Option Path)
  | none => .ok none
  | some text => do
      let path ← inputPath snapshot text
      return some path

/-- The paths that a run works on. -/
structure Paths where
  config? : Option Path
  catalog : Path
  output : Path

/-- The paths that a command line gives.  They are looked at in their order, and only
then is a value too many one. -/
def givenPaths (snapshot : Snapshot) (given : Given) : RunResult Paths := do
  let config? ← configPath snapshot given.config?
  match given.positional with
  | [] => .error .usage
  | [catalog] => do
      let _ ← inputPath snapshot catalog
      .error .usage
  | catalog :: output :: others => do
      let catalog ← inputPath snapshot catalog
      let output ← outputPath snapshot output
      if others.isEmpty then return ⟨config?, catalog, output⟩ else .error .usage

/-- The options that the file at a path gives; without a file the standard ones. -/
def fileOptions (snapshot : Snapshot) : Option Path → RunResult Options
  | none => .ok .standard
  | some path => do
      let content ← readFile snapshot path
      match Json.ofText? content with
      | some settings => refusing "Invalid options" (Options.ofJson settings)
      | none => .error (.crash (.malformed .notJson))

/-- The names that a value does not hold, in their order and as often as given. -/
def namesNotHeld (exclude : Json) : List String → Fallible (List String)
  | [] => .ok []
  | name :: rest => do
      let held ← exclude.holds (.str name)
      let others ← namesNotHeld exclude rest
      return if held then others else name :: others

/-- The excluded names, with those of the command line that are not among them put at
the end. -/
def mergedExclusions (exclude : Json) (names : List String) : Fallible Json := do
  let parts ← exclude.parts
  let added ← namesNotHeld exclude names
  return .arr (parts ++ added.map .str)

/-- The options with those of the command line put over them. -/
def mergedOptions (options : Options) (given : Given) : Fallible Options := do
  let exclude ← mergedExclusions options.exclude given.exclude
  return {
    options with
    exclude := exclude
    namespaceName := match given.namespaceName? with
      | some name => .str name
      | none => options.namespaceName }

/-! ## Choosing components -/

/-- The names of the components can be looked up: none is a list or an object. -/
def nameableComponents (components : List Component) : Bool :=
  components.all fun component => match component.name with
    | .arr _ | .obj _ => false
    | _ => true

/-- The component has one of the names. -/
def isNamed (names : List String) (component : Component) : Bool :=
  names.any fun name => component.name.same (.str name)

/-- The components with the given names, in the order of the catalog; all of them if no
name is given. -/
def chosenComponents (names : List String) (components : List Component) :
    RunResult (List Component) :=
  if names.isEmpty then .ok components
  else if !nameableComponents components then .error (.crash (.malformed .notAKey))
  else
    let missing := names.filter fun name => !components.any (isNamed [name])
    if missing.isEmpty then .ok (components.filter (isNamed names))
    else .error (.message ("Unknown component(s): " ++ ", ".intercalate missing))

/-! ## The comment -/

/-- The parameters of the command, in the order in which they are shown. -/
def parameters : List Parameter :=
  [.option "config" "--config" false none,
    .option "exclude" "--exclude" false none,
    .option "component" "--component" false none,
    .option "namespace" "--namespace" false none,
    .option "verbose" "--verbose" true (some (.bool false)),
    .positional "catalog",
    .positional "output"]

/-- The values of the parameters of the command. -/
def parameterValues (given : Given) (paths : Paths) : List (String × Json) :=
  [("config", match paths.config? with
      | some path => .str (pathText path)
      | none => .null),
    ("exclude", .arr (given.exclude.map .str)),
    ("component", .arr (given.component.map .str)),
    ("namespace", match given.namespaceName? with
      | some name => .str name
      | none => .null),
    ("verbose", .bool given.verbose),
    ("catalog", .str (pathText paths.catalog)),
    ("output", .str (pathText paths.output))]

/-- The comment for a run. -/
def runComment (snapshot : Snapshot) (given : Given) (paths : Paths) : RunResult String :=
  match echo snapshot.holds (parameterValues given paths) parameters with
  | .ok commandLine => .ok (generationComment version commandLine)
  | .error fault => .error (.crash (.path fault))

/-! ## Output -/

/-- Some part of the way to a path is a file. -/
def passesFile (snapshot : Snapshot) (path : Path) : Bool :=
  (List.range path.length).any fun n => match snapshot.entry? (path.take n) with
    | some (.file _) => true
    | _ => false

/-- A file can be written at a path: its directory exists, and it is none itself. -/
def checkOutput (snapshot : Snapshot) (path : Path) : RunResult Unit :=
  match snapshot.entry? path, snapshot.entry? path.dropLast with
  | some .directory, _ => .error (.crash (.path .isDirectory))
  | some (.file _), _ => .ok ()
  | none, some .directory => .ok ()
  | none, _ =>
      let fault := if passesFile snapshot path then PathFault.notDirectory else .noSuchFile
      .error (.crash (.path fault))

/-! ## The run -/

/-- What generation works on. -/
structure Job where
  options : Options
  components : List Component
  comment : String
  output : Path

/-- All that is read and checked before generation. -/
def prepare (snapshot : Snapshot) (given : Given) : RunResult Job := do
  let paths ← givenPaths snapshot given
  let options ← fileOptions snapshot paths.config?
  let options ← refusing "Invalid options" (mergedOptions options given)
  let catalog ← readFile snapshot paths.catalog
  let components ← refusing "Invalid catalog" (loadCatalog options.exclusion? catalog)
  let components ← chosenComponents given.component components
  let comment ← runComment snapshot given paths
  return ⟨options, components, comment, paths.output⟩

/-- The outcome of a run that is given up. -/
def givenUp (verbose : Bool) (notes : List Note) (refusal : Refusal) : Outcome :=
  ⟨verbose, notes, some refusal, none⟩

/-- The outcome of generation for a job. -/
def Job.outcome (job : Job) (snapshot : Snapshot) (verbose : Bool) : Outcome :=
  let generated := SourceFile.text job.options job.comment job.components
  match refusing "Generation failed" generated.result with
  | .error refusal => givenUp verbose generated.notes refusal
  | .ok text => match checkOutput snapshot job.output with
    | .error refusal => givenUp verbose generated.notes refusal
    | .ok _ =>
        let note := Note.wrote job.components.length (pathText job.output)
        ⟨verbose, generated.notes ++ [note], none, some (job.output, text)⟩

/-- The outcome of a run with the given words on its command line. -/
def run (snapshot : Snapshot) (words : List String) : Outcome :=
  match readWords .nothing words with
  | none => givenUp false [] .usage
  | some given =>
      if given.help then ⟨false, [], none, none⟩
      else match prepare snapshot given with
        | .error refusal => givenUp given.verbose [] refusal
        | .ok job => job.outcome snapshot given.verbose

end CatalogClasses.CommandLine
