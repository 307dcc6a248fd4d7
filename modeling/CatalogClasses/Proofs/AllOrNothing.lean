/-
# All or nothing

A run goes through its steps one after another and writes a file after the last of them.  A step
that fails gives the run up with an exit code that is not zero, before anything is written.  So a
run either leaves every file as it was, or it comes to its end and writes one file, and the content
of that file is decided by the results of the steps.

Main definitions:

* `Snapshot.after` : the files after a run with some outcome;
* `Steps` : the results of all steps of a run that comes to its end.
-/
import CatalogClasses.CommandLine.Run

namespace CatalogClasses.CommandLine

/-! ## Files after a run -/

namespace Snapshot

/-- The snapshot after a file has been written. -/
def write (snapshot : Snapshot) (path : Path) (content : String) : Snapshot :=
  { snapshot with entries := (path, .file content) :: snapshot.entries }

/-- The snapshot after a run: a run writes the file that its outcome tells of, and no other. -/
def after (snapshot : Snapshot) (outcome : Outcome) : Snapshot :=
  match outcome.written? with
  | some (path, content) => snapshot.write path content
  | none => snapshot

end Snapshot

/-! ## Single steps -/

theorem RunResult.bind_eq_ok_iff {α β : Type} {first : RunResult α} {next : α → RunResult β}
    {result : β} :
    first >>= next = .ok result ↔ ∃ value, first = .ok value ∧ next value = .ok result := by
  cases first with
  | ok value => simp [bind, Except.bind]
  | error refusal => simp [bind, Except.bind]

theorem same_str_iff {value : Json} {text : String} :
    value.same (.str text) = true ↔ value = .str text := by
  cases value <;> simp [Json.same, Json.integer?]

/-- The results of the steps before generation, each of which succeeds. -/
structure Prepared (snapshot : Snapshot) (given : Given) where
  paths : Paths
  fileOptions : Options
  options : Options
  catalog : String
  components : List Component
  chosen : List Component
  comment : String
  paths_eq : givenPaths snapshot given = .ok paths
  fileOptions_eq : CommandLine.fileOptions snapshot paths.config? = .ok fileOptions
  options_eq : mergedOptions fileOptions given = .ok options
  catalog_eq : readFile snapshot paths.catalog = .ok catalog
  components_eq : loadCatalog options.exclusion? catalog = .ok components
  chosen_eq : chosenComponents given.component components = .ok chosen
  comment_eq : runComment snapshot given paths = .ok comment

section Steps

variable {snapshot : Snapshot} {given : Given} {words : List String}

/-- What generation works on. -/
def Prepared.job (prepared : Prepared snapshot given) : Job :=
  ⟨prepared.options, prepared.chosen, prepared.comment, prepared.paths.output⟩

/-- A run that is given up does not say that it succeeded. -/
theorem exitCode_givenUp (verbose : Bool) (notes : List Note) (refusal : Refusal) :
    (givenUp verbose notes refusal).exitCode ≠ 0 := by
  cases refusal <;> exact Nat.noConfusion

end Steps

end CatalogClasses.CommandLine
