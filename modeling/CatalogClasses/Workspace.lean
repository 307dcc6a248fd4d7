/-
# Workspaces

A workspace is used step by step: options are set, a catalog is read, and a generator
makes source files of its components.  A generator follows the options of the
workspace as they are changed, until other options take their place.
-/
import CatalogClasses.Catalog.Entry
import CatalogClasses.SourceFile

namespace CatalogClasses

/-! ## The state -/

/-- A generator of source files. -/
structure Generator where
  comment : String
  /-- The options it keeps; without any it follows those of the workspace. -/
  kept? : Option Options

/-- The options in use, the generator, if there is one yet, and the components of the
catalog that was read last. -/
structure Workspace where
  options : Options
  generator? : Option Generator
  components : List Component

/-! ## Steps -/

/-- What a workspace can be asked to do. -/
inductive Workspace.Request where
  | useOptions (settings : Json)
  | set (key : String) (value : Json)
  | exclude (name : Json)
  | unexclude (name : Json)
  | settings
  | readCatalog (catalog : Json) (filter : Bool)
  | makeGenerator (comment : String)
  | setComment (comment : String)
  | generate
  | classLines (position : Int)
  | className (position : Int)
  | content (position : Int) (signature? : Option String)
  | walk (position : Int)

/-- What a workspace answers. -/
inductive Workspace.Answer where
  | nothing
  | settings (settings : Json)
  | components (components : List Component)
  | text (text : String)
  | lines (lines : List String)
  | trace (trace : Trace)

namespace Workspace

/-- The workspace at the start. -/
def initial : Workspace := ⟨.standard, none, []⟩

/-- The component at a position; positions below zero count from the end. -/
def component (workspace : Workspace) (position : Int) : Fallible Component :=
  let index := if position < 0 then position + workspace.components.length else position
  match if index < 0 then none else workspace.components[index.toNat]? with
  | some component => .ok component
  | none => malformed .noSuchPosition

/-- The generator and the options it uses. -/
def generator (workspace : Workspace) : Fallible (Generator × Options) :=
  match workspace.generator? with
  | some generator => .ok (generator, generator.kept?.getD workspace.options)
  | none => malformed .noGenerator

/-- The workspace with other options; a generator keeps those it has used so far. -/
def replaceOptions (workspace : Workspace) (options : Options) : Workspace :=
  { workspace with
    options := options
    generator? := workspace.generator?.map fun generator =>
      { generator with kept? := some (generator.kept?.getD workspace.options) } }

/-- A list without its first element that is the same as a value. -/
def removeFirst (value : Json) : List Json → Option (List Json)
  | [] => none
  | x :: rest => if x.same value then some rest else (removeFirst value rest).map (x :: ·)

/-- The list of excluded names with one name added at its end. -/
def addExclusion (exclude name : Json) : Fallible Json :=
  match exclude with
  | .arr names => .ok (.arr (names ++ [name]))
  | _ => malformed .notAList

/-- The list of excluded names with one name taken away. -/
def removeExclusion (exclude name : Json) : Fallible Json :=
  match exclude with
  | .arr names => match removeFirst name names with
    | some rest => .ok (.arr rest)
    | none => malformed .notListed
  | _ => malformed .notAList

/-! ## Answers that change nothing -/

/-- The answer to a request that asks for something. -/
def answer (workspace : Workspace) : Request → Logged Answer
  | .settings => do
      let settings ← .lift workspace.options.toJson
      return .settings settings
  | .generate => do
      let (generator, options) ← .lift workspace.generator
      let text ← SourceFile.text options generator.comment workspace.components
      return .text text
  | .classLines position => do
      let (_, options) ← .lift workspace.generator
      let component ← .lift (workspace.component position)
      let lines ← SourceFile.classLines options component
      return .lines lines
  | .className position => do
      let (_, options) ← .lift workspace.generator
      let component ← .lift (workspace.component position)
      let name ← .lift (SourceFile.className options component)
      return .text name
  | .content position signature? => do
      let component ← .lift (workspace.component position)
      let text ← component.content workspace.options signature?
      return .text text
  | .walk position => match workspace.component position with
    | .error fault => .lift (.error fault)
    | .ok component =>
        let trace := Walker.walk ⟨workspace.options, component.name⟩ "" component.arguments
        ⟨trace.notes, .ok (.trace trace)⟩
  | _ => return .nothing

/-! ## Changes -/

/-- The workspace after a request that changes something; any other request leaves it
as it is. -/
def change (workspace : Workspace) : Request → Fallible Workspace
  | .useOptions settings => do
      let options ← Options.ofJson settings
      return workspace.replaceOptions options
  | .set key value => do
      let options ← workspace.options.assign key value
      return { workspace with options := options }
  | .exclude name => do
      let exclude ← addExclusion workspace.options.exclude name
      return { workspace with options := { workspace.options with exclude := exclude } }
  | .unexclude name => do
      let exclude ← removeExclusion workspace.options.exclude name
      return { workspace with options := { workspace.options with exclude := exclude } }
  | .readCatalog catalog filter => do
      let exclusion := if filter then workspace.options.exclusion? else none
      let components ← CatalogClasses.readCatalog exclusion catalog
      return { workspace with components := components }
  | .makeGenerator comment => return { workspace with generator? := some ⟨comment, none⟩ }
  | .setComment comment => match workspace.generator? with
    | some generator =>
        return { workspace with generator? := some { generator with comment := comment } }
    | none => malformed .noGenerator
  | _ => return workspace

/-- The workspace after a request, and the answer.  A request that meets a fault
changes nothing. -/
def handle (workspace : Workspace) (request : Request) : Workspace × Logged Answer :=
  match workspace.change request with
  | .error fault => (workspace, .lift (.error fault))
  | .ok after => match request with
    | .readCatalog _ _ => (after, Logged.pure (.components after.components))
    | _ => (after, after.answer request)

/-- The answers to a list of requests, each handled after those before it. -/
def handleAll (workspace : Workspace) : List Request → List (Logged Answer)
  | [] => []
  | request :: rest =>
      let (after, answer) := workspace.handle request
      answer :: after.handleAll rest

end Workspace

end CatalogClasses
