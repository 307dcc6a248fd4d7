/-
# Source files

A source file holds the classes of some components, one after another.  Before them
stand a comment and the namespaces that the file opens; a namespace may be put around
them.
-/
import CatalogClasses.Factory
import CatalogClasses.Text.Words

namespace CatalogClasses

namespace SourceFile

/-! ## Classes -/

/-- The name of the class of a component: the words of the component's name, run
together, and the ending that the options ask for. -/
def className (options : Options) (component : Component) : Fallible String := do
  let stem ←
    if component.name.isTruthy then
      match component.name with
      | .str name => .ok (String.ofList (Text.pascalCase name.toList))
      | _ => malformed .notText
    else .ok ""
  match options.classSuffix with
  | .str suffix => return stem ++ suffix
  | _ => malformed .notJoinable

/-- The summary comment of a component, if it has a summary. -/
def componentSummary (component : Component) : Fallible (List String) :=
  if component.summary.isTruthy then
    match component.summary with
    | .str summary => .ok (summaryLines summary)
    | _ => malformed .notText
  else .ok []

/-- A line inside a class. -/
def indented (line : String) : String := if line = "" then "" else "    " ++ line

/-- The lines of the class of a component. -/
def classLines (options : Options) (component : Component) : Logged (List String) := do
  let content ← (component.content options none).located component.name .null
  let summary ← .lift (componentSummary component)
  let name ← .lift (className options component)
  return summary ++ ["public sealed partial class " ++ name, "\x7b"] ++
    (Layout.split content).map indented ++ ["\x7d"]

/-- A class is generated from the content of its component, a summary and a name. -/
theorem classLines_eq_ok_iff {options : Options} {component : Component} {lines : List String} :
    (classLines options component).result = .ok lines ↔
      ∃ content summary name, (component.content options none).result = .ok content ∧
        componentSummary component = .ok summary ∧ className options component = .ok name ∧
        lines = summary ++ ["public sealed partial class " ++ name, "\x7b"] ++
          (Layout.split content).map indented ++ ["\x7d"] := by
  unfold classLines
  simp only [Logged.result_bind, Logged.result_located, Logged.result_lift, Logged.result_pure,
    bind_eq_ok_iff, locate_eq_ok_iff]
  constructor
  · rintro ⟨content, hcontent, summary, hsummary, name, hname, hlines⟩
    exact ⟨content, summary, name, hcontent, hsummary, hname, (Except.ok.inj hlines).symm⟩
  · rintro ⟨content, summary, name, hcontent, hsummary, hname, rfl⟩
    exact ⟨content, hcontent, summary, hsummary, name, hname, rfl⟩

/-- The lines of the classes of some components, class by class. -/
def classBlocks (options : Options) : List Component → Logged (List (List String))
  | [] => return []
  | component :: rest => do
      let name ← .lift (className options component)
      Logged.note (.generating name component.kind)
      let block ← classLines options component
      let blocks ← classBlocks options rest
      return block :: blocks

/-- The lines of several blocks, with an empty line between any two. -/
def separated : List (List String) → List String
  | [] => []
  | [block] => block
  | block :: rest => block ++ "" :: separated rest

/-! ## The start of a file -/

/-- The lines that open namespaces. -/
def usingText (names : List Json) : String :=
  String.join (names.map fun name => "using " ++ name.text ++ ";\n")

/-- The text before the classes: the comment, if there is to be one, and the namespaces
that are opened. -/
def headText (options : Options) (comment : String) : Fallible String := do
  let names ← options.usings.parts
  let commentText :=
    if options.addComment.isTruthy && comment != "" then comment ++ "\n" else ""
  return commentText ++ usingText names

/-- The lines of the start of a file from its text; line feeds at the end do not count,
and an empty line follows. -/
def headLines (text : String) : List String :=
  let chars := (text.toList.reverse.dropWhile (· == '\n')).reverse
  if chars.isEmpty then []
  else Layout.lines 0 ((Text.splitAt '\n' chars).map String.ofList) ++ [""]

/-! ## The file -/

/-- The lines after the start of a file: the classes, inside a namespace if there is to
be one. -/
def bodyLines (namespaceName : Json) (classes : List String) : List String :=
  if namespaceName.isTruthy then
    Layout.lines 0 ["namespace " ++ namespaceName.text, "\x7b"] ++
      Layout.lines 1 classes ++ Layout.lines 0 ["\x7d"]
  else Layout.lines 0 classes

/-- The lines of the file with the classes of some components. -/
def lines (options : Options) (comment : String) (components : List Component) :
    Logged (List String) := do
  let head ← .lift (headText options comment)
  let blocks ← classBlocks options components
  return headLines head ++ bodyLines options.namespaceName (separated blocks)

/-- The text of the file with the classes of some components. -/
def text (options : Options) (comment : String) (components : List Component) :
    Logged String := do
  let lines ← lines options comment components
  return Layout.join lines

end SourceFile

end CatalogClasses
