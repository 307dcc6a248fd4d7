/-
# What generation asks of the options

Generation asks four things of the options on its way to the classes of a file: whether a name is
excluded, whether hidden arguments are wanted, whether collections are lifted, and how class names
end.  A walk, an emission and a class are the same for any two options that answer alike.  The file
around the classes asks for the rest of the settings, once each.

Main definitions:

* `Options.Alike` : two options answer alike.
-/
import CatalogClasses.SourceFile

namespace CatalogClasses

/-- Two options answer alike what generation asks for the classes of a file. -/
structure Options.Alike (first second : Options) : Prop where
  test : ∀ name, first.isExcluded name = second.isExcluded name
  includeHidden : first.includeHidden = second.includeHidden
  lift : first.lift = second.lift
  classSuffix : first.classSuffix = second.classSuffix

namespace Options.Alike

variable {first second : Options}

/-! ## One argument -/

theorem skipNote?_eq (h : first.Alike second) (declaration : Declaration) :
    first.skipNote? declaration = second.skipNote? declaration := by
  rw [skipNote?, skipNote?, h.test, h.includeHidden]

theorem typeName_eq (h : first.Alike second) (declaration : Declaration)
    (shape : Shape) : declaration.typeName first shape = declaration.typeName second shape := by
  cases shape with
  | genericCollection => rw [Declaration.typeName, Declaration.typeName, h.lift]
  | scalar | columnCollection | stringCollection | group => rfl

theorem initializer_eq (h : first.Alike second) (declaration : Declaration)
    (shape : Shape) :
    declaration.initializer first shape = declaration.initializer second shape := by
  unfold Declaration.initializer
  rw [h.lift]

/-- An argument is resolved alike. -/
theorem resolve_eq (h : first.Alike second) (suffix : String) (argument : Argument) :
    argument.resolve first suffix = argument.resolve second suffix := by
  unfold Argument.resolve
  simp only [h.typeName_eq, h.initializer_eq]

/-- The steps at an argument are the same. -/
theorem step_eq (h : first.Alike second) (component : Json) (suffix : String)
    (argument : Argument) (inner : Trace) :
    Walker.step ⟨first, component⟩ suffix argument inner =
      Walker.step ⟨second, component⟩ suffix argument inner := by
  unfold Walker.step Walker.visit
  rw [h.skipNote?_eq, h.resolve_eq]

/-! ## All arguments -/

/-- A walk is the same. -/
theorem walk_eq (h : first.Alike second) (component : Json)
    (arguments : List Argument) :
    ∀ suffix, Walker.walk ⟨first, component⟩ suffix arguments =
      Walker.walk ⟨second, component⟩ suffix arguments := by
  induction arguments using Argument.list_induction with
  | nil => intro suffix; rfl
  | member declaration rest ih =>
    intro suffix
    rw [Walker.walk_member, Walker.walk_member, h.step_eq, ih]
  | group declaration inner rest ihInner ih =>
    intro suffix
    rw [Walker.walk_group, Walker.walk_group, h.step_eq, ihInner, ih]

/-- What an emitter makes of the walk through a component is the same. -/
theorem emission_eq (h : first.Alike second) (component : Component)
    (emitter : Emitter) : component.emission first emitter = component.emission second emitter := by
  rw [Component.emission, Component.emission, h.walk_eq]

/-- The emitter of assignments, which asks once more, is the same. -/
theorem assignmentEmitter_eq (h : first.Alike second) (component : Json) :
    assignmentEmitter first component = assignmentEmitter second component := by
  unfold assignmentEmitter memberAssignment
  simp only [h.test, h.lift]

/-! ## Classes -/

/-- The content of a class is the same. -/
theorem content_eq (h : first.Alike second) (component : Component)
    (signature? : Option String) :
    component.content first signature? = component.content second signature? := by
  unfold Component.content Factory.content Factory.contentLines
  simp only [h.emission_eq, h.assignmentEmitter_eq]

theorem className_eq (h : first.Alike second) (component : Component) :
    SourceFile.className first component = SourceFile.className second component := by
  unfold SourceFile.className
  rw [h.classSuffix]

/-- The lines of a class are the same. -/
theorem classLines_eq (h : first.Alike second) (component : Component) :
    SourceFile.classLines first component = SourceFile.classLines second component := by
  unfold SourceFile.classLines
  rw [h.content_eq, h.className_eq]

/-- The classes of a file are the same. -/
theorem classBlocks_eq (h : first.Alike second) (components : List Component) :
    SourceFile.classBlocks first components = SourceFile.classBlocks second components := by
  induction components with
  | nil => rfl
  | cons component rest ih =>
    rw [SourceFile.classBlocks, SourceFile.classBlocks, h.className_eq, h.classLines_eq, ih]

end Options.Alike

/-! ## A file without a comment -/

/-- The start of a file that is to have no comment is decided by the namespaces that it opens. -/
theorem SourceFile.headText_of_no_comment {first second : Options}
    (husings : first.usings = second.usings)
    (hfirst : first.addComment.isTruthy = false) (hsecond : second.addComment.isTruthy = false)
    (comment other : String) : headText first comment = headText second other := by
  rw [headText, headText, husings, hfirst, hsecond]
  rfl

/-- **A file asks for its settings once each.**  Where no comment is wanted, the file is the same,
and so are the notes made on the way, for options that answer alike and have the same namespaces:
the one around the classes and those that are opened. -/
theorem Options.Alike.text_eq {first second : Options} (h : first.Alike second)
    (husings : first.usings = second.usings)
    (hnamespace : first.namespaceName = second.namespaceName)
    (hfirst : first.addComment.isTruthy = false) (hsecond : second.addComment.isTruthy = false)
    (comment other : String) (components : List Component) :
    SourceFile.text first comment components = SourceFile.text second other components := by
  unfold SourceFile.text SourceFile.lines
  rw [SourceFile.headText_of_no_comment husings hfirst hsecond comment other, h.classBlocks_eq,
    hnamespace]

end CatalogClasses
