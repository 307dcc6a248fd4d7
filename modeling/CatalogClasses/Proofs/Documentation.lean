/-
# Help texts and summaries

The documentation of a catalog, which is the help texts of its arguments and the summaries of
its components, becomes comments and nothing else.  Here a component is compared with itself
without documentation, along the whole of generation: the walk, the emission, the content, the
class and the file.  At each stage both fail alike, or both give lines that differ in comments
alone.  The main statement follows for any two lists of components that are the same without
their documentation: their files have the same code.
-/
import CatalogClasses.Proofs.Blocks
import CatalogClasses.Proofs.Comments

namespace CatalogClasses

/-! ## Components without documentation -/

/-- The declaration without its help text. -/
def Declaration.undocumented (declaration : Declaration) : Declaration :=
  { declaration with help := .null }

mutual

/-- The argument without help texts, those inside it included. -/
def Argument.undocumented : Argument → Argument
  | .member declaration => .member declaration.undocumented
  | .group declaration arguments =>
      .group declaration.undocumented (Argument.undocumentedList arguments)

/-- The arguments without help texts, at every depth. -/
def Argument.undocumentedList : List Argument → List Argument
  | [] => []
  | argument :: rest => argument.undocumented :: Argument.undocumentedList rest

end

/-- The component without its summary and without the help texts of its arguments. -/
def Component.undocumented (component : Component) : Component :=
  { component with
    arguments := Argument.undocumentedList component.arguments
    summary := .null }

/-- The value is a text, or there is none. -/
def Json.IsTextOrNull : Json → Prop
  | .str _ | .null => True
  | _ => False

/-! ## Results that agree in a part -/

/-- Results that agree in a part fail alike, or both are there. -/
theorem cases_of_map_eq {α α' : Type} {part : α → α'} {first second : Fallible α}
    (h : first.map part = second.map part) :
    (∃ fault, first = .error fault ∧ second = .error fault) ∨
      ∃ x y, first = .ok x ∧ second = .ok y ∧ part x = part y := by
  cases first with
  | error fault =>
    cases second with
    | error other =>
      obtain rfl := Except.error.inj h
      exact .inl ⟨fault, rfl, rfl⟩
    | ok y => cases h
  | ok x =>
    cases second with
    | error other => cases h
    | ok y => exact .inr ⟨x, y, rfl, rfl, Except.ok.inj h⟩

/-- A part of the result of two steps is a part of the result of the second. -/
theorem map_bind_result {α β β' : Type} (first : Fallible α) (next : α → Fallible β)
    (part : β → β') :
    (first >>= next).map part = first >>= fun value => (next value).map part :=
  map_bind part first next

/-- Two computations agree in a part of their results if their first steps do, and the rest of
the computation goes on from there to results that agree. -/
theorem map_bind_congr {α α' β β' : Type} {part : α → α'} {last : β → β'}
    {first second : Fallible α} {next other : α → Fallible β}
    (h : first.map part = second.map part)
    (hnext : ∀ x y, part x = part y → (next x).map last = (other y).map last) :
    (first >>= next).map last = (second >>= other).map last := by
  rcases cases_of_map_eq h with ⟨fault, rfl, rfl⟩ | ⟨x, y, rfl, rfl, hpart⟩
  · rfl
  · exact hnext x y hpart

/-- In particular they do if the first step is the same. -/
theorem map_bind_congr_right {α β β' : Type} {last : β → β'} (first : Fallible α)
    {next other : α → Fallible β} (hnext : ∀ x, (next x).map last = (other x).map last) :
    (first >>= next).map last = (first >>= other).map last := by
  rw [map_bind_result, map_bind_result]
  exact congrArg (first >>= ·) (funext hnext)

/-- Results that agree in a part still do when they are located. -/
theorem map_locate_congr {α β : Type} {part : α → β} {first second : Fallible α}
    (h : first.map part = second.map part) (component argument : Json) :
    (locate component argument first).map part = (locate component argument second).map part := by
  rcases cases_of_map_eq h with ⟨fault, rfl, rfl⟩ | ⟨x, y, rfl, rfl, hpart⟩
  · rfl
  · exact congrArg Except.ok hpart

/-! ## Walks without documentation -/

/-- A resolved argument without its help text. -/
def Resolved.undocumented (resolved : Resolved) : Resolved :=
  { resolved with declaration := resolved.declaration.undocumented }

/-- An event about an argument without its help text. -/
def Event.undocumented (event : Event) : Event :=
  { event with resolved := event.resolved.undocumented }

/-- A step of a walk without help texts. -/
def Step.undocumented : Step → Step
  | .note n => .note n
  | .event e => .event e.undocumented

/-- A walk without help texts. -/
def Trace.undocumented (trace : Trace) : Trace :=
  ⟨trace.steps.map Step.undocumented, trace.fault⟩

theorem Trace.undocumented_andThen (first second : Trace) :
    (first.andThen second).undocumented = first.undocumented.andThen second.undocumented := by
  obtain ⟨steps, fault⟩ := first
  cases fault with
  | some fault => rfl
  | none =>
    show Trace.mk ((steps ++ second.steps).map _) _ = Trace.mk (_ ++ _) _
    rw [List.map_append]
    rfl

namespace Argument

/-- The help text has no part in the shape of an argument. -/
theorem classify_undocumented (argument : Argument) :
    argument.undocumented.classify = argument.classify := by
  cases argument with
  | member declaration => rfl
  | group declaration arguments => rfl

/-- The help text is the only part of a declaration that is taken out. -/
theorem declaration_undocumented (argument : Argument) :
    argument.undocumented.declaration = argument.declaration.undocumented := by
  cases argument with
  | member declaration => rfl
  | group declaration arguments => rfl

/-- An argument without its help text is resolved to what it is resolved to, without the help
text. -/
theorem resolve_undocumented (options : Options) (suffix : String) (argument : Argument) :
    argument.undocumented.resolve options suffix =
      (argument.resolve options suffix).map Resolved.undocumented := by
  have htype : ∀ shape, argument.declaration.undocumented.typeName options shape =
      argument.declaration.typeName options shape := by
    intro shape
    cases shape <;> rfl
  have hinitializer : ∀ shape, argument.declaration.undocumented.initializer options shape =
      argument.declaration.initializer options shape := fun _ => rfl
  have hname : argument.declaration.undocumented.longName = argument.declaration.longName := rfl
  -- each of the four steps that may fail is the same for both
  unfold resolve
  simp only [classify_undocumented, declaration_undocumented, htype, hinitializer, hname,
    map_bind_result]
  rfl

end Argument

namespace Walker

variable {walker : Walker}

/-- An argument without its help text is visited as it is with it, but for the help text. -/
theorem visit_undocumented (walker : Walker) (suffix : String) (argument : Argument)
    (inner : Trace) :
    walker.visit suffix argument.undocumented inner.undocumented =
      (walker.visit suffix argument inner).undocumented := by
  have hresolve := Argument.resolve_undocumented walker.options suffix argument
  have hname : argument.undocumented.longName = argument.longName := by
    rw [Argument.longName, Argument.declaration_undocumented]
    rfl
  cases hr : argument.resolve walker.options suffix with
  | error fault =>
    rw [hr] at hresolve
    rw [visit_of_error hr, visit_of_error hresolve, hname]
    rfl
  | ok resolved =>
    rw [hr] at hresolve
    have hnotes : (resolvedNotes argument resolved).map Step.undocumented =
        resolvedNotes argument.undocumented resolved.undocumented := by
      unfold resolvedNotes
      rw [List.map_map, hname]
      rfl
    have hevent : ∀ phase,
        (Trace.ofSteps (resolvedNotes argument resolved ++
          [.event ⟨phase, suffix, resolved⟩])).undocumented =
        Trace.ofSteps (resolvedNotes argument.undocumented resolved.undocumented ++
          [.event ⟨phase, suffix, resolved.undocumented⟩]) := by
      intro phase
      unfold Trace.undocumented Trace.ofSteps
      rw [List.map_append, hnotes]
      rfl
    cases argument with
    | member declaration =>
      rw [visit_member hr, hevent]
      exact visit_member hresolve
    | group declaration arguments =>
      rw [visit_group hr, Trace.undocumented_andThen, Trace.undocumented_andThen, hevent]
      exact visit_group hresolve

/-- The steps at an argument are the same without documentation, but for the help texts. -/
theorem step_undocumented (walker : Walker) (suffix : String) (argument : Argument)
    (inner : Trace) :
    walker.step suffix argument.undocumented inner.undocumented =
      (walker.step suffix argument inner).undocumented := by
  have hskip : walker.options.skipNote? argument.undocumented.declaration =
      walker.options.skipNote? argument.declaration := by
    rw [Argument.declaration_undocumented]
    rfl
  cases hs : walker.options.skipNote? argument.declaration with
  | error fault =>
    rw [hs] at hskip
    rw [step_of_error hs, step_of_error hskip]
    rfl
  | ok note =>
    rw [hs] at hskip
    cases note with
    | some note =>
      rw [step_of_note hs, step_of_note hskip]
      rfl
    | none =>
      rw [step_of_none hs, step_of_none hskip]
      exact visit_undocumented walker suffix argument inner

/-- The walk through arguments without documentation is the walk through them, but for the
help texts. -/
theorem walk_undocumented (walker : Walker) (arguments : List Argument) :
    ∀ suffix, walker.walk suffix (Argument.undocumentedList arguments) =
      (walker.walk suffix arguments).undocumented := by
  induction arguments using Argument.list_induction with
  | nil => intro suffix; rfl
  | member declaration rest ih =>
    intro suffix
    have hstep := step_undocumented walker suffix (.member declaration) .done
    rw [walk_member, Trace.undocumented_andThen, ← hstep, ← ih]
    rfl
  | group declaration inner rest ihInner ih =>
    intro suffix
    have hstep := step_undocumented walker suffix (.group declaration inner)
      (walker.walk (nestedSuffix suffix declaration.longName) inner)
    rw [walk_group, Trace.undocumented_andThen, ← hstep, ← ih, ← ihInner]
    rfl

end Walker

/-! ## Emission without documentation -/

/-- The lines of a chunk without comments. -/
def Chunk.code (chunk : Chunk) : List String := Layout.withoutComments chunk.lines

/-- The emitter makes nothing but comments of help texts. -/
def Emitter.CommentsHelp (emitter : Emitter) : Prop :=
  ∀ event, (emitter event.undocumented).map Chunk.code = (emitter event).map Chunk.code

theorem commentsHelp_fieldEmitter : Emitter.CommentsHelp fieldEmitter := by
  intro event
  rfl

theorem commentsHelp_propertyEmitter : Emitter.CommentsHelp propertyEmitter := by
  rintro ⟨phase, suffix, resolved⟩
  cases phase with
  | member =>
    exact congrArg Except.ok (withoutComments_propertyLines resolved.typeName resolved.name
      resolved.isBoolean .null resolved.declaration.help)
  | groupBegin | groupEnd => rfl

theorem commentsHelp_assignmentEmitter (options : Options) (component : Json) :
    Emitter.CommentsHelp (assignmentEmitter options component) := by
  intro event
  rfl

/-- What such an emitter makes of a walk without documentation has the same code, and ends with
the same fault. -/
theorem Trace.emit_undocumented {emitter : Emitter} (h : emitter.CommentsHelp) (trace : Trace) :
    (trace.undocumented.emit emitter).fault = (trace.emit emitter).fault ∧
      Layout.withoutComments (trace.undocumented.emit emitter).lines =
        Layout.withoutComments (trace.emit emitter).lines := by
  obtain ⟨steps, fault⟩ := trace
  unfold emit undocumented
  induction steps with
  | nil => exact ⟨rfl, rfl⟩
  | cons step rest ih =>
    cases step with
    | note n => exact ih
    | event e =>
      simp only [List.map_cons, Step.undocumented, emitSteps]
      rcases cases_of_map_eq (h e) with
        ⟨fault, hother, hchunk⟩ | ⟨other, chunk, hother, hchunk, hcode⟩
      · rw [hother, hchunk]
        exact ⟨rfl, rfl⟩
      · have hlines : Layout.withoutComments other.lines = Layout.withoutComments chunk.lines :=
          hcode
        rw [hother, hchunk]
        refine ⟨ih.1, ?_⟩
        simp only [Layout.withoutComments_append, hlines, ih.2]

/-- Emissions with the same fault, and with lines that agree in a part, have results that do. -/
theorem Emission.map_result_congr {β : Type} {part : List String → β} {first second : Emission}
    (hfault : first.fault = second.fault) (hlines : part first.lines = part second.lines) :
    first.toLogged.result.map part = second.toLogged.result.map part := by
  unfold toLogged
  rw [hfault]
  cases second.fault with
  | some fault => rfl
  | none => exact congrArg Except.ok hlines

/-- The lines that such an emitter makes of a component have the same code without the
documentation of the component. -/
theorem Component.emission_undocumented {emitter : Emitter} (h : emitter.CommentsHelp)
    (options : Options) (component : Component) :
    (component.undocumented.emission options emitter).toLogged.result.map
        Layout.withoutComments =
      (component.emission options emitter).toLogged.result.map Layout.withoutComments := by
  have hwalk : component.undocumented.emission options emitter =
      (Walker.walk ⟨options, component.name⟩ "" component.arguments).undocumented.emit
        emitter := by
    rw [← Walker.walk_undocumented]
    rfl
  obtain ⟨hfault, hlines⟩ := Trace.emit_undocumented h
    (Walker.walk ⟨options, component.name⟩ "" component.arguments)
  rw [hwalk]
  exact Emission.map_result_congr hfault hlines

/-! ## Content, classes and files -/

/-- The content of a class has the same code without the documentation of the component. -/
theorem Factory.contentLines_undocumented (factory : Factory) (options : Options)
    (component : Component) (signature? : Option String) :
    (factory.contentLines options component.undocumented signature?).result.map
        Layout.withoutComments =
      (factory.contentLines options component signature?).result.map Layout.withoutComments := by
  unfold contentLines
  simp only [Logged.result_bind, Logged.result_pure]
  apply map_bind_congr (component.emission_undocumented commentsHelp_fieldEmitter options)
  intro fields otherFields hfields
  apply map_bind_congr (component.emission_undocumented commentsHelp_propertyEmitter options)
  intro properties otherProperties hproperties
  apply map_bind_congr (component.emission_undocumented
    (commentsHelp_assignmentEmitter options component.name) options)
  intro assignments otherAssignments hassignments
  apply congrArg Except.ok
  have hmethod : Layout.withoutComments (factory.methodLines
        (factory.chosenSignature signature?) component.undocumented assignments) =
      Layout.withoutComments (factory.methodLines
        (factory.chosenSignature signature?) component otherAssignments) := by
    unfold methodLines
    simp only [Layout.withoutComments_append, Layout.withoutComments_lines, hassignments]
    rfl
  simp only [Layout.withoutComments_append, Layout.withoutComments_lines, hfields, hproperties,
    hmethod]

/-- So has the content as a text, once it is cut into lines again. -/
theorem Component.content_undocumented (options : Options) (component : Component)
    (signature? : Option String) :
    (component.undocumented.content options signature?).result.map
        (fun text => Layout.withoutComments (Layout.split text)) =
      (component.content options signature?).result.map
        (fun text => Layout.withoutComments (Layout.split text)) := by
  have hkind : component.undocumented.kind = component.kind := rfl
  unfold content Factory.content
  simp only [Logged.result_bind, Logged.result_lift, Logged.result_pure, hkind]
  apply map_bind_congr_right
  intro factory
  apply map_bind_congr (factory.contentLines_undocumented options component signature?)
  intro lines others hlines
  have hsplit : Layout.withoutComments (Layout.split (Layout.join lines)) =
      Layout.withoutComments (Layout.split (Layout.join others)) := by
    rw [Layout.withoutComments_split_join, hlines, Layout.withoutComments_split_join]
  exact congrArg Except.ok hsplit

namespace SourceFile

theorem className_undocumented (options : Options) (component : Component) :
    className options component.undocumented = className options component := rfl

/-- A summary that is a text, or is none, leaves nothing but comments. -/
theorem componentSummary_of_isTextOrNull {component : Component}
    (h : component.summary.IsTextOrNull) :
    (componentSummary component).map Layout.withoutComments = .ok [] := by
  unfold componentSummary
  cases hsummary : component.summary with
  | null => rfl
  | str summary =>
    cases htruthy : (Json.str summary).isTruthy with
    | false => rfl
    | true => exact congrArg Except.ok (withoutComments_summaryLines summary)
  | _ =>
    rw [hsummary] at h
    exact h.elim

/-- The class of a component has the same code without the documentation of the component. -/
theorem classLines_undocumented (options : Options) {component : Component}
    (h : component.summary.IsTextOrNull) :
    (classLines options component.undocumented).result.map Layout.withoutComments =
      (classLines options component).result.map Layout.withoutComments := by
  have hcontent := map_locate_congr (component.content_undocumented options none)
    component.name .null
  have hsummary : (componentSummary component.undocumented).map Layout.withoutComments =
      (componentSummary component).map Layout.withoutComments := by
    rw [componentSummary_of_isTextOrNull h]
    rfl
  unfold classLines
  simp only [Logged.result_bind, Logged.result_lift, Logged.result_located, Logged.result_pure,
    className_undocumented]
  apply map_bind_congr hcontent
  intro text otherText htext
  apply map_bind_congr hsummary
  intro summary otherSummary hsummaries
  apply map_bind_congr_right
  intro name
  apply congrArg Except.ok
  have hindented : Layout.withoutComments ((Layout.split text).map indented) =
      Layout.withoutComments ((Layout.split otherText).map indented) := by
    rw [Layout.withoutComments_map Layout.isCommentLine_indented,
      Layout.withoutComments_map Layout.isCommentLine_indented]
    exact congrArg (List.map indented) htext
  simp only [Layout.withoutComments_append, hsummaries, hindented]

/-- So have the classes of several components, each by itself. -/
theorem classBlocks_undocumented (options : Options) {components : List Component}
    (h : ∀ component ∈ components, component.summary.IsTextOrNull) :
    (classBlocks options (components.map Component.undocumented)).result.map
        (List.map Layout.withoutComments) =
      (classBlocks options components).result.map (List.map Layout.withoutComments) := by
  induction components with
  | nil => rfl
  | cons component rest ih =>
    obtain ⟨hcomponent, hrest⟩ := List.forall_mem_cons.1 h
    rw [List.map_cons]
    unfold classBlocks
    simp only [Logged.result_bind, Logged.result_lift, Logged.result_note, ok_bind,
      Logged.result_pure, className_undocumented]
    apply map_bind_congr_right
    intro name
    apply map_bind_congr (classLines_undocumented options hcomponent)
    intro block otherBlock hblock
    apply map_bind_congr (ih hrest)
    intro blocks otherBlocks hblocks
    show Except.ok (Layout.withoutComments block :: blocks.map Layout.withoutComments) =
      Except.ok (Layout.withoutComments otherBlock :: otherBlocks.map Layout.withoutComments)
    rw [hblock, hblocks]

/-- The empty lines between blocks are no comments. -/
theorem withoutComments_separated (blocks : List (List String)) :
    Layout.withoutComments (separated blocks) =
      separated (blocks.map Layout.withoutComments) := by
  induction blocks with
  | nil => rfl
  | cons block rest ih =>
    cases rest with
    | nil => rfl
    | cons next rest =>
      have hempty : Layout.withoutComments ("" :: separated (next :: rest)) =
          "" :: Layout.withoutComments (separated (next :: rest)) := rfl
      rw [separated, Layout.withoutComments_append, hempty, ih]
      · rfl
      · exact fun hnil => List.cons_ne_nil _ _ hnil

/-- The comments among the classes may be taken out before or after they are put into a
namespace. -/
theorem withoutComments_bodyLines_congr {first second : List String}
    (h : Layout.withoutComments first = Layout.withoutComments second) (namespaceName : Json) :
    Layout.withoutComments (bodyLines namespaceName first) =
      Layout.withoutComments (bodyLines namespaceName second) := by
  unfold bodyLines
  split
  · simp only [Layout.withoutComments_append, Layout.withoutComments_lines, h]
  · rw [Layout.withoutComments_lines, Layout.withoutComments_lines, h]

/-- The file of some components has the same code without their documentation. -/
theorem text_undocumented (options : Options) (comment : String) {components : List Component}
    (h : ∀ component ∈ components, component.summary.IsTextOrNull) :
    (text options comment (components.map Component.undocumented)).result.map Layout.code =
      (text options comment components).result.map Layout.code := by
  have hlines : (lines options comment (components.map Component.undocumented)).result.map
        Layout.withoutComments =
      (lines options comment components).result.map Layout.withoutComments := by
    unfold lines
    simp only [Logged.result_bind, Logged.result_lift, Logged.result_pure]
    apply map_bind_congr_right
    intro head
    apply map_bind_congr (classBlocks_undocumented options h)
    intro blocks otherBlocks hblocks
    have hseparated : Layout.withoutComments (separated blocks) =
        Layout.withoutComments (separated otherBlocks) := by
      rw [withoutComments_separated, hblocks, withoutComments_separated]
    apply congrArg Except.ok
    rw [Layout.withoutComments_append, Layout.withoutComments_append,
      withoutComments_bodyLines_congr hseparated]
  unfold text
  simp only [Logged.result_bind, Logged.result_pure]
  apply map_bind_congr hlines
  intro first second hcode
  exact congrArg Except.ok (Layout.code_join_congr hcode)

/-- **Documentation has no influence on code.**  If two lists of components are the same but
for their help texts and summaries, where each summary is a text or is none, then their files
fail alike, or have the same lines but for the lines of comments. -/
theorem code_of_undocumented_eq (options : Options) (comment : String)
    {first second : List Component}
    (h : first.map Component.undocumented = second.map Component.undocumented)
    (hfirst : ∀ component ∈ first, component.summary.IsTextOrNull)
    (hsecond : ∀ component ∈ second, component.summary.IsTextOrNull) :
    (text options comment first).result.map Layout.code =
      (text options comment second).result.map Layout.code := by
  rw [← text_undocumented options comment hfirst, h, text_undocumented options comment hsecond]

end SourceFile

/-- A trainer whose arguments, inside a group and outside, all have one help text. -/
def Component.documentedBy (help summary : Json) : Component :=
  { Component.sample with
    arguments :=
      [.member { Declaration.ofType "rank" (.named .integer "") with help := help },
        .group { Declaration.ofType "stop" (.named .object "Stop") with help := help }
          [.member { Declaration.ofType "tolerance" (.named .double "") with help := help }]]
    summary := summary }

/-- The trainer with texts that have markup, closing braces and line boundaries of several kinds
in them. -/
def Component.breakingTexts : Component :=
  documentedBy (.str "\r\n\x7d</summary>\u2028int x;") (.str "\x85\x7d\n\n///")

/-- The trainer with no help texts and an empty summary. -/
def Component.emptyTexts : Component := documentedBy .null (.str "")

/-- The file of the trainer is generated, and the breaking texts do not change its code. -/
theorem SourceFile.code_breakingTexts :
    [Component.breakingTexts].map Component.undocumented =
        [Component.emptyTexts].map Component.undocumented ∧
      (SourceFile.text .standard "" [.breakingTexts]).result.map Layout.code =
        (SourceFile.text .standard "" [.emptyTexts]).result.map Layout.code ∧
      (SourceFile.text .standard "" [.breakingTexts]).result.isOk = true := by
  have hsame : [Component.breakingTexts].map Component.undocumented =
      [Component.emptyTexts].map Component.undocumented := rfl
  have hcode := SourceFile.code_of_undocumented_eq .standard "" hsame
    (by simp [Component.breakingTexts, Component.documentedBy, Json.IsTextOrNull])
    (by simp [Component.emptyTexts, Component.documentedBy, Json.IsTextOrNull])
  exact ⟨hsame, hcode, by decide +kernel⟩

end CatalogClasses
