/-
# Arguments taken out beforehand

An argument that a walk passes over might as well not be there.  Taking it out before the
walk, together with all that is inside it, changes nothing but the notes: the walk comes
to the same events and ends with the same fault, and so the generated text is the same.
-/
import CatalogClasses.SourceFile

namespace CatalogClasses

/-! ## Trees without some arguments -/

mutual

/-- The argument without those arguments inside it that are to be dropped. -/
def Argument.withoutInside (drop : Declaration → Bool) : Argument → Argument
  | .member declaration => .member declaration
  | .group declaration arguments => .group declaration (Argument.without drop arguments)

/-- The arguments without those that are to be dropped, at every depth. -/
def Argument.without (drop : Declaration → Bool) : List Argument → List Argument
  | [] => []
  | argument :: rest =>
      if drop argument.declaration then Argument.without drop rest
      else argument.withoutInside drop :: Argument.without drop rest

end

/-- The component without the arguments that are to be dropped. -/
def Component.without (drop : Declaration → Bool) (component : Component) : Component :=
  { component with arguments := Argument.without drop component.arguments }

namespace Argument

variable {drop : Declaration → Bool} {argument : Argument}

theorem without_cons_of_drop (h : drop argument.declaration = true) (rest : List Argument) :
    Argument.without drop (argument :: rest) = Argument.without drop rest := by
  rw [without, if_pos h]

theorem without_cons_of_keep (h : drop argument.declaration = false) (rest : List Argument) :
    Argument.without drop (argument :: rest) =
      argument.withoutInside drop :: Argument.without drop rest := by
  rw [without, h]
  rfl

/-- What is inside a group has no part in how the group itself is resolved. -/
theorem resolve_group (options : Options) (suffix : String) (declaration : Declaration)
    (first second : List Argument) :
    (group declaration first).resolve options suffix =
      (group declaration second).resolve options suffix := rfl

end Argument

/-! ## Walks that differ in their notes -/

/-- Two walks come to the same events and end with the same fault. -/
def Trace.Alike (first second : Trace) : Prop :=
  first.events = second.events ∧ first.fault = second.fault

namespace Trace.Alike

variable {first second third fourth : Trace}

theorem refl (trace : Trace) : trace.Alike trace := ⟨rfl, rfl⟩

theorem andThen (hfirst : first.Alike second) (hnext : third.Alike fourth) :
    (first.andThen third).Alike (second.andThen fourth) := by
  obtain ⟨hevents, hfault⟩ := hfirst
  cases h : first.fault with
  | some fault =>
    have h' : second.fault = some fault := by rw [← hfault, h]
    unfold Trace.andThen
    rw [h, h']
    exact ⟨hevents, hfault⟩
  | none =>
    have h' : second.fault = none := by rw [← hfault, h]
    refine ⟨?_, ?_⟩
    · rw [Trace.events_andThen _ h, Trace.events_andThen _ h', hevents, hnext.1]
    · unfold Trace.andThen
      rw [h, h']
      exact hnext.2

theorem symm (h : first.Alike second) : second.Alike first := ⟨h.1.symm, h.2.symm⟩

theorem trans (h : first.Alike second) (hnext : second.Alike third) : first.Alike third :=
  ⟨h.1.trans hnext.1, h.2.trans hnext.2⟩

/-- A note before a walk changes neither its events nor its fault. -/
theorem note_andThen (note : Note) (trace : Trace) :
    ((Trace.ofSteps [.note note]).andThen trace).Alike trace := ⟨rfl, rfl⟩

end Trace.Alike

namespace Walker

variable {walker : Walker} {drop : Declaration → Bool}

/-- Walks to a group are alike when those through what is inside it are. -/
theorem step_group_alike (walker : Walker) (suffix : String) (declaration : Declaration)
    (arguments others : List Argument) {first second : Trace} (h : first.Alike second) :
    (walker.step suffix (.group declaration arguments) first).Alike
      (walker.step suffix (.group declaration others) second) := by
  cases hs : walker.options.skipNote? declaration with
  | error fault =>
    rw [step_of_error hs, step_of_error hs]
    exact Trace.Alike.refl _
  | ok note =>
    cases note with
    | some note =>
      rw [step_of_note hs, step_of_note hs]
      exact Trace.Alike.refl _
    | none =>
      rw [step_of_none hs, step_of_none hs]
      have hothers := Argument.resolve_group walker.options suffix declaration others arguments
      cases hr : (Argument.group declaration arguments).resolve walker.options suffix with
      | error fault =>
        rw [hr] at hothers
        rw [visit_of_error hr, visit_of_error hothers]
        exact Trace.Alike.refl _
      | ok resolved =>
        rw [hr] at hothers
        rw [visit_group hr, visit_group hothers]
        exact (Trace.Alike.refl _).andThen (h.andThen (Trace.Alike.refl _))

/-- **Arguments that are passed over may be taken out beforehand.**  If there is a note on
passing over each argument that is dropped, the walk without them is like the walk through
all arguments. -/
theorem walk_without (hdrop : ∀ declaration, drop declaration = true →
      ∃ note, walker.options.skipNote? declaration = .ok (some note))
    (arguments : List Argument) :
    ∀ suffix, (walker.walk suffix (Argument.without drop arguments)).Alike
      (walker.walk suffix arguments) := by
  -- an argument that is dropped leaves a note alone
  have hdropped : ∀ (argument : Argument) (inner trace : Trace) (suffix : String),
      drop argument.declaration = true →
      trace.Alike ((walker.step suffix argument inner).andThen trace) := by
    intro argument inner trace suffix hd
    obtain ⟨note, hnote⟩ := hdrop _ hd
    rw [step_of_note hnote]
    exact (Trace.Alike.note_andThen note trace).symm
  induction arguments using Argument.list_induction with
  | nil => intro suffix; exact Trace.Alike.refl _
  | member declaration rest ih =>
    intro suffix
    cases hd : drop declaration with
    | true =>
      rw [Argument.without_cons_of_drop hd, walk_member]
      exact (ih suffix).trans (hdropped (.member declaration) _ _ suffix hd)
    | false =>
      rw [Argument.without_cons_of_keep hd, walk_member]
      exact (Trace.Alike.refl _).andThen (ih suffix)
  | group declaration inner rest ihInner ih =>
    intro suffix
    cases hd : drop declaration with
    | true =>
      rw [Argument.without_cons_of_drop hd, walk_group]
      exact (ih suffix).trans (hdropped (.group declaration inner) _ _ suffix hd)
    | false =>
      rw [Argument.without_cons_of_keep hd, walk_group]
      -- the group stays, and what is left inside it is walked through alike
      show Trace.Alike ((walker.step suffix (.group declaration (Argument.without drop inner))
          (walker.walk _ (Argument.without drop inner))).andThen _) _
      exact (step_group_alike _ _ _ _ _ (ihInner _)).andThen (ih suffix)

end Walker

/-! ## Text without some arguments -/

/-- Walks that are alike have emissions with the same result. -/
theorem Trace.Alike.result_emit {first second : Trace} (h : first.Alike second)
    (emitter : Emitter) :
    (first.emit emitter).toLogged.result = (second.emit emitter).toLogged.result := by
  obtain ⟨hlines, hfault⟩ := Trace.emit_congr h.1 h.2 emitter
  unfold Emission.toLogged
  rw [hlines, hfault]

section Text

variable {options : Options} {drop : Declaration → Bool}
  (hdrop : ∀ declaration, drop declaration = true →
    ∃ note, options.skipNote? declaration = .ok (some note))

include hdrop

/-- What an emitter makes of a component is the same without the arguments that are dropped,
but for notes. -/
theorem Component.result_emission_without (component : Component) (emitter : Emitter) :
    ((component.without drop).emission options emitter).toLogged.result =
      (component.emission options emitter).toLogged.result := by
  have hwalk : Trace.Alike (Walker.walk ⟨options, component.name⟩ ""
      (Argument.without drop component.arguments)) _ :=
    Walker.walk_without hdrop component.arguments ""
  exact hwalk.result_emit emitter

/-- The content that a factory makes is the same without the arguments that are dropped. -/
theorem Factory.result_content_without (factory : Factory) (component : Component)
    (signature? : Option String) :
    (factory.content options (component.without drop) signature?).result =
      (factory.content options component signature?).result := by
  unfold Factory.content Factory.contentLines
  simp only [Logged.result_bind, Logged.result_pure, Component.result_emission_without hdrop]
  rfl

/-- The content of a component is the same without the arguments that are dropped. -/
theorem Component.result_content_without (component : Component) (signature? : Option String) :
    ((component.without drop).content options signature?).result =
      (component.content options signature?).result := by
  unfold Component.content
  simp only [Logged.result_bind, Logged.result_lift]
  show Factory.ofWord component.kind >>= _ = _
  simp only [Factory.result_content_without hdrop]

namespace SourceFile

/-- The class of a component is the same without the arguments that are dropped. -/
theorem result_classLines_without (component : Component) :
    (classLines options (component.without drop)).result =
      (classLines options component).result := by
  unfold classLines
  simp only [Logged.result_bind, Logged.result_located, Logged.result_lift, Logged.result_pure,
    Component.result_content_without hdrop]
  rfl

/-- The classes of some components are the same without the arguments that are dropped. -/
theorem result_classBlocks_without (components : List Component) :
    (classBlocks options (components.map (Component.without drop))).result =
      (classBlocks options components).result := by
  induction components with
  | nil => rfl
  | cons component rest ih =>
    rw [List.map_cons, classBlocks, classBlocks]
    simp only [Logged.result_bind, Logged.result_lift, Logged.result_note, Logged.result_pure,
      result_classLines_without hdrop, ih]
    rfl

/-- The text of a file is the same without the arguments that are dropped. -/
theorem result_text_without (comment : String) (components : List Component) :
    (text options comment (components.map (Component.without drop))).result =
      (text options comment components).result := by
  unfold text lines
  simp only [Logged.result_bind, Logged.result_lift, Logged.result_pure,
    result_classBlocks_without hdrop]

end SourceFile

end Text

end CatalogClasses
