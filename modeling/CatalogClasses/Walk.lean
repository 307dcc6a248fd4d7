/-
# Walking through arguments

The arguments of a component are gone through in order, the arguments of a group
between the beginning and the end of the group.  A walk is kept as a value: the
events it comes to and the notes it makes, in one order, and the fault that ends it
early, if there is one.
-/
import CatalogClasses.Log.Logged
import CatalogClasses.Resolved

namespace CatalogClasses

/-! ## Events -/

/-- What a walk comes to at an argument. -/
inductive Phase where
  | member
  | groupBegin
  | groupEnd
deriving DecidableEq, Repr

/-- An event of a walk: the argument it is at, and the suffix of the object that this
argument is assigned into. -/
structure Event where
  phase : Phase
  contextSuffix : String
  resolved : Resolved
deriving Repr

/-- A step of a walk. -/
inductive Step where
  | note (note : Note)
  | event (event : Event)
deriving Repr

/-! ## Traces -/

/-- All steps of a walk, and the fault that ended it. -/
structure Trace where
  steps : List Step
  fault : Option Fault

namespace Trace

/-- A walk without steps. -/
def done : Trace := ⟨[], none⟩

/-- A walk that ends with a fault at once. -/
def failed (fault : Fault) : Trace := ⟨[], some fault⟩

/-- A walk that takes the given steps. -/
def ofSteps (steps : List Step) : Trace := ⟨steps, none⟩

/-- One walk after another; the second is not begun if the first ends with a fault. -/
def andThen (first second : Trace) : Trace :=
  match first.fault with
  | some _ => first
  | none => ⟨first.steps ++ second.steps, second.fault⟩

/-- The events of a walk. -/
def events (trace : Trace) : List Event :=
  trace.steps.filterMap fun
    | .event e => some e
    | .note _ => none

/-- The notes of a walk. -/
def notes (trace : Trace) : List Note :=
  trace.steps.filterMap fun
    | .note n => some n
    | .event _ => none

/-- The events of one walk after another, if the first does not end with a fault. -/
theorem events_andThen {first : Trace} (second : Trace) (h : first.fault = none) :
    (first.andThen second).events = first.events ++ second.events := by
  rw [andThen, h]
  exact List.filterMap_append

/-- The notes of one walk after another, if the first does not end with a fault. -/
theorem notes_andThen {first : Trace} (second : Trace) (h : first.fault = none) :
    (first.andThen second).notes = first.notes ++ second.notes := by
  rw [andThen, h]
  exact List.filterMap_append

/-- One walk after another ends without a fault when both do. -/
theorem fault_andThen_eq_none_iff {first second : Trace} :
    (first.andThen second).fault = none ↔ first.fault = none ∧ second.fault = none := by
  unfold andThen
  cases h : first.fault with
  | none => simp
  | some fault => simp [h]

@[simp] theorem done_andThen (trace : Trace) : done.andThen trace = trace := rfl

@[simp] theorem andThen_done (trace : Trace) : trace.andThen done = trace := by
  unfold andThen
  split
  · rfl
  · next h => obtain ⟨steps, fault⟩ := trace; simp_all [done]

@[simp] theorem failed_andThen (fault : Fault) (trace : Trace) :
    (failed fault).andThen trace = failed fault := rfl

/-- Three walks one after another may be taken together in either way. -/
theorem andThen_assoc (first second third : Trace) :
    (first.andThen second).andThen third = first.andThen (second.andThen third) := by
  obtain ⟨steps₁, fault₁⟩ := first
  obtain ⟨steps₂, fault₂⟩ := second
  cases fault₁ <;> cases fault₂ <;> simp [andThen]

end Trace

/-! ## Arguments that are passed over -/

/-- The note on an argument that is passed over: exclusion comes first, then being
hidden.  There is none for an argument that is generated. -/
def Options.skipNote? (options : Options) (declaration : Declaration) :
    Fallible (Option Note) := do
  let excluded ← options.isExcluded declaration.longName
  if excluded then return some (.excluded declaration.longName)
  else if declaration.isHidden && !options.includeHidden.isTruthy then
    return some (.hidden declaration.longName)
  else return none

/-! ## The walk -/

/-- What is fixed for a walk: the options and the component it is in. -/
structure Walker where
  options : Options
  component : Json

namespace Walker

/-- The steps at one argument that is not passed over; `inner` is the walk through the
arguments of a group. -/
def visit (walker : Walker) (suffix : String) (argument : Argument) (inner : Trace) : Trace :=
  match locate walker.component argument.longName
      (argument.resolve walker.options suffix) with
  | .error fault => .failed fault
  | .ok resolved =>
      let notes := (resolved.initializer.notes argument.longName).map Step.note
      match argument with
      | .member _ => .ofSteps (notes ++ [.event ⟨.member, suffix, resolved⟩])
      | .group _ _ =>
          (Trace.ofSteps (notes ++ [.event ⟨.groupBegin, suffix, resolved⟩])).andThen
            (inner.andThen (.ofSteps [.event ⟨.groupEnd, suffix, resolved⟩]))

/-- The steps at one argument. -/
def step (walker : Walker) (suffix : String) (argument : Argument) (inner : Trace) : Trace :=
  match walker.options.skipNote? argument.declaration with
  | .error fault => .failed fault
  | .ok (some note) => .ofSteps [.note note]
  | .ok none => walker.visit suffix argument inner

section Steps

variable {walker : Walker} {suffix : String} {argument : Argument} {inner : Trace}

/-- The notes that are made when an argument has been resolved. -/
def resolvedNotes (argument : Argument) (resolved : Resolved) : List Step :=
  (resolved.initializer.notes argument.longName).map Step.note

theorem visit_of_error {fault : Fault}
    (h : argument.resolve walker.options suffix = .error fault) :
    walker.visit suffix argument inner =
      .failed (fault.located walker.component argument.longName) := by
  unfold visit
  rw [h]
  rfl

theorem visit_member {declaration : Declaration} {resolved : Resolved}
    (h : (Argument.member declaration).resolve walker.options suffix = .ok resolved) :
    walker.visit suffix (.member declaration) inner =
      .ofSteps (resolvedNotes (.member declaration) resolved ++
        [.event ⟨.member, suffix, resolved⟩]) := by
  unfold visit
  rw [h]
  rfl

theorem visit_group {declaration : Declaration} {arguments : List Argument}
    {resolved : Resolved}
    (h : (Argument.group declaration arguments).resolve walker.options suffix = .ok resolved) :
    walker.visit suffix (.group declaration arguments) inner =
      (Trace.ofSteps (resolvedNotes (.group declaration arguments) resolved ++
        [.event ⟨.groupBegin, suffix, resolved⟩])).andThen
        (inner.andThen (.ofSteps [.event ⟨.groupEnd, suffix, resolved⟩])) := by
  unfold visit
  rw [h]
  rfl

theorem step_of_error {fault : Fault}
    (h : walker.options.skipNote? argument.declaration = .error fault) :
    walker.step suffix argument inner = .failed fault := by
  unfold step
  rw [h]

theorem step_of_note {note : Note}
    (h : walker.options.skipNote? argument.declaration = .ok (some note)) :
    walker.step suffix argument inner = .ofSteps [.note note] := by
  unfold step
  rw [h]

theorem step_of_none (h : walker.options.skipNote? argument.declaration = .ok none) :
    walker.step suffix argument inner = walker.visit suffix argument inner := by
  unfold step
  rw [h]

/-- All that can come of one argument: the options do not tell of it, it is passed over, it cannot
be resolved, or it is visited. -/
theorem step_cases (walker : Walker) (suffix : String) (argument : Argument) (inner : Trace) :
    (∃ fault, walker.options.skipNote? argument.declaration = .error fault ∧
      walker.step suffix argument inner = .failed fault) ∨
    (∃ note, walker.step suffix argument inner = .ofSteps [.note note]) ∨
    (∃ fault, argument.resolve walker.options suffix = .error fault ∧
      walker.step suffix argument inner =
        .failed (fault.located walker.component argument.longName)) ∨
    ∃ resolved, walker.options.skipNote? argument.declaration = .ok none ∧
      argument.resolve walker.options suffix = .ok resolved ∧
      walker.step suffix argument inner = walker.visit suffix argument inner := by
  cases hskip : walker.options.skipNote? argument.declaration with
  | error fault => exact .inl ⟨fault, rfl, step_of_error hskip⟩
  | ok note? =>
    cases note? with
    | some note => exact .inr (.inl ⟨note, step_of_note hskip⟩)
    | none =>
      have hstep : walker.step suffix argument inner = walker.visit suffix argument inner :=
        step_of_none hskip
      cases hresolve : argument.resolve walker.options suffix with
      | error fault =>
        exact .inr (.inr (.inl ⟨fault, rfl, hstep.trans (visit_of_error hresolve)⟩))
      | ok resolved => exact .inr (.inr (.inr ⟨resolved, rfl, rfl, hstep⟩))

/-- Notes are no events. -/
@[simp] theorem events_resolvedNotes (argument : Argument) (resolved : Resolved)
    (steps : List Step) :
    (Trace.ofSteps (resolvedNotes argument resolved ++ steps)).events =
      (Trace.ofSteps steps).events := by
  simp [Trace.events, Trace.ofSteps, resolvedNotes, List.filterMap_map]

end Steps

mutual

/-- The walk to one argument and, from a group, on through the arguments inside it. -/
def walkAt (walker : Walker) (suffix : String) : Argument → Trace
  | .member declaration => walker.step suffix (.member declaration) .done
  | .group declaration arguments =>
      walker.step suffix (.group declaration arguments)
        (walker.walk (nestedSuffix suffix declaration.longName) arguments)

/-- The walk through a list of arguments. -/
def walk (walker : Walker) (suffix : String) : List Argument → Trace
  | [] => .done
  | argument :: rest => (walker.walkAt suffix argument).andThen (walker.walk suffix rest)

end

@[simp] theorem walk_nil (walker : Walker) (suffix : String) : walker.walk suffix [] = .done := rfl

@[simp] theorem walk_member (walker : Walker) (suffix : String) (declaration : Declaration)
    (rest : List Argument) :
    walker.walk suffix (.member declaration :: rest) =
      (walker.step suffix (.member declaration) .done).andThen (walker.walk suffix rest) := rfl

@[simp] theorem walk_group (walker : Walker) (suffix : String) (declaration : Declaration)
    (inner rest : List Argument) :
    walker.walk suffix (.group declaration inner :: rest) =
      (walker.step suffix (.group declaration inner)
        (walker.walk (nestedSuffix suffix declaration.longName) inner)).andThen
        (walker.walk suffix rest) := rfl

end Walker

end CatalogClasses
