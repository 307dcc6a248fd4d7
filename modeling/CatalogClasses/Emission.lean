/-
# Emission of a walk

What a walk comes to is turned into lines by an emitter, one event at a time.  The
three emitters make the fields, the properties and the assignments of a class; they
all follow the same walk.
-/
import CatalogClasses.CSharp.Members
import CatalogClasses.Walk

namespace CatalogClasses

/-! ## Chunks -/

/-- What an emitter makes of one event: notes and lines. -/
structure Chunk where
  notes : List Note
  lines : List String

/-- A chunk of lines alone. -/
def Chunk.ofLines (lines : List String) : Chunk := ⟨[], lines⟩

/-- A chunk of nothing. -/
def Chunk.empty : Chunk := ⟨[], []⟩

/-- A way of turning events into lines. -/
abbrev Emitter := Event → Fallible Chunk

/-! ## The three emitters -/

/-- One private field for each member. -/
def fieldEmitter : Emitter := fun event =>
  let r := event.resolved
  match event.phase with
  | .member => .ok (.ofLines (fieldLines r.typeName r.name r.initializer.literal?))
  | _ => .ok .empty

/-- One public property for each member. -/
def propertyEmitter : Emitter := fun event =>
  let r := event.resolved
  match event.phase with
  | .member => .ok (.ofLines (propertyLines r.typeName r.name r.isBoolean r.declaration.help))
  | _ => .ok .empty

/-- The assignment of a member that is not excluded.  A single value that stands for a
collection is worth a note. -/
def memberAssignment (options : Options) (component : Json) (event : Event) :
    Fallible Chunk :=
  let r := event.resolved
  let lifted := options.lift.isTruthy
  let lineWith (columnType : Json) :=
    assignmentLine r.shape r.longName r.name event.contextSuffix columnType lifted
  match r.shape, lifted with
  | .columnCollection, _ => do
      let columnType ← r.declaration.columnType
      return .ofLines [lineWith columnType]
  | .genericCollection, true =>
      return ⟨[.lifted r.longName component], [lineWith .null]⟩
  | _, _ => return .ofLines [lineWith .null]

/-- The statements that fill the objects of arguments.  The test for excluded names is
made once more here, by the options of the emitter. -/
def assignmentEmitter (options : Options) (component : Json) : Emitter := fun event => do
  let r := event.resolved
  let excluded ← options.isExcluded (.str r.longName)
  if excluded then return .empty
  else match event.phase with
    | .member => memberAssignment options component event
    | .groupBegin => return .ofLines [groupOpenLine r.typeName r.suffix]
    | .groupEnd => return .ofLines [groupCloseLine r.longName event.contextSuffix r.suffix]

/-! ## Emission -/

/-- All that an emitter makes of a walk: notes, those of the walk among them, lines, and
the fault that ended the walk or the emission. -/
structure Emission where
  notes : List Note
  lines : List String
  fault : Option Fault

/-- What an emitter makes of the steps of a walk that ends with the given fault, if
any.  The emission ends with the first fault, be it of the emitter or of the walk. -/
def emitSteps (emitter : Emitter) (fault : Option Fault) : List Step → Emission
  | [] => ⟨[], [], fault⟩
  | .note n :: rest =>
      let later := emitSteps emitter fault rest
      { later with notes := n :: later.notes }
  | .event e :: rest => match emitter e with
    | .error f => ⟨[], [], some f⟩
    | .ok chunk =>
        let later := emitSteps emitter fault rest
        ⟨chunk.notes ++ later.notes, chunk.lines ++ later.lines, later.fault⟩

/-- One emission after another; the second is not begun if the first ends with a
fault. -/
def Emission.andThen (first second : Emission) : Emission :=
  match first.fault with
  | some _ => first
  | none => ⟨first.notes ++ second.notes, first.lines ++ second.lines, second.fault⟩

/-- Steps one after another are emitted one after another. -/
theorem emitSteps_append (emitter : Emitter) (fault : Option Fault) (first second : List Step) :
    emitSteps emitter fault (first ++ second) =
      (emitSteps emitter none first).andThen (emitSteps emitter fault second) := by
  induction first with
  | nil => rfl
  | cons step rest ih =>
    cases step with
    | note n =>
      simp only [List.cons_append, emitSteps, ih, Emission.andThen]
      split <;> rfl
    | event e =>
      simp only [List.cons_append, emitSteps]
      cases emitter e with
      | error f => rfl
      | ok chunk =>
        simp only [ih, Emission.andThen]
        split <;> simp

/-- What an emitter makes of a walk. -/
def Trace.emit (trace : Trace) (emitter : Emitter) : Emission :=
  emitSteps emitter trace.fault trace.steps

/-- The lines that an emitter makes of an event; there are none if it fails. -/
def linesOf (emitter : Emitter) (event : Event) : List String :=
  match emitter event with
  | .ok chunk => chunk.lines
  | .error _ => []

/-- An emission without a fault is made of all events of its walk, one after another. -/
theorem Trace.emit_of_fault_eq_none {trace : Trace} {emitter : Emitter}
    (h : (trace.emit emitter).fault = none) :
    trace.fault = none ∧ (trace.emit emitter).lines = trace.events.flatMap (linesOf emitter) := by
  obtain ⟨steps, fault⟩ := trace
  unfold emit at h ⊢
  induction steps with
  | nil => exact ⟨h, rfl⟩
  | cons step rest ih =>
    cases step with
    | note n => exact ih h
    | event e =>
      show _ ∧ _ = (e :: Trace.events ⟨rest, fault⟩).flatMap (linesOf emitter)
      rw [List.flatMap_cons, linesOf]
      simp only [emitSteps] at h ⊢
      cases he : emitter e with
      | error f =>
        rw [he] at h
        cases h
      | ok chunk =>
        rw [he] at h
        obtain ⟨hfault, hlines⟩ := ih h
        exact ⟨hfault, congrArg (chunk.lines ++ ·) hlines⟩

/-- The notes of a walk have no part in the lines and the fault of an emission. -/
theorem Trace.emit_events (trace : Trace) (emitter : Emitter) :
    (trace.emit emitter).lines =
        (Trace.emit ⟨trace.events.map .event, trace.fault⟩ emitter).lines ∧
      (trace.emit emitter).fault =
        (Trace.emit ⟨trace.events.map .event, trace.fault⟩ emitter).fault := by
  obtain ⟨steps, fault⟩ := trace
  unfold emit
  induction steps with
  | nil => exact ⟨rfl, rfl⟩
  | cons step rest ih =>
    cases step with
    | note n => exact ih
    | event e =>
      show (emitSteps emitter fault (.event e :: rest)).lines =
          (emitSteps emitter fault (.event e :: (Trace.events ⟨rest, fault⟩).map .event)).lines ∧
        (emitSteps emitter fault (.event e :: rest)).fault =
          (emitSteps emitter fault (.event e :: (Trace.events ⟨rest, fault⟩).map .event)).fault
      simp only [emitSteps]
      cases emitter e with
      | error f => exact ⟨rfl, rfl⟩
      | ok chunk => exact ⟨congrArg (chunk.lines ++ ·) ih.1, ih.2⟩

/-- Walks with the same events and the same fault are emitted as the same lines, with the
same fault. -/
theorem Trace.emit_congr {first second : Trace} (hevents : first.events = second.events)
    (hfault : first.fault = second.fault) (emitter : Emitter) :
    (first.emit emitter).lines = (second.emit emitter).lines ∧
      (first.emit emitter).fault = (second.emit emitter).fault := by
  obtain ⟨hfirstLines, hfirstFault⟩ := emit_events first emitter
  obtain ⟨hsecondLines, hsecondFault⟩ := emit_events second emitter
  rw [hfirstLines, hfirstFault, hsecondLines, hsecondFault, hevents, hfault]
  exact ⟨rfl, rfl⟩

/-- What an emitter makes of a walk through the arguments of a component. -/
def Component.emission (component : Component) (options : Options) (emitter : Emitter) :
    Emission :=
  (Walker.walk ⟨options, component.name⟩ "" component.arguments).emit emitter

/-- The lines of an emission, as a result. -/
def Emission.toLogged (emission : Emission) : Logged (List String) :=
  ⟨emission.notes, match emission.fault with
    | some fault => .error fault
    | none => .ok emission.lines⟩

/-- An emission has its lines as a result when it has no fault. -/
theorem Emission.result_toLogged_eq_ok_iff {emission : Emission} {lines : List String} :
    emission.toLogged.result = .ok lines ↔ emission.fault = none ∧ emission.lines = lines := by
  unfold toLogged
  cases h : emission.fault with
  | none => simp
  | some fault => simp

end CatalogClasses
