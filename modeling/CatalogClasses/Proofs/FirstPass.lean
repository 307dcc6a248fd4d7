/-
# The first pass decides

The content of a class takes three walks through the same arguments, and a fault may end any
of them.  It can only be the first one: no emitter has a fault of its own at an argument that
has been resolved, so all three walks end as the walk itself does.  What could go wrong in the
assignments, the look-up of the type that reads a column, has been tried when the type of the
member was named.
-/
import CatalogClasses.Proofs.PrunedWalk

namespace CatalogClasses

/-! ## Emission without faults of its own -/

/-- If an emitter makes something of all events of a walk, the emission ends as the walk. -/
theorem Trace.fault_emit_of_handled {trace : Trace} {emitter : Emitter}
    (h : ∀ event ∈ trace.events, ∃ chunk, emitter event = .ok chunk) :
    (trace.emit emitter).fault = trace.fault := by
  obtain ⟨steps, fault⟩ := trace
  unfold emit
  induction steps with
  | nil => rfl
  | cons step rest ih =>
    cases step with
    | note n => exact ih h
    | event e =>
      obtain ⟨⟨chunk, hchunk⟩, hrest⟩ := List.forall_mem_cons.1
        (show ∀ event ∈ e :: Trace.events ⟨rest, fault⟩, ∃ chunk, emitter event = .ok chunk from h)
      simp only [emitSteps, hchunk]
      exact ih hrest

/-- The emitter of fields has no fault. -/
theorem fieldEmitter_handles (event : Event) : ∃ chunk, fieldEmitter event = .ok chunk := by
  obtain ⟨phase, suffix, resolved⟩ := event
  cases phase <;> exact ⟨_, rfl⟩

/-- The emitter of properties has no fault. -/
theorem propertyEmitter_handles (event : Event) : ∃ chunk, propertyEmitter event = .ok chunk := by
  obtain ⟨phase, suffix, resolved⟩ := event
  cases phase <;> exact ⟨_, rfl⟩

/-- The statement that is made of an event, if its argument is not excluded. -/
def Event.statement (options : Options) (event : Event) : String :=
  let r := event.resolved
  match event.phase with
  | .member => assignmentLine r.shape r.longName r.name event.contextSuffix
      r.declaration.columnName options.lift.isTruthy
  | .groupBegin => groupOpenLine r.typeName r.suffix
  | .groupEnd => groupCloseLine r.longName event.contextSuffix r.suffix

/-- The emitter of assignments makes one statement of an argument that has been resolved, or
none if it is told that the argument is excluded; it has no fault there. -/
theorem assignmentEmitter_eq {options walked : Options} {place : String} {argument : Argument}
    {event : Event} (hresolved : argument.resolve walked place = .ok event.resolved)
    {excluded : Bool} (hexcluded : options.isExcluded (.str event.resolved.longName) = .ok excluded)
    (component : Json) : ∃ notes, assignmentEmitter options component event =
      .ok ⟨notes, if excluded then [] else [event.statement options]⟩ := by
  obtain ⟨phase, suffix, resolved⟩ := event
  have hexcluded : options.isExcluded (.str resolved.longName) = .ok excluded := hexcluded
  unfold assignmentEmitter
  simp only [hexcluded, ok_bind]
  cases excluded with
  | true => exact ⟨[], rfl⟩
  | false =>
    cases phase with
    | member =>
      -- a collection of columns has a type that reads them, as its own type has been named
      have hcolumn : resolved.shape = .columnCollection →
          ∃ name, resolved.declaration.columnType = .ok name := by
        intro hshape
        obtain ⟨shape, typeName, longName, initializer, -, htype, -, -, hr⟩ :=
          Argument.resolve_eq_ok_iff.1 hresolved
        obtain rfl : resolved = _ := hr
        rw [show shape = .columnCollection from hshape] at htype
        exact Declaration.columnType_of_typeName htype
      exact memberAssignment_eq options component .member suffix hcolumn
    | groupBegin | groupEnd => exact ⟨[], rfl⟩

/-- On a walk under its own options, the emitter of assignments has no fault. -/
theorem Walker.fault_emit_assignments (walker : Walker) (start : String)
    (arguments : List Argument) (component : Json) :
    ((walker.walk start arguments).emit (assignmentEmitter walker.options component)).fault =
      (walker.walk start arguments).fault := by
  apply Trace.fault_emit_of_handled
  intro event hevent
  obtain ⟨place, argument, -, hresolved⟩ :=
    exists_resolve_of_mem_events arguments start event hevent
  obtain ⟨notes, hchunk⟩ := assignmentEmitter_eq hresolved
    (isExcluded_of_mem_events arguments start event hevent) component
  exact ⟨_, hchunk⟩

/-! ## The three walks of a component -/

namespace Component

/-- The walk through the arguments of a component. -/
def walk (component : Component) (options : Options) : Trace :=
  Walker.walk ⟨options, component.name⟩ "" component.arguments

variable {options : Options} {component : Component}

theorem fault_emission_fields (options : Options) (component : Component) :
    (component.emission options fieldEmitter).fault = (component.walk options).fault :=
  Trace.fault_emit_of_handled fun event _ => fieldEmitter_handles event

theorem fault_emission_properties (options : Options) (component : Component) :
    (component.emission options propertyEmitter).fault = (component.walk options).fault :=
  Trace.fault_emit_of_handled fun event _ => propertyEmitter_handles event

theorem fault_emission_assignments (options : Options) (component : Component) :
    (component.emission options (assignmentEmitter options component.name)).fault =
      (component.walk options).fault :=
  Walker.fault_emit_assignments ⟨options, component.name⟩ "" component.arguments component.name

end Component

/-! ## The content -/

/-- An emission with a fault has the fault as its result. -/
theorem Emission.result_toLogged_of_fault {emission : Emission} {fault : Fault}
    (h : emission.fault = some fault) : emission.toLogged.result = .error fault := by
  unfold toLogged
  rw [h]

/-- An emission without a fault has its lines as its result. -/
theorem Emission.result_toLogged_of_none {emission : Emission} (h : emission.fault = none) :
    emission.toLogged.result = .ok emission.lines :=
  result_toLogged_eq_ok_iff.2 ⟨h, rfl⟩

namespace Factory

variable {factory : Factory} {options : Options} {component : Component}
  {signature? : Option String}

/-- A fault of the walk ends the content in the fields. -/
theorem result_content_of_fault {fault : Fault} (h : (component.walk options).fault = some fault) :
    (factory.content options component signature?).result = .error fault := by
  have hfields : (component.emission options fieldEmitter).fault = some fault := by
    rw [Component.fault_emission_fields, h]
  unfold content contentLines
  simp only [Logged.result_bind, Emission.result_toLogged_of_fault hfields, error_bind]

/-- Without a fault of the walk the content is generated. -/
theorem exists_content_of_no_fault (h : (component.walk options).fault = none) :
    ∃ text, (factory.content options component signature?).result = .ok text := by
  have hfields := (Component.fault_emission_fields options component).trans h
  have hproperties := (Component.fault_emission_properties options component).trans h
  have hassignments := (Component.fault_emission_assignments options component).trans h
  unfold content contentLines
  simp only [Logged.result_bind, Logged.result_pure, ok_bind,
    Emission.result_toLogged_of_none hfields, Emission.result_toLogged_of_none hproperties,
    Emission.result_toLogged_of_none hassignments]
  exact ⟨_, rfl⟩

/-- **The first pass decides.**  The content of a class ends with a fault just when the pass
that makes the fields does, and with the same one.  Once that pass has succeeded, the passes
that make the properties and the assignments succeed too, and there is a content. -/
theorem content_decided_by_fields (factory : Factory) (options : Options) (component : Component)
    (signature? : Option String) :
    (∀ fault, (factory.content options component signature?).result = .error fault ↔
      (component.emission options fieldEmitter).fault = some fault) ∧
    ((component.emission options fieldEmitter).fault = none →
      (component.emission options propertyEmitter).fault = none ∧
      (component.emission options (assignmentEmitter options component.name)).fault = none ∧
      ∃ text, (factory.content options component signature?).result = .ok text) := by
  rw [Component.fault_emission_fields, Component.fault_emission_properties,
    Component.fault_emission_assignments]
  refine ⟨?_, fun h => ⟨h, h, exists_content_of_no_fault h⟩⟩
  intro fault
  cases hwalk : (component.walk options).fault with
  | some other =>
    rw [result_content_of_fault hwalk]
    simp
  | none =>
    obtain ⟨text, htext⟩ :
        ∃ text, (factory.content options component signature?).result = .ok text :=
      exists_content_of_no_fault hwalk
    rw [htext]
    simp

end Factory

/-- The sample component with columns whose type has no name: nothing could read them. -/
def Component.unreadable : Component :=
  { Component.sample with
    arguments := [.member (.ofType "rank" (.named .integer "")),
      .member (.ofType "columns" (.sequence (.named .column "") (.str "") false))] }

/-- The first pass through unreadable columns ends with a fault, and so does the content; with
the columns of the sample it succeeds, and there is a content. -/
theorem Component.first_pass_of_samples :
    (∃ failure, (Factory.trainer.content .standard .unreadable none).result =
        .error (.failure failure) ∧
      failure.message =
        "component 'pca_trainer', argument 'columns': Type kind 'column' has no name") ∧
    ∃ text, (Factory.trainer.content .withoutOld .sample none).result = .ok text := by
  obtain ⟨failure, hfault⟩ : ∃ failure,
      (Component.unreadable.emission .standard fieldEmitter).fault = some (.failure failure) :=
    ⟨_, rfl⟩
  have hmessage : failure.message =
      "component 'pca_trainer', argument 'columns': Type kind 'column' has no name" := by
    obtain rfl := Fault.failure.inj (Option.some.inj hfault)
    decide +kernel
  have hfields : (Component.sample.emission .withoutOld fieldEmitter).fault = none := rfl
  have hcontent := (Factory.content_decided_by_fields .trainer .standard .unreadable none).1
  have hpasses := (Factory.content_decided_by_fields .trainer .withoutOld .sample none).2 hfields
  exact ⟨⟨failure, (hcontent _).2 hfault, hmessage⟩, hpasses.2.2⟩

end CatalogClasses
