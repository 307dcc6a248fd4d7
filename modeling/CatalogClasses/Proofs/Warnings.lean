/-
# Warnings

A single value that stands for a collection is wrapped into an array when it is assigned, which
the maker of a catalog may not expect; so there is a warning for it.  A walk has no warnings of
its own, and of the three emitters only that of the assignments has any.  The main statement is
that the warnings of a content and the assignments that wrap a value come from one list of
members, in the order of their declarations, and that there is no warning where there is no
content: whatever ends the generation does so while the fields are made.

Main definitions:

* `warnings` : the warnings among some notes;
* `warningsOf` : the warnings that an emitter makes of an event;
* `Site.isWrapped` : a member is wrapped when it is assigned.
-/
import Mathlib.Data.List.Basic
import CatalogClasses.Log.Settings
import CatalogClasses.Proofs.AssignedTypes
import CatalogClasses.Proofs.FirstPass

namespace CatalogClasses

/-! ## Warnings among notes -/

/-- The warnings among some notes, in order. -/
def warnings (notes : List Note) : List Note := notesFrom .warning notes

theorem warnings_append (first second : List Note) :
    warnings (first ++ second) = warnings first ++ warnings second := List.filter_append ..

/-- There is no warning among notes that are of interest to nobody but a developer. -/
theorem warnings_of_debug {notes : List Note} (h : ∀ note ∈ notes, note.level = .debug) :
    warnings notes = [] := by
  apply List.filter_eq_nil_iff.2
  intro note hnote
  rw [h note hnote]
  decide

/-! ## Notes of a walk -/

theorem Trace.mem_notes_andThen {first second : Trace} {note : Note}
    (h : note ∈ (first.andThen second).notes) : note ∈ first.notes ∨ note ∈ second.notes := by
  cases hfault : first.fault with
  | none =>
    rw [notes_andThen _ hfault] at h
    exact List.mem_append.1 h
  | some fault =>
    unfold andThen at h
    rw [hfault] at h
    exact .inl h

/-- The note on passing an argument over is no warning. -/
theorem Options.level_of_skipNote? {options : Options} {declaration : Declaration} {note : Note}
    (h : options.skipNote? declaration = .ok (some note)) : note.level = .debug := by
  obtain ⟨excluded, -, h⟩ := bind_eq_ok_iff.1 h
  split at h
  · cases h
    rfl
  · split at h
    · cases h
      rfl
    · cases h

namespace Walker

variable {walker : Walker} {suffix : String} {argument : Argument} {inner : Trace}

/-- The notes on a resolved argument are no warnings. -/
theorem level_of_resolvedNotes {resolved : Resolved} {steps : List Step} {note : Note}
    (h : note ∈ (Trace.ofSteps (resolvedNotes argument resolved ++ steps)).notes) :
    note.level = .debug ∨ note ∈ (Trace.ofSteps steps).notes := by
  have hnotes : (Trace.ofSteps (resolvedNotes argument resolved)).notes =
      resolved.initializer.notes argument.longName := by
    rw [Trace.notes, Trace.ofSteps, resolvedNotes, List.filterMap_map]
    exact List.filterMap_some
  have hsplit : (Trace.ofSteps (resolvedNotes argument resolved ++ steps)).notes =
      (Trace.ofSteps (resolvedNotes argument resolved)).notes ++
        (Trace.ofSteps steps).notes := List.filterMap_append
  rw [hsplit, hnotes] at h
  rcases List.mem_append.1 h with h | h
  · left
    cases hinitializer : resolved.initializer with
    | dropped count =>
      rw [hinitializer] at h
      rw [List.mem_singleton.1 h]
      rfl
    | absent | literal text =>
      rw [hinitializer] at h
      cases h
  · exact .inr h

/-- No step at an argument adds a warning to those of the walk inside it. -/
theorem level_of_mem_notes_step (hinner : ∀ note ∈ inner.notes, note.level = .debug) :
    ∀ note ∈ (walker.step suffix argument inner).notes, note.level = .debug := by
  intro note h
  cases hskip : walker.options.skipNote? argument.declaration with
  | error fault =>
    rw [step_of_error hskip] at h
    cases h
  | ok skipped =>
    cases skipped with
    | some skipNote =>
      rw [step_of_note hskip] at h
      rw [List.mem_singleton.1 (h : note ∈ [skipNote])]
      exact Options.level_of_skipNote? hskip
    | none =>
      rw [step_of_none hskip] at h
      cases hresolve : argument.resolve walker.options suffix with
      | error fault =>
        rw [visit_of_error hresolve] at h
        cases h
      | ok resolved =>
        cases argument with
        | member declaration =>
          rw [visit_member hresolve] at h
          rcases level_of_resolvedNotes h with h | h
          · exact h
          · cases h
        | group declaration arguments =>
          rw [visit_group hresolve] at h
          rcases Trace.mem_notes_andThen h with h | h
          · rcases level_of_resolvedNotes h with h | h
            · exact h
            · cases h
          · rcases Trace.mem_notes_andThen h with h | h
            · exact hinner note h
            · cases h

/-- A walk makes no warning. -/
theorem level_of_mem_notes_walk (walker : Walker) (arguments : List Argument) :
    ∀ suffix, ∀ note ∈ (walker.walk suffix arguments).notes, note.level = .debug := by
  induction arguments using Argument.list_induction with
  | nil => intro suffix note h; cases h
  | member declaration rest ih =>
    intro suffix note h
    rw [walk_member] at h
    rcases Trace.mem_notes_andThen h with h | h
    · exact level_of_mem_notes_step (fun note h => by cases h) note h
    · exact ih suffix note h
  | group declaration arguments rest ihInner ih =>
    intro suffix note h
    rw [walk_group] at h
    rcases Trace.mem_notes_andThen h with h | h
    · exact level_of_mem_notes_step (ihInner _) note h
    · exact ih suffix note h

end Walker

/-! ## Warnings of an emission -/

/-- The warnings that an emitter makes of an event; there are none if it fails. -/
def warningsOf (emitter : Emitter) (event : Event) : List Note :=
  match emitter event with
  | .ok chunk => warnings chunk.notes
  | .error _ => []

/-- If an emitter makes something of all events of a walk, the warnings of the emission are those
that it makes of the events, also where the walk ends with a fault. -/
theorem Trace.warnings_emit {trace : Trace} {emitter : Emitter}
    (hwalk : ∀ note ∈ trace.notes, note.level = .debug)
    (h : ∀ event ∈ trace.events, ∃ chunk, emitter event = .ok chunk) :
    warnings (trace.emit emitter).notes = trace.events.flatMap (warningsOf emitter) := by
  obtain ⟨steps, fault⟩ := trace
  unfold emit
  induction steps with
  | nil => rfl
  | cons step rest ih =>
    cases step with
    | note n =>
      obtain ⟨hn, hrest⟩ := List.forall_mem_cons.1
        (show ∀ note ∈ n :: Trace.notes ⟨rest, fault⟩, note.level = .debug from hwalk)
      have hnone : warnings [n] = [] := warnings_of_debug (List.forall_mem_singleton.2 hn)
      show warnings ([n] ++ _) = _
      rw [warnings_append, hnone]
      exact ih hrest h
    | event e =>
      obtain ⟨⟨chunk, hchunk⟩, hrest⟩ := List.forall_mem_cons.1
        (show ∀ event ∈ e :: Trace.events ⟨rest, fault⟩, ∃ chunk, emitter event = .ok chunk from h)
      have hmade : warningsOf emitter e = warnings chunk.notes := by
        unfold warningsOf
        rw [hchunk]
      show _ = (e :: Trace.events ⟨rest, fault⟩).flatMap (warningsOf emitter)
      simp only [emitSteps, hchunk]
      rw [warnings_append, List.flatMap_cons, hmade, ← ih hwalk hrest]

/-- There is no warning about a field. -/
theorem warningsOf_fieldEmitter (event : Event) : warningsOf fieldEmitter event = [] := by
  obtain ⟨phase, suffix, resolved⟩ := event
  cases phase <;> rfl

/-- There is no warning about a property. -/
theorem warningsOf_propertyEmitter (event : Event) : warningsOf propertyEmitter event = [] := by
  obtain ⟨phase, suffix, resolved⟩ := event
  cases phase <;> rfl

/-! ## Members that are wrapped -/

namespace Event

/-- The member that a walk has come to is a single value that stands for a collection, and is
wrapped when it is assigned. -/
def isWrapped (options : Options) (event : Event) : Bool :=
  match event.phase, event.resolved.shape with
  | .member, .genericCollection => options.lift.isTruthy
  | _, _ => false

/-- The warning about a member that is wrapped. -/
def liftWarning (component : Json) (event : Event) : Note :=
  .lifted event.resolved.longName component

variable {options : Options} {event : Event}

/-- Without lifting, no member is wrapped. -/
theorem isWrapped_of_not_lifted (h : options.lift.isTruthy = false) (event : Event) :
    event.isWrapped options = false := by
  unfold isWrapped
  split
  · exact h
  · rfl

/-- A member is assigned by one statement; it is wrapped there just if it is to be. -/
theorem statement_of_member (h : event.phase = .member) :
    ∃ form : Assigned, (form = .wrapped ↔ event.isWrapped options = true) ∧
      event.statement options = argumentsObject event.contextSuffix ++ "." ++
        event.resolved.longName ++ " = " ++
        form.expression event.resolved.name event.resolved.declaration.columnName.text ++ ";" := by
  refine ⟨.ofShape event.resolved.shape options.lift.isTruthy, ?_, ?_⟩
  · unfold isWrapped
    rw [h]
    cases event.resolved.shape <;> cases options.lift.isTruthy <;> simp [Assigned.ofShape]
  · unfold statement
    rw [h]
    exact assignmentLine_eq ..

/-- At an argument that is not excluded, the emitter of assignments warns of a member that is
wrapped, and of nothing else. -/
theorem warningsOf_assignmentEmitter (component : Json)
    (h : options.isExcluded (.str event.resolved.longName) = .ok false) :
    warningsOf (assignmentEmitter options component) event =
      if event.isWrapped options then [event.liftWarning component] else [] := by
  obtain ⟨phase, suffix, resolved⟩ := event
  rw [warningsOf, assignmentEmitter]
  simp only [h, ok_bind]
  cases phase with
  | groupBegin | groupEnd => rfl
  | member =>
    obtain ⟨declaration, shape, longName, typeName, name, initializer, isBoolean, inner⟩ := resolved
    cases shape with
    | scalar | stringCollection | group => rfl
    | columnCollection =>
      -- an assignment that fails makes no warning either
      simp only [Bool.false_eq_true, if_false, memberAssignment, isWrapped]
      cases declaration.columnType <;> rfl
    | genericCollection =>
      cases hlift : options.lift.isTruthy with
      | true | false =>
        simp only [Bool.false_eq_true, if_false, memberAssignment, isWrapped, hlift]
        rfl

end Event

namespace Site

variable {options : Options} {site : Site}

/-- The member is a single value that stands for a collection, and is wrapped when it is
assigned. -/
def isWrapped (options : Options) (site : Site) : Bool :=
  match site.argument.classify with
  | .ok .genericCollection => options.lift.isTruthy
  | _ => false

/-- The warning about a member that is wrapped. -/
def liftWarning (component : Json) (site : Site) : Note := .lifted site.ownName component

/-- The event at a member that is resolved is wrapped if the member is. -/
theorem flatMap_events_wrapped {resolved : Resolved} (h : site.resolve options = .ok resolved)
    (component : Json) :
    ((site.events options .member).flatMap fun event =>
        if event.isWrapped options then [event.liftWarning component] else []) =
      if site.isWrapped options then [site.liftWarning component] else [] := by
  obtain ⟨hown, -, -⟩ := names_of_resolve h
  obtain ⟨shape, typeName, longName, initializer, hshape, -, -, -, hresolved⟩ :=
    Argument.resolve_eq_ok_iff.1 h
  have hwrapped : site.isWrapped options =
      Event.isWrapped options ⟨.member, site.suffix, resolved⟩ := by
    unfold isWrapped Event.isWrapped
    rw [hshape, hresolved]
    cases shape <;> rfl
  rw [events_of_resolve h, List.flatMap_singleton, hwrapped, liftWarning, ← hown]
  rfl

end Site

/-- The members of a component that are wrapped when they are assigned, in order. -/
def Component.wrappedSites (component : Component) (options : Options) : List Site :=
  (options.memberSites [] component.arguments).filter (Site.isWrapped options)

/-- The events of a component at which a member is wrapped, in order. -/
def Component.wrappedEvents (component : Component) (options : Options) : List Event :=
  (options.events [] component.arguments).filter (Event.isWrapped options)

/-- What is made of the elements with a property is made of all elements that have it. -/
theorem flatMap_ite_eq_map_filter {α β : Type} (keep : α → Bool) (make : α → β)
    (elements : List α) :
    (elements.flatMap fun x => if keep x then [make x] else []) =
      (elements.filter keep).map make := by
  induction elements with
  | nil => rfl
  | cons first rest ih =>
    rw [List.flatMap_cons, ih, List.filter_cons]
    split <;> rfl

/-! ## Warnings of a component -/

namespace Component

variable {options : Options} {component : Component}

/-- The warnings of an emission that cannot fail are those about the events of the walk. -/
theorem warnings_emission {emitter : Emitter}
    (h : ∀ event ∈ (component.walk options).events, ∃ chunk, emitter event = .ok chunk) :
    warnings (component.emission options emitter).notes =
      (component.walk options).events.flatMap (warningsOf emitter) :=
  Trace.warnings_emit (Walker.level_of_mem_notes_walk _ _ _) h

theorem warnings_emission_fields (options : Options) (component : Component) :
    warnings (component.emission options fieldEmitter).notes = [] := by
  rw [warnings_emission fun event _ => fieldEmitter_handles event, List.flatMap_eq_nil_iff]
  exact fun event _ => warningsOf_fieldEmitter event

theorem warnings_emission_properties (options : Options) (component : Component) :
    warnings (component.emission options propertyEmitter).notes = [] := by
  rw [warnings_emission fun event _ => propertyEmitter_handles event, List.flatMap_eq_nil_iff]
  exact fun event _ => warningsOf_propertyEmitter event

/-- At each event of a walk the emitter of assignments makes its statement. -/
theorem exists_chunk_of_mem_events {event : Event}
    (h : event ∈ (component.walk options).events) : ∃ notes,
      assignmentEmitter options component.name event =
        .ok ⟨notes, [event.statement options]⟩ := by
  obtain ⟨place, argument, -, hresolved⟩ :=
    Walker.exists_resolve_of_mem_events component.arguments "" event h
  exact assignmentEmitter_eq hresolved
    (Walker.isExcluded_of_mem_events component.arguments "" event h) component.name

/-- A walk that ends without a fault comes to the events of the survivors, all of which can be
resolved. -/
theorem events_walk (h : (component.walk options).fault = none) :
    (∀ site ∈ options.survivors [] component.arguments,
      ∃ resolved, site.resolve options = .ok resolved) ∧
    (component.walk options).events = options.events [] component.arguments :=
  Walker.walk_survivors ⟨options, component.name⟩ component.arguments [] h

/-- The statements of a component are those of its events. -/
theorem statements_eq_map (h : (component.walk options).fault = none) :
    options.statements [] component.arguments =
      (options.events [] component.arguments).map (Event.statement options) := by
  rw [← Options.flatMap_events_assignments options component.name, ← (events_walk h).2,
    ← List.flatMap_singleton' (List.map _ _), List.flatMap_map]
  refine List.flatMap_congr fun event hevent => ?_
  obtain ⟨notes, hchunk⟩ := exists_chunk_of_mem_events hevent
  rw [linesOf, hchunk]

/-- The events at which a member is wrapped are those at the members that are. -/
theorem map_wrappedEvents (h : (component.walk options).fault = none) :
    (component.wrappedEvents options).map (Event.liftWarning component.name) =
      (component.wrappedSites options).map (Site.liftWarning component.name) := by
  have houter : ∀ event : Event, event.phase ≠ .member →
      (if event.isWrapped options then [event.liftWarning component.name] else []) = [] := by
    rintro ⟨phase, suffix, resolved⟩ hphase
    cases phase with
    | member => exact absurd rfl hphase
    | groupBegin | groupEnd => rfl
  rw [wrappedEvents, ← flatMap_ite_eq_map_filter, Options.flatMap_events_of_members houter,
    wrappedSites, ← flatMap_ite_eq_map_filter]
  refine List.flatMap_congr fun site hsite => ?_
  obtain ⟨resolved, hresolved⟩ := (events_walk h).1 site (List.mem_of_mem_filter hsite)
  exact Site.flatMap_events_wrapped hresolved component.name

/-- If the walk ends without a fault, the emitter of assignments warns of the members that are
wrapped, in order. -/
theorem warnings_emission_assignments (h : (component.walk options).fault = none) :
    warnings (component.emission options (assignmentEmitter options component.name)).notes =
      (component.wrappedEvents options).map (Event.liftWarning component.name) := by
  have hhandles : ∀ event ∈ (component.walk options).events,
      ∃ chunk, assignmentEmitter options component.name event = .ok chunk := by
    intro event hevent
    obtain ⟨notes, hchunk⟩ := exists_chunk_of_mem_events hevent
    exact ⟨_, hchunk⟩
  have hwarned : ∀ event ∈ (component.walk options).events,
      warningsOf (assignmentEmitter options component.name) event =
        if event.isWrapped options then [event.liftWarning component.name] else [] :=
    fun event hevent => Event.warningsOf_assignmentEmitter component.name
      (Walker.isExcluded_of_mem_events component.arguments "" event hevent)
  rw [warnings_emission hhandles, List.flatMap_congr hwarned, (events_walk h).2, wrappedEvents,
    flatMap_ite_eq_map_filter]

end Component

/-! ## Warnings of a content -/

namespace Factory

variable {factory : Factory} {options : Options} {component : Component}
  {signature? : Option String}

/-- A content that ends with a fault of the walk has the notes of the first pass. -/
theorem notes_content_of_fault {fault : Fault} (h : (component.walk options).fault = some fault) :
    (factory.content options component signature?).notes =
      (component.emission options fieldEmitter).notes := by
  have hfields : (component.emission options fieldEmitter).toLogged.result = .error fault :=
    Emission.result_toLogged_of_fault (by rw [Component.fault_emission_fields, h])
  have hlines : (factory.contentLines options component signature?).result = .error fault := by
    unfold contentLines
    rw [Logged.result_bind, hfields, error_bind]
  rw [content, Logged.notes_bind_of_error hlines, contentLines,
    Logged.notes_bind_of_error hfields]
  rfl

/-- A content that is generated has the notes of all three passes. -/
theorem notes_content_of_none (h : (component.walk options).fault = none) :
    (factory.content options component signature?).notes =
      (component.emission options fieldEmitter).notes ++
        ((component.emission options propertyEmitter).notes ++
          (component.emission options (assignmentEmitter options component.name)).notes) := by
  have hfields := Emission.result_toLogged_of_none
    ((Component.fault_emission_fields options component).trans h)
  have hproperties := Emission.result_toLogged_of_none
    ((Component.fault_emission_properties options component).trans h)
  have hassignments := Emission.result_toLogged_of_none
    ((Component.fault_emission_assignments options component).trans h)
  obtain ⟨lines, hlines⟩ : ∃ lines,
      (factory.contentLines options component signature?).result = .ok lines := by
    obtain ⟨text, htext⟩ : ∃ text,
        (factory.content options component signature?).result = .ok text :=
      exists_content_of_no_fault h
    obtain ⟨lines, hlines, -⟩ := content_eq_ok_iff.1 htext
    exact ⟨lines, hlines⟩
  have hcontent : (factory.content options component signature?).notes =
      (factory.contentLines options component signature?).notes := by
    rw [content, Logged.notes_bind_of_ok hlines, Logged.notes_pure, List.append_nil]
  rw [hcontent, contentLines, Logged.notes_bind_of_ok hfields,
    Logged.notes_bind_of_ok hproperties, Logged.notes_bind_of_ok hassignments,
    Logged.notes_pure, List.append_nil]
  rfl

/-- **Warnings tell of wrapped members.**  If a content is generated, the statements of its method
are those of the events of the survivors, in order.  There is one warning for each event whose
statement wraps a member, in the same order, and it names the member and the component; these are
the survivors that are collections with a single value, in the order of their declarations.
Without lifting there is no warning, and there is none either if a fault ends the generation. -/
theorem warnings_of_content (factory : Factory) (options : Options) (component : Component)
    (signature? : Option String) :
    (∀ text, (factory.content options component signature?).result = .ok text →
      text = Layout.join (factory.blocks options component signature?) ∧
      options.statements [] component.arguments =
        (options.events [] component.arguments).map (Event.statement options) ∧
      (∀ event ∈ options.events [] component.arguments, event.phase = .member →
        ∃ form : Assigned, (form = .wrapped ↔ event.isWrapped options = true) ∧
          event.statement options = argumentsObject event.contextSuffix ++ "." ++
            event.resolved.longName ++ " = " ++
            form.expression event.resolved.name event.resolved.declaration.columnName.text ++
            ";") ∧
      warnings (factory.content options component signature?).notes =
        (component.wrappedEvents options).map (Event.liftWarning component.name) ∧
      warnings (factory.content options component signature?).notes =
        (component.wrappedSites options).map (Site.liftWarning component.name)) ∧
    (options.lift.isTruthy = false →
      warnings (factory.content options component signature?).notes = []) ∧
    ∀ fault, (factory.content options component signature?).result = .error fault →
      warnings (factory.content options component signature?).notes = [] := by
  cases hwalk : (component.walk options).fault with
  | some fault =>
    have hnone : warnings (factory.content options component signature?).notes = [] := by
      rw [notes_content_of_fault hwalk, Component.warnings_emission_fields]
    refine ⟨fun text htext => ?_, fun _ => hnone, fun _ _ => hnone⟩
    rw [result_content_of_fault hwalk] at htext
    cases htext
  | none =>
    have hwarnings : warnings (factory.content options component signature?).notes =
        (component.wrappedEvents options).map (Event.liftWarning component.name) := by
      rw [notes_content_of_none hwalk, warnings_append, warnings_append,
        Component.warnings_emission_fields, Component.warnings_emission_properties,
        Component.warnings_emission_assignments hwalk]
      rfl
    refine ⟨?_, ?_, ?_⟩
    · intro text htext
      obtain ⟨lines, hlines, rfl⟩ := content_eq_ok_iff.1 htext
      refine ⟨by rw [(contentLines_eq_blocks hlines).2], Component.statements_eq_map hwalk,
        fun event _ hphase => Event.statement_of_member hphase, hwarnings, ?_⟩
      rw [hwarnings, Component.map_wrappedEvents hwalk]
    · intro hlift
      have hempty : component.wrappedEvents options = [] := by
        apply List.filter_eq_nil_iff.2
        intro event _
        rw [Event.isWrapped_of_not_lifted hlift]
        exact Bool.false_ne_true
      rw [hwarnings, hempty]
      rfl
    · intro fault hfault
      obtain ⟨text, htext⟩ : ∃ text,
          (factory.content options component signature?).result = .ok text :=
        exists_content_of_no_fault hwalk
      rw [htext] at hfault
      cases hfault

end Factory

/-- The weights of the sample are wrapped, and there is one warning for that; without lifting
there is none, and unreadable columns leave no content and no warning. -/
theorem Component.warnings_of_samples :
    (∃ text, (Factory.trainer.content .withoutOld .sample none).result = .ok text ∧
      text = Layout.join (Factory.trainer.blocks .withoutOld .sample none)) ∧
    (warnings (Factory.trainer.content .withoutOld .sample none).notes).map Note.message =
      ["Collection argument 'weights' of 'pca_trainer' is generated as a single value"] ∧
    ({ Options.withoutOld with lift := .bool false }.lift.isTruthy = false ∧
      warnings (Factory.trainer.content { Options.withoutOld with lift := .bool false }
        .sample none).notes = []) ∧
    ∃ fault, (Factory.trainer.content .standard .unreadable none).result = .error fault ∧
      warnings (Factory.trainer.content .standard .unreadable none).notes = [] := by
  have hok : (Factory.trainer.content .withoutOld .sample none).result.isOk = true := by
    decide +kernel
  obtain ⟨text, htext⟩ := exists_of_isOk hok
  obtain ⟨hcontent, -⟩ := Factory.warnings_of_content .trainer .withoutOld .sample none
  obtain ⟨hblocks, -, -, -, hwarnings⟩ := hcontent text htext
  have hmessages : ((Component.sample.wrappedSites .withoutOld).map
      (Site.liftWarning Component.sample.name)).map Note.message =
        ["Collection argument 'weights' of 'pca_trainer' is generated as a single value"] := by
    decide +kernel
  obtain ⟨-, hunlifted, -⟩ := Factory.warnings_of_content .trainer
    { Options.withoutOld with lift := .bool false } .sample none
  obtain ⟨-, -, hfailed⟩ := Factory.warnings_of_content .trainer .standard .unreadable none
  obtain ⟨fault, hfault⟩ :
      ∃ fault, (Factory.trainer.content .standard .unreadable none).result = .error fault :=
    ⟨_, rfl⟩
  exact ⟨⟨text, htext, hblocks⟩, by rw [hwarnings, hmessages], ⟨rfl, hunlifted rfl⟩,
    fault, hfault, hfailed fault hfault⟩

end CatalogClasses
