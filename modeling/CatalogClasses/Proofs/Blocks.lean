/-
# The blocks of a generated class

The fields, the properties and the assignments of a class come from three walks, each
with an emitter of its own.  Here they are put together from the survivors instead: a
chunk of lines for each member, and for the method the statements of the tree of
arguments, by recursion.  The main statement says that this gives the generated content,
so that all three blocks have the same members under the same names in the same order.
-/
import CatalogClasses.Factory
import CatalogClasses.Proofs.Survivors

namespace CatalogClasses

/-! ## What is rendered at a place -/

/-- The name of the type that reads one column, or null if there is none. -/
def Declaration.columnName (declaration : Declaration) : Json :=
  match declaration.columnType with
  | .ok name => name
  | .error _ => .null

namespace Site

variable {options : Options} {site : Site}

/-- The lines made of an argument that is resolved at its place. -/
def rendered (options : Options) (render : Resolved → List String) (site : Site) :
    List String :=
  match site.resolve options with
  | .ok resolved => render resolved
  | .error _ => []

/-- The field of a member. -/
def fieldChunk (options : Options) (site : Site) : List String :=
  site.rendered options fun r => fieldLines r.typeName site.fieldName r.initializer.literal?

/-- The property of a member. -/
def propertyChunk (options : Options) (site : Site) : List String :=
  site.rendered options fun r =>
    propertyLines r.typeName site.fieldName r.isBoolean site.argument.declaration.help

/-- The statement that assigns a member. -/
def assignment (options : Options) (site : Site) : List String :=
  site.rendered options fun r =>
    [assignmentLine r.shape site.ownName site.fieldName site.suffix
      site.argument.declaration.columnName options.lift.isTruthy]

/-- The statement that makes the object of a group. -/
def opening (options : Options) (site : Site) : List String :=
  site.rendered options fun r => [groupOpenLine r.typeName site.innerSuffix]

/-- The statement that assigns the object of a group into the one around it. -/
def closing (options : Options) (site : Site) : List String :=
  site.rendered options fun _ => [groupCloseLine site.ownName site.suffix site.innerSuffix]

theorem rendered_of_resolve {resolved : Resolved} (h : site.resolve options = .ok resolved)
    (render : Resolved → List String) : site.rendered options render = render resolved := by
  unfold rendered
  rw [h]

theorem rendered_congr {first second : Resolved → List String}
    (h : ∀ resolved, site.resolve options = .ok resolved → first resolved = second resolved) :
    site.rendered options first = site.rendered options second := by
  unfold rendered
  cases hr : site.resolve options with
  | ok resolved => exact h resolved hr
  | error fault => rfl

theorem forall_mem_rendered {property : String → Prop} {render : Resolved → List String}
    (h : ∀ resolved, ∀ line ∈ render resolved, property line) :
    ∀ line ∈ site.rendered options render, property line := by
  unfold rendered
  cases site.resolve options with
  | ok resolved => exact h resolved
  | error fault => intro line hline; cases hline

theorem visible_fieldChunk (options : Options) (site : Site) :
    ∀ line ∈ site.fieldChunk options, line = "" ∨ Text.allBlank line.toList = false := by
  apply forall_mem_rendered
  intro resolved
  exact visible_fieldLines _ _ _

theorem visible_propertyChunk (options : Options) (site : Site) :
    ∀ line ∈ site.propertyChunk options, line = "" ∨ Text.allBlank line.toList = false := by
  apply forall_mem_rendered
  intro resolved
  exact visible_propertyLines _ _ _ _

/-- What is made of the event at a place is made of the argument resolved there. -/
theorem flatMap_events (phase : Phase) (make : Event → List String) :
    (site.events options phase).flatMap make =
      site.rendered options fun resolved => make ⟨phase, site.suffix, resolved⟩ := by
  unfold events rendered
  cases site.resolve options with
  | ok resolved => exact List.flatMap_singleton _ _
  | error fault => rfl

end Site

namespace Options

/-! ## Members and groups among the survivors -/

theorem memberSites_member (options : Options) (groups : List Json) (declaration : Declaration)
    (rest : List Argument) :
    options.memberSites groups (.member declaration :: rest) =
      (if options.keeps declaration then [⟨groups, .member declaration⟩] else []) ++
        options.memberSites groups rest := by
  rw [memberSites, survivors_member, List.filter_append]
  cases options.keeps declaration <;> rfl

theorem memberSites_group (options : Options) (groups : List Json) (declaration : Declaration)
    (inner rest : List Argument) :
    options.memberSites groups (.group declaration inner :: rest) =
      (if options.keeps declaration then
        options.memberSites (groups ++ [declaration.longName]) inner
      else []) ++ options.memberSites groups rest := by
  rw [memberSites, survivors_group, List.filter_append]
  cases options.keeps declaration <;> rfl

/-- What is made of members alone is made of the members among the survivors. -/
theorem flatMap_events_of_members {α : Type} {options : Options} {make : Event → List α}
    (hmake : ∀ event, event.phase ≠ .member → make event = []) (arguments : List Argument) :
    ∀ groups, (options.events groups arguments).flatMap make =
      (options.memberSites groups arguments).flatMap fun site =>
        (site.events options .member).flatMap make := by
  have houter : ∀ site phase, phase ≠ .member →
      (Site.events options phase site).flatMap make = [] := by
    intro site phase hphase
    rw [List.flatMap_eq_nil_iff]
    intro event hevent
    unfold Site.events at hevent
    split at hevent
    · rw [List.mem_singleton.1 hevent]
      exact hmake _ hphase
    · cases hevent
  induction arguments using Argument.list_induction with
  | nil => intro groups; rfl
  | member declaration rest ih =>
    intro groups
    rw [events_member, memberSites_member, List.flatMap_append, List.flatMap_append, ih]
    cases options.keeps declaration with
    | false => rfl
    | true => simp
  | group declaration inner rest ihInner ih =>
    intro groups
    rw [events_group, memberSites_group, List.flatMap_append, List.flatMap_append, ih]
    cases options.keeps declaration with
    | false => rfl
    | true =>
      simp only [if_true, List.flatMap_append, houter _ .groupBegin (by decide),
        houter _ .groupEnd (by decide), ihInner, List.nil_append, List.append_nil]

/-! ## The statements of a tree -/

mutual

/-- The statements of one argument: a member is assigned; the object of a group is made
before the statements inside it, and assigned after them. -/
def statementsAt (options : Options) (groups : List Json) : Argument → List String
  | .member declaration =>
      if options.keeps declaration then
        Site.assignment options ⟨groups, .member declaration⟩
      else []
  | .group declaration arguments =>
      if options.keeps declaration then
        Site.opening options ⟨groups, .group declaration arguments⟩ ++
          options.statements (groups ++ [declaration.longName]) arguments ++
          Site.closing options ⟨groups, .group declaration arguments⟩
      else []

/-- The statements of a list of arguments inside some groups. -/
def statements (options : Options) (groups : List Json) : List Argument → List String
  | [] => []
  | argument :: rest =>
      options.statementsAt groups argument ++ options.statements groups rest

end

theorem statements_member (options : Options) (groups : List Json) (declaration : Declaration)
    (rest : List Argument) :
    options.statements groups (.member declaration :: rest) =
      (if options.keeps declaration then
        Site.assignment options ⟨groups, .member declaration⟩
      else []) ++ options.statements groups rest := rfl

theorem statements_group (options : Options) (groups : List Json) (declaration : Declaration)
    (inner rest : List Argument) :
    options.statements groups (.group declaration inner :: rest) =
      (if options.keeps declaration then
        Site.opening options ⟨groups, .group declaration inner⟩ ++
          options.statements (groups ++ [declaration.longName]) inner ++
          Site.closing options ⟨groups, .group declaration inner⟩
      else []) ++ options.statements groups rest := rfl

/-- No statement is blank. -/
theorem visible_statements (options : Options) (arguments : List Argument) :
    ∀ groups, ∀ line ∈ options.statements groups arguments,
      Text.allBlank line.toList = false := by
  have hrendered : ∀ site (make : Resolved → String),
      (∀ resolved, Text.allBlank (make resolved).toList = false) →
      ∀ line ∈ Site.rendered options (fun resolved => [make resolved]) site,
        Text.allBlank line.toList = false := by
    intro site make hmake
    apply Site.forall_mem_rendered
    intro resolved line hline
    rw [List.mem_singleton.1 hline]
    exact hmake resolved
  induction arguments using Argument.list_induction with
  | nil => intro groups line h; cases h
  | member declaration rest ih =>
    intro groups line h
    rw [statements_member] at h
    rcases List.mem_append.1 h with h | h
    · split at h
      · exact hrendered _ _ (fun resolved => visible_assignmentLine ..) line h
      · cases h
    · exact ih groups line h
  | group declaration inner rest ihInner ih =>
    intro groups line h
    rw [statements_group] at h
    rcases List.mem_append.1 h with h | h
    · split at h
      · rcases List.mem_append.1 h with h | h
        · rcases List.mem_append.1 h with h | h
          · exact hrendered _ _ (fun resolved => visible_groupOpenLine ..) line h
          · exact ihInner _ line h
        · exact hrendered _ _ (fun resolved => visible_groupCloseLine ..) line h
      · cases h
    · exact ih groups line h

end Options

/-! ## What the emitters make of the events at a place -/

section Emitters

variable {options : Options} {site : Site}

theorem Site.linesOf_fieldEmitter (options : Options) (site : Site) :
    (site.events options .member).flatMap (linesOf fieldEmitter) = site.fieldChunk options := by
  rw [Site.flatMap_events]
  apply Site.rendered_congr
  intro resolved h
  obtain ⟨-, hname, -⟩ := Site.names_of_resolve h
  rw [← hname]
  rfl

theorem Site.linesOf_propertyEmitter (options : Options) (site : Site) :
    (site.events options .member).flatMap (linesOf propertyEmitter) =
      site.propertyChunk options := by
  rw [Site.flatMap_events]
  apply Site.rendered_congr
  intro resolved h
  obtain ⟨-, hname, hdeclaration⟩ := Site.names_of_resolve h
  rw [← hname, ← hdeclaration]
  rfl

/-- Nothing but members has a field. -/
theorem linesOf_fieldEmitter_of_ne (event : Event) (h : event.phase ≠ .member) :
    linesOf fieldEmitter event = [] := by
  obtain ⟨phase, suffix, resolved⟩ := event
  cases phase with
  | member => exact absurd rfl h
  | groupBegin | groupEnd => rfl

/-- Nothing but members has a property. -/
theorem linesOf_propertyEmitter_of_ne (event : Event) (h : event.phase ≠ .member) :
    linesOf propertyEmitter event = [] := by
  obtain ⟨phase, suffix, resolved⟩ := event
  cases phase with
  | member => exact absurd rfl h
  | groupBegin | groupEnd => rfl

/-- A member that is resolved as a collection of columns has a type that reads them. -/
theorem Site.columnType_of_resolve {resolved : Resolved}
    (h : site.resolve options = .ok resolved) (hshape : resolved.shape = .columnCollection) :
    ∃ name, resolved.declaration.columnType = .ok name := by
  obtain ⟨shape, typeName, longName, initializer, -, htype, -, -, rfl⟩ :=
    Argument.resolve_eq_ok_iff.1 h
  rw [show shape = .columnCollection from hshape] at htype
  exact Declaration.columnType_of_typeName htype

/-- The assignment of a member is one line, whatever there is to note about it. -/
theorem memberAssignment_eq (options : Options) (component : Json) (phase : Phase)
    (suffix : String) {resolved : Resolved}
    (hcolumn : resolved.shape = .columnCollection →
      ∃ name, resolved.declaration.columnType = .ok name) :
    ∃ notes, memberAssignment options component ⟨phase, suffix, resolved⟩ =
      .ok ⟨notes, [assignmentLine resolved.shape resolved.longName resolved.name suffix
        resolved.declaration.columnName options.lift.isTruthy]⟩ := by
  obtain ⟨declaration, shape, longName, typeName, name, initializer, isBoolean, inner⟩ := resolved
  cases shape with
  | columnCollection =>
    obtain ⟨column, hcolumn⟩ := hcolumn rfl
    simp only [memberAssignment, Declaration.columnName, hcolumn]
    exact ⟨[], rfl⟩
  | genericCollection =>
    simp only [memberAssignment]
    cases options.lift.isTruthy with
    | true => exact ⟨[.lifted longName component], rfl⟩
    | false => exact ⟨[], rfl⟩
  | scalar => exact ⟨[], rfl⟩
  | stringCollection => exact ⟨[], rfl⟩
  | group => exact ⟨[], rfl⟩

/-- At a survivor the emitter of assignments makes its own test for nothing. -/
theorem isExcluded_of_resolve {resolved : Resolved} (h : site.resolve options = .ok resolved)
    (hk : options.keeps site.argument.declaration = true) :
    options.isExcluded (.str resolved.longName) = .ok false := by
  rw [← Site.longName_of_resolve h]
  exact Options.isExcluded_of_keeps hk

theorem Site.linesOf_assignmentEmitter_member (component : Json)
    (hk : options.keeps site.argument.declaration = true) :
    (site.events options .member).flatMap (linesOf (assignmentEmitter options component)) =
      site.assignment options := by
  rw [Site.flatMap_events]
  apply Site.rendered_congr
  intro resolved h
  obtain ⟨notes, hline⟩ := memberAssignment_eq options component .member site.suffix
    (Site.columnType_of_resolve h)
  obtain ⟨hown, hname, hdeclaration⟩ := Site.names_of_resolve h
  -- the emitter asks once more whether the member is excluded, and it is not
  rw [linesOf, assignmentEmitter, isExcluded_of_resolve h hk, ok_bind]
  simp only [Bool.false_eq_true, if_false, hline, hown, hname, hdeclaration]

theorem Site.linesOf_assignmentEmitter_begin (component : Json)
    (hk : options.keeps site.argument.declaration = true) (hgroup : site.isGroup = true) :
    (site.events options .groupBegin).flatMap (linesOf (assignmentEmitter options component)) =
      site.opening options := by
  rw [Site.flatMap_events]
  apply Site.rendered_congr
  intro resolved h
  rw [linesOf, assignmentEmitter, isExcluded_of_resolve h hk, ok_bind,
    ← Site.suffix_of_resolve_group h hgroup]
  rfl

theorem Site.linesOf_assignmentEmitter_end (component : Json)
    (hk : options.keeps site.argument.declaration = true) (hgroup : site.isGroup = true) :
    (site.events options .groupEnd).flatMap (linesOf (assignmentEmitter options component)) =
      site.closing options := by
  rw [Site.flatMap_events]
  apply Site.rendered_congr
  intro resolved h
  obtain ⟨hown, -, -⟩ := Site.names_of_resolve h
  rw [linesOf, assignmentEmitter, isExcluded_of_resolve h hk, ok_bind, ← hown,
    ← Site.suffix_of_resolve_group h hgroup]
  rfl

/-- What the emitter of assignments makes of the events of a tree are its statements. -/
theorem Options.flatMap_events_assignments (options : Options) (component : Json)
    (arguments : List Argument) :
    ∀ groups, (options.events groups arguments).flatMap
      (linesOf (assignmentEmitter options component)) = options.statements groups arguments := by
  induction arguments using Argument.list_induction with
  | nil => intro groups; rfl
  | member declaration rest ih =>
    intro groups
    rw [events_member, statements_member, List.flatMap_append, ih]
    cases hk : options.keeps declaration with
    | false => rfl
    | true => rw [if_pos rfl, if_pos rfl, Site.linesOf_assignmentEmitter_member component hk]
  | group declaration inner rest ihInner ih =>
    intro groups
    rw [events_group, statements_group, List.flatMap_append, ih]
    cases hk : options.keeps declaration with
    | false => rfl
    | true =>
      rw [if_pos rfl, if_pos rfl, List.flatMap_append, List.flatMap_append, ihInner,
        Site.linesOf_assignmentEmitter_begin component hk rfl,
        Site.linesOf_assignmentEmitter_end component hk rfl]

/-- An emission without a fault is made of the events of the survivors, all of which can be
resolved. -/
theorem emission_of_fault_eq_none {emitter : Emitter} {component : Component}
    (h : (component.emission options emitter).fault = none) :
    (∀ site ∈ options.survivors [] component.arguments,
      ∃ resolved, site.resolve options = .ok resolved) ∧
    (component.emission options emitter).lines =
      (options.events [] component.arguments).flatMap (linesOf emitter) := by
  obtain ⟨hfault, hlines⟩ := Trace.emit_of_fault_eq_none h
  obtain ⟨hsites, hevents⟩ := Walker.walk_survivors ⟨options, component.name⟩
    component.arguments [] hfault
  refine ⟨hsites, ?_⟩
  rw [← hevents]
  exact hlines

/-- If the emitter makes something of members alone, this is a chunk for each surviving
member. -/
theorem lines_emission_of_members {emitter : Emitter} {chunk : Site → List String}
    {component : Component} (hother : ∀ event, event.phase ≠ .member → linesOf emitter event = [])
    (hchunk : ∀ site, (Site.events options .member site).flatMap (linesOf emitter) = chunk site)
    (h : (component.emission options emitter).fault = none) :
    (component.emission options emitter).lines =
      (options.memberSites [] component.arguments).flatMap chunk := by
  rw [(emission_of_fault_eq_none h).2, Options.flatMap_events_of_members hother]
  simp only [hchunk]

/-- Lines made for survivors are written as they are, unless one is blank and not empty. -/
theorem lines_zero_flatMap {chunk : Site → List String}
    (h : ∀ site, ∀ line ∈ chunk site, line = "" ∨ Text.allBlank line.toList = false)
    (sites : List Site) : Layout.lines 0 (sites.flatMap chunk) = sites.flatMap chunk := by
  apply Layout.lines_zero_of_visible
  intro line hline
  obtain ⟨site, -, hline⟩ := List.mem_flatMap.1 hline
  exact h site line hline

end Emitters

/-! ## One statement for each member -/

namespace Options

variable {options : Options}

end Options

/-! ## The content of a class -/

namespace Factory

/-- The lines inside the class of a component, put together from the survivors among its
arguments. -/
def blocks (factory : Factory) (options : Options) (component : Component)
    (signature? : Option String) : List String :=
  let members := options.memberSites [] component.arguments
  members.flatMap (Site.fieldChunk options) ++
    members.flatMap (Site.propertyChunk options) ++
    [Layout.line 0 (factory.chosenSignature signature?), "\x7b"] ++
    (prologue component :: options.statements [] component.arguments ++
      [factory.epilogue component]).map ("    " ++ ·) ++
    ["\x7d"]

variable {factory : Factory} {options : Options} {component : Component}
  {signature? : Option String}

theorem visible_prologue (component : Component) :
    Text.allBlank (prologue component).toList = false :=
  visible_append (visible_append (by decide) _) _

theorem visible_epilogue (factory : Factory) (component : Component) :
    Text.allBlank (factory.epilogue component).toList = false :=
  visible_append (visible_append (visible_append (by decide) _) _) _

/-- The lines of the method are written as they are, with four spaces before those of its
body. -/
theorem methodLines_eq (factory : Factory) (signature : String) (component : Component)
    {assignments : List String}
    (h : ∀ line ∈ assignments, Text.allBlank line.toList = false) :
    factory.methodLines signature component assignments =
      [Layout.line 0 signature, "\x7b"] ++
        (prologue component :: assignments ++ [factory.epilogue component]).map ("    " ++ ·) ++
        ["\x7d"] := by
  have hbody : ∀ line ∈ [prologue component] ++ assignments ++ [factory.epilogue component],
      Text.allBlank line.toList = false := by
    intro line hline
    rcases List.mem_append.1 hline with hline | hline
    · rcases List.mem_append.1 hline with hline | hline
      · obtain rfl := List.mem_singleton.1 hline
        exact visible_prologue component
      · exact h line hline
    · obtain rfl := List.mem_singleton.1 hline
      exact visible_epilogue factory component
  have hwritten := Layout.lines_one_of_visible hbody
  unfold methodLines
  rw [hwritten]
  rfl

/-- The three walks of a component whose content is generated end without a fault, and the
lines of the content are those of its blocks. -/
theorem contentLines_eq_blocks {lines : List String}
    (h : (factory.contentLines options component signature?).result = .ok lines) :
    (∀ site ∈ options.survivors [] component.arguments,
      ∃ resolved, site.resolve options = .ok resolved) ∧
    lines = factory.blocks options component signature? := by
  unfold contentLines at h
  simp only [Logged.result_bind, Logged.result_pure] at h
  obtain ⟨fields, hfields, h⟩ := bind_eq_ok_iff.1 h
  obtain ⟨properties, hproperties, h⟩ := bind_eq_ok_iff.1 h
  obtain ⟨assignments, hassignments, h⟩ := bind_eq_ok_iff.1 h
  rw [Emission.result_toLogged_eq_ok_iff] at hfields hproperties hassignments
  obtain ⟨hfieldFault, rfl⟩ := hfields
  obtain ⟨hpropertyFault, rfl⟩ := hproperties
  obtain ⟨hassignmentFault, rfl⟩ := hassignments
  obtain ⟨hsites, hstatements⟩ := emission_of_fault_eq_none hassignmentFault
  refine ⟨hsites, ?_⟩
  -- each block is what its emitter makes of the events of the survivors
  have hfields := lines_emission_of_members linesOf_fieldEmitter_of_ne
    (Site.linesOf_fieldEmitter options) hfieldFault
  have hproperties := lines_emission_of_members linesOf_propertyEmitter_of_ne
    (Site.linesOf_propertyEmitter options) hpropertyFault
  rw [Options.flatMap_events_assignments] at hstatements
  -- and writing changes no line of theirs but for the indentation of the method
  have hmethod := methodLines_eq factory (factory.chosenSignature signature?) component
    (Options.visible_statements options component.arguments [])
  rw [← Except.ok.inj h, hfields, hproperties, hstatements,
    lines_zero_flatMap (Site.visible_fieldChunk options),
    lines_zero_flatMap (Site.visible_propertyChunk options), hmethod, blocks]
  simp only [List.append_assoc]

/-- The content is generated when its lines are. -/
theorem content_eq_ok_iff {text : String} :
    (factory.content options component signature?).result = .ok text ↔
      ∃ lines, (factory.contentLines options component signature?).result = .ok lines ∧
        Layout.join lines = text := by
  unfold content
  simp only [Logged.result_bind, Logged.result_pure, bind_eq_ok_iff, Except.ok.injEq]

end Factory

/-! ### A component with arguments of every shape -/

/-- A declaration that says no more than a name and a type. -/
def Declaration.ofType (name : String) (type : SchemaType) : Declaration where
  longName := .str name
  itemType := if type.isSequence then type.item? else some type
  fieldType := some type
  isCollection := type.isSequence
  isHidden := false
  default? := none
  help := .null

/-- A type with a name of its own. -/
def SchemaType.named (kind : PlainKind) (name : String) : SchemaType :=
  plain kind (.str name) false

/-- A component with members of every shape; a hidden member and an excluded one, called
`old`, are beside a group that holds a group. -/
def Component.sample : Component where
  name := .str "pca_trainer"
  kind := .str "trainer"
  argumentsType := .str "Options"
  implementationType := .str "PcaTrainer"
  arguments :=
    [.member { Declaration.ofType "rank" (.named .integer "") with default? := some (.int 20) },
      .member { Declaration.ofType "seed" (.named .integer "") with isHidden := true },
      .member (.ofType "columns" (.sequence (.named .column "Column") (.str "") false)),
      .member (.ofType "labels" .strings),
      .member (.ofType "weights" (.sequence (.named .float "") (.str "") false)),
      .group (.ofType "solver" (.named .object "Solver"))
        [.member (.ofType "center" (.named .boolean "")),
          .member (.ofType "old" (.named .boolean "")),
          .group (.ofType "stop" (.named .object "Stop"))
            [.member (.ofType "rank" (.named .double ""))]]]
  summary := .null

/-- The options under which arguments called `old` are left out. -/
def Options.withoutOld : Options := { Options.standard with exclude := .arr [.str "old"] }

end CatalogClasses
