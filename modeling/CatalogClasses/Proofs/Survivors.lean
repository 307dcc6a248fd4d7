/-
# Arguments that are generated

The arguments of a component that survive: those that are neither excluded nor hidden
from generation, inside groups that survive as well.  They form one list, in the order of
their declarations, in which a group stands before what is inside it.  Each survivor
knows the groups around it, and from them the names that are generated for it.

Main definitions:

* `Options.survivors` : the list of survivors;
* `Site.fieldName`, `Site.objectName` : the names generated for a survivor;
* `Options.events` : the events of a walk to the survivors.
-/
import CatalogClasses.Emission

namespace CatalogClasses

/-! ## One argument -/

/-- The argument is generated: it is not excluded, and it is hidden only where hidden
arguments are generated too. -/
def Options.keeps (options : Options) (declaration : Declaration) : Bool :=
  match options.isExcluded declaration.longName with
  | .ok excluded => !excluded && (!declaration.isHidden || options.includeHidden.isTruthy)
  | .error _ => false

/-- An argument that is generated is not excluded. -/
theorem Options.isExcluded_of_keeps {options : Options} {declaration : Declaration}
    (h : options.keeps declaration = true) :
    options.isExcluded declaration.longName = .ok false := by
  unfold keeps at h
  cases hx : options.isExcluded declaration.longName with
  | ok excluded => rw [hx] at h; simp_all
  | error fault => rw [hx] at h; cases h

/-- There is no note on passing an argument over exactly when it is generated. -/
theorem Options.skipNote?_eq_none_iff {options : Options} {declaration : Declaration} :
    options.skipNote? declaration = .ok none ↔ options.keeps declaration = true := by
  unfold skipNote? keeps
  cases options.isExcluded declaration.longName with
  | error fault => simp
  | ok excluded =>
    cases excluded <;> cases declaration.isHidden <;> cases options.includeHidden.isTruthy <;>
      simp [pure, Except.pure]

/-! ## Survivors and their places -/

/-- An argument together with the names of the groups around it, the outermost first. -/
structure Site where
  groups : List Json
  argument : Argument

/-- The suffix inside some groups: an underscore and a name for each. -/
def pathSuffix (groups : List Json) : String :=
  String.join (groups.map fun name => "_" ++ name.text)

/-- The suffix inside one more group. -/
theorem nestedSuffix_pathSuffix (groups : List Json) (name : Json) :
    nestedSuffix (pathSuffix groups) name = pathSuffix (groups ++ [name]) := by
  rw [pathSuffix, pathSuffix, List.map_append, String.join_append, nestedSuffix]
  simp [String.join, String.append_assoc]

namespace Site

/-- The name of the argument itself. -/
def ownName (site : Site) : String := site.argument.longName.text

/-- The suffix that the groups around the argument give. -/
def suffix (site : Site) : String := pathSuffix site.groups

/-- The name of the field and, in capitalized form, of the property of a member. -/
def fieldName (site : Site) : String := site.ownName ++ site.suffix

/-- The suffix of the object that the arguments inside a group are assigned into. -/
def innerSuffix (site : Site) : String := pathSuffix (site.groups ++ [site.argument.longName])

/-- The name of that object. -/
def objectName (site : Site) : String := argumentsObject site.innerSuffix

/-- The argument is a group. -/
def isGroup (site : Site) : Bool := site.argument.nested?.isSome

/-- The argument resolved at its place. -/
def resolve (options : Options) (site : Site) : Fallible Resolved :=
  site.argument.resolve options site.suffix

variable {options : Options} {site : Site} {resolved : Resolved}

/-- The name of an argument that is resolved is a text. -/
theorem longName_of_resolve (h : site.resolve options = .ok resolved) :
    site.argument.longName = .str resolved.longName := by
  obtain ⟨shape, typeName, longName, initializer, -, -, hname, -, rfl⟩ :=
    Argument.resolve_eq_ok_iff.1 h
  exact hname

/-- An argument keeps its own name and declaration when it is resolved, and what is
generated for it has the name that its place gives. -/
theorem names_of_resolve (h : site.resolve options = .ok resolved) :
    resolved.longName = site.ownName ∧ resolved.name = site.fieldName ∧
      resolved.declaration = site.argument.declaration := by
  have hname := longName_of_resolve h
  obtain ⟨shape, typeName, longName, initializer, -, -, -, -, rfl⟩ :=
    Argument.resolve_eq_ok_iff.1 h
  have hown : longName = site.ownName := by
    rw [ownName, hname]
    rfl
  exact ⟨hown, by rw [fieldName, ← hown], rfl⟩

/-- A resolved group carries the suffix of what is inside it. -/
theorem suffix_of_resolve_group (h : site.resolve options = .ok resolved)
    (hgroup : site.isGroup = true) : resolved.suffix = site.innerSuffix := by
  obtain ⟨groups, argument⟩ := site
  cases argument with
  | member declaration => cases hgroup
  | group declaration arguments =>
    obtain ⟨shape, typeName, longName, initializer, hshape, -, -, -, rfl⟩ :=
      Argument.resolve_eq_ok_iff.1 h
    rw [Argument.classify_group hshape, innerSuffix]
    exact nestedSuffix_pathSuffix groups _

end Site

namespace Options

mutual

/-- The survivors at one argument: itself and, after it, those inside it. -/
def survivorsAt (options : Options) (groups : List Json) : Argument → List Site
  | .member declaration =>
      if options.keeps declaration then [⟨groups, .member declaration⟩] else []
  | .group declaration arguments =>
      if options.keeps declaration then
        ⟨groups, .group declaration arguments⟩ ::
          options.survivors (groups ++ [declaration.longName]) arguments
      else []

/-- The survivors in a list of arguments inside some groups. -/
def survivors (options : Options) (groups : List Json) : List Argument → List Site
  | [] => []
  | argument :: rest => options.survivorsAt groups argument ++ options.survivors groups rest

end

/-- The members among the survivors. -/
def memberSites (options : Options) (groups : List Json) (arguments : List Argument) :
    List Site :=
  (options.survivors groups arguments).filter (!·.isGroup)

/-- The groups among the survivors. -/
def groupSites (options : Options) (groups : List Json) (arguments : List Argument) :
    List Site :=
  (options.survivors groups arguments).filter (·.isGroup)

@[simp] theorem survivors_nil (options : Options) (groups : List Json) :
    options.survivors groups [] = [] := rfl

theorem survivors_member (options : Options) (groups : List Json) (declaration : Declaration)
    (rest : List Argument) :
    options.survivors groups (.member declaration :: rest) =
      (if options.keeps declaration then [⟨groups, .member declaration⟩] else []) ++
        options.survivors groups rest := rfl

theorem survivors_group (options : Options) (groups : List Json) (declaration : Declaration)
    (inner rest : List Argument) :
    options.survivors groups (.group declaration inner :: rest) =
      (if options.keeps declaration then
        ⟨groups, .group declaration inner⟩ ::
          options.survivors (groups ++ [declaration.longName]) inner
      else []) ++ options.survivors groups rest := rfl

end Options

/-! ## The events of a walk without a fault -/

/-- The event of a phase at a place, if the argument there can be resolved. -/
def Site.events (options : Options) (phase : Phase) (site : Site) : List Event :=
  match site.resolve options with
  | .ok resolved => [⟨phase, site.suffix, resolved⟩]
  | .error _ => []

theorem Site.events_of_resolve {options : Options} {site : Site} {resolved : Resolved}
    (h : site.resolve options = .ok resolved) (phase : Phase) :
    site.events options phase = [⟨phase, site.suffix, resolved⟩] := by
  unfold events
  rw [h]

namespace Options

mutual

/-- The events at one argument, those inside a group between its beginning and end. -/
def eventsAt (options : Options) (groups : List Json) : Argument → List Event
  | .member declaration =>
      if options.keeps declaration then
        Site.events options .member ⟨groups, .member declaration⟩
      else []
  | .group declaration arguments =>
      if options.keeps declaration then
        Site.events options .groupBegin ⟨groups, .group declaration arguments⟩ ++
          options.events (groups ++ [declaration.longName]) arguments ++
          Site.events options .groupEnd ⟨groups, .group declaration arguments⟩
      else []

/-- The events of a list of arguments inside some groups. -/
def events (options : Options) (groups : List Json) : List Argument → List Event
  | [] => []
  | argument :: rest => options.eventsAt groups argument ++ options.events groups rest

end

theorem events_member (options : Options) (groups : List Json) (declaration : Declaration)
    (rest : List Argument) :
    options.events groups (.member declaration :: rest) =
      (if options.keeps declaration then
        Site.events options .member ⟨groups, .member declaration⟩
      else []) ++ options.events groups rest := rfl

theorem events_group (options : Options) (groups : List Json) (declaration : Declaration)
    (inner rest : List Argument) :
    options.events groups (.group declaration inner :: rest) =
      (if options.keeps declaration then
        Site.events options .groupBegin ⟨groups, .group declaration inner⟩ ++
          options.events (groups ++ [declaration.longName]) inner ++
          Site.events options .groupEnd ⟨groups, .group declaration inner⟩
      else []) ++ options.events groups rest := rfl

end Options

namespace Walker

variable {walker : Walker} {suffix : String} {argument : Argument} {inner : Trace}

/-- Nothing happens at an argument that does not survive. -/
theorem events_step_of_not_keeps (h : (walker.step suffix argument inner).fault = none)
    (hk : walker.options.keeps argument.declaration = false) :
    (walker.step suffix argument inner).events = [] := by
  cases hs : walker.options.skipNote? argument.declaration with
  | error fault =>
    rw [step_of_error hs] at h
    cases h
  | ok note =>
    cases note with
    | some note =>
      rw [step_of_note hs]
      rfl
    | none =>
      rw [Options.skipNote?_eq_none_iff.1 hs] at hk
      cases hk

/-- An argument that survives is visited. -/
theorem step_of_keeps (hk : walker.options.keeps argument.declaration = true) :
    walker.step suffix argument inner = walker.visit suffix argument inner :=
  step_of_none (Options.skipNote?_eq_none_iff.2 hk)

/-- An argument that is visited without a fault can be resolved. -/
theorem exists_resolve_of_visit (h : (walker.visit suffix argument inner).fault = none) :
    ∃ resolved, argument.resolve walker.options suffix = .ok resolved := by
  cases hr : argument.resolve walker.options suffix with
  | error fault =>
    rw [visit_of_error hr] at h
    cases h
  | ok resolved => exact ⟨resolved, rfl⟩

/-- At a member there is one event. -/
theorem events_visit_member {declaration : Declaration}
    (h : (walker.visit suffix (.member declaration) inner).fault = none) :
    ∃ resolved, (Argument.member declaration).resolve walker.options suffix = .ok resolved ∧
      (walker.visit suffix (.member declaration) inner).events =
        [⟨.member, suffix, resolved⟩] := by
  obtain ⟨resolved, hr⟩ := exists_resolve_of_visit h
  rw [visit_member hr, events_resolvedNotes]
  exact ⟨resolved, hr, rfl⟩

/-- At a group the events inside it stand between its beginning and its end. -/
theorem events_visit_group {declaration : Declaration} {arguments : List Argument}
    (h : (walker.visit suffix (.group declaration arguments) inner).fault = none) :
    ∃ resolved,
      (Argument.group declaration arguments).resolve walker.options suffix = .ok resolved ∧
      inner.fault = none ∧
      (walker.visit suffix (.group declaration arguments) inner).events =
        [⟨.groupBegin, suffix, resolved⟩] ++ inner.events ++ [⟨.groupEnd, suffix, resolved⟩] := by
  obtain ⟨resolved, hr⟩ := exists_resolve_of_visit h
  rw [visit_group hr, Trace.fault_andThen_eq_none_iff, Trace.fault_andThen_eq_none_iff] at h
  obtain ⟨hbegin, hinner, -⟩ := h
  refine ⟨resolved, hr, hinner, ?_⟩
  rw [visit_group hr, Trace.events_andThen _ hbegin, Trace.events_andThen _ hinner,
    events_resolvedNotes, ← List.append_assoc]
  rfl

/-- **A walk without a fault comes to the survivors.**  Every survivor can be resolved,
and the events are those of the survivors in their order. -/
theorem walk_survivors (walker : Walker) (arguments : List Argument) :
    ∀ groups, (walker.walk (pathSuffix groups) arguments).fault = none →
      (∀ site ∈ walker.options.survivors groups arguments,
        ∃ resolved, site.resolve walker.options = .ok resolved) ∧
      (walker.walk (pathSuffix groups) arguments).events =
        walker.options.events groups arguments := by
  induction arguments using Argument.list_induction with
  | nil =>
    intro groups _
    exact ⟨by simp, rfl⟩
  | member declaration rest ih =>
    intro groups h
    rw [walk_member, Trace.fault_andThen_eq_none_iff] at h
    obtain ⟨hfirst, hrest⟩ := h
    obtain ⟨hsites, hevents⟩ := ih groups hrest
    rw [walk_member, Trace.events_andThen _ hfirst, hevents, Options.survivors_member,
      Options.events_member]
    cases hk : walker.options.keeps declaration with
    | false => exact ⟨by simpa using hsites, by rw [events_step_of_not_keeps hfirst hk]; rfl⟩
    | true =>
      rw [step_of_keeps hk] at hfirst ⊢
      -- the argument is resolved with the suffix that its place gives
      obtain ⟨resolved, hresolved, hvisit⟩ := events_visit_member hfirst
      have hhere : Site.resolve walker.options ⟨groups, .member declaration⟩ = .ok resolved :=
        hresolved
      refine ⟨?_, ?_⟩
      · intro site hsite
        rcases List.mem_append.1 hsite with hsite | hsite
        · rw [List.mem_singleton.1 hsite]
          exact ⟨resolved, hhere⟩
        · exact hsites site hsite
      · rw [hvisit, if_pos rfl, Site.events_of_resolve hhere]
        rfl
  | group declaration inner rest ihInner ih =>
    intro groups h
    rw [walk_group, Trace.fault_andThen_eq_none_iff] at h
    obtain ⟨hfirst, hrest⟩ := h
    obtain ⟨hsites, hevents⟩ := ih groups hrest
    rw [walk_group, Trace.events_andThen _ hfirst, hevents, Options.survivors_group,
      Options.events_group]
    cases hk : walker.options.keeps declaration with
    | false => exact ⟨by simpa using hsites, by rw [events_step_of_not_keeps hfirst hk]; rfl⟩
    | true =>
      rw [step_of_keeps hk] at hfirst ⊢
      obtain ⟨resolved, hresolved, hinner, hvisit⟩ := events_visit_group hfirst
      -- inside the group the walk has one more name in its suffix, as the places have
      rw [nestedSuffix_pathSuffix] at hinner hvisit ⊢
      obtain ⟨hinnerSites, hinnerEvents⟩ := ihInner _ hinner
      have hhere : Site.resolve walker.options ⟨groups, .group declaration inner⟩ =
          .ok resolved := hresolved
      refine ⟨?_, ?_⟩
      · intro site hsite
        rcases List.mem_append.1 hsite with hsite | hsite
        · rcases List.mem_cons.1 hsite with rfl | hsite
          · exact ⟨resolved, hhere⟩
          · exact hinnerSites site hsite
        · exact hsites site hsite
      · rw [hvisit, hinnerEvents, if_pos rfl, Site.events_of_resolve hhere,
          Site.events_of_resolve hhere]
        rfl

end Walker

end CatalogClasses
