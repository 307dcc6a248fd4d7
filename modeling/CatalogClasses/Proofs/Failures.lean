/-
# Where a walk ends

A walk ends with a fault at the first survivor that cannot be resolved, in the order of their
declarations, and at no other place.  What has been recorded by then are the events of all
stops before it, so that just the groups around it have begun and not ended.  The fault is the
one of that argument: whatever step of its resolution failed, a failure names the component
and the argument itself, never a group around it.
-/
import CatalogClasses.Proofs.Traversal

namespace CatalogClasses

/-! ## What a fault tells of its place -/

/-- If the fault tells of an argument, then of the one with this name, and it tells of no
component. -/
def Fault.IsOf (name : Json) : Fault → Prop
  | .failure f => f.component = .null ∧ (f.argument = .null ∨ f.argument = name)
  | .malformed _ => True

/-- Once it is located, a failure names the component and the argument. -/
theorem Fault.place_of_located {fault : Fault} {component name : Json} {failure : Failure}
    (h : fault.IsOf name) (hlocated : fault.located component name = .failure failure) :
    failure.component = component ∧ failure.argument = name := by
  cases fault with
  | malformed m => cases hlocated
  | failure first =>
    obtain ⟨hcomponent, hargument⟩ := h
    obtain rfl := Fault.failure.inj hlocated
    constructor
    · show Failure.fill first.component component = component
      rw [hcomponent]
      rfl
    · show Failure.fill first.argument name = name
      rcases hargument with hargument | hargument
      · rw [hargument]
        rfl
      · rw [hargument]
        cases name <;> rfl

/-- The property holds of the fault that the result is, if it is one. -/
def FaultsIn {α : Type} (property : Fault → Prop) (result : Fallible α) : Prop :=
  ∀ fault, result = .error fault → property fault

namespace FaultsIn

variable {α β : Type} {property : Fault → Prop}

theorem ok (value : α) : FaultsIn property (.ok value) := by
  intro fault h
  cases h

theorem error {fault : Fault} (h : property fault) :
    FaultsIn property (.error fault : Fallible α) := by
  intro other hother
  obtain rfl := Except.error.inj hother
  exact h

theorem bind {first : Fallible α} {next : α → Fallible β} (hfirst : FaultsIn property first)
    (hnext : ∀ value, FaultsIn property (next value)) :
    FaultsIn property (first >>= next) := by
  intro fault h
  cases hresult : first with
  | error other =>
    rw [hresult] at h
    obtain rfl := Except.error.inj h
    exact hfirst other hresult
  | ok value =>
    rw [hresult] at h
    exact hnext value fault h

end FaultsIn

/-- The result is a fault of the argument with this name, if it is one. -/
abbrev FaultsOf {α : Type} (name : Json) (result : Fallible α) : Prop :=
  FaultsIn (Fault.IsOf name) result

namespace FaultsOf

variable {α : Type} {name : Json}

theorem malformed (m : Malformed) : FaultsOf name (malformed m : Fallible α) :=
  FaultsIn.error trivial

theorem failWith (cause : Cause) : FaultsOf name (failWith cause : Fallible α) :=
  FaultsIn.error ⟨rfl, .inl rfl⟩

theorem failAt (cause : Cause) : FaultsOf name (failAt name cause : Fallible α) :=
  FaultsIn.error ⟨rfl, .inr rfl⟩

end FaultsOf

/-! ## Defaults that cannot be written -/

/-- The cause is that a default is no value of its type. -/
def Cause.isOfDefault : Cause → Bool
  | defaultNotWhole _ _ | defaultNotNumeric _ _ | defaultNotSequence _ _ => true
  | _ => false

/-- The types of items inside the type, at every depth. -/
def SchemaType.itemTypes : SchemaType → List SchemaType
  | sequence item _ _ => item :: item.itemTypes
  | _ => []

section Literals

variable {property : Fault → Prop} (hlarge : property (.malformed .tooLarge))
  (hdefault : ∀ cause : Cause, cause.isOfDefault = true → property (.failure (.of cause)))

include hlarge hdefault

theorem faultsIn_integerLiteral (type : SchemaType) (n : Int) :
    FaultsIn property (integerLiteral type n) := by
  have hfloat : FaultsIn property (toFloat n) := by
    unfold toFloat
    split
    · exact .ok _
    · exact .error hlarge
  unfold integerLiteral
  split
  · exact .ok _
  · exact .ok _
  · exact .ok _
  · exact hfloat.bind fun x => .ok _
  · exact hfloat.bind fun x => .ok _
  · exact .error (hdefault _ rfl)

theorem faultsIn_numberLiteral (type : SchemaType) (x : Number.Binary64) :
    FaultsIn property (numberLiteral type x) := by
  unfold numberLiteral
  split
  · exact .ok _
  · exact .ok _
  · split
    · exact faultsIn_integerLiteral hlarge hdefault _ _
    · exact .error (hdefault _ rfl)
  · split
    · exact faultsIn_integerLiteral hlarge hdefault _ _
    · exact .error (hdefault _ rfl)
  · split
    · exact faultsIn_integerLiteral hlarge hdefault _ _
    · exact .error (hdefault _ rfl)
  · exact .error (hdefault _ rfl)

omit hlarge hdefault in
/-- The literals of elements fail as the literal of an element does. -/
theorem faultsIn_literals {item : SchemaType}
    (h : ∀ value, FaultsIn property (literal? value item)) (elements : List Json) :
    FaultsIn property (literals elements item) := by
  induction elements with
  | nil => exact .ok _
  | cons value rest ih =>
    rw [literals]
    exact (h value).bind fun first => ih.bind fun others => .ok _

/-- A list is a literal by the name of the type of an item and the literals of its elements. -/
theorem faultsIn_literal?_of_item {type : SchemaType}
    (hitem : ∀ item, type.item? = some item →
      FaultsIn property item.spelled ∧ ∀ value, FaultsIn property (literal? value item))
    (value : Json) : FaultsIn property (literal? value type) := by
  cases value with
  | null | bool b | str text | obj fields => exact .ok _
  | int n =>
    rw [literal?]
    exact (faultsIn_integerLiteral hlarge hdefault _ _).bind fun text => .ok _
  | float x =>
    rw [literal?]
    exact (faultsIn_numberLiteral hlarge hdefault _ _).bind fun text => .ok _
  | arr elements =>
    rw [literal?]
    split
    · exact .error (hdefault _ rfl)
    · next item hsome =>
      obtain ⟨hspelled, helement⟩ := hitem item hsome
      refine hspelled.bind fun typeName => ?_
      exact (faultsIn_literals helement elements).bind fun literals => .ok _

/-- **What can go wrong with a literal**: the type of an item has no name, an integer is too
large for a double-precision number, or a value is none of its type. -/
theorem faultsIn_literal? (type : SchemaType)
    (hspelled : ∀ item ∈ type.itemTypes, FaultsIn property item.spelled) (value : Json) :
    FaultsIn property (literal? value type) := by
  induction type generalizing value with
  | plain kind typeName nullable =>
    exact faultsIn_literal?_of_item hlarge hdefault (fun item h => by cases h) value
  | sequence item typeName nullable ih =>
    obtain ⟨hitem, hinner⟩ := List.forall_mem_cons.1 hspelled
    refine faultsIn_literal?_of_item hlarge hdefault (fun other h => ?_) value
    obtain rfl := Option.some.inj h
    exact ⟨hitem, ih hinner⟩
  | bareSequence typeName nullable =>
    exact faultsIn_literal?_of_item hlarge hdefault (fun item h => by cases h) value

omit hlarge hdefault in
theorem faultsIn_initializerOf (hmalformed : ∀ m, property (.malformed m))
    {type? : Option SchemaType}
    (htype : ∀ type, type? = some type → ∀ value, FaultsIn property (literal? value type))
    (value : Json) : FaultsIn property (initializerOf value type?) := by
  refine FaultsIn.bind ?_ fun text => .ok _
  unfold defaultLiteral?
  split
  · next type => exact htype type rfl value
  · split
    · exact .ok _
    · exact .ok _
    · exact .error (hmalformed _)

omit hlarge in
/-- An initial value fails as the literals do that may be written for it. -/
theorem faultsIn_initializer (hmalformed : ∀ m, property (.malformed m)) (options : Options)
    {declaration : Declaration} {shape : Shape}
    (hitem : ∀ type, declaration.itemType = some type →
      ∀ value, FaultsIn property (literal? value type))
    (hfield : ∀ type, declaration.fieldType = some type →
      ∀ value, FaultsIn property (literal? value type))
    (hsequence : shape = .genericCollection →
      ∀ value, FaultsIn property (literal? value (.sequenceOf declaration.itemType))) :
    FaultsIn property (declaration.initializer options shape) := by
  have hstrings : ∀ type, some SchemaType.strings = some type →
      ∀ value, FaultsIn property (literal? value type) := by
    intro type htype
    obtain rfl := Option.some.inj htype
    refine faultsIn_literal? (hmalformed _) hdefault _ ?_
    intro item hmem
    obtain rfl := List.mem_singleton.1 hmem
    exact .ok _
  unfold Declaration.initializer
  split
  · exact .ok _
  · exact .ok _
  · split
    · exact .ok _
    · exact faultsIn_initializerOf hmalformed hitem _
    · exact faultsIn_initializerOf hmalformed hfield _
    · exact faultsIn_initializerOf hmalformed hstrings _
    · split
      · unfold liftedInitializer
        split
        · exact faultsIn_initializerOf hmalformed hitem _
        · exact .ok _
        · exact faultsIn_initializerOf hmalformed hitem _
      · refine faultsIn_initializerOf hmalformed ?_ _
        rintro _ ⟨⟩
        exact hsequence rfl

end Literals

/-! ## The steps of resolving an argument -/

section Resolution

variable {name : Json}

/-- An argument fails to fit a shape with a failure that tells of it, or as its name does when the
first letter is looked at. -/
theorem faultsIn_classify {property : Fault → Prop} {argument : Argument}
    (hfails : ∀ cause, property (.failure (.atArgument argument.longName cause)))
    (hname : FaultsIn property (isCapitalized argument.longName)) :
    FaultsIn property argument.classify := by
  cases argument with
  | group declaration arguments =>
    show FaultsIn property (if declaration.isCollection = true then _ else _)
    split
    · exact .error (hfails _)
    · exact .ok _
  | member declaration =>
    have hshape : FaultsIn property declaration.memberShape := by
      unfold Declaration.memberShape
      split
      · exact .error (hfails _)
      · exact .ok _
      · exact .error (hfails _)
      · split
        · exact .ok _
        · split <;> exact .ok _
    refine hshape.bind fun shape => hname.bind fun capitalized => ?_
    split
    · exact .error (hfails _)
    · exact .ok _

theorem faultsOf_classify (argument : Argument) :
    FaultsOf argument.longName argument.classify := by
  refine faultsIn_classify (fun cause => ⟨rfl, .inr rfl⟩) ?_
  have hproperty : FaultsOf argument.longName (propertyName argument.longName) := by
    unfold propertyName
    split
    · split
      · exact .ok _
      all_goals exact .malformed _
    · exact .ok _
  exact hproperty.bind fun property => .ok _

theorem faultsOf_withNullable (nullable : Bool) (typeName : Json) :
    FaultsOf name (withNullable nullable typeName) := by
  unfold withNullable
  split
  · exact .ok _
  · exact .ok _
  · exact .malformed _

theorem faultsOf_spelled (type : SchemaType) : FaultsOf name type.spelled := by
  induction type with
  | plain kind typeName nullable =>
    unfold SchemaType.spelled
    split
    · exact faultsOf_withNullable _ _
    · split
      · exact faultsOf_withNullable _ _
      · exact .failWith _
  | sequence item typeName nullable ih =>
    exact ih.bind fun itemName => faultsOf_withNullable _ _
  | bareSequence typeName nullable => exact .failWith _

theorem faultsOf_spelledType (type? : Option SchemaType) : FaultsOf name (spelledType type?) := by
  cases type? with
  | none => exact .malformed _
  | some type => exact faultsOf_spelled type

theorem faultsOf_typeName (options : Options) (declaration : Declaration) (shape : Shape) :
    FaultsOf name (declaration.typeName options shape) := by
  cases shape with
  | scalar | stringCollection | group => exact faultsOf_spelledType _
  | columnCollection =>
    refine FaultsIn.bind ?_ fun column => faultsOf_spelled _
    unfold Declaration.columnType
    split
    · exact faultsOf_spelled _
    · exact FaultsOf.malformed _
  | genericCollection =>
    show FaultsOf name (if options.lift.isTruthy = true then _ else _)
    split
    · exact faultsOf_spelledType _
    · exact faultsOf_spelled _

theorem faultsOf_literal? (type : SchemaType) (value : Json) :
    FaultsOf name (literal? value type) :=
  faultsIn_literal? trivial (fun _ _ => ⟨rfl, .inl rfl⟩) type
    (fun item _ => faultsOf_spelled item) value

theorem faultsOf_initializer (options : Options) (declaration : Declaration) (shape : Shape) :
    FaultsOf name (declaration.initializer options shape) :=
  faultsIn_initializer (fun _ _ => ⟨rfl, .inl rfl⟩) (fun _ => trivial) options
    (fun type _ => faultsOf_literal? type) (fun type _ => faultsOf_literal? type)
    (fun _ => faultsOf_literal? _)

/-- **A fault in resolving an argument is one of that argument**, at whatever step it arises. -/
theorem faultsOf_resolve (options : Options) (suffix : String) (argument : Argument) :
    FaultsOf argument.longName (argument.resolve options suffix) := by
  refine (faultsOf_classify argument).bind fun shape => ?_
  refine (faultsOf_typeName options _ shape).bind fun typeName => ?_
  refine FaultsIn.bind ?_ fun longName =>
    (faultsOf_initializer options _ shape).bind fun initializer => .ok _
  unfold memberName
  split
  · exact .ok _
  · exact FaultsOf.malformed _

end Resolution

/-! ## Failures of any walk -/

mutual

/-- The argument and all arguments inside it. -/
def Argument.tree : Argument → List Argument
  | .member declaration => [.member declaration]
  | .group declaration arguments => .group declaration arguments :: Argument.forest arguments

/-- The arguments of a list and all arguments inside them. -/
def Argument.forest : List Argument → List Argument
  | [] => []
  | argument :: rest => argument.tree ++ Argument.forest rest

end

theorem Argument.tree_member (declaration : Declaration) :
    (member declaration).tree = [member declaration] := rfl

theorem Argument.tree_group (declaration : Declaration) (arguments : List Argument) :
    (group declaration arguments).tree = group declaration arguments :: forest arguments := rfl

theorem Argument.forest_cons (argument : Argument) (rest : List Argument) :
    forest (argument :: rest) = argument.tree ++ forest rest := rfl

/-- If options do not tell whether a name is excluded, it is no failure. -/
theorem Options.isExcluded_error {options : Options} {name : Json} {fault : Fault}
    (h : options.isExcluded name = .error fault) : ∃ m, fault = .malformed m := by
  have hholds : ∀ value : Json, value.holds name = .error fault → ∃ m, fault = .malformed m := by
    intro value hvalue
    unfold Json.holds at hvalue
    split at hvalue <;> cases hvalue <;> exact ⟨_, rfl⟩
  unfold isExcluded at h
  split at h
  · cases h
    exact ⟨_, rfl⟩
  · exact hholds _ h

theorem Options.skipNote?_error {options : Options} {declaration : Declaration} {fault : Fault}
    (h : options.skipNote? declaration = .error fault) : ∃ m, fault = .malformed m := by
  unfold skipNote? at h
  cases hexcluded : options.isExcluded declaration.longName with
  | error other =>
    rw [hexcluded] at h
    obtain rfl := Except.error.inj h
    exact isExcluded_error hexcluded
  | ok excluded =>
    rw [hexcluded, ok_bind] at h
    split at h
    · cases h
    · split at h <;> cases h

/-- One walk after another ends with the fault of the first, or else with that of the second. -/
theorem Trace.fault_andThen_eq_some {first second : Trace} {fault : Fault}
    (h : (first.andThen second).fault = some fault) :
    first.fault = some fault ∨ second.fault = some fault := by
  unfold andThen at h
  split at h
  · exact .inl h
  · exact .inr h

namespace Walker

variable {walker : Walker}

/-- The failure arose in resolving one of the arguments, and it is located there. -/
def FailsIn (walker : Walker) (arguments : List Argument) (failure : Failure) : Prop :=
  ∃ argument ∈ arguments, ∃ suffix own,
    argument.resolve walker.options suffix = .error (.failure own) ∧
      failure = own.located walker.component argument.longName

theorem FailsIn.mono {few many : List Argument} {failure : Failure}
    (h : walker.FailsIn few failure) (hmany : few ⊆ many) : walker.FailsIn many failure := by
  obtain ⟨argument, hargument, hown⟩ := h
  exact ⟨argument, hmany hargument, hown⟩

/-- A failure at an argument arose in resolving it, or else inside the group that it is. -/
theorem failsIn_of_step {suffix : String} {argument : Argument} {inner : Trace}
    {failure : Failure}
    (h : (walker.step suffix argument inner).fault = some (.failure failure)) :
    walker.FailsIn [argument] failure ∨
      argument.nested?.isSome ∧ inner.fault = some (.failure failure) := by
  rcases walker.step_cases suffix argument inner with
    ⟨fault, hnote, hstep⟩ | ⟨note, hstep⟩ | ⟨fault, hr, hstep⟩ | ⟨resolved, -, hr, hstep⟩
  · obtain ⟨m, rfl⟩ := Options.skipNote?_error hnote
    rw [hstep] at h
    cases h
  · rw [hstep] at h
    cases h
  · rw [hstep] at h
    cases fault with
    | malformed m => cases h
    | failure own =>
      obtain rfl := Fault.failure.inj (Option.some.inj h)
      exact .inl ⟨argument, List.mem_cons_self, suffix, own, hr, rfl⟩
  · rw [hstep] at h
    cases argument with
    | member declaration =>
      rw [visit_member hr] at h
      cases h
    | group declaration arguments =>
      -- neither the beginning nor the end of the group has a fault
      rw [visit_group hr] at h
      rcases Trace.fault_andThen_eq_some h with h | h
      · cases h
      · rcases Trace.fault_andThen_eq_some h with h | h
        · exact .inr ⟨rfl, h⟩
        · cases h

/-- **A failure of a walk is that of some argument**: whatever the options and the names are, it
arose in resolving an argument of the tree. -/
theorem failsIn_forest (arguments : List Argument) :
    ∀ start failure, (walker.walk start arguments).fault = some (.failure failure) →
      walker.FailsIn (Argument.forest arguments) failure := by
  induction arguments using Argument.list_induction with
  | nil => intro start failure h; cases h
  | member declaration rest ih =>
    intro start failure h
    rw [walk_member] at h
    rw [Argument.forest_cons, Argument.tree_member]
    rcases Trace.fault_andThen_eq_some h with h | h
    · rcases failsIn_of_step h with h | ⟨h, -⟩
      · exact h.mono (List.subset_append_left _ _)
      · cases h
    · exact (ih start failure h).mono (List.subset_append_right _ _)
  | group declaration inner rest ihInner ih =>
    intro start failure h
    rw [walk_group] at h
    rw [Argument.forest_cons, Argument.tree_group]
    rcases Trace.fault_andThen_eq_some h with h | h
    · refine FailsIn.mono ?_ (List.subset_append_left _ _)
      rcases failsIn_of_step h with h | ⟨-, h⟩
      · exact h.mono (List.cons_subset_cons _ (List.nil_subset _))
      · exact (ihInner _ failure h).mono (List.subset_cons_self _ _)
    · exact (ih start failure h).mono (List.subset_append_right _ _)

end Walker

/-! ## The first failure -/

/-- A walk of events alone has them as its events. -/
theorem Trace.events_map_event (events : List Event) (fault : Option Fault) :
    Trace.events ⟨events.map .event, fault⟩ = events := by
  induction events with
  | nil => rfl
  | cons event rest ih => exact congrArg (event :: ·) ih

namespace Walker

variable {walker : Walker} {start : String}

/-- A walk along stops, of which the first that cannot be resolved stands after some others,
ends there with its fault. -/
theorem follow_of_first_failure {before after : List Stop} {stop : Stop} {fault : Fault}
    (hbefore : ∀ earlier ∈ before, ∃ event, earlier.event walker.options start = .ok event)
    (hstop : stop.event walker.options start = .error fault) :
    walker.follow start (before ++ stop :: after) =
      ⟨(Stop.events walker.options start before).map .event,
        some (fault.located walker.component stop.site.argument.longName)⟩ := by
  rw [follow_append, follow_of_resolved hbefore, follow_of_error hstop, Trace.andThen]
  simp [Trace.failed]

/-- Either all stops can be resolved, or there is a first one that cannot. -/
theorem resolved_or_first_failure (options : Options) (start : String) (stops : List Stop) :
    (∀ stop ∈ stops, ∃ event, stop.event options start = .ok event) ∨
      ∃ before stop after fault, stops = before ++ stop :: after ∧
        (∀ earlier ∈ before, ∃ event, earlier.event options start = .ok event) ∧
        stop.event options start = .error fault := by
  induction stops with
  | nil => exact .inl (by simp)
  | cons stop rest ih =>
    cases hstop : stop.event options start with
    | error fault => exact .inr ⟨[], stop, rest, fault, rfl, by simp, hstop⟩
    | ok event =>
      rcases ih with hrest | ⟨before, later, after, fault, rfl, hbefore, hlater⟩
      · exact .inl (List.forall_mem_cons.2 ⟨⟨event, hstop⟩, hrest⟩)
      · exact .inr ⟨stop :: before, later, after, fault, rfl,
          List.forall_mem_cons.2 ⟨⟨event, hstop⟩, hbefore⟩, hlater⟩

end Walker

/-- The first stop that cannot be resolved is not the end of a group: its beginning would
have been resolved no better. -/
theorem Stop.phase_ne_groupEnd {options : Options} {start : String} {before after : List Stop}
    {stop : Stop} {fault : Fault} (hnested : Nested [] (before ++ stop :: after))
    (hbefore : ∀ earlier ∈ before, ∃ event, earlier.event options start = .ok event)
    (hstop : stop.event options start = .error fault) : stop.phase ≠ .groupEnd := by
  intro hphase
  have hfits := ((nested_append _ _ _).1 hnested).2.1
  unfold Fits at hfits
  rw [hphase] at hfits
  obtain ⟨outer, houter⟩ := hfits
  have hopen : stop.site ∈ before.foldl enter [] := by
    rw [houter]
    exact List.mem_append_right _ (List.mem_singleton_self _)
  rcases mem_foldl_enter before [] hopen with hnil | ⟨earlier, hearlier, hsite⟩
  · cases hnil
  · obtain ⟨event, hevent⟩ := hbefore earlier hearlier
    obtain ⟨resolved, hresolved, -⟩ := event_eq_ok_iff.1 hevent
    rw [hsite, event_eq_error_iff.1 hstop] at hresolved
    cases hresolved

/-- Any other stop is inside the groups that the stops before it have left open. -/
theorem Stop.groups_eq_open {before after : List Stop} {stop : Stop}
    (hnested : Nested [] (before ++ stop :: after)) (hphase : stop.phase ≠ .groupEnd) :
    stop.site.groups = names (before.foldl enter []) := by
  have hfits := ((nested_append _ _ _).1 hnested).2.1
  unfold Fits at hfits
  split at hfits
  · next hend => exact absurd hend hphase
  · exact hfits

/-- A walk ends with a fault at a survivor. -/
structure Walker.FailsAt (walker : Walker) (start : String) (arguments : List Argument)
    (fault : Fault) (site : Site) : Prop where
  /-- The survivor is the first one, in the order of declarations, that cannot be resolved. -/
  isFirst : ∃ earlier later, walker.options.survivors [] arguments = earlier ++ site :: later ∧
    ∀ other ∈ earlier, ∃ resolved, other.resolveFrom walker.options start = .ok resolved
  /-- The fault is the one of resolving it, located there. -/
  isOwn : ∃ error, site.resolveFrom walker.options start = .error error ∧
    fault = error.located walker.component site.argument.longName
  /-- A failure names the component of the walk and this argument. -/
  isNamed : ∀ failure, fault = .failure failure →
    failure.component = walker.component ∧ failure.argument = site.argument.longName
  /-- There is an event for each stop before the one at which the walk comes to the survivor,
  and for no other. -/
  isReached : ∃ before phase after, phase ≠ .groupEnd ∧
    walker.options.stops [] arguments = before ++ ⟨phase, site⟩ :: after ∧
    before.map (Stop.event walker.options start) =
      (walker.walk start arguments).events.map .ok
  /-- Of the groups that have begun, those around the survivor are the ones that have not
  ended. -/
  isInside : openGroups (walker.walk start arguments).events = site.groups

/-- The events of stops that can all be resolved, one for each. -/
theorem Stop.map_event {options : Options} {start : String} {stops : List Stop}
    (h : ∀ stop ∈ stops, ∃ event, stop.event options start = .ok event) :
    stops.map (event options start) = (events options start stops).map .ok := by
  induction stops with
  | nil => rfl
  | cons stop rest ih =>
    obtain ⟨⟨event, hevent⟩, hrest⟩ := List.forall_mem_cons.1 h
    rw [List.map_cons, hevent, ih hrest, events_cons_of_ok hevent, List.map_cons]

namespace Walker

variable {walker : Walker} {start : String} {arguments : List Argument}

/-- The survivors can all be resolved just when there is an event at each stop. -/
theorem forall_survivors_iff (options : Options) (start : String) (arguments : List Argument) :
    (∀ site ∈ options.survivors [] arguments,
      ∃ resolved, site.resolveFrom options start = .ok resolved) ↔
      ∀ stop ∈ options.stops [] arguments, ∃ event, stop.event options start = .ok event := by
  rw [Options.survivors_eq_entered]
  constructor
  · intro h
    rcases resolved_or_first_failure options start (options.stops [] arguments) with
      hall | ⟨before, stop, after, fault, hstops, hbefore, hstop⟩
    · exact hall
    -- the place of a first failure is entered, so it could be resolved
    · have hnested := (options.nested_stops arguments []).1
      rw [Stop.names, List.map_nil, hstops] at hnested
      have hphase := Stop.phase_ne_groupEnd hnested hbefore hstop
      have hmem : stop.site ∈ Stop.entered (options.stops [] arguments) := by
        rw [hstops, Stop.entered_append, Stop.entered_cons hphase]
        exact List.mem_append_right _ List.mem_cons_self
      obtain ⟨resolved, hresolved⟩ := h _ hmem
      rw [Stop.event_of_resolve hresolved] at hstop
      cases hstop
  · intro h site hsite
    obtain ⟨stop, hstop, rfl⟩ := List.mem_map.1 hsite
    obtain ⟨event, hevent⟩ := h stop (List.mem_filter.1 hstop).1
    obtain ⟨resolved, hresolved, -⟩ := Stop.event_eq_ok_iff.1 hevent
    exact ⟨resolved, hresolved⟩

/-- The walk of options that tell of every argument follows their stops. -/
theorem walk_follow (hanswers : walker.options.Answers arguments) :
    (walker.walk start arguments).Alike
      (walker.follow start (walker.options.stops [] arguments)) := by
  have halike := walk_alike_follow walker start arguments hanswers []
  rwa [show start ++ pathSuffix [] = start from String.append_empty] at halike

/-- Such a walk ends without a fault if there is an event at each stop. -/
theorem fault_eq_none_of_resolved (hanswers : walker.options.Answers arguments)
    (h : ∀ stop ∈ walker.options.stops [] arguments,
      ∃ event, stop.event walker.options start = .ok event) :
    (walker.walk start arguments).fault = none := by
  rw [(walk_follow hanswers).2, follow_of_resolved h]

/-- If there is a first stop without an event, the walk fails at its place. -/
theorem failsAt_of_first_failure (hanswers : walker.options.Answers arguments)
    {before after : List Stop} {stop : Stop} {error : Fault}
    (hstops : walker.options.stops [] arguments = before ++ stop :: after)
    (hbefore : ∀ earlier ∈ before, ∃ event, earlier.event walker.options start = .ok event)
    (hstop : stop.event walker.options start = .error error) :
    ∃ fault, (walker.walk start arguments).fault = some fault ∧
      walker.FailsAt start arguments fault stop.site := by
  obtain ⟨hevents, hfault⟩ : (walker.walk start arguments).Alike
      (walker.follow start (walker.options.stops [] arguments)) := walk_follow hanswers
  rw [hstops, follow_of_first_failure hbefore hstop] at hevents hfault
  have hnested := (walker.options.nested_stops arguments []).1
  rw [Stop.names, List.map_nil, hstops] at hnested
  have hphase := Stop.phase_ne_groupEnd hnested hbefore hstop
  have hrecorded : (walker.walk start arguments).events =
      Stop.events walker.options start before := by
    rw [hevents, Trace.events_map_event]
  have hresolve := Stop.event_eq_error_iff.1 hstop
  refine ⟨_, hfault, ⟨?_, ⟨error, hresolve, rfl⟩, ?_, ?_, ?_⟩⟩
  · refine ⟨Stop.entered before, Stop.entered after, ?_, ?_⟩
    · rw [Options.survivors_eq_entered, hstops, Stop.entered_append, Stop.entered_cons hphase]
    · intro other hother
      obtain ⟨earlier, hearlier, rfl⟩ := List.mem_map.1 hother
      obtain ⟨event, hevent⟩ := hbefore earlier (List.mem_filter.1 hearlier).1
      obtain ⟨resolved, hresolved, -⟩ := Stop.event_eq_ok_iff.1 hevent
      exact ⟨resolved, hresolved⟩
  · intro failure hfailure
    exact Fault.place_of_located (faultsOf_resolve _ _ _ error hresolve) hfailure
  · refine ⟨before, stop.phase, after, hphase, hstops, ?_⟩
    rw [hrecorded, Stop.map_event hbefore]
  · rw [hrecorded, Stop.groups_eq_open hnested hphase]
    exact Stop.foldl_enter_events hbefore []

/-- If the options cannot be asked for excluded names, a walk fails at the first argument. -/
theorem walk_of_not_canTest (htest : walker.options.canTest = false) (first : Argument)
    (rest : List Argument) :
    ∃ reason, walker.walk start (first :: rest) = .failed (.malformed reason) := by
  obtain ⟨reason, hexcluded⟩ :=
    Options.isExcluded_of_not_canTest htest first.declaration.longName
  have hs : walker.options.skipNote? first.declaration = .error (.malformed reason) := by
    rw [Options.skipNote?, hexcluded]
    rfl
  refine ⟨reason, ?_⟩
  cases first with
  | member declaration => rw [walk_member, step_of_error hs, Trace.failed_andThen]
  | group declaration arguments => rw [walk_group, step_of_error hs, Trace.failed_andThen]

/-- If a walk ends without a fault, there is an event at each stop, and it has come to them
all. -/
theorem events_of_fault_eq_none (hanswers : walker.options.Answers arguments)
    (h : (walker.walk start arguments).fault = none) :
    (∀ stop ∈ walker.options.stops [] arguments,
      ∃ event, stop.event walker.options start = .ok event) ∧
    (walker.walk start arguments).events =
      Stop.events walker.options start (walker.options.stops [] arguments) := by
  rcases resolved_or_first_failure walker.options start (walker.options.stops [] arguments) with
    hall | ⟨before, stop, after, error, hstops, hbefore, hstop⟩
  · refine ⟨hall, ?_⟩
    rw [(walk_follow hanswers).1, follow_of_resolved hall, Trace.events_map_event]
  · obtain ⟨fault, hfault, -⟩ := failsAt_of_first_failure hanswers hstops hbefore hstop
    rw [h] at hfault
    cases hfault

/-- **A walk ends at the first failure.**  Let the arguments have texts as their names.  If
options can be asked for excluded names, a walk ends with a fault just when some survivor
cannot be resolved; it then ends at the first of them, with the fault of that argument, and
what it has come to are the stops before it.  If the options cannot be asked, there is a fault
at the first argument already. -/
theorem walk_fails_at_first (walker : Walker) (start : String) (arguments : List Argument)
    (hnames : Argument.Named arguments) :
    (walker.options.canTest = true →
      ((walker.walk start arguments).fault = none ↔
        ∀ site ∈ walker.options.survivors [] arguments,
          ∃ resolved, site.resolveFrom walker.options start = .ok resolved) ∧
      ∀ fault, (walker.walk start arguments).fault = some fault →
        ∃ site, walker.FailsAt start arguments fault site) ∧
    (walker.options.canTest = false → ∀ first rest, arguments = first :: rest →
      ∃ reason, walker.walk start arguments = .failed (.malformed reason)) := by
  constructor
  · intro htest
    have hanswers := Options.answers_of_named htest arguments hnames
    rw [forall_survivors_iff]
    rcases resolved_or_first_failure walker.options start (walker.options.stops [] arguments) with
      hall | ⟨before, stop, after, error, hstops, hbefore, hstop⟩
    · have hnone := fault_eq_none_of_resolved hanswers hall
      refine ⟨iff_of_true hnone hall, ?_⟩
      intro fault hfault
      rw [hnone] at hfault
      cases hfault
    · obtain ⟨fault, hfault, hfails⟩ := failsAt_of_first_failure hanswers hstops hbefore hstop
      refine ⟨iff_of_false ?_ ?_, ?_⟩
      · rw [hfault]
        exact Option.some_ne_none fault
      · intro hall
        obtain ⟨event, hevent⟩ := hall stop (by rw [hstops]; simp)
        rw [hstop] at hevent
        cases hevent
      · intro other hother
        rw [hfault] at hother
        obtain rfl := Option.some.inj hother
        exact ⟨stop.site, hfails⟩
  · rintro htest first rest rfl
    exact walk_of_not_canTest htest first rest

end Walker

/-- A group that ends, and after it a group with a member that has no type, two groups deep; the
member after them would fail as well. -/
def Argument.failingSample : List Argument :=
  [.group (.ofType "solver" (.named .object "Solver"))
      [.member (.ofType "rank" (.named .integer ""))],
    .group (.ofType "stop" (.named .object "Stop"))
      [.group (.ofType "limits" (.named .object "Limits"))
        [.member { Declaration.ofType "steps" (.named .integer "") with itemType := none },
          .member (.ofType "time" (.named .double ""))]],
    .member (.ofType "Seed" (.named .integer ""))]

/-- The walk through the sample ends inside the second group, at the member without a type. -/
theorem Walker.walk_fails_in_sample :
    Argument.Named Argument.failingSample ∧ Options.standard.canTest = true ∧
      ∃ failure site,
        (Walker.walk ⟨.standard, .str "trainer"⟩ "" Argument.failingSample).fault =
          some (.failure failure) ∧
        Walker.FailsAt ⟨.standard, .str "trainer"⟩ "" Argument.failingSample (.failure failure)
          site ∧
        failure.message =
          "component 'trainer', argument 'steps': Scalar argument has no type" ∧
        (Walker.walk ⟨.standard, .str "trainer"⟩ "" Argument.failingSample).events.map
            (fun event => (event.phase, event.resolved.name)) =
          [(.groupBegin, "solver"), (.member, "rank_solver"), (.groupEnd, "solver"),
            (.groupBegin, "stop"), (.groupBegin, "limits_stop")] := by
  have hnames : Argument.Named Argument.failingSample := by
    simp [Argument.failingSample, Argument.Named, Argument.NamedInside, Argument.longName,
      Argument.declaration, Declaration.ofType]
  obtain ⟨failure, hfault⟩ : ∃ failure,
      (Walker.walk ⟨.standard, .str "trainer"⟩ "" Argument.failingSample).fault =
        some (.failure failure) := ⟨_, rfl⟩
  obtain ⟨site, hfails⟩ :=
    ((Walker.walk_fails_at_first ⟨.standard, .str "trainer"⟩ "" _ hnames).1 rfl).2 _ hfault
  have hmessage : failure.message =
      "component 'trainer', argument 'steps': Scalar argument has no type" := by
    obtain rfl := Fault.failure.inj (Option.some.inj hfault)
    decide +kernel
  exact ⟨hnames, rfl, failure, site, hfault, hfails, hmessage, by decide +kernel⟩

end CatalogClasses
