/-
# Failures that tell of their place

When a class cannot be generated there should be a failure that tells of a component and of an
argument.  Where the names in a catalog are texts, each fault in resolving an argument is such a
failure, but for one: an integer that is too large for a floating-point type has no place.  The
main statement says when this is what ends the generation of a class: the first survivor that
cannot be resolved has a default in which the first part that is not written is such an integer.

Main definitions:

* `Json.argumentsAreNamed` : the names of the arguments in an entry are texts;
* `Declaration.writtenParts` : what a default consists of where it is written;
* `Argument.meetsTooLarge` : the literal of the default ends at an integer that is too large;
* `Options.firstFailing?` : the first survivor that cannot be resolved.
-/
import CatalogClasses.Proofs.FirstPass
import CatalogClasses.Proofs.FittingDefaults
import CatalogClasses.Proofs.LiteralLines

namespace CatalogClasses

/-! ## Entries whose arguments have texts as their names -/

namespace Json

mutual

/-- In the entry of an argument and in those nested in it, each name is a text. -/
def argumentsAreNamed : Json → Bool
  | .obj fields => fieldsNameArguments fields
  | .arr entries => entriesNameArguments entries
  | _ => true

/-- Among the fields of the entry of an argument, the name is a text, also in the entries nested
in it. -/
def fieldsNameArguments : List (String × Json) → Bool
  | [] => true
  | (key, value) :: rest =>
      (key != "name" || value.isText) && (key != "arguments" || argumentsAreNamed value) &&
        fieldsNameArguments rest

/-- In each of the entries, the names of arguments are texts. -/
def entriesNameArguments : List Json → Bool
  | [] => true
  | entry :: rest => argumentsAreNamed entry && entriesNameArguments rest

end

theorem fieldsNameArguments_iff {fields : List (String × Json)} :
    fieldsNameArguments fields = true ↔ ∀ field ∈ fields,
      (field.1 = "name" → field.2.isText = true) ∧
        (field.1 = "arguments" → field.2.argumentsAreNamed = true) := by
  induction fields with
  | nil => simp [fieldsNameArguments]
  | cons field rest ih =>
    obtain ⟨key, value⟩ := field
    simp [fieldsNameArguments, ih, Decidable.imp_iff_not_or]

theorem entriesNameArguments_iff {entries : List Json} :
    entriesNameArguments entries = true ↔ ∀ entry ∈ entries, entry.argumentsAreNamed = true := by
  induction entries with
  | nil => simp [entriesNameArguments]
  | cons entry rest ih => simp [entriesNameArguments, ih]

/-- A name that is a text and does not count as false is not empty. -/
theorem exists_text_of_isTruthy {name : Json} (htext : name.isText = true)
    (htruthy : name.isTruthy = true) : ∃ text, name = .str text ∧ text ≠ "" := by
  obtain ⟨text, rfl⟩ := isText_iff.1 htext
  refine ⟨text, rfl, ?_⟩
  rintro rfl
  cases htruthy

/-- Where the names of arguments are texts, an entry has such a name if it has one at all. -/
theorem isText_of_fieldOrNull {fields : List (String × Json)}
    (h : fieldsNameArguments fields = true)
    (htruthy : (fieldOrNull "name" fields).isTruthy = true) :
    (fieldOrNull "name" fields).isText = true := by
  unfold fieldOrNull at htruthy ⊢
  cases hname : lookup "name" fields with
  | none =>
    rw [hname] at htruthy
    cases htruthy
  | some name => exact (fieldsNameArguments_iff.1 h _ (mem_of_lookup hname)).1 rfl

/-- The entry of a component: its name is a text, and so are the names of its arguments and those
of their types. -/
def isNamedComponent : Json → Bool
  | .obj fields =>
      let entries := (lookup "arguments" fields).getD (.arr [])
      (fieldOrNull "name" fields).isText && entries.argumentsAreNamed && entries.typesAreNamed
  | _ => false

end Json

/-! ## Arguments that are read -/

namespace Argument

/-- The name of the argument is a text that is not empty. -/
def HasName (argument : Argument) : Prop := ∃ name, argument.longName = .str name ∧ name ≠ ""

/-- An argument has the name of its entry, which is not empty. -/
theorem hasName_of_ofJson_obj {exclusion : Exclusion} {fields : List (String × Json)}
    (hnames : Json.fieldsNameArguments fields = true) {argument : Argument}
    (h : ofJson exclusion (.obj fields) = .ok argument) : argument.HasName := by
  rw [ofJson_obj] at h
  split at h
  · next htruthy =>
    have htext := Json.isText_of_fieldOrNull hnames htruthy
    obtain ⟨name, hname, hne⟩ := Json.exists_text_of_isTruthy htext htruthy
    refine ⟨name, ?_, hne⟩
    rw [← hname]
    split at h
    · obtain ⟨declaration, hdeclaration, h⟩ := bind_eq_ok_iff.1 h
      obtain rfl := Except.ok.inj h
      exact Declaration.longName_of_ofFields hdeclaration
    · obtain ⟨arguments, -, h⟩ := bind_eq_ok_iff.1 h
      obtain ⟨declaration, hdeclaration, h⟩ := bind_eq_ok_iff.1 h
      obtain rfl := Except.ok.inj h
      exact Declaration.longName_of_ofFields hdeclaration
  · cases h

/-- Arguments that are read from a list of entries have names, at every depth. -/
theorem hasName_of_ofEntries (exclusion : Exclusion) {entries : List Json}
    (hnames : Json.entriesNameArguments entries = true) {arguments : List Argument}
    (h : ofEntries exclusion entries = .ok arguments) :
    ∀ part ∈ forest arguments, part.HasName := by
  refine forall_forest_of_ofEntries (fun fields argument hfields => ?_) ?_ entries
    (Json.entriesNameArguments_iff.1 hnames) h
  · rw [Json.argumentsAreNamed] at hfields
    exact hasName_of_ofJson_obj hfields
  · intro fields nested hfields hlookup
    rw [Json.argumentsAreNamed] at hfields
    have hnested := (Json.fieldsNameArguments_iff.1 hfields _ (Json.mem_of_lookup hlookup)).2 rfl
    exact Json.entriesNameArguments_iff.1 hnested

/-- Where all arguments have names, at every depth, the names are texts. -/
theorem named_of_forall_forest (arguments : List Argument) :
    (∀ part ∈ forest arguments, part.HasName) → Named arguments := by
  have hname : ∀ {argument : Argument}, argument.HasName →
      ∃ name, argument.longName = .str name := fun ⟨name, hname, _⟩ => ⟨name, hname⟩
  induction arguments using Argument.list_induction with
  | nil => exact fun _ => trivial
  | member declaration rest ih =>
    intro h
    obtain ⟨hhere, hrest⟩ := List.forall_mem_cons.1 h
    exact ⟨hname hhere, trivial, ih hrest⟩
  | group declaration inner rest ihInner ih =>
    intro h
    rw [forest_cons, tree_group, List.forall_mem_append, List.forall_mem_cons] at h
    obtain ⟨⟨hhere, hinner⟩, hrest⟩ := h
    exact ⟨hname hhere, ihInner hinner, ih hrest⟩

end Argument

/-- The survivors are some of the arguments, at every depth. -/
theorem Options.argument_mem_forest {options : Options} (arguments : List Argument) :
    ∀ groups, ∀ site ∈ options.survivors groups arguments,
      site.argument ∈ Argument.forest arguments := by
  induction arguments using Argument.list_induction with
  | nil => nofun
  | member declaration rest ih =>
    intro groups site hsite
    rw [survivors_member] at hsite
    rw [Argument.forest_cons, Argument.tree_member]
    rcases List.mem_append.1 hsite with hsite | hsite
    · split at hsite
      · rw [List.mem_singleton.1 hsite]
        exact List.mem_cons_self
      · cases hsite
    · exact List.mem_append_right _ (ih groups site hsite)
  | group declaration inner rest ihInner ih =>
    intro groups site hsite
    rw [survivors_group] at hsite
    rw [Argument.forest_cons, Argument.tree_group]
    rcases List.mem_append.1 hsite with hsite | hsite
    · split at hsite
      · rcases List.mem_cons.1 hsite with rfl | hsite
        · exact List.mem_cons_self
        · exact List.mem_append_left _ (List.mem_cons_of_mem _ (ihInner _ site hsite))
      · cases hsite
    · exact List.mem_append_right _ (ih groups site hsite)

/-! ## Defaults that are too large -/

/-- What the default of an argument consists of, in the order in which it is written, each part
with the type for it. -/
def Declaration.writtenParts (options : Options) (declaration : Declaration) (shape : Shape) :
    List (SchemaType × Json) :=
  match declaration.written? options shape with
  | some (value, some type) => type.parts value
  | _ => []

/-- The first part that is not written. -/
def firstRefused? (parts : List (SchemaType × Json)) : Option (SchemaType × Json) :=
  parts.find? fun part => !part.1.writes part.2

/-- In the default of the argument, the first part that is not written is an integer that is too
large for its type. -/
def Argument.meetsTooLarge (options : Options) (argument : Argument) : Bool :=
  match argument.classify with
  | .ok shape => (firstRefused? (argument.declaration.writtenParts options shape)).any
      fun part => part.1.isTooLarge part.2
  | .error _ => false

/-- An integer that is too large for a type of numbers would otherwise be one of them. -/
theorem SchemaType.fits_of_isTooLarge {type : SchemaType} {value : Json}
    (h : type.isTooLarge value = true) : type.fits value = true := by
  cases value with
  | int n =>
    unfold isTooLarge at h
    rcases type with ⟨kind, name, nullable⟩ | _ | _
    · cases kind <;> first | rfl | cases h
    · cases h
    · cases h
  | null | bool | float | str | arr | obj => cases h

namespace Decided

variable {α : Type} {parts : List (SchemaType × Json)}

/-- If the result is a fault, it is the one that refuses the first part which is not written. -/
theorem exists_firstRefused {fault : Fault} (h : Decided parts (.error fault : Fallible α)) :
    ∃ part, firstRefused? parts = some part ∧ part.1.Refuses part.2 fault := by
  rcases h with _ | @⟨before, part, after, _, hparts, hearlier, hrefused⟩
  refine ⟨part, ?_, hrefused⟩
  rw [firstRefused?, List.find?_eq_some_iff_append]
  refine ⟨by rw [hrefused.writes]; rfl, before, after, hparts, ?_⟩
  intro earlier hmem
  rw [hearlier earlier hmem]
  rfl

/-- If the result is a value, all parts are written. -/
theorem firstRefused_eq_none {value : α} (h : Decided parts (.ok value)) :
    firstRefused? parts = none := by
  rcases h with ⟨_, hwritten⟩ | _
  rw [firstRefused?, List.find?_eq_none]
  intro part hpart
  rw [hwritten part hpart]
  exact Bool.false_ne_true

/-- The fault is without a place just when the first part that is not written is too large. -/
theorem eq_malformed_iff {result : Fallible α} (h : Decided parts result) {reason : Malformed} :
    result = .error (.malformed reason) ↔
      reason = .tooLarge ∧ (firstRefused? parts).any (fun part => part.1.isTooLarge part.2) := by
  cases result with
  | ok value =>
    rw [h.firstRefused_eq_none]
    simp
  | error fault =>
    obtain ⟨part, hpart, hrefused⟩ := h.exists_firstRefused
    rw [hpart, Option.any_some]
    constructor
    · intro heq
      obtain rfl := Except.error.inj heq
      exact ⟨hrefused.1, hrefused.2.2⟩
    · rintro ⟨rfl, hlarge⟩
      cases fault with
      | failure failure =>
        obtain ⟨-, hfits, -⟩ := hrefused
        rw [SchemaType.fits_of_isTooLarge hlarge] at hfits
        cases hfits
      | malformed other => rw [hrefused.1]

end Decided

/-! ## Initial values -/

/-- The initial value that is written for a value of a nameable type goes through the parts of the
value. -/
theorem decided_initializerOf {type : SchemaType} (h : type.isNameable = true) (value : Json) :
    Decided (type.parts value) (initializerOf value (some type)) := by
  refine (decided_literal? ?_ value).map Initializer.ofLiteral?
  intro item hitem
  have hnameable := SchemaType.isNameable_of_mem_itemTypes h item hitem
  obtain ⟨name, hname⟩ := SchemaType.spelled_of_isNameable hnameable
  exact ⟨.str name, hname⟩

namespace Argument

variable {argument : Argument} {shape : Shape}

/-- Whatever is written for a nameable argument has a type, which is nameable. -/
theorem isNameable_of_written (h : argument.IsNameable) (hshape : argument.classify = .ok shape)
    {options : Options} {value : Json} {type? : Option SchemaType}
    (hwritten : argument.declaration.written? options shape = some (value, type?)) :
    ∃ type, type? = some type ∧ type.isNameable = true := by
  have hnameable : ∀ {type? : Option SchemaType}, type?.isSome →
      (∀ type, type? = some type → type.isNameable = true) →
      ∃ type, type? = some type ∧ type.isNameable = true := by
    intro type? hsome htype
    obtain ⟨type, rfl⟩ := Option.isSome_iff_exists.1 hsome
    exact ⟨type, rfl, htype type rfl⟩
  cases argument with
  | group declaration arguments =>
    obtain rfl := classify_group hshape
    unfold Declaration.written? at hwritten
    split at hwritten <;> cases hwritten
  | member declaration =>
    obtain ⟨hmember, -⟩ := classify_member hshape
    have hitem := hnameable (itemType_of_memberShape hmember) h.itemType
    unfold Declaration.written? at hwritten
    split at hwritten
    · cases hwritten
    · cases hwritten
    · cases shape with
      | group => cases hwritten
      | scalar =>
        obtain ⟨-, rfl⟩ := Prod.mk.inj (Option.some.inj hwritten)
        exact hitem
      | stringCollection =>
        obtain ⟨-, rfl⟩ := Prod.mk.inj (Option.some.inj hwritten)
        exact hnameable (fieldType_of_stringCollection hmember) h.fieldType
      | columnCollection =>
        obtain ⟨-, rfl⟩ := Prod.mk.inj (Option.some.inj hwritten)
        exact ⟨SchemaType.strings, rfl, rfl⟩
      | genericCollection =>
        simp only [Declaration.writtenFor] at hwritten
        split at hwritten
        · obtain ⟨only, -, hpair⟩ := Option.map_eq_some_iff.1 hwritten
          obtain ⟨-, rfl⟩ := Prod.mk.inj hpair
          exact hitem
        · obtain ⟨-, rfl⟩ := Prod.mk.inj (Option.some.inj hwritten)
          obtain ⟨itemType, hitemType, hname⟩ := hitem
          -- the type for the list is the one of its elements, in a sequence
          have hsequence : (SchemaType.sequenceOf declaration.itemType).isNameable = true := by
            rw [hitemType]
            exact hname
          exact ⟨_, rfl, hsequence⟩

/-- The initial value of a nameable argument goes through the parts of what is written. -/
theorem decided_initializer (h : argument.IsNameable) (hshape : argument.classify = .ok shape)
    (options : Options) : Decided (argument.declaration.writtenParts options shape)
      (argument.declaration.initializer options shape) := by
  obtain ⟨hsome, hnone⟩ := Declaration.initializer_eq options argument.declaration shape
  cases hwritten : argument.declaration.written? options shape with
  | none =>
    obtain ⟨initial, hinitial, -⟩ := hnone hwritten
    rw [hinitial]
    unfold Declaration.writtenParts
    rw [hwritten]
    exact .written initial nofun
  | some pair =>
    obtain ⟨value, type?⟩ := pair
    obtain ⟨type, rfl, hnameable⟩ := isNameable_of_written h hshape hwritten
    rw [hsome value _ hwritten]
    unfold Declaration.writtenParts
    rw [hwritten]
    exact decided_initializerOf hnameable value

/-- A fault in classifying an argument with a name is a failure. -/
theorem exists_failure_of_classify (h : argument.HasName) {fault : Fault}
    (hfault : argument.classify = .error fault) : ∃ failure, fault = .failure failure := by
  obtain ⟨name, hname, hne⟩ := h
  have htruthy : (Json.str name).isTruthy = true := by simpa [Json.isTruthy] using hne
  have hcapitalized : ∃ capitalized, isCapitalized argument.longName = .ok capitalized := by
    rw [hname, isCapitalized, propertyName, if_pos htruthy]
    exact ⟨_, rfl⟩
  obtain ⟨capitalized, hcapitalized⟩ := hcapitalized
  have hclassify : FaultsIn (fun fault => ∃ failure, fault = .failure failure)
      argument.classify := by
    refine faultsIn_classify (fun cause => ⟨_, rfl⟩) ?_
    rw [hcapitalized]
    exact .ok _
  exact hclassify fault hfault

/-- An argument whose names are there is resolved, or fails, as its classification and its initial
value do. -/
theorem resolve_eq_error_iff (hnameable : argument.IsNameable) (hname : argument.HasName)
    {options : Options} {suffix : String} {fault : Fault} :
    argument.resolve options suffix = .error fault ↔
      argument.classify = .error fault ∨ ∃ shape, argument.classify = .ok shape ∧
        argument.declaration.initializer options shape = .error fault := by
  cases hshape : argument.classify with
  | error other =>
    rw [resolve, hshape, error_bind]
    simp
  | ok shape =>
    obtain ⟨typeName, htypeName⟩ := typeName_of_isNameable hnameable hshape options
    obtain ⟨name, hname, -⟩ := hname
    have hmember : memberName argument.declaration.longName = .ok name :=
      memberName_eq_ok_iff.2 hname
    rw [resolve, hshape, ok_bind, htypeName, ok_bind, hmember, ok_bind]
    cases hinitial : argument.declaration.initializer options shape with
    | ok initial =>
      rw [ok_bind]
      simp [hinitial, pure, Except.pure]
    | error other =>
      rw [error_bind]
      simp [hinitial]

/-- **The one fault without a place**: in the default of an argument, the first part that is not
written is an integer that is too large. -/
theorem resolve_eq_malformed_iff (hnameable : argument.IsNameable) (hname : argument.HasName)
    (options : Options) (suffix : String) {reason : Malformed} :
    argument.resolve options suffix = .error (.malformed reason) ↔
      reason = .tooLarge ∧ argument.meetsTooLarge options = true := by
  rw [resolve_eq_error_iff hnameable hname]
  unfold meetsTooLarge
  cases hshape : argument.classify with
  | error other =>
    obtain ⟨failure, rfl⟩ := exists_failure_of_classify hname hshape
    simp
  | ok shape => simpa using (decided_initializer hnameable hshape options).eq_malformed_iff

end Argument

/-! ## Where generation ends -/

/-- The first survivor that cannot be resolved, in the order of declarations. -/
def Options.firstFailing? (options : Options) (arguments : List Argument) : Option Site :=
  (options.survivors [] arguments).find? fun site => !(site.resolveFrom options "").isOk

namespace Walker

variable {walker : Walker} {arguments : List Argument}

/-- The survivor at which a walk fails is the first one that cannot be resolved. -/
theorem FailsAt.firstFailing?_eq {fault : Fault} {site : Site}
    (h : walker.FailsAt "" arguments fault site) :
    walker.options.firstFailing? arguments = some site := by
  obtain ⟨earlier, later, hsurvivors, hearlier⟩ := h.isFirst
  obtain ⟨error, herror, -⟩ := h.isOwn
  rw [Options.firstFailing?, List.find?_eq_some_iff_append]
  refine ⟨by rw [herror]; rfl, earlier, later, hsurvivors, ?_⟩
  intro other hother
  obtain ⟨resolved, hresolved⟩ := hearlier other hother
  rw [hresolved]
  rfl

/-- **The fault of a walk** is that of the first survivor that cannot be resolved, located
there. -/
theorem fault_eq_some_iff (hanswers : walker.options.Answers arguments) {fault : Fault} :
    (walker.walk "" arguments).fault = some fault ↔
      ∃ site error, walker.options.firstFailing? arguments = some site ∧
        site.resolveFrom walker.options "" = .error error ∧
        fault = error.located walker.component site.argument.longName := by
  rcases resolved_or_first_failure walker.options "" (walker.options.stops [] arguments) with
    hall | ⟨before, stop, after, error, hstops, hbefore, hstop⟩
  · have hnone : walker.options.firstFailing? arguments = none := by
      rw [Options.firstFailing?, List.find?_eq_none]
      intro site hsite
      obtain ⟨resolved, hresolved⟩ :=
        (forall_survivors_iff walker.options "" arguments).2 hall site hsite
      rw [hresolved]
      exact Bool.false_ne_true
    rw [fault_eq_none_of_resolved hanswers hall, hnone]
    simp
  · obtain ⟨own, hown, hfails⟩ := failsAt_of_first_failure hanswers hstops hbefore hstop
    obtain ⟨reached, hreached, rfl⟩ := hfails.isOwn
    rw [hown, hfails.firstFailing?_eq]
    constructor
    · intro h
      exact ⟨stop.site, reached, rfl, hreached, (Option.some.inj h).symm⟩
    · rintro ⟨site, other, hsite, hother, rfl⟩
      obtain rfl := Option.some.inj hsite
      rw [hreached] at hother
      obtain rfl := Except.error.inj hother
      rfl

end Walker

/-- The content of a class ends with a fault just when a walk through its arguments does. -/
theorem Factory.result_content_eq_error_iff {factory : Factory} {options : Options}
    {component : Component} {signature? : Option String} {fault : Fault} :
    (factory.content options component signature?).result = .error fault ↔
      (component.walk options).fault = some fault := by
  cases hwalk : (component.walk options).fault with
  | some other =>
    rw [result_content_of_fault hwalk]
    simp
  | none =>
    obtain ⟨text, htext⟩ :
        ∃ text, (factory.content options component signature?).result = .ok text :=
      exists_content_of_no_fault hwalk
    rw [htext]
    simp

namespace Component

/-- A component that is read has a name, and so have its arguments and their types. -/
theorem named_of_read {exclusion : Exclusion} {entry : Json} {component : Component}
    (hentry : entry.isNamedComponent = true) (hread : ofJson exclusion entry = .ok component) :
    (∃ name, component.name = .str name ∧ name ≠ "") ∧
      ∀ part ∈ Argument.forest component.arguments, part.IsNameable ∧ part.HasName := by
  cases entry with
  | obj fields =>
    simp only [Json.isNamedComponent, Bool.and_eq_true] at hentry
    obtain ⟨⟨htext, hnamed⟩, htyped⟩ := hentry
    rw [ofJson_obj] at hread
    split at hread
    · next htruthy =>
      obtain ⟨arguments, harguments, hread⟩ := bind_eq_ok_iff.1 hread
      obtain rfl := Except.ok.inj hread
      refine ⟨Json.exists_text_of_isTruthy htext htruthy, ?_⟩
      have hlist := locate_eq_ok_iff.1 harguments
      generalize (Json.lookup "arguments" fields).getD (.arr []) = value at hnamed htyped hlist
      by_cases hentries : ∃ entries, value = .arr entries
      · obtain ⟨entries, rfl⟩ := hentries
        intro part hpart
        exact ⟨Argument.isNameable_of_ofEntries exclusion htyped hlist part hpart,
          Argument.hasName_of_ofEntries exclusion hnamed hlist part hpart⟩
      · rw [Argument.ofList_of_ne fun entries heq => hentries ⟨entries, heq⟩] at hlist
        obtain rfl := eq_nil_of_noEntries hlist
        intro part hpart
        cases hpart
    · cases hread
  | null | bool | int | float | str | arr => cases hentry

section Content

variable {options : Options} {component : Component} {factory : Factory}
  {signature? : Option String}

/-- The first survivor that cannot be resolved is an argument of the component. -/
theorem parts_of_firstFailing
    (hparts : ∀ part ∈ Argument.forest component.arguments, part.IsNameable ∧ part.HasName)
    {site : Site} (hsite : options.firstFailing? component.arguments = some site) :
    site ∈ options.survivors [] component.arguments ∧
      site.argument.IsNameable ∧ site.argument.HasName := by
  have hsurvives : site ∈ options.survivors [] component.arguments :=
    List.mem_of_find?_eq_some hsite
  exact ⟨hsurvives, hparts _ (Options.argument_mem_forest _ _ site hsurvives)⟩

/-- Where all arguments have names, the fault of the content is that of the first survivor that
cannot be resolved, located there. -/
theorem result_content_eq_error_iff
    (hparts : ∀ part ∈ Argument.forest component.arguments, part.IsNameable ∧ part.HasName)
    (htest : options.canTest = true) {fault : Fault} :
    (factory.content options component signature?).result = .error fault ↔
      ∃ site error, options.firstFailing? component.arguments = some site ∧
        site.resolveFrom options "" = .error error ∧
        fault = error.located component.name site.argument.longName := by
  have hnamed : Argument.Named component.arguments :=
    Argument.named_of_forall_forest _ fun part hpart => (hparts part hpart).2
  have hanswers : options.Answers component.arguments := Options.answers_of_named htest _ hnamed
  rw [Factory.result_content_eq_error_iff]
  exact Walker.fault_eq_some_iff hanswers

/-- It has no place just when the default of that survivor ends at an integer that is too
large. -/
theorem result_content_eq_malformed_iff
    (hparts : ∀ part ∈ Argument.forest component.arguments, part.IsNameable ∧ part.HasName)
    (htest : options.canTest = true) {reason : Malformed} :
    (factory.content options component signature?).result = .error (.malformed reason) ↔
      reason = .tooLarge ∧ ∃ site, options.firstFailing? component.arguments = some site ∧
        site.argument.meetsTooLarge options = true := by
  rw [result_content_eq_error_iff hparts htest]
  constructor
  · rintro ⟨site, error, hfirst, herror, hlocated⟩
    cases error with
    | failure failure => cases hlocated
    | malformed other =>
      obtain rfl := Fault.malformed.inj hlocated
      obtain ⟨-, hnameable, hname⟩ := parts_of_firstFailing hparts hfirst
      obtain ⟨hreason, hmeets⟩ :=
        (Argument.resolve_eq_malformed_iff hnameable hname options _).1 herror
      exact ⟨hreason, site, hfirst, hmeets⟩
  · rintro ⟨hreason, site, hfirst, hmeets⟩
    obtain ⟨-, hnameable, hname⟩ := parts_of_firstFailing hparts hfirst
    have herror := (Argument.resolve_eq_malformed_iff hnameable hname options ("" ++ site.suffix)).2
      ⟨hreason, hmeets⟩
    exact ⟨site, .malformed reason, hfirst, herror, rfl⟩

end Content

/-- **What ends the generation of a class.**  Let a component be read from an entry that gives texts
as names, and let the options tell which names are excluded.  A failure names the component and the
first survivor that cannot be resolved.  There is a fault without a place just when the literal of
the default of this survivor ends at an integer that is too large for its type.  So if there is no
such default, the class is generated, or there is a failure that tells of its place. -/
theorem content_fails_with_place {exclusion : Exclusion} {entry : Json} {component : Component}
    (hentry : entry.isNamedComponent = true) (hread : ofJson exclusion entry = .ok component)
    {options : Options} (htest : options.canTest = true) (factory : Factory)
    (signature? : Option String) :
    (∀ failure,
      (factory.content options component signature?).result = .error (.failure failure) →
      (∃ name, component.name = .str name ∧ name ≠ "" ∧ failure.component = .str name) ∧
      ∃ site, options.firstFailing? component.arguments = some site ∧
        ∃ name, site.argument.longName = .str name ∧ name ≠ "" ∧ failure.argument = .str name) ∧
    (∀ reason,
      (factory.content options component signature?).result = .error (.malformed reason) ↔
        reason = .tooLarge ∧ ∃ site, options.firstFailing? component.arguments = some site ∧
          site.argument.meetsTooLarge options = true) ∧
    ((∀ site ∈ options.survivors [] component.arguments,
        site.argument.meetsTooLarge options = false) →
      (∃ text, (factory.content options component signature?).result = .ok text) ∨
      ∃ failure, (factory.content options component signature?).result =
        .error (.failure failure)) := by
  obtain ⟨⟨name, hname, hne⟩, hparts⟩ := named_of_read hentry hread
  refine ⟨?_, fun _ => result_content_eq_malformed_iff hparts htest, ?_⟩
  · intro failure hfailure
    obtain ⟨site, error, hfirst, herror, hlocated⟩ :=
      (result_content_eq_error_iff hparts htest).1 hfailure
    obtain ⟨hcomponent, hargument⟩ :=
      Fault.place_of_located (faultsOf_resolve _ _ _ error herror) hlocated.symm
    obtain ⟨-, -, own, hown, hnonempty⟩ := parts_of_firstFailing hparts hfirst
    exact ⟨⟨name, hname, hne, hcomponent.trans hname⟩,
      site, hfirst, own, hown, hnonempty, hargument.trans hown⟩
  · intro hnone
    cases hresult : (factory.content options component signature?).result with
    | ok text => exact .inl ⟨text, rfl⟩
    | error fault =>
      cases fault with
      | failure failure => exact .inr ⟨failure, rfl⟩
      | malformed reason =>
        obtain ⟨-, site, hfirst, hmeets⟩ := (result_content_eq_malformed_iff hparts htest).1 hresult
        rw [hnone site (parts_of_firstFailing hparts hfirst).1] at hmeets
        cases hmeets

/-- A component of a number with this default, and of a whole number whose default is a list. -/
def scalerEntry (rate : Int) : Json :=
  .obj [("name", .str "scaler"),
    ("arguments", .arr [
      .obj [("name", .str "rate"), ("type", .str "float"), ("default", .int rate)],
      .obj [("name", .str "rank"), ("type", .str "int"), ("default", .arr [.int rate])]])]

/-- Where the number is small, the other default is told of. -/
theorem content_fails_with_place_of_small :
    (scalerEntry 1).isNamedComponent = true ∧ Options.standard.canTest = true ∧
    ∃ component failure, ofJson none (scalerEntry 1) = .ok component ∧
      (Factory.transform.content .standard component none).result = .error (.failure failure) ∧
      (∃ name, component.name = .str name ∧ name ≠ "" ∧ failure.component = .str name) ∧
      failure.argument.text = "rank" := by
  have hentry : (scalerEntry 1).isNamedComponent = true := by decide +kernel
  have hok : (ofJson none (scalerEntry 1)).isOk = true := by decide +kernel
  have hresult : (ofJson none (scalerEntry 1)).toOption.bind (fun component =>
      match (Factory.transform.content .standard component none).result with
        | .error (.failure failure) => some failure.argument.text
        | _ => none) = some "rank" := by decide +kernel
  obtain ⟨component, hread⟩ := exists_of_isOk hok
  rw [hread] at hresult
  have htest : Options.standard.canTest = true := rfl
  obtain ⟨hfailure, -, -⟩ := content_fails_with_place hentry hread htest .transform none
  change (match (Factory.transform.content .standard component none).result with
    | .error (.failure failure) => some failure.argument.text
    | _ => none) = some "rank" at hresult
  split at hresult
  · next failure heq =>
    exact ⟨hentry, htest, component, failure, hread, heq, (hfailure failure heq).1,
      Option.some.inj hresult⟩
  · cases hresult

/-- The number is 1 and 400 zeros, which is more than double precision can hold. -/
def overflowingEntry : Json := scalerEntry (Int.ofNat (Nat.pow 10 400))

/-- Where the number is too large, the fault has no place. -/
theorem content_fails_without_place :
    overflowingEntry.isNamedComponent = true ∧ Options.standard.canTest = true ∧
    ∃ component, ofJson none overflowingEntry = .ok component ∧
      (Factory.transform.content .standard component none).result =
        .error (.malformed .tooLarge) := by
  have hok : (ofJson none overflowingEntry).isOk = true := by decide +kernel
  have hresult : (ofJson none overflowingEntry).toOption.bind (fun component =>
      match (Factory.transform.content .standard component none).result with
        | .error (.malformed reason) => some reason
        | _ => none) = some .tooLarge := by decide +kernel
  obtain ⟨component, hread⟩ := exists_of_isOk hok
  rw [hread] at hresult
  change (match (Factory.transform.content .standard component none).result with
    | .error (.malformed reason) => some reason
    | _ => none) = some Malformed.tooLarge at hresult
  split at hresult
  · next reason heq =>
    obtain rfl := Option.some.inj hresult
    exact ⟨by decide +kernel, rfl, component, hread, heq⟩
  · cases hresult

end Component

end CatalogClasses
