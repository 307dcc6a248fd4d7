/-
# The entry at fault

A catalog is read entry by entry, and the first thing that is wrong ends the reading.  The entries
of arguments are looked at in the order in which they stand, those nested in an entry before the
entry itself, and of an entry its type before the type of its elements.  An entry without a name is
wrong before anything else of it is looked at.  The main statement says that a failure names what
is wrong: its component is the first one that cannot be read, and its argument is the first entry
in this order that is wrong by itself.  Entries that are passed over are not looked at.

Main definitions:

* `Json.checked` : the entries in the order in which they are looked at;
* `Json.IsSound` : nothing is wrong with what an entry says about itself;
* `Json.ownCause?` : the first thing that is wrong with it;
* `Json.Blames` : a failure names the component and the argument at fault.
-/
import CatalogClasses.Proofs.Exclusion
import CatalogClasses.Proofs.RefusedTypes

namespace CatalogClasses

/-! ## Results and failures -/

/-- The result is the failure, if there is one, and otherwise a value. -/
def FailsAs {α : Type} (failure? : Option Failure) (result : Fallible α) : Prop :=
  match failure? with
  | some failure => result = .error (.failure failure)
  | none => ∃ value, result = .ok value

namespace FailsAs

variable {α β : Type} {first? second? : Option Failure} {first : Fallible α}

/-- The failure of the first of two computations comes before that of the second. -/
theorem bind {next : α → Fallible β} (hfirst : FailsAs first? first)
    (hnext : ∀ value, first = .ok value → FailsAs second? (next value)) :
    FailsAs (first?.or second?) (first >>= next) := by
  cases first? with
  | none =>
    obtain ⟨value, hvalue⟩ := hfirst
    rw [hvalue]
    exact hnext value hvalue
  | some failure =>
    rw [show first = .error (.failure failure) from hfirst]
    rfl

/-- What is done with a value does not add a failure. -/
theorem map {next : α → Fallible β} (hfirst : FailsAs first? first)
    (hnext : ∀ value, ∃ result, next value = .ok result) : FailsAs first? (first >>= next) := by
  have h : FailsAs (first?.or none) (first >>= next) := hfirst.bind fun value _ => hnext value
  rwa [Option.or_none] at h

/-- A located result has a located failure. -/
theorem locate (hfirst : FailsAs first? first) (component argument : Json) :
    FailsAs (first?.map (·.located component argument))
      (CatalogClasses.locate component argument first) := by
  cases first? with
  | none =>
    obtain ⟨value, hvalue⟩ := hfirst
    exact ⟨value, by rw [hvalue]; rfl⟩
  | some failure =>
    rw [show first = .error (.failure failure) from hfirst]
    rfl

/-- A failure is that of the result. -/
theorem eq_error_iff (h : FailsAs first? first) {fault : Fault} :
    first = .error fault ↔ ∃ failure, first? = some failure ∧ fault = .failure failure := by
  cases first? with
  | none =>
    obtain ⟨value, hvalue⟩ := h
    rw [hvalue]
    exact iff_of_false nofun (by rintro ⟨failure, ⟨⟩, -⟩)
  | some failure =>
    rw [show first = .error (.failure failure) from h]
    constructor
    · rintro ⟨⟩
      exact ⟨failure, rfl, rfl⟩
    · rintro ⟨_, ⟨⟩, rfl⟩
      rfl

/-- A result without a failure has a value. -/
theorem exists_ok_iff (h : FailsAs first? first) :
    (∃ value, first = .ok value) ↔ first? = none := by
  cases first? with
  | none => exact iff_of_true h rfl
  | some failure =>
    rw [show first = .error (.failure failure) from h]
    exact iff_of_false nofun nofun

end FailsAs

/-! ## Entries in the order in which they are looked at -/

namespace Json

/-- The entry has a name. -/
def isNamedEntry (fields : List (String × Json)) : Bool := (fieldOrNull "name" fields).isTruthy

/-- The name of an entry, or null if it has none. -/
def nameOrNull (fields : List (String × Json)) : Json :=
  if isNamedEntry fields then fieldOrNull "name" fields else .null

mutual

/-- The entries in the order in which they are looked at.  Those nested in an entry come before it;
of an entry without a name nothing more is looked at, and one to leave out is not looked at. -/
def checked (leftOut : Json → Bool) : List Json → List (List (String × Json))
  | [] => []
  | .obj fields :: rest =>
      if isLeftOut leftOut fields then checked leftOut rest
      else (if isNamedEntry fields then checkedInside leftOut fields else []) ++ [fields] ++
        checked leftOut rest
  | _ :: rest => checked leftOut rest

/-- The entries in the value that stands in the place of a list of them. -/
def checkedList (leftOut : Json → Bool) : Json → List (List (String × Json))
  | .arr entries => checked leftOut entries
  | _ => []

/-- The entries nested in an entry. -/
def checkedInside (leftOut : Json → Bool) : List (String × Json) → List (List (String × Json))
  | [] => []
  | (key, value) :: rest =>
      if key = "arguments" then checkedList leftOut value else checkedInside leftOut rest

end

/-- The entries nested in an entry are those in one of its fields. -/
theorem checkedInside_eq (leftOut : Json → Bool) (fields : List (String × Json)) :
    checkedInside leftOut fields =
      checkedList leftOut ((lookup "arguments" fields).getD (.arr [])) := by
  induction fields with
  | nil => rfl
  | cons field rest ih =>
    obtain ⟨key, value⟩ := field
    rw [checkedInside, lookup, ih]
    by_cases hkey : key = "arguments"
    · rw [if_pos hkey, if_pos hkey]
      rfl
    · rw [if_neg hkey, if_neg hkey]

theorem nameOrNull_eq_null_iff {fields : List (String × Json)} :
    nameOrNull fields = .null ↔ isNamedEntry fields = false := by
  unfold nameOrNull isNamedEntry
  cases hname : (fieldOrNull "name" fields).isTruthy with
  | false => exact iff_of_true rfl rfl
  | true =>
    rw [if_pos rfl]
    refine iff_of_false (fun hnull => ?_) nofun
    rw [hnull] at hname
    cases hname

end Json

/-! ## What an entry says about itself -/

/-- The cause with which the declaration of a type is refused, if it is. -/
def SchemaType.cause? (argument entry : Json) : Option Cause :=
  match ofJson argument entry with
  | .error (.failure failure) => some failure.cause
  | .error (.malformed _) => none
  | .ok _ => none

namespace Json

/-- The entry declares a type, and that is a sequence. -/
def declaresSequence (fields : List (String × Json)) : Bool :=
  match lookup "type" fields with
  | some entry => match SchemaType.ofJson (fieldOrNull "name" fields) entry with
    | .ok type => type.isSequence
    | .error _ => false
  | none => false

/-- The argument is a collection: its entry says so, or says nothing on it and the type is a
sequence. -/
def isCollection (fields : List (String × Json)) (isSequence : Bool) : Bool :=
  match fieldOrNull "collection" fields with
  | .null => isSequence
  | word => word.isTruthy

/-- The entry declares a collection. -/
def declaresCollection (fields : List (String × Json)) : Bool :=
  isCollection fields (declaresSequence fields)

/-- Nothing is wrong with what an entry says about itself: it has a name, its type is declared
as it should be, there is one if other entries are nested in it, and so is the type of the elements
of a collection. -/
structure IsSound (fields : List (String × Json)) : Prop where
  named : isNamedEntry fields = true
  type : ∀ entry, lookup "type" fields = some entry →
    SchemaType.IsDeclaration entry.innermost
  group : (lookup "arguments" fields).isSome → (lookup "type" fields).isSome
  itemType : declaresCollection fields = true → ∀ entry, lookup "item_type" fields = some entry →
    SchemaType.IsDeclaration entry.innermost

/-- What is wrong with the type of an entry. -/
def typeCause? (fields : List (String × Json)) : Option Cause :=
  match lookup "type" fields with
  | some entry => SchemaType.cause? (fieldOrNull "name" fields) entry
  | none => if (lookup "arguments" fields).isSome then some .groupWithoutType else none

/-- What is wrong with the type of the elements. -/
def itemTypeCause? (fields : List (String × Json)) : Option Cause :=
  if declaresCollection fields then
    (lookup "item_type" fields).bind (SchemaType.cause? (fieldOrNull "name" fields))
  else none

/-- The first thing that is wrong with what an entry says about itself. -/
def ownCause? (fields : List (String × Json)) : Option Cause :=
  if isNamedEntry fields then (typeCause? fields).or (itemTypeCause? fields)
  else some (.argumentWithoutName (.obj fields))

/-- The failure of an entry that is wrong by itself. -/
def ownFailure? (fields : List (String × Json)) : Option Failure :=
  (ownCause? fields).map (.atArgument (nameOrNull fields))

/-! ## Entries of the right form -/

mutual

/-- Each of the values is the entry of an argument. -/
def areEntries : List Json → Bool
  | [] => true
  | .obj fields :: rest => fieldsAreRight fields && areEntries rest
  | _ :: _ => false

/-- The value is a list of entries of arguments. -/
def isEntryList : Json → Bool
  | .arr entries => areEntries entries
  | _ => false

/-- The fields are those of the entry of an argument: the kinds of its types can be looked up,
and other entries that are nested in it are in a list. -/
def fieldsAreRight : List (String × Json) → Bool
  | [] => true
  | (key, value) :: rest =>
      (key != "arguments" || isEntryList value) &&
        (key != "type" && key != "item_type" || value.innermost.hasKey) && fieldsAreRight rest

end

/-- The value is the entry of a component, with its arguments in a list. -/
def isComponentEntry : Json → Bool
  | .obj fields => (lookup "arguments" fields).all isEntryList
  | _ => false

end Json

/-! ## Reading one entry -/

namespace SchemaType

/-- A type is read, or refused with its cause at the argument. -/
theorem failsAs_ofJson (argument : Json) {entry : Json} (hkey : entry.innermost.hasKey = true) :
    FailsAs ((cause? argument entry).map (.atArgument argument)) (ofJson argument entry) := by
  have houtcome : Outcome argument entry.innermost (ofJson argument entry) :=
    outcome_innermost argument entry
  rw [cause?]
  generalize ofJson argument entry = result at houtcome ⊢
  cases houtcome with
  | read h type => exact ⟨type, rfl⟩
  | refused h hkey hcause => rfl
  | malformed h hno =>
    rw [hkey] at hno
    cases hno

/-- A type is refused just when the declaration inside all its sequences stands for none. -/
theorem cause?_eq_none_iff (argument : Json) {entry : Json}
    (hkey : entry.innermost.hasKey = true) :
    cause? argument entry = none ↔ IsDeclaration entry.innermost := by
  have houtcome : Outcome argument entry.innermost (ofJson argument entry) :=
    outcome_innermost argument entry
  rw [cause?]
  generalize ofJson argument entry = result at houtcome ⊢
  cases houtcome with
  | read h type => exact iff_of_true rfl h
  | refused h hkey hcause => exact iff_of_false nofun h
  | malformed h hno =>
    rw [hkey] at hno
    cases hno

end SchemaType

/-- The kinds of the types in an entry can be looked up. -/
structure Json.TypesHaveKeys (fields : List (String × Json)) : Prop where
  type : ∀ entry, lookup "type" fields = some entry → entry.innermost.hasKey = true
  itemType : ∀ entry, lookup "item_type" fields = some entry → entry.innermost.hasKey = true

section Declaration

variable {fields : List (String × Json)}

/-- The type of an entry is declared, or it is what is wrong with the entry. -/
theorem failsAs_declaredType (hkeys : Json.TypesHaveKeys fields) :
    FailsAs ((Json.typeCause? fields).map (.atArgument (Json.fieldOrNull "name" fields)))
      (declaredType (Json.fieldOrNull "name" fields) fields
        (Json.lookup "arguments" fields).isSome) := by
  unfold Json.typeCause? declaredType
  cases htype : Json.lookup "type" fields with
  | some entry =>
    exact (SchemaType.failsAs_ofJson _ (hkeys.type entry htype)).map fun type => ⟨_, rfl⟩
  | none =>
    cases (Json.lookup "arguments" fields).isSome with
    | true => rfl
    | false => exact ⟨none, rfl⟩

/-- The type that is read from an entry is a sequence just when the entry declares one. -/
theorem any_isSequence_of_declaredType {isGroup : Bool} {fieldType : Option SchemaType}
    (h : declaredType (Json.fieldOrNull "name" fields) fields isGroup = .ok fieldType) :
    fieldType.any (·.isSequence) = Json.declaresSequence fields := by
  unfold declaredType at h
  unfold Json.declaresSequence
  cases htype : Json.lookup "type" fields with
  | some entry =>
    rw [htype] at h
    obtain ⟨type, hread, h⟩ := bind_eq_ok_iff.1 h
    obtain rfl := Except.ok.inj h
    simp only [hread]
    rfl
  | none =>
    rw [htype] at h
    cases isGroup with
    | true => cases h
    | false =>
      obtain rfl := Except.ok.inj h
      rfl

/-- The type of the elements is declared, or it is what is wrong with the entry. -/
theorem failsAs_elementType (hkeys : Json.TypesHaveKeys fields)
    (fieldType : Option SchemaType) :
    FailsAs ((Json.itemTypeCause? fields).map (.atArgument (Json.fieldOrNull "name" fields)))
      (elementType (Json.fieldOrNull "name" fields) fields (Json.declaresCollection fields)
        fieldType) := by
  unfold Json.itemTypeCause? elementType
  cases Json.declaresCollection fields with
  | false => exact ⟨fieldType, rfl⟩
  | true =>
    cases hitem : Json.lookup "item_type" fields with
    | some entry =>
      exact (SchemaType.failsAs_ofJson _ (hkeys.itemType entry hitem)).map fun type => ⟨_, rfl⟩
    | none =>
      cases fieldType with
      | some type => exact ⟨_, rfl⟩
      | none => exact ⟨none, rfl⟩

/-- What an entry says about the argument is read, or the first thing that is wrong with it is the
failure: the type comes before that of the elements. -/
theorem failsAs_ofFields (hkeys : Json.TypesHaveKeys fields)
    (hnamed : Json.isNamedEntry fields = true) :
    FailsAs (Json.ownFailure? fields)
      (Declaration.ofFields (Json.fieldOrNull "name" fields) fields
        (Json.lookup "arguments" fields).isSome) := by
  rw [Json.ownFailure?, Json.ownCause?, if_pos hnamed, Json.nameOrNull, if_pos hnamed,
    Option.map_or, Declaration.ofFields]
  refine (failsAs_declaredType hkeys).bind fun fieldType hfieldType => ?_
  have helement := failsAs_elementType hkeys fieldType
  rw [Json.declaresCollection, ← any_isSequence_of_declaredType hfieldType] at helement
  exact helement.map fun itemType => ⟨_, rfl⟩

/-- Nothing is wrong with an entry just when it is sound. -/
theorem Json.ownFailure?_eq_none_iff (hkeys : TypesHaveKeys fields) :
    ownFailure? fields = none ↔ IsSound fields := by
  have htype : typeCause? fields = none ↔
      (∀ entry, lookup "type" fields = some entry → SchemaType.IsDeclaration entry.innermost) ∧
        ((lookup "arguments" fields).isSome → (lookup "type" fields).isSome) := by
    unfold typeCause?
    cases hlookup : lookup "type" fields with
    | some entry => simp [SchemaType.cause?_eq_none_iff _ (hkeys.type entry hlookup)]
    | none => simp
  have hitem : itemTypeCause? fields = none ↔ (declaresCollection fields = true →
      ∀ entry, lookup "item_type" fields = some entry →
        SchemaType.IsDeclaration entry.innermost) := by
    unfold itemTypeCause?
    cases hlookup : lookup "item_type" fields with
    | some entry => simp [SchemaType.cause?_eq_none_iff _ (hkeys.itemType entry hlookup)]
    | none => simp
  rw [ownFailure?, Option.map_eq_none_iff, ownCause?]
  by_cases hnamed : isNamedEntry fields = true
  · rw [if_pos hnamed, Option.or_eq_none_iff, htype, hitem]
    constructor
    · rintro ⟨⟨htypes, hgroup⟩, hitems⟩
      exact ⟨hnamed, htypes, hgroup, hitems⟩
    · rintro ⟨-, htypes, hgroup, hitems⟩
      exact ⟨⟨htypes, hgroup⟩, hitems⟩
  · rw [if_neg hnamed]
    exact iff_of_false nofun fun hsound => hnamed hsound.named

end Declaration

/-! ## Reading entries -/

namespace Json

/-- An entry of the right form has kinds that can be looked up, and the entries nested in it are in
a list. -/
theorem fieldsAreRight_iff {fields : List (String × Json)} (h : fieldsAreRight fields = true) :
    TypesHaveKeys fields ∧
      ∀ value, lookup "arguments" fields = some value → isEntryList value = true := by
  have hlookup : ∀ key value, lookup key fields = some value →
      (key = "arguments" → isEntryList value = true) ∧
        (key = "type" ∨ key = "item_type" → value.innermost.hasKey = true) := by
    induction fields with
    | nil => rintro key value ⟨⟩
    | cons field rest ih =>
      obtain ⟨k, v⟩ := field
      rw [fieldsAreRight, Bool.and_eq_true, Bool.and_eq_true] at h
      intro key value hvalue
      rw [lookup] at hvalue
      split at hvalue
      · next hkey =>
        obtain rfl := Option.some.inj hvalue
        subst hkey
        constructor
        · rintro rfl
          simpa using h.1.1
        · rintro (rfl | rfl)
          · simpa using h.1.2
          · simpa using h.1.2
      · exact ih h.2 key value hvalue
  exact ⟨⟨fun entry hentry => (hlookup _ entry hentry).2 (.inl rfl),
    fun entry hentry => (hlookup _ entry hentry).2 (.inr rfl)⟩,
    fun value hvalue => (hlookup _ value hvalue).1 rfl⟩

/-- The failure of the first entry that is wrong by itself. -/
def firstFailure? (leftOut : Json → Bool) (entries : List Json) : Option Failure :=
  (checked leftOut entries).findSome? ownFailure?

/-- The first failure among some entries: inside the first of them, of this entry itself, or among
the others. -/
theorem firstFailure?_cons {leftOut : Json → Bool} {fields : List (String × Json)}
    (h : isLeftOut leftOut fields = false) (rest : List Json) :
    firstFailure? leftOut (.obj fields :: rest) =
      (((if isNamedEntry fields then checkedInside leftOut fields else []).findSome?
        ownFailure?).or (ownFailure? fields)).or (firstFailure? leftOut rest) := by
  unfold firstFailure?
  rw [checked, h, if_neg Bool.false_ne_true, List.findSome?_append, List.findSome?_append]
  cases hown : ownFailure? fields with
  | none => simp [hown]
  | some failure => simp [hown]

end Json

namespace Argument

/-- An entry is read, or the first failure inside it or its own is the failure. -/
theorem failsAs_ofJson (leftOut : Json → Bool) {fields : List (String × Json)}
    (hkeys : Json.TypesHaveKeys fields)
    (hlist : ∀ value, Json.lookup "arguments" fields = some value →
      ∃ entries, value = .arr entries ∧
        FailsAs (Json.firstFailure? leftOut entries) (ofEntries (Exclusion.of leftOut) entries)) :
    FailsAs
      (((if Json.isNamedEntry fields then Json.checkedInside leftOut fields else []).findSome?
        Json.ownFailure?).or (Json.ownFailure? fields))
      (ofJson (Exclusion.of leftOut) (.obj fields)) := by
  rw [ofJson_obj,
    show (Json.fieldOrNull "name" fields).isTruthy = Json.isNamedEntry fields from rfl]
  by_cases hnamed : Json.isNamedEntry fields = true
  · have hown := failsAs_ofFields hkeys hnamed
    rw [if_pos hnamed, if_pos hnamed, Json.checkedInside_eq]
    cases hlookup : Json.lookup "arguments" fields with
    | none =>
      rw [hlookup] at hown
      exact hown.map fun declaration => ⟨_, rfl⟩
    | some value =>
      rw [hlookup] at hown
      obtain ⟨entries, rfl, hentries⟩ := hlist value hlookup
      exact hentries.bind fun arguments _ => hown.map fun declaration => ⟨_, rfl⟩
  · rw [if_neg hnamed, if_neg hnamed, Json.ownFailure?, Json.ownCause?, if_neg hnamed,
      Json.nameOrNull, if_neg hnamed]
    rfl

/-- Some entries are read, or the failure is that of the first of those that are looked at which is
wrong by itself. -/
theorem failsAs_ofEntries (leftOut : Json → Bool) (entries : List Json) :
    Json.areEntries entries = true →
      FailsAs (Json.firstFailure? leftOut entries) (ofEntries (Exclusion.of leftOut) entries) := by
  induction entries using Json.entries_induction with
  | nil =>
    intro _
    rw [ofEntries]
    exact ⟨[], rfl⟩
  | other entry rest hentry =>
    intro hright
    cases entry with
    | obj fields => exact absurd rfl (hentry fields)
    | null | bool | int | float | str | arr => cases hright
  | obj fields rest ihInner ih =>
    intro hright
    rw [Json.areEntries, Bool.and_eq_true] at hright
    obtain ⟨hkeys, hnested⟩ := Json.fieldsAreRight_iff hright.1
    have hrest := ih hright.2
    rw [ofEntries_obj, isPassedOver_of, ok_bind]
    cases hleft : Json.isLeftOut leftOut fields with
    | true =>
      rw [if_pos rfl, Json.firstFailure?, Json.checked, if_pos hleft]
      exact hrest
    | false =>
      have hfirst := failsAs_ofJson leftOut hkeys ?_
      · rw [Json.firstFailure?_cons hleft]
        exact hfirst.bind fun argument _ => hrest.map fun arguments => ⟨_, rfl⟩
      · intro value hvalue
        have hvalueList := hnested value hvalue
        cases value with
        | arr entries => exact ⟨entries, rfl, ihInner entries hvalue hvalueList⟩
        | null | bool | int | float | str | obj => cases hvalueList

end Argument

/-! ## Reading a catalog -/

namespace Json

/-- The kinds of the types in the entries that are looked at can be looked up. -/
theorem typesHaveKeys_of_mem_checked (leftOut : Json → Bool) (entries : List Json) :
    areEntries entries = true → ∀ fields ∈ checked leftOut entries, TypesHaveKeys fields := by
  induction entries using Json.entries_induction with
  | nil => nofun
  | other entry rest hentry =>
    intro hright
    cases entry with
    | obj fields => exact absurd rfl (hentry fields)
    | null | bool | int | float | str | arr => cases hright
  | obj own rest ihInner ih =>
    intro hright fields hfields
    rw [areEntries, Bool.and_eq_true] at hright
    obtain ⟨hkeys, hnested⟩ := fieldsAreRight_iff hright.1
    rw [checked] at hfields
    split at hfields
    · exact ih hright.2 fields hfields
    · rw [List.append_assoc, List.mem_append, List.mem_append] at hfields
      rcases hfields with hinside | hown | hrest
      · split at hinside
        · rw [checkedInside_eq] at hinside
          cases hlookup : lookup "arguments" own with
          | none =>
            rw [hlookup] at hinside
            cases hinside
          | some value =>
            rw [hlookup] at hinside
            have hlist := hnested value hlookup
            cases value with
            | arr nested => exact ihInner nested hlookup hlist fields hinside
            | null | bool | int | float | str | obj => cases hlist
        · cases hinside
      · rw [List.mem_singleton.1 hown]
        exact hkeys
      · exact ih hright.2 fields hrest

/-- The entries of the arguments of a component. -/
def argumentEntries (fields : List (String × Json)) : List Json :=
  match lookup "arguments" fields with
  | some (.arr entries) => entries
  | _ => []

/-- The failure of the entry of a component. -/
def componentFailure? (leftOut : Json → Bool) : Json → Option Failure
  | .obj fields =>
      if isNamedEntry fields then
        (firstFailure? leftOut (argumentEntries fields)).map (·.located (nameOrNull fields) .null)
      else some (.of (.componentWithoutName (.obj fields)))
  | _ => none

/-- A failure names the component and the argument at fault: the component by its name, and by
theirs the first of the entries of its arguments, in the order in which they are looked at, that is
wrong by itself.  A component without a name is wrong before any of its arguments is looked at. -/
structure Blames (leftOut : Json → Bool) (fields : List (String × Json)) (failure : Failure) :
    Prop where
  component : failure.component = nameOrNull fields
  nameless : isNamedEntry fields = false →
    failure.cause = .componentWithoutName (.obj fields) ∧ failure.argument = .null
  argument : isNamedEntry fields = true →
    ∃ before wrong after, checked leftOut (argumentEntries fields) = before ++ wrong :: after ∧
      (∀ entry ∈ before, IsSound entry) ∧ ¬ IsSound wrong ∧
      ownCause? wrong = some failure.cause ∧ failure.argument = nameOrNull wrong

theorem exists_obj_of_isComponentEntry {entry : Json} (h : entry.isComponentEntry = true) :
    ∃ fields, entry = .obj fields := by
  cases entry with
  | obj fields => exact ⟨fields, rfl⟩
  | null | bool | int | float | str | arr => cases h

theorem areEntries_argumentEntries {fields : List (String × Json)}
    (h : (Json.obj fields).isComponentEntry = true) :
    areEntries (argumentEntries fields) = true ∧
      (lookup "arguments" fields).getD (.arr []) = .arr (argumentEntries fields) := by
  rw [isComponentEntry] at h
  unfold argumentEntries
  cases hlookup : lookup "arguments" fields with
  | none => exact ⟨rfl, rfl⟩
  | some value =>
    rw [hlookup, Option.all_some] at h
    cases value with
    | arr entries => exact ⟨h, rfl⟩
    | null | bool | int | float | str | obj => cases h

/-- The failure of the entry of a component names what is at fault. -/
theorem blames_of_componentFailure? {leftOut : Json → Bool} {fields : List (String × Json)}
    (hright : (Json.obj fields).isComponentEntry = true) {failure : Failure}
    (h : componentFailure? leftOut (.obj fields) = some failure) :
    Blames leftOut fields failure := by
  rw [componentFailure?] at h
  split at h
  · next hnamed =>
    obtain ⟨first, hfirst, rfl⟩ := Option.map_eq_some_iff.1 h
    obtain ⟨before, wrong, after, hsplit, hwrong, hbefore⟩ := List.findSome?_eq_some_iff.1 hfirst
    have hkeys := typesHaveKeys_of_mem_checked leftOut _ (areEntries_argumentEntries hright).1
    rw [hsplit] at hkeys
    obtain ⟨cause, hcause, rfl⟩ := Option.map_eq_some_iff.1 hwrong
    refine ⟨rfl, fun hnameless => ?_, fun _ => ⟨before, wrong, after, hsplit, ?_, ?_, hcause, ?_⟩⟩
    · rw [hnamed] at hnameless
      cases hnameless
    · intro entry hentry
      exact (ownFailure?_eq_none_iff (hkeys entry (List.mem_append_left _ hentry))).1
        (hbefore entry hentry)
    · intro hsound
      have hnone := (ownFailure?_eq_none_iff
        (hkeys wrong (List.mem_append_right _ List.mem_cons_self))).2 hsound
      rw [hwrong] at hnone
      cases hnone
    · show Failure.fill (nameOrNull wrong) .null = nameOrNull wrong
      cases nameOrNull wrong <;> rfl
  · next hnameless =>
    obtain rfl := Option.some.inj h
    rw [Bool.not_eq_true] at hnameless
    refine ⟨(nameOrNull_eq_null_iff.2 hnameless).symm, fun _ => ⟨rfl, rfl⟩, fun hnamed => ?_⟩
    rw [hnameless] at hnamed
    cases hnamed

/-- The entry of a component has no failure just when it has a name and the entries of its
arguments that are looked at are sound. -/
theorem componentFailure?_eq_none_iff (leftOut : Json → Bool) {fields : List (String × Json)}
    (hright : (Json.obj fields).isComponentEntry = true) :
    componentFailure? leftOut (.obj fields) = none ↔
      isNamedEntry fields = true ∧
        ∀ entry ∈ checked leftOut (argumentEntries fields), IsSound entry := by
  have hkeys := typesHaveKeys_of_mem_checked leftOut _ (areEntries_argumentEntries hright).1
  rw [componentFailure?]
  by_cases hnamed : isNamedEntry fields = true
  · rw [if_pos hnamed, Option.map_eq_none_iff, firstFailure?, List.findSome?_eq_none_iff]
    constructor
    · intro h
      exact ⟨hnamed, fun entry hentry => (ownFailure?_eq_none_iff (hkeys entry hentry)).1
        (h entry hentry)⟩
    · rintro ⟨-, h⟩ entry hentry
      exact (ownFailure?_eq_none_iff (hkeys entry hentry)).2 (h entry hentry)
  · rw [if_neg hnamed]
    exact iff_of_false (Option.some_ne_none _) fun h => hnamed h.1

end Json

namespace Component

/-- A component is read, or its failure is that of its entry. -/
theorem failsAs_ofJson (leftOut : Json → Bool) {entry : Json}
    (hright : entry.isComponentEntry = true) :
    FailsAs (Json.componentFailure? leftOut entry) (ofJson (Exclusion.of leftOut) entry) := by
  cases entry with
  | obj fields =>
    obtain ⟨hentries, hlist⟩ := Json.areEntries_argumentEntries hright
    rw [ofJson_obj, hlist, Json.componentFailure?,
      show (Json.fieldOrNull "name" fields).isTruthy = Json.isNamedEntry fields from rfl]
    by_cases hnamed : Json.isNamedEntry fields = true
    · rw [if_pos hnamed, if_pos hnamed, Json.nameOrNull, if_pos hnamed]
      exact ((Argument.failsAs_ofEntries leftOut _ hentries).locate _ _).map
        fun arguments => ⟨_, rfl⟩
    · rw [if_neg hnamed, if_neg hnamed]
      rfl
  | null | bool | int | float | str | arr => cases hright

/-- Some components are read, or the failure is that of the first entry that has one. -/
theorem failsAs_ofEntries (leftOut : Json → Bool) (entries : List Json) :
    (∀ entry ∈ entries, entry.isComponentEntry = true) →
      FailsAs (entries.findSome? (Json.componentFailure? leftOut))
        (ofEntries (Exclusion.of leftOut) entries) := by
  induction entries with
  | nil => exact fun _ => ⟨[], rfl⟩
  | cons entry rest ih =>
    intro hright
    obtain ⟨hentry, hrest⟩ := List.forall_mem_cons.1 hright
    have hread := (failsAs_ofJson leftOut hentry).bind
      fun component _ => (ih hrest).map fun components => ⟨component :: components, rfl⟩
    have hfirst : (entry :: rest).findSome? (Json.componentFailure? leftOut) =
        (Json.componentFailure? leftOut entry).or
          (rest.findSome? (Json.componentFailure? leftOut)) := by
      rw [List.findSome?_cons]
      cases Json.componentFailure? leftOut entry <;> rfl
    rw [hfirst]
    exact hread

end Component

/-- **A failure names the entry at fault.**  A catalog of component entries, whose arguments are in
lists at every depth and whose types have kinds that can be looked up, is read just when each
component has a name and each entry of an argument that is looked at is sound.  Otherwise the
fault is that of the first component that cannot be read by itself.  It is a failure that names this
component, and the first of the entries of its arguments that is wrong by itself; each of them is
null just when it has no name. -/
theorem readCatalog_blames (leftOut : Json → Bool) {entries : List Json}
    (h : ∀ entry ∈ entries, entry.isComponentEntry = true) :
    ((∃ components, readCatalog (Exclusion.of leftOut) (.arr entries) = .ok components) ↔
      ∀ entry ∈ entries, ∃ fields, entry = .obj fields ∧ Json.isNamedEntry fields = true ∧
        ∀ part ∈ Json.checked leftOut (Json.argumentEntries fields), Json.IsSound part) ∧
    ∀ fault, readCatalog (Exclusion.of leftOut) (.arr entries) = .error fault →
      ∃ before fields after failure, fault = .failure failure ∧
        entries = before ++ .obj fields :: after ∧
        (∀ entry ∈ before, ∃ component,
          Component.ofJson (Exclusion.of leftOut) entry = .ok component) ∧
        Component.ofJson (Exclusion.of leftOut) (.obj fields) = .error (.failure failure) ∧
        Json.Blames leftOut fields failure := by
  have hread : FailsAs (entries.findSome? (Json.componentFailure? leftOut))
      (readCatalog (Exclusion.of leftOut) (.arr entries)) :=
    Component.failsAs_ofEntries leftOut entries h
  constructor
  · rw [hread.exists_ok_iff, List.findSome?_eq_none_iff]
    refine forall₂_congr fun entry hentry => ?_
    obtain ⟨fields, rfl⟩ := Json.exists_obj_of_isComponentEntry (h entry hentry)
    rw [Json.componentFailure?_eq_none_iff leftOut (h _ hentry)]
    constructor
    · rintro ⟨hnamed, hsound⟩
      exact ⟨fields, rfl, hnamed, hsound⟩
    · rintro ⟨_, ⟨⟩, hnamed, hsound⟩
      exact ⟨hnamed, hsound⟩
  · intro fault hfault
    obtain ⟨failure, hfirst, rfl⟩ := hread.eq_error_iff.1 hfault
    obtain ⟨before, entry, after, hsplit, hentry, hbefore⟩ := List.findSome?_eq_some_iff.1 hfirst
    have hright : entry.isComponentEntry = true :=
      h entry (hsplit ▸ List.mem_append_right _ List.mem_cons_self)
    obtain ⟨fields, rfl⟩ := Json.exists_obj_of_isComponentEntry hright
    refine ⟨before, fields, after, failure, rfl, hsplit, fun earlier hearlier => ?_, ?_,
      Json.blames_of_componentFailure? hright hentry⟩
    · have hearlierRight : earlier.isComponentEntry = true :=
        h earlier (hsplit ▸ List.mem_append_left _ hearlier)
      exact (Component.failsAs_ofJson leftOut hearlierRight).exists_ok_iff.2
        (hbefore earlier hearlier)
    · exact (Component.failsAs_ofJson leftOut hright).eq_error_iff.2 ⟨failure, hentry, rfl⟩

/-- Entries of which nothing is wrong with the first, and three things with the second: the type of
an argument that is passed over, that of a group and that of an argument in this group. -/
def Json.faultyEntries : List Json :=
  [.obj [("name", .str "pca")],
    .obj [("name", .str "sdca"), ("arguments", .arr [
      .obj [("name", .str "old"), ("type", .str "decimal")],
      .obj [("name", .str "stop"), ("type", .str "decimal"), ("arguments", .arr [
        .obj [("name", .str "seed"), ("type", .str "int")],
        .obj [("name", .str "rate"), ("type", .str "real")]])]])],
    .obj []]

/-- The argument in the group is the one at fault. -/
theorem readCatalog_faultyEntries :
    (∀ entry ∈ Json.faultyEntries, entry.isComponentEntry = true) ∧
    ∃ before fields after failure,
      readCatalog (Exclusion.of (·.same (.str "old"))) (.arr Json.faultyEntries) =
        .error (.failure failure) ∧
      Json.faultyEntries = before ++ .obj fields :: after ∧
      Json.Blames (·.same (.str "old")) fields failure ∧
      failure.component.text = "sdca" ∧ failure.argument.text = "rate" := by
  have hright : ∀ entry ∈ Json.faultyEntries, entry.isComponentEntry = true := by decide +kernel
  have hplace :
      (match readCatalog (Exclusion.of (·.same (.str "old"))) (.arr Json.faultyEntries) with
      | .error (.failure failure) => some (failure.component.text, failure.argument.text)
      | .error (.malformed _) => none
      | .ok _ => none) = some ("sdca", "rate") := by decide +kernel
  cases hread : readCatalog (Exclusion.of (·.same (.str "old"))) (.arr Json.faultyEntries) with
  | ok components =>
    rw [hread] at hplace
    cases hplace
  | error fault =>
    obtain ⟨before, fields, after, failure, rfl, hsplit, -, -, hblames⟩ :=
      (readCatalog_blames _ hright).2 fault hread
    rw [hread] at hplace
    obtain ⟨hcomponent, hargument⟩ := Prod.mk.inj (Option.some.inj hplace)
    exact ⟨hright, before, fields, after, failure, rfl, hsplit, hblames, hcomponent, hargument⟩

end CatalogClasses
