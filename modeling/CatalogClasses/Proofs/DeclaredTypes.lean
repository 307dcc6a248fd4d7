/-
# Types that a catalog declares

Not every schema type has a name in C#: a sequence may lack its item type, and an enumeration,
an object or a column type may lack its name.  A catalog declares no such type.  Each type that
is read from an entry has a name at every depth, and so has the type of whatever is generated
for an argument that fits a shape.  The main statement draws the conclusion: in a walk through
arguments that have been read, nothing fails but classification and default values.

Main definitions:

* `SchemaType.isNameable` : the type and all item types inside it have a name;
* `Json.typesAreNamed` : the names of types in an entry are texts;
* `Argument.IsNameable` : the types of the argument have names.
-/
import CatalogClasses.Proofs.Exclusion
import CatalogClasses.Proofs.Failures
import CatalogClasses.Proofs.TypeNames

namespace CatalogClasses

/-! ## Types with a name -/

/-- The value is a text. -/
def Json.isText : Json → Bool
  | .str _ => true
  | _ => false

/-- The type has a name in C# that is a text: no item type is missing, and where the kind is
known by its name there is a text for it that is not empty. -/
def SchemaType.isNameable : SchemaType → Bool
  | plain kind name _ => !kind.isNamed || (name.isText && name.isTruthy)
  | sequence item _ _ => item.isNameable
  | bareSequence _ _ => false

theorem Json.isText_iff {value : Json} : value.isText = true ↔ ∃ text, value = .str text := by
  cases value <;> simp [isText]

/-- A text keeps being one when it is marked as nullable. -/
theorem withNullable_str (nullable : Bool) (name : String) :
    ∃ marked, withNullable nullable (.str name) = .ok (.str marked) := by
  cases nullable with
  | false => exact ⟨name, rfl⟩
  | true => exact ⟨markNullable name, rfl⟩

namespace SchemaType

/-- A type that is nameable has a name. -/
theorem spelled_of_isNameable {type : SchemaType} (h : type.isNameable = true) :
    ∃ name, type.spelled = .ok (.str name) := by
  induction type with
  | plain kind name nullable =>
    rw [spelled]
    cases hkeyword : kind.keyword? with
    | some keyword => exact withNullable_str nullable keyword
    | none =>
      have hnamed : kind.isNamed = true := by
        cases kind <;> first | rfl | cases hkeyword
      rw [isNameable, hnamed, Bool.not_true, Bool.false_or, Bool.and_eq_true] at h
      obtain ⟨htext, htruthy⟩ := h
      obtain ⟨text, rfl⟩ := Json.isText_iff.1 htext
      simp only [htruthy, if_true]
      exact withNullable_str nullable text
  | sequence item name nullable ih =>
    obtain ⟨itemName, hitem⟩ := ih h
    rw [spelled, hitem, ok_bind]
    exact withNullable_str nullable _
  | bareSequence name nullable => cases h

/-- The same type without a null value is as nameable. -/
theorem isNameable_required (type : SchemaType) : type.required.isNameable = type.isNameable := by
  cases type <;> rfl

/-- A type over the primitive kinds is nameable. -/
theorem isNameable_of_isOver {type : SchemaType}
    (h : type.isOver PlainKind.isPrimitive = true) : type.isNameable = true := by
  induction type with
  | plain kind name nullable =>
    have hnamed : (!kind.isNamed) = true := h
    rw [isNameable, hnamed, Bool.true_or]
  | sequence item name nullable ih => exact ih h
  | bareSequence name nullable => cases h

/-- The item type of a nameable type is nameable. -/
theorem isNameable_of_item? {type item : SchemaType} (h : type.isNameable = true)
    (hitem : type.item? = some item) : item.isNameable = true := by
  cases type with
  | sequence other name nullable =>
    obtain rfl := Option.some.inj hitem
    exact h
  | plain | bareSequence => cases hitem

end SchemaType

/-! ## Entries whose types have texts as their names -/

namespace Json

/-- A value found in a list of fields is one of its values. -/
theorem mem_of_lookup {key : String} {fields : List (String × Json)} {value : Json}
    (h : lookup key fields = some value) : (key, value) ∈ fields := by
  induction fields with
  | nil => cases h
  | cons field rest ih =>
    obtain ⟨k, v⟩ := field
    rw [lookup] at h
    split at h
    · next hkey =>
      obtain rfl := Option.some.inj h
      rw [hkey]
      exact List.mem_cons_self
    · exact List.mem_cons_of_mem _ (ih h)

mutual

/-- In the declaration of a type and in those of its item types, each name is a text. -/
def namesAreTexts : Json → Bool
  | .obj fields => fieldsNameTexts fields
  | _ => true

/-- Among the fields of the declaration of a type, each name is a text, also in the item
type. -/
def fieldsNameTexts : List (String × Json) → Bool
  | [] => true
  | (key, value) :: rest =>
      (key != "name" || value.isText) && (key != "item" || namesAreTexts value) &&
        fieldsNameTexts rest

end

mutual

/-- In the entry of an argument and in those nested in it, the names of types are texts. -/
def typesAreNamed : Json → Bool
  | .obj fields => fieldsNameTypes fields
  | .arr entries => entriesNameTypes entries
  | _ => true

/-- Among the fields of the entry of an argument, the names of types are texts, also in the
entries nested in it. -/
def fieldsNameTypes : List (String × Json) → Bool
  | [] => true
  | (key, value) :: rest =>
      ((key != "type" && key != "item_type") || namesAreTexts value) &&
        (key != "arguments" || typesAreNamed value) && fieldsNameTypes rest

/-- In each of the entries, the names of types are texts. -/
def entriesNameTypes : List Json → Bool
  | [] => true
  | entry :: rest => typesAreNamed entry && entriesNameTypes rest

end

theorem fieldsNameTexts_iff {fields : List (String × Json)} :
    fieldsNameTexts fields = true ↔ ∀ field ∈ fields,
      (field.1 = "name" → field.2.isText = true) ∧
        (field.1 = "item" → field.2.namesAreTexts = true) := by
  induction fields with
  | nil => simp [fieldsNameTexts]
  | cons field rest ih =>
    obtain ⟨key, value⟩ := field
    simp [fieldsNameTexts, ih, Decidable.imp_iff_not_or]

theorem fieldsNameTypes_iff {fields : List (String × Json)} :
    fieldsNameTypes fields = true ↔ ∀ field ∈ fields,
      (field.1 = "type" ∨ field.1 = "item_type" → field.2.namesAreTexts = true) ∧
        (field.1 = "arguments" → field.2.typesAreNamed = true) := by
  induction fields with
  | nil => simp [fieldsNameTypes]
  | cons field rest ih =>
    obtain ⟨key, value⟩ := field
    simp [fieldsNameTypes, ih, Decidable.imp_iff_not_or]

theorem entriesNameTypes_iff {entries : List Json} :
    entriesNameTypes entries = true ↔ ∀ entry ∈ entries, entry.typesAreNamed = true := by
  induction entries with
  | nil => simp [entriesNameTypes]
  | cons entry rest ih => simp [entriesNameTypes, ih]

/-- Where the names in a declaration are texts, so is the name it gives. -/
theorem isText_of_lookup_name {fields : List (String × Json)} (h : fieldsNameTexts fields = true) :
    ((lookup "name" fields).getD (.str "")).isText = true := by
  cases hname : lookup "name" fields with
  | none => rfl
  | some name => exact (fieldsNameTexts_iff.1 h _ (mem_of_lookup hname)).1 rfl

/-- Where the names of types in an entry are texts, so are those in a type that it declares. -/
theorem namesAreTexts_of_lookup {fields : List (String × Json)} {key : String} {entry : Json}
    (h : fieldsNameTypes fields = true) (hkey : key = "type" ∨ key = "item_type")
    (hlookup : lookup key fields = some entry) : entry.namesAreTexts = true :=
  (fieldsNameTypes_iff.1 h _ (mem_of_lookup hlookup)).1 hkey

end Json

/-! ## Types that are read -/

/-- **A type that a catalog declares is nameable**, if the names that it gives are texts. -/
theorem SchemaType.isNameable_of_ofJson (argument entry : Json) :
    entry.namesAreTexts = true → ∀ {type}, ofJson argument entry = .ok type →
      type.isNameable = true := by
  fun_induction ofJson argument entry with
  | case1 text =>
    intro _ type h
    exact isNameable_of_isOver (isOver_of_ofText argument text.toList h).1
  | case2 fields ih =>
    intro hnames type h
    rw [Json.namesAreTexts] at hnames
    obtain ⟨kind, -, h⟩ := bind_eq_ok_iff.1 h
    cases kind with
    | plain kind =>
      simp only at h
      split at h
      · cases h
      · next htruthy =>
        obtain rfl := Except.ok.inj h
        rw [isNameable, Json.isText_of_lookup_name hnames, Bool.true_and]
        simpa [Decidable.or_iff_not_imp_left] using htruthy
    | sequence =>
      simp only at h
      split at h
      · cases h
      · next item hitem =>
        obtain ⟨itemType, hitemType, h⟩ := bind_eq_ok_iff.1 h
        obtain rfl := Except.ok.inj h
        have hitemNames := (Json.fieldsNameTexts_iff.1 hnames _ (Json.mem_of_lookup hitem)).2 rfl
        have hnameable := ih item hitem hitemNames hitemType
        exact hnameable
  | case3 entry hstr hobj =>
    intro _ type h
    cases h

/-- The types of an argument are nameable, and a group has one. -/
structure Argument.IsNameable (argument : Argument) : Prop where
  fieldType : ∀ type, argument.declaration.fieldType = some type → type.isNameable = true
  itemType : ∀ type, argument.declaration.itemType = some type → type.isNameable = true
  group : argument.nested?.isSome → argument.declaration.fieldType.isSome

/-- The type that an entry declares is nameable, and for a group there is one. -/
theorem isNameable_of_declaredType {name : Json} {fields : List (String × Json)} {isGroup : Bool}
    (hnames : Json.fieldsNameTypes fields = true) {type? : Option SchemaType}
    (h : declaredType name fields isGroup = .ok type?) :
    (∀ type, type? = some type → type.isNameable = true) ∧ (isGroup = true → type?.isSome) := by
  unfold declaredType at h
  split at h
  · next entry hentry =>
    obtain ⟨type, htype, h⟩ := bind_eq_ok_iff.1 h
    obtain rfl := Except.ok.inj h
    refine ⟨?_, fun _ => rfl⟩
    rintro _ ⟨⟩
    exact SchemaType.isNameable_of_ofJson name entry
      (Json.namesAreTexts_of_lookup hnames (.inl rfl) hentry) htype
  · split at h
    · cases h
    · next hgroup =>
      obtain rfl := Except.ok.inj h
      exact ⟨nofun, fun hisGroup => absurd hisGroup hgroup⟩

/-- The type of one element is nameable, if the declared type is. -/
theorem isNameable_of_elementType {name : Json} {fields : List (String × Json)}
    {isCollection : Bool} {fieldType type? : Option SchemaType}
    (hnames : Json.fieldsNameTypes fields = true)
    (hfield : ∀ type, fieldType = some type → type.isNameable = true)
    (h : elementType name fields isCollection fieldType = .ok type?) :
    ∀ type, type? = some type → type.isNameable = true := by
  unfold elementType at h
  split at h
  · split at h
    · next entry hentry =>
      obtain ⟨type, htype, h⟩ := bind_eq_ok_iff.1 h
      obtain rfl := Except.ok.inj h
      rintro _ ⟨⟩
      exact SchemaType.isNameable_of_ofJson name entry
        (Json.namesAreTexts_of_lookup hnames (.inr rfl) hentry) htype
    · split at h
      · next type =>
        obtain rfl := Except.ok.inj h
        intro item hitem
        split at hitem
        · exact SchemaType.isNameable_of_item? (hfield type rfl) hitem
        · exact hfield item hitem
      · obtain rfl := Except.ok.inj h
        nofun
  · obtain rfl := Except.ok.inj h
    exact hfield

/-- The types that an entry declares are nameable, and for a group there is one. -/
theorem isNameable_of_ofFields {name : Json} {fields : List (String × Json)} {isGroup : Bool}
    (hnames : Json.fieldsNameTypes fields = true) {declaration : Declaration}
    (h : Declaration.ofFields name fields isGroup = .ok declaration) :
    (∀ type, declaration.fieldType = some type → type.isNameable = true) ∧
      (∀ type, declaration.itemType = some type → type.isNameable = true) ∧
      (isGroup = true → declaration.fieldType.isSome) := by
  unfold Declaration.ofFields at h
  obtain ⟨fieldType, hfieldType, h⟩ := bind_eq_ok_iff.1 h
  obtain ⟨itemType, hitemType, h⟩ := bind_eq_ok_iff.1 h
  obtain rfl := Except.ok.inj h
  obtain ⟨hfield, hgroup⟩ := isNameable_of_declaredType hnames hfieldType
  exact ⟨hfield, isNameable_of_elementType hnames hfield hitemType, hgroup⟩

/-! ## Arguments that are read -/

namespace Argument

/-- What is true of an argument that is read from an entry, and of all that are read from those
nested in it, is true of the argument and all arguments inside it. -/
theorem forall_tree_of_ofJson_obj {property : Argument → Prop} {exclusion : Exclusion}
    {fields : List (String × Json)} {argument : Argument} (hown : property argument)
    (hinner : ∀ entries arguments, Json.lookup "arguments" fields = some (.arr entries) →
      ofEntries exclusion entries = .ok arguments → ∀ part ∈ forest arguments, property part)
    (h : ofJson exclusion (.obj fields) = .ok argument) :
    ∀ part ∈ argument.tree, property part := by
  rw [ofJson_obj] at h
  split at h
  · split at h
    · obtain ⟨declaration, -, h⟩ := bind_eq_ok_iff.1 h
      obtain rfl := Except.ok.inj h
      exact List.forall_mem_singleton.2 hown
    · next value hlookup =>
      obtain ⟨arguments, harguments, h⟩ := bind_eq_ok_iff.1 h
      obtain ⟨declaration, -, h⟩ := bind_eq_ok_iff.1 h
      obtain rfl := Except.ok.inj h
      refine List.forall_mem_cons.2 ⟨hown, ?_⟩
      by_cases hlist : ∃ entries, value = .arr entries
      · obtain ⟨entries, rfl⟩ := hlist
        exact hinner entries arguments hlookup harguments
      · rw [ofList_of_ne fun entries heq => hlist ⟨entries, heq⟩] at harguments
        obtain rfl := eq_nil_of_noEntries harguments
        nofun
  · cases h

/-- **What is true of each argument on its own is true at every depth.**  Let entries be of some
sort, and those nested in them as well.  What is true of an argument whenever it is read from an
entry of this sort is true of all arguments that are read, and of all inside them. -/
theorem forall_forest_of_ofEntries {sort : Json → Prop} {property : Argument → Prop}
    {exclusion : Exclusion}
    (hown : ∀ fields argument, sort (.obj fields) →
      ofJson exclusion (.obj fields) = .ok argument → property argument)
    (hnested : ∀ fields entries, sort (.obj fields) →
      Json.lookup "arguments" fields = some (.arr entries) → ∀ entry ∈ entries, sort entry)
    (entries : List Json) :
    (∀ entry ∈ entries, sort entry) → ∀ {arguments},
      ofEntries exclusion entries = .ok arguments → ∀ part ∈ forest arguments, property part := by
  induction entries using Json.entries_induction with
  | nil =>
    intro _ arguments h
    rw [ofEntries] at h
    obtain rfl := Except.ok.inj h
    intro part hpart
    cases hpart
  | obj fields rest ihInner ih =>
    intro hsort arguments h
    obtain ⟨hfields, hrest⟩ := List.forall_mem_cons.1 hsort
    rw [ofEntries_obj] at h
    obtain ⟨passedOver, -, h⟩ := bind_eq_ok_iff.1 h
    split at h
    · exact ih hrest h
    · obtain ⟨argument, hargument, h⟩ := bind_eq_ok_iff.1 h
      obtain ⟨others, hothers, h⟩ := bind_eq_ok_iff.1 h
      obtain rfl := Except.ok.inj h
      rw [forest_cons, List.forall_mem_append]
      refine ⟨forall_tree_of_ofJson_obj (hown fields argument hfields hargument) ?_ hargument,
        ih hrest hothers⟩
      intro entries inner hlookup hinner
      exact ihInner entries hlookup (hnested fields entries hfields hlookup) hinner
  | other entry rest hentry =>
    intro _ arguments h
    rw [ofEntries_of_ne hentry] at h
    cases h

/-- An entry declares a nameable member or a nameable group. -/
theorem isNameable_of_ofJson_obj {exclusion : Exclusion} {fields : List (String × Json)}
    (hnames : Json.fieldsNameTypes fields = true) {argument : Argument}
    (h : ofJson exclusion (.obj fields) = .ok argument) : argument.IsNameable := by
  rw [ofJson_obj] at h
  split at h
  · split at h
    · obtain ⟨declaration, hdeclaration, h⟩ := bind_eq_ok_iff.1 h
      obtain rfl := Except.ok.inj h
      obtain ⟨hfield, hitem, -⟩ := isNameable_of_ofFields hnames hdeclaration
      exact ⟨hfield, hitem, nofun⟩
    · obtain ⟨arguments, -, h⟩ := bind_eq_ok_iff.1 h
      obtain ⟨declaration, hdeclaration, h⟩ := bind_eq_ok_iff.1 h
      obtain rfl := Except.ok.inj h
      obtain ⟨hfield, hitem, hgroup⟩ := isNameable_of_ofFields hnames hdeclaration
      exact ⟨hfield, hitem, fun _ => hgroup rfl⟩
  · cases h

/-- Arguments that are read from a list of entries are nameable, at every depth. -/
theorem isNameable_of_ofEntries (exclusion : Exclusion) {entries : List Json}
    (hnames : Json.entriesNameTypes entries = true) {arguments : List Argument}
    (h : ofEntries exclusion entries = .ok arguments) :
    ∀ part ∈ forest arguments, part.IsNameable := by
  refine forall_forest_of_ofEntries (fun fields argument hfields => ?_) ?_ entries
    (Json.entriesNameTypes_iff.1 hnames) h
  · rw [Json.typesAreNamed] at hfields
    exact isNameable_of_ofJson_obj hfields
  · intro fields nested hfields hlookup
    rw [Json.typesAreNamed] at hfields
    have hnested := (Json.fieldsNameTypes_iff.1 hfields _ (Json.mem_of_lookup hlookup)).2 rfl
    exact Json.entriesNameTypes_iff.1 hnested

/-- **An argument that is read is nameable**, and so are all arguments inside it. -/
theorem isNameable_of_ofJson {exclusion : Exclusion} {entry : Json}
    (hnames : entry.typesAreNamed = true) {argument : Argument}
    (h : ofJson exclusion entry = .ok argument) : ∀ part ∈ argument.tree, part.IsNameable := by
  cases entry with
  | obj fields =>
    rw [Json.typesAreNamed] at hnames
    refine forall_tree_of_ofJson_obj (isNameable_of_ofJson_obj hnames h) ?_ h
    intro entries arguments hlookup harguments
    have hnested := (Json.fieldsNameTypes_iff.1 hnames _ (Json.mem_of_lookup hlookup)).2 rfl
    exact isNameable_of_ofEntries exclusion hnested harguments
  | null | bool | int | float | str | arr =>
    rw [ofJson] at h
    · cases h
    · intro fields hfields
      cases hfields

/-- A member that fits a shape has a type for its elements. -/
theorem itemType_of_memberShape {declaration : Declaration} {shape : Shape}
    (h : declaration.memberShape = .ok shape) : declaration.itemType.isSome := by
  unfold Declaration.memberShape at h
  split at h
  · cases h
  · next htype => rw [htype]; rfl
  · cases h
  · next htype => rw [htype]; rfl

/-- A member is a collection of texts only if its declared type is a sequence of them. -/
theorem fieldType_of_stringCollection {declaration : Declaration}
    (h : declaration.memberShape = .ok .stringCollection) : declaration.fieldType.isSome := by
  unfold Declaration.memberShape at h
  split at h
  · cases h
  · cases h
  · cases h
  · split at h
    · cases h
    · split at h
      · next hany =>
        -- a type that is a sequence of strings is there
        cases htype : declaration.fieldType with
        | some type => rfl
        | none =>
          rw [htype] at hany
          cases hany
      · cases h

/-- Where the type of an element is nameable, the type that reads a column has a name. -/
theorem columnType_of_isNameable {declaration : Declaration} {itemType : SchemaType}
    (htype : declaration.itemType = some itemType) (h : itemType.isNameable = true) :
    ∃ name, declaration.columnType = .ok (.str name) := by
  rw [← itemType.isNameable_required] at h
  unfold Declaration.columnType
  rw [htype]
  exact SchemaType.spelled_of_isNameable h

/-- What is generated for a nameable argument that fits a shape has a type with a name. -/
theorem typeName_of_isNameable {argument : Argument} (h : argument.IsNameable) {shape : Shape}
    (hshape : argument.classify = .ok shape) (options : Options) :
    ∃ name, argument.declaration.typeName options shape = .ok (.str name) := by
  have hspelled : ∀ {type? : Option SchemaType}, type?.isSome →
      (∀ type, type? = some type → type.isNameable = true) →
      ∃ name, spelledType type? = .ok (.str name) := by
    intro type? hsome htype
    obtain ⟨type, rfl⟩ := Option.isSome_iff_exists.1 hsome
    exact SchemaType.spelled_of_isNameable (htype type rfl)
  cases argument with
  | group declaration arguments =>
    rw [classify_group hshape]
    exact hspelled (h.group rfl) h.fieldType
  | member declaration =>
    obtain ⟨hmember, -⟩ := classify_member hshape
    have hitem := itemType_of_memberShape hmember
    obtain ⟨itemType, hitemType⟩ := Option.isSome_iff_exists.1 hitem
    have hnameable := h.itemType itemType hitemType
    cases shape with
    | scalar => exact hspelled hitem h.itemType
    | columnCollection =>
      obtain ⟨column, hcolumn⟩ := columnType_of_isNameable hitemType hnameable
      refine ⟨"string[]", ?_⟩
      show declaration.columnType >>= _ = _
      rw [hcolumn]
      rfl
    | stringCollection => exact hspelled (fieldType_of_stringCollection hmember) h.fieldType
    | genericCollection =>
      show ∃ name, (if options.lift.isTruthy = true then spelledType declaration.itemType
        else (SchemaType.sequenceOf declaration.itemType).spelled) = .ok (.str name)
      split
      · exact hspelled hitem h.itemType
      · have hsequence : (SchemaType.sequenceOf (some itemType)).isNameable = true := hnameable
        rw [hitemType]
        exact SchemaType.spelled_of_isNameable hsequence
    | group => exact absurd rfl (Declaration.memberShape_ne_group hmember)

end Argument

/-! ## What fails in a walk -/

/-- If the fault is a failure, a default is no value of its type. -/
def Fault.IsOfDefault : Fault → Prop
  | .failure f => f.cause.isOfDefault = true
  | .malformed _ => True

namespace SchemaType

/-- All item types inside a nameable type are nameable. -/
theorem isNameable_of_mem_itemTypes {type : SchemaType} (h : type.isNameable = true) :
    ∀ item ∈ type.itemTypes, item.isNameable = true := by
  induction type with
  | plain kind name nullable => nofun
  | sequence item name nullable ih => exact List.forall_mem_cons.2 ⟨h, ih h⟩
  | bareSequence name nullable => nofun

/-- The literal of a value for a nameable type fails over the value alone. -/
theorem literal?_of_isNameable {type : SchemaType} (h : type.isNameable = true) (value : Json) :
    FaultsIn Fault.IsOfDefault (literal? value type) := by
  refine faultsIn_literal? trivial (fun cause hcause => hcause) type ?_ value
  intro item hitem
  obtain ⟨name, hname⟩ := spelled_of_isNameable (isNameable_of_mem_itemTypes h item hitem)
  rw [hname]
  exact .ok _

end SchemaType

namespace Argument

/-- The initial value of a nameable argument that fits a shape fails over its default alone. -/
theorem initializer_of_isNameable {argument : Argument} (h : argument.IsNameable) {shape : Shape}
    (hshape : argument.classify = .ok shape) (options : Options) :
    FaultsIn Fault.IsOfDefault (argument.declaration.initializer options shape) := by
  refine faultsIn_initializer (fun cause hcause => hcause) (fun _ => trivial) options
    (fun type htype => SchemaType.literal?_of_isNameable (h.itemType type htype))
    (fun type htype => SchemaType.literal?_of_isNameable (h.fieldType type htype)) ?_
  rintro rfl
  cases argument with
  | group declaration arguments => cases classify_group hshape
  | member declaration =>
    -- a collection has a type for its elements, so there is one for the sequence of them
    have hitem := itemType_of_memberShape (classify_member hshape).1
    obtain ⟨itemType, hitemType⟩ := Option.isSome_iff_exists.1 hitem
    have hsequence : (SchemaType.sequenceOf (some itemType)).isNameable = true :=
      h.itemType itemType hitemType
    rw [show (Argument.member declaration).declaration.itemType = some itemType from hitemType]
    exact SchemaType.literal?_of_isNameable hsequence

/-- A failure in resolving a nameable argument is one of its classification or of its default. -/
theorem resolve_of_isNameable {argument : Argument} (h : argument.IsNameable) {options : Options}
    {suffix : String} {failure : Failure}
    (hfailure : argument.resolve options suffix = .error (.failure failure)) :
    argument.classify = .error (.failure failure) ∨
      failure.cause.isOfDefault = true ∧ ∃ shape, argument.classify = .ok shape ∧
        argument.declaration.initializer options shape = .error (.failure failure) := by
  cases hshape : argument.classify with
  | error fault =>
    rw [resolve, hshape, error_bind] at hfailure
    obtain rfl := Except.error.inj hfailure
    exact .inl rfl
  | ok shape =>
    obtain ⟨typeName, htypeName⟩ := typeName_of_isNameable h hshape options
    rw [resolve, hshape, ok_bind, htypeName, ok_bind] at hfailure
    right
    cases hname : memberName argument.declaration.longName with
    | error fault =>
      -- a name that is no text is malformed
      rw [hname, error_bind] at hfailure
      obtain rfl := Except.error.inj hfailure
      unfold memberName at hname
      split at hname <;> cases hname
    | ok longName =>
      rw [hname, ok_bind] at hfailure
      cases hinitializer : argument.declaration.initializer options shape with
      | ok initializer =>
        rw [hinitializer] at hfailure
        cases hfailure
      | error fault =>
        rw [hinitializer] at hfailure
        obtain rfl := Except.error.inj hfailure
        have hdefault := initializer_of_isNameable h hshape options _ hinitializer
        exact ⟨hdefault, shape, rfl, hinitializer⟩

/-- **Types that are read have names.**  Let arguments be read from entries in which the names of
types are texts.  Each argument among them or inside them that fits a shape is generated with a
type that has a name, whatever the options are; so has each type that is declared for it, at
every depth.  If a walk through the arguments ends with a failure, then an argument fits no
shape, or its default is no value of its type. -/
theorem typeNames_of_read {exclusion : Exclusion} {arguments : List Argument}
    (hread : ∀ argument ∈ arguments, ∃ entry, entry.typesAreNamed = true ∧
      ofJson exclusion entry = .ok argument) :
    (∀ part ∈ forest arguments, ∀ shape, part.classify = .ok shape → ∀ options : Options,
      ∃ name, part.declaration.typeName options shape = .ok (.str name)) ∧
    (∀ part ∈ forest arguments, ∀ type,
      part.declaration.fieldType = some type ∨ part.declaration.itemType = some type →
      ∀ inner ∈ type :: type.itemTypes, ∃ name, inner.spelled = .ok (.str name)) ∧
    ∀ (walker : Walker) (start : String) (failure : Failure),
      (walker.walk start arguments).fault = some (.failure failure) →
      ∃ part ∈ forest arguments, ∃ own, failure = own.located walker.component part.longName ∧
        (part.classify = .error (.failure own) ∨
          own.cause.isOfDefault = true ∧ ∃ shape, part.classify = .ok shape ∧
            part.declaration.initializer walker.options shape = .error (.failure own)) := by
  have hnameable : ∀ part ∈ forest arguments, part.IsNameable := by
    induction arguments with
    | nil => nofun
    | cons first rest ih =>
      obtain ⟨⟨entry, hnames, hentry⟩, hrest⟩ := List.forall_mem_cons.1 hread
      rw [forest_cons, List.forall_mem_append]
      exact ⟨isNameable_of_ofJson hnames hentry, ih hrest⟩
  refine ⟨?_, ?_, ?_⟩
  · intro part hpart shape hshape options
    exact typeName_of_isNameable (hnameable part hpart) hshape options
  · intro part hpart type htype inner hinner
    have h : type.isNameable = true := by
      rcases htype with htype | htype
      · exact (hnameable part hpart).fieldType type htype
      · exact (hnameable part hpart).itemType type htype
    apply SchemaType.spelled_of_isNameable
    rcases List.mem_cons.1 hinner with rfl | hinner
    · exact h
    · exact SchemaType.isNameable_of_mem_itemTypes h inner hinner
  · intro walker start failure hfault
    obtain ⟨part, hpart, suffix, own, hresolve, hlocated⟩ :=
      Walker.failsIn_forest arguments start failure hfault
    exact ⟨part, hpart, own, hlocated, resolve_of_isNameable (hnameable part hpart) hresolve⟩

end Argument

/-- A group of columns, of a collection with an item type of its own, and of a number whose
default is a list. -/
def Json.solverEntry : Json :=
  .obj [("name", .str "solver"), ("type", .obj [("kind", .str "object"), ("name", .str "Solver")]),
    ("arguments", .arr [
      .obj [("name", .str "columns"), ("collection", .bool true),
        ("type", .obj [("kind", .str "column"), ("name", .str "Column")])],
      .obj [("name", .str "modes"), ("type", .str "float?[]"),
        ("item_type", .obj [("kind", .str "sequence"), ("nullable", .bool true),
          ("item", .obj [("kind", .str "enum"), ("name", .str "Mode")])])],
      .obj [("name", .str "rank"), ("type", .str "int"), ("default", .arr [.int 1])]])]

/-- All types of the group have names, and the walk through it fails at the default alone. -/
theorem Argument.typeNames_of_solverEntry :
    Json.solverEntry.typesAreNamed = true ∧
    ∃ argument failure, ofJson none Json.solverEntry = .ok argument ∧
      argument.tree.map (fun part => part.longName.text) =
        ["solver", "columns", "modes", "rank"] ∧
      (∀ part ∈ forest [argument], ∀ shape, part.classify = .ok shape → ∀ options : Options,
        ∃ name, part.declaration.typeName options shape = .ok (.str name)) ∧
      (Walker.walk ⟨.standard, .str "pca"⟩ "" [argument]).fault = some (.failure failure) ∧
      (failure.argument.text, failure.cause.category) = ("rank", .unmapped) ∧
      ∃ part ∈ forest [argument], ∃ own, failure = own.located (.str "pca") part.longName ∧
        (part.classify = .error (.failure own) ∨
          own.cause.isOfDefault = true ∧ ∃ shape, part.classify = .ok shape ∧
            part.declaration.initializer .standard shape = .error (.failure own)) := by
  have hnames : Json.solverEntry.typesAreNamed = true := by decide +kernel
  have hok : (ofJson none Json.solverEntry).isOk = true := by decide +kernel
  have htree : (ofJson none Json.solverEntry).toOption.map
      (fun argument => argument.tree.map (fun part => part.longName.text)) =
        some ["solver", "columns", "modes", "rank"] := by decide +kernel
  have hwalk : (ofJson none Json.solverEntry).toOption.bind (fun argument =>
      (Walker.walk ⟨.standard, .str "pca"⟩ "" [argument]).fault.bind fun
        | .failure failure => some (failure.argument.text, failure.cause.category)
        | .malformed _ => none) = some ("rank", .unmapped) := by decide +kernel
  obtain ⟨argument, hargument⟩ := exists_of_isOk hok
  rw [hargument] at htree hwalk
  have hread : ∀ other ∈ [argument], ∃ entry : Json, entry.typesAreNamed = true ∧
      ofJson none entry = .ok other := by
    intro other hother
    obtain rfl := List.mem_singleton.1 hother
    exact ⟨_, hnames, hargument⟩
  obtain ⟨htypes, -, hfails⟩ := typeNames_of_read hread
  obtain ⟨_, ⟨⟩, hfault⟩ := Option.bind_eq_some_iff.1 hwalk
  obtain ⟨fault, hfault, hplace⟩ := Option.bind_eq_some_iff.1 hfault
  rcases fault with failure | _
  · exact ⟨hnames, argument, failure, hargument, Option.some.inj htree, htypes, hfault,
      Option.some.inj hplace, hfails _ "" failure hfault⟩
  · cases hplace

end CatalogClasses
