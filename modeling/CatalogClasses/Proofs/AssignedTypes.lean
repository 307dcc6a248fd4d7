/-
# Types on both sides of an assignment

What is generated for an argument has a type of its own: a single value stands for a collection,
and columns are texts.  The statement that assigns it makes up for this.  It wraps the value in an
array, or reads the texts one by one, and so comes back to the type that the catalog has declared,
but for question marks.  The main statement says so of every argument whose entry declares no more
than a type, and that the initial value is written for the type of what is generated.

Main definitions:

* `Declaration.memberType` : the type of what is generated for an argument;
* `Assigned` : the ways of assigning a member, each with the type of what it assigns;
* `withoutMarks` : the name of a type without question marks.
-/
import CatalogClasses.Proofs.DeclaredTypes
import CatalogClasses.Proofs.LiteralLines

namespace CatalogClasses

/-! ## Names without question marks -/

/-- The name of a type without its question marks. -/
def withoutMarks (name : String) : String := String.ofList (name.toList.filter (· != '?'))

theorem withoutMarks_append (first second : String) :
    withoutMarks (first ++ second) = withoutMarks first ++ withoutMarks second := by
  rw [withoutMarks, String.toList_append, List.filter_append, String.ofList_append]
  rfl

/-- A name is marked with a question mark at most. -/
theorem withoutMarks_of_withNullable {nullable : Bool} {name marked : String}
    (h : withNullable nullable (.str name) = .ok (.str marked)) :
    withoutMarks marked = withoutMarks name := by
  cases nullable with
  | false =>
    cases h
    rfl
  | true =>
    cases h
    rw [markNullable]
    split
    · rfl
    · rw [withoutMarks_append, show withoutMarks "?" = "" from rfl, String.append_empty]

namespace SchemaType

/-- The name of a sequence is that of its item type with brackets, but for question marks. -/
theorem withoutMarks_sequence {item : SchemaType} {itemName : String}
    (hitem : item.spelled = .ok (.str itemName)) {name : Json} {nullable : Bool} {text : String}
    (h : (sequence item name nullable).spelled = .ok (.str text)) :
    withoutMarks text = withoutMarks (itemName ++ "[]") := by
  rw [spelled, hitem, ok_bind] at h
  exact withoutMarks_of_withNullable h

/-- A type and the same type without a null value have one name, but for question marks. -/
theorem withoutMarks_required {type : SchemaType} {text required : String}
    (h : type.spelled = .ok (.str text)) (hrequired : type.required.spelled = .ok (.str required)) :
    withoutMarks required = withoutMarks text := by
  have hunmarked : ∀ {nullable : Bool} {name : Json},
      withNullable nullable name = .ok (.str text) →
      withNullable false name = .ok (.str required) → withoutMarks required = withoutMarks text := by
    rintro nullable name hname ⟨⟩
    exact (withoutMarks_of_withNullable hname).symm
  cases type with
  | plain kind name nullable =>
    rw [spelled] at h
    rw [SchemaType.required, spelled] at hrequired
    split at h
    · next hkeyword =>
      simp only [hkeyword] at hrequired
      exact hunmarked h hrequired
    · next hkeyword =>
      simp only [hkeyword] at hrequired
      split at h
      · next htruthy =>
        rw [if_pos htruthy] at hrequired
        exact hunmarked h hrequired
      · cases h
  | sequence item name nullable =>
    obtain ⟨itemName, hitem, h⟩ := bind_eq_ok_iff.1 h
    rw [SchemaType.required, spelled, hitem, ok_bind] at hrequired
    exact hunmarked h hrequired
  | bareSequence name nullable => cases h

end SchemaType

/-! ## The type of a member -/

namespace Declaration

/-- The type of what is generated for an argument. -/
def memberType (options : Options) (declaration : Declaration) : Shape → Option SchemaType
  | .scalar => declaration.itemType
  | .columnCollection => some SchemaType.strings
  | .stringCollection | .group => declaration.fieldType
  | .genericCollection =>
      if options.lift.isTruthy then declaration.itemType
      else some (SchemaType.sequenceOf declaration.itemType)

variable {options : Options} {declaration : Declaration} {shape : Shape}

/-- What is generated for an argument is declared with the name of its type. -/
theorem spelledType_memberType {name : Json}
    (h : declaration.typeName options shape = .ok name) :
    spelledType (declaration.memberType options shape) = .ok name := by
  cases shape with
  | scalar | stringCollection | group => exact h
  | columnCollection =>
    obtain ⟨column, -, h⟩ := bind_eq_ok_iff.1 h
    exact h
  | genericCollection =>
    simp only [typeName] at h
    simp only [memberType]
    split at h
    · next hlift => rwa [if_pos hlift]
    · next hlift =>
      rw [if_neg hlift]
      exact h

/-- What is generated for an argument has a type. -/
theorem exists_memberType {name : String}
    (h : declaration.typeName options shape = .ok (.str name)) :
    ∃ member, declaration.memberType options shape = some member ∧
      member.spelled = .ok (.str name) := by
  have hspelled := spelledType_memberType h
  cases hmember : declaration.memberType options shape with
  | some member =>
    rw [hmember] at hspelled
    exact ⟨member, rfl, hspelled⟩
  | none =>
    rw [hmember] at hspelled
    cases hspelled

/-- The type that columns are read by has a name. -/
theorem columnType_of_columnCollection
    (htypes : ∀ itemType, declaration.itemType = some itemType → itemType.isNameable = true)
    (h : declaration.memberShape = .ok .columnCollection) :
    declaration.columnType = .ok (.str declaration.columnName.text) := by
  obtain ⟨itemType, hitem⟩ := Option.isSome_iff_exists.1 (Argument.itemType_of_memberShape h)
  obtain ⟨name, hname⟩ := Argument.columnType_of_isNameable hitem (htypes itemType hitem)
  rw [columnName, hname]
  rfl

/-- An initial value is written for the type of what is generated. -/
theorem type_of_written {value : Json} {type? : Option SchemaType}
    (h : declaration.written? options shape = some (value, type?)) :
    type? = declaration.memberType options shape := by
  unfold written? at h
  split at h
  · cases h
  · cases h
  · cases shape with
    | group => cases h
    | scalar | stringCollection | columnCollection =>
      cases h
      rfl
    | genericCollection =>
      simp only [writtenFor] at h
      simp only [memberType]
      split at h
      · next hlift =>
        obtain ⟨only, -, hpair⟩ := Option.map_eq_some_iff.1 h
        rw [if_pos hlift]
        exact (congrArg Prod.snd hpair).symm
      · next hlift =>
        rw [if_neg hlift]
        exact (congrArg Prod.snd (Option.some.inj h)).symm

/-- The literal of an initial value is that of some value for the type of what is generated. -/
theorem literal_of_initializer {member : SchemaType}
    (hmember : declaration.memberType options shape = some member) {initial : Initializer}
    (h : declaration.initializer options shape = .ok initial) {text : String}
    (htext : initial.literal? = some text) :
    ∃ value, declaration.written? options shape = some (value, some member) ∧
      literal? value member = .ok (some text) := by
  have hwritten := isWrittenAs_of_initializer h
  cases hpair : declaration.written? options shape with
  | none =>
    rw [hpair, IsWrittenAs, htext] at hwritten
    cases hwritten
  | some pair =>
    obtain ⟨value, type?⟩ := pair
    obtain rfl : type? = some member := (type_of_written hpair).trans hmember
    rw [hpair, IsWrittenAs, htext] at hwritten
    exact ⟨value, rfl, hwritten⟩

end Declaration

/-! ## Assignments -/

/-- The ways of assigning a member: as it is, as the only element of an array, or element by
element, each read by a type. -/
inductive Assigned where
  | copied
  | wrapped
  | parsed
deriving DecidableEq, Repr

namespace Assigned

/-- The expression that is assigned. -/
def expression (name columnName : String) : Assigned → String
  | copied => name
  | wrapped => "new[] \x7b " ++ name ++ " \x7d"
  | parsed => name ++ ".Select(" ++ columnName ++ ".Parse).ToArray()"

/-- The type of the expression. -/
def typeName (memberName columnName : String) : Assigned → String
  | copied => memberName
  | wrapped => memberName ++ "[]"
  | parsed => columnName ++ "[]"

/-- The way in which a member of some shape is assigned. -/
def ofShape (shape : Shape) (lifted : Bool) : Assigned :=
  match shape, lifted with
  | .columnCollection, _ => parsed
  | .genericCollection, true => wrapped
  | _, _ => copied

/-- Only columns are read one by one. -/
theorem ofShape_eq_parsed_iff {shape : Shape} {lifted : Bool} :
    ofShape shape lifted = parsed ↔ shape = .columnCollection := by
  cases shape <;> cases lifted <;> simp [ofShape]

end Assigned

/-- An assignment assigns an expression into a field of the object of arguments. -/
theorem assignmentLine_eq (shape : Shape) (longName name suffix : String) (columnType : Json)
    (lifted : Bool) :
    assignmentLine shape longName name suffix columnType lifted =
      argumentsObject suffix ++ "." ++ longName ++ " = " ++
        (Assigned.ofShape shape lifted).expression name columnType.text ++ ";" := by
  have hopening : " = new[] \x7b " = " = " ++ "new[] \x7b " := rfl
  have hclosing : " \x7d;" = " \x7d" ++ ";" := rfl
  have hparsed : ".Parse).ToArray();" = ".Parse).ToArray()" ++ ";" := rfl
  cases shape <;> cases lifted <;>
    simp only [assignmentLine, Assigned.ofShape, Assigned.expression, String.append_assoc,
      hopening, hclosing, hparsed, -String.reduceAppend]

/-! ## Entries that declare a type alone -/

/-- Where an entry says no more about collections than its type does, an argument is a collection
if its type is a sequence, and the type of an element is then the item type. -/
theorem Declaration.types_of_ofFields {name : Json} {fields : List (String × Json)}
    {isGroup : Bool} (hcollection : Json.lookup "collection" fields = none)
    (hitem : Json.lookup "item_type" fields = none) {declaration : Declaration}
    (h : Declaration.ofFields name fields isGroup = .ok declaration) :
    declaration.isCollection = declaration.fieldType.any (·.isSequence) ∧
      declaration.itemType = if declaration.isCollection then
        declaration.fieldType.bind (·.item?) else declaration.fieldType := by
  unfold Declaration.ofFields at h
  obtain ⟨fieldType, -, h⟩ := bind_eq_ok_iff.1 h
  obtain ⟨itemType, hitemType, h⟩ := bind_eq_ok_iff.1 h
  obtain rfl := Except.ok.inj h
  have hnull : Json.fieldOrNull "collection" fields = .null := by
    rw [Json.fieldOrNull, hcollection]
    rfl
  rw [hnull] at hitemType ⊢
  refine ⟨rfl, ?_⟩
  unfold elementType at hitemType
  rw [hitem] at hitemType
  cases fieldType with
  | none =>
    obtain rfl := Except.ok.inj hitemType
    rfl
  | some type =>
    simp only [Option.any_some] at hitemType ⊢
    split at hitemType
    · next hsequence =>
      obtain rfl := Except.ok.inj hitemType
      rw [if_pos hsequence]
      rfl
    · next hsequence =>
      obtain rfl := Except.ok.inj hitemType
      rw [if_neg hsequence]

/-- An argument whose type tells whether it is a collection, and of what, has a declared type if it
fits a shape. -/
theorem Declaration.exists_fieldType {declaration : Declaration} {shape : Shape}
    (hcollection : declaration.isCollection = declaration.fieldType.any (·.isSequence))
    (hitemType : declaration.itemType = if declaration.isCollection then
      declaration.fieldType.bind (·.item?) else declaration.fieldType)
    (hshape : declaration.memberShape = .ok shape) :
    ∃ declared, declaration.fieldType = some declared := by
  have hsome := Argument.itemType_of_memberShape hshape
  cases hfield : declaration.fieldType with
  | some declared => exact ⟨declared, rfl⟩
  | none =>
    rw [hfield] at hcollection hitemType
    rw [hitemType, hcollection] at hsome
    cases hsome

/-- **An assignment comes back to the declared type**, but for question marks.  Let the type of an
argument alone tell whether it is a collection, and of what.  Then the expression that is assigned
for it has the declared type. -/
theorem Declaration.withoutMarks_assigned {declaration : Declaration} {shape : Shape}
    (hcollection : declaration.isCollection = declaration.fieldType.any (·.isSequence))
    (hitemType : declaration.itemType = if declaration.isCollection then
      declaration.fieldType.bind (·.item?) else declaration.fieldType)
    (hshape : declaration.memberShape = .ok shape) {declared : SchemaType}
    (hdeclared : declaration.fieldType = some declared) (hnameable : declared.isNameable = true)
    {options : Options} {declaredName memberName columnName : String}
    (hdeclaredName : declared.spelled = .ok (.str declaredName))
    (hmemberName : spelledType (declaration.memberType options shape) = .ok (.str memberName))
    (hcolumnName : shape = .columnCollection → declaration.columnType = .ok (.str columnName)) :
    withoutMarks ((Assigned.ofShape shape options.lift.isTruthy).typeName memberName columnName) =
      withoutMarks declaredName := by
  rw [hdeclared] at hcollection hitemType
  cases declared with
  | bareSequence name nullable => cases hnameable
  | plain kind name nullable =>
    have hsingle : declaration.isCollection = false := hcollection
    rw [hsingle] at hitemType
    have hitem : declaration.itemType = some (.plain kind name nullable) := hitemType
    rw [memberShape, hsingle, hitem] at hshape
    obtain rfl : Shape.scalar = shape := Except.ok.inj hshape
    have hsame : spelledType declaration.itemType = .ok (.str memberName) := hmemberName
    rw [hitem, spelledType, hdeclaredName] at hsame
    rw [Json.str.inj (Except.ok.inj hsame)]
    rfl
  | sequence item name nullable =>
    have hmany : declaration.isCollection = true := hcollection
    rw [hmany] at hitemType
    have hitem : declaration.itemType = some item := hitemType
    obtain ⟨itemName, hitemName⟩ := SchemaType.spelled_of_isNameable
      (show item.isNameable = true from hnameable)
    have hsequence := SchemaType.withoutMarks_sequence hitemName hdeclaredName
    rw [hsequence]
    simp only [memberShape, hmany, hitem] at hshape
    split at hshape
    · obtain rfl := Except.ok.inj hshape
      have hcolumn := hcolumnName rfl
      rw [columnType, hitem] at hcolumn
      have hread := SchemaType.withoutMarks_required hitemName hcolumn
      show withoutMarks (columnName ++ "[]") = _
      rw [withoutMarks_append, hread, withoutMarks_append]
    · split at hshape
      · obtain rfl := Except.ok.inj hshape
        have hsame : spelledType declaration.fieldType = .ok (.str memberName) := hmemberName
        rw [hdeclared, spelledType, hdeclaredName] at hsame
        rw [← hsequence, Json.str.inj (Except.ok.inj hsame)]
        rfl
      · obtain rfl := Except.ok.inj hshape
        cases hlift : options.lift.isTruthy with
        | true =>
          rw [memberType, if_pos hlift, hitem, spelledType, hitemName] at hmemberName
          rw [Json.str.inj (Except.ok.inj hmemberName)]
          rfl
        | false =>
          rw [memberType, if_neg (by rw [hlift]; exact Bool.false_ne_true), hitem] at hmemberName
          have hname : (SchemaType.sequence item (.str "") false).spelled = .ok (.str memberName) :=
            hmemberName
          exact SchemaType.withoutMarks_sequence hitemName hname

namespace Argument

/-- An entry without nested arguments that says nothing of collections declares a member whose type
tells whether it is a collection, and of what. -/
theorem exists_member {exclusion : Exclusion} {fields : List (String × Json)} {argument : Argument}
    (hread : ofJson exclusion (.obj fields) = .ok argument)
    (harguments : Json.lookup "arguments" fields = none)
    (hcollection : Json.lookup "collection" fields = none)
    (hitem : Json.lookup "item_type" fields = none) :
    ∃ declaration, argument = .member declaration ∧
      declaration.isCollection = declaration.fieldType.any (·.isSequence) ∧
      declaration.itemType = if declaration.isCollection then
        declaration.fieldType.bind (·.item?) else declaration.fieldType := by
  rw [ofJson_obj, harguments] at hread
  split at hread
  · obtain ⟨declaration, hdeclaration, h⟩ := bind_eq_ok_iff.1 hread
    obtain rfl := Except.ok.inj h
    exact ⟨declaration, rfl, Declaration.types_of_ofFields hcollection hitem hdeclaration⟩
  · cases hread

/-- The types on both sides of the assignment of a member, and that of its initial value. -/
structure AssignsDeclared (options : Options) (argument : Argument) (shape : Shape)
    (declared member : SchemaType) (declaredName memberName columnName : String)
    (form : Assigned) : Prop where
  /-- The declared type and its name. -/
  declares : argument.declaration.fieldType = some declared ∧
    declared.spelled = .ok (.str declaredName)
  /-- The type of what is generated, and the name that it is declared with. -/
  generates : argument.declaration.memberType options shape = some member ∧
    member.spelled = .ok (.str memberName) ∧
    argument.declaration.typeName options shape = .ok (.str memberName)
  /-- The statement that assigns the member, wherever it is resolved. -/
  assigns : ∀ suffix resolved, argument.resolve options suffix = .ok resolved → ∀ component,
    ∃ notes, memberAssignment options component ⟨.member, suffix, resolved⟩ = .ok ⟨notes,
      [argumentsObject suffix ++ "." ++ resolved.longName ++ " = " ++
        form.expression resolved.name columnName ++ ";"]⟩
  /-- What is read element by element is read by the type of a column. -/
  reads : form = .parsed → argument.declaration.columnType = .ok (.str columnName)
  /-- What is assigned has the declared type, but for question marks. -/
  agrees : withoutMarks (form.typeName memberName columnName) = withoutMarks declaredName
  /-- An initial value is a literal of the type of what is generated. -/
  initializes : ∀ initial text, argument.declaration.initializer options shape = .ok initial →
    initial.literal? = some text →
    ∃ value, argument.declaration.written? options shape = some (value, some member) ∧
      literal? value member = .ok (some text)

/-- **What is assigned has the declared type.**  Let an argument be read from an entry that says
nothing of nested arguments, of being a collection or of an item type, and in which the names of
types are texts.  If the argument fits a shape, then what is generated for it has a type with a
name, whatever the options are.  It is assigned as it is, as the only element of an array, or
element by element, and the type of what is assigned is the declared one, but for question marks.
An initial value is written for the very type of what is generated. -/
theorem exists_assignsDeclared {exclusion : Exclusion} {fields : List (String × Json)}
    (hnames : (Json.obj fields).typesAreNamed = true)
    (harguments : Json.lookup "arguments" fields = none)
    (hcollection : Json.lookup "collection" fields = none)
    (hitem : Json.lookup "item_type" fields = none) {argument : Argument}
    (hread : ofJson exclusion (.obj fields) = .ok argument) {shape : Shape}
    (hshape : argument.classify = .ok shape) (options : Options) :
    ∃ declared member declaredName memberName columnName form,
      AssignsDeclared options argument shape declared member declaredName memberName columnName
        form := by
  have hnameable := isNameable_of_ofJson_obj hnames hread
  obtain ⟨declaration, rfl, hisCollection, hitemType⟩ :=
    exists_member hread harguments hcollection hitem
  obtain ⟨hmemberShape, -⟩ := classify_member hshape
  obtain ⟨declared, hdeclared⟩ :=
    Declaration.exists_fieldType hisCollection hitemType hmemberShape
  have hdeclaredNameable := hnameable.fieldType declared hdeclared
  obtain ⟨declaredName, hdeclaredName⟩ := SchemaType.spelled_of_isNameable hdeclaredNameable
  obtain ⟨memberName, hmemberName⟩ := typeName_of_isNameable hnameable hshape options
  obtain ⟨member, hmember, hmemberSpelled⟩ := Declaration.exists_memberType hmemberName
  have hcolumnName : shape = .columnCollection →
      declaration.columnType = .ok (.str declaration.columnName.text) := by
    rintro rfl
    exact Declaration.columnType_of_columnCollection hnameable.itemType hmemberShape
  refine ⟨declared, member, declaredName, memberName, declaration.columnName.text,
    Assigned.ofShape shape options.lift.isTruthy, ?_⟩
  exact {
    declares := ⟨hdeclared, hdeclaredName⟩
    generates := ⟨hmember, hmemberSpelled, hmemberName⟩
    assigns := by
      intro suffix resolved hresolve component
      obtain ⟨hdeclaration, hresolvedShape⟩ :
          resolved.declaration = declaration ∧ resolved.shape = shape := by
        obtain ⟨other, _, _, _, hother, -, -, -, rfl⟩ := resolve_eq_ok_iff.1 hresolve
        rw [hshape] at hother
        exact ⟨rfl, (Except.ok.inj hother).symm⟩
      obtain ⟨notes, hline⟩ := memberAssignment_eq options component .member suffix
        fun hcolumn => ⟨_, hdeclaration ▸ hcolumnName (hresolvedShape.symm.trans hcolumn)⟩
      rw [assignmentLine_eq, hdeclaration, hresolvedShape] at hline
      exact ⟨notes, hline⟩
    reads := fun hparsed => hcolumnName (Assigned.ofShape_eq_parsed_iff.1 hparsed)
    agrees := Declaration.withoutMarks_assigned hisCollection hitemType hmemberShape hdeclared
      hdeclaredNameable hdeclaredName (Declaration.spelledType_memberType hmemberName) hcolumnName
    initializes := fun _ _ hinitial htext =>
      Declaration.literal_of_initializer hmember hinitial htext }

/-- Columns that admit null, one of which is the default. -/
def columnsEntry : List (String × Json) :=
  [("name", .str "columns"), ("default", .str "Age"),
    ("type", .obj [("kind", .str "sequence"), ("nullable", .bool true),
      ("item", .obj [("kind", .str "column"), ("name", .str "Column"), ("nullable", .bool true)])])]

/-- Columns are generated as texts and come back to the declared type when they are assigned. -/
theorem exists_assignsDeclared_of_columns :
    (Json.obj columnsEntry).typesAreNamed = true ∧
    Json.lookup "arguments" columnsEntry = none ∧
    Json.lookup "collection" columnsEntry = none ∧
    Json.lookup "item_type" columnsEntry = none ∧
    ∃ argument, ofJson none (.obj columnsEntry) = .ok argument ∧
      argument.classify = .ok .columnCollection ∧
      ∃ declared member columnName form,
        AssignsDeclared .standard argument .columnCollection declared member "Column?[]?"
          "string[]" columnName form := by
  have hnames : (Json.obj columnsEntry).typesAreNamed = true := by decide +kernel
  have hok : (ofJson none (.obj columnsEntry)).isOk = true := by decide +kernel
  have hshapes : (ofJson none (.obj columnsEntry)).toOption.bind
      (fun argument => argument.classify.toOption) = some .columnCollection := by decide +kernel
  have htypes : (ofJson none (.obj columnsEntry)).toOption.bind
      (fun argument => argument.declaration.fieldType.bind fun type =>
        type.spelled.toOption.map Json.text) = some "Column?[]?" := by decide +kernel
  obtain ⟨argument, hargument⟩ := exists_of_isOk hok
  rw [hargument] at hshapes htypes
  have hshape : argument.classify = .ok .columnCollection := by
    cases hclassify : argument.classify with
    | ok shape =>
      obtain ⟨_, ⟨⟩, hsome⟩ := Option.bind_eq_some_iff.1 hshapes
      rw [hclassify] at hsome
      rw [Option.some.inj hsome]
    | error fault =>
      obtain ⟨_, ⟨⟩, hsome⟩ := Option.bind_eq_some_iff.1 hshapes
      rw [hclassify] at hsome
      cases hsome
  obtain ⟨declared, member, declaredName, memberName, columnName, form, h⟩ :=
    exists_assignsDeclared hnames rfl rfl rfl hargument hshape .standard
  obtain rfl : memberName = "string[]" := by
    obtain ⟨hmember, hspelled, -⟩ := h.generates
    obtain rfl : SchemaType.strings = member := Option.some.inj hmember
    exact (Json.str.inj (Except.ok.inj hspelled)).symm
  obtain rfl : declaredName = "Column?[]?" := by
    obtain ⟨_, ⟨⟩, hsome⟩ := Option.bind_eq_some_iff.1 htypes
    rw [h.declares.1, Option.bind_some, h.declares.2] at hsome
    exact Option.some.inj hsome
  exact ⟨hnames, rfl, rfl, rfl, argument, hargument, hshape, declared, member, columnName, form, h⟩

end Argument

end CatalogClasses
