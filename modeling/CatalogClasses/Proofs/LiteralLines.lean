/-
# Literals of one line

With names that have no line boundary, a literal is one line unless a text in its value breaks
it: in a string literal a line feed and a carriage return are escaped, but no other boundary
is, and in a character literal none is at all.  So is the initial value of a generated member,
which is the literal of a value that its default gives.

Main definitions:

* `SchemaType.keepsLine` : the literal of a value for the type is one line;
* `Declaration.keepsLine` : the initial value of an argument is one line.
-/
import CatalogClasses.Proofs.Blocks
import CatalogClasses.Proofs.OneLine

namespace CatalogClasses

/-! ## Names of types -/

/-- No name in the type has a line boundary. -/
def SchemaType.NamesUnbroken : SchemaType → Prop
  | .plain _ name _ => Unbroken name.text
  | .sequence item name _ => Unbroken name.text ∧ item.NamesUnbroken
  | .bareSequence name _ => Unbroken name.text

theorem SchemaType.NamesUnbroken.name {type : SchemaType} (h : type.NamesUnbroken) :
    Unbroken type.name.text := by
  cases type with
  | plain | bareSequence => exact h
  | sequence => exact h.1

theorem SchemaType.NamesUnbroken.item {type item : SchemaType} (h : type.NamesUnbroken)
    (hitem : type.item? = some item) : item.NamesUnbroken := by
  cases type with
  | plain | bareSequence => cases hitem
  | sequence =>
    obtain rfl := Option.some.inj hitem
    exact h.2

theorem unbroken_withNullable {nullable : Bool} {name result : Json} (h : Unbroken name.text)
    (hresult : withNullable nullable name = .ok result) : Unbroken result.text := by
  cases nullable with
  | false =>
    obtain rfl := Except.ok.inj hresult
    exact h
  | true =>
    cases name with
    | str text =>
      obtain rfl := Except.ok.inj hresult
      show Unbroken (markNullable text)
      unfold markNullable
      split
      · exact h
      · exact h.append (by decide)
    | null | bool | int | float | arr | obj => cases hresult

theorem PlainKind.unbroken_keyword {kind : PlainKind} {keyword : String}
    (h : kind.keyword? = some keyword) : Unbroken keyword := by
  cases kind <;> first | (obtain rfl := Option.some.inj h; decide) | cases h

/-- A type whose names are unbroken is spelled in one line. -/
theorem unbroken_spelled {type : SchemaType} (h : type.NamesUnbroken) :
    ∀ {name : Json}, type.spelled = .ok name → Unbroken name.text := by
  induction type with
  | plain kind typeName nullable =>
    intro name hname
    unfold SchemaType.spelled at hname
    split at hname
    · next keyword hkeyword =>
      have htext : Unbroken (Json.str keyword).text := PlainKind.unbroken_keyword hkeyword
      exact unbroken_withNullable htext hname
    · split at hname
      · exact unbroken_withNullable h hname
      · cases hname
  | sequence item typeName nullable ih =>
    intro name hname
    obtain ⟨itemName, hitem, hname⟩ := bind_eq_ok_iff.1 hname
    have htext : Unbroken (Json.str (itemName.text ++ "[]")).text :=
      (ih h.2 hitem).append (by decide)
    exact unbroken_withNullable htext hname
  | bareSequence typeName nullable =>
    intro name hname
    cases hname

/-! ## Literals -/

namespace SchemaType

/-- The literal of a text for the type is one line. -/
def keepsText (type : SchemaType) (text : String) : Bool :=
  match type.kind with
  | .plain .enumeration => text.toList.all fun c => !Text.isBreak c
  | .plain .char => text.toList.all fun c => !Text.isBreak c
  | _ => text.toList.all fun c => !Text.isBreak c || c == '\n' || c == '\r'

/-- The literal of a value for the type is one line, if there is one: so it is but for texts. -/
def keepsLine : SchemaType → Json → Bool
  | type, .str text => type.keepsText text
  | .sequence item _ _, .arr elements => elements.all item.keepsLine
  | _, _ => true

theorem keepsLine_str (type : SchemaType) (text : String) :
    type.keepsLine (.str text) = type.keepsText text := by
  cases type <;> rfl

theorem keepsLine_arr {type item : SchemaType} (h : type.item? = some item)
    (elements : List Json) : type.keepsLine (.arr elements) = elements.all item.keepsLine := by
  cases type with
  | sequence =>
    obtain rfl := Option.some.inj h
    rfl
  | plain | bareSequence => cases h

theorem keepsLine_of_ne (type : SchemaType) {value : Json} (hstr : ∀ text, value ≠ .str text)
    (harr : ∀ elements, value ≠ .arr elements) : type.keepsLine value = true := by
  unfold keepsLine
  split
  · next text => exact absurd rfl (hstr text)
  · next elements => exact absurd rfl (harr elements)
  · rfl

end SchemaType

theorem unbroken_iff_all {text : String} :
    Unbroken text ↔ (text.toList.all fun c => !Text.isBreak c) = true := by
  simp [Unbroken]

/-- A text written character by character is one line just when each character is written in
one line. -/
theorem unbroken_flatMap_iff {write : Char → List Char} {keeps : Char → Bool}
    (h : ∀ c, Text.OneLine (write c) ↔ keeps c = true) (text : List Char) :
    Unbroken (String.ofList (text.flatMap write)) ↔ text.all keeps = true := by
  rw [unbroken_ofList, List.all_eq_true]
  constructor
  · intro hall c hc
    exact (h c).1 fun d hd => hall d (List.mem_flatMap.2 ⟨c, hc, hd⟩)
  · intro hall
    exact Text.oneLine_flatMap fun c hc => (h c).2 (hall c hc)

/-- A character literal is one line just when its text is. -/
theorem unbroken_charLiteral_iff {text : String} :
    Unbroken (charLiteral text) ↔ (text.toList.all fun c => !Text.isBreak c) = true := by
  have hchar : ∀ c, Text.OneLine (charChar c) ↔ (!Text.isBreak c) = true := by
    intro c
    unfold charChar
    split
    · decide
    · decide
    · simp
  have hquote : Unbroken "'" := by decide
  rw [charLiteral, unbroken_append, unbroken_append, unbroken_flatMap_iff hchar]
  simp only [hquote, true_and, and_true]

/-- A string literal is one line just when its text has no boundary but line feeds and carriage
returns, which are escaped. -/
theorem unbroken_stringLiteral_iff {text : String} :
    Unbroken (stringLiteral text) ↔
      (text.toList.all fun c => !Text.isBreak c || c == '\n' || c == '\r') = true := by
  have hchar : ∀ c, Text.OneLine (stringChar c) ↔
      (!Text.isBreak c || c == '\n' || c == '\r') = true := by
    intro c
    unfold stringChar
    split
    · decide
    · decide
    · decide
    · decide
    · decide
    · next hfeed hreturn _ =>
      have hother : ((c == '\n') = false) ∧ ((c == '\r') = false) :=
        ⟨beq_false_of_ne hfeed, beq_false_of_ne hreturn⟩
      simp [hother]
  have hquote : Unbroken "\"" := by decide
  rw [stringLiteral, unbroken_append, unbroken_append, unbroken_flatMap_iff hchar]
  simp only [hquote, true_and, and_true]

/-- The literal of a text is one line just when the type keeps the text. -/
theorem unbroken_textLiteral_iff {type : SchemaType} (h : Unbroken type.name.text)
    (text : String) : Unbroken (textLiteral type text) ↔ type.keepsText text = true := by
  have henumeration : Unbroken (type.name.text ++ "." ++ text) ↔
      (text.toList.all fun c => !Text.isBreak c) = true := by
    have hdot : Unbroken "." := by decide
    rw [unbroken_append, unbroken_append, ← unbroken_iff_all]
    simp only [h, hdot, true_and]
  unfold textLiteral SchemaType.keepsText
  generalize type.kind = kind
  cases kind with
  | sequence => exact unbroken_stringLiteral_iff
  | plain kind =>
    cases kind with
    | enumeration => exact henumeration
    | char => exact unbroken_charLiteral_iff
    | boolean | integer | long | float | double | string | object | column =>
      exact unbroken_stringLiteral_iff

/-! ### Numbers -/

theorem unbroken_floatLiteral {keyword ending : String} (hkeyword : Unbroken keyword)
    (hending : Unbroken ending) (x : Number.Binary64) :
    Unbroken (floatLiteral keyword ending x) := by
  unfold floatLiteral
  split
  · exact hkeyword.append (by decide)
  · split
    · split
      · exact hkeyword.append (by decide)
      · exact hkeyword.append (by decide)
    · exact (unbroken_ofList.2 (Number.oneLine_text x)).append hending

theorem unbroken_integerLiteral {type : SchemaType} (h : Unbroken type.name.text) {n : Int}
    {text : String} (htext : integerLiteral type n = .ok text) : Unbroken text := by
  have hint := Json.unbroken_intText n
  unfold integerLiteral at htext
  split at htext
  · obtain rfl := Except.ok.inj htext
    exact hint
  · obtain rfl := Except.ok.inj htext
    exact hint.append (by decide)
  · obtain rfl := Except.ok.inj htext
    have hopening : Unbroken "(" := by decide
    refine ((hopening.append h).append (by decide)).append ?_
    split
    · exact (hopening.append hint).append (by decide)
    · exact hint
  · obtain ⟨x, -, htext⟩ := bind_eq_ok_iff.1 htext
    obtain rfl := Except.ok.inj htext
    exact unbroken_floatLiteral (by decide) (by decide) x
  · obtain ⟨x, -, htext⟩ := bind_eq_ok_iff.1 htext
    obtain rfl := Except.ok.inj htext
    exact unbroken_floatLiteral (by decide) (by decide) x
  · cases htext

theorem unbroken_numberLiteral {type : SchemaType} (h : Unbroken type.name.text)
    {x : Number.Binary64} {text : String} (htext : numberLiteral type x = .ok text) :
    Unbroken text := by
  have hwhole : ∀ {cause : Cause}, (if x.isWhole = true then integerLiteral type x.truncate
      else failWith cause) = .ok text → Unbroken text := by
    intro cause hresult
    split at hresult
    · exact unbroken_integerLiteral h hresult
    · cases hresult
  unfold numberLiteral at htext
  split at htext
  · obtain rfl := Except.ok.inj htext
    exact unbroken_floatLiteral (by decide) (by decide) x
  · obtain rfl := Except.ok.inj htext
    exact unbroken_floatLiteral (by decide) (by decide) x
  · exact hwhole htext
  · exact hwhole htext
  · exact hwhole htext
  · cases htext

/-! ### Arrays -/

theorem unbroken_intercalate_iff {separator : String} (h : Unbroken separator)
    (texts : List String) :
    Unbroken (separator.intercalate texts) ↔ ∀ text ∈ texts, Unbroken text := by
  induction texts with
  | nil => simp; decide
  | cons first rest ih =>
    cases rest with
    | nil => simp
    | cons second rest =>
      rw [String.intercalate_cons_cons, unbroken_append, unbroken_append, ih]
      simp [h]

/-- The literal of an array is one line just when those of its elements are. -/
theorem unbroken_arrayLiteral_iff {typeName : Json} (h : Unbroken typeName.text)
    (texts : List String) :
    Unbroken (arrayLiteral typeName texts) ↔ ∀ text ∈ texts, Unbroken text := by
  have hnew : Unbroken ("new " ++ typeName.text) := Unbroken.append (by decide) h
  unfold arrayLiteral
  split
  · simpa using hnew.append (by decide)
  · have hopening : Unbroken ("new " ++ typeName.text ++ "[] ") := hnew.append (by decide)
    have hbraces : Unbroken "\x7b " ∧ Unbroken " \x7d" := by decide
    have hbraced : Unbroken (bracedElements texts) ↔ ∀ text ∈ texts, Unbroken text := by
      rw [bracedElements, unbroken_append, unbroken_append]
      simp only [hbraces, true_and, and_true]
      exact unbroken_intercalate_iff (by decide) texts
    rw [← hbraced]
    exact unbroken_append.trans (and_iff_right hopening)

/-! ### Values -/

/-- What is written of a value, its literal or the keyword if it has none, is one line just when
the type keeps the value. -/
def LiteralKept (type : SchemaType) (value : Json) : Prop :=
  ∀ text?, literal? value type = .ok text? →
    (Unbroken (text?.getD "null") ↔ type.keepsLine value = true)

/-- It is so of a literal that is one line, if the value is neither a text nor a list. -/
theorem literalKept_of_unbroken {type : SchemaType} {value : Json}
    (hstr : ∀ text, value ≠ .str text) (harr : ∀ elements, value ≠ .arr elements)
    (h : ∀ text, literal? value type = .ok (some text) → Unbroken text) :
    LiteralKept type value := by
  intro text? htext
  refine iff_of_true ?_ (type.keepsLine_of_ne hstr harr)
  cases text? with
  | none => decide
  | some text => exact h text htext

theorem literals_kept {item : SchemaType} (h : ∀ value, LiteralKept item value)
    (elements : List Json) : ∀ {texts : List String}, literals elements item = .ok texts →
      ((∀ text ∈ texts, Unbroken text) ↔ elements.all item.keepsLine = true) := by
  induction elements with
  | nil =>
    intro texts htexts
    obtain rfl := Except.ok.inj htexts
    simp
  | cons value rest ih =>
    intro texts htexts
    rw [literals] at htexts
    obtain ⟨first, hfirst, htexts⟩ := bind_eq_ok_iff.1 htexts
    obtain ⟨others, hothers, htexts⟩ := bind_eq_ok_iff.1 htexts
    obtain rfl := Except.ok.inj htexts
    rw [List.forall_mem_cons, h value first hfirst, ih hothers, List.all_cons, Bool.and_eq_true]

/-- It is so of every literal for a type, if it is of every literal for the type of an item. -/
theorem literalKept_of_item {type : SchemaType} (hnames : type.NamesUnbroken)
    (hitem : ∀ item, type.item? = some item → ∀ value, LiteralKept item value) (value : Json) :
    LiteralKept type value := by
  cases value with
  | null => exact literalKept_of_unbroken (by simp) (by simp) fun text h => by cases h
  | bool b =>
    refine literalKept_of_unbroken (by simp) (by simp) fun text h => ?_
    obtain rfl := Option.some.inj (Except.ok.inj h)
    cases b <;> decide
  | int n =>
    refine literalKept_of_unbroken (by simp) (by simp) fun text h => ?_
    rw [literal?] at h
    obtain ⟨number, hnumber, h⟩ := bind_eq_ok_iff.1 h
    obtain rfl := Option.some.inj (Except.ok.inj h)
    exact unbroken_integerLiteral hnames.name hnumber
  | float x =>
    refine literalKept_of_unbroken (by simp) (by simp) fun text h => ?_
    rw [literal?] at h
    obtain ⟨number, hnumber, h⟩ := bind_eq_ok_iff.1 h
    obtain rfl := Option.some.inj (Except.ok.inj h)
    exact unbroken_numberLiteral hnames.name hnumber
  | obj fields =>
    refine literalKept_of_unbroken (by simp) (by simp) fun text h => ?_
    obtain rfl := Option.some.inj (Except.ok.inj h)
    exact Json.unbroken_shown _
  | str text =>
    intro text? htext
    obtain rfl := Except.ok.inj htext
    rw [SchemaType.keepsLine_str]
    exact unbroken_textLiteral_iff hnames.name text
  | arr elements =>
    intro text? htext
    rw [literal?] at htext
    split at htext
    · cases htext
    · next item hsome =>
      obtain ⟨typeName, hspelled, htext⟩ := bind_eq_ok_iff.1 htext
      obtain ⟨texts, hliterals, htext⟩ := bind_eq_ok_iff.1 htext
      obtain rfl := Except.ok.inj htext
      rw [SchemaType.keepsLine_arr hsome, ← literals_kept (hitem item hsome) elements hliterals]
      exact unbroken_arrayLiteral_iff (unbroken_spelled (hnames.item hsome) hspelled) texts

/-- **A literal is one line just when the type keeps the value.** -/
theorem literal_kept {type : SchemaType} (hnames : type.NamesUnbroken) (value : Json) :
    LiteralKept type value := by
  induction type generalizing value with
  | plain kind name nullable =>
    exact literalKept_of_item hnames (fun item h => by cases h) value
  | sequence item name nullable ih =>
    refine literalKept_of_item hnames (fun other h => ?_) value
    obtain rfl := Option.some.inj h
    exact ih hnames.2
  | bareSequence name nullable =>
    exact literalKept_of_item hnames (fun item h => by cases h) value

/-! ## Initial values -/

namespace Declaration

/-- No name in the declaration has a line boundary. -/
structure NamesUnbroken (declaration : Declaration) : Prop where
  longName : Unbroken declaration.longName.text
  itemType : ∀ type, declaration.itemType = some type → type.NamesUnbroken
  fieldType : ∀ type, declaration.fieldType = some type → type.NamesUnbroken

/-- The only value of a list; anything else but a list stands for itself. -/
def soleValue? : Json → Option Json
  | .arr [value] => some value
  | .arr _ => none
  | value => some value

/-- The value that a default is written as, and its type, if the default is not null. -/
def writtenFor (options : Options) (declaration : Declaration) (value : Json) :
    Shape → Option (Json × Option SchemaType)
  | .group => none
  | .scalar => some (value, declaration.itemType)
  | .stringCollection => some (.arr (asElements value), declaration.fieldType)
  | .columnCollection =>
      some (.arr ((asElements value).map fun v => .str v.text), some SchemaType.strings)
  | .genericCollection =>
      if options.lift.isTruthy then (soleValue? value).map fun only => (only, declaration.itemType)
      else some (.arr (asElements value), some (SchemaType.sequenceOf declaration.itemType))

/-- The value that the initial value of an argument is written for, and its type. -/
def written? (options : Options) (declaration : Declaration) (shape : Shape) :
    Option (Json × Option SchemaType) :=
  match declaration.default? with
  | none => none
  | some .null => none
  | some value => declaration.writtenFor options value shape

/-- The initial value of an argument is one line, if there is one. -/
def keepsLine (options : Options) (declaration : Declaration) (shape : Shape) : Bool :=
  match declaration.written? options shape with
  | some (value, some type) => type.keepsLine value
  | _ => true

variable {options : Options} {declaration : Declaration} {shape : Shape}

/-- What is written has the literal that the initial value has. -/
def IsWrittenAs (initial : Initializer) : Option (Json × Option SchemaType) → Prop
  | some (value, type?) => defaultLiteral? value type? = .ok initial.literal?
  | none => initial.literal? = none

theorem isWrittenAs_of_initializerOf {initial : Initializer} {value : Json}
    {type? : Option SchemaType} (h : initializerOf value type? = .ok initial) :
    IsWrittenAs initial (some (value, type?)) := by
  obtain ⟨text?, htext, h⟩ := bind_eq_ok_iff.1 h
  obtain rfl := Except.ok.inj h
  rw [IsWrittenAs, htext]
  cases text? <;> rfl

/-- A single member that stands for a collection has the initial value of the only value, or else
one without a literal. -/
theorem liftedInitializer_eq (type? : Option SchemaType) (value : Json) :
    (∀ only, soleValue? value = some only →
      liftedInitializer type? value = initializerOf only type?) ∧
    (soleValue? value = none →
      ∃ initial, liftedInitializer type? value = .ok initial ∧ initial.literal? = none) := by
  cases value with
  | arr elements =>
    match elements with
    | [value] => exact ⟨by rintro _ ⟨⟩; rfl, nofun⟩
    | [] | _ :: _ :: _ => exact ⟨nofun, fun _ => ⟨_, rfl, rfl⟩⟩
  | null | bool | int | float | str | obj =>
    refine ⟨fun only honly => ?_, fun hnone => ?_⟩
    · cases honly
      rfl
    · cases hnone

/-- **The initial value is that of what is written**, or else one without a literal. -/
theorem initializer_eq (options : Options) (declaration : Declaration) (shape : Shape) :
    (∀ value type?, declaration.written? options shape = some (value, type?) →
      declaration.initializer options shape = initializerOf value type?) ∧
    (declaration.written? options shape = none →
      ∃ initial, declaration.initializer options shape = .ok initial ∧
        initial.literal? = none) := by
  unfold written? initializer
  cases declaration.default? with
  | none => exact ⟨nofun, fun _ => ⟨_, rfl, rfl⟩⟩
  | some value =>
    cases value with
    | null => exact ⟨nofun, fun _ => ⟨_, rfl, rfl⟩⟩
    | bool | int | float | str | arr | obj =>
      refine ⟨fun written type? hwritten => ?_, fun hnone => ?_⟩
      · cases shape with
        | group => cases hwritten
        | scalar | stringCollection | columnCollection =>
          cases hwritten
          rfl
        | genericCollection =>
          simp only [writtenFor] at hwritten
          split at hwritten
          · next hlift =>
            obtain ⟨only, honly, hpair⟩ := Option.map_eq_some_iff.1 hwritten
            obtain ⟨rfl, rfl⟩ := Prod.mk.inj hpair
            simp only [hlift, if_true]
            exact (liftedInitializer_eq _ _).1 only honly
          · next hlift =>
            cases hwritten
            simp only [hlift]
            rfl
      · cases shape with
        | group => exact ⟨_, rfl, rfl⟩
        | scalar | stringCollection | columnCollection => cases hnone
        | genericCollection =>
          simp only [writtenFor] at hnone
          split at hnone
          · next hlift =>
            simp only [hlift, if_true]
            exact (liftedInitializer_eq _ _).2 (Option.map_eq_none_iff.1 hnone)
          · cases hnone

/-- The initial value is the literal of the value that it is written for. -/
theorem isWrittenAs_of_initializer {initial : Initializer}
    (h : declaration.initializer options shape = .ok initial) :
    IsWrittenAs initial (declaration.written? options shape) := by
  obtain ⟨hsome, hnone⟩ := initializer_eq options declaration shape
  cases hwritten : declaration.written? options shape with
  | none =>
    obtain ⟨other, hother, hliteral⟩ := hnone hwritten
    rw [hother] at h
    obtain rfl := Except.ok.inj h
    exact hliteral
  | some pair =>
    obtain ⟨value, type?⟩ := pair
    rw [hsome value type? hwritten] at h
    exact isWrittenAs_of_initializerOf h

/-- The types that values are written for have no other names than the declaration. -/
theorem namesUnbroken_of_written (h : declaration.NamesUnbroken) {value : Json}
    {type : SchemaType} (hwritten : declaration.written? options shape = some (value, some type)) :
    type.NamesUnbroken := by
  have hempty : Unbroken (Json.str "").text := by decide
  unfold written? at hwritten
  split at hwritten
  · cases hwritten
  · cases hwritten
  · cases shape with
    | group => cases hwritten
    | scalar => exact h.itemType type (congrArg Prod.snd (Option.some.inj hwritten))
    | stringCollection => exact h.fieldType type (congrArg Prod.snd (Option.some.inj hwritten))
    | columnCollection =>
      obtain rfl := Option.some.inj (congrArg Prod.snd (Option.some.inj hwritten))
      exact ⟨hempty, hempty⟩
    | genericCollection =>
      simp only [writtenFor] at hwritten
      split at hwritten
      · obtain ⟨only, -, hpair⟩ := Option.map_eq_some_iff.1 hwritten
        exact h.itemType type (congrArg Prod.snd hpair)
      · obtain rfl := Option.some.inj (congrArg Prod.snd (Option.some.inj hwritten))
        cases hitem : declaration.itemType with
        | none => exact hempty
        | some item => exact ⟨hempty, h.itemType item hitem⟩

/-- What is a literal without a type is one line. -/
theorem unbroken_of_untyped {value : Json} {text : String}
    (h : defaultLiteral? value none = .ok (some text)) : Unbroken text := by
  cases value with
  | bool b =>
    obtain rfl := Option.some.inj (Except.ok.inj h)
    cases b <;> decide
  | null | int | float | str | arr | obj => cases h

/-- The literal of an initial value is one line just when the initial value is written for a
value that its type keeps. -/
theorem unbroken_initial_iff (h : declaration.NamesUnbroken) {initial : Initializer}
    (hinitial : declaration.initializer options shape = .ok initial) :
    (∀ text, initial.literal? = some text → Unbroken text) ↔
      declaration.keepsLine options shape = true := by
  have hwritten := isWrittenAs_of_initializer hinitial
  unfold keepsLine
  split
  · next value type hsome =>
    rw [hsome] at hwritten
    have hkept := literal_kept (namesUnbroken_of_written h hsome) value _ hwritten
    rw [← hkept]
    cases initial.literal? with
    | none => exact iff_of_true (by simp) (by decide)
    | some text => simp
  · next hother =>
    refine iff_of_true ?_ rfl
    intro text htext
    cases hsome : declaration.written? options shape with
    | none =>
      rw [hsome] at hwritten
      rw [show initial.literal? = none from hwritten] at htext
      cases htext
    | some written =>
      obtain ⟨value, type?⟩ := written
      cases type? with
      | some type => exact absurd hsome (hother value type)
      | none =>
        rw [hsome, IsWrittenAs, htext] at hwritten
        exact unbroken_of_untyped hwritten

end Declaration

/-- The name of the type of what is generated for an argument is one line. -/
theorem Declaration.NamesUnbroken.typeName {options : Options} {declaration : Declaration}
    (h : declaration.NamesUnbroken) {shape : Shape} {name : Json}
    (hname : declaration.typeName options shape = .ok name) : Unbroken name.text := by
  have hspelled : ∀ {type? : Option SchemaType},
      (∀ type, type? = some type → type.NamesUnbroken) →
      spelledType type? = .ok name → Unbroken name.text := by
    intro type? htype hresult
    cases type? with
    | none => cases hresult
    | some type => exact unbroken_spelled (htype type rfl) hresult
  have hempty : Unbroken (Json.str "").text := by decide
  cases shape with
  | scalar => exact hspelled h.itemType hname
  | stringCollection | group => exact hspelled h.fieldType hname
  | columnCollection =>
    obtain ⟨column, -, hname⟩ := bind_eq_ok_iff.1 hname
    have hstrings : SchemaType.strings.NamesUnbroken := ⟨hempty, hempty⟩
    exact unbroken_spelled hstrings hname
  | genericCollection =>
    simp only [Declaration.typeName] at hname
    split at hname
    · exact hspelled h.itemType hname
    · cases hitem : declaration.itemType with
      | none =>
        rw [hitem] at hname
        cases hname
      | some item =>
        rw [hitem] at hname
        have hsequence : (SchemaType.sequenceOf (some item)).NamesUnbroken :=
          ⟨hempty, h.itemType item hitem⟩
        exact unbroken_spelled hsequence hname

/-- The name of the type that reads one column is one line. -/
theorem Declaration.NamesUnbroken.columnName {declaration : Declaration}
    (h : declaration.NamesUnbroken) : Unbroken declaration.columnName.text := by
  unfold Declaration.columnName
  cases hcolumn : declaration.columnType with
  | error fault => exact (by decide : Unbroken Json.null.text)
  | ok name =>
    unfold Declaration.columnType at hcolumn
    split at hcolumn
    · next type hitem =>
      have hrequired : type.required.NamesUnbroken := by
        have htype := h.itemType type hitem
        cases type <;> exact htype
      exact unbroken_spelled hrequired hcolumn
    · cases hcolumn

end CatalogClasses
