/-
# Names of types, read back

The name of a type in C# is also a declaration that a catalog may give for it.  A type over
the primitive kinds has a name that is a text, and this text declares the type itself: no
bracket and no question mark is lost, at any depth.  The main statement says so, and that
a declaration by a text and the name of what it declares always declare the same type.

Main definitions:

* `SchemaType.isOver` : the type is built over some kinds by sequences;
* `SchemaType.nameText` : the name of a type over the primitive kinds, as characters.
-/
import CatalogClasses.Catalog.TypeEntry
import CatalogClasses.CSharp.TypeName

namespace CatalogClasses

/-! ## Types over some kinds -/

/-- A kind whose name in C# is a keyword. -/
def PlainKind.isPrimitive (kind : PlainKind) : Bool := !kind.isNamed

namespace SchemaType

/-- The type is a sequence of sequences, to any depth, over a type of one of the kinds. -/
def isOver (allowed : PlainKind → Bool) : SchemaType → Bool
  | plain kind _ _ => allowed kind
  | sequence item _ _ => item.isOver allowed
  | bareSequence _ _ => false

/-- No declaration in the type carries a name. -/
def Nameless : SchemaType → Prop
  | plain _ name _ => name = .str ""
  | sequence item name _ => name = .str "" ∧ item.Nameless
  | bareSequence name _ => name = .str ""

end SchemaType

/-! ## The name of a type -/

/-- The question mark of a nullable type. -/
def nullMark (nullable : Bool) : List Char := if nullable then ['?'] else []

/-- The name of a type over the primitive kinds: a keyword, then for each sequence a pair
of brackets, and a question mark wherever null is admitted. -/
def SchemaType.nameText : SchemaType → List Char
  | plain kind _ nullable => (kind.keyword?.getD "").toList ++ nullMark nullable
  | sequence item _ nullable => item.nameText ++ ['[', ']'] ++ nullMark nullable
  | bareSequence _ _ => []

/-- A text that ends in another character does not have the ending of one character. -/
theorem dropEnding?_singleton_of_ne {start : List Char} {c d : Char} (h : c ≠ d) :
    Text.dropEnding? [d] (start ++ [c]) = none := by
  rw [Option.eq_none_iff_forall_ne_some]
  intro rest hrest
  have hsame := Text.dropEnding?_eq_some_iff.1 hrest
  exact h (List.append_singleton_inj.1 hsame).2

/-- A text without a question mark at its end is marked by one more character. -/
theorem withNullable_of_ne {start : List Char} {c : Char} (h : c ≠ '?') (nullable : Bool) :
    withNullable nullable (.str (String.ofList (start ++ [c]))) =
      .ok (.str (String.ofList (start ++ [c] ++ nullMark nullable))) := by
  cases nullable with
  | false => rw [nullMark, if_neg Bool.false_ne_true, List.append_nil]; rfl
  | true =>
    have hmarked : String.ofList (start ++ [c] ++ ['?']) = String.ofList (start ++ [c]) ++ "?" :=
      String.ofList_append
    rw [withNullable, markNullable, String.toList_ofList, dropEnding?_singleton_of_ne h,
      nullMark, if_pos rfl, hmarked]
    rfl

/-- The keyword of a primitive kind ends in a letter, has no white space in it, and is read
as this kind. -/
theorem PlainKind.keyword?_of_isPrimitive {kind : PlainKind} (h : kind.isPrimitive = true) :
    ∃ start c, kind.keyword? = some (String.ofList (start ++ [c])) ∧ c ≠ '?' ∧ c ≠ ']' ∧
      (∀ d ∈ start ++ [c], Text.isBlank d = false) ∧
      primitiveNames.lookup (String.ofList (start ++ [c])) = some kind := by
  cases kind with
  | boolean =>
    exact ⟨['b', 'o', 'o'], 'l', rfl, by decide, by decide, Text.visible_of_all rfl, rfl⟩
  | integer =>
    exact ⟨['i', 'n'], 't', rfl, by decide, by decide, Text.visible_of_all rfl, rfl⟩
  | long =>
    exact ⟨['l', 'o', 'n'], 'g', rfl, by decide, by decide, Text.visible_of_all rfl, rfl⟩
  | float =>
    exact ⟨['f', 'l', 'o', 'a'], 't', rfl, by decide, by decide, Text.visible_of_all rfl, rfl⟩
  | double =>
    exact ⟨['d', 'o', 'u', 'b', 'l'], 'e', rfl, by decide, by decide, Text.visible_of_all rfl, rfl⟩
  | string =>
    exact ⟨['s', 't', 'r', 'i', 'n'], 'g', rfl, by decide, by decide, Text.visible_of_all rfl, rfl⟩
  | char =>
    exact ⟨['c', 'h', 'a'], 'r', rfl, by decide, by decide, Text.visible_of_all rfl, rfl⟩
  | enumeration | object | column => cases h

namespace SchemaType

/-- A type over the primitive kinds has a name, and the name is a text. -/
theorem spelled_of_isOver {type : SchemaType}
    (h : type.isOver PlainKind.isPrimitive = true) :
    type.spelled = .ok (.str (String.ofList type.nameText)) := by
  induction type with
  | plain kind name nullable =>
    obtain ⟨start, c, hkeyword, hmark, -⟩ := PlainKind.keyword?_of_isPrimitive h
    rw [spelled, hkeyword]
    show withNullable nullable _ = _
    rw [withNullable_of_ne hmark, nameText, hkeyword, Option.getD_some, String.toList_ofList]
  | sequence item name nullable ih =>
    rw [spelled, ih h, ok_bind]
    -- the bracket before the mark is no question mark
    have hbrackets : String.ofList item.nameText ++ "[]" =
        String.ofList (item.nameText ++ ['['] ++ [']']) := by
      rw [List.append_assoc, String.ofList_append]
      rfl
    show withNullable nullable (.str (String.ofList item.nameText ++ "[]")) = _
    rw [hbrackets, withNullable_of_ne (by decide), nameText]
    simp only [List.append_assoc, List.cons_append, List.nil_append]
  | bareSequence name nullable => cases h

/-! ## Reading the name -/

/-- There is no white space in the name of a type. -/
theorem isBlank_of_mem_nameText {type : SchemaType}
    (h : type.isOver PlainKind.isPrimitive = true) :
    ∀ c ∈ type.nameText, Text.isBlank c = false := by
  have hmark : ∀ nullable, ∀ c ∈ nullMark nullable, Text.isBlank c = false := by
    intro nullable
    cases nullable <;> exact Text.visible_of_all rfl
  induction type with
  | plain kind name nullable =>
    obtain ⟨start, d, hkeyword, -, -, hvisible, -⟩ := PlainKind.keyword?_of_isPrimitive h
    intro c hc
    rw [nameText, hkeyword, Option.getD_some, String.toList_ofList] at hc
    rcases List.mem_append.1 hc with hc | hc
    · exact hvisible c hc
    · exact hmark nullable c hc
  | sequence item name nullable ih =>
    have hbrackets : ∀ c ∈ ['[', ']'], Text.isBlank c = false := Text.visible_of_all rfl
    intro c hc
    rw [nameText] at hc
    rcases List.mem_append.1 hc with hc | hc
    · rcases List.mem_append.1 hc with hc | hc
      · exact ih h c hc
      · exact hbrackets c hc
    · exact hmark nullable c hc
  | bareSequence name nullable => cases h

/-- A text without white space, less a question mark at its end. -/
theorem unmark_append_nullMark {start : List Char} {c : Char} (hc : c ≠ '?') (nullable : Bool)
    (hvisible : ∀ d ∈ start ++ [c] ++ nullMark nullable, Text.isBlank d = false) :
    unmark (start ++ [c] ++ nullMark nullable) = (start ++ [c], nullable) := by
  unfold unmark
  rw [Text.trim_of_visible hvisible]
  cases nullable with
  | false => rw [nullMark, if_neg Bool.false_ne_true, List.append_nil,
      dropEnding?_singleton_of_ne hc]
  | true => rw [nullMark, if_pos rfl, Text.dropEnding?_eq_some_iff.2 rfl]

/-- A text with brackets at its end declares a sequence. -/
theorem ofText_of_brackets {text inner : List Char} {nullable : Bool}
    (h : unmark text = (inner ++ ['[', ']'], nullable)) (argument : Json) :
    ofText argument text = (ofText argument inner >>= fun item =>
      return sequence item (.str "") nullable) := by
  have hending : Text.dropEnding? ['[', ']'] (unmark text).1 = some inner := by
    rw [h]
    exact Text.dropEnding?_eq_some_iff.2 rfl
  rw [ofText]
  split
  · next other hother =>
    rw [hending] at hother
    obtain rfl := Option.some.inj hother
    rw [h]
  · next hnone =>
    rw [hending] at hnone
    cases hnone

/-- A text without brackets at its end declares the kind with this name. -/
theorem ofText_of_keyword {text keyword : List Char} {nullable : Bool} {kind : PlainKind}
    (h : unmark text = (keyword, nullable))
    (hending : Text.dropEnding? ['[', ']'] keyword = none)
    (hkind : primitiveNames.lookup (String.ofList keyword) = some kind) (argument : Json) :
    ofText argument text = .ok (plain kind (.str "") nullable) := by
  rw [ofText]
  split
  · next other hother =>
    rw [h, hending] at hother
    cases hother
  · next hnone =>
    rw [h, hkind]
    rfl

/-- The name of a type declares the type. -/
theorem ofText_nameText {type : SchemaType} (argument : Json)
    (h : type.isOver PlainKind.isPrimitive = true) (hnames : type.Nameless) :
    ofText argument type.nameText = .ok type := by
  have hvisible := isBlank_of_mem_nameText h
  induction type with
  | plain kind name nullable =>
    obtain ⟨start, c, hkeyword, hmark, hbracket, -, hkind⟩ :=
      PlainKind.keyword?_of_isPrimitive h
    obtain rfl : name = .str "" := hnames
    rw [nameText, hkeyword, Option.getD_some, String.toList_ofList] at hvisible ⊢
    have hnone : Text.dropEnding? ['[', ']'] (start ++ [c]) = none := by
      rw [Option.eq_none_iff_forall_ne_some]
      intro rest hrest
      have hsame := Text.dropEnding?_eq_some_iff.1 hrest
      rw [show rest ++ ['[', ']'] = (rest ++ ['[']) ++ [']'] by simp] at hsame
      exact hbracket (List.append_singleton_inj.1 hsame).2
    exact ofText_of_keyword (unmark_append_nullMark hmark nullable hvisible) hnone hkind argument
  | sequence item name nullable ih =>
    obtain ⟨rfl, hitem⟩ := hnames
    have hitemVisible : ∀ c ∈ item.nameText, Text.isBlank c = false := isBlank_of_mem_nameText h
    -- the brackets are taken off together, after the mark
    have hunmark : unmark (sequence item (.str "") nullable).nameText =
        (item.nameText ++ ['[', ']'], nullable) := by
      rw [nameText, show item.nameText ++ ['[', ']'] = (item.nameText ++ ['[']) ++ [']'] by simp]
        at hvisible ⊢
      exact unmark_append_nullMark (by decide) nullable hvisible
    rw [ofText_of_brackets hunmark, ih h hitem hitemVisible, ok_bind]
    rfl
  | bareSequence name nullable => cases h

/-! ## Types that are read -/

/-- A name that is found among the names of types is one of them. -/
theorem mem_primitiveNames_of_lookup {name : String} {kind : PlainKind}
    (h : primitiveNames.lookup name = some kind) : (name, kind) ∈ primitiveNames := by
  obtain ⟨before, after, hsplit, -⟩ := List.lookup_eq_some_iff.1 h
  rw [hsplit]
  exact List.mem_append_right _ List.mem_cons_self

/-- The types that have names of their own are of primitive kinds. -/
theorem isPrimitive_of_lookup {name : String} {kind : PlainKind}
    (h : primitiveNames.lookup name = some kind) : kind.isPrimitive = true := by
  have hall : ∀ entry ∈ primitiveNames, entry.2.isPrimitive = true := by decide
  exact hall _ (mem_primitiveNames_of_lookup h)

/-- A type that is declared by a text is over the primitive kinds, and no declaration in it
carries a name. -/
theorem isOver_of_ofText (argument : Json) (text : List Char) :
    ∀ {type}, ofText argument text = .ok type →
      type.isOver PlainKind.isPrimitive = true ∧ type.Nameless := by
  fun_induction ofText argument text with
  | case1 text inner hending ih =>
    intro type h
    obtain ⟨item, hitem, h⟩ := bind_eq_ok_iff.1 h
    obtain rfl := Except.ok.inj h
    obtain ⟨hover, hnames⟩ := ih hitem
    exact ⟨hover, rfl, hnames⟩
  | case2 text hending kind hkind =>
    intro type h
    obtain rfl := Except.ok.inj h
    exact ⟨isPrimitive_of_lookup hkind, rfl⟩
  | case3 text hending hkind =>
    intro type h
    cases h

/-- **The name of a type is read as the type.**  A type over the primitive kinds without
names of its own is declared by its name in C#; so two of them with the same name are one
type, and what any text declares is declared by its name as well. -/
theorem ofJson_spelled :
    (∀ type : SchemaType, type.isOver PlainKind.isPrimitive = true → type.Nameless →
      ∃ name, type.spelled = .ok (.str name) ∧
        ∀ argument, ofJson argument (.str name) = .ok type) ∧
    (∀ first second : SchemaType,
      first.isOver PlainKind.isPrimitive = true → first.Nameless →
      second.isOver PlainKind.isPrimitive = true → second.Nameless →
      first.spelled = second.spelled → first = second) ∧
    (∀ argument text type, ofJson argument (.str text) = .ok type →
      ∃ name, type.spelled = .ok (.str name) ∧
        ∀ argument, ofJson argument (.str name) = .ok type) := by
  have hname : ∀ type : SchemaType, type.isOver PlainKind.isPrimitive = true → type.Nameless →
      ∃ name, type.spelled = .ok (.str name) ∧
        ∀ argument, ofJson argument (.str name) = .ok type := by
    intro type h hnames
    refine ⟨String.ofList type.nameText, spelled_of_isOver h, ?_⟩
    intro argument
    rw [ofJson, String.toList_ofList]
    exact ofText_nameText argument h hnames
  refine ⟨hname, ?_, ?_⟩
  · intro first second hfirst hfirstNames hsecond hsecondNames hsame
    obtain ⟨name, hspelled, hread⟩ := hname first hfirst hfirstNames
    obtain ⟨other, hspelledOther, hreadOther⟩ := hname second hsecond hsecondNames
    have hnames : name = other := by
      rw [hsame, hspelledOther] at hspelled
      exact (Json.str.inj (Except.ok.inj hspelled)).symm
    have hboth := hread .null
    rw [hnames, hreadOther .null] at hboth
    exact (Except.ok.inj hboth).symm
  · intro argument text type h
    rw [ofJson] at h
    obtain ⟨hover, hnames⟩ := isOver_of_ofText argument text.toList h
    exact hname type hover hnames

/-- Question marks between pairs of brackets are read where they were written. -/
theorem ofJson_spelled_nested :
    ∃ name, (sequence (sequence (plain .integer (.str "") true) (.str "") true) (.str "")
        false).spelled = .ok (.str name) ∧ name = "int?[]?[]" ∧
      ofJson .null (.str name) = .ok
        (sequence (sequence (plain .integer (.str "") true) (.str "") true) (.str "") false) := by
  obtain ⟨name, hspelled, hread⟩ := ofJson_spelled.1
    (sequence (sequence (plain .integer (.str "") true) (.str "") true) (.str "") false)
    rfl ⟨rfl, rfl, rfl⟩
  refine ⟨name, hspelled, ?_, hread .null⟩
  rw [spelled_of_isOver rfl] at hspelled
  rw [← Json.str.inj (Except.ok.inj hspelled)]
  rfl

end SchemaType

end CatalogClasses
