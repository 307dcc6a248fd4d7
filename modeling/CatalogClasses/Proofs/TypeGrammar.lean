/-
# Texts that declare a type

A catalog may declare a type by a text.  Such a text has a name of a primitive type, then any
number of pairs of brackets, and a question mark may stand right after the name and right after
each pair.  White space may stand around the text and before each pair of brackets, and nowhere
else.  The main statement says that these are all texts that declare a type, and which type each
of them declares; every other text is refused at the argument it was read for.

Main definitions:

* `TypeText` : a declaration in its parts, from left to right;
* `TypeText.text`, `TypeText.type` : its characters, and the type that it declares.
-/
import CatalogClasses.Proofs.TypeNames
import Mathlib.Data.List.Induction

namespace CatalogClasses

/-! ## White space around a text -/

namespace Text

/-- White space before a text that begins with something visible is dropped, and no more. -/
theorem dropWhile_padded {padding text : List Char} (hpadding : allBlank padding = true)
    (hhead : ∀ c ∈ text.head?, isBlank c = false) :
    (padding ++ text).dropWhile isBlank = text := by
  rw [List.dropWhile_append_of_pos (List.all_eq_true.1 hpadding)]
  cases text with
  | nil => rfl
  | cons c rest => simp [hhead c rfl]

/-- White space around a text that begins and ends with something visible is dropped, and no
more. -/
theorem trim_padded {before text after : List Char} (hbefore : allBlank before = true)
    (hafter : allBlank after = true) (hne : text ≠ [])
    (hhead : ∀ c ∈ text.head?, isBlank c = false)
    (hlast : ∀ c ∈ text.getLast?, isBlank c = false) : trim (before ++ text ++ after) = text := by
  have hstart : trimStart (before ++ text ++ after) = text ++ after := by
    rw [trimStart, List.append_assoc]
    apply dropWhile_padded hbefore
    obtain ⟨c, rest, rfl⟩ := List.exists_cons_of_ne_nil hne
    exact hhead
  have hend : trimEnd (text ++ after) = text := by
    rw [trimEnd, List.reverse_append, dropWhile_padded, List.reverse_reverse]
    · rwa [allBlank, List.all_reverse]
    · rwa [List.head?_reverse]
  rw [trim, hstart, hend]

/-- A text is what trimming leaves of it, with white space around. -/
theorem exists_padding (text : List Char) : ∃ before after, allBlank before = true ∧
    allBlank after = true ∧ text = before ++ trim text ++ after := by
  refine ⟨text.takeWhile isBlank, ((trimStart text).reverse.takeWhile isBlank).reverse,
    List.all_takeWhile, ?_, ?_⟩
  · rw [allBlank, List.all_reverse]
    exact List.all_takeWhile
  · rw [trim, trimEnd, List.append_assoc, ← List.reverse_append,
      List.takeWhile_append_dropWhile, List.reverse_reverse, trimStart,
      List.takeWhile_append_dropWhile]

end Text

/-! ## Declarations in parts -/

/-- A pair of brackets in a declaration: white space may stand before it, and a question mark
after it. -/
structure Brackets where
  space : List Char
  nullable : Bool
  blank : Text.allBlank space = true

/-- The characters of a pair of brackets. -/
def Brackets.text (pair : Brackets) : List Char :=
  pair.space ++ ['[', ']'] ++ nullMark pair.nullable

/-- The text that declares a type, in its parts: white space, a name of a primitive type with or
without a question mark, pairs of brackets, and white space again. -/
structure TypeText where
  before : List Char
  name : String
  kind : PlainKind
  nullable : Bool
  pairs : List Brackets
  after : List Char
  blankBefore : Text.allBlank before = true
  named : (name, kind) ∈ primitiveNames
  blankAfter : Text.allBlank after = true

namespace TypeText

/-- A name, its question mark and pairs of brackets. -/
def spelling (name : String) (nullable : Bool) (pairs : List Brackets) : List Char :=
  name.toList ++ nullMark nullable ++ pairs.flatMap Brackets.text

/-- The type that each pair of brackets, from left to right, makes a sequence of. -/
def typeOf (kind : PlainKind) (nullable : Bool) (pairs : List Brackets) : SchemaType :=
  pairs.foldl (fun item pair => .sequence item (.str "") pair.nullable)
    (.plain kind (.str "") nullable)

/-- The characters of a declaration. -/
def text (form : TypeText) : List Char :=
  form.before ++ spelling form.name form.nullable form.pairs ++ form.after

theorem spelling_concat (name : String) (nullable : Bool) (pairs : List Brackets)
    (pair : Brackets) :
    spelling name nullable (pairs ++ [pair]) =
      spelling name nullable pairs ++ pair.space ++ ['[', ']'] ++ nullMark pair.nullable := by
  simp [spelling, Brackets.text]

theorem typeOf_concat (kind : PlainKind) (nullable : Bool) (pairs : List Brackets)
    (pair : Brackets) :
    typeOf kind nullable (pairs ++ [pair]) =
      .sequence (typeOf kind nullable pairs) (.str "") pair.nullable := by
  rw [typeOf, List.foldl_append]
  rfl

/-- The type that a declaration declares. -/
def type (form : TypeText) : SchemaType := typeOf form.kind form.nullable form.pairs

end TypeText

/-! ## Reading a declaration -/

/-- The name of a primitive type can be looked up, begins and ends with something visible, and
its end is neither a question mark nor a pair of brackets. -/
theorem primitiveNames_spelled {name : String} {kind : PlainKind}
    (h : (name, kind) ∈ primitiveNames) :
    primitiveNames.lookup name = some kind ∧ name.toList ≠ [] ∧
      (∀ c ∈ name.toList.head?, Text.isBlank c = false) ∧
      (∀ c ∈ name.toList.getLast?, Text.isBlank c = false ∧ c ≠ '?') ∧
      Text.dropEnding? ['[', ']'] name.toList = none := by
  have hall : ∀ entry ∈ primitiveNames,
      primitiveNames.lookup entry.1 = some entry.2 ∧ entry.1.toList ≠ [] ∧
        entry.1.toList.head?.all (fun c => !Text.isBlank c) = true ∧
        entry.1.toList.getLast?.all (fun c => !Text.isBlank c && c != '?') = true ∧
        Text.dropEnding? ['[', ']'] entry.1.toList = none := by decide +kernel
  obtain ⟨hlookup, hne, hhead, hlast, hending⟩ := hall (name, kind) h
  refine ⟨hlookup, hne, fun c hc => ?_, fun c hc => ?_, hending⟩
  · have hvisible := (Option.all_eq_true _ _).1 hhead c hc
    rwa [Bool.not_eq_true'] at hvisible
  · have hvisible := (Option.all_eq_true _ _).1 hlast c hc
    rwa [Bool.and_eq_true, Bool.not_eq_true', bne_iff_ne] at hvisible

namespace SchemaType

/-- A text in white space, less the question mark at its end. -/
theorem unmark_padded {before start after : List Char} (nullable : Bool)
    (hbefore : Text.allBlank before = true) (hafter : Text.allBlank after = true)
    (hne : start ≠ []) (hhead : ∀ c ∈ start.head?, Text.isBlank c = false)
    (hlast : ∀ c ∈ start.getLast?, Text.isBlank c = false ∧ c ≠ '?') :
    unmark (before ++ (start ++ nullMark nullable) ++ after) = (start, nullable) := by
  obtain ⟨first, rest, rfl⟩ := List.exists_cons_of_ne_nil hne
  have htrim : Text.trim (before ++ (first :: rest ++ nullMark nullable) ++ after) =
      first :: rest ++ nullMark nullable := by
    refine Text.trim_padded hbefore hafter (List.cons_ne_nil _ _) hhead ?_
    cases nullable with
    | true =>
      rw [nullMark, if_pos rfl, List.getLast?_concat]
      rintro _ ⟨⟩
      decide
    | false =>
      rw [nullMark, if_neg Bool.false_ne_true, List.append_nil]
      exact fun c hc => (hlast c hc).1
  rw [unmark, htrim]
  cases nullable with
  | true => rw [nullMark, if_pos rfl, Text.dropEnding?_eq_some_iff.2 rfl]
  | false =>
    -- the text ends in another character than a question mark
    obtain ⟨init, last, hinit⟩ := (List.eq_nil_or_concat (first :: rest)).resolve_left hne
    have hmark : last ≠ '?' := by
      rw [hinit, List.concat_eq_append, List.getLast?_concat] at hlast
      exact (hlast last rfl).2
    rw [nullMark, if_neg Bool.false_ne_true, List.append_nil, hinit, List.concat_eq_append,
      dropEnding?_singleton_of_ne hmark]

/-- A text is what is left of it without its mark, with the mark after it and white space
around. -/
theorem exists_unmark (text : List Char) : ∃ before after, Text.allBlank before = true ∧
    Text.allBlank after = true ∧
    text = before ++ ((unmark text).1 ++ nullMark (unmark text).2) ++ after := by
  obtain ⟨before, after, hbefore, hafter, htext⟩ := Text.exists_padding text
  refine ⟨before, after, hbefore, hafter, ?_⟩
  have htrim : Text.trim text = (unmark text).1 ++ nullMark (unmark text).2 := by
    unfold unmark
    split
    · next rest hrest => exact Text.dropEnding?_eq_some_iff.1 hrest
    · exact (List.append_nil _).symm
  rwa [htrim] at htext

/-- A declaration in white space is read as the type of its parts. -/
theorem ofText_spelling (argument : Json) {name : String} {kind : PlainKind}
    (hname : (name, kind) ∈ primitiveNames) (nullable : Bool) (pairs : List Brackets) :
    ∀ before after : List Char, Text.allBlank before = true → Text.allBlank after = true →
      ofText argument (before ++ TypeText.spelling name nullable pairs ++ after) =
        .ok (TypeText.typeOf kind nullable pairs) := by
  obtain ⟨hlookup, hne, hhead, hlast, hending⟩ := primitiveNames_spelled hname
  induction pairs using List.reverseRecOn with
  | nil =>
    intro before after hbefore hafter
    have hunmark := unmark_padded nullable hbefore hafter hne hhead hlast
    rw [TypeText.spelling, List.flatMap_nil, List.append_nil]
    apply ofText_of_keyword hunmark hending
    rwa [String.ofList_toList]
  | append_singleton pairs pair ih =>
    intro before after hbefore hafter
    -- the white space before the brackets is that after what stands before them
    have hinner : ofText argument (TypeText.spelling name nullable pairs ++ pair.space) =
        .ok (TypeText.typeOf kind nullable pairs) := ih [] _ rfl pair.blank
    obtain ⟨first, rest, hfirst⟩ := List.exists_cons_of_ne_nil hne
    have hunmark : unmark (before ++ TypeText.spelling name nullable (pairs ++ [pair]) ++ after) =
        (TypeText.spelling name nullable pairs ++ pair.space ++ ['[', ']'], pair.nullable) := by
      rw [TypeText.spelling_concat]
      apply unmark_padded pair.nullable hbefore hafter
      · exact List.append_ne_nil_of_right_ne_nil _ (List.cons_ne_nil _ _)
      · rw [TypeText.spelling, hfirst]
        rw [hfirst] at hhead
        exact hhead
      · rw [List.append_cons, List.getLast?_concat]
        rintro _ ⟨⟩
        decide
    rw [ofText_of_brackets hunmark, hinner, ok_bind, TypeText.typeOf_concat]
    rfl

/-- A text that declares a type has the parts of a declaration of this type. -/
theorem exists_typeText (argument : Json) (text : List Char) :
    ∀ {type}, ofText argument text = .ok type →
      ∃ form : TypeText, form.text = text ∧ form.type = type := by
  fun_induction ofText argument text with
  | case1 text inner hending ih =>
    intro type h
    obtain ⟨item, hitem, h⟩ := bind_eq_ok_iff.1 h
    obtain rfl := Except.ok.inj h
    obtain ⟨form, htext, rfl⟩ := ih hitem
    obtain ⟨before, after, hbefore, hafter, hparts⟩ := exists_unmark text
    refine ⟨{ form with
      before := before ++ form.before
      pairs := form.pairs ++ [⟨form.after, (unmark text).2, form.blankAfter⟩]
      after := after
      blankBefore := ?_
      blankAfter := hafter }, ?_, ?_⟩
    · rw [Text.allBlank_append, hbefore, form.blankBefore]
      rfl
    · rw [Text.dropEnding?_eq_some_iff.1 hending, ← htext] at hparts
      refine Eq.trans ?_ hparts.symm
      simp only [TypeText.text, TypeText.spelling_concat, List.append_assoc]
    · exact TypeText.typeOf_concat _ _ _ _
  | case2 text hending kind hkind =>
    intro type h
    obtain rfl := Except.ok.inj h
    obtain ⟨before, after, hbefore, hafter, hparts⟩ := exists_unmark text
    refine ⟨{
      before := before
      name := String.ofList (unmark text).1
      kind := kind
      nullable := (unmark text).2
      pairs := []
      after := after
      blankBefore := hbefore
      named := mem_primitiveNames_of_lookup hkind
      blankAfter := hafter }, ?_, rfl⟩
    refine Eq.trans ?_ hparts.symm
    simp only [TypeText.text, TypeText.spelling, String.toList_ofList, List.flatMap_nil,
      List.append_nil]
  | case3 text hending hkind =>
    intro type h
    cases h

/-- A text that declares no type is refused, at the argument it is read for. -/
theorem ofText_cases (argument : Json) (text : List Char) :
    (∃ type, ofText argument text = .ok type) ∨
      ∃ rest, ofText argument text = failAt argument (.unknownType rest) := by
  fun_induction ofText argument text with
  | case1 text inner hending ih =>
    rcases ih with ⟨item, hitem⟩ | ⟨rest, hrest⟩
    · exact .inl ⟨_, by rw [hitem]; rfl⟩
    · exact .inr ⟨rest, by rw [hrest]; rfl⟩
  | case2 text hending kind hkind => exact .inl ⟨_, rfl⟩
  | case3 text hending hkind => exact .inr ⟨_, rfl⟩

/-- **The texts that declare a type.**  A text declares a type just when it is made of the parts of
a declaration of this type: a name of a primitive type and pairs of brackets, each with or without
a question mark right after it, and white space around the text and before the brackets.  Every
other text fails as a type that is unknown, at the argument it is read for. -/
theorem ofJson_text_iff (argument : Json) (text : String) :
    (∀ type, ofJson argument (.str text) = .ok type ↔
      ∃ form : TypeText, form.text = text.toList ∧ form.type = type) ∧
    ((∃ cause : Cause, cause.category = .unmapped ∧
        ofJson argument (.str text) = failAt argument cause) ↔
      ¬ ∃ form : TypeText, form.text = text.toList) := by
  have hok : ∀ type, ofText argument text.toList = .ok type ↔
      ∃ form : TypeText, form.text = text.toList ∧ form.type = type := by
    intro type
    constructor
    · exact exists_typeText argument text.toList
    · rintro ⟨form, htext, rfl⟩
      rw [← htext]
      exact ofText_spelling argument form.named form.nullable form.pairs _ _ form.blankBefore
        form.blankAfter
  rw [ofJson]
  refine ⟨hok, ?_⟩
  constructor
  · rintro ⟨cause, -, hfault⟩ ⟨form, htext⟩
    have hread := (hok form.type).2 ⟨form, htext, rfl⟩
    rw [hread] at hfault
    cases hfault
  · intro hnone
    rcases ofText_cases argument text.toList with ⟨type, htype⟩ | ⟨rest, hrest⟩
    · obtain ⟨form, htext, -⟩ := (hok type).1 htype
      exact absurd ⟨form, htext⟩ hnone
    · exact ⟨.unknownType rest, rfl, hrest⟩

example : ["int ?", "int??", "[]", "int[] ?"].all
    (fun text => !(ofText .null text.toList).isOk) = true := by decide +kernel

end SchemaType

end CatalogClasses
