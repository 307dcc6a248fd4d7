/-
# Defaults that fit their types

A default should be written only as a literal of the type that it is declared for.  Numbers and
lists are held to that: one that does not fit its type is refused.  A truth value, a text or an
object is not: it is written in its own way, whatever the type is.  So a value is taken apart
into what its type has types for, a list into its elements wherever a sequence is declared, and
the parts that are written without a test are the ones that may not fit.

Main definitions:

* `SchemaType.fits` : the value is one of the type;
* `SchemaType.parts` : what a value consists of, each with the type for it;
* `SchemaType.writes`, `SchemaType.Refuses` : what becomes of a part.
-/
import CatalogClasses.Proofs.DeclaredTypes

namespace CatalogClasses

open Number

/-! ## Values of a type -/

/-- The value is one of the kind: a number for a floating-point kind, a whole number for an
integer kind, and for an enumeration a whole number or a text.  There are no values of an object
or a column. -/
def PlainKind.fits : PlainKind → Json → Bool
  | boolean, .bool _ => true
  | string, .str _ | char, .str _ | enumeration, .str _ => true
  | integer, .int _ | long, .int _ | enumeration, .int _ => true
  | integer, .float x | long, .float x | enumeration, .float x => x.isWhole
  | float, .int _ | float, .float _ | double, .int _ | double, .float _ => true
  | _, _ => false

/-- The value is one of the type: for a sequence, a list of nulls and of values that fit the
item type. -/
def SchemaType.fits : SchemaType → Json → Bool
  | plain kind _ _, value => kind.fits value
  | sequence item _ _, .arr elements =>
      elements.all fun
        | .null => true
        | element => item.fits element
  | _, _ => false

/-! ## Parts of a value -/

/-- What a value consists of, in order, each with the type for it: where a sequence is declared,
a list consists of what its elements consist of.  A null is nothing. -/
def SchemaType.parts : SchemaType → Json → List (SchemaType × Json)
  | _, .null => []
  | sequence item _ _, .arr elements => elements.flatMap item.parts
  | type, value => [(type, value)]

/-- The value is written without a look at its type. -/
def Json.isUntested : Json → Bool
  | .bool _ | .str _ | .obj _ => true
  | _ => false

namespace SchemaType

/-- The type is one of floating-point numbers, and the value is an integer that is near to none
of them. -/
def isTooLarge (type : SchemaType) : Json → Bool
  | .int n => match type.kind with
    | .plain .float | .plain .double => (Binary64.ofInt? n).isNone
    | _ => false
  | _ => false

/-- The value is written: there is no test for it, or it fits the type and is not too large. -/
def writes (type : SchemaType) (value : Json) : Bool :=
  value.isUntested || (type.fits value && !type.isTooLarge value)

/-- The fault is that the value does not fit the type, or is too large for it. -/
def Refuses (type : SchemaType) (value : Json) : Fault → Prop
  | .failure failure => value.isUntested = false ∧ type.fits value = false ∧
      ∃ cause, failure = .of cause ∧ cause.isOfDefault = true
  | .malformed reason => reason = .tooLarge ∧ type.fits value = true ∧ type.isTooLarge value = true

/-- A value that is refused is not written. -/
theorem Refuses.writes {type : SchemaType} {value : Json} {fault : Fault}
    (h : type.Refuses value fault) : type.writes value = false := by
  cases fault with
  | failure failure =>
    obtain ⟨huntested, hfits, -⟩ := h
    rw [SchemaType.writes, huntested, hfits]
    rfl
  | malformed reason =>
    obtain ⟨-, hfits, hlarge⟩ := h
    have huntested : value.isUntested = false := by
      cases value <;> first | rfl | cases hlarge
    rw [SchemaType.writes, huntested, hfits, hlarge]
    rfl

end SchemaType

/-! ## What becomes of the parts -/

/-- The result is a value and all parts are written, or it is the fault at the first part that
is not. -/
inductive Decided {α : Type} (parts : List (SchemaType × Json)) : Fallible α → Prop
  | written (value : α) : (∀ part ∈ parts, part.1.writes part.2 = true) → Decided parts (.ok value)
  | refused {before part after fault} : parts = before ++ part :: after →
      (∀ earlier ∈ before, earlier.1.writes earlier.2 = true) →
      part.1.Refuses part.2 fault → Decided parts (.error fault)

namespace Decided

variable {α β : Type} {first second : List (SchemaType × Json)}

/-- One computation after another goes through the parts of both. -/
theorem bind {result : Fallible α} {next : α → Fallible β} (hfirst : Decided first result)
    (hsecond : ∀ value, Decided second (next value)) :
    Decided (first ++ second) (result >>= next) := by
  rcases hfirst with ⟨value, hwritten⟩ | ⟨rfl, hearlier, hrefused⟩
  · rw [ok_bind]
    generalize hnext : next value = final
    have hfinal := hsecond value
    rw [hnext] at hfinal
    rcases hfinal with ⟨other, hother⟩ | ⟨rfl, hearlier, hrefused⟩
    · exact .written other (List.forall_mem_append.2 ⟨hwritten, hother⟩)
    · exact .refused (List.append_assoc _ _ _).symm
        (List.forall_mem_append.2 ⟨hwritten, hearlier⟩) hrefused
  · rw [error_bind]
    exact .refused (by rw [List.append_assoc, List.cons_append]) hearlier hrefused

/-- What is made of a value goes through no more parts. -/
theorem map {result : Fallible α} (h : Decided first result) (f : α → β) :
    Decided first (result >>= fun value => .ok (f value)) := by
  have hnone : ∀ value, Decided [] (.ok (f value) : Fallible β) := fun value => .written _ nofun
  simpa using h.bind hnone

/-- A single part that is written. -/
theorem of_writes {type : SchemaType} {value : Json} (h : type.writes value = true) (result : α) :
    Decided [(type, value)] (.ok result) :=
  .written result (List.forall_mem_singleton.2 h)

/-- A single part that is refused. -/
theorem of_refuses {type : SchemaType} {value : Json} {fault : Fault}
    (h : type.Refuses value fault) : Decided [(type, value)] (.error fault : Fallible α) := by
  have hparts : [(type, value)] = [] ++ (type, value) :: [] := rfl
  exact .refused hparts nofun h

end Decided

/-! ## Literals -/

/-- Where a floating-point number is wanted, an integer is one unless it is too large. -/
theorem decided_toFloat {type : SchemaType}
    (h : type.kind = .plain .float ∨ type.kind = .plain .double) (n : Int) :
    Decided [(type, .int n)] (toFloat n) := by
  have hfits : type.fits (.int n) = true := by
    rcases type with ⟨kind, name, nullable⟩ | _ | _ <;> rcases h with ⟨⟨⟩⟩ | ⟨⟨⟩⟩ <;> rfl
  have hlarge : type.isTooLarge (.int n) = (Binary64.ofInt? n).isNone := by
    rw [SchemaType.isTooLarge]
    rcases h with h | h <;> rw [h]
  unfold toFloat
  cases hnear : Binary64.ofInt? n with
  | some x =>
    refine .of_writes ?_ x
    rw [SchemaType.writes, hfits, hlarge, hnear]
    rfl
  | none => exact .of_refuses ⟨rfl, hfits, by rw [hlarge, hnear]; rfl⟩

/-- An integer is written if it fits the type and is not too large. -/
theorem decided_integerLiteral (type : SchemaType) (n : Int) :
    Decided [(type, .int n)] (integerLiteral type n) := by
  rcases type with ⟨kind, name, nullable⟩ | _ | _
  · cases kind with
    | integer | long | enumeration => exact .of_writes rfl _
    | float => exact (decided_toFloat (.inl rfl) n).map _
    | double => exact (decided_toFloat (.inr rfl) n).map _
    | boolean | string | char | object | column => exact .of_refuses ⟨rfl, rfl, _, rfl, rfl⟩
  · exact .of_refuses ⟨rfl, rfl, _, rfl, rfl⟩
  · exact .of_refuses ⟨rfl, rfl, _, rfl, rfl⟩

/-- Where an integer is wanted, a number is written if it is whole. -/
theorem decided_wholeLiteral {type : SchemaType} {x : Binary64} {cause : Cause}
    (hfits : type.fits (.float x) = x.isWhole) (hcause : cause.isOfDefault = true)
    (hliteral : ∀ n, ∃ text, integerLiteral type n = .ok text) :
    Decided [(type, .float x)]
      (if x.isWhole then integerLiteral type x.truncate else failWith cause) := by
  split
  · next hwhole =>
    obtain ⟨text, htext⟩ := hliteral x.truncate
    rw [htext]
    refine .of_writes ?_ text
    rw [SchemaType.writes, hfits, hwhole]
    rfl
  · next hwhole =>
    rw [Bool.not_eq_true] at hwhole
    exact .of_refuses ⟨rfl, hfits.trans hwhole, cause, rfl, hcause⟩

/-- A floating-point number is written if it fits the type. -/
theorem decided_numberLiteral (type : SchemaType) (x : Binary64) :
    Decided [(type, .float x)] (numberLiteral type x) := by
  rcases type with ⟨kind, name, nullable⟩ | _ | _
  · cases kind with
    | float | double => exact .of_writes rfl _
    | integer | long | enumeration => exact decided_wholeLiteral rfl rfl fun n => ⟨_, rfl⟩
    | boolean | string | char | object | column => exact .of_refuses ⟨rfl, rfl, _, rfl, rfl⟩
  · exact .of_refuses ⟨rfl, rfl, _, rfl, rfl⟩
  · exact .of_refuses ⟨rfl, rfl, _, rfl, rfl⟩

/-- A value other than a list for a sequence is its only part. -/
theorem SchemaType.parts_of_single {type : SchemaType} {value : Json} (hnull : value ≠ .null)
    (hlist : ∀ elements, value = .arr elements → type.item? = none) :
    type.parts value = [(type, value)] := by
  unfold parts
  split
  · exact absurd rfl hnull
  · cases hlist _ rfl
  · rfl

/-- A list fits no type that has no item type. -/
theorem SchemaType.fits_arr_of_item? {type : SchemaType} (h : type.item? = none)
    (elements : List Json) : type.fits (.arr elements) = false := by
  rcases type with ⟨kind, name, nullable⟩ | _ | _
  · cases kind <;> rfl
  · cases h
  · rfl

/-- A value other than a list for a sequence is written if there is no test for it, or else if it
fits the type. -/
theorem decided_of_single (type : SchemaType) {value : Json}
    (hlist : ∀ elements, value = .arr elements → type.item? = none) :
    Decided (type.parts value) (literal? value type) := by
  by_cases hnull : value = .null
  · rw [hnull, SchemaType.parts]
    exact .written _ nofun
  rw [SchemaType.parts_of_single hnull hlist]
  cases value with
  | null => exact absurd rfl hnull
  | bool | str | obj => exact .of_writes rfl _
  | int n =>
    rw [literal?]
    exact (decided_integerLiteral type n).map _
  | float x =>
    rw [literal?]
    exact (decided_numberLiteral type x).map _
  | arr elements =>
    have hitem := hlist elements rfl
    rw [literal?, hitem]
    exact .of_refuses ⟨rfl, SchemaType.fits_arr_of_item? hitem elements, _, rfl, rfl⟩

/-- The literals of elements go through the parts of all of them. -/
theorem decided_literals {item : SchemaType}
    (h : ∀ value, Decided (item.parts value) (literal? value item)) (elements : List Json) :
    Decided (elements.flatMap item.parts) (literals elements item) := by
  induction elements with
  | nil => exact .written _ nofun
  | cons value rest ih =>
    rw [literals, List.flatMap_cons]
    exact (h value).bind fun first => ih.map _

/-- **The parts of a value decide its literal**, if the item types inside the type have names. -/
theorem decided_literal? {type : SchemaType}
    (hnames : ∀ item ∈ type.itemTypes, ∃ name, item.spelled = .ok name) (value : Json) :
    Decided (type.parts value) (literal? value type) := by
  induction type generalizing value with
  | plain kind name nullable => exact decided_of_single _ fun elements _ => rfl
  | sequence item name nullable ih =>
    obtain ⟨⟨itemName, hitem⟩, hinner⟩ := List.forall_mem_cons.1 hnames
    by_cases hlist : ∃ elements, value = .arr elements
    · obtain ⟨elements, rfl⟩ := hlist
      rw [literal?]
      show Decided (elements.flatMap item.parts) (item.spelled >>= _)
      rw [hitem, ok_bind]
      exact (decided_literals (ih hinner) elements).map _
    · exact decided_of_single _ fun elements h => absurd ⟨elements, h⟩ hlist
  | bareSequence name nullable => exact decided_of_single _ fun elements _ => rfl

/-! ## Values and their parts -/

namespace SchemaType

/-- A value other than null fits a type just when all its parts fit. -/
theorem fits_iff_parts {type : SchemaType} {value : Json} (hnull : value ≠ .null) :
    type.fits value = true ↔ ∀ part ∈ type.parts value, part.1.fits part.2 = true := by
  have hsingle : ∀ {type : SchemaType} {value : Json}, value ≠ .null →
      (∀ elements, value = .arr elements → type.item? = none) →
      (type.fits value = true ↔ ∀ part ∈ type.parts value, part.1.fits part.2 = true) := by
    intro type value hnull hlist
    rw [parts_of_single hnull hlist, List.forall_mem_singleton]
  induction type generalizing value with
  | plain kind name nullable => exact hsingle hnull fun elements _ => rfl
  | sequence item name nullable ih =>
    by_cases hlist : ∃ elements, value = .arr elements
    · obtain ⟨elements, rfl⟩ := hlist
      rw [fits, parts, List.all_eq_true, List.forall_mem_flatMap]
      refine forall₂_congr fun element _ => ?_
      by_cases helement : element = .null
      · rw [helement, parts]
        exact iff_of_true rfl nofun
      · refine Iff.trans ?_ (ih helement)
        cases element <;> first | exact Iff.rfl | exact absurd rfl helement
    · exact hsingle hnull fun elements h => absurd ⟨elements, h⟩ hlist
  | bareSequence name nullable => exact hsingle hnull fun elements _ => rfl

end SchemaType

/-- Only null has no literal. -/
theorem eq_null_of_literal? {value : Json} {type : SchemaType}
    (h : literal? value type = .ok none) : value = .null := by
  cases value with
  | null => rfl
  | bool | str | obj => cases h
  | int | float =>
    rw [literal?] at h
    obtain ⟨text, -, h⟩ := bind_eq_ok_iff.1 h
    cases h
  | arr elements =>
    rw [literal?] at h
    split at h
    · cases h
    · obtain ⟨itemName, -, h⟩ := bind_eq_ok_iff.1 h
      obtain ⟨texts, -, h⟩ := bind_eq_ok_iff.1 h
      cases h

/-- A default that is no value of its type counts as an unmapped type. -/
theorem Cause.category_of_isOfDefault {cause : Cause} (h : cause.isOfDefault = true) :
    cause.category = .unmapped := by
  cases cause <;> first | rfl | cases h

namespace SchemaType

/-- The item types inside a type that a catalog declares have names. -/
theorem spelled_itemTypes_of_ofJson {argument entry : Json} {type : SchemaType}
    (hnames : entry.namesAreTexts = true) (h : ofJson argument entry = .ok type) :
    ∀ item ∈ type.itemTypes, ∃ name, item.spelled = .ok name := by
  intro item hitem
  have hnameable := isNameable_of_mem_itemTypes (isNameable_of_ofJson argument entry hnames h)
  obtain ⟨name, hname⟩ := spelled_of_isNameable (hnameable item hitem)
  exact ⟨.str name, hname⟩

/-- **When a default is a literal of its type.**  Let the item types inside a type have names.
A value other than null is written just when all its parts are, those that no test is made for
and those that fit and are not too large.  If it is written, it fits the type just when the
parts that no test is made for do.  If it is not, the fault is that of the first part that is
not: an unmapped value that does not fit, or an integer that is too large. -/
theorem literal?_by_parts {type : SchemaType}
    (hnames : ∀ item ∈ type.itemTypes, ∃ name, item.spelled = .ok name) {value : Json}
    (hnull : value ≠ .null) :
    ((∃ text, literal? value type = .ok (some text)) ↔
      ∀ part ∈ type.parts value, part.1.writes part.2 = true) ∧
    (∀ text, literal? value type = .ok (some text) →
      (type.fits value = true ↔
        ∀ part ∈ type.parts value, part.2.isUntested = true → part.1.fits part.2 = true)) ∧
    ∀ fault, literal? value type = .error fault →
      (∃ before part after, type.parts value = before ++ part :: after ∧
        (∀ earlier ∈ before, earlier.1.writes earlier.2 = true) ∧
        part.1.Refuses part.2 fault) ∧
      ∀ failure, fault = .failure failure → failure.cause.category = .unmapped := by
  have hdecided := decided_literal? hnames value
  generalize hresult : literal? value type = result at hdecided
  rcases hdecided with ⟨text?, hwritten⟩ | @⟨before, part, after, fault, hparts, hearlier, hrefused⟩
  · refine ⟨iff_of_true ?_ hwritten, ?_, nofun⟩
    · cases text? with
      | none => exact absurd (eq_null_of_literal? hresult) hnull
      | some text => exact ⟨text, rfl⟩
    · intro text _
      rw [fits_iff_parts hnull]
      refine forall₂_congr fun part hpart => ⟨fun hfits _ => hfits, fun huntested => ?_⟩
      -- a part that is written without a test is one that need not fit
      rcases Bool.or_eq_true_iff.1 (hwritten part hpart) with h | h
      · exact huntested h
      · exact (Bool.and_eq_true_iff.1 h).1
  · refine ⟨iff_of_false nofun ?_, nofun, ?_⟩
    · intro hwritten
      have hpart := hwritten part (by rw [hparts]; simp)
      rw [hrefused.writes] at hpart
      cases hpart
    · intro other hother
      obtain rfl := Except.error.inj hother
      refine ⟨⟨before, part, after, hparts, hearlier, hrefused⟩, ?_⟩
      rintro failure rfl
      obtain ⟨-, -, cause, rfl, hcause⟩ := hrefused
      exact Cause.category_of_isOfDefault hcause

end SchemaType

/-- A list of whole numbers in either notation, and a null in place of another list. -/
def Json.wholeNumbers : Json := .arr [.arr [.int 1, .float (.zero false)], .null]

namespace SchemaType

/-- Lists of whole numbers are written for the type that a text declares, and they fit it. -/
theorem literal?_of_wholeNumbers :
    ∃ type, ofJson .null (.str "int[][]") = .ok type ∧
      (∀ item ∈ type.itemTypes, ∃ name, item.spelled = .ok name) ∧
      Json.wholeNumbers ≠ .null ∧
      ∃ text, literal? Json.wholeNumbers type = .ok (some text) ∧
        type.fits Json.wholeNumbers = true := by
  let type : SchemaType :=
    sequence (sequence (plain .integer (.str "") false) (.str "") false) (.str "") false
  have hread : ofJson .null (.str "int[][]") = .ok type := by
    have hover : type.isOver PlainKind.isPrimitive = true := rfl
    rw [ofJson]
    exact ofText_nameText .null hover ⟨rfl, rfl, rfl⟩
  have hnames := spelled_itemTypes_of_ofJson rfl hread
  have hnull : Json.wholeNumbers ≠ .null := by
    intro h
    cases h
  obtain ⟨hwritten, hfits, -⟩ := literal?_by_parts hnames hnull
  obtain ⟨text, htext⟩ := hwritten.2 (by decide +kernel)
  exact ⟨type, hread, hnames, hnull, text, htext, (hfits text htext).2 (by decide +kernel)⟩

/-- A truth value is written for an integer type, which it does not fit. -/
theorem literal?_of_unfitting :
    ∃ type, ofJson .null (.str "int") = .ok type ∧ type.fits (.bool true) = false ∧
      literal? (.bool true) type = .ok (some "true") := by
  have hover : (plain .integer (.str "") false).isOver PlainKind.isPrimitive = true := rfl
  refine ⟨plain .integer (.str "") false, ?_, rfl, rfl⟩
  rw [ofJson]
  exact ofText_nameText .null hover rfl

end SchemaType

end CatalogClasses
