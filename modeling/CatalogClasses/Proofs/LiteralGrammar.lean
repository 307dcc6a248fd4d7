/-
# The grammar of C# literals

What C# takes for a literal of each primitive kind, character by character, and which of the
literals that are written for values are such.  All numbers and truth values are.  A string literal
is, unless it has a character in it that ends a line of C#: of these only line feeds and carriage
returns are escaped.  A character literal is just when its text is one character, of one unit of
sixteen bits, that ends no line.

Main definitions:

* `CSharp.IsDigits`, `CSharp.IsReal`, `CSharp.IsPart` : parts of literals;
* `PlainKind.IsLiteral` : a text is a literal of a primitive kind;
* `PlainKind.isWritable` : the literal of a value is one.
-/
import Mathlib.Data.List.TakeWhile
import CatalogClasses.Proofs.FittingDefaults
import CatalogClasses.Proofs.Literals

namespace CatalogClasses

open Number

namespace CSharp

/-! ## Numbers -/

/-- Decimal digits, at least one. -/
def IsDigits (text : List Char) : Prop := text ≠ [] ∧ ∀ c ∈ text, c.isDigit = true

/-- The exponent of a real literal. -/
inductive IsExponent : List Char → Prop
  | signed {sign : Char} {power : List Char} : sign = '+' ∨ sign = '-' → IsDigits power →
      IsExponent ('e' :: sign :: power)

/-- A real literal without an ending: digits with a point before the last of them, with an exponent
or without, or digits with an exponent. -/
inductive IsReal : List Char → Prop
  | point {whole fraction : List Char} : (∀ c ∈ whole, c.isDigit = true) → IsDigits fraction →
      IsReal (whole ++ '.' :: fraction)
  | pointAndExponent {whole fraction exponent : List Char} : (∀ c ∈ whole, c.isDigit = true) →
      IsDigits fraction → IsExponent exponent → IsReal (whole ++ '.' :: fraction ++ exponent)
  | exponent {whole exponent : List Char} : IsDigits whole → IsExponent exponent →
      IsReal (whole ++ exponent)

/-- A number of some form, with a minus sign before it or without. -/
def Signed (form : List Char → Prop) (text : List Char) : Prop :=
  form text ∨ ∃ magnitude, form magnitude ∧ text = '-' :: magnitude

theorem isDigits_zero : IsDigits ['0'] := ⟨List.cons_ne_nil _ _, List.forall_mem_singleton.2 rfl⟩

theorem isDigits_digits (n : Nat) : IsDigits (digits n) :=
  ⟨digits_ne_nil n, isDigit_of_mem_digits n⟩

theorem signed_integerText (n : Int) : Signed IsDigits (integerText n) := by
  cases n with
  | ofNat n => exact .inl (isDigits_digits n)
  | negSucc n => exact .inr ⟨_, isDigits_digits (n + 1), rfl⟩

/-! ### Double-precision numbers -/

/-- Zeros stand for zero. -/
theorem ofDigits_of_zeros {text : List Char} (h : ∀ c ∈ text, c = '0') : ofDigits text = 0 := by
  have hzeros : ∀ count, ofDigits (List.replicate count '0') = 0 := by
    intro count
    induction count with
    | zero => rfl
    | succ count ih =>
      rw [List.replicate_succ', ofDigits_append_singleton, ih]
      rfl
  rw [List.eq_replicate_of_mem h]
  exact hzeros _

/-- The digits of a positive number are not all zeros. -/
theorem isDigits_of_pos {n : Nat} (h : 0 < n) :
    IsDigits ((digits n).reverse.dropWhile (· == '0')).reverse := by
  constructor
  · intro hnil
    have hdropped := List.reverse_eq_nil_iff.1 hnil
    have hzeros : ∀ c ∈ digits n, c = '0' := by
      intro c hc
      have hall := List.dropWhile_eq_nil_iff.1 hdropped c (List.mem_reverse.2 hc)
      exact eq_of_beq hall
    have hzero := ofDigits_of_zeros hzeros
    rw [ofDigits_digits] at hzero
    omega
  · intro c hc
    have hmem := (List.dropWhile_sublist _).subset (List.mem_reverse.1 hc)
    exact isDigit_of_mem_digits n c (List.mem_reverse.1 hmem)

/-- A number that is not zero lies in an interval above zero. -/
theorem interval_pos {x : Binary64} (h : x.isZero = false) :
    0 < x.interval.value ∧ 0 < x.interval.low ∧ 0 < x.interval.high := by
  have hpos : 0 < x.significand := by
    unfold Binary64.significand
    split
    · next hexponent =>
      rw [Binary64.isZero, hexponent] at h
      have hfraction : x.fraction ≠ 0 := by simpa using h
      exact Nat.pos_of_ne_zero fun hval => hfraction (Fin.ext hval)
    · exact Nat.add_pos_left (Nat.pow_pos (by decide)) _
  unfold Binary64.interval
  dsimp only
  split <;> omega

/-- Zero is not in an interval above zero, on whatever grid. -/
theorem holds_zero {i : Interval} (hlow : 0 < i.low) (hhigh : 0 < i.high) (p : Int) :
    i.holds 0 p = false := by
  have hpowers : 0 < (twoPower i.scale).1 * (tenPower p).2 := by
    unfold twoPower tenPower
    split <;> split <;> simp [Nat.pow_pos]
  have hlow : 0 < i.low * (twoPower i.scale).1 * (tenPower p).2 := by
    rw [Nat.mul_assoc]
    exact Nat.mul_pos hlow hpowers
  have hhigh : 0 < i.high * (twoPower i.scale).1 * (tenPower p).2 := by
    rw [Nat.mul_assoc]
    exact Nat.mul_pos hhigh hpowers
  simp only [Interval.holds, Nat.zero_mul, Nat.not_lt_zero, decide_false, Bool.false_and,
    Bool.false_or]
  rw [beq_false_of_ne (Nat.ne_of_lt hlow), beq_false_of_ne (Nat.ne_of_lt hhigh), Bool.or_false,
    Bool.and_false]

/-- What is found for an interval above zero is not zero. -/
theorem search_pos {i : Interval} (hvalue : 0 < i.value) (hlow : 0 < i.low) (hhigh : 0 < i.high)
    (count : Nat) : ∀ p, 0 < (i.search count p).1 := by
  have hgrid : ∀ {n p}, i.onGrid? p = some n → 0 < n := by
    intro n p h
    unfold Interval.onGrid? at h
    dsimp only at h
    split at h
    · next hlower _ =>
      obtain rfl := Option.some.inj h
      split
      · refine Nat.pos_of_ne_zero fun hzero => ?_
        rw [hzero, holds_zero hlow hhigh] at hlower
        cases hlower
      · exact Nat.succ_pos _
    · next hlower _ =>
      obtain rfl := Option.some.inj h
      refine Nat.pos_of_ne_zero fun hzero => ?_
      rw [hzero, holds_zero hlow hhigh] at hlower
      cases hlower
    · obtain rfl := Option.some.inj h
      exact Nat.succ_pos _
    · cases h
  induction count with
  | zero => exact fun p => hvalue
  | succ count ih =>
    intro p
    unfold Interval.search
    cases h : i.onGrid? p with
    | some n => exact hgrid h
    | none => exact ih (p - 1)

/-- A number that is not zero has digits. -/
theorem isDigits_shortest {x : Binary64} (h : x.isZero = false) : IsDigits (shortest x).1 := by
  obtain ⟨hvalue, hlow, hhigh⟩ := interval_pos h
  exact isDigits_of_pos (search_pos hvalue hlow hhigh 17 _)

theorem isExponent_exponentText (e : Int) : IsExponent ('e' :: exponentText e) := by
  have hpower : IsDigits
      (if (digits e.natAbs).length < 2 then '0' :: digits e.natAbs else digits e.natAbs) := by
    split
    · exact ⟨List.cons_ne_nil _ _, List.forall_mem_cons.2 ⟨rfl, isDigit_of_mem_digits _⟩⟩
    · exact isDigits_digits _
  refine .signed ?_ hpower
  split
  · exact .inr rfl
  · exact .inl rfl

theorem isReal_positionalText {ds : List Char} (h : IsDigits ds) (point : Int) :
    IsReal (positionalText ds point) := by
  have hzeros : ∀ n, ∀ c ∈ List.replicate n '0', c.isDigit = true := by
    intro n c hc
    rw [List.eq_of_mem_replicate hc]
    rfl
  unfold positionalText
  split
  · exact .point isDigits_zero.2 ⟨List.append_ne_nil_of_right_ne_nil _ h.1,
      List.forall_mem_append.2 ⟨hzeros _, h.2⟩⟩
  · split
    · exact .point (List.forall_mem_append.2 ⟨h.2, hzeros _⟩) isDigits_zero
    · next hlength =>
      have hdrop : ds.drop point.toNat ≠ [] := by
        rw [ne_eq, List.drop_eq_nil_iff]
        exact hlength
      exact .point (fun c hc => h.2 c (List.mem_of_mem_take hc))
        ⟨hdrop, fun c hc => h.2 c (List.mem_of_mem_drop hc)⟩

theorem isReal_scientificText {ds : List Char} (h : IsDigits ds) (point : Int) :
    IsReal (scientificText ds point) := by
  obtain ⟨hne, hall⟩ := h
  have hexponent := isExponent_exponentText (point - 1)
  cases ds with
  | nil => exact absurd rfl hne
  | cons d rest =>
    have hd : ∀ c ∈ [d], c.isDigit = true :=
      List.forall_mem_singleton.2 (hall d List.mem_cons_self)
    cases rest with
    | nil => exact .exponent ⟨List.cons_ne_nil _ _, hd⟩ hexponent
    | cons e more =>
      have hfraction : IsDigits (e :: more) :=
        ⟨List.cons_ne_nil _ _, fun c hc => hall c (List.mem_cons_of_mem _ hc)⟩
      exact .pointAndExponent hd hfraction hexponent

/-- The text of a number with a value is a real literal, with a sign or without. -/
theorem signed_text {x : Binary64} (hnan : x.isNaN = false) (hinfinite : x.isInfinite = false) :
    Signed IsReal x.text := by
  have hmagnitude : IsReal (magnitudeText x) := by
    unfold magnitudeText
    cases hzero : x.isZero with
    | true => exact .point isDigits_zero.2 isDigits_zero
    | false =>
      have hdigits := isDigits_shortest hzero
      show IsReal (if -4 < (shortest x).2 ∧ (shortest x).2 ≤ 16 then _ else _)
      split
      · exact isReal_positionalText hdigits _
      · exact isReal_scientificText hdigits _
  unfold Binary64.text
  rw [hnan, hinfinite]
  cases x.negative with
  | true => exact .inr ⟨_, hmagnitude, rfl⟩
  | false => exact .inl hmagnitude

/-! ## Texts and characters -/

/-- A character that ends a line of C#. -/
def isLineEnd (c : Char) : Bool := [10, 13, 0x85, 0x2028, 0x2029].contains c.toNat

def isHexDigit (c : Char) : Bool :=
  c.isDigit || (97 ≤ c.toNat && c.toNat ≤ 102) || (65 ≤ c.toNat && c.toNat ≤ 70)

/-- How many digits an escape by a code may have. -/
def codeLengths : Char → List Nat
  | 'x' => [1, 2, 3, 4]
  | 'u' => [4]
  | 'U' => [8]
  | _ => []

/-- The characters that a backslash may stand before. -/
def simpleEscapes : List Char := ['\'', '"', '\\', '0', 'a', 'b', 'f', 'n', 'r', 't', 'v']

/-- A part of a text between quotes: a character that stands for itself, a simple escape, or an
escape by a code. -/
inductive IsPart (quote : Char) : List Char → Prop
  | character {c : Char} : c ≠ quote → c ≠ '\\' → isLineEnd c = false → IsPart quote [c]
  | simple {c : Char} : c ∈ simpleEscapes → IsPart quote ['\\', c]
  | code {c : Char} {codeDigits : List Char} : codeDigits.length ∈ codeLengths c →
      (∀ d ∈ codeDigits, isHexDigit d = true) → IsPart quote ('\\' :: c :: codeDigits)

/-- A string literal: any number of parts between quotes. -/
def IsString (text : List Char) : Prop :=
  ∃ parts : List (List Char), (∀ part ∈ parts, IsPart '"' part) ∧
    text = '"' :: (parts.flatten ++ ['"'])

/-- A character literal: one part between quotes, for one unit of sixteen bits. -/
def IsCharacter (text : List Char) : Prop :=
  ∃ part, IsPart '\'' part ∧ (∀ c ∈ part, c.toNat < 0x10000) ∧
    text = '\'' :: (part ++ ['\''])

/-- Only three letters begin an escape by a code. -/
theorem codeLengths_ne_nil {c : Char} {length : Nat} (h : length ∈ codeLengths c) :
    c = 'x' ∨ c = 'u' ∨ c = 'U' := by
  unfold codeLengths at h
  split at h
  · exact .inl rfl
  · exact .inr (.inl rfl)
  · exact .inr (.inr rfl)
  · cases h

/-- A part has no character that ends a line. -/
theorem isLineEnd_of_mem_part {quote : Char} {part : List Char} (h : IsPart quote part) :
    ∀ c ∈ part, isLineEnd c = false := by
  have hhex : ∀ {d : Char}, isHexDigit d = true → isLineEnd d = false := by
    intro d hd
    rw [Bool.eq_false_iff]
    intro hend
    simp only [isLineEnd, List.contains_iff_mem, List.mem_cons, List.not_mem_nil, or_false] at hend
    have hd : isHexDigit (Char.ofNat d.toNat) = true := by rwa [Char.ofNat_toNat]
    rcases hend with hend | hend | hend | hend | hend <;> rw [hend] at hd <;> revert hd <;> decide
  have hsimple : ∀ d ∈ simpleEscapes, isLineEnd d = false := by
    have hall : (simpleEscapes.any isLineEnd) = false := by decide
    exact fun d hd => Bool.eq_false_iff.2 (List.any_eq_false.1 hall d hd)
  have hbackslash : isLineEnd '\\' = false := by decide
  cases h with
  | character hquote hbackslash hend => exact List.forall_mem_singleton.2 hend
  | simple hc =>
    exact List.forall_mem_cons.2 ⟨hbackslash, List.forall_mem_singleton.2 (hsimple _ hc)⟩
  | code hlength hdigits =>
    refine List.forall_mem_cons.2 ⟨hbackslash, List.forall_mem_cons.2 ⟨?_, ?_⟩⟩
    · rcases codeLengths_ne_nil hlength with rfl | rfl | rfl <;> decide
    · exact fun d hd => hhex (hdigits d hd)

/-- The character is written in a string literal so that it ends no line. -/
def keepsString (c : Char) : Bool := !isLineEnd c || c == '\n' || c == '\r'

/-- A character that is written as a backslash and a letter is a part. -/
theorem isPart_of_unescaped {quote c d : Char} (h : unescaped? d = some c) :
    IsPart quote ['\\', d] := by
  refine .simple ?_
  unfold unescaped? at h
  split at h <;> first | decide | cases h

/-- What is written for a character of a string literal is a part of it just when it ends no
line. -/
theorem isPart_stringChar_iff {c : Char} : IsPart '"' (stringChar c) ↔ keepsString c = true := by
  rcases escapes_stringChar c with ⟨hchar, hquote, hbackslash⟩ | ⟨d, hchar, hd⟩
  · have hfeed : c ≠ '\n' := by
      rintro rfl
      cases hchar
    have hreturn : c ≠ '\r' := by
      rintro rfl
      cases hchar
    rw [hchar, keepsString, beq_false_of_ne hfeed, beq_false_of_ne hreturn, Bool.or_false,
      Bool.or_false, Bool.not_eq_true']
    constructor
    · intro h
      exact isLineEnd_of_mem_part h c (List.mem_singleton_self c)
    · exact .character hquote hbackslash
  · refine iff_of_true ?_ ?_
    · rw [hchar]
      exact isPart_of_unescaped hd
    · unfold unescaped? at hd
      split at hd <;> first | (cases hd; decide) | cases hd

theorem toList_stringLiteral (text : String) :
    (stringLiteral text).toList = '"' :: (text.toList.flatMap stringChar ++ ['"']) := by
  have h := toList_quoted (show "\"".toList = ['"'] from rfl) (text.toList.flatMap stringChar) []
  rwa [List.append_nil] at h

theorem toList_charLiteral (text : String) :
    (charLiteral text).toList = '\'' :: (text.toList.flatMap charChar ++ ['\'']) := by
  have h := toList_quoted (show "'".toList = ['\''] from rfl) (text.toList.flatMap charChar) []
  rwa [List.append_nil] at h

/-- The literal of a text is a string literal just when all its characters are kept. -/
theorem isString_stringLiteral_iff (text : String) :
    IsString (stringLiteral text).toList ↔ text.toList.all keepsString = true := by
  rw [toList_stringLiteral, List.all_eq_true]
  constructor
  · rintro ⟨parts, hparts, hsame⟩ c hc
    have hflat : text.toList.flatMap stringChar = parts.flatten :=
      List.append_cancel_right (List.cons.inj hsame).2
    refine isPart_stringChar_iff.1 ?_
    rcases escapes_stringChar c with ⟨hchar, hquote, hbackslash⟩ | ⟨d, hchar, hd⟩
    · -- a character that stands for itself is in some part
      have hmem : c ∈ text.toList.flatMap stringChar :=
        List.mem_flatMap.2 ⟨c, hc, by rw [hchar]; exact List.mem_singleton_self c⟩
      rw [hflat] at hmem
      obtain ⟨part, hpart, hmem⟩ := List.mem_flatten.1 hmem
      rw [hchar]
      exact .character hquote hbackslash (isLineEnd_of_mem_part (hparts part hpart) c hmem)
    · rw [hchar]
      exact isPart_of_unescaped hd
  · intro hall
    refine ⟨text.toList.map stringChar, ?_, rfl⟩
    intro part hpart
    obtain ⟨c, hc, rfl⟩ := List.mem_map.1 hpart
    exact isPart_stringChar_iff.2 (hall c hc)

/-- The text is one character, of one unit of sixteen bits, that ends no line. -/
def keepsCharacter : List Char → Bool
  | [c] => !isLineEnd c && c.toNat < 0x10000
  | _ => false

/-- In a character literal a backslash and the quote are written after a backslash. -/
theorem charChar_cases (c : Char) :
    (charChar c = [c] ∧ c ≠ '\'' ∧ c ≠ '\\') ∨
      charChar c = ['\\', c] ∧ (c = '\\' ∨ c = '\'') := by
  unfold charChar
  split
  · exact .inr ⟨rfl, .inl rfl⟩
  · exact .inr ⟨rfl, .inr rfl⟩
  · next hbackslash hquote => exact .inl ⟨rfl, hquote, hbackslash⟩

/-- What is written for a text is one part of a character literal just when the text is one
character that ends no line. -/
theorem isPart_flatMap_charChar_iff {text : List Char} :
    IsPart '\'' (text.flatMap charChar) ↔ ∃ c, text = [c] ∧ isLineEnd c = false := by
  have hnil : ∀ {rest : List Char}, rest.flatMap charChar = [] → rest = [] := by
    intro rest h
    cases rest with
    | nil => rfl
    | cons c rest =>
      rcases charChar_cases c with ⟨hc, -⟩ | ⟨hc, -⟩ <;> rw [List.flatMap_cons, hc] at h <;> cases h
  constructor
  · intro h
    cases text with
    | nil => cases h
    | cons c rest =>
      rw [List.flatMap_cons] at h
      generalize hothers : rest.flatMap charChar = others at h
      rcases charChar_cases c with ⟨hc, -, hbackslash⟩ | ⟨hc, hescaped⟩
      · rw [hc] at h
        cases h with
        | character _ _ hend => exact ⟨c, by rw [hnil hothers], hend⟩
        | simple | code => exact absurd rfl hbackslash
      · rw [hc] at h
        cases h with
        | simple =>
          refine ⟨c, by rw [hnil hothers], ?_⟩
          rcases hescaped with rfl | rfl <;> decide
        | code hlength => rcases hescaped with rfl | rfl <;> cases hlength
  · rintro ⟨c, rfl, hend⟩
    rw [List.flatMap_singleton]
    rcases charChar_cases c with ⟨hc, hquote, hbackslash⟩ | ⟨hc, hescaped⟩
    · rw [hc]
      exact .character hquote hbackslash hend
    · rw [hc]
      rcases hescaped with rfl | rfl <;> exact .simple (by decide)

/-- What is written for a character is of single units just when the character is. -/
theorem charChar_units (c : Char) :
    (∀ d ∈ charChar c, d.toNat < 0x10000) ↔ c.toNat < 0x10000 := by
  have hbackslash : '\\'.toNat < 0x10000 := by decide
  rcases charChar_cases c with ⟨hc, -⟩ | ⟨hc, -⟩
  · rw [hc, List.forall_mem_singleton]
  · rw [hc, List.forall_mem_cons, List.forall_mem_singleton, and_iff_right hbackslash]

/-- The literal of a text is a character literal just when the text is such a character. -/
theorem isCharacter_charLiteral_iff (text : String) :
    IsCharacter (charLiteral text).toList ↔ keepsCharacter text.toList = true := by
  rw [toList_charLiteral]
  generalize text.toList = chars
  constructor
  · rintro ⟨part, hpart, hunits, hsame⟩
    obtain rfl : chars.flatMap charChar = part :=
      List.append_cancel_right (List.cons.inj hsame).2
    obtain ⟨c, rfl, hend⟩ := isPart_flatMap_charChar_iff.1 hpart
    rw [List.flatMap_singleton, charChar_units] at hunits
    rw [keepsCharacter, hend]
    exact decide_eq_true hunits
  · intro hkept
    match chars, hkept with
    | [c], hkept =>
      rw [keepsCharacter, Bool.and_eq_true, Bool.not_eq_true', decide_eq_true_eq] at hkept
      obtain ⟨hend, hunit⟩ := hkept
      have hunits := (charChar_units c).2 hunit
      rw [← List.flatMap_singleton charChar c] at hunits
      exact ⟨_, isPart_flatMap_charChar_iff.2 ⟨c, rfl, hend⟩, hunits, rfl⟩

/-! ## Floating-point types -/

/-- A literal of a floating-point type: a real literal with the ending of the type, or one of its
constants. -/
def IsFloating (keyword : String) (ending text : List Char) : Prop :=
  (∃ number, Signed IsReal number ∧ text = number ++ ending) ∨
    text ∈ [".NaN", ".PositiveInfinity", ".NegativeInfinity"].map fun name =>
      (keyword ++ name).toList

theorem isFloating_floatLiteral (keyword ending : String) (x : Binary64) :
    IsFloating keyword ending.toList (floatLiteral keyword ending x).toList := by
  unfold floatLiteral
  cases hnan : x.isNaN with
  | true => exact .inr List.mem_cons_self
  | false =>
    cases hinfinite : x.isInfinite with
    | true =>
      right
      cases x.negative with
      | true => exact List.mem_cons_of_mem _ (List.mem_cons_of_mem _ List.mem_cons_self)
      | false => exact List.mem_cons_of_mem _ List.mem_cons_self
    | false =>
      refine .inl ⟨x.text, signed_text hnan hinfinite, ?_⟩
      simp only [Bool.false_eq_true, if_false, String.toList_append, String.toList_ofList]

end CSharp

/-! ## Literals of the primitive kinds -/

namespace PlainKind

open CSharp

/-- The text is a literal of the kind. -/
def IsLiteral : PlainKind → List Char → Prop
  | boolean, text => text = "true".toList ∨ text = "false".toList
  | integer, text => Signed IsDigits text
  | long, text => ∃ number, Signed IsDigits number ∧ text = number ++ ['L']
  | float, text => IsFloating "float" "f".toList text
  | double, text => IsFloating "double" "".toList text
  | string, text => IsString text
  | char, text => IsCharacter text
  | enumeration, _ | object, _ | column, _ => False

/-- The value can be written as a literal of the kind; only texts and characters cannot always. -/
def isWritable : PlainKind → Json → Bool
  | string, .str text => text.toList.all keepsString
  | char, .str text => keepsCharacter text.toList
  | _, _ => true

/-- An integer is written as a literal of a numeric kind. -/
theorem isLiteral_of_integerLiteral {kind : PlainKind} (hkind : kind.isPrimitive = true)
    {name : Json} {nullable : Bool} {n : Int} {text : String}
    (h : integerLiteral (.plain kind name nullable) n = .ok text) :
    kind.IsLiteral text.toList := by
  have hinteger : Signed IsDigits (Json.intText n).toList := by
    rw [Json.intText, String.toList_ofList]
    exact signed_integerText n
  cases kind with
  | integer =>
    obtain rfl := Except.ok.inj h
    exact hinteger
  | long =>
    obtain rfl := Except.ok.inj h
    exact ⟨_, hinteger, String.toList_append⟩
  | float | double =>
    obtain ⟨x, -, h⟩ := bind_eq_ok_iff.1 h
    obtain rfl := Except.ok.inj h
    exact isFloating_floatLiteral _ _ x
  | boolean | string | char => cases h
  | enumeration | object | column => cases hkind

/-- So is a double-precision number, if it fits. -/
theorem isLiteral_of_numberLiteral {kind : PlainKind} (hkind : kind.isPrimitive = true)
    {name : Json} {nullable : Bool} {x : Binary64} {text : String}
    (h : numberLiteral (.plain kind name nullable) x = .ok text) :
    kind.IsLiteral text.toList := by
  have hwhole : ∀ {cause : Cause}, (if x.isWhole = true then
      integerLiteral (.plain kind name nullable) x.truncate else failWith cause) = .ok text →
      kind.IsLiteral text.toList := by
    intro cause hresult
    split at hresult
    · exact isLiteral_of_integerLiteral hkind hresult
    · cases hresult
  cases kind with
  | integer | long => exact hwhole h
  | float | double =>
    obtain rfl := Except.ok.inj h
    exact isFloating_floatLiteral _ _ x
  | boolean | string | char => cases h
  | enumeration | object | column => cases hkind

/-- What is written for a value that fits a primitive kind is a literal of the kind just when the
value can be written. -/
theorem isLiteral_iff_isWritable {kind : PlainKind} (hkind : kind.isPrimitive = true)
    {value : Json} (hfits : kind.fits value = true) {name : Json} {nullable : Bool} {text : String}
    (h : literal? value (.plain kind name nullable) = .ok (some text)) :
    kind.IsLiteral text.toList ↔ kind.isWritable value = true := by
  have hnumber : ∀ {result : Fallible String}, (result >>= fun text => .ok (some text)) =
      (.ok (some text) : Fallible (Option String)) → result = .ok text := by
    intro result hresult
    obtain ⟨other, hother, hresult⟩ := bind_eq_ok_iff.1 hresult
    rw [hother, Option.some.inj (Except.ok.inj hresult)]
  cases value with
  | null => cases h
  | bool b =>
    obtain rfl := Option.some.inj (Except.ok.inj h)
    cases kind with
    | boolean =>
      refine iff_of_true ?_ rfl
      cases b with
      | true => exact .inl rfl
      | false => exact .inr rfl
    | integer | long | float | double | string | char | enumeration | object | column => cases hfits
  | int n =>
    rw [literal?] at h
    refine iff_of_true (isLiteral_of_integerLiteral hkind (hnumber h)) ?_
    cases kind <;> rfl
  | float x =>
    rw [literal?] at h
    refine iff_of_true (isLiteral_of_numberLiteral hkind (hnumber h)) ?_
    cases kind <;> rfl
  | str content =>
    obtain rfl := Option.some.inj (Except.ok.inj h)
    cases kind with
    | string => exact isString_stringLiteral_iff content
    | char => exact isCharacter_charLiteral_iff content
    | enumeration => cases hkind
    | boolean | integer | long | float | double | object | column => cases hfits
  | arr elements => cases h
  | obj fields => cases kind <;> cases hfits

end PlainKind

end CatalogClasses
