/-
# Array creations

The literal of a list should be an array creation of C# for its type: elements between braces, each
the word for null or a literal of the item type, or else a length.  A length stands right after the
name of a type that is no array, before the brackets of all further ranks; but the program writes
it after the name of the item type, whatever type this is.  So an empty list goes wrong just where
the item type is a sequence itself.  To tell that nothing else can be read in such a text, a
literal is scanned for its braces and quotes: outside of them it has no comma and no closing brace,
so that the elements of an array can be told apart in one way only.

Main definitions:

* `CSharp.Scan`, `CSharp.IsClosed` : the state of a scan, and texts with nothing left open;
* `SchemaType.IsLiteral` : a text is a literal of a type over the primitive kinds;
* `SchemaType.isWritable` : the literal of a value is one.
-/
import CatalogClasses.Proofs.LiteralGrammar

namespace CatalogClasses

namespace CSharp

/-! ## Scanning -/

/-- Where a scan is: in code, between quotes, or between quotes after a backslash. -/
inductive Mode where
  | code
  | quoted (quote : Char)
  | escaped (quote : Char)

/-- The state of a scan: how many braces are open, and where it is. -/
structure Scan where
  depth : Nat
  mode : Mode

namespace Scan

/-- Nothing is open. -/
def start : Scan := ⟨0, .code⟩

/-- The state after one more character.  Where no brace is open, there is none after a comma or a
closing brace. -/
def next : Scan → Char → Option Scan
  | ⟨depth, .code⟩, c =>
      if c = '\x7b' then some ⟨depth + 1, .code⟩
      else if c = '\x7d' then if depth = 0 then none else some ⟨depth - 1, .code⟩
      else if c = ',' then if depth = 0 then none else some ⟨depth, .code⟩
      else if c = '"' ∨ c = '\'' then some ⟨depth, .quoted c⟩
      else some ⟨depth, .code⟩
  | ⟨depth, .quoted quote⟩, c =>
      if c = '\\' then some ⟨depth, .escaped quote⟩
      else if c = quote then some ⟨depth, .code⟩
      else some ⟨depth, .quoted quote⟩
  | ⟨depth, .escaped quote⟩, _ => some ⟨depth, .quoted quote⟩

/-- The state after a text. -/
def run (scan : Scan) : List Char → Option Scan
  | [] => some scan
  | c :: rest => (scan.next c).bind fun after => after.run rest

/-- The same state inside one more brace. -/
def deeper (scan : Scan) : Scan := ⟨scan.depth + 1, scan.mode⟩

theorem run_cons (scan : Scan) (c : Char) (rest : List Char) :
    scan.run (c :: rest) = (scan.next c).bind fun after => after.run rest := rfl

theorem run_append (first second : List Char) : ∀ scan : Scan,
    scan.run (first ++ second) = (scan.run first).bind fun after => after.run second := by
  induction first with
  | nil => intro scan; rfl
  | cons c rest ih =>
    intro scan
    rw [List.cons_append, run_cons, run_cons]
    cases scan.next c with
    | none => rfl
    | some after => exact ih after

/-- Other characters open and close no brace. -/
theorem next_code {c : Char} (hopen : c ≠ '\x7b') (hclose : c ≠ '\x7d') (hcomma : c ≠ ',')
    (depth : Nat) : next ⟨depth, .code⟩ c =
      if c = '"' ∨ c = '\'' then some ⟨depth, .quoted c⟩ else some ⟨depth, .code⟩ := by
  rw [next, if_neg hopen, if_neg hclose, if_neg hcomma]

/-- What is possible at a depth is possible inside one more brace. -/
theorem next_deeper {scan after : Scan} {c : Char} (h : scan.next c = some after) :
    scan.deeper.next c = some after.deeper := by
  obtain ⟨depth, mode⟩ := scan
  cases mode with
  | code =>
    by_cases hopen : c = '\x7b'
    · rw [hopen] at h ⊢
      obtain rfl := Option.some.inj h
      rfl
    by_cases hclose : c = '\x7d'
    · rw [hclose] at h ⊢
      cases depth with
      | zero => cases h
      | succ depth =>
        obtain rfl := Option.some.inj h
        rfl
    by_cases hcomma : c = ','
    · rw [hcomma] at h ⊢
      cases depth with
      | zero => cases h
      | succ depth =>
        obtain rfl := Option.some.inj h
        rfl
    · rw [next_code hopen hclose hcomma] at h
      rw [deeper, next_code hopen hclose hcomma]
      split_ifs at h ⊢ <;> (obtain rfl := Option.some.inj h; rfl)
  | quoted quote =>
    rw [next] at h
    rw [deeper, next]
    split_ifs at h ⊢ <;> (obtain rfl := Option.some.inj h; rfl)
  | escaped quote =>
    obtain rfl := Option.some.inj h
    rfl

theorem run_deeper (text : List Char) : ∀ {scan after : Scan}, scan.run text = some after →
    scan.deeper.run text = some after.deeper := by
  induction text with
  | nil =>
    intro scan after h
    obtain rfl := Option.some.inj h
    rfl
  | cons c rest ih =>
    intro scan after h
    obtain ⟨between, hnext, hrest⟩ := Option.bind_eq_some_iff.1 h
    rw [run_cons, next_deeper hnext]
    exact ih hrest

end Scan

/-! ## Closed texts -/

/-- A scan ends as it has begun, with nothing open, and comes to no comma and no closing brace
where no brace is open. -/
def IsClosed (text : List Char) : Prop := Scan.start.run text = some .start

theorem isClosed_nil : IsClosed [] := rfl

theorem IsClosed.append {first second : List Char} (hfirst : IsClosed first)
    (hsecond : IsClosed second) : IsClosed (first ++ second) := by
  rw [IsClosed, Scan.run_append, hfirst]
  exact hsecond

/-- A character that neither opens nor closes anything. -/
def isOrdinary (c : Char) : Bool := !(['\x7b', '\x7d', ',', '"', '\''].contains c)

theorem isClosed_singleton {c : Char} (h : isOrdinary c = true) : IsClosed [c] := by
  simp only [isOrdinary, Bool.not_eq_true', List.contains_eq_mem, decide_eq_false_iff_not,
    List.mem_cons, List.not_mem_nil, or_false, not_or] at h
  obtain ⟨hopen, hclose, hcomma, hdouble, hsingle⟩ := h
  have hnext : Scan.start.next c = some .start := by
    rw [Scan.start, Scan.next_code hopen hclose hcomma, if_neg]
    rintro (h | h)
    · exact hdouble h
    · exact hsingle h
  rw [IsClosed, Scan.run_cons, hnext]
  rfl

theorem isClosed_of_ordinary {text : List Char} (h : ∀ c ∈ text, isOrdinary c = true) :
    IsClosed text := by
  induction text with
  | nil => exact isClosed_nil
  | cons c rest ih =>
    obtain ⟨hc, hrest⟩ := List.forall_mem_cons.1 h
    exact (isClosed_singleton hc).append (ih hrest)

/-! ### Between quotes -/

/-- A scan between quotes goes over the text and is still between them. -/
def StaysQuoted (quote : Char) (text : List Char) : Prop :=
  Scan.run ⟨0, .quoted quote⟩ text = some ⟨0, .quoted quote⟩

theorem staysQuoted_flatten {quote : Char} {parts : List (List Char)}
    (h : ∀ part ∈ parts, StaysQuoted quote part) : StaysQuoted quote parts.flatten := by
  induction parts with
  | nil => rfl
  | cons part rest ih =>
    obtain ⟨hpart, hrest⟩ := List.forall_mem_cons.1 h
    rw [List.flatten_cons, StaysQuoted, Scan.run_append, hpart]
    exact ih hrest

theorem staysQuoted_of_ne {quote : Char} {text : List Char}
    (h : ∀ c ∈ text, c ≠ '\\' ∧ c ≠ quote) : StaysQuoted quote text := by
  induction text with
  | nil => rfl
  | cons c rest ih =>
    obtain ⟨⟨hbackslash, hquote⟩, hrest⟩ := List.forall_mem_cons.1 h
    rw [StaysQuoted, Scan.run_cons, Scan.next, if_neg hbackslash, if_neg hquote]
    exact ih hrest

/-- A character after a backslash does not end the text. -/
theorem staysQuoted_escape (quote c : Char) {text : List Char} (h : StaysQuoted quote text) :
    StaysQuoted quote ('\\' :: c :: text) := h

/-- What stays between quotes is closed with the quotes around it. -/
theorem isClosed_quoted {quote : Char} (hquote : quote = '"' ∨ quote = '\'') {text : List Char}
    (h : StaysQuoted quote text) : IsClosed (quote :: (text ++ [quote])) := by
  have hopen : Scan.start.next quote = some ⟨0, .quoted quote⟩ := by
    rcases hquote with rfl | rfl <;> rfl
  have hclose : Scan.run ⟨0, .quoted quote⟩ [quote] = some .start := by
    rcases hquote with rfl | rfl <;> rfl
  rw [IsClosed, Scan.run_cons, hopen, Option.bind_some, Scan.run_append, h]
  exact hclose

theorem staysQuoted_part {quote : Char} (hquote : quote = '"' ∨ quote = '\'') {part : List Char}
    (h : IsPart quote part) : StaysQuoted quote part := by
  have hhex : ∀ d, isHexDigit d = true → d ≠ '\\' ∧ d ≠ quote := by
    intro d hd
    constructor
    · rintro rfl
      revert hd
      decide
    · rintro rfl
      rcases hquote with rfl | rfl <;> revert hd <;> decide
  cases h with
  | character hne hbackslash hend =>
    exact staysQuoted_of_ne (List.forall_mem_singleton.2 ⟨hbackslash, hne⟩)
  | simple hc => exact staysQuoted_escape quote _ rfl
  | code hlength hdigits =>
    exact staysQuoted_escape quote _ (staysQuoted_of_ne fun d hd => hhex d (hdigits d hd))

/-- So is what is written for the characters of a text. -/
theorem staysQuoted_flatMap {quote : Char} {escape : Char → List Char}
    (h : Escapes quote escape) (text : List Char) :
    StaysQuoted quote (text.flatMap escape) := by
  refine staysQuoted_flatten fun part hpart => ?_
  obtain ⟨c, -, rfl⟩ := List.mem_map.1 hpart
  rcases h c with ⟨hc, hquote, hbackslash⟩ | ⟨d, hc, -⟩
  · rw [hc]
    exact staysQuoted_of_ne (List.forall_mem_singleton.2 ⟨hbackslash, hquote⟩)
  · rw [hc]
    exact staysQuoted_escape quote d rfl

/-! ### Between braces -/

/-- What follows the first element of an array: the other elements, each after a comma, and the
closing brace. -/
def remaining (elements : List (List Char)) : List Char :=
  elements.flatMap ([',', ' '] ++ ·) ++ [' ', '\x7d']

/-- The elements of an array between braces. -/
def braced : List (List Char) → List Char
  | [] => ['\x7b', ' ', '\x7d']
  | first :: rest => ['\x7b', ' '] ++ (first ++ remaining rest)

theorem remaining_cons (element : List Char) (rest : List (List Char)) :
    remaining (element :: rest) = [',', ' '] ++ (element ++ remaining rest) := by
  simp only [remaining, List.flatMap_cons, List.append_assoc]

/-- Inside a brace closed texts may stand one after another with commas between them. -/
theorem isClosed_braced {elements : List (List Char)}
    (h : ∀ element ∈ elements, IsClosed element) : IsClosed (braced elements) := by
  have hinside : ∀ {element}, IsClosed element →
      Scan.start.deeper.run element = some Scan.start.deeper :=
    fun hclosed => Scan.run_deeper _ hclosed
  have hremaining : ∀ {rest : List (List Char)}, (∀ element ∈ rest, IsClosed element) →
      Scan.start.deeper.run (remaining rest) = some .start := by
    intro rest
    induction rest with
    | nil => intro _; rfl
    | cons element rest ih =>
      intro hrest
      obtain ⟨helement, hrest⟩ := List.forall_mem_cons.1 hrest
      have hcomma : Scan.start.deeper.run [',', ' '] = some Scan.start.deeper := rfl
      rw [remaining_cons, Scan.run_append, hcomma, Option.bind_some, Scan.run_append,
        hinside helement]
      exact ih hrest
  cases elements with
  | nil => rfl
  | cons first rest =>
    obtain ⟨hfirst, hrest⟩ := List.forall_mem_cons.1 h
    have hopen : Scan.start.run ['\x7b', ' '] = some Scan.start.deeper := rfl
    rw [IsClosed, braced, Scan.run_append, hopen, Option.bind_some, Scan.run_append,
      hinside hfirst]
    exact hremaining hrest

/-- What follows an element of an array: a comma, or a blank and the closing brace. -/
def Stops (rest : List Char) : Prop :=
  (∃ more, rest = ',' :: more) ∨ ∃ more, rest = ' ' :: '\x7d' :: more

theorem stops_remaining (rest : List (List Char)) : Stops (remaining rest) := by
  cases rest with
  | nil => exact .inr ⟨[], rfl⟩
  | cons element rest => exact .inl ⟨_, rfl⟩

/-- A closed text that goes on where an element stops is at its end. -/
theorem eq_nil_of_stops {element more rest : List Char} (helement : IsClosed element)
    (hmore : IsClosed (element ++ more)) (hstops : Stops (more ++ rest)) (hrest : Stops rest) :
    more = [] := by
  have hrun : Scan.start.run more = some .start := by
    rw [IsClosed, Scan.run_append, helement] at hmore
    exact hmore
  cases more with
  | nil => rfl
  | cons c more =>
    rcases hstops with ⟨after, hafter⟩ | ⟨after, hafter⟩
    · obtain ⟨rfl, -⟩ := List.cons.inj hafter
      cases hrun
    · obtain ⟨rfl, hbrace⟩ := List.cons.inj hafter
      cases more with
      | nil =>
        have hbrace : rest = '\x7d' :: after := hbrace
        rcases hrest with ⟨others, hothers⟩ | ⟨others, hothers⟩ <;>
          rw [hbrace] at hothers <;> cases hothers
      | cons d more =>
        obtain ⟨rfl, -⟩ := List.cons.inj hbrace
        cases hrun

/-- Two closed texts before what follows an element are the same if all together is. -/
theorem eq_of_stops {first second rest others : List Char} (hfirst : IsClosed first)
    (hsecond : IsClosed second) (hrest : Stops rest) (hothers : Stops others)
    (h : first ++ rest = second ++ others) : first = second ∧ rest = others := by
  have hsame : first = second := by
    rcases List.append_eq_append_iff.1 h with ⟨more, hmore, hafter⟩ | ⟨more, hmore, hafter⟩
    · have hnil := eq_nil_of_stops hfirst (hmore ▸ hsecond) (hafter ▸ hrest) hothers
      rw [hmore, hnil, List.append_nil]
    · have hnil := eq_nil_of_stops hsecond (hmore ▸ hfirst) (hafter ▸ hothers) hrest
      rw [hmore, hnil, List.append_nil]
  exact ⟨hsame, List.append_cancel_left (hsame ▸ h)⟩

theorem remaining_injective {first : List (List Char)} : ∀ {second : List (List Char)},
    (∀ element ∈ first, IsClosed element) → (∀ element ∈ second, IsClosed element) →
    remaining first = remaining second → first = second := by
  induction first with
  | nil =>
    intro second _ _ h
    cases second with
    | nil => rfl
    | cons element rest => cases h
  | cons element rest ih =>
    intro second hfirst hsecond h
    cases second with
    | nil => cases h
    | cons other others =>
      obtain ⟨helement, hrest⟩ := List.forall_mem_cons.1 hfirst
      obtain ⟨hother, hothers⟩ := List.forall_mem_cons.1 hsecond
      rw [remaining_cons, remaining_cons] at h
      obtain ⟨rfl, hsame⟩ := eq_of_stops helement hother (stops_remaining rest)
        (stops_remaining others) (List.append_cancel_left h)
      rw [ih hrest hothers hsame]

/-- **Elements between braces can be told apart** in one way only, if they are closed. -/
theorem braced_injective {first second : List (List Char)}
    (hfirst : ∀ element ∈ first, IsClosed element)
    (hsecond : ∀ element ∈ second, IsClosed element) (h : braced first = braced second) :
    first = second := by
  have hshort : ∀ (element : List Char) (rest : List (List Char)),
      braced [] ≠ braced (element :: rest) := by
    intro element rest h
    have hlength := congrArg List.length h
    simp only [braced, remaining, List.length_append, List.length_cons, List.length_nil] at hlength
    omega
  cases first with
  | nil =>
    cases second with
    | nil => rfl
    | cons other others => exact absurd h (hshort other others)
  | cons element rest =>
    cases second with
    | nil => exact absurd h.symm (hshort element rest)
    | cons other others =>
      obtain ⟨helement, hrest⟩ := List.forall_mem_cons.1 hfirst
      obtain ⟨hother, hothers⟩ := List.forall_mem_cons.1 hsecond
      obtain ⟨rfl, hsame⟩ := eq_of_stops helement hother (stops_remaining rest)
        (stops_remaining others) (List.append_cancel_left h)
      rw [remaining_injective hrest hothers hsame]

/-! ## Closed literals -/

theorem isOrdinary_of_isDigit {c : Char} (h : c.isDigit = true) : isOrdinary c = true := by
  simp only [isOrdinary, Bool.not_eq_true', List.contains_eq_mem, decide_eq_false_iff_not,
    List.mem_cons, List.not_mem_nil, or_false]
  rintro (rfl | rfl | rfl | rfl | rfl) <;> cases h

theorem isClosed_digits {text : List Char} (h : ∀ c ∈ text, c.isDigit = true) : IsClosed text :=
  isClosed_of_ordinary fun c hc => isOrdinary_of_isDigit (h c hc)

theorem isClosed_exponent {text : List Char} (h : IsExponent text) : IsClosed text := by
  obtain ⟨hsign, hpower⟩ := h
  have hmark : IsClosed ['e'] := rfl
  have hsigned : ∀ {sign : Char}, sign = '+' ∨ sign = '-' → IsClosed [sign] := by
    rintro sign (rfl | rfl) <;> rfl
  exact hmark.append ((hsigned hsign).append (isClosed_digits hpower.2))

theorem isClosed_real {text : List Char} (h : IsReal text) : IsClosed text := by
  have hpoint : IsClosed ['.'] := rfl
  cases h with
  | point hwhole hfraction =>
    exact (isClosed_digits hwhole).append (hpoint.append (isClosed_digits hfraction.2))
  | pointAndExponent hwhole hfraction hexponent =>
    exact ((isClosed_digits hwhole).append (hpoint.append (isClosed_digits hfraction.2))).append
      (isClosed_exponent hexponent)
  | exponent hwhole hexponent =>
    exact (isClosed_digits hwhole.2).append (isClosed_exponent hexponent)

theorem isClosed_signed {form : List Char → Prop} (h : ∀ text, form text → IsClosed text)
    {text : List Char} (htext : Signed form text) : IsClosed text := by
  have hminus : IsClosed ['-'] := rfl
  rcases htext with htext | ⟨magnitude, hmagnitude, rfl⟩
  · exact h text htext
  · exact hminus.append (h magnitude hmagnitude)

theorem isClosed_floating {keyword : String} {ending text : List Char}
    (h : IsFloating keyword ending text) (hkeyword : IsClosed keyword.toList)
    (hending : IsClosed ending) : IsClosed text := by
  have hnames : ∀ name ∈ [".NaN", ".PositiveInfinity", ".NegativeInfinity"],
      IsClosed name.toList := by
    simp only [List.forall_mem_cons]
    exact ⟨rfl, rfl, rfl, nofun⟩
  rcases h with ⟨number, hnumber, rfl⟩ | hconstant
  · exact (isClosed_signed (fun _ => isClosed_real) hnumber).append hending
  · obtain ⟨name, hname, rfl⟩ := List.mem_map.1 hconstant
    rw [String.toList_append]
    exact hkeyword.append (hnames name hname)

end CSharp

open CSharp

theorem PlainKind.isClosed_of_isLiteral {kind : PlainKind} {text : List Char}
    (h : kind.IsLiteral text) : IsClosed text := by
  have hinteger : ∀ {number}, Signed IsDigits number → IsClosed number :=
    fun hnumber => isClosed_signed (fun _ hdigits => isClosed_digits hdigits.2) hnumber
  cases kind with
  | boolean => rcases h with rfl | rfl <;> rfl
  | integer => exact hinteger h
  | long =>
    obtain ⟨number, hnumber, rfl⟩ := h
    exact (hinteger hnumber).append rfl
  | float | double => exact isClosed_floating h rfl rfl
  | string =>
    obtain ⟨parts, hparts, rfl⟩ := h
    exact isClosed_quoted (.inl rfl)
      (staysQuoted_flatten fun part hpart => staysQuoted_part (.inl rfl) (hparts part hpart))
  | char =>
    obtain ⟨part, hpart, -, rfl⟩ := h
    exact isClosed_quoted (.inr rfl) (staysQuoted_part (.inr rfl) hpart)
  | enumeration | object | column => cases h

/-! ## The grammar of array creations -/

namespace CSharp

/-- The name of a type that is no array: a keyword, with a question mark or without. -/
def IsSingleName (name : List Char) : Prop :=
  ∃ (kind : PlainKind) (nullable : Bool), kind.isPrimitive = true ∧
    name = (SchemaType.plain kind (.str "") nullable).nameText

/-- The brackets of so many ranks, all of them empty. -/
def emptyRanks : Nat → List Char
  | 0 => []
  | count + 1 => '[' :: ']' :: emptyRanks count

/-- An array creation with a length, for items of a type with the given name.  The length stands
right after the name of a type that is no array, and the brackets of the other ranks follow. -/
def IsSized (itemName text : List Char) : Prop :=
  ∃ single ranks length, IsSingleName single ∧ itemName = single ++ emptyRanks ranks ∧
    IsDigits length ∧
    text = "new ".toList ++ single ++ '[' :: (length ++ ']' :: emptyRanks ranks)

/-- An array creation with elements, for items of a type with the given name. -/
def initialized (itemName : List Char) (elements : List (List Char)) : List Char :=
  "new ".toList ++ itemName ++ "[] ".toList ++ braced elements

theorem initialized_eq (itemName : List Char) (elements : List (List Char)) :
    initialized itemName elements = "new ".toList ++ itemName ++ "[] ".toList ++ braced elements :=
  rfl

end CSharp

/-- The text is a literal of the type: for a sequence, an array creation with a length, or with
elements each of which is the word for null or a literal of the item type. -/
def SchemaType.IsLiteral : SchemaType → List Char → Prop
  | plain kind _ _, text => kind.IsLiteral text
  | sequence item _ _, text => IsSized item.nameText text ∨
      ∃ elements, (∀ element ∈ elements, element = "null".toList ∨ item.IsLiteral element) ∧
        text = initialized item.nameText elements
  | bareSequence _ _, _ => False

/-- The value can be written as a literal of the type: no text in it is one that cannot, and it has
no empty list where the item type is a sequence. -/
def SchemaType.isWritable : SchemaType → Json → Bool
  | plain kind _ _, value => kind.isWritable value
  | sequence item _ _, .arr elements =>
      (!elements.isEmpty || !item.isSequence) && elements.all item.isWritable
  | _, _ => true

/-! ### Names of types -/

/-- The name of a type over the primitive kinds opens and closes nothing. -/
theorem SchemaType.isOrdinary_of_mem_nameText {type : SchemaType}
    (h : type.isOver PlainKind.isPrimitive = true) : ∀ c ∈ type.nameText, isOrdinary c = true := by
  have hmark : ∀ nullable, ∀ c ∈ nullMark nullable, isOrdinary c = true := by
    refine fun nullable => List.all_eq_true.1 ?_
    cases nullable <;> decide
  induction type with
  | plain kind name nullable =>
    have hkeyword : ∀ c ∈ (kind.keyword?.getD "").toList, isOrdinary c = true := by
      refine List.all_eq_true.1 ?_
      cases kind <;> decide
    exact List.forall_mem_append.2 ⟨hkeyword, hmark nullable⟩
  | sequence item name nullable ih =>
    have hbrackets : ∀ c ∈ ['[', ']'], isOrdinary c = true := List.all_eq_true.1 (by decide)
    exact List.forall_mem_append.2 ⟨List.forall_mem_append.2 ⟨ih h, hbrackets⟩, hmark nullable⟩
  | bareSequence name nullable => cases h

/-- Only the name of an array has a bracket in it. -/
theorem CSharp.IsSingleName.not_mem {name : List Char} (h : IsSingleName name) : '[' ∉ name := by
  obtain ⟨kind, nullable, -, rfl⟩ := h
  have hkeyword : '[' ∉ (kind.keyword?.getD "").toList := by
    cases kind <;> decide
  rw [SchemaType.nameText, List.mem_append]
  rintro (hmem | hmem)
  · exact hkeyword hmem
  · cases nullable <;> cases hmem
    contradiction

/-! ### Closed array creations -/

theorem isClosed_initialized {item : SchemaType} (hitem : item.isOver PlainKind.isPrimitive = true)
    {elements : List (List Char)} (h : ∀ element ∈ elements, IsClosed element) :
    IsClosed (initialized item.nameText elements) := by
  have hnew : IsClosed "new ".toList := rfl
  have hname := isClosed_of_ordinary (SchemaType.isOrdinary_of_mem_nameText hitem)
  have hbrackets : IsClosed "[] ".toList := rfl
  exact ((hnew.append hname).append hbrackets).append (isClosed_braced h)

theorem isClosed_emptyRanks (count : Nat) : IsClosed (emptyRanks count) := by
  induction count with
  | zero => rfl
  | succ count ih => exact ih

theorem isClosed_sized {itemName text : List Char} (hname : ∀ c ∈ itemName, isOrdinary c = true)
    (h : IsSized itemName text) : IsClosed text := by
  obtain ⟨single, ranks, length, -, rfl, hlength, rfl⟩ := h
  have hnew : IsClosed "new ".toList := rfl
  have hopen : IsClosed ['['] := rfl
  have hclose : IsClosed [']'] := rfl
  have hsingle : IsClosed single :=
    isClosed_of_ordinary fun c hc => hname c (List.mem_append_left _ hc)
  exact (hnew.append hsingle).append (hopen.append ((isClosed_digits hlength.2).append
    (hclose.append (isClosed_emptyRanks ranks))))

/-- A literal of a type over the primitive kinds is closed. -/
theorem SchemaType.isClosed_of_isLiteral {type : SchemaType}
    (htype : type.isOver PlainKind.isPrimitive = true) :
    ∀ {text}, type.IsLiteral text → IsClosed text := by
  induction type with
  | plain kind name nullable =>
    intro text h
    exact PlainKind.isClosed_of_isLiteral h
  | sequence item name nullable ih =>
    have hitem : item.isOver PlainKind.isPrimitive = true := htype
    rintro text (h | ⟨elements, helements, rfl⟩)
    · exact isClosed_sized (isOrdinary_of_mem_nameText hitem) h
    · refine isClosed_initialized hitem fun element hmem => ?_
      rcases helements element hmem with rfl | hliteral
      · rfl
      · exact ih hitem hliteral
  | bareSequence name nullable => cases htype

/-! ## The two forms -/

namespace CSharp

/-- An array creation with a length ends with a bracket. -/
theorem IsSized.exists_concat {itemName text : List Char} (h : IsSized itemName text) :
    ∃ before, text = before ++ [']'] := by
  have hranks : ∀ count, ∃ before, ']' :: emptyRanks count = before ++ [']'] := by
    intro count
    induction count with
    | zero => exact ⟨[], rfl⟩
    | succ count ih =>
      obtain ⟨before, hbefore⟩ := ih
      exact ⟨']' :: '[' :: before, by rw [emptyRanks, hbefore]; rfl⟩
  obtain ⟨single, ranks, length, -, -, -, rfl⟩ := h
  obtain ⟨before, hbefore⟩ := hranks ranks
  refine ⟨"new ".toList ++ single ++ '[' :: (length ++ before), ?_⟩
  rw [hbefore, List.append_assoc, List.append_assoc, List.append_assoc, List.cons_append,
    List.append_assoc]

/-- An array creation with elements ends with a brace. -/
theorem exists_concat_initialized (itemName : List Char) (elements : List (List Char)) :
    ∃ before, initialized itemName elements = before ++ ['\x7d'] := by
  have hbraced : ∃ before, braced elements = before ++ ['\x7d'] := by
    cases elements with
    | nil => exact ⟨['\x7b', ' '], rfl⟩
    | cons first rest =>
      refine ⟨['\x7b', ' '] ++ (first ++ (rest.flatMap ([',', ' '] ++ ·) ++ [' '])), ?_⟩
      simp only [braced, remaining, List.append_assoc]
      rfl
  obtain ⟨before, hbefore⟩ := hbraced
  refine ⟨"new ".toList ++ itemName ++ "[] ".toList ++ before, ?_⟩
  rw [initialized_eq, hbefore]
  exact (List.append_assoc _ before _).symm

/-- So a text that ends with a bracket has no elements. -/
theorem ne_initialized {text : List Char} (h : ∃ before, text = before ++ [']'])
    (itemName : List Char) (elements : List (List Char)) :
    text ≠ initialized itemName elements := by
  rintro rfl
  obtain ⟨before, hbefore⟩ := h
  obtain ⟨other, hother⟩ := exists_concat_initialized itemName elements
  rw [hother] at hbefore
  cases (List.append_singleton_inj.1 hbefore).2

end CSharp

/-- **A length after the name of the item type** makes an array creation just when the item type is
no sequence. -/
theorem SchemaType.isLiteral_of_length_iff {item : SchemaType}
    (hitem : item.isOver PlainKind.isPrimitive = true) (name : Json) (nullable : Bool) :
    (sequence item name nullable).IsLiteral ("new ".toList ++ item.nameText ++ "[0]".toList) ↔
      item.isSequence = false := by
  constructor
  · rintro (⟨single, ranks, length, hsingle, hname, hlength, htext⟩ | ⟨elements, -, htext⟩)
    · cases ranks with
      | zero =>
        -- the name of the item type is that of a type that is no array
        cases item with
        | plain kind itemName mark => rfl
        | sequence inner itemName mark =>
          refine absurd ?_ hsingle.not_mem
          rw [emptyRanks, List.append_nil] at hname
          rw [← hname, nameText]
          simp
        | bareSequence itemName mark => cases hitem
      | succ ranks =>
        -- the first bracket of the name would hold the length
        rw [hname, List.append_assoc, List.append_assoc, List.append_assoc] at htext
        have hbrackets := List.append_cancel_left (List.append_cancel_left htext)
        obtain ⟨hne, hdigits⟩ := hlength
        cases length with
        | nil => exact absurd rfl hne
        | cons d length =>
          obtain ⟨rfl, -⟩ := List.cons.inj (List.cons.inj hbrackets).2
          cases hdigits _ List.mem_cons_self
    · have hbracket : ∃ before, "new ".toList ++ item.nameText ++ "[0]".toList = before ++ [']'] :=
        ⟨"new ".toList ++ item.nameText ++ ['[', '0'], by
          rw [List.append_assoc _ ['[', '0']]; rfl⟩
      exact absurd htext (ne_initialized hbracket _ _)
  · intro hsingle
    cases item with
    | plain kind itemName mark =>
      refine .inl ⟨nameText (plain kind (.str "") mark), 0, ['0'], ⟨kind, mark, hitem, rfl⟩, ?_,
        isDigits_zero, rfl⟩
      rw [emptyRanks, List.append_nil]
      rfl
    | sequence inner itemName mark => cases hsingle
    | bareSequence itemName mark => cases hitem

/-- Elements after the name of the item type make an array creation just when each of them is the
word for null or a literal, if they are closed. -/
theorem SchemaType.isLiteral_of_elements_iff {item : SchemaType}
    (hitem : item.isOver PlainKind.isPrimitive = true) (name : Json) (nullable : Bool)
    {elements : List (List Char)} (helements : ∀ element ∈ elements, IsClosed element) :
    (sequence item name nullable).IsLiteral (initialized item.nameText elements) ↔
      ∀ element ∈ elements, element = "null".toList ∨ item.IsLiteral element := by
  constructor
  · rintro (hsized | ⟨others, hothers, htext⟩)
    · exact absurd rfl (ne_initialized hsized.exists_concat _ _)
    · have hclosed : ∀ element ∈ others, IsClosed element := by
        intro element hmem
        rcases hothers element hmem with rfl | hliteral
        · rfl
        · exact isClosed_of_isLiteral hitem hliteral
      have hbraced := List.append_cancel_left htext
      rw [braced_injective helements hclosed hbraced]
      exact hothers
  · intro h
    exact .inr ⟨elements, h, rfl⟩

/-! ## What is written for values -/

/-- What is written for the elements of a list, one text for each, has a property that the literal
of each element has, and the word for null if there is none. -/
theorem forall₂_of_literals {item : SchemaType} {property : Json → String → Prop}
    {elements : List Json}
    (hwritten : ∀ element ∈ elements, ∀ text?, literal? element item = .ok text? →
      property element (text?.getD "null")) :
    ∀ {texts : List String}, literals elements item = .ok texts →
      List.Forall₂ property elements texts := by
  induction elements with
  | nil =>
    intro texts h
    obtain rfl := Except.ok.inj h
    exact .nil
  | cons element rest ih =>
    intro texts h
    obtain ⟨helement, hrest⟩ := List.forall_mem_cons.1 hwritten
    rw [literals] at h
    obtain ⟨first, hfirst, h⟩ := bind_eq_ok_iff.1 h
    obtain ⟨others, hothers, h⟩ := bind_eq_ok_iff.1 h
    obtain rfl := Except.ok.inj h
    exact .cons (helement first hfirst) (ih hrest hothers)

theorem toList_arrayLiteral_nil (itemName : List Char) :
    (arrayLiteral (.str (String.ofList itemName)) []).toList =
      "new ".toList ++ itemName ++ "[0]".toList := by
  simp [arrayLiteral, Json.text]

theorem toList_bracedElements (first : String) (rest : List String) :
    (bracedElements (first :: rest)).toList = braced ((first :: rest).map String.toList) := by
  have hremaining : ∀ first, (", ".intercalate (first :: rest)).toList ++ [' ', '\x7d'] =
      first.toList ++ remaining (rest.map String.toList) := by
    induction rest with
    | nil => intro first; simp [remaining]
    | cons second rest ih =>
      intro first
      rw [String.intercalate_cons_cons, String.toList_append, String.toList_append,
        List.append_assoc, List.append_assoc, ih second, List.map_cons, remaining_cons]
      rfl
  rw [List.map_cons, braced, ← hremaining first]
  simp [bracedElements]

theorem toList_arrayLiteral_cons (itemName : List Char) (first : String) (rest : List String) :
    (arrayLiteral (.str (String.ofList itemName)) (first :: rest)).toList =
      initialized itemName ((first :: rest).map String.toList) := by
  rw [initialized_eq, ← toList_bracedElements]
  simp [arrayLiteral, Json.text]

/-- A value of a primitive kind that cannot be written as a literal of it is a text, and is written
between quotes. -/
theorem PlainKind.exists_quoted {kind : PlainKind} {value : Json}
    (h : kind.isWritable value = false) {name : Json} {nullable : Bool} {text : String}
    (htext : literal? value (.plain kind name nullable) = .ok (some text)) :
    ∃ quote inside, (quote = '"' ∨ quote = '\'') ∧ StaysQuoted quote inside ∧
      text.toList = quote :: (inside ++ [quote]) := by
  cases value with
  | null | bool | int | float | arr | obj => cases kind <;> cases h
  | str content =>
    obtain rfl := Option.some.inj (Except.ok.inj htext)
    cases kind with
    | string =>
      exact ⟨_, _, .inl rfl, staysQuoted_flatMap escapes_stringChar _,
        toList_stringLiteral content⟩
    | char =>
      exact ⟨_, _, .inr rfl, staysQuoted_flatMap escapes_charChar _, toList_charLiteral content⟩
    | boolean | integer | long | float | double | enumeration | object | column => cases h

namespace SchemaType

theorem isWritable_null {type : SchemaType} : type.isWritable .null = true := by
  cases type with
  | plain kind name nullable => cases kind <;> rfl
  | sequence | bareSequence => rfl

/-- What is written for a value that fits a type is closed, and it is a literal of the type just
when the value can be written as one.  If not, it is not the word for null either. -/
structure WrittenAs (type : SchemaType) (value : Json) (text : List Char) : Prop where
  closed : IsClosed text
  literal : type.IsLiteral text ↔ type.isWritable value = true
  ne_null : type.isWritable value = false → text ≠ "null".toList

/-- An element of an array is the word for null or a literal just when it can be written. -/
theorem WrittenAs.element {item : SchemaType} {value : Json} {text : List Char}
    (h : WrittenAs item value text) :
    (text = "null".toList ∨ item.IsLiteral text) ↔ item.isWritable value = true := by
  rw [h.literal]
  refine ⟨fun hor => ?_, .inr⟩
  rcases hor with hnull | hwritable
  · cases hvalue : item.isWritable value with
    | true => rfl
    | false => exact absurd hnull (h.ne_null hvalue)
  · exact hwritable

theorem writtenAs_plain {kind : PlainKind} (hkind : kind.isPrimitive = true) {name : Json}
    {nullable : Bool} {value : Json} (hfits : kind.fits value = true) {text : String}
    (h : literal? value (plain kind name nullable) = .ok (some text)) :
    WrittenAs (plain kind name nullable) value text.toList := by
  have hliteral := PlainKind.isLiteral_iff_isWritable hkind hfits h
  cases hwritable : kind.isWritable value with
  | true =>
    exact ⟨PlainKind.isClosed_of_isLiteral (hliteral.2 hwritable), hliteral,
      fun hnot => absurd (hwritable.symm.trans hnot) Bool.noConfusion⟩
  | false =>
    obtain ⟨quote, inside, hquote, hinside, htext⟩ := PlainKind.exists_quoted hwritable h
    refine ⟨htext ▸ isClosed_quoted hquote hinside, hliteral, fun _ hnull => ?_⟩
    rw [htext] at hnull
    obtain ⟨hfirst, -⟩ := List.cons.inj hnull
    rcases hquote with rfl | rfl <;> cases hfirst

/-- The text is that of an element of an array: it is closed, and it is the word for null or a
literal just when the element can be written. -/
def IsWrittenElement (item : SchemaType) (element : Json) (text : String) : Prop :=
  IsClosed text.toList ∧
    ((text.toList = "null".toList ∨ item.IsLiteral text.toList) ↔ item.isWritable element = true)

/-- So it is with all elements of a list. -/
theorem forall_of_isWrittenElement {item : SchemaType} {elements : List Json} {texts : List String}
    (h : List.Forall₂ (IsWrittenElement item) elements texts) :
    (∀ element ∈ texts.map String.toList, IsClosed element) ∧
      ((∀ element ∈ texts.map String.toList, element = "null".toList ∨ item.IsLiteral element) ↔
        elements.all item.isWritable = true) := by
  induction h with
  | nil => exact ⟨nofun, iff_of_true nofun rfl⟩
  | cons hfirst hrest ih =>
    rw [List.map_cons, List.forall_mem_cons, List.forall_mem_cons, List.all_cons, Bool.and_eq_true,
      hfirst.2, ih.2]
    exact ⟨⟨hfirst.1, ih.1⟩, Iff.rfl⟩

/-- What is written for a list is closed and is a literal just when the list can be written, if it
is so with its elements. -/
theorem writtenAs_arr {item : SchemaType} (hitem : item.isOver PlainKind.isPrimitive = true)
    (name : Json) (nullable : Bool) {elements : List Json} {texts : List String}
    (h : List.Forall₂ (IsWrittenElement item) elements texts) :
    WrittenAs (sequence item name nullable) (.arr elements)
      (arrayLiteral (.str (String.ofList item.nameText)) texts).toList := by
  have hnew : ∀ rest, "new ".toList ++ rest ≠ "null".toList := by
    intro rest hnull
    obtain ⟨hsecond, -⟩ := List.cons.inj (List.cons.inj hnull).2
    cases hsecond
  obtain ⟨hclosed, hliterals⟩ := forall_of_isWrittenElement h
  cases h with
  | nil =>
    rw [toList_arrayLiteral_nil]
    have hbefore : IsClosed "new ".toList := rfl
    have hlength : IsClosed "[0]".toList := rfl
    have hname := isClosed_of_ordinary (isOrdinary_of_mem_nameText hitem)
    refine ⟨(hbefore.append hname).append hlength, ?_,
      fun _ => by rw [List.append_assoc]; exact hnew _⟩
    rw [isLiteral_of_length_iff hitem]
    simp [isWritable]
  | cons hfirst hrest =>
    rw [toList_arrayLiteral_cons]
    refine ⟨isClosed_initialized hitem hclosed, ?_, fun _ => ?_⟩
    · rw [isLiteral_of_elements_iff hitem name nullable hclosed, hliterals]
      simp [isWritable]
    · rw [initialized_eq, List.append_assoc, List.append_assoc]
      exact hnew _

/-- Every value that fits a type over the primitive kinds is written so. -/
theorem writtenAs_of_literal? {type : SchemaType}
    (htype : type.isOver PlainKind.isPrimitive = true) :
    ∀ {value : Json} {text : String}, type.fits value = true →
      literal? value type = .ok (some text) → WrittenAs type value text.toList := by
  induction type with
  | plain kind name nullable =>
    intro value text hfits h
    exact writtenAs_plain htype hfits h
  | sequence item name nullable ih =>
    intro value text hfits h
    have hitem : item.isOver PlainKind.isPrimitive = true := htype
    cases value with
    | arr elements =>
      rw [literal?] at h
      obtain ⟨itemName, hname, h⟩ := bind_eq_ok_iff.1 h
      obtain ⟨texts, htexts, h⟩ := bind_eq_ok_iff.1 h
      obtain rfl := Option.some.inj (Except.ok.inj h)
      rw [spelled_of_isOver hitem] at hname
      obtain rfl := Except.ok.inj hname
      refine writtenAs_arr hitem name nullable (forall₂_of_literals ?_ htexts)
      intro element hmem text? helement
      by_cases hnull : element = .null
      · rw [hnull] at helement ⊢
        obtain rfl := Except.ok.inj helement
        exact ⟨rfl, iff_of_true (.inl rfl) isWritable_null⟩
      · have hfitsItem : item.fits element = true := by
          have hall := List.all_eq_true.1 hfits element hmem
          cases element <;> first | exact hall | exact absurd rfl hnull
        cases text? with
        | none => exact absurd (eq_null_of_literal? helement) hnull
        | some text =>
          have hwritten := ih hitem hfitsItem helement
          exact ⟨hwritten.closed, hwritten.element⟩
    | null | bool | int | float | str | obj => cases hfits
  | bareSequence name nullable => cases htype

/-- A value that fits a type over the primitive kinds is written unless an integer in it is too
large. -/
theorem exists_literal?_iff {type : SchemaType} (htype : type.isOver PlainKind.isPrimitive = true)
    {value : Json} (hnull : value ≠ .null) (hfits : type.fits value = true) :
    (∃ text, literal? value type = .ok (some text)) ↔
      ∀ part ∈ type.parts value, part.1.isTooLarge part.2 = false := by
  have hnames : ∀ item ∈ type.itemTypes, ∃ name, item.spelled = .ok name := by
    intro item hitem
    obtain ⟨name, hname⟩ := spelled_of_isNameable
      (isNameable_of_mem_itemTypes (isNameable_of_isOver htype) item hitem)
    exact ⟨_, hname⟩
  have hparts := (fits_iff_parts hnull).1 hfits
  have hdecided := decided_literal? hnames value
  generalize hresult : literal? value type = result at hdecided
  rcases hdecided with ⟨text?, hwritten⟩ | @⟨before, part, after, fault, hsplit, -, hrefused⟩
  · refine iff_of_true ?_ fun part hpart => ?_
    · cases text? with
      | none => exact absurd (eq_null_of_literal? hresult) hnull
      | some text => exact ⟨text, rfl⟩
    · have hwrites := hwritten part hpart
      obtain ⟨partType, partValue⟩ := part
      cases hlarge : partType.isTooLarge partValue with
      | false => rfl
      | true =>
        rw [writes, hlarge] at hwrites
        cases partValue with
        | int n => cases hwrites.symm.trans (Bool.and_false _)
        | null | bool | float | str | arr | obj => cases hlarge
  · have hpart : part ∈ type.parts value := by
      rw [hsplit]
      exact List.mem_append_right _ List.mem_cons_self
    have hnot : ¬ ∃ text, (Except.error fault : Fallible (Option String)) = .ok (some text) := by
      rintro ⟨text, htext⟩
      cases htext
    refine iff_of_false hnot fun hnone => ?_
    cases fault with
    | failure failure => cases hrefused.2.1.symm.trans (hparts part hpart)
    | malformed reason => cases hrefused.2.2.symm.trans (hnone part hpart)

/-- **When the literal of a list is an array creation.**  Let a list fit a sequence type over the
primitive kinds.  It is written unless an integer in it is too large for a floating-point type.
What is written is an array creation for the type just when the list can be written as one: there
is no empty list in it where the item type is a sequence itself, no text with a character that ends
a line and is not escaped, and for a character no text but one of a single character. -/
theorem literal?_isArrayCreation {item : SchemaType}
    (hitem : item.isOver PlainKind.isPrimitive = true) (name : Json) (nullable : Bool)
    {elements : List Json} (hfits : (sequence item name nullable).fits (.arr elements) = true) :
    ((∃ text, literal? (.arr elements) (sequence item name nullable) = .ok (some text)) ↔
      ∀ part ∈ (sequence item name nullable).parts (.arr elements),
        part.1.isTooLarge part.2 = false) ∧
    ∀ text, literal? (.arr elements) (sequence item name nullable) = .ok (some text) →
      ((sequence item name nullable).IsLiteral text.toList ↔
        (sequence item name nullable).isWritable (.arr elements) = true) := by
  have htype : (sequence item name nullable).isOver PlainKind.isPrimitive = true := hitem
  have hnull : Json.arr elements ≠ .null := nofun
  exact ⟨exists_literal?_iff htype hnull hfits,
    fun text htext => (writtenAs_of_literal? htype hfits htext).literal⟩

/-- The type of lists of integers. -/
def integers : SchemaType := sequence (plain .integer (.str "") false) (.str "") false

/-- Lists of integers, one of them empty, are written as an array creation. -/
theorem literal?_of_integerLists :
    integers.isOver PlainKind.isPrimitive = true ∧
    (sequence integers (.str "") false).fits (.arr [.arr [.int 1, .int 2], .arr []]) = true ∧
    ∃ text, literal? (.arr [.arr [.int 1, .int 2], .arr []]) (sequence integers (.str "") false) =
        .ok (some text) ∧
      (sequence integers (.str "") false).IsLiteral text.toList := by
  have hitem : integers.isOver PlainKind.isPrimitive = true := rfl
  have hfits : (sequence integers (.str "") false).fits
      (.arr [.arr [.int 1, .int 2], .arr []]) = true := rfl
  obtain ⟨hwritten, hliteral⟩ := literal?_isArrayCreation hitem (.str "") false hfits
  obtain ⟨text, htext⟩ := hwritten.2 (by decide +kernel)
  exact ⟨hitem, hfits, text, htext, (hliteral text htext).2 (by decide +kernel)⟩

/-- An empty list of lists of integers fits its type, but it is written with its length after all
brackets, where C# wants it in the first of them. -/
theorem literal?_of_emptyLists :
    (sequence integers (.str "") false).fits (.arr []) = true ∧
    literal? (.arr []) (sequence integers (.str "") false) = .ok (some "new int[][0]") ∧
    ¬ (sequence integers (.str "") false).IsLiteral "new int[][0]".toList ∧
    (sequence integers (.str "") false).IsLiteral "new int[0][]".toList := by
  have hitem : integers.isOver PlainKind.isPrimitive = true := rfl
  refine ⟨rfl, rfl, ?_, ?_⟩
  · intro h
    have hsingle := (isLiteral_of_length_iff hitem (.str "") false).1 h
    cases hsingle
  · exact .inl ⟨"int".toList, 1, ['0'], ⟨.integer, false, rfl, rfl⟩, rfl, isDigits_zero, rfl⟩

end SchemaType

end CatalogClasses
