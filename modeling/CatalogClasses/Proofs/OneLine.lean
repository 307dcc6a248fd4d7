/-
# Texts of one line

What is generated in one line is put together from names and values, and a line boundary in one
of them would break it.  Numbers have none, and neither has the notation for values, whatever
texts are in the value: it shows a boundary as an escape.  The capital form of a letter is no
boundary either.
-/
import CatalogClasses.Proofs.Comments

namespace CatalogClasses

open Number

/-! ## Characters -/

namespace Text

/-- The code points of the line boundaries. -/
def breakCodes : List Nat := [10, 11, 12, 13, 28, 29, 30, 0x85, 0x2028, 0x2029]

theorem isBreak_iff {c : Char} : isBreak c = true ↔ c.toNat ∈ breakCodes := by
  simp only [isBreak, breakCodes, Bool.or_eq_true, Bool.and_eq_true, decide_eq_true_eq,
    beq_iff_eq, List.mem_cons, List.not_mem_nil, or_false]
  omega

/-- A character with a property that no line boundary has is none. -/
theorem isBreak_of_forall {property : Char → Bool}
    (hall : ∀ n ∈ breakCodes, property (Char.ofNat n) = false) {c : Char}
    (h : property c = true) : isBreak c = false := by
  rw [Bool.eq_false_iff]
  intro hbreak
  have hc := hall c.toNat (isBreak_iff.1 hbreak)
  rw [Char.ofNat_toNat, h] at hc
  cases hc

/-- A character that is printable is no line boundary. -/
theorem isBreak_of_isPrintable {c : Char} (h : isPrintable c = true) : isBreak c = false :=
  isBreak_of_forall (by decide +kernel) h

/-- A decimal digit is no line boundary. -/
theorem isBreak_of_isDigit {c : Char} (h : c.isDigit = true) : isBreak c = false :=
  isBreak_of_forall (by decide) h

/-- The character of another code point is no line boundary. -/
theorem isBreak_ofNat {n : Nat} (h : n ∉ breakCodes) : isBreak (Char.ofNat n) = false := by
  rw [Bool.eq_false_iff, ne_eq, isBreak_iff]
  by_cases hvalid : n.isValidChar
  · have hcode : (Char.ofNat n).toNat = n := congrArg Char.toNat (dif_pos hvalid)
    rwa [hcode]
  · have hcode : (Char.ofNat n).toNat = 0 := congrArg Char.toNat (dif_neg hvalid)
    rw [hcode]
    decide

/-! ## Texts -/

/-- The text has no line boundary in it. -/
def OneLine (text : List Char) : Prop := ∀ c ∈ text, isBreak c = false

instance (text : List Char) : Decidable (OneLine text) :=
  decidable_of_iff (text.all (fun c => !isBreak c) = true) (by simp [OneLine])

@[simp] theorem oneLine_nil : OneLine [] := fun _ h => nomatch h

@[simp] theorem oneLine_cons {c : Char} {rest : List Char} :
    OneLine (c :: rest) ↔ isBreak c = false ∧ OneLine rest := List.forall_mem_cons

@[simp] theorem oneLine_append {first second : List Char} :
    OneLine (first ++ second) ↔ OneLine first ∧ OneLine second := List.forall_mem_append

theorem OneLine.of_subset {text part : List Char} (h : OneLine text) (hpart : part ⊆ text) :
    OneLine part := fun c hc => h c (hpart hc)

theorem oneLine_replicate (n : Nat) {c : Char} (h : isBreak c = false) :
    OneLine (List.replicate n c) := by
  intro d hd
  rw [List.eq_of_mem_replicate hd]
  exact h

/-- A text whose characters are written each in one line is written in one line. -/
theorem oneLine_flatMap {text : List Char} {write : Char → List Char}
    (h : ∀ c ∈ text, OneLine (write c)) : OneLine (text.flatMap write) := by
  intro d hd
  obtain ⟨c, hc, hd⟩ := List.mem_flatMap.1 hd
  exact h c hc d hd

/-! ## Capital letters -/

/-- A form from tables that lead to no line boundary is none, if the character is none. -/
theorem oneLine_upper {c : Char} (h : isBreak c = false) : OneLine (upper c) := by
  have hsequences : ∀ entry ∈ upperSequences, ∀ code ∈ entry.2, code ∉ breakCodes := by
    decide +kernel
  have hruns : ∀ run ∈ upperRuns, ∀ n ∈ breakCodes,
      (n : Int) < run.first + run.offset ∨ (run.last : Int) + run.offset < n := by
    decide +kernel
  rcases caseForm_cases upperRuns upperSequences c with
    ⟨codes, hmem, hform⟩ | ⟨-, ⟨run, hrun, hholds, hform⟩ | ⟨-, hform⟩⟩
  · rw [upper, hform]
    intro d hd
    obtain ⟨code, hcode, rfl⟩ := List.mem_map.1 hd
    exact isBreak_ofNat (hsequences _ hmem code hcode)
  · simp only [CaseRun.holds, Bool.and_eq_true, decide_eq_true_eq] at hholds
    -- the run moves the character between the images of its ends
    have hcode : run.move c.toNat ∉ breakCodes := by
      intro hbreak
      have hpositive : 0 < run.move c.toNat := by
        have hzero : (0 : Nat) ∉ breakCodes := by decide
        rcases Nat.eq_zero_or_pos (run.move c.toNat) with hmove | hmove
        · rw [hmove] at hbreak
          exact absurd hbreak hzero
        · exact hmove
      have hbounds := hruns run hrun _ hbreak
      unfold CaseRun.move at hbounds hpositive
      omega
    rw [upper, hform]
    exact oneLine_cons.2 ⟨isBreak_ofNat hcode, oneLine_nil⟩
  · rw [upper, hform]
    exact oneLine_cons.2 ⟨h, oneLine_nil⟩

theorem oneLine_capitalize {text : List Char} (h : OneLine text) : OneLine (capitalize text) := by
  cases text with
  | nil => exact oneLine_nil
  | cons c rest =>
    obtain ⟨hc, hrest⟩ := oneLine_cons.1 h
    exact oneLine_append.2 ⟨oneLine_upper hc, hrest⟩

/-! ## Quoted texts -/

theorem oneLine_hexDigits (width n : Nat) : OneLine (hexDigits width n) := by
  have hdigit : ∀ n < 16, isBreak (hexDigit n) = false := by decide
  induction width generalizing n with
  | zero => exact oneLine_nil
  | succ width ih =>
    rw [hexDigits, oneLine_append]
    exact ⟨ih _, oneLine_cons.2 ⟨hdigit _ (Nat.mod_lt _ (by decide)), oneLine_nil⟩⟩

theorem oneLine_codeEscape (c : Char) : OneLine (codeEscape c) := by
  have hescape : ∀ {letter : Char}, isBreak letter = false → ∀ width,
      OneLine ('\\' :: letter :: hexDigits width c.toNat) := by
    intro letter hletter width
    exact oneLine_cons.2 ⟨by decide, oneLine_cons.2 ⟨hletter, oneLine_hexDigits _ _⟩⟩
  show OneLine (if c.toNat < 0x100 then _ else if c.toNat < 0x10000 then _ else _)
  split
  · exact hescape (by decide) 2
  · split
    · exact hescape (by decide) 4
    · exact hescape (by decide) 8

theorem oneLine_quoteChar {quote : Char} (hquote : isBreak quote = false) (c : Char) :
    OneLine (quoteChar quote c) := by
  unfold quoteChar
  split
  · next hescaped =>
    have hc : isBreak c = false := by
      rcases Bool.or_eq_true _ _ ▸ hescaped with h | h
      · rw [of_decide_eq_true h]
        exact hquote
      · rw [of_decide_eq_true h]
        decide
    exact oneLine_cons.2 ⟨by decide, oneLine_cons.2 ⟨hc, oneLine_nil⟩⟩
  · split
    · decide
    · split
      · decide
      · split
        · decide
        · split
          · next hprintable => exact oneLine_cons.2 ⟨isBreak_of_isPrintable hprintable, oneLine_nil⟩
          · exact oneLine_codeEscape c

/-- A quoted text is one line, whatever the text. -/
theorem oneLine_quoted (text : List Char) : OneLine (quoted text) := by
  have hquote : isBreak (quoteFor text) = false := by
    unfold quoteFor
    split <;> decide
  show OneLine (quoteFor text :: text.flatMap (quoteChar (quoteFor text)) ++ [quoteFor text])
  rw [oneLine_append, oneLine_cons]
  exact ⟨⟨hquote, oneLine_flatMap fun c _ => oneLine_quoteChar hquote c⟩,
    oneLine_cons.2 ⟨hquote, oneLine_nil⟩⟩

end Text

/-! ## Numbers -/

namespace Number

open Text

theorem oneLine_digits (n : Nat) : OneLine (digits n) :=
  fun c hc => isBreak_of_isDigit (isDigit_of_mem_digits n c hc)

theorem oneLine_integerText (n : Int) : OneLine (integerText n) := by
  cases n with
  | ofNat n => exact oneLine_digits n
  | negSucc n => exact oneLine_cons.2 ⟨by decide, oneLine_digits _⟩

theorem oneLine_shortest (x : Binary64) : OneLine (shortest x).1 := by
  apply (oneLine_digits _).of_subset
  intro c hc
  exact List.mem_reverse.1 ((List.dropWhile_sublist _).subset (List.mem_reverse.1 hc))

theorem oneLine_positionalText {ds : List Char} (h : OneLine ds) (point : Int) :
    OneLine (positionalText ds point) := by
  have hzeros : ∀ n, OneLine (List.replicate n '0') := fun n => oneLine_replicate n (by decide)
  have hpoint : isBreak '.' = false := by decide
  have hzero : isBreak '0' = false := by decide
  unfold positionalText
  split
  · simp [hzeros, hpoint, hzero, h]
  · split
    · simp [hzeros, hpoint, hzero, h]
    · simp [hpoint, h.of_subset (List.take_subset _ _), h.of_subset (List.drop_subset _ _)]

theorem oneLine_exponentText (e : Int) : OneLine (exponentText e) := by
  have hsign : isBreak (if e < 0 then '-' else '+') = false := by split <;> decide
  have hdigits := oneLine_digits e.natAbs
  refine oneLine_cons.2 ⟨hsign, ?_⟩
  show OneLine (if (digits e.natAbs).length < 2 then _ else _)
  split
  · exact oneLine_cons.2 ⟨by decide, hdigits⟩
  · exact hdigits

theorem oneLine_scientificText {ds : List Char} (h : OneLine ds) (point : Int) :
    OneLine (scientificText ds point) := by
  have hpoint : isBreak '.' = false := by decide
  have he : isBreak 'e' = false := by decide
  unfold scientificText
  split
  · exact oneLine_nil
  · simp_all [oneLine_exponentText]
  · simp_all [oneLine_exponentText]

/-- The text of a double-precision number is one line. -/
theorem oneLine_text (x : Binary64) : OneLine x.text := by
  have hmagnitude : OneLine (magnitudeText x) := by
    unfold magnitudeText
    split
    · decide
    · show OneLine (if -4 < (shortest x).2 ∧ (shortest x).2 ≤ 16 then _ else _)
      split
      · exact oneLine_positionalText (oneLine_shortest x) _
      · exact oneLine_scientificText (oneLine_shortest x) _
  have hsign : OneLine (if x.negative then ['-'] else []) := by
    split
    · exact oneLine_cons.2 ⟨by decide, oneLine_nil⟩
    · exact oneLine_nil
  unfold Binary64.text
  split
  · decide
  · rw [oneLine_append]
    refine ⟨hsign, ?_⟩
    split
    · decide
    · exact hmagnitude

end Number

/-! ## Values -/

theorem unbroken_ofList {text : List Char} : Unbroken (String.ofList text) ↔ Text.OneLine text := by
  rw [Unbroken, String.toList_ofList]
  rfl

theorem unbroken_append {first second : String} :
    Unbroken (first ++ second) ↔ Unbroken first ∧ Unbroken second := by
  rw [Unbroken, String.toList_append]
  exact List.forall_mem_append

namespace Json

theorem unbroken_quotedText (s : String) : Unbroken (quotedText s) :=
  unbroken_ofList.2 (Text.oneLine_quoted _)

theorem unbroken_intText (n : Int) : Unbroken (intText n) :=
  unbroken_ofList.2 (oneLine_integerText n)

mutual

/-- **The notation for values is one line**, whatever texts are in the value. -/
theorem unbroken_shown : ∀ value : Json, Unbroken value.shown
  | null => by decide
  | bool true => by decide
  | bool false => by decide
  | int n => unbroken_intText n
  | float x => unbroken_ofList.2 (oneLine_text x)
  | str s => unbroken_quotedText s
  | arr elements => by
    have hopening : Unbroken "[" := by decide
    rw [shown]
    exact (hopening.append (unbroken_shownElements elements)).append (by decide)
  | obj fields => by
    have hopening : Unbroken "\x7b" := by decide
    rw [shown]
    exact (hopening.append (unbroken_shownFields fields)).append (by decide)

theorem unbroken_shownElements : ∀ elements : List Json, Unbroken (shownElements elements)
  | [] => by decide
  | [x] => unbroken_shown x
  | x :: y :: rest => by
    rw [shownElements]
    · exact ((unbroken_shown x).append (by decide)).append (unbroken_shownElements (y :: rest))
    · exact fun hnil => List.cons_ne_nil _ _ hnil

theorem unbroken_shownFields : ∀ fields : List (String × Json), Unbroken (shownFields fields)
  | [] => by decide
  | [(k, v)] => ((unbroken_quotedText k).append (by decide)).append (unbroken_shown v)
  | (k, v) :: field :: rest => by
    rw [shownFields]
    · exact ((((unbroken_quotedText k).append (by decide)).append (unbroken_shown v)).append
        (by decide)).append (unbroken_shownFields (field :: rest))
    · exact fun hnil => List.cons_ne_nil _ _ hnil

end

end Json

end CatalogClasses
