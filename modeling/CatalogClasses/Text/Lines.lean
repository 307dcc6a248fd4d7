/-
# Lines

A text is cut into lines at every line boundary character.  A boundary ends the
line before it, so a text that ends in one has no empty line after it, and the
empty text has no line at all.
-/
import CatalogClasses.Text.Blank

namespace CatalogClasses.Text

/-- A line boundary: line feed, vertical tab, form feed, carriage return, the three
larger information separators, next line, line separator, paragraph separator. -/
def isBreak (c : Char) : Bool :=
  let n := c.toNat
  (10 ≤ n && n ≤ 13) || (28 ≤ n && n ≤ 30) || n == 0x85 || n == 0x2028 || n == 0x2029

/-- A line boundary is white space. -/
theorem isBlank_of_isBreak {c : Char} (h : isBreak c = true) : isBlank c = true := by
  simp only [isBreak, Bool.or_eq_true, Bool.and_eq_true, decide_eq_true_eq, beq_iff_eq] at h
  simp only [isBlank, Bool.or_eq_true, Bool.and_eq_true, decide_eq_true_eq, beq_iff_eq]
  omega

/-- The lines of a text, without their boundaries.  A carriage return and the line
feed after it are one boundary. -/
def splitLines : List Char → List (List Char)
  | [] => []
  | '\r' :: '\n' :: rest => [] :: splitLines rest
  | c :: rest =>
      if isBreak c then [] :: splitLines rest
      else match splitLines rest with
        | [] => [[c]]
        | line :: lines => (c :: line) :: lines

/-- A character that is no boundary stands at the start of the first line. -/
theorem splitLines_cons_of_not_break {c : Char} (h : isBreak c = false) (rest : List Char) :
    splitLines (c :: rest) =
      match splitLines rest with
      | [] => [[c]]
      | line :: lines => (c :: line) :: lines := by
  rw [splitLines.eq_def]
  split
  · next hnil => cases hnil
  · next hcr => cases hcr; exact absurd h (by decide)
  · next hcons => cases hcons; simp [h]

/-- A boundary ends a line, unless it is the first half of a boundary of two characters. -/
theorem splitLines_cons_of_break {c : Char} {rest : List Char} (h : isBreak c = true)
    (hpair : c = '\r' → ∀ more, rest ≠ '\n' :: more) :
    splitLines (c :: rest) = [] :: splitLines rest := by
  rw [splitLines.eq_def]
  split
  · next hnil => cases hnil
  · next more hcr => cases hcr; exact absurd rfl (hpair rfl more)
  · next hcons => cases hcons; rw [if_pos h]

/-- A text without a boundary is its own only line, unless it is empty. -/
theorem splitLines_of_no_break {text : List Char} (h : ∀ c ∈ text, isBreak c = false)
    (nonempty : text ≠ []) : splitLines text = [text] := by
  induction text with
  | nil => exact absurd rfl nonempty
  | cons c rest ih =>
    rw [splitLines_cons_of_not_break (h c List.mem_cons_self)]
    cases rest with
    | nil => rfl
    | cons d rest =>
      rw [ih (fun x hx => h x (List.mem_cons_of_mem _ hx)) (List.cons_ne_nil _ _)]

/-- A text without a boundary is a line if a line feed follows it. -/
theorem splitLines_lineFeed {text : List Char} (h : ∀ c ∈ text, isBreak c = false) :
    splitLines (text ++ ['\n']) = [text] := by
  induction text with
  | nil => rfl
  | cons c rest ih =>
    rw [List.cons_append, splitLines_cons_of_not_break (h c List.mem_cons_self),
      ih (fun x hx => h x (List.mem_cons_of_mem _ hx))]

/-- No line has a boundary inside it. -/
theorem isBreak_of_mem_splitLines (text : List Char) :
    ∀ line ∈ splitLines text, ∀ c ∈ line, isBreak c = false := by
  fun_induction splitLines text with
  | case1 => intro line h; cases h
  | case2 rest ih => exact List.forall_mem_cons.2 ⟨by simp, ih⟩
  | case3 c rest _ hbreak ih => exact List.forall_mem_cons.2 ⟨by simp, ih⟩
  | case4 c rest _ hbreak hlines ih =>
    have hc : isBreak c = false := Bool.eq_false_iff.2 hbreak
    simpa using hc
  | case5 c rest _ hbreak line lines hlines ih =>
    have hc : isBreak c = false := Bool.eq_false_iff.2 hbreak
    rw [hlines, List.forall_mem_cons] at ih
    exact List.forall_mem_cons.2 ⟨List.forall_mem_cons.2 ⟨hc, ih.1⟩, ih.2⟩

/-- A text that is not empty has a line. -/
theorem splitLines_ne_nil {text : List Char} (h : text ≠ []) : splitLines text ≠ [] := by
  unfold splitLines
  split
  · exact absurd rfl h
  · exact List.cons_ne_nil _ _
  · split
    · exact List.cons_ne_nil _ _
    · split <;> exact List.cons_ne_nil _ _

/-- The lines of a text that is cut after a line feed are those before the cut and those after
it. -/
theorem splitLines_append_lineFeed (first second : List Char) :
    splitLines (first ++ '\n' :: second) =
      splitLines (first ++ ['\n']) ++ splitLines second := by
  induction first with
  | nil => rfl
  | cons c rest ih =>
    rw [List.cons_append, List.cons_append]
    cases hbreak : isBreak c with
    | false =>
      have hne : splitLines (rest ++ ['\n']) ≠ [] := splitLines_ne_nil (by simp)
      rw [splitLines_cons_of_not_break hbreak, splitLines_cons_of_not_break hbreak, ih]
      cases hlines : splitLines (rest ++ ['\n']) with
      | nil => exact absurd hlines hne
      | cons line lines => rfl
    | true =>
      cases rest with
      | nil =>
        by_cases hc : c = '\r'
        · rw [hc]
          rfl
        · rw [splitLines_cons_of_break hbreak (fun h => absurd h hc),
            splitLines_cons_of_break hbreak (fun h => absurd h hc), ih]
          rfl
      | cons d rest =>
        by_cases hpair : c = '\r' ∧ d = '\n'
        -- the carriage return and the line feed are one boundary on both sides
        · obtain ⟨rfl, rfl⟩ := hpair
          exact ih
        · have hsingle : c = '\r' → ∀ last more, d :: rest ++ last ≠ '\n' :: more := by
            intro hc last more hsame
            exact hpair ⟨hc, (List.cons.inj hsame).1⟩
          rw [splitLines_cons_of_break hbreak (fun hc => hsingle hc _),
            splitLines_cons_of_break hbreak (fun hc => hsingle hc _), ih]
          rfl

/-- The parts of a text between the occurrences of one character; there is always
at least one part. -/
def splitAt (separator : Char) : List Char → List (List Char)
  | [] => [[]]
  | c :: rest =>
      if c = separator then [] :: splitAt separator rest
      else match splitAt separator rest with
        | [] => [[c]]
        | part :: parts => (c :: part) :: parts

/-- There is always a part. -/
theorem splitAt_ne_nil (separator : Char) (text : List Char) : splitAt separator text ≠ [] := by
  cases text with
  | nil => exact List.cons_ne_nil _ _
  | cons c rest =>
    rw [splitAt]
    split
    · exact List.cons_ne_nil _ _
    · split <;> exact List.cons_ne_nil _ _

/-- Where a text is cut at a separator, its parts are those on either side. -/
theorem splitAt_append_cons (separator : Char) (first second : List Char) :
    splitAt separator (first ++ separator :: second) =
      splitAt separator first ++ splitAt separator second := by
  induction first with
  | nil => simp [splitAt]
  | cons c rest ih =>
    rw [List.cons_append, splitAt, splitAt, ih]
    by_cases hc : c = separator
    · rw [if_pos hc, if_pos hc]
      rfl
    · rw [if_neg hc, if_neg hc]
      cases hparts : splitAt separator rest with
      | nil => exact absurd hparts (splitAt_ne_nil separator rest)
      | cons part parts => rfl

/-- A text without the separator is one part. -/
theorem splitAt_of_not_mem {separator : Char} {text : List Char} (h : separator ∉ text) :
    splitAt separator text = [text] := by
  induction text with
  | nil => rfl
  | cons c rest ih =>
    obtain ⟨hc, hrest⟩ := not_or.1 (mt List.mem_cons.2 h)
    rw [splitAt, if_neg (Ne.symm hc), ih hrest]

end CatalogClasses.Text
