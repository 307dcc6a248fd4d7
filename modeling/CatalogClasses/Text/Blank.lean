/-
# White space

The white space characters of the Unicode standard, together with the four
information separators, and the trimming of a text at one end or at both.
-/

namespace CatalogClasses.Text

/-! ## The class -/

/-- A white space character: it separates words and is dropped by trimming. -/
def isBlank (c : Char) : Bool :=
  let n := c.toNat
  (9 ≤ n && n ≤ 13) || (28 ≤ n && n ≤ 32) || n == 0x85 || n == 0xA0 || n == 0x1680 ||
    (0x2000 ≤ n && n ≤ 0x200A) || n == 0x2028 || n == 0x2029 || n == 0x202F ||
    n == 0x205F || n == 0x3000

/-- A text is blank when it holds white space only. -/
def allBlank (text : List Char) : Bool := text.all isBlank

/-- A text is blank exactly when both of its parts are. -/
theorem allBlank_append (first second : List Char) :
    allBlank (first ++ second) = (allBlank first && allBlank second) :=
  List.all_append

/-- The white space of ASCII is white space. -/
theorem isBlank_of_isWhitespace {c : Char} (h : c.isWhitespace = true) : isBlank c = true := by
  simp only [Char.isWhitespace, Bool.or_eq_true, decide_eq_true_eq] at h
  rcases h with ((rfl | rfl) | rfl) | rfl <;> decide

/-! ## Trimming -/

/-- The text without the white space at its start. -/
def trimStart (text : List Char) : List Char := text.dropWhile isBlank

/-- The text without the white space at its end. -/
def trimEnd (text : List Char) : List Char := (text.reverse.dropWhile isBlank).reverse

/-- The text without the white space at both ends. -/
def trim (text : List Char) : List Char := trimEnd (trimStart text)

/-- Trimming at the start never makes a text longer. -/
theorem length_trimStart_le (text : List Char) : (trimStart text).length ≤ text.length :=
  (List.dropWhile_sublist isBlank).length_le

/-- Trimming at the end never makes a text longer. -/
theorem length_trimEnd_le (text : List Char) : (trimEnd text).length ≤ text.length := by
  have h := (List.dropWhile_sublist (l := text.reverse) isBlank).length_le
  simpa [trimEnd] using h

/-- Trimming never makes a text longer. -/
theorem length_trim_le (text : List Char) : (trim text).length ≤ text.length :=
  Nat.le_trans (length_trimEnd_le _) (length_trimStart_le _)

/-- That no character of a text is blank can be tested character by character. -/
theorem visible_of_all {text : List Char} (h : text.all (fun c => !isBlank c) = true) :
    ∀ c ∈ text, isBlank c = false := by
  intro c hc
  have hnot : (!isBlank c) = true := List.all_eq_true.1 h c hc
  rwa [Bool.not_eq_true'] at hnot

/-- A text without white space is not changed by trimming. -/
theorem trim_of_visible {text : List Char} (h : ∀ c ∈ text, isBlank c = false) :
    trim text = text := by
  have hdrop : ∀ {chars : List Char}, (∀ c ∈ chars, isBlank c = false) →
      chars.dropWhile isBlank = chars := by
    intro chars hchars
    cases chars with
    | nil => rfl
    | cons c rest =>
      rw [List.dropWhile_cons_of_neg]
      rw [hchars c List.mem_cons_self]
      exact Bool.false_ne_true
  have hreverse : ∀ c ∈ text.reverse, isBlank c = false := by
    intro c hc
    exact h c (List.mem_reverse.1 hc)
  rw [trim, trimStart, trimEnd, hdrop h, hdrop hreverse, List.reverse_reverse]

/-- Trimming the end of a text trims its second part, and goes on into the first one only
if the second is blank. -/
theorem trimEnd_append (first second : List Char) :
    trimEnd (first ++ second) =
      if allBlank second then trimEnd first else first ++ trimEnd second := by
  unfold trimEnd allBlank
  rw [List.reverse_append]
  split
  · next h =>
    rw [List.dropWhile_append_of_pos]
    simpa using h
  · next h =>
    have hne : second.reverse.dropWhile isBlank ≠ [] := by
      intro hnil
      apply h
      have key := List.takeWhile_append_dropWhile (p := isBlank) (l := second.reverse)
      have hall : (second.reverse.takeWhile isBlank).all isBlank = true := List.all_takeWhile
      rw [hnil, List.append_nil] at key
      rwa [key, List.all_reverse] at hall
    rw [List.dropWhile_append, if_neg (by simpa using hne), List.reverse_append,
      List.reverse_reverse]

/-- What is trimmed already is kept before any other text. -/
theorem trimEnd_append_of_trimmed {first : List Char} (h : trimEnd first = first)
    (second : List Char) : trimEnd (first ++ second) = first ++ trimEnd second := by
  rw [trimEnd_append]
  split
  · next hblank =>
    have hnone : trimEnd second = [] := by
      have hall : ∀ c ∈ second.reverse, isBlank c = true := by
        intro c hc
        exact List.all_eq_true.1 hblank c (List.mem_reverse.1 hc)
      rw [trimEnd, ← List.append_nil second.reverse, List.dropWhile_append_of_pos hall]
      rfl
    rw [h, hnone, List.append_nil]
  · rfl

/-- Trimming the end of a text adds no character. -/
theorem mem_of_mem_trimEnd {text : List Char} {c : Char} (h : c ∈ trimEnd text) : c ∈ text := by
  rw [trimEnd, List.mem_reverse] at h
  exact List.mem_reverse.1 ((List.dropWhile_sublist isBlank).subset h)

end CatalogClasses.Text
