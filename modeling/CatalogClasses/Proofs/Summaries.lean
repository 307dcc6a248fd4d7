/-
# Summaries, read back

A summary is made of the lines of a text in four steps: the lines are escaped, all but the last
lose the white space at their ends, the first and the last one get the tags, and every line is put
behind three slashes.  Escaping touches no line boundary and no white space, so it makes no
difference whether a text is escaped before it is cut into lines or after.  Each of the other steps
can be taken back, so a summary says what its text says, but for white space at the ends of lines.

Main definitions:

* `Summary.linesOf` : the lines that a summary is about;
* `Summary.trimmed` : lines without the white space at the ends of all but the last;
* `Summary.texts?` : what is left of the lines of a summary without the slashes and the tags.
-/
import CatalogClasses.Proofs.Comments
import CatalogClasses.Proofs.Entities

namespace CatalogClasses

namespace Text

/-! ## Escaping and cutting -/

/-- White space is not escaped. -/
theorem markupChar_of_blank {c : Char} (h : isBlank c = true) : markupChar c = [c] := by
  refine markupChar_of_ne ?_ ?_ ?_
  all_goals
    rintro rfl
    exact absurd h (by decide)

/-- An entity has no line boundary in it. -/
theorem isBreak_of_mem_markupChar {c d : Char} (h : isBreak c = false) (hd : d ∈ markupChar c) :
    isBreak d = false := by
  have hmarkup : (markupChar c).all (fun d => !isBreak d) = true := by
    unfold markupChar
    split
    · rfl
    · rfl
    · rfl
    · simp [h]
  simpa using List.all_eq_true.1 hmarkup d hd

theorem markupChar_ne_nil (c : Char) : markupChar c ≠ [] := by
  unfold markupChar
  split <;> exact List.cons_ne_nil _ _

/-- What is written before a text without a boundary stands at the start of its first line. -/
theorem splitLines_append_of_no_break {first : List Char} (h : ∀ c ∈ first, isBreak c = false)
    (nonempty : first ≠ []) (second : List Char) :
    splitLines (first ++ second) =
      match splitLines second with
      | [] => [first]
      | line :: lines => (first ++ line) :: lines := by
  induction first with
  | nil => exact absurd rfl nonempty
  | cons c first ih =>
    obtain ⟨hc, hfirst⟩ := List.forall_mem_cons.1 h
    rw [List.cons_append, splitLines_cons_of_not_break hc]
    cases first with
    | nil => rfl
    | cons d first =>
      rw [ih hfirst (List.cons_ne_nil _ _)]
      cases splitLines second <;> rfl

/-- No line feed comes to the start of a text by escaping. -/
theorem head_of_escapeMarkup {text more : List Char} (h : escapeMarkup text = '\n' :: more) :
    ∃ rest, text = '\n' :: rest := by
  cases text with
  | nil => cases h
  | cons c rest =>
    rw [escapeMarkup_cons, markupChar.eq_def] at h
    split at h
    · cases h
    · cases h
    · cases h
    · exact ⟨rest, congrArg (· :: rest) (List.cons.inj h).1⟩

/-- **A text may be escaped before it is cut into lines, or after.** -/
theorem splitLines_escapeMarkup (text : List Char) :
    splitLines (escapeMarkup text) = (splitLines text).map escapeMarkup := by
  fun_induction splitLines text with
  | case1 => rfl
  | case2 rest ih => exact congrArg ([] :: ·) ih
  | case3 c rest hpair hbreak ih =>
    have hnext : c = '\r' → ∀ more, escapeMarkup rest ≠ '\n' :: more := by
      intro hc more hmore
      obtain ⟨later, hlater⟩ := head_of_escapeMarkup hmore
      exact hpair later hc hlater
    rw [escapeMarkup_cons, markupChar_of_blank (isBlank_of_isBreak hbreak), List.singleton_append,
      splitLines_cons_of_break hbreak hnext, ih]
    rfl
  | case4 c rest hpair hbreak hlines ih =>
    rw [escapeMarkup_cons, splitLines_append_of_no_break
      (fun _ => isBreak_of_mem_markupChar (Bool.eq_false_iff.2 hbreak)) (markupChar_ne_nil c),
      ih, hlines, List.map_singleton, escapeMarkup_cons, escapeMarkup, List.append_nil]
    rfl
  | case5 c rest hpair hbreak line lines hlines ih =>
    rw [escapeMarkup_cons, splitLines_append_of_no_break
      (fun _ => isBreak_of_mem_markupChar (Bool.eq_false_iff.2 hbreak)) (markupChar_ne_nil c),
      ih, hlines, List.map_cons, List.map_cons, escapeMarkup_cons]

/-- Escaping makes no text blank, and leaves a blank one blank. -/
theorem allBlank_escapeMarkup (text : List Char) :
    allBlank (escapeMarkup text) = allBlank text := by
  induction text with
  | nil => rfl
  | cons c rest ih =>
    have hc : allBlank (markupChar c) = isBlank c := by
      unfold markupChar
      split
      · rfl
      · rfl
      · rfl
      · exact Bool.and_true _
    rw [escapeMarkup_cons, allBlank_append, hc, ih]
    rfl

/-- **The white space at the end of a text may be removed before it is escaped, or after.** -/
theorem trimEnd_escapeMarkup (text : List Char) :
    trimEnd (escapeMarkup text) = escapeMarkup (trimEnd text) := by
  have single : ∀ c, trimEnd (markupChar c) = escapeMarkup (trimEnd [c]) := by
    intro c
    unfold markupChar
    split
    · rfl
    · rfl
    · rfl
    · next hand hless hgreater =>
      rw [trimEnd, List.reverse_singleton]
      cases hc : isBlank c with
      | true => simp [hc, escapeMarkup]
      | false =>
        simp [hc, escapeMarkup_cons, markupChar_of_ne hand hless hgreater, escapeMarkup]
  induction text with
  | nil => rfl
  | cons c rest ih =>
    rw [escapeMarkup_cons, ← List.singleton_append, trimEnd_append, trimEnd_append,
      allBlank_escapeMarkup]
    split
    · exact single c
    · rw [ih, List.singleton_append, escapeMarkup_cons]

end Text

namespace Summary

/-! ## The steps of a summary -/

/-- The lines of a text; the empty text has one line, which is empty. -/
def linesOf (text : String) : List (List Char) :=
  match Text.splitLines text.toList with
  | [] => [[]]
  | lines => lines

theorem linesOf_ne_nil (text : String) : linesOf text ≠ [] := by
  unfold linesOf
  split
  · exact List.cons_ne_nil _ _
  · next hne => exact hne

/-- The lines, all but the last without the white space at their ends. -/
def trimmed : List (List Char) → List (List Char)
  | [] => []
  | [last] => [last]
  | line :: rest => Text.trimEnd line :: trimmed rest

/-- The tag before a summary. -/
def opening : List Char := ['<', 's', 'u', 'm', 'm', 'a', 'r', 'y', '>']

/-- The tag after a summary, with a space before it. -/
def closing : List Char := [' ', '<', '/', 's', 'u', 'm', 'm', 'a', 'r', 'y', '>']

/-- The text after a space, unless there is nothing to be set apart. -/
def spaced : List Char → List Char
  | [] => []
  | text => ' ' :: text

/-- The lines with the opening tag before the first one. -/
def opened : List (List Char) → List (List Char)
  | [] => []
  | first :: rest => (opening ++ spaced first) :: rest

/-- The lines with the closing tag after the last one. -/
def closed : List (List Char) → List (List Char)
  | [] => []
  | [last] => [last ++ closing]
  | line :: rest => line :: closed rest

/-- A line of a comment that says the text. -/
def commentLine (text : List Char) : String := String.ofList (['/', '/', '/'] ++ spaced text)

@[simp] theorem length_trimmed (lines : List (List Char)) :
    (trimmed lines).length = lines.length := by
  fun_induction trimmed lines <;> simp_all

@[simp] theorem length_closed (lines : List (List Char)) :
    (closed lines).length = lines.length := by
  fun_induction closed lines <;> simp_all

@[simp] theorem length_opened (lines : List (List Char)) :
    (opened lines).length = lines.length := by
  cases lines <;> rfl

theorem trimmed_ne_nil {lines : List (List Char)} (h : lines ≠ []) : trimmed lines ≠ [] := by
  rw [← List.length_pos_iff, length_trimmed]
  exact List.length_pos_iff.2 h

theorem closed_ne_nil {lines : List (List Char)} (h : lines ≠ []) : closed lines ≠ [] := by
  rw [← List.length_pos_iff, length_closed]
  exact List.length_pos_iff.2 h

theorem trimmed_cons {rest : List (List Char)} (h : rest ≠ []) (line : List Char) :
    trimmed (line :: rest) = Text.trimEnd line :: trimmed rest := by
  cases rest with
  | nil => exact absurd rfl h
  | cons second rest => rfl

theorem closed_cons {rest : List (List Char)} (h : rest ≠ []) (line : List Char) :
    closed (line :: rest) = line :: closed rest := by
  cases rest with
  | nil => exact absurd rfl h
  | cons second rest => rfl

/-- What is made of each line, and leaves white space at the end alone, may be made after the
lines are trimmed. -/
theorem trimmed_map {make : List Char → List Char}
    (h : ∀ line, Text.trimEnd (make line) = make (Text.trimEnd line)) (lines : List (List Char)) :
    trimmed (lines.map make) = (trimmed lines).map make := by
  fun_induction trimmed lines with
  | case1 => rfl
  | case2 last => rfl
  | case3 line rest hrest ih =>
    have hne : rest.map make ≠ [] := by simpa using hrest
    rw [List.map_cons, trimmed_cons hne, ih, h, List.map_cons]

/-- Nothing is left of a text without its white space just when it is blank. -/
theorem trimEnd_eq_nil_iff {text : List Char} :
    Text.trimEnd text = [] ↔ Text.allBlank text = true := by
  induction text with
  | nil => exact iff_of_true rfl rfl
  | cons c rest ih =>
    rw [← List.singleton_append, Text.trimEnd_append, Text.allBlank_append]
    cases hrest : Text.allBlank rest with
    | true => cases hc : Text.isBlank c <;> simp [Text.trimEnd, Text.allBlank, hc]
    | false => simp

theorem spaced_of_ne_nil {text : List Char} (h : text ≠ []) : spaced text = ' ' :: text := by
  cases text with
  | nil => exact absurd rfl h
  | cons c rest => rfl

/-- A space before a text is trimmed with the text if nothing is left of the text. -/
theorem trimEnd_space (text : List Char) :
    Text.trimEnd (' ' :: text) = spaced (Text.trimEnd text) := by
  rw [← List.singleton_append, Text.trimEnd_append]
  split
  · next hblank =>
    rw [trimEnd_eq_nil_iff.2 hblank]
    rfl
  · next hblank => rw [spaced_of_ne_nil (mt trimEnd_eq_nil_iff.1 hblank), List.singleton_append]

/-- A trimmed line of a comment is that of a trimmed text. -/
theorem trimmedEnd_eq (start : List Char) (h : Text.trimEnd start = start) (line : List Char) :
    trimmedEnd (String.ofList (start ++ [' ']) ++ String.ofList line) =
      String.ofList (start ++ spaced (Text.trimEnd line)) := by
  rw [trimmedEnd, ← String.ofList_append, String.toList_ofList, List.append_assoc,
    Text.trimEnd_append_of_trimmed h, List.singleton_append, trimEnd_space]

/-- The text of the last line is not empty, for the tag is behind it. -/
theorem spaced_closing (last : List Char) : spaced (last ++ closing) = ' ' :: last ++ closing :=
  spaced_of_ne_nil (by simp [closing])

/-- **The lines of a summary after its first one**, step by step. -/
theorem summaryTail_eq (lines : List (List Char)) :
    summaryTail (lines.map String.ofList) = (closed (trimmed lines)).map commentLine := by
  fun_induction trimmed lines with
  | case1 => rfl
  | case2 last =>
    rw [List.map_singleton, summaryTail, closed, List.map_singleton, commentLine, spaced_closing]
    simp [String.ofList_append, ← String.toList_inj, closing]
  | case3 line rest hrest ih =>
    have hline : trimmedEnd ("/// " ++ String.ofList line) = commentLine (Text.trimEnd line) :=
      trimmedEnd_eq ['/', '/', '/'] rfl line
    have hne : rest.map String.ofList ≠ [] := by simpa using hrest
    rw [List.map_cons, summaryTail, ih, hline, closed_cons (trimmed_ne_nil hrest), List.map_cons]
    exact hne

/-- **A summary, step by step.** -/
theorem summaryOfLines_eq {lines : List (List Char)} (h : lines ≠ []) :
    summaryOfLines (lines.map String.ofList) =
      (opened (closed (trimmed lines))).map commentLine := by
  cases lines with
  | nil => exact absurd rfl h
  | cons first rest =>
    cases rest with
    | nil =>
      rw [List.map_singleton, summaryOfLines, trimmed, closed, opened, List.map_singleton,
        commentLine, spaced_closing]
      simp [spaced, String.ofList_append, ← String.toList_inj, opening, closing]
    | cons second rest =>
      have hne : second :: rest ≠ [] := List.cons_ne_nil _ _
      have hfirst : trimmedEnd ("/// <summary> " ++ String.ofList first) =
          commentLine (opening ++ spaced (Text.trimEnd first)) :=
        trimmedEnd_eq (['/', '/', '/', ' '] ++ opening) rfl first
      rw [List.map_cons, summaryOfLines, summaryTail_eq, hfirst, trimmed_cons hne,
        closed_cons (trimmed_ne_nil hne), opened, List.map_cons]
      exact fun hnil => absurd hnil (List.cons_ne_nil _ _)

/-- A summary is made of the escaped lines of its text. -/
theorem summaryLines_eq (text : String) :
    summaryLines text =
      (opened (closed ((trimmed (linesOf text)).map Text.escapeMarkup))).map commentLine := by
  have hlines : summaryLines text =
      summaryOfLines (((linesOf text).map Text.escapeMarkup).map String.ofList) := by
    rw [summaryLines, Text.splitLines_escapeMarkup, linesOf]
    cases Text.splitLines text.toList <;> rfl
  have hne : (linesOf text).map Text.escapeMarkup ≠ [] := by simpa using linesOf_ne_nil text
  rw [hlines, summaryOfLines_eq hne, trimmed_map Text.trimEnd_escapeMarkup]

/-! ## Reading a summary -/

/-- The text without a space at its start. -/
def afterSpace : List Char → List Char
  | ' ' :: rest => rest
  | text => text

/-- What a line of a comment says. -/
def commentText? (line : String) : Option (List Char) :=
  (['/', '/', '/'].isPrefixOf? line.toList).map afterSpace

/-- The lines without the opening tag before the first one. -/
def unopened? : List (List Char) → Option (List (List Char))
  | [] => none
  | first :: rest => (opening.isPrefixOf? first).map fun text => afterSpace text :: rest

/-- The lines without the closing tag after the last one. -/
def unclosed? : List (List Char) → Option (List (List Char))
  | [] => none
  | [last] => (Text.dropEnding? closing last).map fun text => [text]
  | line :: rest => (unclosed? rest).map fun lines => line :: lines

/-- What the lines of a summary say: every line is one of a comment, the first one begins with the
opening tag, and the last one ends with the closing tag. -/
def texts? (summary : List String) : Option (List (List Char)) := do
  let lines ← summary.mapM commentText?
  let lines ← unopened? lines
  unclosed? lines

@[simp] theorem afterSpace_spaced (text : List Char) : afterSpace (spaced text) = text := by
  cases text <;> rfl

@[simp] theorem commentText?_commentLine (text : List Char) :
    commentText? (commentLine text) = some text := by
  rw [commentText?, commentLine, String.toList_ofList]
  exact congrArg some (afterSpace_spaced text)

theorem mapM_commentText? (lines : List (List Char)) :
    (lines.map commentLine).mapM commentText? = some lines := by
  induction lines with
  | nil => rfl
  | cons line rest ih => simp [ih]

theorem unopened?_opened {lines : List (List Char)} (h : lines ≠ []) :
    unopened? (opened lines) = some lines := by
  cases lines with
  | nil => exact absurd rfl h
  | cons first rest => exact congrArg (fun text => some (text :: rest)) (afterSpace_spaced first)

theorem unclosed?_closed {lines : List (List Char)} (h : lines ≠ []) :
    unclosed? (closed lines) = some lines := by
  fun_induction closed lines with
  | case1 => exact absurd rfl h
  | case2 last => simp [unclosed?, Text.dropEnding?_eq_some_iff.2 (Eq.refl (last ++ closing))]
  | case3 line rest hrest ih =>
    rw [unclosed?, ih hrest, Option.map_some]
    exact closed_ne_nil hrest

/-- **Each step of a summary can be taken back.** -/
theorem texts?_of_lines {lines : List (List Char)} (h : lines ≠ []) :
    texts? ((opened (closed lines)).map commentLine) = some lines := by
  rw [texts?, mapM_commentText?]
  show (unopened? (opened (closed lines))).bind unclosed? = _
  rw [unopened?_opened (closed_ne_nil h)]
  exact unclosed?_closed h

/-! ## Well-formed summaries -/

/-- The first line begins with the opening tag. -/
theorem exists_head {lines : List (List Char)} (h : lines ≠ []) :
    ∃ rest, ((opened lines).map commentLine).head? = some ("/// <summary>" ++ rest) := by
  cases lines with
  | nil => exact absurd rfl h
  | cons first rest =>
    refine ⟨String.ofList (spaced first), congrArg some ?_⟩
    rw [commentLine, spaced_of_ne_nil (by simp [opening])]
    simp [← String.toList_inj, opening]

/-- The last line has the closing tag at its end, also if it is the first one. -/
theorem exists_last {lines : List (List Char)} (h : lines ≠ []) :
    ∃ start last, opened (closed lines) = start ++ [last ++ closing] := by
  have hclosed : ∃ start last, closed lines = start ++ [last ++ closing] := by
    fun_induction closed lines with
    | case1 => exact absurd rfl h
    | case2 last => exact ⟨[], last, rfl⟩
    | case3 line rest hrest ih =>
      obtain ⟨start, last, hlast⟩ := ih hrest
      exact ⟨line :: start, last, congrArg (line :: ·) hlast⟩
  obtain ⟨start, last, hlast⟩ := hclosed
  rw [hlast]
  cases start with
  | nil => exact ⟨[], opening ++ ' ' :: last, by simp [opened, spaced_closing]⟩
  | cons first start => exact ⟨(opening ++ spaced first) :: start, last, rfl⟩

theorem exists_getLast {lines : List (List Char)} (h : lines ≠ []) :
    ∃ start, ((opened (closed lines)).map commentLine).getLast? =
      some (start ++ " </summary>") := by
  obtain ⟨start, last, hlast⟩ := exists_last h
  refine ⟨String.ofList (['/', '/', '/', ' '] ++ last), ?_⟩
  rw [hlast, List.map_append, List.map_singleton, List.getLast?_concat, commentLine,
    spaced_closing]
  simp [String.ofList_append, ← String.toList_inj, closing]

/-- A well-formed summary of the lines: as many comments, between the tags, that hold no other tag
and say the lines, but for white space at the ends of all but the last. -/
structure IsSummaryOf (lines : List (List Char)) (summary : List String) : Prop where
  length : summary.length = lines.length
  comments : ∀ line ∈ summary, (∃ rest, line = "///" ++ rest) ∧ Unbroken line
  opening : ∃ rest, summary.head? = some ("/// <summary>" ++ rest)
  closing : ∃ start, summary.getLast? = some (start ++ " </summary>")
  texts : ∃ texts, texts? summary = some texts ∧ (∀ text ∈ texts, '<' ∉ text ∧ '>' ∉ text) ∧
    texts.map Text.unescapeMarkup = trimmed lines

/-- **A summary is well formed and loses no text.** -/
theorem isSummaryOf_summaryLines (text : String) :
    IsSummaryOf (linesOf text) (summaryLines text) := by
  have hbroken : ∀ line ∈ summaryLines text, Unbroken line := by
    intro line hline
    exact (Layout.isCommentLine_iff.1 (isCommentLine_summaryLines text line hline)).2
  have hne : (trimmed (linesOf text)).map Text.escapeMarkup ≠ [] := by
    simpa using trimmed_ne_nil (linesOf_ne_nil text)
  rw [summaryLines_eq] at hbroken ⊢
  refine ⟨by simp, ?_, exists_head (closed_ne_nil hne), exists_getLast hne, ?_⟩
  · intro line hline
    obtain ⟨written, -, rfl⟩ := List.mem_map.1 hline
    exact ⟨⟨_, String.ofList_append⟩, hbroken _ hline⟩
  · refine ⟨_, texts?_of_lines hne, ?_, ?_⟩
    · intro line hline
      obtain ⟨kept, -, rfl⟩ := List.mem_map.1 hline
      exact ⟨(Text.isEscaped_escapeMarkup kept).less, (Text.isEscaped_escapeMarkup kept).greater⟩
    · have hback : Text.unescapeMarkup ∘ Text.escapeMarkup = id :=
        funext Text.unescapeMarkup_escapeMarkup
      rw [List.map_map, hback, List.map_id]

/-- A boundary of two characters ends one line, and the last line keeps its white space. -/
example : summaryLines "a <b> \r\n\n c \n" =
    ["/// <summary> a &lt;b&gt;", "///", "///  c  </summary>"] := by
  decide

end Summary

end CatalogClasses
