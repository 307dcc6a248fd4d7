/-
# Lines of comments

The code of a text is what is left of it without its lines of comments.  Generated text is
cut into lines, indented and joined several times, and a comment is a line of its own all the
way: it has no line boundary inside it, so cutting leaves it whole, and indenting leaves it a
comment.  So two lists of lines that differ in comments alone give texts with the same code.

Main definitions:

* `Layout.code` : the lines of a text that are no comments;
* `Layout.withoutComments` : a list of lines without its comments.
-/
import CatalogClasses.SourceFile

namespace CatalogClasses

namespace Layout

/-! ## Comments -/

/-- The line begins with three slashes, after its leading spaces. -/
def isComment (line : List Char) : Bool :=
  Text.startsWith ['/', '/', '/'] (line.dropWhile (· == ' '))

/-- The code of a text: its parts between line feeds, without those that are comments. -/
def code (text : String) : List (List Char) :=
  (Text.splitAt '\n' text.toList).filter fun line => !isComment line

/-- The text is a comment of one line. -/
def isCommentLine (line : String) : Bool :=
  isComment line.toList && line.toList.all fun c => !Text.isBreak c

/-- The lines without the comments among them. -/
def withoutComments (lines : List String) : List String :=
  lines.filter fun line => !isCommentLine line

theorem isCommentLine_iff {line : String} :
    isCommentLine line = true ↔
      isComment line.toList = true ∧ ∀ c ∈ line.toList, Text.isBreak c = false := by
  simp [isCommentLine, Bool.and_eq_true, List.all_eq_true]

@[simp] theorem withoutComments_append (first second : List String) :
    withoutComments (first ++ second) = withoutComments first ++ withoutComments second :=
  List.filter_append _ _

/-- Nothing is left of comments alone. -/
theorem withoutComments_of_comments {lines : List String}
    (h : ∀ line ∈ lines, isCommentLine line = true) : withoutComments lines = [] := by
  apply List.filter_eq_nil_iff.2
  intro line hline
  rw [h line hline]
  exact Bool.false_ne_true

/-- What is made of each line on its own, and keeps comments and other lines apart, may be
made after the comments are taken out. -/
theorem withoutComments_map {make : String → String}
    (h : ∀ line, isCommentLine (make line) = isCommentLine line) (lines : List String) :
    withoutComments (lines.map make) = (withoutComments lines).map make := by
  rw [withoutComments, withoutComments, List.filter_map]
  congr 2
  funext line
  exact congrArg (!·) (h line)

/-- What is made of lines, and gives nothing but comments for a comment, may be made after the
comments are taken out. -/
theorem withoutComments_flatMap {make : String → List String}
    (h : ∀ line, isCommentLine line = true → withoutComments (make line) = [])
    (lines : List String) :
    withoutComments (lines.flatMap make) =
      (withoutComments lines).flatMap fun line => withoutComments (make line) := by
  induction lines with
  | nil => rfl
  | cons line rest ih =>
    rw [List.flatMap_cons, withoutComments_append, ih]
    cases hline : isCommentLine line with
    | true =>
      rw [h line hline, withoutComments, withoutComments, List.filter_cons_of_neg (by simp [hline])]
      rfl
    | false =>
      rw [withoutComments, withoutComments, withoutComments,
        List.filter_cons_of_pos (by simp [hline])]
      rfl

/-! ## Indented lines -/

/-- Leading spaces have no part in being a comment. -/
theorem isCommentLine_spaces (count : Nat) (line : String) :
    isCommentLine (String.ofList (List.replicate count ' ') ++ line) = isCommentLine line := by
  have hdrop : (List.replicate count ' ' ++ line.toList).dropWhile (· == ' ') =
      line.toList.dropWhile (· == ' ') := by
    apply List.dropWhile_append_of_pos
    intro c hc
    rw [(List.mem_replicate.1 hc).2]
    rfl
  have hspaces : (List.replicate count ' ').all (fun c => !Text.isBreak c) = true := by
    apply List.all_eq_true.2
    intro c hc
    rw [(List.mem_replicate.1 hc).2]
    rfl
  rw [isCommentLine, isComment, String.toList_append, String.toList_ofList, hdrop,
    List.all_append, hspaces, Bool.true_and]
  rfl

/-- A comment is not blank. -/
theorem isCommentLine_of_blank {line : String} (h : Text.allBlank line.toList = true) :
    isCommentLine line = false := by
  rw [Bool.eq_false_iff]
  intro hline
  have hcomment := (isCommentLine_iff.1 hline).1
  have hblank : ∀ c ∈ line.toList.dropWhile (· == ' '), Text.isBlank c = true := by
    intro c hc
    exact List.all_eq_true.1 h c ((List.dropWhile_sublist _).subset hc)
  unfold isComment at hcomment
  cases hrest : line.toList.dropWhile (· == ' ') with
  | nil =>
    rw [hrest] at hcomment
    cases hcomment
  | cons c rest =>
    rw [hrest] at hcomment hblank
    -- its first character would be a slash
    have hslash : ('/' == c) = true := (Bool.and_eq_true_iff.1 hcomment).1
    have hc := hblank c List.mem_cons_self
    rw [← eq_of_beq hslash] at hc
    cases hc

/-- A line is written as a comment just when it is one. -/
theorem isCommentLine_line (level : Int) (line : String) :
    isCommentLine (Layout.line level line) = isCommentLine line := by
  unfold Layout.line
  split
  · next hblank =>
    rw [isCommentLine_of_blank hblank]
    rfl
  · exact isCommentLine_spaces _ _

theorem withoutComments_lines (level : Int) (texts : List String) :
    withoutComments (lines level texts) = lines level (withoutComments texts) :=
  withoutComments_map (isCommentLine_line level) texts

/-- A line inside a class is a comment just when it is one outside. -/
theorem isCommentLine_indented (line : String) :
    isCommentLine (SourceFile.indented line) = isCommentLine line := by
  unfold SourceFile.indented
  split
  · next hempty => rw [hempty]
  · exact isCommentLine_spaces 4 line

/-! ## Cutting and joining -/

theorem join_cons (line : String) (rest : List String) :
    join (line :: rest) = line ++ "\n" ++ join rest := by
  rw [join, List.map_cons, String.join_cons]
  rfl

/-- Joined lines are cut line by line. -/
theorem split_join (lines : List String) :
    split (join lines) = lines.flatMap fun line => split (line ++ "\n") := by
  induction lines with
  | nil => rfl
  | cons line rest ih =>
    have hcut : Text.splitLines (join (line :: rest)).toList =
        Text.splitLines (line ++ "\n").toList ++ Text.splitLines (join rest).toList := by
      rw [join_cons, String.toList_append, String.toList_append, List.append_assoc]
      exact Text.splitLines_append_lineFeed _ _
    rw [List.flatMap_cons, ← ih]
    unfold split
    rw [hcut, List.map_append]

/-- A line without a boundary in it is cut from joined lines as a whole. -/
theorem split_lineFeed {line : String} (h : ∀ c ∈ line.toList, Text.isBreak c = false) :
    split (line ++ "\n") = [line] := by
  unfold split
  rw [String.toList_append, show "\n".toList = ['\n'] from rfl, Text.splitLines_lineFeed h,
    List.map_singleton, String.ofList_toList]

/-- What is cut from joined lines has the same lines without comments as what is cut from the
joined lines without comments. -/
theorem withoutComments_split_join (lines : List String) :
    withoutComments (split (join lines)) =
      (withoutComments lines).flatMap fun line => withoutComments (split (line ++ "\n")) := by
  rw [split_join]
  apply withoutComments_flatMap
  intro line hline
  rw [split_lineFeed (isCommentLine_iff.1 hline).2]
  exact withoutComments_of_comments (by simpa using hline)

/-- The code of joined lines comes from those that are no comments. -/
theorem code_join (lines : List String) :
    code (join lines) =
      (withoutComments lines).flatMap (fun line =>
        (Text.splitAt '\n' line.toList).filter fun part => !isComment part) ++ [[]] := by
  induction lines with
  | nil => rfl
  | cons line rest ih =>
    have hcut : Text.splitAt '\n' (join (line :: rest)).toList =
        Text.splitAt '\n' line.toList ++ Text.splitAt '\n' (join rest).toList := by
      rw [join_cons, String.toList_append, String.toList_append, List.append_assoc]
      exact Text.splitAt_append_cons _ _ _
    have hcode : code (join (line :: rest)) =
        (Text.splitAt '\n' line.toList).filter (fun part => !isComment part) ++
          code (join rest) := by
      unfold code
      rw [hcut, List.filter_append]
    rw [hcode, ih]
    cases hline : isCommentLine line with
    | true =>
      obtain ⟨hcomment, hbreak⟩ := isCommentLine_iff.1 hline
      have hpart : '\n' ∉ line.toList := fun hmem => absurd (hbreak '\n' hmem) (by decide)
      rw [Text.splitAt_of_not_mem hpart, List.filter_cons_of_neg (by simp [hcomment]),
        withoutComments, withoutComments, List.filter_cons_of_neg (by simp [hline])]
      rfl
    | false =>
      rw [withoutComments, withoutComments, List.filter_cons_of_pos (by simp [hline]),
        List.flatMap_cons, List.append_assoc]

/-- Lists of lines that differ in comments alone are joined to texts with the same code. -/
theorem code_join_congr {first second : List String}
    (h : withoutComments first = withoutComments second) :
    code (join first) = code (join second) := by
  rw [code_join, code_join, h]

end Layout

/-! ## Summaries -/

/-- The text has no line boundary in it. -/
def Unbroken (text : String) : Prop := ∀ c ∈ text.toList, Text.isBreak c = false

instance (text : String) : Decidable (Unbroken text) :=
  decidable_of_iff (text.toList.all (fun c => !Text.isBreak c) = true) (by simp [Unbroken])

theorem Unbroken.append {first second : String} (hfirst : Unbroken first)
    (hsecond : Unbroken second) : Unbroken (first ++ second) := by
  unfold Unbroken
  rw [String.toList_append]
  exact List.forall_mem_append.2 ⟨hfirst, hsecond⟩

/-- Three slashes make a comment of any text without a boundary. -/
theorem isCommentLine_slashes {rest : String} (h : Unbroken rest) :
    Layout.isCommentLine ("///" ++ rest) = true := by
  have hslashes : Unbroken "///" := by decide
  rw [Layout.isCommentLine_iff]
  refine ⟨?_, hslashes.append h⟩
  rw [String.toList_append]
  rfl

/-- It stays a comment without the white space at its end. -/
theorem isCommentLine_trimmedEnd {rest : String} (h : Unbroken rest) :
    Layout.isCommentLine (trimmedEnd ("///" ++ rest)) = true := by
  have htrimmed : trimmedEnd ("///" ++ rest) =
      "///" ++ String.ofList (Text.trimEnd rest.toList) := by
    rw [trimmedEnd, String.toList_append, Text.trimEnd_append_of_trimmed rfl,
      String.ofList_append, String.ofList_toList]
  rw [htrimmed]
  apply isCommentLine_slashes
  intro c hc
  rw [String.toList_ofList] at hc
  exact h c (Text.mem_of_mem_trimEnd hc)

/-- The lines of a summary after its first one are comments. -/
theorem isCommentLine_summaryTail (lines : List String) (h : ∀ line ∈ lines, Unbroken line) :
    ∀ line ∈ summaryTail lines, Layout.isCommentLine line = true := by
  have hspace : Unbroken " " := by decide
  have hclosing : Unbroken " </summary>" := by decide
  induction lines with
  | nil => intro line hline; cases hline
  | cons first rest ih =>
    obtain ⟨hfirst, hrest⟩ := List.forall_mem_cons.1 h
    have hslashes : "/// " ++ first = "///" ++ (" " ++ first) := by
      rw [← String.append_assoc]
      rfl
    cases rest with
    | nil =>
      intro line hline
      rw [summaryTail, List.mem_singleton] at hline
      rw [hline, hslashes, String.append_assoc]
      exact isCommentLine_slashes ((hspace.append hfirst).append hclosing)
    | cons second rest =>
      rw [summaryTail]
      · rw [hslashes]
        exact List.forall_mem_cons.2 ⟨isCommentLine_trimmedEnd (hspace.append hfirst), ih hrest⟩
      · exact fun hnil => List.cons_ne_nil _ _ hnil

/-- The lines of a summary are comments, if those that it is made of have no boundary in
them. -/
theorem isCommentLine_summaryOfLines {lines : List String} (h : ∀ line ∈ lines, Unbroken line) :
    ∀ line ∈ summaryOfLines lines, Layout.isCommentLine line = true := by
  have hopening : Unbroken " <summary> " := by decide
  have hclosing : Unbroken " </summary>" := by decide
  cases lines with
  | nil =>
    intro line hline
    rw [summaryOfLines, List.mem_singleton] at hline
    rw [hline]
    decide
  | cons first rest =>
    obtain ⟨hfirst, hrest⟩ := List.forall_mem_cons.1 h
    have hslashes : "/// <summary> " ++ first = "///" ++ (" <summary> " ++ first) := by
      rw [← String.append_assoc]
      rfl
    cases rest with
    | nil =>
      intro line hline
      rw [summaryOfLines, List.mem_singleton] at hline
      rw [hline, hslashes, String.append_assoc]
      exact isCommentLine_slashes ((hopening.append hfirst).append hclosing)
    | cons second rest =>
      rw [summaryOfLines]
      · rw [hslashes]
        exact List.forall_mem_cons.2 ⟨isCommentLine_trimmedEnd (hopening.append hfirst),
          isCommentLine_summaryTail _ hrest⟩
      · exact fun hnil => List.cons_ne_nil _ _ hnil

/-- **A summary is comments alone**, whatever its text. -/
theorem isCommentLine_summaryLines (text : String) :
    ∀ line ∈ summaryLines text, Layout.isCommentLine line = true := by
  apply isCommentLine_summaryOfLines
  intro line hline c hc
  obtain ⟨chars, hchars, rfl⟩ := List.mem_map.1 hline
  rw [String.toList_ofList] at hc
  exact Text.isBreak_of_mem_splitLines _ chars hchars c hc

theorem withoutComments_summaryLines (text : String) :
    Layout.withoutComments (summaryLines text) = [] :=
  Layout.withoutComments_of_comments (isCommentLine_summaryLines text)

/-- The help text of a member leaves no trace in its property but comments. -/
theorem withoutComments_propertyLines (typeName : Json) (name : String) (isBoolean : Bool)
    (first second : Json) :
    Layout.withoutComments (propertyLines typeName name isBoolean first) =
      Layout.withoutComments (propertyLines typeName name isBoolean second) := by
  unfold propertyLines
  rw [Layout.withoutComments_append, Layout.withoutComments_append,
    withoutComments_summaryLines, withoutComments_summaryLines]

end CatalogClasses
