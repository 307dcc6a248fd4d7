/-
# A namespace only indents

The classes of a file may be put into a namespace.  Nothing but the writing of the file asks for
it: the walks, the emitters and the names of classes do not.  So a file with a namespace fails
just when the file without it does, and its lines are those of the other, those after the start
with four more spaces, between the lines of the namespace.  A blank line is written empty in both.

Main definitions:

* `Options.inNamespace` : the options with a namespace in the place of their own;
* `Layout.shifted` : a line with four more spaces, if it is not blank.
-/
import CatalogClasses.Proofs.Composition
import CatalogClasses.Proofs.OptionsAlike

namespace CatalogClasses

/-! ## Lines one level deeper -/

namespace Layout

/-- A line with four more spaces, if it is not blank. -/
def shifted (line : String) : String :=
  if Text.allBlank line.toList then line else "    " ++ line

/-- What is written at level one is what is written at level zero, shifted. -/
theorem line_one (text : String) : line 1 text = shifted (line 0 text) := by
  cases h : Text.allBlank text.toList with
  | true =>
    unfold line
    rw [h]
    rfl
  | false =>
    have hzero : line 0 text = text := by
      rw [line_of_visible h]
      exact String.empty_append
    rw [hzero, line_of_visible h, shifted, h]
    rfl

theorem lines_one (texts : List String) : lines 1 texts = (lines 0 texts).map shifted := by
  unfold lines
  rw [List.map_map]
  exact List.map_congr_left fun text _ => line_one text

/-- A blank line is written empty. -/
theorem eq_empty_of_mem_lines_zero {texts : List String} {text : String} (h : text ∈ lines 0 texts)
    (hblank : Text.allBlank text.toList = true) : text = "" := by
  obtain ⟨source, -, rfl⟩ := List.mem_map.1 h
  cases hsource : Text.allBlank source.toList with
  | true =>
    unfold line
    rw [hsource]
    rfl
  | false =>
    rw [line_of_visible hsource] at hblank
    exact absurd hblank (by
      rw [show String.ofList (indentation 0) ++ source = source from String.empty_append, hsource]
      exact Bool.false_ne_true)

end Layout

/-! ## What does not ask for a namespace -/

/-- The options with a namespace in the place of their own; an empty one is none. -/
def Options.inNamespace (options : Options) (name : String) : Options :=
  { options with namespaceName := .str name }

/-- What generation asks for the classes of a file is answered as without the namespace. -/
theorem Options.alike_inNamespace (options : Options) (name : String) :
    (options.inNamespace name).Alike options :=
  ⟨fun _ => rfl, rfl, rfl, rfl⟩

namespace SourceFile

theorem headText_inNamespace (options : Options) (name comment : String) :
    headText (options.inNamespace name) comment = headText options comment := rfl

/-! ## The lines of a file -/

/-- The lines of a file, from its start and the lines of its classes. -/
theorem result_lines_inNamespace (options : Options) (name comment : String)
    (components : List Component) :
    (lines (options.inNamespace name) comment components).result =
      headText options comment >>= fun head =>
        (classBlocks options components).result >>= fun blocks =>
          .ok (headLines head ++ bodyLines (.str name) (separated blocks)) := by
  unfold lines
  simp only [Logged.result_bind, Logged.result_lift, Logged.result_pure, headText_inNamespace,
    (options.alike_inNamespace name).classBlocks_eq]
  rfl

/-- Without a namespace, classes are written at level zero. -/
theorem bodyLines_of_empty (classes : List String) :
    bodyLines (.str "") classes = Layout.lines 0 classes := rfl

/-- With a namespace, the same lines are shifted and put between the lines of the namespace. -/
theorem bodyLines_of_name {name : String} (h : name ≠ "") (classes : List String) :
    bodyLines (.str name) classes =
      ["namespace " ++ name, "\x7b"] ++ (Layout.lines 0 classes).map Layout.shifted ++
        ["\x7d"] := by
  have htruthy : (Json.str name).isTruthy = true := by
    simpa [Json.isTruthy] using h
  have hfirst : Layout.line 0 ("namespace " ++ name) = "namespace " ++ name := by
    rw [Layout.line_of_visible (visible_append (by decide) name)]
    exact String.empty_append
  rw [bodyLines, if_pos htruthy, Layout.lines_one]
  show [Layout.line 0 ("namespace " ++ name), "\x7b"] ++ _ ++ _ = _
  rw [hfirst]
  rfl

theorem result_text_of_lines (options : Options) (comment : String) (components : List Component) :
    (text options comment components).result =
      (lines options comment components).result >>= fun lines => .ok (Layout.join lines) := by
  unfold text
  simp only [Logged.result_bind, Logged.result_pure]

/-- **A namespace only indents.**  A file with a namespace fails just when the file without it
does, and with the same fault.  Otherwise its lines are those of the file without it: the start of
the file, the two lines that open the namespace, the remaining lines, each with four more spaces
unless it is blank, and the brace that closes the namespace.  The blank ones among the remaining
lines are empty. -/
theorem text_inNamespace (options : Options) (comment : String) (components : List Component)
    {name : String} (hname : name ≠ "") :
    (∀ fault, (text (options.inNamespace name) comment components).result = .error fault ↔
      (text (options.inNamespace "") comment components).result = .error fault) ∧
    ∀ plain, (lines (options.inNamespace "") comment components).result = .ok plain →
      ∃ head body, headText options comment = .ok head ∧ plain = headLines head ++ body ∧
        (∀ line ∈ body, Text.allBlank line.toList = true → line = "") ∧
        (lines (options.inNamespace name) comment components).result =
          .ok (headLines head ++ ["namespace " ++ name, "\x7b"] ++ body.map Layout.shifted ++
            ["\x7d"]) ∧
        (text (options.inNamespace "") comment components).result = .ok (Layout.join plain) ∧
        (text (options.inNamespace name) comment components).result =
          .ok (Layout.join (headLines head ++ ["namespace " ++ name, "\x7b"] ++
            body.map Layout.shifted ++ ["\x7d"])) := by
  simp only [result_text_of_lines, result_lines_inNamespace]
  cases hhead : headText options comment with
  | error fault =>
    refine ⟨fun other => Iff.rfl, fun plain h => ?_⟩
    cases h
  | ok head =>
    cases hblocks : (classBlocks options components).result with
    | error fault =>
      refine ⟨fun other => Iff.rfl, fun plain h => ?_⟩
      cases h
    | ok blocks =>
      refine ⟨fun fault => iff_of_false nofun nofun, fun plain h => ?_⟩
      obtain rfl := Except.ok.inj h
      refine ⟨head, Layout.lines 0 (separated blocks), rfl, by rw [bodyLines_of_empty],
        fun line hline => Layout.eq_empty_of_mem_lines_zero hline, ?_, rfl, ?_⟩
      · simp only [ok_bind, bodyLines_of_name hname, List.append_assoc]
      · simp only [ok_bind, bodyLines_of_name hname, List.append_assoc]

/-- A class is put into a namespace, and an unknown kind fails there as it does without one. -/
theorem text_of_bare_inNamespace :
    "Learners" ≠ "" ∧
    (∃ head body,
      (lines (Options.standard.inNamespace "") "generated" [.bare "pca" "trainer"]).result =
        .ok (headLines head ++ body) ∧
      (lines (Options.standard.inNamespace "Learners") "generated"
          [.bare "pca" "trainer"]).result =
        .ok (headLines head ++ ["namespace Learners", "\x7b"] ++ body.map Layout.shifted ++
          ["\x7d"])) ∧
    ∃ fault,
      (text (Options.standard.inNamespace "") "" [.bare "ranker" "scorer"]).result =
        .error fault ∧
      (text (Options.standard.inNamespace "Learners") "" [.bare "ranker" "scorer"]).result =
        .error fault := by
  have hname : "Learners" ≠ "" := by decide
  obtain ⟨plain, hplain⟩ : ∃ plain, (lines (Options.standard.inNamespace "") "generated"
      [.bare "pca" "trainer"]).result = .ok plain := exists_of_isOk (by decide +kernel)
  obtain ⟨-, hlines⟩ := text_inNamespace .standard "generated" [.bare "pca" "trainer"] hname
  obtain ⟨head, body, -, rfl, -, hnamed, -⟩ := hlines plain hplain
  obtain ⟨fault, hfault⟩ : ∃ fault, (text (Options.standard.inNamespace "") ""
      [.bare "ranker" "scorer"]).result = .error fault := ⟨_, rfl⟩
  obtain ⟨hfaults, -⟩ := text_inNamespace .standard "" [.bare "ranker" "scorer"] hname
  exact ⟨hname, ⟨head, body, hplain, hnamed⟩, fault, hfault, (hfaults fault).2 hfault⟩

end SourceFile

end CatalogClasses
