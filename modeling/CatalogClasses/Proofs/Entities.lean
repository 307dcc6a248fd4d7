/-
# Entities, written and read

Text is escaped and read back in one pass.  The same comes of replacing one character after the
other: `&` before the rest when a text is escaped, after the rest when it is read back.  In this
order no replacement makes an entity that a later one would take for its own, whatever entities
the text held before.  So nothing is lost by escaping, and the escaped texts are those in which
`&` stands only where an entity begins, and `<` and `>` nowhere.

Main definitions:

* `Text.replaceAll` : a text with each occurrence of a part of it replaced;
* `Text.escapeInTurn`, `Text.unescapeInTurn` : one character replaced after the other;
* `Text.IsEscaped` : markup has no other meaning in the text than that of entities.
-/
import CatalogClasses.Text.Markup

namespace CatalogClasses.Text

/-! ## Replacing -/

/-- The text with each occurrence of a part replaced, from the left; the next occurrence is
looked for after the end of the one before.  The part is not empty. -/
def replaceAll (part replacement : List Char) : List Char → List Char
  | [] => []
  | c :: rest =>
      if part.isPrefixOf (c :: rest) then
        replacement ++ replaceAll part replacement (rest.drop (part.length - 1))
      else c :: replaceAll part replacement rest
  termination_by text => text.length
  decreasing_by
    · simp only [List.length_drop, List.length_cons]
      omega
    · simp

@[simp] theorem replaceAll_nil (part replacement : List Char) :
    replaceAll part replacement [] = [] := by
  rw [replaceAll]

section Replacing

variable {part replacement : List Char} {c d : Char}

/-- An occurrence at the start is replaced. -/
theorem replaceAll_append (part replacement rest : List Char) (c : Char) :
    replaceAll (c :: part) replacement (c :: part ++ rest) =
      replacement ++ replaceAll (c :: part) replacement rest := by
  have hprefix : (c :: part).isPrefixOf (c :: (part ++ rest)) = true :=
    List.isPrefixOf_iff_prefix.2 (List.prefix_append (c :: part) rest)
  have hdrop : (part ++ rest).drop ((c :: part).length - 1) = rest := by simp
  rw [List.cons_append, replaceAll, if_pos hprefix, hdrop]

/-- A single character is replaced. -/
theorem replaceAll_cons_self (c : Char) (replacement rest : List Char) :
    replaceAll [c] replacement (c :: rest) = replacement ++ replaceAll [c] replacement rest :=
  replaceAll_append [] replacement rest c

/-- A character at which the part does not occur is kept. -/
theorem replaceAll_cons_of_not_prefix {rest : List Char} (h : ¬ part <+: c :: rest) :
    replaceAll part replacement (c :: rest) = c :: replaceAll part replacement rest := by
  rw [replaceAll, if_neg (mt List.isPrefixOf_iff_prefix.1 h)]

/-- A character with which the part does not begin is kept. -/
theorem replaceAll_cons_of_ne (h : c ≠ d) (rest : List Char) :
    replaceAll (d :: part) replacement (c :: rest) =
      c :: replaceAll (d :: part) replacement rest := by
  apply replaceAll_cons_of_not_prefix
  intro hprefix
  exact h (List.cons_prefix_cons.1 hprefix).1.symm

/-- A text in which no occurrence can begin is kept. -/
theorem replaceAll_append_of_not_mem {first : List Char} (h : d ∉ first) (rest : List Char) :
    replaceAll (d :: part) replacement (first ++ rest) =
      first ++ replaceAll (d :: part) replacement rest := by
  induction first with
  | nil => rfl
  | cons c first ih =>
    obtain ⟨hc, hfirst⟩ := not_or.1 (mt List.mem_cons.2 h)
    rw [List.cons_append, replaceAll_cons_of_ne (Ne.symm hc), ih hfirst, List.cons_append]

/-- A character with which the part begins is kept, if the rest of the part does not follow. -/
theorem replaceAll_cons_of_rest {rest : List Char} (h : ¬ part <+: rest) :
    replaceAll (c :: part) replacement (c :: rest) =
      c :: replaceAll (c :: part) replacement rest := by
  apply replaceAll_cons_of_not_prefix
  intro hprefix
  exact h (List.cons_prefix_cons.1 hprefix).2

/-- A text that begins as the part does and goes on in another way is kept. -/
theorem replaceAll_append_of_second_ne {a b : Char} {first : List Char} (h : a ≠ b)
    (hfirst : c ∉ b :: first) (rest : List Char) :
    replaceAll (c :: a :: part) replacement (c :: b :: first ++ rest) =
      c :: b :: first ++ replaceAll (c :: a :: part) replacement rest := by
  have hrest : ¬ a :: part <+: b :: first ++ rest := by
    intro hprefix
    exact h (List.cons_prefix_cons.1 hprefix).1
  rw [List.cons_append, replaceAll_cons_of_rest hrest, replaceAll_append_of_not_mem hfirst]
  rfl

/-- Replacing makes no word that the replacement has no part in. -/
theorem prefix_of_prefix_replaceAll {word : List Char} (h : d ∉ word) {text : List Char} :
    word <+: replaceAll part (d :: replacement) text → word <+: text := by
  induction word generalizing text with
  | nil => exact fun _ => List.nil_prefix
  | cons w word ih =>
    obtain ⟨hw, hword⟩ := not_or.1 (mt List.mem_cons.2 h)
    intro hprefix
    cases text with
    | nil =>
      rw [replaceAll_nil] at hprefix
      exact absurd (List.prefix_nil.1 hprefix) (List.cons_ne_nil _ _)
    | cons c rest =>
      rw [replaceAll] at hprefix
      split at hprefix
      -- a replacement would be the start of the word
      · exact absurd (List.cons_prefix_cons.1 hprefix).1.symm hw
      · obtain ⟨hc, hrest⟩ := List.cons_prefix_cons.1 hprefix
        exact List.cons_prefix_cons.2 ⟨hc, ih hword hrest⟩

end Replacing

/-! ## Entities -/

/-- The characters that markup gives a meaning, each with the entity that stands for it. -/
def entities : List (Char × List Char) :=
  [('&', ['&', 'a', 'm', 'p', ';']), ('<', ['&', 'l', 't', ';']), ('>', ['&', 'g', 't', ';'])]

/-- One character, escaped. -/
def markupChar : Char → List Char
  | '&' => ['&', 'a', 'm', 'p', ';']
  | '<' => ['&', 'l', 't', ';']
  | '>' => ['&', 'g', 't', ';']
  | c => [c]

/-- A character without an entity stands for itself. -/
theorem markupChar_of_ne {c : Char} (hand : c ≠ '&') (hless : c ≠ '<') (hgreater : c ≠ '>') :
    markupChar c = [c] := by
  unfold markupChar
  split
  · exact absurd rfl hand
  · exact absurd rfl hless
  · exact absurd rfl hgreater
  · rfl

/-- A text is escaped character by character. -/
theorem escapeMarkup_cons (c : Char) (rest : List Char) :
    escapeMarkup (c :: rest) = markupChar c ++ escapeMarkup rest := by
  unfold markupChar
  split
  · rfl
  · rfl
  · rfl
  · next hand hless hgreater => rw [escapeMarkup, List.singleton_append] <;> assumption

/-- No more is read than an entity, if the text begins with one. -/
theorem unescapeMarkup_markupChar (c : Char) (rest : List Char) :
    unescapeMarkup (markupChar c ++ rest) = c :: unescapeMarkup rest := by
  unfold markupChar
  split
  · rfl
  · rfl
  · rfl
  · next hand _ _ =>
    rw [List.singleton_append, unescapeMarkup]
    all_goals
      rintro _ rfl
      exact absurd rfl hand

/-- **Nothing is lost by escaping.** -/
theorem unescapeMarkup_escapeMarkup (text : List Char) :
    unescapeMarkup (escapeMarkup text) = text := by
  induction text with
  | nil => rfl
  | cons c rest ih => rw [escapeMarkup_cons, unescapeMarkup_markupChar, ih]

/-! ## One character after the other -/

/-- The text with each of the characters replaced by its entity, `&` before the others. -/
def escapeInTurn (text : List Char) : List Char :=
  entities.foldl (fun text entity => replaceAll [entity.1] entity.2 text) text

/-- The text with each of the entities replaced by its character, `&` after the others. -/
def unescapeInTurn (text : List Char) : List Char :=
  entities.foldr (fun entity text => replaceAll entity.2 [entity.1] text) text

/-- Escaping is replacing one character after the other. -/
theorem escapeMarkup_eq_inTurn (text : List Char) : escapeMarkup text = escapeInTurn text := by
  show _ = replaceAll ['>'] _ (replaceAll ['<'] _ (replaceAll ['&'] _ text))
  induction text with
  | nil => simp [escapeMarkup]
  | cons c rest ih =>
    rw [escapeMarkup_cons, ih]
    by_cases hand : c = '&'
    -- what the entity of `&` is made of is no character that is replaced later
    · rw [hand, replaceAll_cons_self, replaceAll_append_of_not_mem (by decide),
        replaceAll_append_of_not_mem (by decide)]
      rfl
    · rw [replaceAll_cons_of_ne hand]
      by_cases hless : c = '<'
      · rw [hless, replaceAll_cons_self, replaceAll_append_of_not_mem (by decide)]
        rfl
      · rw [replaceAll_cons_of_ne hless]
        by_cases hgreater : c = '>'
        · rw [hgreater, replaceAll_cons_self]
          rfl
        · rw [replaceAll_cons_of_ne hgreater, markupChar_of_ne hand hless hgreater]
          rfl

/-- Reading back is replacing one entity after the other.  Where no entity begins, none is made by
replacing others. -/
theorem unescapeMarkup_eq_inTurn (text : List Char) :
    unescapeMarkup text = unescapeInTurn text := by
  show _ = replaceAll ['&', 'a', 'm', 'p', ';'] ['&'] (replaceAll ['&', 'l', 't', ';'] ['<']
    (replaceAll ['&', 'g', 't', ';'] ['>'] text))
  fun_induction unescapeMarkup text with
  | case1 => simp
  | case2 rest ih =>
    show _ = replaceAll _ _ (replaceAll _ _ (replaceAll _ _ (['&', 'a', 'm', 'p', ';'] ++ rest)))
    rw [replaceAll_append_of_second_ne (by decide) (by decide),
      replaceAll_append_of_second_ne (by decide) (by decide), replaceAll_append, ih]
    rfl
  | case3 rest ih =>
    show _ = replaceAll _ _ (replaceAll _ _ (replaceAll _ _ (['&', 'l', 't', ';'] ++ rest)))
    rw [replaceAll_append_of_second_ne (by decide) (by decide), replaceAll_append,
      replaceAll_append_of_not_mem (by decide), ih]
    rfl
  | case4 rest ih =>
    show _ = replaceAll _ _ (replaceAll _ _ (replaceAll _ _ (['&', 'g', 't', ';'] ++ rest)))
    rw [replaceAll_append, replaceAll_append_of_not_mem (by decide),
      replaceAll_append_of_not_mem (by decide), ih]
    rfl
  | case5 c rest hand hless hgreater ih =>
    by_cases hc : c = '&'
    · subst hc
      have hgt : ¬ ['g', 't', ';'] <+: rest := fun ⟨more, hmore⟩ => hgreater more rfl hmore.symm
      have hlt : ¬ ['l', 't', ';'] <+: rest := fun ⟨more, hmore⟩ => hless more rfl hmore.symm
      have hamp : ¬ ['a', 'm', 'p', ';'] <+: rest :=
        fun ⟨more, hmore⟩ => hand more rfl hmore.symm
      -- the earlier replacements put the rest of an entity nowhere after the character
      have hlt₁ : ¬ ['l', 't', ';'] <+: replaceAll ['&', 'g', 't', ';'] ['>'] rest :=
        mt (prefix_of_prefix_replaceAll (by decide)) hlt
      have hamp₁ : ¬ ['a', 'm', 'p', ';'] <+: replaceAll ['&', 'g', 't', ';'] ['>'] rest :=
        mt (prefix_of_prefix_replaceAll (by decide)) hamp
      have hamp₂ : ¬ ['a', 'm', 'p', ';'] <+: replaceAll ['&', 'l', 't', ';'] ['<']
          (replaceAll ['&', 'g', 't', ';'] ['>'] rest) :=
        mt (prefix_of_prefix_replaceAll (by decide)) hamp₁
      rw [replaceAll_cons_of_rest hgt, replaceAll_cons_of_rest hlt₁,
        replaceAll_cons_of_rest hamp₂, ih]
    · rw [replaceAll_cons_of_ne hc, replaceAll_cons_of_ne hc, replaceAll_cons_of_ne hc, ih]

/-! ## Escaped texts -/

/-- In the text `<` and `>` do not occur, and `&` only where an entity begins. -/
structure IsEscaped (text : List Char) : Prop where
  less : '<' ∉ text
  greater : '>' ∉ text
  ampersand : ∀ before after, text = before ++ '&' :: after →
    ∃ entity ∈ entities, entity.2 <+: '&' :: after

namespace IsEscaped

variable {first second text : List Char}

/-- Escaped texts one after another are an escaped text. -/
theorem append (hfirst : IsEscaped first) (hsecond : IsEscaped second) :
    IsEscaped (first ++ second) where
  less := by simp [hfirst.less, hsecond.less]
  greater := by simp [hfirst.greater, hsecond.greater]
  ampersand := by
    intro before after h
    rcases List.append_eq_append_iff.1 h with ⟨between, rfl, hbetween⟩ | ⟨between, rfl, hbetween⟩
    · exact hsecond.ampersand between after hbetween
    · cases between with
      | nil => exact hsecond.ampersand [] after hbetween.symm
      | cons c between =>
        -- the `&` is in the first text, and so is the start of the entity
        obtain ⟨rfl, rfl⟩ := List.cons.inj hbetween
        obtain ⟨entity, hentity, hprefix⟩ := hfirst.ampersand before between rfl
        exact ⟨entity, hentity, hprefix.trans (List.prefix_append ('&' :: between) second)⟩

/-- What follows in an escaped text is escaped. -/
theorem of_append (first : List Char) (h : IsEscaped (first ++ second)) : IsEscaped second where
  less := fun hmem => h.less (List.mem_append_right _ hmem)
  greater := fun hmem => h.greater (List.mem_append_right _ hmem)
  ampersand := by
    rintro before after rfl
    exact h.ampersand (first ++ before) after (List.append_assoc _ _ _).symm

/-- An entity with nothing more than its own `&` is escaped. -/
theorem of_entity {entity : List Char} (hentity : ∃ c, (c, '&' :: entity) ∈ entities)
    (hmarkup : ∀ c ∈ entity, c ≠ '&' ∧ c ≠ '<' ∧ c ≠ '>') : IsEscaped ('&' :: entity) where
  less := by simpa using fun hmem => (hmarkup '<' hmem).2.1 rfl
  greater := by simpa using fun hmem => (hmarkup '>' hmem).2.2 rfl
  ampersand := by
    intro before after h
    cases before with
    | nil =>
      obtain ⟨-, rfl⟩ := List.cons.inj h
      obtain ⟨c, hmem⟩ := hentity
      exact ⟨_, hmem, List.prefix_rfl⟩
    | cons d before =>
      have hmem : '&' ∈ entity := by simp [(List.cons.inj h).2]
      exact absurd rfl (hmarkup '&' hmem).1

/-- A character is escaped as an escaped text. -/
theorem of_markupChar (c : Char) : IsEscaped (markupChar c) := by
  unfold markupChar
  split
  · exact of_entity ⟨'&', by decide⟩ (by simp)
  · exact of_entity ⟨'<', by decide⟩ (by simp)
  · exact of_entity ⟨'>', by decide⟩ (by simp)
  · next hand hless hgreater =>
    refine ⟨by simpa using Ne.symm hless, by simpa using Ne.symm hgreater, ?_⟩
    intro before after h
    have hmem : '&' ∈ [c] := by simp [h]
    exact absurd (List.mem_singleton.1 hmem).symm hand

end IsEscaped

/-- What comes of escaping is an escaped text. -/
theorem isEscaped_escapeMarkup (text : List Char) : IsEscaped (escapeMarkup text) := by
  induction text with
  | nil => exact ⟨List.not_mem_nil, List.not_mem_nil, by simp [escapeMarkup]⟩
  | cons c rest ih =>
    rw [escapeMarkup_cons]
    exact (IsEscaped.of_markupChar c).append ih

/-- An escaped text is read back and escaped again as it was. -/
theorem escapeMarkup_unescapeMarkup {text : List Char} (h : IsEscaped text) :
    escapeMarkup (unescapeMarkup text) = text := by
  fun_induction unescapeMarkup text with
  | case1 => rfl
  | case2 rest ih => rw [escapeMarkup, ih (h.of_append ['&', 'a', 'm', 'p', ';'])]
  | case3 rest ih => rw [escapeMarkup, ih (h.of_append ['&', 'l', 't', ';'])]
  | case4 rest ih => rw [escapeMarkup, ih (h.of_append ['&', 'g', 't', ';'])]
  | case5 c rest hand hless hgreater ih =>
    have hc : c ≠ '&' := by
      rintro rfl
      -- an entity begins here, which the reader would have taken
      obtain ⟨entity, hentity, more, hmore⟩ := h.ampersand [] rest rfl
      simp only [entities, List.mem_cons, List.not_mem_nil, or_false] at hentity
      rcases hentity with rfl | rfl | rfl
      · exact hand more rfl (List.cons.inj hmore).2.symm
      · exact hless more rfl (List.cons.inj hmore).2.symm
      · exact hgreater more rfl (List.cons.inj hmore).2.symm
    have hmarkup : markupChar c = [c] := by
      refine markupChar_of_ne hc ?_ ?_
      · rintro rfl
        exact h.less List.mem_cons_self
      · rintro rfl
        exact h.greater List.mem_cons_self
    rw [escapeMarkup_cons, ih (h.of_append [c]), hmarkup, List.singleton_append]

/-- **Entities are written and read without loss.**  A text is escaped and read back as it was,
also one that holds entities already.  A text is read back and escaped again as it was just when it
is escaped.  Both are done by replacing one character after the other. -/
theorem entities_inverse :
    (∀ text, unescapeMarkup (escapeMarkup text) = text) ∧
    (∀ text, escapeMarkup (unescapeMarkup text) = text ↔ IsEscaped text) ∧
    ∀ text, escapeMarkup text = escapeInTurn text ∧ unescapeMarkup text = unescapeInTurn text := by
  refine ⟨unescapeMarkup_escapeMarkup, ?_, ?_⟩
  · intro text
    constructor
    · intro h
      rw [← h]
      exact isEscaped_escapeMarkup _
    · exact escapeMarkup_unescapeMarkup
  · intro text
    exact ⟨escapeMarkup_eq_inTurn text, unescapeMarkup_eq_inTurn text⟩

/-- An entity that is escaped itself is read back as that entity, not as its character. -/
example : unescapeMarkup ['&', 'a', 'm', 'p', ';', 'l', 't', ';'] = ['&', 'l', 't', ';'] := rfl

end CatalogClasses.Text
