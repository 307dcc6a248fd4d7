/-
# Names in Pascal case, character by character

The words of a name are found step by step: marks that separate words become spaces, words are
cut off greedily from the left, each by the sort of its first character, and then they are
capitalized and run together.  The same comes of a single pass in which each character is judged
by itself and the character before it.  So every letter and digit of ASCII is kept, in order and
but for its case, and a name in Pascal case is not changed again.

Main definitions:

* `Text.separated`, `Text.leftmostWords` : the steps, one after the other;
* `Text.pascalFrom` : the single pass.
-/
import CatalogClasses.Proofs.Entities
import CatalogClasses.Text.Words
import Mathlib

namespace CatalogClasses.Text

/-! ## Step by step -/

/-- The name with a space for each underscore, hyphen and point. -/
def separated (name : List Char) : List Char :=
  replaceAll ['.'] [' '] (replaceAll ['-'] [' '] (replaceAll ['_'] [' '] name))

/-- The word that a text begins with and the rest of the text: a run of small letters, a capital
with the small letters after it, or a run of digits. -/
def leadingWord? : List Char → Option (List Char × List Char)
  | [] => none
  | c :: rest =>
      if c.isLower then
        some ((c :: rest).takeWhile Char.isLower, (c :: rest).dropWhile Char.isLower)
      else if c.isUpper then some (c :: rest.takeWhile Char.isLower, rest.dropWhile Char.isLower)
      else if c.isDigit then
        some ((c :: rest).takeWhile Char.isDigit, (c :: rest).dropWhile Char.isDigit)
      else none

/-- A word is followed by less than the whole text. -/
theorem length_lt_of_leadingWord? {text word rest : List Char}
    (h : leadingWord? text = some (word, rest)) : rest.length < text.length := by
  cases text with
  | nil => cases h
  | cons c tail =>
    have hlower := (List.dropWhile_sublist (l := tail) Char.isLower).length_le
    have hdigit := (List.dropWhile_sublist (l := tail) Char.isDigit).length_le
    rw [leadingWord?] at h
    split at h
    · next hc =>
      cases h
      rw [List.dropWhile_cons_of_pos hc, List.length_cons]
      omega
    · split at h
      · cases h
        rw [List.length_cons]
        omega
      · split at h
        · next hc =>
          cases h
          rw [List.dropWhile_cons_of_pos hc, List.length_cons]
          omega
        · cases h

/-- The words of a text from the left; a character with which no word begins is left out. -/
def leftmostWords : List Char → List (List Char)
  | [] => []
  | c :: rest => match _h : leadingWord? (c :: rest) with
    | some (word, after) => word :: leftmostWords after
    | none => leftmostWords rest
  termination_by text => text.length
  decreasing_by
    · exact length_lt_of_leadingWord? _h
    · simp

/-! ## In one pass -/

/-- What becomes of a character that stands after another one, or first in its name: it is left
out unless it is a letter or a digit, and a small letter is capitalized where no letter stands
before it. -/
def pascalChar (before : Option Char) (c : Char) : List Char :=
  if c.isAlphanum then [if c.isLower && !before.any Char.isAlpha then c.toUpper else c] else []

/-- The rest of a name after a character, or a whole name, in Pascal case. -/
def pascalFrom (before : Option Char) : List Char → List Char
  | [] => []
  | c :: rest => pascalChar before c ++ pascalFrom (some c) rest

/-! ## Letters and digits -/

theorem isAlpha_of_isLower {c : Char} (h : c.isLower = true) : c.isAlpha = true := by
  rw [Char.isAlpha, h, Bool.or_true]

theorem isAlphanum_of_isAlpha {c : Char} (h : c.isAlpha = true) : c.isAlphanum = true := by
  rw [Char.isAlphanum, h, Bool.true_or]

theorem isAlphanum_of_isDigit {c : Char} (h : c.isDigit = true) : c.isAlphanum = true := by
  rw [Char.isAlphanum, h, Bool.or_true]

/-- A digit is no letter. -/
theorem isAlpha_of_isDigit {c : Char} (h : c.isDigit = true) : c.isAlpha = false := by
  rw [Bool.eq_false_iff]
  intro halpha
  simp only [Char.isDigit, Char.isAlpha, Char.isUpper, Char.isLower, Bool.or_eq_true,
    Bool.and_eq_true, decide_eq_true_eq, ge_iff_le, UInt32.le_iff_toNat_le] at h halpha
  have hnine : '9'.val.toNat = 57 := rfl
  have hA : 'A'.val.toNat = 65 := rfl
  have ha : 'a'.val.toNat = 97 := rfl
  omega

/-- A digit is no small letter. -/
theorem isLower_of_isDigit {c : Char} (h : c.isDigit = true) : c.isLower = false := by
  rw [Bool.eq_false_iff]
  intro hlower
  have halpha := isAlpha_of_isLower hlower
  rw [isAlpha_of_isDigit h] at halpha
  cases halpha

/-- A character that is no small letter is its own capital. -/
theorem toUpper_of_not_isLower {c : Char} (h : c.isLower = false) : c.toUpper = c :=
  Char.toUpper_eq_of_not_isLower (by rw [h]; exact Bool.false_ne_true)

/-- A character that is no capital is its own small letter. -/
theorem toLower_of_not_isUpper {c : Char} (h : c.isUpper = false) : c.toLower = c :=
  Char.toLower_eq_of_not_isUpper (by rw [h]; exact Bool.false_ne_true)

/-! ## The steps find the words -/

/-- Replacing one character by another changes each character by itself. -/
theorem replaceAll_singleton (c d : Char) (text : List Char) :
    replaceAll [c] [d] text = text.map fun x => if x = c then d else x := by
  induction text with
  | nil => exact replaceAll_nil _ _
  | cons x rest ih =>
    by_cases hx : x = c
    · subst hx
      rw [replaceAll_cons_self, ih, List.map_cons, if_pos rfl]
      rfl
    · rw [replaceAll_cons_of_ne hx, ih, List.map_cons, if_neg hx]

theorem separated_eq_map (name : List Char) :
    separated name = name.map fun c => if c = '_' ∨ c = '-' ∨ c = '.' then ' ' else c := by
  rw [separated, replaceAll_singleton, replaceAll_singleton, replaceAll_singleton, List.map_map,
    List.map_map]
  apply List.map_congr_left
  intro c _
  simp only [Function.comp_apply]
  split_ifs <;> simp_all

section Change

variable {change : Char → Char} (hkept : ∀ c, c.isAlphanum = true → change c = c)
  (hother : ∀ c, c.isAlphanum = false → (change c).isAlphanum = false)

include hkept hother

/-- A run of letters or digits is found again after a change of other characters. -/
theorem run_map {sort : Char → Bool} (hsort : ∀ c, sort c = true → c.isAlphanum = true)
    (text : List Char) :
    (text.map change).takeWhile sort = text.takeWhile sort ∧
      (text.map change).dropWhile sort = (text.dropWhile sort).map change := by
  have hcomp : sort ∘ change = sort := by
    funext c
    cases hc : c.isAlphanum with
    | true => rw [Function.comp_apply, hkept c hc]
    | false =>
      have hno : ∀ {d : Char}, d.isAlphanum = false → sort d = false := by
        intro d hd
        rw [Bool.eq_false_iff]
        intro hd'
        rw [hsort d hd'] at hd
        cases hd
      rw [Function.comp_apply, hno hc, hno (hother c hc)]
  refine ⟨?_, ?_⟩
  · rw [List.takeWhile_map, hcomp]
    calc (text.takeWhile sort).map change
      _ = (text.takeWhile sort).map id :=
        List.map_congr_left fun c hc => hkept c (hsort c (List.mem_takeWhile_imp hc))
      _ = text.takeWhile sort := List.map_id _
  · rw [List.dropWhile_map, hcomp]

/-- Words do not depend on the characters between them. -/
theorem words_map (name : List Char) : words (name.map change) = words name := by
  fun_induction words name with
  | case1 => rw [List.map_nil, words]
  | case2 c rest halpha ih =>
    have hc : change c = c := hkept c (isAlphanum_of_isAlpha halpha)
    obtain ⟨htake, hdrop⟩ := run_map hkept hother
      (fun _ hd => isAlphanum_of_isAlpha (isAlpha_of_isLower hd)) rest
    rw [List.map_cons, hc, words, if_pos halpha, htake, hdrop, ih]
  | case3 c rest halpha hdigit ih =>
    have hc : change c = c := hkept c (isAlphanum_of_isDigit hdigit)
    obtain ⟨htake, hdrop⟩ := run_map hkept hother (fun _ => isAlphanum_of_isDigit) rest
    rw [List.map_cons, hc, words, if_neg halpha, if_pos hdigit, htake, hdrop, ih]
  | case4 c rest halpha hdigit ih =>
    have hc : (change c).isAlphanum = false := by
      apply hother
      simp [Char.isAlphanum, halpha, hdigit]
    rw [Char.isAlphanum, Bool.or_eq_false_iff] at hc
    rw [List.map_cons, words, hc.1, hc.2, ih]
    simp

end Change

/-- What is cut off from the left, word by word, are the words of a name. -/
theorem leftmostWords_eq_words (name : List Char) : leftmostWords name = words name := by
  have hcons : ∀ {c : Char} {rest : List Char}, leftmostWords (c :: rest) =
      match leadingWord? (c :: rest) with
      | some (word, after) => word :: leftmostWords after
      | none => leftmostWords rest := by
    intro c rest
    rw [leftmostWords]
    split <;> simp_all
  fun_induction words name with
  | case1 => rw [leftmostWords]
  | case2 c rest halpha ih =>
    have hword : leadingWord? (c :: rest) =
        some (c :: rest.takeWhile Char.isLower, rest.dropWhile Char.isLower) := by
      rw [leadingWord?]
      cases hlower : c.isLower with
      | true =>
        rw [if_pos rfl, List.takeWhile_cons_of_pos hlower, List.dropWhile_cons_of_pos hlower]
      | false =>
        have hupper : c.isUpper = true := by
          rwa [Char.isAlpha, hlower, Bool.or_false] at halpha
        rw [if_neg Bool.false_ne_true, if_pos hupper]
    rw [hcons, hword]
    exact congrArg _ ih
  | case3 c rest halpha hdigit ih =>
    have hword : leadingWord? (c :: rest) =
        some (c :: rest.takeWhile Char.isDigit, rest.dropWhile Char.isDigit) := by
      rw [Char.isAlpha, Bool.or_eq_true, not_or] at halpha
      rw [leadingWord?, if_neg halpha.2, if_neg halpha.1, if_pos hdigit,
        List.takeWhile_cons_of_pos hdigit, List.dropWhile_cons_of_pos hdigit]
    rw [hcons, hword]
    exact congrArg _ ih
  | case4 c rest halpha hdigit ih =>
    have hword : leadingWord? (c :: rest) = none := by
      rw [Char.isAlpha, Bool.or_eq_true, not_or] at halpha
      rw [leadingWord?, if_neg halpha.2, if_neg halpha.1, if_neg hdigit]
    rw [hcons, hword]
    exact ih

/-! ## The pass makes the words -/

/-- A run is kept as it is, where each of its characters is kept after the one before it. -/
theorem pascalFrom_run (sort : Char → Bool) {after : Char → Bool}
    (hsort : ∀ c, sort c = true → after c = true)
    (hkeep : ∀ b c, after b = true → sort c = true → pascalChar (some b) c = [c])
    (rest : List Char) : ∀ {first : Char}, after first = true →
      ∃ last, after last = true ∧ pascalFrom (some first) rest =
        rest.takeWhile sort ++ pascalFrom (some last) (rest.dropWhile sort) := by
  induction rest with
  | nil => exact fun h => ⟨_, h, rfl⟩
  | cons c rest ih =>
    intro first h
    by_cases hc : sort c = true
    · obtain ⟨last, hlast, hrun⟩ := ih (hsort c hc)
      refine ⟨last, hlast, ?_⟩
      rw [pascalFrom, hkeep first c h hc, hrun, List.takeWhile_cons_of_pos hc,
        List.dropWhile_cons_of_pos hc]
      rfl
    · refine ⟨first, h, ?_⟩
      rw [List.takeWhile_cons_of_neg hc, List.dropWhile_cons_of_neg hc]
      rfl

/-- A letter or digit that is no small letter, or that stands after a letter, is kept. -/
theorem pascalChar_of_kept {before : Option Char} {c : Char} (hc : c.isAlphanum = true)
    (h : c.isLower = true → before.any Char.isAlpha = true) : pascalChar before c = [c] := by
  rw [pascalChar, if_pos hc]
  cases hlower : c.isLower with
  | true => simp [h hlower]
  | false => simp

/-- A letter that does not stand after another one is capitalized. -/
theorem pascalChar_of_first {before : Option Char} {c : Char} (hc : c.isAlpha = true)
    (h : c.isLower = true → before.any Char.isAlpha = false) :
    pascalChar before c = [c.toUpper] := by
  rw [pascalChar, if_pos (isAlphanum_of_isAlpha hc)]
  cases hlower : c.isLower with
  | true => simp [h hlower]
  | false => simp [toUpper_of_not_isLower hlower]

/-- A word of a letter and small letters has the letter as a capital. -/
theorem capitalizeWord_letters (c : Char) {rest : List Char} (h : ∀ d ∈ rest, d.isUpper = false) :
    capitalizeWord (c :: rest) = c.toUpper :: rest := by
  have hrest : rest.map Char.toLower = rest.map id :=
    List.map_congr_left fun d hd => toLower_of_not_isUpper (h d hd)
  rw [capitalizeWord, hrest, List.map_id]

/-- The words of a name, capitalized, are made in one pass, if the name does not go on with a
word. -/
theorem flatMap_words (name : List Char) : ∀ before : Option Char,
    (∀ c ∈ name.head?, c.isLower = true → before.any Char.isAlpha = false) →
      (words name).flatMap capitalizeWord = pascalFrom before name := by
  fun_induction words name with
  | case1 => exact fun _ _ => rfl
  | case2 c rest halpha ih =>
    intro before hbefore
    have hword : capitalizeWord (c :: rest.takeWhile Char.isLower) =
        c.toUpper :: rest.takeWhile Char.isLower := by
      apply capitalizeWord_letters
      intro d hd
      rw [Bool.eq_false_iff]
      exact Char.not_isUpper_of_isLower (List.mem_takeWhile_imp hd)
    -- the pass keeps the small letters after a letter
    obtain ⟨last, -, hrun⟩ := pascalFrom_run Char.isLower
      (fun _ => isAlpha_of_isLower)
      (fun _ _ hb hd => pascalChar_of_kept (isAlphanum_of_isAlpha (isAlpha_of_isLower hd))
        fun _ => hb) rest halpha
    have hnext := List.head?_dropWhile_not Char.isLower rest
    rw [List.flatMap_cons, hword, pascalFrom, pascalChar_of_first halpha (hbefore c rfl), hrun,
      ih (some last)]
    · rfl
    · intro d hd hlower
      rw [Option.mem_def.1 hd] at hnext
      have hstop : d.isLower = false := hnext
      rw [hlower] at hstop
      cases hstop
  | case3 c rest halpha hdigit ih =>
    intro before hbefore
    have hword : capitalizeWord (c :: rest.takeWhile Char.isDigit) =
        c.toUpper :: rest.takeWhile Char.isDigit := by
      apply capitalizeWord_letters
      intro d hd
      have hdigit := isAlpha_of_isDigit (List.mem_takeWhile_imp hd)
      rw [Char.isAlpha, Bool.or_eq_false_iff] at hdigit
      exact hdigit.1
    have hkept : ∀ {before : Option Char} {d : Char}, d.isDigit = true →
        pascalChar before d = [d] := by
      intro before d hd
      apply pascalChar_of_kept (isAlphanum_of_isDigit hd)
      intro hlower
      rw [isLower_of_isDigit hd] at hlower
      cases hlower
    obtain ⟨last, hlast, hrun⟩ := pascalFrom_run Char.isDigit (fun d => id)
      (fun b d _ hd => hkept hd) rest hdigit
    rw [List.flatMap_cons, hword, pascalFrom, hkept hdigit, hrun, ih (some last),
      toUpper_of_not_isLower (isLower_of_isDigit hdigit)]
    · rfl
    · exact fun _ _ _ => isAlpha_of_isDigit hlast
  | case4 c rest halpha hdigit ih =>
    intro before hbefore
    rw [ih (some c)]
    · simp [pascalFrom, pascalChar, Char.isAlphanum, halpha, hdigit]
    · simp [halpha]

/-! ## What the pass keeps -/

/-- Letters and digits are kept, in order and but for their case. -/
theorem map_toUpper_pascalFrom (name : List Char) : ∀ before,
    (pascalFrom before name).map Char.toUpper =
      (name.filter Char.isAlphanum).map Char.toUpper := by
  induction name with
  | nil => exact fun _ => rfl
  | cons c rest ih =>
    intro before
    rw [pascalFrom, List.map_append, ih, pascalChar]
    cases hc : c.isAlphanum with
    | true =>
      rw [if_pos rfl, List.filter_cons_of_pos hc]
      split <;> simp
    | false =>
      rw [if_neg Bool.false_ne_true, List.filter_cons_of_neg (by rw [hc]; exact Bool.false_ne_true)]
      rfl

/-- What the pass has made is not changed by a second pass, which comes to a letter before each
small one as the first has done. -/
theorem pascalFrom_pascalFrom (name : List Char) : ∀ {before other : Option Char},
    (before.any Char.isAlpha = true → other.any Char.isAlpha = true) →
      pascalFrom other (pascalFrom before name) = pascalFrom before name := by
  induction name with
  | nil => exact fun _ => rfl
  | cons c rest ih =>
    intro before other h
    rw [pascalFrom]
    cases hc : c.isAlphanum with
    | false =>
      have hnone : pascalChar before c = [] := by
        rw [pascalChar, hc]
        rfl
      rw [hnone, List.nil_append]
      apply ih
      intro halpha
      rw [isAlphanum_of_isAlpha halpha] at hc
      cases hc
    | true =>
      obtain ⟨d, hd, hkept, halpha⟩ : ∃ d, pascalChar before c = [d] ∧
          pascalChar other d = [d] ∧ d.isAlpha = c.isAlpha := by
        by_cases hfirst : c.isLower = true ∧ before.any Char.isAlpha = false
        · obtain ⟨hlower, hbefore⟩ := hfirst
          refine ⟨c.toUpper, pascalChar_of_first (isAlpha_of_isLower hlower) fun _ => hbefore, ?_,
            Char.isAlpha_toUpper_eq_isAlpha c⟩
          apply pascalChar_of_kept
          · apply isAlphanum_of_isAlpha
            rw [Char.isAlpha_toUpper_eq_isAlpha, isAlpha_of_isLower hlower]
          · intro hupper
            rw [Char.isLower_toUpper_eq_false] at hupper
            cases hupper
        · have hletter : c.isLower = true → before.any Char.isAlpha = true := by
            intro hlower
            rw [not_and, Bool.not_eq_false] at hfirst
            exact hfirst hlower
          exact ⟨c, pascalChar_of_kept hc hletter,
            pascalChar_of_kept hc fun hlower => h (hletter hlower), rfl⟩
      rw [hd, List.singleton_append, pascalFrom, hkept, ih]
      · rfl
      · intro hc
        exact halpha.trans hc

/-- **A name is put into Pascal case in one pass.**  Cutting it into words step by step and running
them together, capitalized, comes to a pass that judges each character by the one before it: of
ASCII it keeps the letters and digits and capitalizes the small letters that stand first or after
no letter, and it leaves out all else.  No letter or digit is lost or moved, and a name in Pascal
case stays as it is. -/
theorem pascalCase_in_one_pass (name : List Char) :
    (leftmostWords (separated name)).flatMap capitalizeWord = pascalCase name ∧
      pascalCase name = pascalFrom none name ∧
      (pascalCase name).map Char.toUpper = (name.filter Char.isAlphanum).map Char.toUpper ∧
      pascalCase (pascalCase name) = pascalCase name := by
  have hpass : ∀ name, pascalCase name = pascalFrom none name := by
    intro name
    exact flatMap_words name none fun _ _ _ => rfl
  refine ⟨?_, hpass name, ?_, ?_⟩
  · rw [leftmostWords_eq_words, separated_eq_map, words_map, pascalCase]
    · intro c hc
      rw [if_neg]
      rintro (rfl | rfl | rfl) <;> cases hc
    · intro c hc
      split
      · rfl
      · exact hc
  · rw [hpass, map_toUpper_pascalFrom]
  · rw [hpass name, hpass, pascalFrom_pascalFrom]
    exact id

example : pascalCase "svm_l2 über-x9Y.z".toList = "SvmL2BerX9YZ".toList := by decide +kernel

end CatalogClasses.Text
