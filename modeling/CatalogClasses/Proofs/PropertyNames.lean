/-
# Names of properties and of their fields

The property of a member has the name of its field with the first letter as a capital.  The field
can be told from it by the small form of that capital, but not for every letter: the capital form
may be several characters long, as that of `ß`, or belong to another letter first, as that of the
dotless `ı`, which is `I`.  These letters form a short list.  The main statement is that a member
is told from its property just when its name does not begin with one of them, and that only such
names can give two different fields one property.

Main definitions:

* `Text.CaseRun.TakesBack` : a run of small letters takes a run of capital letters back;
* `Text.oneWayLetters` : the code points of the letters that do not come back from their capitals;
* `Text.BeginsOneWay` : a name begins with such a letter.
-/
import CatalogClasses.Proofs.Blocks
import Mathlib.Data.List.Pairwise

namespace CatalogClasses

namespace Text

/-! ## Tables -/

/-- The runs of a table come in order and hold characters only, none of which has a sequence. -/
structure IsCaseTable (runs : List CaseRun) (sequences : List (Nat × List Nat)) : Prop where
  inOrder : runs.Pairwise fun first second => first.last < second.first
  valid : ∀ run ∈ runs,
    run.last < 0xD800 ∨ (0xDFFF < run.first ∧ run.last < 0x110000)
  apart : ∀ run ∈ runs, ∀ entry ∈ sequences, run.holds entry.1 = false

theorem isCaseTable_lower : IsCaseTable lowerRuns lowerSequences where
  inOrder := by decide +kernel
  valid := by decide +kernel
  apart := by decide +kernel

theorem CaseRun.holds_iff {run : CaseRun} {code : Nat} :
    run.holds code = true ↔
      (run.first ≤ code ∧ code ≤ run.last) ∧ (code - run.first) % run.step = 0 := by
  simp only [holds, Bool.and_eq_true, decide_eq_true_eq, beq_iff_eq]

section Tables

variable {runs : List CaseRun} {sequences : List (Nat × List Nat)}

/-- What a run holds are characters. -/
theorem IsCaseTable.isValidChar (table : IsCaseTable runs sequences) {run : CaseRun}
    (hrun : run ∈ runs) {code : Nat} (h : run.holds code = true) : code.isValidChar := by
  have hbounds := (CaseRun.holds_iff.1 h).1
  rcases table.valid run hrun with hlast | ⟨hfirst, hlast⟩
  · exact Or.inl (by omega)
  · exact Or.inr (by omega)

/-- No code point is in two runs: of two runs in the table one ends before the other begins. -/
theorem IsCaseTable.eq_of_holds (table : IsCaseTable runs sequences) {first second : CaseRun}
    (hfirst : first ∈ runs) (hsecond : second ∈ runs) {code : Nat}
    (h : first.holds code = true) (h' : second.holds code = true) : first = second := by
  have hbounds := (CaseRun.holds_iff.1 h).1
  have hbounds' := (CaseRun.holds_iff.1 h').1
  have hsymm : Std.Symm fun first second : CaseRun =>
      first.last < second.first ∨ second.last < first.first := ⟨fun _ _ => Or.symm⟩
  have hpairwise : runs.Pairwise fun first second =>
      first.last < second.first ∨ second.last < first.first := table.inOrder.imp Or.inl
  refine Decidable.byContradiction fun hne => ?_
  have hapart := hpairwise.forall hfirst hsecond hne
  omega

/-- The character at a code point in a run moves as the run does. -/
theorem IsCaseTable.caseForm_of_holds (table : IsCaseTable runs sequences) {run : CaseRun}
    (hrun : run ∈ runs) {c : Char} (h : run.holds c.toNat = true) :
    caseForm runs sequences c = [Char.ofNat (run.move c.toNat)] := by
  rcases caseForm_cases runs sequences c with
    ⟨codes, hmem, -⟩ | ⟨-, ⟨found, hfound, hholds, hform⟩ | ⟨hnone, -⟩⟩
  · rw [table.apart run hrun _ hmem] at h
    cases h
  · rwa [table.eq_of_holds hfound hrun hholds h] at hform
  · rw [hnone run hrun] at h
    cases h

end Tables

/-! ## Runs that take each other back -/

/-- The run takes each code point that the other one moves back to where it was. -/
def CaseRun.TakesBack (back run : CaseRun) : Prop :=
  back.offset = -run.offset ∧
    (back.first : Int) ≤ run.first + run.offset ∧ run.last + run.offset ≤ (back.last : Int) ∧
      (run.first + run.offset - back.first) % (back.step : Int) = 0 ∧
      (back.step ∣ run.step ∨ run.last = run.first)

instance (back run : CaseRun) : Decidable (back.TakesBack run) :=
  inferInstanceAs (Decidable (_ ∧ _))

theorem CaseRun.TakesBack.move_move {back run : CaseRun} (h : back.TakesBack run) {code : Nat}
    (hholds : run.holds code = true) :
    back.holds (run.move code) = true ∧ back.move (run.move code) = code := by
  obtain ⟨hoffset, hfirst, hlast, hstart, hstep⟩ := h
  obtain ⟨hbounds, hrest⟩ := holds_iff.1 hholds
  have hmove : (run.move code : Int) = code + run.offset := by
    unfold move
    omega
  constructor
  · refine holds_iff.2 ⟨by omega, ?_⟩
    have hsum : ((run.move code - back.first : Nat) : Int) =
        (run.first + run.offset - back.first) + (code - run.first : Nat) := by omega
    have hfar : back.step ∣ code - run.first := by
      rcases hstep with hstep | hstep
      · exact Nat.dvd_trans hstep (Nat.dvd_of_mod_eq_zero hrest)
      · rw [show code - run.first = 0 by omega]
        exact Nat.dvd_zero _
    apply Nat.mod_eq_zero_of_dvd
    apply Int.natCast_dvd_natCast.1
    rw [hsum]
    exact Int.dvd_add (Int.dvd_of_emod_eq_zero hstart) (Int.natCast_dvd_natCast.2 hfar)
  · unfold move at hmove ⊢
    omega

/-! ## Letters that come back from their capitals -/

/-- The code points of the letters that are not the small form of their capital form, although
this is one character: it is the capital form of another letter as well. -/
def sharedCapitals : List Nat :=
  -- the micro sign, the dotless i, the long s and the pairs of letters with one capital in front
  [181, 305, 383, 453, 456, 459, 498,
    -- the iota below a letter, the final sigma and the forms of Greek letters used as symbols
    837, 962, 976, 977, 981, 982, 1008, 1009, 1013,
    -- the forms of Cyrillic letters in old prints, the long s with a dot, the iota beside a letter
    7296, 7297, 7298, 7299, 7300, 7301, 7302, 7303, 7304, 7835, 8126]

/-- The code points of the letters that are not the small form of their capital form. -/
def oneWayLetters : List Nat := upperSequences.map Prod.fst ++ sharedCapitals

/-- The code points that a run holds. -/
def CaseRun.codes (run : CaseRun) : List Nat :=
  List.range' run.first ((run.last - run.first) / run.step + 1) run.step

/-- A code point that a run holds is among those counted from its first one. -/
theorem CaseRun.mem_codes_of_holds {run : CaseRun} {code : Nat} (h : run.holds code = true) :
    code ∈ run.codes := by
  obtain ⟨⟨hfirst, hlast⟩, hrest⟩ := holds_iff.1 h
  have hdivides : run.step ∣ code - run.first := Nat.dvd_of_mod_eq_zero hrest
  refine List.mem_range'.2 ⟨(code - run.first) / run.step, ?_, ?_⟩
  · exact Nat.lt_succ_of_le (Nat.div_le_div_right (Nat.sub_le_sub_right hlast _))
  · rw [Nat.mul_div_cancel' hdivides]
    omega

/-- Every run of capital letters is taken back by one of small letters, but for those of letters
that share their capital form. -/
theorem exists_takesBack {run : CaseRun} (h : run ∈ upperRuns) :
    (∃ back ∈ lowerRuns, back.TakesBack run) ∨ ∀ code ∈ run.codes, code ∈ sharedCapitals := by
  have hall : ∀ run ∈ upperRuns,
      (∃ back ∈ lowerRuns, back.TakesBack run) ∨ ∀ code ∈ run.codes, code ∈ sharedCapitals := by
    decide +kernel
  exact hall run h

/-- Where no sequence of the table is empty, no form is. -/
theorem caseForm_ne_nil {runs : List CaseRun} {sequences : List (Nat × List Nat)}
    (h : ∀ entry ∈ sequences, entry.2 ≠ []) (c : Char) : caseForm runs sequences c ≠ [] := by
  rcases caseForm_cases runs sequences c with
    ⟨codes, hmem, hform⟩ | ⟨-, ⟨run, -, -, hform⟩ | ⟨-, hform⟩⟩
  · rw [hform, ne_eq, List.map_eq_nil_iff]
    exact h _ hmem
  · rw [hform]
    exact List.cons_ne_nil _ _
  · rw [hform]
    exact List.cons_ne_nil _ _

theorem upper_ne_nil (c : Char) : upper c ≠ [] := caseForm_ne_nil (by decide +kernel) c

theorem lower_ne_nil (c : Char) : lower c ≠ [] := caseForm_ne_nil (by decide) c

/-- The small form of the first of several characters leaves the others. -/
theorem one_lt_length_decapitalize {text : List Char} (h : 1 < text.length) :
    1 < (decapitalize text).length := by
  obtain ⟨first, rest, rfl⟩ := List.exists_cons_of_length_pos (Nat.zero_lt_of_lt h)
  have hfirst := List.length_pos_iff.2 (lower_ne_nil first)
  rw [List.length_cons] at h
  rw [decapitalize, List.length_append]
  omega

/-- A letter whose capital form is several characters long does not come back. -/
theorem decapitalize_upper_of_sequence {c : Char} {codes : List Nat}
    (hmem : (c.toNat, codes) ∈ upperSequences) (hform : upper c = codes.map Char.ofNat) :
    decapitalize (upper c) ≠ [c] := by
  have hsequences : ∀ entry ∈ upperSequences, 1 < entry.2.length := by decide +kernel
  intro hback
  have hlength : 1 < (decapitalize (upper c)).length := by
    apply one_lt_length_decapitalize
    rw [hform, List.length_map]
    exact hsequences _ hmem
  rw [hback] at hlength
  exact absurd hlength (Nat.lt_irrefl 1)

/-- A letter that shares its capital form does not come back. -/
theorem decapitalize_upper_of_shared {c : Char} (h : c.toNat ∈ sharedCapitals) :
    decapitalize (upper c) ≠ [c] := by
  have hall : ∀ code ∈ sharedCapitals,
      decapitalize (upper (Char.ofNat code)) ≠ [Char.ofNat code] := by decide +kernel
  have hcode := hall c.toNat h
  rwa [Char.ofNat_toNat] at hcode

/-- A letter in a run that is taken back comes back. -/
theorem decapitalize_upper_of_takesBack {run back : CaseRun} (hback : back ∈ lowerRuns)
    (htakes : back.TakesBack run) {c : Char} (hholds : run.holds c.toNat = true)
    (hform : upper c = [Char.ofNat (run.move c.toNat)]) : decapitalize (upper c) = [c] := by
  obtain ⟨hmoved, hmove⟩ := htakes.move_move hholds
  have hcode : (Char.ofNat (run.move c.toNat)).toNat = run.move c.toNat :=
    congrArg Char.toNat (dif_pos (isCaseTable_lower.isValidChar hback hmoved))
  have hlower : lower (Char.ofNat (run.move c.toNat)) = [c] := by
    rw [lower, isCaseTable_lower.caseForm_of_holds hback (by rwa [hcode]), hcode, hmove,
      Char.ofNat_toNat]
  rw [hform, decapitalize, hlower, List.append_nil]

/-- A letter with another capital form comes back from it just when it is not listed. -/
theorem decapitalize_upper_iff {c : Char} (h : upper c ≠ [c]) :
    decapitalize (upper c) = [c] ↔ c.toNat ∉ oneWayLetters := by
  rcases caseForm_cases upperRuns upperSequences c with
    ⟨codes, hmem, hform⟩ | ⟨hkey, ⟨run, hrun, hholds, hform⟩ | ⟨-, hform⟩⟩
  · refine iff_of_false (decapitalize_upper_of_sequence hmem hform) (not_not_intro ?_)
    exact List.mem_append_left _ (List.mem_map_of_mem hmem)
  · rcases exists_takesBack hrun with ⟨back, hback, htakes⟩ | hshared
    · have hcomes := decapitalize_upper_of_takesBack hback htakes hholds hform
      refine iff_of_true hcomes fun hlisted => ?_
      rcases List.mem_append.1 hlisted with hsequence | hshared
      · exact hkey hsequence
      · exact decapitalize_upper_of_shared hshared hcomes
    · have hcode := hshared _ (CaseRun.mem_codes_of_holds hholds)
      exact iff_of_false (decapitalize_upper_of_shared hcode)
        (not_not_intro (List.mem_append_right _ hcode))
  · exact absurd hform h

/-! ## Names -/

/-- The name begins with a letter that is not the small form of its capital form. -/
def BeginsOneWay (name : List Char) : Prop := ∃ c ∈ name.head?, c.toNat ∈ oneWayLetters

instance (name : List Char) : Decidable (BeginsOneWay name) :=
  decidable_of_iff ((name.head?.any fun c => c.toNat ∈ oneWayLetters) = true)
    (by simp [BeginsOneWay, Option.any_eq_true])

/-- A name that begins with a letter with another capital form comes back just when the letter
does, whatever follows. -/
theorem decapitalize_capitalize_iff {c : Char} (h : upper c ≠ [c]) (rest suffix : List Char) :
    decapitalize (capitalize (c :: rest ++ suffix)) = c :: rest ++ suffix ↔
      ¬ BeginsOneWay (c :: rest) := by
  have hbegins : BeginsOneWay (c :: rest) ↔ c.toNat ∈ oneWayLetters := by
    simp [BeginsOneWay]
  obtain ⟨first, more, hfirst⟩ := List.exists_cons_of_ne_nil (upper_ne_nil c)
  have hletter := decapitalize_upper_iff h
  rw [hfirst, decapitalize] at hletter
  rw [hbegins, ← hletter, List.cons_append, capitalize, hfirst, List.cons_append, decapitalize,
    ← List.append_assoc, ← List.singleton_append, List.append_left_inj]

end Text

/-! ## Members and their properties -/

/-- A value that counts as false is the same as itself. -/
theorem Json.same_self_of_not_isTruthy {value : Json} (h : value.isTruthy = false) :
    value.same value = true := by
  cases value with
  | null => rfl
  | bool b => simp [same, integer?]
  | int n => simp [same, integer?]
  | float x => simp [same]
  | str text => simp [same]
  | arr elements =>
    obtain rfl : elements = [] := by simpa [isTruthy] using h
    rfl
  | obj fields =>
    obtain rfl : fields = [] := by simpa [isTruthy] using h
    rfl

/-- Of the values that count as true only a text has a property. -/
theorem exists_text_of_propertyName {name property : Json}
    (h : propertyName name = .ok property) (htruthy : name.isTruthy = true) :
    ∃ text, name = .str text ∧ property = .str (capitalized text) := by
  unfold propertyName at h
  rw [if_pos htruthy] at h
  split at h
  · next text =>
    cases h
    exact ⟨text, rfl, rfl⟩
  all_goals cases h

/-- A name that is not that of its property is a text that begins with a letter with another
capital form. -/
theorem exists_letter_of_isCapitalized {name : Json} (h : isCapitalized name = .ok false) :
    ∃ c rest, name = .str (String.ofList (c :: rest)) ∧ Text.upper c ≠ [c] := by
  obtain ⟨property, hproperty, hsame⟩ := bind_eq_ok_iff.1 h
  have hdiffers : property.same name = false := Except.ok.inj hsame
  cases htruthy : name.isTruthy with
  | false =>
    have hself : propertyName name = .ok name := if_neg (by rw [htruthy]; decide)
    rw [hself] at hproperty
    obtain rfl := Except.ok.inj hproperty
    rw [Json.same_self_of_not_isTruthy htruthy] at hdiffers
    cases hdiffers
  | true =>
    obtain ⟨text, rfl, rfl⟩ := exists_text_of_propertyName hproperty htruthy
    have hne : capitalized text ≠ text := by simpa [Json.same] using hdiffers
    cases htext : text.toList with
    | nil =>
      obtain rfl := String.toList_eq_nil_iff.1 htext
      exact absurd rfl hne
    | cons c rest =>
      refine ⟨c, rest, ?_, fun hupper => hne ?_⟩
      · rw [← htext, String.ofList_toList]
      · rw [capitalized, htext, Text.capitalize, hupper, List.singleton_append, ← htext,
          String.ofList_toList]

/-- The name of a member that has a shape is a text, which comes back from its capital form, with
any suffix, just when its first letter does. -/
theorem Argument.exists_name_of_classify {declaration : Declaration} {shape : Shape}
    (h : (member declaration).classify = .ok shape) :
    ∃ name : String, declaration.longName = .str name ∧ ∀ suffix : String,
      Text.decapitalize (capitalized (name ++ suffix)).toList = (name ++ suffix).toList ↔
        ¬ Text.BeginsOneWay name.toList := by
  obtain ⟨c, rest, hname, hupper⟩ := exists_letter_of_isCapitalized (classify_member h).2
  refine ⟨_, hname, fun suffix => ?_⟩
  rw [capitalized, String.toList_append, String.toList_ofList, String.toList_ofList]
  exact Text.decapitalize_capitalize_iff hupper rest suffix.toList

/-- **A member is told from its property by the first letter.**  The small form of the first letter
of the property gives the name of the field just when the name of the member does not begin with a
letter that is not the small form of its capital form, whatever suffix the groups around it add.
Two fields with different names get one property only where one of them begins with such a
letter. -/
theorem Argument.property_tells_field {first second : Declaration} {shape shape' : Shape}
    (hfirst : (member first).classify = .ok shape)
    (hsecond : (member second).classify = .ok shape') :
    ∃ name other : String, first.longName = .str name ∧ second.longName = .str other ∧
      (∀ suffix : String,
        Text.decapitalize (capitalized (name ++ suffix)).toList = (name ++ suffix).toList ↔
          ¬ Text.BeginsOneWay name.toList) ∧
      ∀ suffix suffix' : String,
        capitalized (name ++ suffix) = capitalized (other ++ suffix') →
          name ++ suffix = other ++ suffix' ∨
            Text.BeginsOneWay name.toList ∨ Text.BeginsOneWay other.toList := by
  obtain ⟨name, hname, htold⟩ := exists_name_of_classify hfirst
  obtain ⟨other, hother, htold'⟩ := exists_name_of_classify hsecond
  refine ⟨name, other, hname, hother, htold, fun suffix suffix' hproperty => ?_⟩
  by_cases hletter : Text.BeginsOneWay name.toList
  · exact Or.inr (Or.inl hletter)
  by_cases hletter' : Text.BeginsOneWay other.toList
  · exact Or.inr (Or.inr hletter')
  have hsame := (htold suffix).2 hletter
  rw [hproperty, (htold' suffix').2 hletter'] at hsame
  exact Or.inl (String.toList_injective hsame.symm)

/-- A member of this name that is a whole number. -/
def Argument.count (name : String) : Argument := .member (.ofType name (.named .integer ""))

/-- The letter `l` comes back from its capital, and no other name has the property of such a
member. -/
theorem Argument.property_tells_field_of_weight :
    (Argument.count "l2Weight").classify = .ok .scalar ∧
      (Argument.count "id").classify = .ok .scalar ∧
      Text.decapitalize (capitalized ("l2Weight" ++ "_sub")).toList = "l2Weight_sub".toList ∧
      capitalized ("l2Weight" ++ "_sub") ≠ capitalized ("id" ++ "_sub") := by
  have hweight : (Argument.count "l2Weight").classify = .ok .scalar := by rfl
  have hid : (Argument.count "id").classify = .ok .scalar := by rfl
  obtain ⟨name, other, hname, hother, htold, hdistinct⟩ :=
    Argument.property_tells_field hweight hid
  cases hname
  cases hother
  refine ⟨hweight, hid, (htold "_sub").2 (by decide), fun hproperty => ?_⟩
  rcases hdistinct "_sub" "_sub" hproperty with hsame | hletter | hletter
  · exact absurd hsame (by decide)
  · exact absurd hletter (by decide)
  · exact absurd hletter (by decide)

/-- The dotless `ı` has the capital form of `i`: two members whose names differ in this letter
are both accepted, and get one property, from which only one of them is told. -/
theorem Argument.property_of_dotless :
    (Argument.count "\u0131d").classify = .ok .scalar ∧
      (Argument.count "id").classify = .ok .scalar ∧
      "\u0131d" ≠ "id" ∧ capitalized "\u0131d" = capitalized "id" ∧
      Text.decapitalize (capitalized ("\u0131d" ++ "_sub")).toList ≠ "\u0131d_sub".toList := by
  refine ⟨by rfl, by rfl, by decide, by decide, by decide⟩

end CatalogClasses
