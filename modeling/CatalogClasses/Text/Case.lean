/-
# Letter case

The capital and the small form of one character, which may be several characters
long (`ß` has the capital form `SS`), and the change of a name's first letter.
-/
import CatalogClasses.Text.CaseTable

namespace CatalogClasses.Text

/-! ## One character -/

/-- The form of a character in a table of runs and sequences; a character in neither
is its own form. -/
def caseForm (runs : List CaseRun) (sequences : List (Nat × List Nat)) (c : Char) : List Char :=
  match sequences.lookup c.toNat with
  | some codes => codes.map Char.ofNat
  | none => match runs.find? (·.holds c.toNat) with
    | some run => [Char.ofNat (run.move c.toNat)]
    | none => [c]

/-- The capital form of a character. -/
def upper (c : Char) : List Char := caseForm upperRuns upperSequences c

/-- The small form of a character. -/
def lower (c : Char) : List Char := caseForm lowerRuns lowerSequences c

/-- The form of a character is that of its sequence; without one it is that of a run that holds
the character, and if no run does it is the character itself. -/
theorem caseForm_cases (runs : List CaseRun) (sequences : List (Nat × List Nat)) (c : Char) :
    (∃ codes, (c.toNat, codes) ∈ sequences ∧
      caseForm runs sequences c = codes.map Char.ofNat) ∨
    c.toNat ∉ sequences.map Prod.fst ∧
      ((∃ run ∈ runs, run.holds c.toNat = true ∧
        caseForm runs sequences c = [Char.ofNat (run.move c.toNat)]) ∨
      (∀ run ∈ runs, run.holds c.toNat = false) ∧ caseForm runs sequences c = [c]) := by
  unfold caseForm
  cases hlookup : sequences.lookup c.toNat with
  | some codes =>
    obtain ⟨before, after, hentries, -⟩ := List.lookup_eq_some_iff.1 hlookup
    refine Or.inl ⟨codes, ?_, rfl⟩
    rw [hentries]
    exact List.mem_append_right _ List.mem_cons_self
  | none =>
    have hnone : c.toNat ∉ sequences.map Prod.fst := by
      intro hmem
      obtain ⟨entry, hentry, hcode⟩ := List.mem_map.1 hmem
      have hne := List.lookup_eq_none_iff.1 hlookup entry hentry
      rw [hcode, bne_self_eq_false] at hne
      cases hne
    refine Or.inr ⟨hnone, ?_⟩
    cases hfind : runs.find? (·.holds c.toNat) with
    | some run =>
      have hholds := List.find?_some hfind
      exact Or.inl ⟨run, List.mem_of_find?_eq_some hfind, hholds, rfl⟩
    | none =>
      refine Or.inr ⟨fun run hrun => ?_, rfl⟩
      exact Bool.eq_false_iff.2 (List.find?_eq_none.1 hfind run hrun)

/-- Of ASCII only the first run of a table may say something. -/
theorem caseForm_of_lt_128 {first : CaseRun} {rest : List CaseRun}
    {sequences : List (Nat × List Nat)} (hrest : ∀ run ∈ rest, 128 ≤ run.first)
    (hsequences : ∀ entry ∈ sequences, 128 ≤ entry.1) {c : Char} (h : c.toNat < 128) :
    caseForm (first :: rest) sequences c = caseForm [first] [] c := by
  have hlookup : sequences.lookup c.toNat = none := by
    rw [List.lookup_eq_none_iff]
    intro entry hentry
    have hlate := hsequences entry hentry
    rw [bne_iff_ne]
    omega
  have hfind : rest.find? (·.holds c.toNat) = none := by
    rw [List.find?_eq_none]
    intro run hrun
    have hlate := hrest run hrun
    simp only [CaseRun.holds, Bool.and_eq_true, decide_eq_true_eq]
    omega
  unfold caseForm
  rw [hlookup, List.find?_cons, hfind]
  rfl

/-- In ASCII the capital form is one character, the usual one. -/
theorem upper_of_lt_128 {c : Char} (h : c.toNat < 128) : upper c = [c.toUpper] := by
  have hform : upper c = caseForm [⟨97, 122, 1, -32⟩] [] c :=
    caseForm_of_lt_128 (by decide +kernel) (by decide +kernel) h
  have all : ∀ n < 128, caseForm [⟨97, 122, 1, -32⟩] [] (Char.ofNat n) =
      [(Char.ofNat n).toUpper] := by decide +kernel
  have key := all c.toNat h
  rwa [Char.ofNat_toNat, ← hform] at key

/-- In ASCII the small form is one character, the usual one. -/
theorem lower_of_lt_128 {c : Char} (h : c.toNat < 128) : lower c = [c.toLower] := by
  have hform : lower c = caseForm [⟨65, 90, 1, 32⟩] [] c :=
    caseForm_of_lt_128 (by decide +kernel) (by decide +kernel) h
  have all : ∀ n < 128, caseForm [⟨65, 90, 1, 32⟩] [] (Char.ofNat n) =
      [(Char.ofNat n).toLower] := by decide +kernel
  have key := all c.toNat h
  rwa [Char.ofNat_toNat, ← hform] at key

/-! ## The first letter of a name -/

/-- The name with its first character in capital form: `maxIter` becomes `MaxIter`. -/
def capitalize : List Char → List Char
  | [] => []
  | c :: rest => upper c ++ rest

/-- The name with its first character in small form. -/
def decapitalize : List Char → List Char
  | [] => []
  | c :: rest => lower c ++ rest

end CatalogClasses.Text
