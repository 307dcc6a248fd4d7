/-
# Texts that are looked for

The comment of a run shows the command line, and every text on it is looked for as a path first,
whatever it stands for and whether or not there is to be a comment.  So a run has a comment just
when the file system takes each of these texts as a path.

Main definitions:

* `Snapshot.Takes` : a file system takes a text as a path;
* `Parameter.asked` : the values of a parameter that are looked for;
* `shownTexts` : the texts on the command line of a run.
-/
import Mathlib.Data.List.Basic
import CatalogClasses.CommandLine.Run

namespace CatalogClasses.CommandLine

/-- The probe finds out whether something is at the path with this text. -/
def Probe.Answers (probe : Probe) (text : String) : Prop := ∃ found, probe text = .ok found

/-- The file system takes the text as a path: neither it nor a name in it is too long. -/
def Snapshot.Takes (snapshot : Snapshot) (text : String) : Prop :=
  Probe.Answers snapshot.holds text

namespace Snapshot

variable {snapshot : Snapshot}

theorem takes_of_isOk {text : String} (h : (snapshot.holds text).isOk = true) :
    snapshot.Takes text := by
  cases hholds : snapshot.holds text with
  | ok found => exact ⟨found, hholds⟩
  | error fault =>
    rw [hholds] at h
    cases h

/-- The empty text leads to the working directory. -/
theorem takes_empty : snapshot.Takes "" := ⟨_, rfl⟩

theorem entry?_workingDirectory : snapshot.entry? snapshot.workingDirectory = some .directory := by
  unfold entry?
  rw [if_pos]
  simp

/-- A plain name that is too long for a file is not taken as a path. -/
theorem not_takes_of_isLongName {name : String} (hslash : '/' ∉ name.toList)
    (hend : '\x00' ∉ name.toList) (hlong : isLongName name = true) : ¬ snapshot.Takes name := by
  have hplain : name ≠ "" ∧ name ≠ "." := by
    constructor
    all_goals
      rintro rfl
      revert hlong
      decide
  have hnames : pathNames name = [name] := by
    rw [pathNames, Text.splitAt_of_not_mem hslash]
    simp [String.ofList_toList, hplain]
  have hterminator : hasTerminator name = false := by
    simpa [hasTerminator] using hend
  have hrooted : isRooted name = false := by
    rw [isRooted]
    cases hchars : name.toList with
    | nil => rfl
    | cons c rest =>
      rw [hchars, List.mem_cons, not_or] at hslash
      simpa [Text.startsWith] using hslash.1
  rintro ⟨found, hfound⟩
  unfold holds at hfound
  rw [hterminator, if_neg Bool.false_ne_true, hrooted, if_neg Bool.false_ne_true, hnames,
    reaches, entry?_workingDirectory, hlong] at hfound
  split at hfound <;> cases hfound

end Snapshot

/-! ## Values that are shown -/

section Results

variable {ε α β : Type} {first : Except ε α}

/-- One computation after another has a result if both have; whether the second has one does not
depend on the result of the first. -/
theorem exists_bind_iff {next : α → Except ε β} {p : Prop}
    (h : ∀ value, (∃ result, next value = .ok result) ↔ p) :
    (∃ result, first >>= next = .ok result) ↔ (∃ value, first = .ok value) ∧ p := by
  cases first with
  | ok value => exact (h value).trans (and_iff_right ⟨value, rfl⟩).symm
  | error fault => exact iff_of_false nofun nofun

theorem exists_bind_pure_iff {next : α → β} :
    (∃ result, (first >>= fun value => pure (next value)) = .ok result) ↔
      ∃ value, first = .ok value := by
  cases first with
  | ok value => exact iff_of_true ⟨_, rfl⟩ ⟨value, rfl⟩
  | error fault => exact iff_of_false nofun nofun

end Results

section Echo

variable {probe : Probe}

theorem exists_shownValue_iff {value : Json} :
    (∃ shown, shownValue probe value = .ok shown) ↔
      ∀ text, value = .str text → probe.Answers text := by
  cases value with
  | str text =>
    rw [shownValue, exists_bind_pure_iff]
    exact ⟨fun h other heq => Json.str.inj heq ▸ h, fun h => h text rfl⟩
  | null | bool | int | float | arr | obj => exact iff_of_true ⟨_, rfl⟩ nofun

/-- Some values can be shown if all texts among them can be looked for. -/
theorem exists_shownValues_iff {values : List Json} :
    (∃ shown, shownValues probe values = .ok shown) ↔
      ∀ text, .str text ∈ values → probe.Answers text := by
  induction values with
  | nil => exact iff_of_true ⟨[], rfl⟩ nofun
  | cons value rest ih =>
    rw [shownValues, exists_bind_iff fun first => exists_bind_pure_iff, exists_shownValue_iff, ih]
    constructor
    · rintro ⟨hvalue, hrest⟩ text htext
      exact (List.mem_cons.1 htext).elim (fun heq => hvalue text heq.symm) (hrest text)
    · intro h
      exact ⟨fun text heq => h text (heq ▸ List.mem_cons_self),
        fun text htext => h text (List.mem_cons_of_mem _ htext)⟩

/-! ## Parameters that are shown -/

/-- The values that are looked for where a value is given; one that counts as false is not. -/
def sought (value : Json) : List Json := if value.isTruthy then eachValue value else []

/-- The values of a parameter that are looked for. -/
def Parameter.asked (values : List (String × Json)) (parameter : Parameter) : List Json :=
  sought ((Json.lookup parameter.name values).getD .null)

theorem exists_shownIfGiven_iff {values : List (String × Json)} {parameter : Parameter} :
    (∃ shown, shownIfGiven probe values parameter = .ok shown) ↔
      ∀ text, .str text ∈ parameter.asked values → probe.Answers text := by
  rw [shownIfGiven, Parameter.asked, sought]
  split
  · rw [shownParameter, exists_bind_pure_iff, exists_shownValues_iff]
  · exact iff_of_true ⟨[], rfl⟩ nofun

theorem exists_shownParameters_iff {values : List (String × Json)} {parameters : List Parameter} :
    (∃ shown, shownParameters probe values parameters = .ok shown) ↔
      ∀ parameter ∈ parameters, ∀ text, .str text ∈ parameter.asked values →
        probe.Answers text := by
  induction parameters with
  | nil => exact iff_of_true ⟨[], rfl⟩ nofun
  | cons parameter rest ih =>
    rw [shownParameters, exists_bind_iff fun first => exists_bind_pure_iff,
      exists_shownIfGiven_iff, ih, List.forall_mem_cons]

/-- A command line can be shown if all texts on it can be looked for. -/
theorem exists_echo_iff {values : List (String × Json)} {parameters : List Parameter} :
    (∃ shown, echo probe values parameters = .ok shown) ↔
      ∀ parameter ∈ parameters, ∀ text, .str text ∈ parameter.asked values →
        probe.Answers text := by
  rw [echo, exists_bind_iff fun positional => exists_bind_pure_iff, exists_shownParameters_iff,
    exists_shownParameters_iff]
  constructor
  · rintro ⟨hpositional, hoptions⟩ parameter hparameter
    cases hkind : parameter.isPositional with
    | true => exact hpositional parameter (List.mem_filter.2 ⟨hparameter, hkind⟩)
    | false => exact hoptions parameter (List.mem_filter.2 ⟨hparameter, by rw [hkind]; rfl⟩)
  · intro h
    exact ⟨fun parameter hparameter => h parameter (List.mem_filter.1 hparameter).1,
      fun parameter hparameter => h parameter (List.mem_filter.1 hparameter).1⟩

end Echo

/-! ## The comment of a run -/

/-- The texts on the command line of a run; paths as they are resolved. -/
def shownTexts (given : Given) (paths : Paths) : List String :=
  (paths.config?.map pathText).toList ++ given.exclude ++ given.component ++
    given.namespaceName?.toList ++ [pathText paths.catalog, pathText paths.output]

section Sought

variable {snapshot : Snapshot}

theorem takes_sought_str_iff {name : String} :
    (∀ text, Json.str text ∈ sought (.str name) → snapshot.Takes text) ↔ snapshot.Takes name := by
  unfold sought
  by_cases hname : name = ""
  · subst hname
    exact iff_of_true nofun Snapshot.takes_empty
  · rw [if_pos (by simpa [Json.isTruthy] using hname)]
    exact ⟨fun h => h name List.mem_cons_self,
      fun h text htext => Json.str.inj (List.mem_singleton.1 htext) ▸ h⟩

theorem takes_sought_names_iff {names : List String} :
    (∀ text, Json.str text ∈ sought (.arr (names.map .str)) → snapshot.Takes text) ↔
      ∀ text ∈ names, snapshot.Takes text := by
  unfold sought
  refine forall_congr' fun text => imp_congr_left ?_
  cases names with
  | nil => exact iff_of_false nofun nofun
  | cons name rest =>
    show Json.str text ∈ (name :: rest).map Json.str ↔ _
    exact List.mem_map_of_injective fun _ _ => Json.str.inj

/-- A text that need not be given is looked for if it is. -/
theorem takes_sought_optional_iff {text? : Option String} :
    (∀ text, Json.str text ∈ sought ((text?.map Json.str).getD .null) → snapshot.Takes text) ↔
      ∀ text ∈ text?.toList, snapshot.Takes text := by
  cases text? with
  | none =>
    exact iff_of_true (fun _ h => absurd h List.not_mem_nil) fun _ h => absurd h List.not_mem_nil
  | some name => exact takes_sought_str_iff.trans List.forall_mem_singleton.symm

/-- A flag is not looked for. -/
theorem takes_sought_bool (flag : Bool) :
    ∀ text, Json.str text ∈ sought (.bool flag) → snapshot.Takes text := by
  intro text htext
  cases flag <;> simp [sought, Json.isTruthy, eachValue] at htext

/-- The values of all parameters of the command, in their order. -/
theorem map_snd_parameterValues (given : Given) (paths : Paths) :
    (parameterValues given paths).map Prod.snd =
      [((paths.config?.map pathText).map Json.str).getD .null, .arr (given.exclude.map .str),
        .arr (given.component.map .str), (given.namespaceName?.map Json.str).getD .null,
        .bool given.verbose, .str (pathText paths.catalog), .str (pathText paths.output)] := by
  unfold parameterValues
  cases paths.config? <;> cases given.namespaceName? <;> rfl

/-- The values of all parameters of the command, in their order, are looked for. -/
theorem map_asked_parameters (given : Given) (paths : Paths) :
    parameters.map (Parameter.asked (parameterValues given paths)) =
      ((parameterValues given paths).map Prod.snd).map sought := by
  simp only [parameters, parameterValues, List.map_cons, List.map_nil, Parameter.asked,
    Parameter.name, Json.lookup, String.reduceEq, if_true, if_false, Option.getD_some]

/-- **A run has a comment if the file system takes every text on the command line as a path.** -/
theorem exists_runComment_iff {given : Given} {paths : Paths} :
    (∃ comment, runComment snapshot given paths = .ok comment) ↔
      ∀ text ∈ shownTexts given paths, snapshot.Takes text := by
  have hecho : (∃ comment, runComment snapshot given paths = .ok comment) ↔
      ∃ shown, echo snapshot.holds (parameterValues given paths) parameters = .ok shown := by
    unfold runComment
    cases echo snapshot.holds (parameterValues given paths) parameters with
    | ok shown => exact iff_of_true ⟨_, rfl⟩ ⟨shown, rfl⟩
    | error fault => simp
  have hvalues : (∀ parameter ∈ parameters, ∀ text,
      .str text ∈ parameter.asked (parameterValues given paths) → snapshot.Takes text) ↔
        ∀ value ∈ (parameterValues given paths).map Prod.snd, ∀ text,
          .str text ∈ sought value → snapshot.Takes text := by
    rw [← List.forall_mem_map (f := Parameter.asked (parameterValues given paths))
      (P := fun values => ∀ text, Json.str text ∈ values → snapshot.Takes text),
      map_asked_parameters, List.forall_mem_map]
  rw [hecho]
  refine exists_echo_iff.trans (hvalues.trans ?_)
  rw [map_snd_parameterValues, shownTexts]
  simp only [List.forall_mem_cons, List.forall_mem_append, takes_sought_str_iff,
    takes_sought_names_iff, takes_sought_optional_iff]
  constructor
  · rintro ⟨hconfig, hexclude, hcomponent, hname, -, hcatalog, houtput, -⟩
    exact ⟨⟨⟨⟨hconfig, hexclude⟩, hcomponent⟩, hname⟩, hcatalog, houtput, by simp⟩
  · rintro ⟨⟨⟨⟨hconfig, hexclude⟩, hcomponent⟩, hname⟩, hcatalog, houtput, -⟩
    exact ⟨hconfig, hexclude, hcomponent, hname, takes_sought_bool _, hcatalog, houtput, by simp⟩

end Sought

end CatalogClasses.CommandLine
