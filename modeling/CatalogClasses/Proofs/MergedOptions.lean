/-
# Options on the command line and in a file

Names to leave out and a namespace may be given on the command line, over a file of options, or be
written into this file.  Names on the command line are put after those of the file, but for the ones
that are there already, and generation asks only whether a name is among them.  So a run does the
same either way, if no comment shows its command line.  It does not if the file system does not take
one of the names as a path: each is looked for as one, for a comment that is not shown.

Main definitions:

* `Given.fromFile` : a command line that leaves names and a namespace to a file;
* `IsMerged` : an object of options with the names and the namespace of a command line;
* `Outcome.Agrees` : two runs end in the same way.
-/
import CatalogClasses.Proofs.AllOrNothing
import CatalogClasses.Proofs.DistinctKeys
import CatalogClasses.Proofs.EchoedTexts
import CatalogClasses.Proofs.OptionsAlike
import CatalogClasses.Proofs.OptionsByField

namespace CatalogClasses

namespace Options

/-! ## Options from an object -/

/-- After the settings of an object, each option is what the object has under its name. -/
theorem setAll_standard {fields : List (String × Json)} (hkeys : (fields.map Prod.fst).Nodup) :
    standard.setAll fields =
      { exclude := (Json.lookup "exclude" fields).getD standard.exclude
        includeHidden := (Json.lookup "include_hidden" fields).getD standard.includeHidden
        lift := (Json.lookup "lift_generic_collections" fields).getD standard.lift
        addComment := (Json.lookup "add_generation_comment" fields).getD standard.addComment
        namespaceName := (Json.lookup "csharp_namespace" fields).getD standard.namespaceName
        usings := (Json.lookup "csharp_usings" fields).getD standard.usings
        classSuffix := (Json.lookup "class_suffix" fields).getD standard.classSuffix
        exclusionTest? := Json.lookup "is_excluded" fields
        listing? := Json.lookup "to_dict" fields } := by
  obtain ⟨htest, hlisting, hsettings⟩ := parts_setAll hkeys standard
  rw [show standard.exclusionTest? = none from rfl, Option.or_none] at htest
  rw [show standard.listing? = none from rfl, Option.or_none] at hlisting
  refine eq_of_attributes ?_
  rw [attributes, htest, hlisting, hsettings]
  rfl

/-- What goes wrong with the settings of an object is that it is malformed. -/
theorem assignAll_cases (options : Options) (fields : List (String × Json)) :
    (∃ result, options.assignAll fields = .ok result) ∨
      ∃ fault, options.assignAll fields = .error (.malformed fault) := by
  induction fields generalizing options with
  | nil => exact .inl ⟨options, rfl⟩
  | cons field rest ih =>
    obtain ⟨key, value⟩ := field
    have hfirst : (∃ result, options.assign key value = .ok result) ∨
        ∃ fault, options.assign key value = .error (.malformed fault) := by
      unfold assign
      split
      · exact .inr ⟨_, rfl⟩
      · exact .inr ⟨_, rfl⟩
      · split
        · unfold ofAttributes
          split
          · exact .inl ⟨_, rfl⟩
          · exact .inr ⟨_, rfl⟩
        · exact .inr ⟨_, rfl⟩
      · exact .inl ⟨_, rfl⟩
    rw [assignAll]
    rcases hfirst with ⟨result, hresult⟩ | ⟨fault, hfault⟩
    · rw [hresult]
      exact ih result
    · rw [hfault]
      exact .inr ⟨fault, rfl⟩

/-! ## Lists that hold the same -/

/-- The two lists hold the same. -/
def HoldSame (names others : List Json) : Prop :=
  ∀ item, names.any (·.same item) = others.any (·.same item)

section Lists

variable (options : Options) {names others : List Json}

/-- Options whose lists of names hold the same answer alike. -/
theorem alike_of_holdSame (h : HoldSame names others) :
    Alike { options with exclude := .arr names } { options with exclude := .arr others } := by
  refine ⟨fun name => ?_, rfl, rfl, rfl⟩
  unfold isExcluded
  cases options.exclusionTest? with
  | some replacement => rfl
  | none => exact congrArg Except.ok (h name)

theorem exclusion?_of_holdSame (h : HoldSame names others) :
    exclusion? { options with exclude := .arr names } =
      exclusion? { options with exclude := .arr others } := by
  unfold exclusion?
  rw [funext (alike_of_holdSame options h).test]

end Lists

end Options

namespace CommandLine

/-! ## Names that are put to a list -/

/-- The names that a list does not hold, as values. -/
def namesBeyond (listed : List Json) (names : List String) : List Json :=
  (names.filter fun name => !listed.any (·.same (.str name))).map .str

/-- Names are put to a list if it does not hold them. -/
theorem namesNotHeld_arr (listed : List Json) (names : List String) :
    namesNotHeld (.arr listed) names =
      .ok (names.filter fun name => !listed.any (·.same (.str name))) := by
  induction names with
  | nil => rfl
  | cons name rest ih =>
    rw [namesNotHeld, Json.holds, ok_bind, ih, ok_bind, List.filter_cons]
    cases listed.any (·.same (.str name)) <;> rfl

theorem mergedExclusions_arr (listed : List Json) (names : List String) :
    mergedExclusions (.arr listed) names =
      .ok (.arr (listed ++ namesBeyond listed names)) := by
  rw [mergedExclusions, namesNotHeld_arr]
  rfl

theorem str_same_iff {text : String} {value : Json} :
    (Json.str text).same value = true ↔ value = .str text := by
  cases value with
  | str other =>
    rw [Json.same, beq_iff_eq, Json.str.injEq]
    exact eq_comm
  | null | bool | int | float | arr | obj => simp [Json.same, Json.integer?]

/-- A list holds the same with all of some names put to it, in any order and as often as may be, as
with those that it does not hold already. -/
theorem holdSame_merged {names written : List String} (listed : List Json)
    (h : ∀ name, name ∈ written ↔ name ∈ names) :
    Options.HoldSame (listed ++ namesBeyond listed names) (listed ++ written.map Json.str) := by
  intro item
  rw [List.any_append, List.any_append]
  cases hheld : listed.any (·.same item) with
  | true => rfl
  | false =>
    -- what is not held already is not lost by the names that are left out
    rw [Bool.false_or, Bool.false_or, Bool.eq_iff_iff, List.any_eq_true, List.any_eq_true]
    simp only [namesBeyond, List.mem_map, exists_exists_and_eq_and, List.mem_filter, str_same_iff]
    constructor
    · rintro ⟨name, ⟨hname, -⟩, hitem⟩
      exact ⟨name, (h name).2 hname, hitem⟩
    · rintro ⟨name, hname, rfl⟩
      exact ⟨name, ⟨(h name).1 hname, by rw [hheld]; rfl⟩, rfl⟩

/-! ## The same options in two ways -/

/-- A command line that leaves names to leave out and a namespace to the file with the options. -/
def Given.fromFile (given : Given) (config : String) : Given :=
  { given with config? := some config, exclude := [], namespaceName? := none }

/-- The texts of a command line that can be left to a file: the names and the namespace. -/
def Given.movable (given : Given) : List String := given.exclude ++ given.namespaceName?.toList

/-- An object has the fields of another, and with them the names and the namespace of a command
line: the names after those of the other object, in any order and as often as may be. -/
structure IsMerged (given : Given) (fields merged : List (String × Json)) : Prop where
  exclude : ∃ (listed : List Json) (written : List String),
    (Json.lookup "exclude" fields).getD (.arr []) = .arr listed ∧
    Json.lookup "exclude" merged = some (.arr (listed ++ written.map .str)) ∧
    ∀ name, name ∈ written ↔ name ∈ given.exclude
  namespaceName : Json.lookup "csharp_namespace" merged =
    (given.namespaceName?.map Json.str).or (Json.lookup "csharp_namespace" fields)
  others : ∀ key, key ≠ "exclude" → key ≠ "csharp_namespace" →
    Json.lookup key merged = Json.lookup key fields

section Merged

variable {given : Given} {fields merged : List (String × Json)}

/-- A list of names is merged with those of the command line. -/
theorem mergedOptions_of_list {options : Options} {listed : List Json}
    (h : options.exclude = .arr listed) (given : Given) :
    mergedOptions options given = .ok { options with
      exclude := .arr (listed ++ namesBeyond listed given.exclude)
      namespaceName := (given.namespaceName?.map Json.str).getD options.namespaceName } := by
  rw [mergedOptions, h, mergedExclusions_arr, ok_bind]
  cases given.namespaceName? <;> rfl

/-- An object with the names and the namespace of a command line gives the same options as the other
object, but for these. -/
theorem IsMerged.setAll_eq (h : IsMerged given fields merged)
    (hfields : (fields.map Prod.fst).Nodup) (hmerged : (merged.map Prod.fst).Nodup) :
    Options.standard.setAll merged = { Options.standard.setAll fields with
      exclude := (Json.lookup "exclude" merged).getD (.arr [])
      namespaceName := (given.namespaceName?.map Json.str).getD
        (Options.standard.setAll fields).namespaceName } := by
  rw [Options.setAll_standard hfields, Options.setAll_standard hmerged, h.namespaceName,
    h.others "include_hidden" (by decide) (by decide),
    h.others "lift_generic_collections" (by decide) (by decide),
    h.others "add_generation_comment" (by decide) (by decide),
    h.others "csharp_usings" (by decide) (by decide),
    h.others "class_suffix" (by decide) (by decide),
    h.others "is_excluded" (by decide) (by decide),
    h.others "to_dict" (by decide) (by decide)]
  cases given.namespaceName? <;> rfl

/-- The same options come of both, but for lists that hold the same. -/
theorem IsMerged.exists_options (h : IsMerged given fields merged)
    (hfields : (fields.map Prod.fst).Nodup) (hmerged : (merged.map Prod.fst).Nodup)
    (config : String) :
    ∃ (options : Options) (names others : List Json),
      mergedOptions (Options.standard.setAll fields) given =
        .ok { options with exclude := .arr names } ∧
      mergedOptions (Options.standard.setAll merged) (given.fromFile config) =
        .ok { options with exclude := .arr others } ∧
      Options.HoldSame names others ∧
      options.addComment = (Json.lookup "add_generation_comment" fields).getD (.bool true) := by
  obtain ⟨listed, written, hlisted, hwritten, hsame⟩ := h.exclude
  have hfirst : (Options.standard.setAll fields).exclude = .arr listed := by
    rw [Options.setAll_standard hfields]
    exact hlisted
  have hsecond : (Options.standard.setAll merged).exclude =
      .arr (listed ++ written.map .str) := by
    rw [Options.setAll_standard hmerged, hwritten]
    rfl
  have haddComment : (Options.standard.setAll fields).addComment =
      (Json.lookup "add_generation_comment" fields).getD (.bool true) := by
    rw [Options.setAll_standard hfields]
    rfl
  refine ⟨{ Options.standard.setAll fields with
      namespaceName := (given.namespaceName?.map Json.str).getD
        (Options.standard.setAll fields).namespaceName },
    _, _, mergedOptions_of_list hfirst given, ?_, holdSame_merged listed hsame, haddComment⟩
  rw [mergedOptions_of_list hsecond, h.setAll_eq hfields hmerged]
  simp [Given.fromFile, namesBeyond]

end Merged

/-! ## Runs -/

/-- Two runs end in the same way: with the same exit code and messages, and with the same file. -/
structure Outcome.Agrees (first second : Outcome) : Prop where
  exitCode : first.exitCode = second.exitCode
  messages : first.messages = second.messages
  written : first.written? = second.written?

theorem Outcome.Agrees.refl (outcome : Outcome) : outcome.Agrees outcome := ⟨rfl, rfl, rfl⟩

/-- A text leads to a file that holds an object, and the file system takes its path as it is
shown. -/
def Snapshot.HoldsObject (snapshot : Snapshot) (text : String) (fields : List (String × Json)) :
    Prop :=
  ∃ path content, inputPath snapshot text = .ok path ∧ snapshot.entry? path = some (.file content) ∧
    Json.ofText? content = some (.obj fields) ∧ snapshot.Takes (pathText path)

/-- The names and the namespace of a command line, with a file of options that wants no comment, are
written into another file of the same options. -/
structure MovedToFile (snapshot : Snapshot) (given : Given)
    (config : String) (fields : List (String × Json))
    (other : String) (merged : List (String × Json)) : Prop where
  config_eq : given.config? = some config
  file : snapshot.HoldsObject config fields
  otherFile : snapshot.HoldsObject other merged
  noTable : "__dict__" ∉ fields.map Prod.fst
  noComment : Json.lookup "add_generation_comment" fields = some (.bool false)
  isMerged : IsMerged given fields merged

/-- The components that are generated, from the catalog at a path. -/
def componentsFor (snapshot : Snapshot) (names : List String)
    (exclusion? : Option (Json → Fallible Bool)) (catalog : Path) : RunResult (List Component) := do
  let content ← readFile snapshot catalog
  let components ← refusing "Invalid catalog" (loadCatalog exclusion? content)
  chosenComponents names components

section Runs

variable {snapshot : Snapshot} {given : Given}

/-- What a run generates from comes of its paths, its options and its components. -/
theorem prepare_eq (snapshot : Snapshot) (given : Given) :
    prepare snapshot given = (do
      let paths ← givenPaths snapshot given
      let options ← fileOptions snapshot paths.config?
      let options ← refusing "Invalid options" (mergedOptions options given)
      let components ← componentsFor snapshot given.component options.exclusion? paths.catalog
      let comment ← runComment snapshot given paths
      return ⟨options, components, comment, paths.output⟩) := by
  unfold prepare componentsFor
  simp only [bind_assoc]

/-- The paths of a command line, with that of its file of options. -/
theorem givenPaths_of_config {config : String} {path : Path} (hconfig : given.config? = some config)
    (hpath : inputPath snapshot config = .ok path) :
    givenPaths snapshot given = (do
      let paths ← givenPaths snapshot { given with config? := none }
      return { paths with config? := some path }) := by
  have hconfigPath : configPath snapshot given.config? = .ok (some path) := by
    rw [hconfig, configPath, hpath]
    rfl
  unfold givenPaths
  rw [hconfigPath]
  rcases given.positional with _ | ⟨catalog, _ | ⟨output, others⟩⟩
  · rfl
  · simp only [configPath, bind, Except.bind]
    cases inputPath snapshot catalog <;> rfl
  · simp only [configPath, bind, Except.bind]
    cases inputPath snapshot catalog with
    | error refusal => rfl
    | ok catalogPath =>
      cases outputPath snapshot output with
      | error refusal => rfl
      | ok outputPath => cases others <;> rfl

/-- The options in a file that holds an object. -/
theorem fileOptions_of_object {path : Path} {content : String} {fields : List (String × Json)}
    (hfile : snapshot.entry? path = some (.file content))
    (hobject : Json.ofText? content = some (.obj fields)) :
    fileOptions snapshot (some path) =
      refusing "Invalid options" (Options.ofJson (.obj fields)) := by
  have hread : readFile snapshot path = .ok content := by
    rw [readFile, hfile]
  simp only [fileOptions, hread, bind, Except.bind, hobject]

/-- What a run generates from, if its file of options holds an object. -/
theorem prepare_of_object {config : String} {path : Path} {content : String}
    {fields : List (String × Json)} (hconfig : given.config? = some config)
    (hpath : inputPath snapshot config = .ok path)
    (hfile : snapshot.entry? path = some (.file content))
    (hobject : Json.ofText? content = some (.obj fields)) :
    prepare snapshot given = (do
      let paths ← givenPaths snapshot { given with config? := none }
      let options ← refusing "Invalid options" (Options.ofJson (.obj fields))
      let options ← refusing "Invalid options" (mergedOptions options given)
      let components ← componentsFor snapshot given.component options.exclusion? paths.catalog
      let comment ← runComment snapshot given { paths with config? := some path }
      return ⟨options, components, comment, paths.output⟩) := by
  rw [prepare_eq, givenPaths_of_config hconfig hpath]
  simp only [bind_assoc, pure_bind, fileOptions_of_object hfile hobject]

/-- Two command lines prepare for the same. -/
inductive PreparedAlike (given : Given) (snapshot : Snapshot) : RunResult Job → RunResult Job → Prop
  /-- They are given up for the same reason. -/
  | refused (refusal : Refusal) : PreparedAlike given snapshot (.error refusal) (.error refusal)
  /-- They are both given up without a message. -/
  | crashed (crash other : Crash) :
      PreparedAlike given snapshot (.error (.crash crash)) (.error (.crash other))
  /-- All names and the namespace are taken as paths.  They have options that differ in lists that
  hold the same, and comments that may differ. -/
  | ready (htakes : ∀ text ∈ given.movable, snapshot.Takes text)
      (options : Options) (names others : List Json) (components : List Component)
      (comment otherComment : String) (output : Path)
      (hnames : Options.HoldSame names others)
      (hcomment : options.addComment = .bool false) :
      PreparedAlike given snapshot
        (.ok ⟨{ options with exclude := .arr names }, components, comment, output⟩)
        (.ok ⟨{ options with exclude := .arr others }, components, otherComment, output⟩)
  /-- The file system does not take a name or the namespace of the first as a path. -/
  | refusedText (text : String) (hgiven : text ∈ given.movable)
      (htakes : ¬ snapshot.Takes text) (fault : PathFault) (result : RunResult Job) :
      PreparedAlike given snapshot (.error (.crash (.path fault))) result

variable {config other : String} {fields merged : List (String × Json)}

theorem mem_shownTexts {text : String} (h : text ∈ given.movable)
    (paths : Paths) : text ∈ shownTexts given paths := by
  simp only [Given.movable, shownTexts, List.mem_append] at h ⊢
  rcases h with hexclude | hnamespace
  · exact .inl (.inl (.inl (.inr hexclude)))
  · exact .inl (.inr hnamespace)

/-- A comment that cannot be made ends the run. -/
theorem exists_fault_of_runComment {paths : Paths}
    (h : ¬ ∃ comment, runComment snapshot given paths = .ok comment) :
    ∃ fault, runComment snapshot given paths = .error (.crash (.path fault)) := by
  unfold runComment at h ⊢
  cases hecho : echo snapshot.holds (parameterValues given paths) parameters with
  | ok shown =>
    rw [hecho] at h
    exact absurd ⟨_, rfl⟩ h
  | error fault => exact ⟨fault, rfl⟩

/-- If names and namespace can be looked for, the comment can be made of both command lines or of
none. -/
theorem exists_runComment_fromFile_iff (other : String) (paths : Paths) {path otherPath : Path}
    (hpath : snapshot.Takes (pathText path)) (hother : snapshot.Takes (pathText otherPath))
    (hgiven : ∀ text ∈ given.movable, snapshot.Takes text) :
    (∃ comment, runComment snapshot given { paths with config? := some path } = .ok comment) ↔
      ∃ comment, runComment snapshot (given.fromFile other)
        { paths with config? := some otherPath } = .ok comment := by
  obtain ⟨hexclude, hnamespace⟩ := List.forall_mem_append.1 hgiven
  rw [exists_runComment_iff, exists_runComment_iff]
  simp only [shownTexts, Given.fromFile, Option.map_some, Option.toList_some, Option.toList_none,
    List.append_nil, List.forall_mem_append, List.forall_mem_singleton]
  constructor
  · rintro ⟨⟨⟨-, hcomponent⟩, -⟩, hpaths⟩
    exact ⟨⟨hother, hcomponent⟩, hpaths⟩
  · rintro ⟨⟨-, hcomponent⟩, hpaths⟩
    exact ⟨⟨⟨⟨hpath, hexclude⟩, hcomponent⟩, hnamespace⟩, hpaths⟩

/-- The same options and components come of both command lines, unless both or the first cannot be
shown. -/
theorem preparedAlike_of_comments {paths : Paths} {path otherPath : Path}
    (hpath : snapshot.Takes (pathText path)) (hother : snapshot.Takes (pathText otherPath))
    {options : Options} {names others : List Json}
    (hnames : Options.HoldSame names others)
    (hcomment : options.addComment = .bool false) (components : List Component) :
    PreparedAlike given snapshot
      (runComment snapshot given { paths with config? := some path } >>= fun comment =>
        .ok ⟨{ options with exclude := .arr names }, components, comment, paths.output⟩)
      (runComment snapshot (given.fromFile other) { paths with config? := some otherPath } >>=
        fun comment =>
          .ok ⟨{ options with exclude := .arr others }, components, comment, paths.output⟩) := by
  by_cases hgiven : ∀ text ∈ given.movable, snapshot.Takes text
  · have hiff := exists_runComment_fromFile_iff other paths hpath hother hgiven
    by_cases hmade : ∃ comment, runComment snapshot given { paths with config? := some path } =
        .ok comment
    · obtain ⟨otherComment, hotherComment⟩ := hiff.1 hmade
      obtain ⟨comment, hmade⟩ := hmade
      rw [hmade, hotherComment]
      exact .ready hgiven options names others components comment otherComment paths.output hnames
        hcomment
    · obtain ⟨fault, hfault⟩ := exists_fault_of_runComment hmade
      obtain ⟨otherFault, hotherFault⟩ := exists_fault_of_runComment (mt hiff.2 hmade)
      rw [hfault, hotherFault]
      exact .crashed _ _
  · have hmade : ¬ ∃ comment, runComment snapshot given { paths with config? := some path } =
        .ok comment := by
      rw [exists_runComment_iff]
      intro h
      exact hgiven fun text htext => h text (mem_shownTexts htext _)
    obtain ⟨fault, hfault⟩ := exists_fault_of_runComment hmade
    push Not at hgiven
    obtain ⟨text, htext, htakes⟩ := hgiven
    rw [hfault]
    exact .refusedText text htext htakes fault _

theorem IsMerged.mem_iff (h : IsMerged given fields merged) {key : String}
    (hexclude : key ≠ "exclude") (hnamespace : key ≠ "csharp_namespace") :
    key ∈ merged.map Prod.fst ↔ key ∈ fields.map Prod.fst := by
  rw [← not_iff_not, ← Json.lookup_eq_none_iff, ← Json.lookup_eq_none_iff,
    h.others key hexclude hnamespace]

/-- An object with the names and the namespace of a command line is read as options just when the
other object is. -/
theorem IsMerged.ofJson_cases (h : IsMerged given fields merged)
    (htable : "__dict__" ∉ fields.map Prod.fst) :
    (Options.ofJson (.obj fields) = .ok (Options.standard.setAll fields) ∧
      Options.ofJson (.obj merged) = .ok (Options.standard.setAll merged)) ∨
    ∃ fault otherFault, Options.ofJson (.obj fields) = .error (.malformed fault) ∧
      Options.ofJson (.obj merged) = .error (.malformed otherFault) := by
  have hotherTable : "__dict__" ∉ merged.map Prod.fst := by
    rwa [h.mem_iff (by decide) (by decide)]
  have hforbidden : (∀ key ∈ Options.forbidden, key ∉ merged.map Prod.fst) ↔
      ∀ key ∈ Options.forbidden, key ∉ fields.map Prod.fst := by
    refine forall₂_congr fun key hkey => not_congr (h.mem_iff ?_ ?_)
    · rintro rfl
      exact absurd hkey (by decide)
    · rintro rfl
      exact absurd hkey (by decide)
  by_cases hkeys : ∀ key ∈ Options.forbidden, key ∉ fields.map Prod.fst
  · exact .inl ⟨(Options.assignAll_eq_ok_iff htable).2 ⟨hkeys, rfl⟩,
      (Options.assignAll_eq_ok_iff hotherTable).2 ⟨hforbidden.2 hkeys, rfl⟩⟩
  · right
    rcases Options.assignAll_cases .standard fields with ⟨result, hresult⟩ | ⟨fault, hfault⟩
    · exact absurd ((Options.assignAll_eq_ok_iff htable).1 hresult).1 hkeys
    · rcases Options.assignAll_cases .standard merged with ⟨result, hresult⟩ | ⟨other, hother⟩
      · exact absurd (hforbidden.1 ((Options.assignAll_eq_ok_iff hotherTable).1 hresult).1) hkeys
      · exact ⟨fault, other, hfault, hother⟩

/-- A command line and one that leaves names and namespace to a file prepare for the same, or the
first cannot be shown. -/
theorem preparedAlike_fromFile (h : MovedToFile snapshot given config fields other merged) :
    PreparedAlike given snapshot (prepare snapshot given)
      (prepare snapshot (given.fromFile other)) := by
  obtain ⟨hconfig, ⟨path, content, hpath, hentry, hobject, htakes⟩,
    ⟨otherPath, otherContent, hotherPath, hotherEntry, hotherObject, hotherTakes⟩,
    htable, hcomment, hmerged⟩ := h
  have hkeys : (fields.map Prod.fst).Nodup := Json.keysDiffer_of_ofText? hobject fields rfl
  have hotherKeys : (merged.map Prod.fst).Nodup :=
    Json.keysDiffer_of_ofText? hotherObject merged rfl
  rw [prepare_of_object hconfig hpath hentry hobject,
    prepare_of_object (show (given.fromFile other).config? = some other from rfl) hotherPath
      hotherEntry hotherObject]
  rw [show givenPaths snapshot { given.fromFile other with config? := none } =
    givenPaths snapshot { given with config? := none } from rfl]
  cases givenPaths snapshot { given with config? := none } with
  | error refusal => exact .refused refusal
  | ok paths =>
    rcases hmerged.ofJson_cases htable with
      ⟨hread, hotherRead⟩ | ⟨fault, otherFault, hread, hotherRead⟩
    · obtain ⟨options, names, others, hfirst, hsecond, hnames, hadd⟩ :=
        hmerged.exists_options hkeys hotherKeys other
      rw [hcomment] at hadd
      simp only [bind, Except.bind, hread, hotherRead, refusing, hfirst, hsecond,
        Options.exclusion?_of_holdSame options hnames]
      rw [show (given.fromFile other).component = given.component from rfl]
      cases componentsFor snapshot given.component
          (Options.exclusion? { options with exclude := .arr others }) paths.catalog with
      | error refusal => exact .refused refusal
      | ok components =>
        exact preparedAlike_of_comments htakes hotherTakes hnames hadd components
    · rw [hread, hotherRead]
      exact .crashed _ _

/-- The outcome of a run that has prepared so. -/
def outcomeOf (snapshot : Snapshot) (verbose : Bool) : RunResult Job → Outcome
  | .error refusal => givenUp verbose [] refusal
  | .ok job => job.outcome snapshot verbose

/-- The outcome of a run whose words are read. -/
theorem run_of_readWords {words : List String} (h : readWords .nothing words = some given) :
    run snapshot words = if given.help then ⟨false, [], none, none⟩
      else outcomeOf snapshot given.verbose (prepare snapshot given) := by
  rw [run, h]
  dsimp only
  split
  · rfl
  · cases prepare snapshot given <;> rfl

/-- Jobs whose options hold the same, and want no comment, have the same outcome. -/
theorem outcome_of_holdSame (snapshot : Snapshot) (options : Options) {names others : List Json}
    (hnames : Options.HoldSame names others)
    (hcomment : options.addComment = .bool false) (components : List Component)
    (comment other : String) (output : Path) (verbose : Bool) :
    Job.outcome ⟨{ options with exclude := .arr names }, components, comment, output⟩ snapshot
        verbose =
      Job.outcome ⟨{ options with exclude := .arr others }, components, other, output⟩ snapshot
        verbose := by
  have hfalse : options.addComment.isTruthy = false := by
    rw [hcomment]
    rfl
  have htext := (Options.alike_of_holdSame options hnames).text_eq rfl rfl hfalse hfalse comment
    other components
  unfold Job.outcome
  rw [htext]

/-- Runs that prepare for the same end in the same way, if all names and the namespace are taken as
paths. -/
theorem PreparedAlike.agrees {first second : RunResult Job}
    (h : PreparedAlike given snapshot first second)
    (htakes : ∀ text ∈ given.movable, snapshot.Takes text) :
    (outcomeOf snapshot given.verbose first).Agrees (outcomeOf snapshot given.verbose second) := by
  cases h with
  | refused refusal => exact .refl _
  | crashed crash other => exact ⟨rfl, rfl, rfl⟩
  | ready _ options names others components comment otherComment output hnames hcomment =>
    rw [outcomeOf, outcomeOf, outcome_of_holdSame snapshot options hnames hcomment components
      comment otherComment output given.verbose]
    exact .refl _
  | refusedText text hgiven hno => exact absurd (htakes text hgiven) hno

/-- A run is given up, if a name or the namespace is not taken as a path; it crashes, or the other
is given up in the same way. -/
theorem PreparedAlike.givenUp_of_not_takes {first second : RunResult Job}
    (h : PreparedAlike given snapshot first second) {text : String}
    (hgiven : text ∈ given.movable)
    (htakes : ¬ snapshot.Takes text) :
    ∃ refusal, outcomeOf snapshot given.verbose first = givenUp given.verbose [] refusal ∧
      ((∃ fault, refusal = .crash (.path fault)) ∨
        (outcomeOf snapshot given.verbose first).Agrees
          (outcomeOf snapshot given.verbose second)) := by
  cases h with
  | refused refusal => exact ⟨refusal, rfl, .inr (.refl _)⟩
  | crashed crash other => exact ⟨.crash crash, rfl, .inr ⟨rfl, rfl, rfl⟩⟩
  | ready hall => exact absurd (hall text hgiven) htakes
  | refusedText _ _ _ fault => exact ⟨.crash (.path fault), rfl, .inl ⟨fault, rfl⟩⟩

/-- **Options on the command line do the same as options in a file.**  Let a run be given names to
leave out and a namespace over a file of options that wants no comment, and another run the same
command line without them, over a file of the same options in which they stand: the names after
those of the first file, in any order and as often as may be.  If the file system takes the names
and the namespace as paths, both runs end in the same way: with the same exit code, the same
messages and the same file.  If it does not, the first run is given up: it crashes, if the other run
does not end in the same way. -/
theorem run_fromFile {words others : List String}
    (hwords : readWords .nothing words = some given)
    (hothers : readWords .nothing others = some (given.fromFile other))
    (hmoved : MovedToFile snapshot given config fields other merged) :
    ((∀ text ∈ given.movable, snapshot.Takes text) →
      (run snapshot words).Agrees (run snapshot others)) ∧
    (given.help = false →
      (∃ text ∈ given.movable, ¬ snapshot.Takes text) →
      ∃ refusal, run snapshot words = givenUp given.verbose [] refusal ∧
        ((∃ fault, refusal = .crash (.path fault)) ∨
          (run snapshot words).Agrees (run snapshot others))) := by
  have halike := preparedAlike_fromFile hmoved
  rw [run_of_readWords hwords, run_of_readWords hothers,
    show (given.fromFile other).help = given.help from rfl]
  cases given.help with
  | true => exact ⟨fun _ => ⟨rfl, rfl, rfl⟩, nofun⟩
  | false =>
    exact ⟨fun htakes => halike.agrees htakes,
      fun _ ⟨_, hgiven, hno⟩ => halike.givenUp_of_not_takes hgiven hno⟩

end Runs

/-! ### A name in two files -/

/-- The fields of options without a comment. -/
def optionFields (names : List String) (namespaceName : String) : List (String × Json) :=
  [("add_generation_comment", .bool false), ("exclude", .arr (names.map .str)),
    ("csharp_namespace", .str namespaceName)]

/-- The value is an object with such fields. -/
def isOptionFields (names : List String) (namespaceName : String) : Json → Bool
  | .obj [(flag, .bool false), (list, .arr values), (key, .str text)] =>
      flag == "add_generation_comment" && list == "exclude" && key == "csharp_namespace" &&
        text == namespaceName && Json.sameElements values (names.map .str)
  | _ => false

theorem eq_map_str_of_sameElements {values : List Json} {names : List String}
    (h : Json.sameElements values (names.map .str) = true) : values = names.map .str := by
  induction values generalizing names with
  | nil =>
    cases names with
    | nil => rfl
    | cons name rest => cases h
  | cons value others ih =>
    cases names with
    | nil => cases h
    | cons name rest =>
      rw [List.map_cons, Json.sameElements, Bool.and_eq_true] at h
      rw [List.map_cons, same_str_iff.1 h.1, ih h.2]

theorem eq_of_isOptionFields {names : List String} {namespaceName : String} {value : Json}
    (h : isOptionFields names namespaceName value = true) :
    value = .obj (optionFields names namespaceName) := by
  unfold isOptionFields at h
  split at h
  · simp only [Bool.and_eq_true, beq_iff_eq] at h
    obtain ⟨⟨⟨⟨rfl, rfl⟩, rfl⟩, rfl⟩, hvalues⟩ := h
    rw [eq_map_str_of_sameElements hvalues]
    rfl
  · cases h

theorem ofText?_of_isOptionFields {content : String} {chars : List Char} {names : List String}
    {namespaceName : String} (hchars : content.toList = chars)
    (h : (Json.tokens? chars >>= Json.ofTokens?).any (isOptionFields names namespaceName) = true) :
    Json.ofText? content = some (.obj (optionFields names namespaceName)) := by
  obtain ⟨value, hvalue, hfields⟩ := (Option.any_eq_true _ _).1 h
  rw [Json.ofText?, hchars, ← eq_of_isOptionFields hfields]
  exact hvalue

/-- A text leads to a file with this content, and the file system takes its path. -/
def leadsTo (snapshot : Snapshot) (text : String) (path : Path) (content : String) : Bool :=
  match inputPath snapshot text with
  | .ok found => found == path && snapshot.entry? path == some (.file content) &&
      (snapshot.holds (pathText path)).isOk
  | .error _ => false

theorem leadsTo_iff {snapshot : Snapshot} {text content : String} {path : Path}
    (h : leadsTo snapshot text path content = true) :
    inputPath snapshot text = .ok path ∧ snapshot.entry? path = some (.file content) ∧
      snapshot.Takes (pathText path) := by
  unfold leadsTo at h
  split at h
  · next found hfound =>
    rw [Bool.and_eq_true, Bool.and_eq_true, beq_iff_eq, beq_iff_eq] at h
    obtain ⟨⟨rfl, hentry⟩, htakes⟩ := h
    exact ⟨hfound, hentry, Snapshot.takes_of_isOk htakes⟩
  · cases h

/-- The text of options without a comment. -/
def optionsText (names namespaceName : String) : String :=
  "\x7b\"add_generation_comment\": false, \"exclude\": [" ++ names ++
    "], \"csharp_namespace\": \"" ++ namespaceName ++ "\"\x7d"

/-- The characters of such a text. -/
def optionsChars (names namespaceName : List Char) : List Char :=
  "\x7b\"add_generation_comment\": false, \"exclude\": [".toList ++ names ++
    "], \"csharp_namespace\": \"".toList ++ namespaceName ++ "\"\x7d".toList

theorem toList_optionsText (names namespaceName : String) :
    (optionsText names namespaceName).toList =
      optionsChars names.toList namespaceName.toList := by
  unfold optionsText optionsChars
  rw [String.toList_append, String.toList_append, String.toList_append, String.toList_append]

/-- Options that leave out `old`. -/
def firstText : String := optionsText "\"old\"" ""

/-- Options that leave out `old` and another name and have a namespace. -/
def mergedText (name : String) : String :=
  optionsText ("\"old\", \"" ++ name ++ "\", \"old\"") "Learners"

/-- A directory with a catalog of one component, and both files of options. -/
def optionsSnapshot (name : String) : Snapshot :=
  .ofFiles ["work"] [("catalog.json", "[\x7b\"name\": \"pca\"\x7d]"),
    ("options.json", firstText), ("merged.json", mergedText name)]

/-- The words of a run with a name to leave out and a namespace. -/
def wordsWith (name : String) : List String :=
  ["-c", "options.json", "-x", "old", "-x", name, "-n", "Learners", "catalog.json", "Pca.cs"]

/-- The words of a run that leaves them to a file. -/
def wordsWithout : List String := ["-c", "merged.json", "catalog.json", "Pca.cs"]

/-- What the words of a run with a name and a namespace give. -/
def givenWith (name : String) : Given :=
  ⟨some "options.json", ["old", name], [], some "Learners", false, false,
    ["catalog.json", "Pca.cs"]⟩

theorem isMerged_givenWith (name : String) :
    IsMerged (givenWith name) (optionFields ["old"] "")
      (optionFields ["old", name, "old"] "Learners") where
  exclude := ⟨[.str "old"], [name, "old"], by simp [optionFields, Json.lookup],
    by simp [optionFields, Json.lookup], by simp [givenWith, or_comm]⟩
  namespaceName := by simp [optionFields, Json.lookup, givenWith]
  others := fun key hexclude hnamespace => by
    simp [optionFields, Json.lookup, Ne.symm hexclude, Ne.symm hnamespace]

theorem movedToFile_givenWith {name : String}
    (hfirst : leadsTo (optionsSnapshot name) "options.json" ["work", "options.json"] firstText =
      true)
    (hmerged : leadsTo (optionsSnapshot name) "merged.json" ["work", "merged.json"]
      (mergedText name) = true)
    (hobject : Json.ofText? (mergedText name) =
      some (.obj (optionFields ["old", name, "old"] "Learners"))) :
    MovedToFile (optionsSnapshot name) (givenWith name) "options.json" (optionFields ["old"] "")
      "merged.json" (optionFields ["old", name, "old"] "Learners") where
  config_eq := rfl
  file := by
    obtain ⟨hpath, hentry, htakes⟩ := leadsTo_iff hfirst
    exact ⟨_, _, hpath, hentry, ofText?_of_isOptionFields rfl (by decide +kernel), htakes⟩
  otherFile := by
    obtain ⟨hpath, hentry, htakes⟩ := leadsTo_iff hmerged
    exact ⟨_, _, hpath, hentry, hobject, htakes⟩
  noTable := by simp [optionFields]
  noComment := by simp [optionFields, Json.lookup]
  isMerged := isMerged_givenWith name

/-- A run with a name to leave out and a namespace ends as one that leaves them to a file. -/
theorem run_fromFile_of_seed :
    readWords .nothing (wordsWith "seed") = some (givenWith "seed") ∧
    readWords .nothing wordsWithout = some ((givenWith "seed").fromFile "merged.json") ∧
    MovedToFile (optionsSnapshot "seed") (givenWith "seed") "options.json" (optionFields ["old"] "")
      "merged.json" (optionFields ["old", "seed", "old"] "Learners") ∧
    (∀ text ∈ ["old", "seed", "Learners"], (optionsSnapshot "seed").Takes text) ∧
    (run (optionsSnapshot "seed") (wordsWith "seed")).exitCode = 0 ∧
    (run (optionsSnapshot "seed") (wordsWith "seed")).Agrees
      (run (optionsSnapshot "seed") wordsWithout) := by
  have hwords : readWords .nothing (wordsWith "seed") = some (givenWith "seed") := rfl
  have hothers : readWords .nothing wordsWithout =
      some ((givenWith "seed").fromFile "merged.json") := rfl
  have hmoved : MovedToFile (optionsSnapshot "seed") (givenWith "seed") "options.json"
      (optionFields ["old"] "") "merged.json" (optionFields ["old", "seed", "old"] "Learners") :=
    movedToFile_givenWith (by decide +kernel) (by decide +kernel)
      (ofText?_of_isOptionFields rfl (by decide +kernel))
  have hfound : ∀ text ∈ ["old", "seed", "Learners"],
      ((optionsSnapshot "seed").holds text).isOk = true := by decide +kernel
  have htakes : ∀ text ∈ ["old", "seed", "Learners"], (optionsSnapshot "seed").Takes text :=
    fun text htext => Snapshot.takes_of_isOk (hfound text htext)
  exact ⟨hwords, hothers, hmoved, htakes, by decide +kernel,
    (run_fromFile hwords hothers hmoved).1 htakes⟩

/-- A name of 256 bytes, one more than there are for a file. -/
def longName : String := String.ofList (List.replicate 256 'a')

theorem toList_longName : longName.toList = List.replicate 256 'a' := String.toList_ofList

theorem isLongName_longName : isLongName longName = true := by decide +kernel

theorem not_takes_longName (snapshot : Snapshot) : ¬ snapshot.Takes longName := by
  have hplain : ∀ c, c ≠ 'a' → c ∉ longName.toList := fun c hc hmem =>
    hc (List.eq_of_mem_replicate (toList_longName ▸ hmem))
  exact Snapshot.not_takes_of_isLongName (hplain _ (by decide)) (hplain _ (by decide))
    isLongName_longName

theorem ofText?_mergedText_longName : Json.ofText? (mergedText longName) =
    some (.obj (optionFields ["old", longName, "old"] "Learners")) := by
  have hchars : (mergedText longName).toList = optionsChars
      ("\"old\", \"".toList ++ List.replicate 256 'a' ++ "\", \"old\"".toList)
      "Learners".toList := by
    rw [mergedText, toList_optionsText, String.toList_append, String.toList_append,
      toList_longName]
  exact ofText?_of_isOptionFields hchars (by decide +kernel)

/-- With a name that is too long for a file, the run that is given it fails, and the one that leaves
it to a file does not. -/
theorem run_fromFile_of_longName :
    readWords .nothing (wordsWith longName) = some (givenWith longName) ∧
    readWords .nothing wordsWithout = some ((givenWith longName).fromFile "merged.json") ∧
    MovedToFile (optionsSnapshot longName) (givenWith longName) "options.json"
      (optionFields ["old"] "") "merged.json" (optionFields ["old", longName, "old"] "Learners") ∧
    (run (optionsSnapshot longName) (wordsWith longName)).exitCode ≠ 0 ∧
    (run (optionsSnapshot longName) wordsWithout).exitCode = 0 ∧
    ¬ (run (optionsSnapshot longName) (wordsWith longName)).Agrees
      (run (optionsSnapshot longName) wordsWithout) := by
  have hwords : readWords .nothing (wordsWith longName) = some (givenWith longName) := rfl
  have hothers : readWords .nothing wordsWithout =
      some ((givenWith longName).fromFile "merged.json") := rfl
  have hfirst : leadsTo (optionsSnapshot longName) "options.json" ["work", "options.json"]
      firstText = true := by decide +kernel
  have hsecond : leadsTo (optionsSnapshot longName) "merged.json" ["work", "merged.json"]
      (mergedText longName) = true := by decide +kernel
  have hmoved := movedToFile_givenWith hfirst hsecond ofText?_mergedText_longName
  have hfails : (run (optionsSnapshot longName) (wordsWith longName)).exitCode ≠ 0 := by
    obtain ⟨refusal, hrun, -⟩ := (preparedAlike_fromFile hmoved).givenUp_of_not_takes
      (List.mem_append_left _ (List.mem_cons_of_mem _ List.mem_cons_self)) (not_takes_longName _)
    rw [run_of_readWords hwords]
    exact hrun ▸ exitCode_givenUp _ _ refusal
  have hsucceeds : (run (optionsSnapshot longName) wordsWithout).exitCode = 0 := by
    obtain ⟨hpath, hentry, -⟩ := leadsTo_iff hsecond
    rw [run_of_readWords hothers, prepare_of_object rfl hpath hentry ofText?_mergedText_longName]
    decide +kernel
  exact ⟨hwords, hothers, hmoved, hfails, hsucceeds, fun h => hfails (h.exitCode.trans hsucceeds)⟩

end CommandLine

end CatalogClasses
