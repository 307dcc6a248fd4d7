/-
# Fields and properties have different names

The property of a member has the name of its field with the first letter as a capital.  A member
is generated only if this changes its name, and doing it once more changes nothing: the capital
form of a character begins with a character that is its own capital form, however many characters
long it is.  So no property has the name of a field, neither that of its own member nor that of
another one, whatever suffixes the groups around the two add.

Main definitions:

* `Text.codesWithCapital` : the code points of the characters with another capital form;
* `Text.capitalStarts` : the code points that these capital forms begin with;
* `Component.propertyNames` : the names of the properties of a class.
-/
import CatalogClasses.Proofs.Names
import CatalogClasses.Proofs.PropertyNames

namespace CatalogClasses

namespace Text

/-! ## Sets of code points -/

/-- A set of code points as a number: the bits at the code points are set. -/
def codeSet (codes : List Nat) : Nat := codes.foldr (fun code bits => 1 <<< code ||| bits) 0

theorem testBit_codeSet {codes : List Nat} {code : Nat} :
    (codeSet codes).testBit code = true ↔ code ∈ codes := by
  induction codes with
  | nil => simp [codeSet]
  | cons first rest ih =>
    show (1 <<< first ||| codeSet rest).testBit code = true ↔ _
    rw [Nat.testBit_or, Nat.one_shiftLeft, Nat.testBit_two_pow, Bool.or_eq_true,
      decide_eq_true_eq, ih, List.mem_cons, eq_comm]

/-- Sets without a common bit have no common code point. -/
theorem not_mem_of_codeSet {first second : List Nat} (h : codeSet first &&& codeSet second = 0)
    {code : Nat} (hcode : code ∈ first) : code ∉ second := by
  intro hsecond
  have hbit : (codeSet first &&& codeSet second).testBit code = true := by
    rw [Nat.testBit_and, testBit_codeSet.2 hcode, testBit_codeSet.2 hsecond]
    rfl
  rw [h, Nat.zero_testBit] at hbit
  cases hbit

/-! ## Capital forms -/

/-- The code points of the characters with another capital form. -/
def codesWithCapital : List Nat := upperRuns.flatMap CaseRun.codes ++ upperSequences.map Prod.fst

/-- The code points that the capital forms of these characters begin with. -/
def capitalStarts : List Nat :=
  upperRuns.flatMap (fun run => run.codes.map run.move) ++ upperSequences.filterMap (·.2.head?)

/-- No capital form begins with a character that has another capital form. -/
theorem capitalStarts_apart : codeSet capitalStarts &&& codeSet codesWithCapital = 0 := by
  decide +kernel

theorem isValidChar_of_mem_capitalStarts {code : Nat} (h : code ∈ capitalStarts) :
    code.isValidChar := by
  have hall : ∀ code ∈ capitalStarts, code.isValidChar := by decide +kernel
  exact hall code h

theorem upper_of_not_mem {c : Char} (h : c.toNat ∉ codesWithCapital) : upper c = [c] := by
  obtain ⟨hruns, hsequences⟩ := not_or.1 (mt List.mem_append.2 h)
  rcases caseForm_cases upperRuns upperSequences c with
    ⟨codes, hmem, -⟩ | ⟨-, ⟨run, hrun, hholds, -⟩ | ⟨-, hform⟩⟩
  · exact absurd (List.mem_map_of_mem hmem) hsequences
  · exact absurd (List.mem_flatMap.2 ⟨run, hrun, CaseRun.mem_codes_of_holds hholds⟩) hruns
  · exact hform

/-- Another capital form begins with a character of the list. -/
theorem upper_eq_or_start (c : Char) :
    upper c = [c] ∨ ∃ code ∈ capitalStarts, ∃ rest, upper c = Char.ofNat code :: rest := by
  rcases caseForm_cases upperRuns upperSequences c with
    ⟨codes, hmem, hform⟩ | ⟨-, ⟨run, hrun, hholds, hform⟩ | ⟨-, hform⟩⟩
  · have hform : upper c = codes.map Char.ofNat := hform
    cases codes with
    | nil => exact absurd hform (upper_ne_nil c)
    | cons code rest =>
      refine .inr ⟨code, List.mem_append_right _ ?_, rest.map Char.ofNat, hform⟩
      exact List.mem_filterMap.2 ⟨_, hmem, rfl⟩
  · refine .inr ⟨run.move c.toNat, List.mem_append_left _ ?_, [], hform⟩
    refine List.mem_flatMap.2 ⟨run, hrun, List.mem_map_of_mem ?_⟩
    exact CaseRun.mem_codes_of_holds hholds
  · exact .inl hform

/-- **A capital form begins with a character that is its own capital form.** -/
theorem upper_head {c d : Char} {rest : List Char} (h : upper c = d :: rest) : upper d = [d] := by
  rcases upper_eq_or_start c with hself | ⟨code, hcode, more, hstart⟩
  · rw [hself] at h
    obtain rfl := (List.cons.inj h).1
    exact hself
  · rw [hstart] at h
    obtain rfl := (List.cons.inj h).1
    have htoNat : (Char.ofNat code).toNat = code :=
      congrArg Char.toNat (dif_pos (isValidChar_of_mem_capitalStarts hcode))
    apply upper_of_not_mem
    rw [htoNat]
    exact not_mem_of_codeSet capitalStarts_apart hcode

/-- A name in capitalized form is not changed by capitalizing it. -/
theorem capitalize_capitalize (name : List Char) :
    capitalize (capitalize name) = capitalize name := by
  cases name with
  | nil => rfl
  | cons c rest =>
    obtain ⟨d, more, hform⟩ := List.exists_cons_of_ne_nil (upper_ne_nil c)
    rw [capitalize, hform, List.cons_append, capitalize, upper_head hform, List.singleton_append]

end Text

/-! ## Names of members -/

theorem capitalized_capitalized (name : String) :
    capitalized (capitalized name) = capitalized name := by
  rw [capitalized, capitalized, String.toList_ofList, Text.capitalize_capitalize]

/-- The name of a member that has a shape is changed by capitalizing it, with any suffix. -/
theorem Argument.capitalized_ne_of_classify {declaration : Declaration} {shape : Shape}
    (h : (member declaration).classify = .ok shape) (suffix : String) :
    capitalized (declaration.longName.text ++ suffix) ≠ declaration.longName.text ++ suffix := by
  obtain ⟨c, rest, hname, hupper⟩ := exists_letter_of_isCapitalized (classify_member h).2
  rw [hname]
  intro hsame
  have hchars := congrArg String.toList hsame
  rw [capitalized, String.toList_ofList, String.toList_append, Json.text, String.toList_ofList,
    List.cons_append, Text.capitalize] at hchars
  exact hupper (List.append_cancel_right (hchars.trans (List.singleton_append ..).symm))

namespace Site

/-- The name of the property of a member. -/
def propertyName (site : Site) : String := capitalized site.fieldName

/-- A member that is generated has a field name that is changed by capitalizing it. -/
theorem capitalized_fieldName_ne {options : Options} {site : Site} {resolved : Resolved}
    (h : site.resolve options = .ok resolved) (hmember : site.isGroup = false) :
    capitalized site.fieldName ≠ site.fieldName := by
  obtain ⟨groups, argument⟩ := site
  cases argument with
  | member declaration =>
    obtain ⟨shape, typeName, longName, initializer, hshape, -⟩ := Argument.resolve_eq_ok_iff.1 h
    exact Argument.capitalized_ne_of_classify hshape _
  | group declaration arguments => cases hmember

end Site

/-- The names of the public properties: one for each surviving member. -/
def Component.propertyNames (component : Component) (options : Options) : List String :=
  (options.memberSites [] component.arguments).map Site.propertyName

/-! ## The content of a class -/

/-- **No property has the name of a field.**  In the generated content of a component the names
of all properties are in capitalized form and those of all fields are not, so that none of the
former is among the latter, whether they belong to one member or to two. -/
theorem Factory.property_ne_field {factory : Factory} {options : Options} {component : Component}
    {signature? : Option String} {text : String}
    (h : (factory.content options component signature?).result = .ok text) :
    text = Layout.join (factory.blocks options component signature?) ∧
    (∀ property ∈ component.propertyNames options, capitalized property = property) ∧
    (∀ field ∈ component.fieldNames options, capitalized field ≠ field) ∧
    ∀ property ∈ component.propertyNames options, ∀ field ∈ component.fieldNames options,
      property ≠ field := by
  obtain ⟨lines, hlines, rfl⟩ := content_eq_ok_iff.1 h
  obtain ⟨hresolved, hblocks⟩ := contentLines_eq_blocks hlines
  have hproperties : ∀ property ∈ component.propertyNames options,
      capitalized property = property := by
    intro property hproperty
    obtain ⟨site, -, rfl⟩ := List.mem_map.1 hproperty
    exact capitalized_capitalized site.fieldName
  have hfields : ∀ field ∈ component.fieldNames options, capitalized field ≠ field := by
    intro field hfield
    obtain ⟨site, hsite, rfl⟩ := List.mem_map.1 hfield
    obtain ⟨hsurvives, hmember⟩ := List.mem_filter.1 hsite
    obtain ⟨resolved, hresolve⟩ := hresolved site hsurvives
    exact Site.capitalized_fieldName_ne hresolve (by simpa using hmember)
  refine ⟨congrArg Layout.join hblocks, hproperties, hfields, ?_⟩
  rintro property hproperty field hfield rfl
  exact hfields property hfield (hproperties property hproperty)

/-- A component whose members are called by letters with long capital forms, and by these forms
in part: the property of `ßa` is `SSa`, and there is a group that adds a suffix. -/
def Component.longCapitals : Component where
  name := .str "pca_trainer"
  kind := .str "trainer"
  argumentsType := .str "Options"
  implementationType := .str "PcaTrainer"
  arguments :=
    [.count "\u00dfa", .count "sSa",
      .group (.ofType "sub" (.named .object "Sub")) [.count "\ufb03", .count "\u0149ame"]]
  summary := .null

/-- Its content is generated, and no property has the name of a field, though one of them has the
name `SSa` and one field the name `sSa`. -/
theorem Component.property_ne_field_of_longCapitals :
    (Factory.trainer.content .standard .longCapitals none).result.isOk = true ∧
      Component.longCapitals.propertyNames .standard =
        ["SSa", "SSa", "FFI_sub", "\u02bcName_sub"] ∧
      ∀ property ∈ Component.longCapitals.propertyNames .standard,
        ∀ field ∈ Component.longCapitals.fieldNames .standard, property ≠ field := by
  have hok : (Factory.trainer.content .standard .longCapitals none).result.isOk = true := by
    decide +kernel
  obtain ⟨text, h⟩ := exists_of_isOk hok
  exact ⟨hok, by decide +kernel, (Factory.property_ne_field h).2.2.2⟩

end CatalogClasses
