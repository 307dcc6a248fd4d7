/-
# Exclusion while reading and while generating

Excluded arguments can be left out at two moments: while a catalog is read, entry by
entry, and while the text is generated, argument by argument.  The main statement says
that both leave out the same arguments at every depth, so that it makes no difference for
the text at which moment it is done.
-/
import CatalogClasses.Catalog.Entry
import CatalogClasses.Proofs.Blocks
import CatalogClasses.Proofs.Pruning

namespace CatalogClasses

/-! ## Tests that always answer -/

/-- The test that answers for each name as told. -/
def Exclusion.of (leftOut : Json → Bool) : Exclusion := some fun name => .ok (leftOut name)

/-- The entry has a name, and the name is one to leave out. -/
def Json.isLeftOut (leftOut : Json → Bool) (fields : List (String × Json)) : Bool :=
  (Json.fieldOrNull "name" fields).isTruthy && leftOut (Json.fieldOrNull "name" fields)

theorem isPassedOver_of (leftOut : Json → Bool) (fields : List (String × Json)) :
    isPassedOver (Exclusion.of leftOut) fields = .ok (Json.isLeftOut leftOut fields) := by
  show (if (Json.fieldOrNull "name" fields).isTruthy then
    .ok (leftOut (Json.fieldOrNull "name" fields)) else .ok false : Fallible Bool) = _
  unfold Json.isLeftOut
  cases (Json.fieldOrNull "name" fields).isTruthy with
  | true => rfl
  | false => rfl

/-! ## Reading with and without a test -/

/-- The declaration of an entry has the name of the entry. -/
theorem Declaration.longName_of_ofFields {name : Json} {fields : List (String × Json)}
    {isGroup : Bool} {declaration : Declaration}
    (h : Declaration.ofFields name fields isGroup = .ok declaration) :
    declaration.longName = name := by
  unfold ofFields at h
  obtain ⟨fieldType, -, h⟩ := bind_eq_ok_iff.1 h
  obtain ⟨itemType, -, h⟩ := bind_eq_ok_iff.1 h
  rw [← Except.ok.inj h]

/-- What stands in the place of a list of entries gives no arguments. -/
theorem eq_nil_of_noEntries {α : Type} {value : Json} {values : List α}
    (h : noEntries value = .ok values) : values = [] := by
  unfold noEntries at h
  split at h
  · split at h
    · exact (Except.ok.inj h).symm
    · cases h
  · split at h
    · exact (Except.ok.inj h).symm
    · cases h
  · cases h

namespace Argument

variable {leftOut : Json → Bool}

/-- An entry that is read without a test is a member or a group with the entry's name; a
test makes a difference for what is inside the group alone. -/
theorem ofJson_cases {fields : List (String × Json)} {argument : Argument}
    (h : Argument.ofJson none (.obj fields) = .ok argument) :
    (Json.fieldOrNull "name" fields).isTruthy = true ∧
      argument.longName = Json.fieldOrNull "name" fields ∧
      ((∃ declaration, argument = .member declaration ∧
          ∀ exclusion, Argument.ofJson exclusion (.obj fields) = .ok (.member declaration)) ∨
        ∃ entries declaration arguments, argument = .group declaration arguments ∧
          Json.lookup "arguments" fields = some entries ∧
          Argument.ofList none entries = .ok arguments ∧
          ∀ exclusion arguments, Argument.ofList exclusion entries = .ok arguments →
            Argument.ofJson exclusion (.obj fields) = .ok (.group declaration arguments)) := by
  rw [ofJson_obj] at h
  split at h
  · next hname =>
    refine ⟨hname, ?_⟩
    split at h
    · next hlookup =>
      obtain ⟨declaration, hdeclaration, h⟩ := bind_eq_ok_iff.1 h
      obtain rfl := Except.ok.inj h
      refine ⟨Declaration.longName_of_ofFields hdeclaration, .inl ⟨declaration, rfl, ?_⟩⟩
      intro exclusion
      rw [ofJson_obj, if_pos hname, hlookup, hdeclaration]
      rfl
    · next entries hlookup =>
      obtain ⟨arguments, harguments, h⟩ := bind_eq_ok_iff.1 h
      obtain ⟨declaration, hdeclaration, h⟩ := bind_eq_ok_iff.1 h
      obtain rfl := Except.ok.inj h
      refine ⟨Declaration.longName_of_ofFields hdeclaration,
        .inr ⟨entries, declaration, arguments, rfl, hlookup, harguments, ?_⟩⟩
      intro exclusion others hothers
      rw [ofJson_obj, if_pos hname, hlookup, hdeclaration]
      show (Argument.ofList exclusion entries >>= _) = _
      rw [hothers]
      rfl
  · cases h

/-- The value in the place of a list of entries is read with a test as it is without one,
less the arguments of which the test holds, if a list is. -/
theorem ofList_exclusion_of {value : Json} {arguments : List Argument}
    (hentries : ∀ entries, value = .arr entries →
      Argument.ofEntries none entries = .ok arguments →
      Argument.ofEntries (Exclusion.of leftOut) entries =
        .ok (Argument.without (fun declaration => leftOut declaration.longName) arguments))
    (h : Argument.ofList none value = .ok arguments) :
    Argument.ofList (Exclusion.of leftOut) value =
      .ok (Argument.without (fun declaration => leftOut declaration.longName) arguments) := by
  by_cases hlist : ∃ entries, value = .arr entries
  · obtain ⟨entries, rfl⟩ := hlist
    exact hentries entries rfl h
  · rw [ofList_of_ne fun entries heq => hlist ⟨entries, heq⟩] at h ⊢
    obtain rfl := eq_nil_of_noEntries h
    exact h

/-- Reading entries with a test gives what reading them without one does, less the arguments
of which the test holds. -/
theorem ofEntries_exclusion (leftOut : Json → Bool) (entries : List Json) :
    ∀ {arguments}, Argument.ofEntries none entries = .ok arguments →
      Argument.ofEntries (Exclusion.of leftOut) entries =
        .ok (Argument.without (fun declaration => leftOut declaration.longName) arguments) := by
  induction entries using Json.entries_induction with
  | nil =>
    intro arguments h
    rw [ofEntries] at h ⊢
    obtain rfl := Except.ok.inj h
    rfl
  | other entry rest hentry =>
    intro arguments h
    rw [ofEntries_of_ne hentry] at h
    cases h
  | obj fields rest ihInner ih =>
    intro arguments h
    rw [ofEntries_obj] at h ⊢
    rw [show isPassedOver none fields = .ok false from rfl, ok_bind] at h
    obtain ⟨argument, hargument, h⟩ := bind_eq_ok_iff.1 (h : _ >>= _ = _)
    obtain ⟨others, hothers, h⟩ := bind_eq_ok_iff.1 h
    obtain rfl := Except.ok.inj h
    obtain ⟨hname, hlong, hcases⟩ := ofJson_cases hargument
    -- the test is asked about the name under which the argument is read
    rw [isPassedOver_of, ok_bind, Json.isLeftOut, hname, Bool.true_and, ← hlong]
    cases hd : leftOut argument.longName with
    | true => rw [if_pos rfl, ih hothers, without_cons_of_drop hd]
    | false =>
      have hread : Argument.ofJson (Exclusion.of leftOut) (.obj fields) =
          .ok (argument.withoutInside fun declaration => leftOut declaration.longName) := by
        rcases hcases with ⟨declaration, rfl, hmember⟩ |
          ⟨entries, declaration, inner, rfl, hlookup, hinner, hgroup⟩
        · exact hmember _
        · apply hgroup
          apply ofList_exclusion_of ?_ hinner
          rintro nested rfl
          exact ihInner nested hlookup
      rw [hread, ih hothers, without_cons_of_keep hd]
      rfl

/-- The same holds of any value that stands in the place of a list of entries. -/
theorem ofList_exclusion (leftOut : Json → Bool) {value : Json} {arguments : List Argument}
    (h : Argument.ofList none value = .ok arguments) :
    Argument.ofList (Exclusion.of leftOut) value =
      .ok (Argument.without (fun declaration => leftOut declaration.longName) arguments) :=
  ofList_exclusion_of (fun entries _ => ofEntries_exclusion leftOut entries) h

end Argument

/-- A component is read with a test as it is without one, less the arguments of which the
test holds. -/
theorem Component.ofJson_exclusion (leftOut : Json → Bool) {entry : Json}
    {component : Component} (h : Component.ofJson none entry = .ok component) :
    Component.ofJson (Exclusion.of leftOut) entry =
      .ok (component.without fun declaration => leftOut declaration.longName) := by
  cases entry with
  | obj fields =>
    rw [Component.ofJson_obj] at h ⊢
    split at h
    · next hname =>
      obtain ⟨arguments, harguments, h⟩ := bind_eq_ok_iff.1 h
      obtain rfl := Except.ok.inj h
      have hread := Argument.ofList_exclusion leftOut (locate_eq_ok_iff.1 harguments)
      rw [if_pos hname, hread]
      rfl
    · cases h
  | null | bool | int | float | str | arr => cases h

/-- So are the components of a list of entries. -/
theorem Component.ofEntries_exclusion (leftOut : Json → Bool) (entries : List Json) :
    ∀ {components}, Component.ofEntries none entries = .ok components →
      Component.ofEntries (Exclusion.of leftOut) entries =
        .ok (components.map
          (Component.without fun declaration => leftOut declaration.longName)) := by
  induction entries with
  | nil =>
    intro components h
    obtain rfl := Except.ok.inj h
    rfl
  | cons entry rest ih =>
    intro components h
    rw [Component.ofEntries] at h ⊢
    obtain ⟨component, hcomponent, h⟩ := bind_eq_ok_iff.1 h
    obtain ⟨others, hothers, h⟩ := bind_eq_ok_iff.1 h
    obtain rfl := Except.ok.inj h
    rw [Component.ofJson_exclusion leftOut hcomponent, ok_bind, ih hothers]
    rfl

/-- A catalog is read with a test as it is without one, less the arguments of which the
test holds. -/
theorem readCatalog_exclusion (leftOut : Json → Bool) {catalog : Json}
    {components : List Component} (h : readCatalog none catalog = .ok components) :
    readCatalog (Exclusion.of leftOut) catalog =
      .ok (components.map (Component.without fun declaration => leftOut declaration.longName)) := by
  unfold readCatalog at h ⊢
  split at h
  · exact Component.ofEntries_exclusion leftOut _ h
  · obtain rfl := eq_nil_of_noEntries h
    exact h

/-! ## Exclusion by a list of names -/

/-- The options exclude by a list: it is their setting, and the test for excluded names is
their own, which looks a name up in the setting. -/
structure Options.ExcludesBy (options : Options) (names : List Json) : Prop where
  list : options.exclude = .arr names
  test : options.exclusionTest? = none

/-- The argument has one of the names. -/
def Declaration.isNamedIn (names : List Json) (declaration : Declaration) : Bool :=
  names.any (·.same declaration.longName)

section Options

variable {options : Options} {names : List Json}

/-- The test for use while a catalog is read looks a name up in the list. -/
theorem Options.ExcludesBy.exclusion?_eq (h : options.ExcludesBy names) :
    options.exclusion? = Exclusion.of fun name => names.any (·.same name) := by
  unfold Options.exclusion? Exclusion.of
  rw [h.test]
  apply congrArg some
  funext name
  unfold Options.isExcluded
  rw [h.test, h.list]
  rfl

/-- There is a note on passing over an argument with one of the names. -/
theorem Options.ExcludesBy.skipNote?_eq (h : options.ExcludesBy names)
    (declaration : Declaration) (hnamed : declaration.isNamedIn names = true) :
    ∃ note, options.skipNote? declaration = .ok (some note) := by
  refine ⟨.excluded declaration.longName, ?_⟩
  unfold Options.skipNote? Options.isExcluded
  rw [h.test, h.list, show (Json.arr names).holds declaration.longName = .ok true from congrArg _ hnamed]
  rfl

/-- **Excluding while reading agrees with excluding while generating.**  Where a catalog can
be read in full and the options exclude by a list, it can also be read without the excluded
arguments: this gives the same components less all arguments with an excluded name, at every
depth, and the same text, or the same fault, is generated from both. -/
theorem Options.reading_agrees_with_generating {catalog : Json} {components : List Component}
    (hexcludes : options.ExcludesBy names) (h : readCatalog none catalog = .ok components) :
    readCatalog options.exclusion? catalog =
        .ok (components.map (Component.without (Declaration.isNamedIn names))) ∧
      ∀ comment,
        (SourceFile.text options comment
          (components.map (Component.without (Declaration.isNamedIn names)))).result =
        (SourceFile.text options comment components).result := by
  constructor
  · rw [hexcludes.exclusion?_eq]
    exact readCatalog_exclusion _ h
  · intro comment
    exact SourceFile.result_text_without hexcludes.skipNote?_eq comment components

end Options

/-! ### A catalog with an entry at two depths -/

/-- The entry of a component with two arguments of its own, and an entry more among them and
inside the second of them. -/
def Json.sampleEntries (entry : Json) : List Json :=
  [.obj [("name", .str "pca"), ("arguments", .arr [
    .obj [("name", .str "rank"), ("type", .str "int[]")],
    entry,
    .obj [("name", .str "stop"), ("type", .obj [("kind", .str "object"), ("name", .str "Stop")]),
      ("arguments", .arr [entry])]])]]

/-- A group called `old`. -/
def Json.oldGroup : Json :=
  .obj [("name", .str "old"), ("type", .obj [("kind", .str "object"), ("name", .str "Old")]),
    ("arguments", .arr [.obj [("name", .str "seed"), ("type", .str "long?")]])]

/-- With a group called `old` at two depths, the catalog is read and generated without it
alike. -/
theorem Options.reading_agrees_sample :
    ∃ components, readCatalog none (.arr (Json.sampleEntries Json.oldGroup)) = .ok components ∧
      readCatalog withoutOld.exclusion? (.arr (Json.sampleEntries Json.oldGroup)) =
        .ok (components.map (Component.without (Declaration.isNamedIn [.str "old"]))) ∧
      ∀ comment,
        (SourceFile.text withoutOld comment
          (components.map (Component.without (Declaration.isNamedIn [.str "old"])))).result =
        (SourceFile.text withoutOld comment components).result := by
  have hok : (readCatalog none (.arr (Json.sampleEntries Json.oldGroup))).isOk = true := by
    decide +kernel
  have hexcludes : withoutOld.ExcludesBy [.str "old"] := ⟨rfl, rfl⟩
  obtain ⟨components, h⟩ := exists_of_isOk hok
  exact ⟨components, h, Options.reading_agrees_with_generating hexcludes h⟩

end CatalogClasses
