/-
# Entries that are left out

An excluded entry of a catalog is passed over before anything but its name is looked at.
So it makes no difference whether it is there at all: the catalog is read as it would be
without a test, had the entry been left out beforehand.  The main statement compares two
catalogs that differ in excluded entries alone; only the wording of a failure, which may
show an entry as a whole, can tell them apart.
-/
import CatalogClasses.Proofs.Exclusion

namespace CatalogClasses

/-! ## Results that differ in their wording alone -/

/-- Two faults are of the same family and arose at the same place. -/
inductive Fault.Alike : Fault → Fault → Prop where
  | failure {f g : Failure} (category : f.cause.category = g.cause.category)
      (component : f.component = g.component) (argument : f.argument = g.argument) :
      Alike (.failure f) (.failure g)
  | malformed (m : Malformed) : Alike (.malformed m) (.malformed m)

/-- Two results are the same value, or faults that are alike. -/
inductive SameOutcome {α : Type} : Fallible α → Fallible α → Prop where
  | ok (value : α) : SameOutcome (.ok value) (.ok value)
  | error {e f : Fault} (alike : e.Alike f) : SameOutcome (.error e) (.error f)

namespace Fault.Alike

theorem refl (fault : Fault) : fault.Alike fault := by
  cases fault with
  | failure f => exact .failure rfl rfl rfl
  | malformed m => exact .malformed m

theorem symm {e f : Fault} (h : e.Alike f) : f.Alike e := by
  cases h with
  | failure category component argument =>
    exact .failure category.symm component.symm argument.symm
  | malformed m => exact .malformed m

theorem trans {e f g : Fault} (h : e.Alike f) (hnext : f.Alike g) : e.Alike g := by
  cases h with
  | failure category component argument =>
    cases hnext with
    | failure category' component' argument' =>
      exact .failure (category.trans category') (component.trans component')
        (argument.trans argument')
  | malformed m => exact hnext

/-- Faults that are alike stay so when their places are filled in. -/
theorem located {e f : Fault} (h : e.Alike f) (component argument : Json) :
    (e.located component argument).Alike (f.located component argument) := by
  cases h with
  | failure category hcomponent hargument =>
    exact .failure category (congrArg (Failure.fill · component) hcomponent)
      (congrArg (Failure.fill · argument) hargument)
  | malformed m => exact .malformed m

end Fault.Alike

namespace SameOutcome

variable {α β : Type} {first second third : Fallible α}

theorem refl (result : Fallible α) : SameOutcome result result := by
  cases result with
  | ok value => exact .ok value
  | error fault => exact .error (.refl fault)

theorem symm (h : SameOutcome first second) : SameOutcome second first := by
  cases h with
  | ok value => exact .ok value
  | error alike => exact .error alike.symm

theorem trans (h : SameOutcome first second) (hnext : SameOutcome second third) :
    SameOutcome first third := by
  cases h with
  | ok value => exact hnext
  | error alike =>
    cases hnext with
    | error alike' => exact .error (alike.trans alike')

/-- Computations with the same outcome keep it when the same is done after them. -/
theorem bind {next other : α → Fallible β} (h : SameOutcome first second)
    (hnext : ∀ value, SameOutcome (next value) (other value)) :
    SameOutcome (first >>= next) (second >>= other) := by
  cases h with
  | ok value => exact hnext value
  | error alike => exact .error alike

theorem locate (h : SameOutcome first second) (component argument : Json) :
    SameOutcome (locate component argument first) (locate component argument second) := by
  cases h with
  | ok value => exact .ok value
  | error alike => exact .error (alike.located component argument)

/-- Failures of one family at an unknown place have the same outcome. -/
theorem failWith {first second : Cause} (h : first.category = second.category) :
    SameOutcome (failWith first : Fallible α) (failWith second) :=
  .error (.failure h rfl rfl)

end SameOutcome

/-! ## Catalogs without some entries -/

namespace Json

mutual

/-- The entries without those to leave out, at every depth. -/
def entriesWithout (leftOut : Json → Bool) : List Json → List Json
  | [] => []
  | .obj fields :: rest =>
      if isLeftOut leftOut fields then entriesWithout leftOut rest
      else .obj (fieldsWithout leftOut fields) :: entriesWithout leftOut rest
  | other :: rest => other :: entriesWithout leftOut rest

/-- The value in the place of a list of entries, without those to leave out. -/
def listWithout (leftOut : Json → Bool) : Json → Json
  | .arr entries => .arr (entriesWithout leftOut entries)
  | other => other

/-- The fields of an entry, without the entries to leave out among those nested in it. -/
def fieldsWithout (leftOut : Json → Bool) : List (String × Json) → List (String × Json)
  | [] => []
  | (key, value) :: rest =>
      (key, if key = "arguments" then listWithout leftOut value else value) ::
        fieldsWithout leftOut rest

end

/-- The entry of a component, without the entries to leave out among its arguments. -/
def componentWithout (leftOut : Json → Bool) : Json → Json
  | .obj fields => .obj (fieldsWithout leftOut fields)
  | other => other

variable (leftOut : Json → Bool)

/-- An entry that is no object is not left out. -/
theorem entriesWithout_of_ne {entry : Json} (h : ∀ fields, entry ≠ .obj fields)
    (rest : List Json) :
    entriesWithout leftOut (entry :: rest) = entry :: entriesWithout leftOut rest := by
  cases entry with
  | obj fields => exact absurd rfl (h fields)
  | null | bool | int | float | str | arr => rfl

/-- Leaving out entries changes one field alone. -/
theorem lookup_fieldsWithout_of_ne (fields : List (String × Json)) (key : String)
    (hkey : key ≠ "arguments") :
    lookup key (fieldsWithout leftOut fields) = lookup key fields := by
  induction fields with
  | nil => rfl
  | cons field rest ih =>
    obtain ⟨k, value⟩ := field
    rw [fieldsWithout, lookup, lookup, ih]
    by_cases hk : k = key
    · subst hk
      rw [if_neg hkey]
    · rw [if_neg hk, if_neg hk]

/-- That field is without the entries to leave out. -/
theorem lookup_arguments_fieldsWithout (fields : List (String × Json)) :
    lookup "arguments" (fieldsWithout leftOut fields) =
      (lookup "arguments" fields).map (listWithout leftOut) := by
  induction fields with
  | nil => rfl
  | cons field rest ih =>
    obtain ⟨k, value⟩ := field
    rw [fieldsWithout, lookup, lookup, ih]
    by_cases hk : k = "arguments"
    · rw [if_pos hk, if_pos hk, if_pos hk]
      rfl
    · rw [if_neg hk, if_neg hk]

theorem fieldOrNull_fieldsWithout (fields : List (String × Json)) (key : String)
    (hkey : key ≠ "arguments") :
    fieldOrNull key (fieldsWithout leftOut fields) = fieldOrNull key fields := by
  unfold fieldOrNull
  rw [lookup_fieldsWithout_of_ne leftOut fields key hkey]

end Json

section Reading

variable (leftOut : Json → Bool)

/-- What an entry says about the argument itself is not among its nested entries. -/
theorem Declaration.ofFields_fieldsWithout (name : Json) (fields : List (String × Json))
    (isGroup : Bool) :
    Declaration.ofFields name (Json.fieldsWithout leftOut fields) isGroup =
      Declaration.ofFields name fields isGroup := by
  have hlookup := Json.lookup_fieldsWithout_of_ne leftOut fields
  unfold Declaration.ofFields declaredType elementType Json.fieldOrNull
  simp only [hlookup "type" (by decide), hlookup "collection" (by decide),
    hlookup "item_type" (by decide), hlookup "hidden" (by decide),
    hlookup "default" (by decide), hlookup "help" (by decide)]

/-- Neither is what an entry says about a component itself. -/
theorem Component.ofFields_fieldsWithout (name : Json) (fields : List (String × Json))
    (arguments : List Argument) :
    Component.ofFields name (Json.fieldsWithout leftOut fields) arguments =
      Component.ofFields name fields arguments := by
  have hlookup := Json.lookup_fieldsWithout_of_ne leftOut fields
  unfold Component.ofFields Json.fieldOrNull
  simp only [hlookup "kind" (by decide), hlookup "arguments_type" (by decide),
    hlookup "implementation_type" (by decide), hlookup "summary" (by decide)]

/-- The value in the place of a list of entries is read with a test as it is read without
one when the entries to leave out are not there, if this is so of a list. -/
theorem Argument.ofList_listWithout {value : Json}
    (hlist : ∀ entries, value = .arr entries →
      SameOutcome (Argument.ofEntries (Exclusion.of leftOut) entries)
        (Argument.ofEntries none (Json.entriesWithout leftOut entries))) :
    SameOutcome (Argument.ofList (Exclusion.of leftOut) value)
      (Argument.ofList none (Json.listWithout leftOut value)) := by
  cases value with
  | arr entries => exact hlist entries rfl
  | null | bool | int | float | str | obj => exact .refl _

/-- An entry is read with a test as it is read without one when the nested entries to leave
out are not there, if this is so of its nested entries. -/
theorem Argument.ofJson_fieldsWithout {fields : List (String × Json)}
    (hnested : ∀ value, Json.lookup "arguments" fields = some value →
      SameOutcome (Argument.ofList (Exclusion.of leftOut) value)
        (Argument.ofList none (Json.listWithout leftOut value))) :
    SameOutcome (Argument.ofJson (Exclusion.of leftOut) (.obj fields))
      (Argument.ofJson none (.obj (Json.fieldsWithout leftOut fields))) := by
  rw [ofJson_obj, ofJson_obj, Json.fieldOrNull_fieldsWithout leftOut fields "name" (by decide),
    Json.lookup_arguments_fieldsWithout]
  by_cases hname : (Json.fieldOrNull "name" fields).isTruthy = true
  · rw [if_pos hname, if_pos hname]
    cases hlookup : Json.lookup "arguments" fields with
    | none =>
      simp only [Option.map_none, Declaration.ofFields_fieldsWithout]
      exact .refl _
    | some value =>
      simp only [Option.map_some, Declaration.ofFields_fieldsWithout]
      exact (hnested value hlookup).bind fun arguments => .refl _
  · rw [if_neg hname, if_neg hname]
    exact .failWith rfl

/-- Entries are read with a test as they are read without one when those to leave out are
not there. -/
theorem Argument.ofEntries_entriesWithout (entries : List Json) :
    SameOutcome (Argument.ofEntries (Exclusion.of leftOut) entries)
      (Argument.ofEntries none (Json.entriesWithout leftOut entries)) := by
  induction entries using Json.entries_induction with
  | nil =>
    rw [Json.entriesWithout, ofEntries, ofEntries]
    exact .refl _
  | other entry rest hentry =>
    rw [Json.entriesWithout_of_ne leftOut hentry, ofEntries_of_ne hentry,
      ofEntries_of_ne hentry]
    exact .refl _
  | obj fields rest ihInner ih =>
    -- the test is asked before anything of the entry is read, and its answer is that by
    -- which the entry is left out
    rw [Json.entriesWithout, ofEntries_obj, isPassedOver_of, ok_bind]
    by_cases hleft : Json.isLeftOut leftOut fields = true
    · rw [if_pos hleft, if_pos hleft]
      exact ih
    · rw [if_neg hleft, if_neg hleft, ofEntries_obj]
      have hfirst : SameOutcome (Argument.ofJson (Exclusion.of leftOut) (.obj fields))
          (Argument.ofJson none (.obj (Json.fieldsWithout leftOut fields))) := by
        apply Argument.ofJson_fieldsWithout
        intro value hlookup
        apply Argument.ofList_listWithout
        rintro nested rfl
        exact ihInner nested hlookup
      exact hfirst.bind fun argument => ih.bind fun arguments => .refl _

/-- A component is read with a test as it is read without one when the entries to leave out
are not there. -/
theorem Component.ofJson_componentWithout (entry : Json) :
    SameOutcome (Component.ofJson (Exclusion.of leftOut) entry)
      (Component.ofJson none (Json.componentWithout leftOut entry)) := by
  cases entry with
  | obj fields =>
    rw [Json.componentWithout, ofJson_obj, ofJson_obj,
      Json.fieldOrNull_fieldsWithout leftOut fields "name" (by decide),
      Json.lookup_arguments_fieldsWithout]
    have hlist : SameOutcome
        (Argument.ofList (Exclusion.of leftOut)
          ((Json.lookup "arguments" fields).getD (.arr [])))
        (Argument.ofList none
          (((Json.lookup "arguments" fields).map (Json.listWithout leftOut)).getD (.arr []))) := by
      cases Json.lookup "arguments" fields with
      | none => exact Argument.ofEntries_entriesWithout leftOut []
      | some value =>
        apply Argument.ofList_listWithout
        intro entries _
        exact Argument.ofEntries_entriesWithout leftOut entries
    simp only [Component.ofFields_fieldsWithout]
    by_cases hname : (Json.fieldOrNull "name" fields).isTruthy = true
    · rw [if_pos hname, if_pos hname]
      exact (hlist.locate _ _).bind fun arguments => .refl _
    · rw [if_neg hname, if_neg hname]
      exact .failWith rfl
  | null | bool | int | float | str | arr => exact .refl _

/-- The components of a catalog are read with a test as they are read without one when the
entries to leave out are not there. -/
theorem Component.ofEntries_map_componentWithout (entries : List Json) :
    SameOutcome (Component.ofEntries (Exclusion.of leftOut) entries)
      (Component.ofEntries none (entries.map (Json.componentWithout leftOut))) := by
  induction entries with
  | nil => exact .refl _
  | cons entry rest ih =>
    rw [List.map_cons, Component.ofEntries, Component.ofEntries]
    exact (Component.ofJson_componentWithout leftOut entry).bind fun component =>
      ih.bind fun components => .refl _

/-- **Excluded entries have no influence.**  Two catalogs that are equal once all entries of
arguments with an excluded name are left out, at every depth, are read alike: as the same
components, or with failures of the same family at the same component and argument. -/
theorem readCatalog_of_map_componentWithout_eq {first second : List Json}
    (h : first.map (Json.componentWithout leftOut) =
      second.map (Json.componentWithout leftOut)) :
    SameOutcome (readCatalog (Exclusion.of leftOut) (.arr first))
      (readCatalog (Exclusion.of leftOut) (.arr second)) := by
  -- both are read like the one catalog without the entries to leave out
  have hfirst := Component.ofEntries_map_componentWithout leftOut first
  have hsecond := Component.ofEntries_map_componentWithout leftOut second
  rw [← h] at hsecond
  exact hfirst.trans hsecond.symm

end Reading

/-- An entry called `old` of which nothing but the name is in order. -/
def Json.brokenOldEntry : Json :=
  .obj [("name", .str "old"), ("type", .str "decimal[]"), ("arguments", .arr [.int 3])]

/-- A broken entry called `old` has no influence where arguments of this name are excluded. -/
theorem readCatalog_brokenOldEntry :
    SameOutcome
      (readCatalog (Exclusion.of (·.same (.str "old")))
        (.arr (Json.sampleEntries Json.brokenOldEntry)))
      (readCatalog (Exclusion.of (·.same (.str "old")))
        (.arr (Json.sampleEntries Json.oldGroup))) ∧
    (readCatalog (Exclusion.of (·.same (.str "old")))
      (.arr (Json.sampleEntries Json.brokenOldEntry))).isOk = true := by
  exact ⟨readCatalog_of_map_componentWithout_eq _ rfl, by decide +kernel⟩

end CatalogClasses
