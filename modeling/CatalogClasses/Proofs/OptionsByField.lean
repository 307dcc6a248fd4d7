/-
# Options, field by field

The options are read from an object by setting one after the other.  The main statement says what
the result is worth: each option has the value that the object gives it, or its standing value, and
an excluded name is one in the list that the object gives; a key that is no option has no influence,
and the listing of the options is read as the same options again.  All this is so just when no key
of the object names something else that the options are made of: the test for excluded names, the
listing, the class of the options or the references to them.

Main definitions:

* `Options.isOption` : a key names one of the seven options;
* `Options.given` : the options as an object gives them;
* `Options.IsReadFrom` : options are what an object gives, under the listing and under the test;
* `Options.replacing`, `Options.forbidden` : the keys that reach past the options.
-/
import Mathlib.Data.List.Basic
import CatalogClasses.Options

namespace CatalogClasses

/-! ## Fields with different keys -/

theorem Json.lookup_eq_none_iff {key : String} {fields : List (String × Json)} :
    lookup key fields = none ↔ key ∉ fields.map Prod.fst := by
  induction fields with
  | nil => simp [lookup]
  | cons field rest ih =>
    obtain ⟨k, value⟩ := field
    rw [lookup, List.map_cons, List.mem_cons]
    by_cases hkey : k = key
    · simp [hkey]
    · rw [if_neg hkey, ih, not_or]
      exact ⟨fun h => ⟨fun heq => hkey heq.symm, h⟩, And.right⟩

theorem Json.lookup_filter {key : String} {keep : String → Bool} (h : keep key = true)
    (fields : List (String × Json)) :
    lookup key (fields.filter fun field => keep field.1) = lookup key fields := by
  induction fields with
  | nil => rfl
  | cons field rest ih =>
    obtain ⟨k, value⟩ := field
    rw [List.filter_cons, lookup]
    by_cases hkey : k = key
    · subst hkey
      rw [if_pos h, lookup, if_pos rfl, if_pos rfl]
    · rw [if_neg hkey]
      split
      · rw [lookup, if_neg hkey, ih]
      · exact ih

/-- A value that is put under each of some different keys is found there. -/
theorem Json.lookup_map_of_mem {fields : List (String × Json)} (hkeys : (fields.map Prod.fst).Nodup)
    (value : String × Json → Json) {field : String × Json} (h : field ∈ fields) :
    lookup field.1 (fields.map fun field => (field.1, value field)) = some (value field) := by
  induction fields with
  | nil => cases h
  | cons first rest ih =>
    obtain ⟨hfirst, hrest⟩ := List.nodup_cons.1 hkeys
    rw [List.map_cons, lookup]
    rcases List.mem_cons.1 h with rfl | hmem
    · rw [if_pos rfl]
    · rw [if_neg fun heq : first.1 = field.1 => hfirst (heq ▸ List.mem_map_of_mem hmem),
        ih hrest hmem]

namespace Options

/-! ## One setting -/

/-- The key names an option. -/
def isOption (key : String) : Bool := (Json.lookup key standard.settings).isSome

/-- The keys under which an object puts something in the place of what the options do. -/
def replacing : List String := ["is_excluded", "to_dict"]

/-- The keys of what the options are made of, which are not to be set. -/
def forbidden : List String := ["__class__", "__weakref__"]

/-- What stands under each name: what replaces something that the options do, and the options. -/
def attributes (options : Options) : List (String × Option Json) :=
  ("is_excluded", options.exclusionTest?) :: ("to_dict", options.listing?) ::
    options.settings.map fun setting => (setting.1, some setting.2)

/-- Options under whose names the same stands are the same. -/
theorem eq_of_attributes {first second : Options} (h : first.attributes = second.attributes) :
    first = second := by
  cases first
  cases second
  simp_all [attributes, settings]

/-- A setting changes what stands under its key and nothing else. -/
theorem attributes_set (options : Options) (key : String) (value : Json) :
    (options.set key value).attributes =
      options.attributes.map fun entry =>
        (entry.1, if key = entry.1 then some value else entry.2) := by
  unfold set
  split <;> simp_all [attributes, settings]

/-- One setting of an object succeeds unless its key is not to be set. -/
theorem assign_eq_ok_iff {options result : Options} {key : String} (value : Json)
    (htable : key ≠ "__dict__") :
    options.assign key value = .ok result ↔
      key ∉ forbidden ∧ options.set key value = result := by
  unfold assign forbidden
  split
  · exact iff_of_false nofun fun h => h.1 (by decide)
  · exact iff_of_false nofun fun h => h.1 (by decide)
  · exact absurd rfl htable
  · next hclass hweakref _ =>
    have hkey : key ∉ ["__class__", "__weakref__"] := by simpa using ⟨hclass, hweakref⟩
    exact ⟨fun h => ⟨hkey, Except.ok.inj h⟩, fun h => congrArg _ h.2⟩

/-! ## All settings of an object -/

section Fields

variable {fields : List (String × Json)}

/-- The settings of an object succeed unless one of their keys is not to be set. -/
theorem assignAll_eq_ok_iff {options result : Options}
    (htable : "__dict__" ∉ fields.map Prod.fst) :
    options.assignAll fields = .ok result ↔
      (∀ key ∈ forbidden, key ∉ fields.map Prod.fst) ∧ options.setAll fields = result := by
  induction fields generalizing options with
  | nil => simp [assignAll, setAll]
  | cons field rest ih =>
    obtain ⟨key, value⟩ := field
    rw [List.map_cons, List.mem_cons, not_or] at htable
    have hset : options.setAll ((key, value) :: rest) = (options.set key value).setAll rest := rfl
    rw [assignAll, bind_eq_ok_iff, hset]
    constructor
    · rintro ⟨next, hfirst, hrest⟩
      obtain ⟨hkey, rfl⟩ := (assign_eq_ok_iff value (Ne.symm htable.1)).1 hfirst
      obtain ⟨hkeys, hresult⟩ := (ih htable.2).1 hrest
      refine ⟨fun own hown => ?_, hresult⟩
      rw [List.map_cons, List.mem_cons, not_or]
      exact ⟨fun heq => hkey (heq ▸ hown), hkeys own hown⟩
    · rintro ⟨hkeys, hresult⟩
      refine ⟨options.set key value,
        (assign_eq_ok_iff value (Ne.symm htable.1)).2 ⟨fun hown => ?_, rfl⟩,
        (ih htable.2).2 ⟨fun own hown => ?_, hresult⟩⟩
      · exact hkeys key hown List.mem_cons_self
      · exact fun hmem => hkeys own hown (List.mem_cons_of_mem _ hmem)

/-- Each of some settings with different keys is the one that decides what stands under its key. -/
theorem attributes_setAll (hkeys : (fields.map Prod.fst).Nodup) (options : Options) :
    (options.setAll fields).attributes =
      options.attributes.map fun entry =>
        (entry.1, (Json.lookup entry.1 fields).or entry.2) := by
  induction fields generalizing options with
  | nil => exact (List.map_id _).symm
  | cons field rest ih =>
    obtain ⟨key, value⟩ := field
    obtain ⟨hkey, hrest⟩ := List.nodup_cons.1 hkeys
    have hset : options.setAll ((key, value) :: rest) = (options.set key value).setAll rest := rfl
    rw [hset, ih hrest, attributes_set, List.map_map]
    refine List.map_congr_left fun entry _ => congrArg (Prod.mk entry.1) ?_
    show (Json.lookup entry.1 rest).or (if key = entry.1 then some value else entry.2) =
      (Json.lookup entry.1 ((key, value) :: rest)).or entry.2
    rw [Json.lookup]
    by_cases heq : key = entry.1
    · rw [if_pos heq, if_pos heq, Json.lookup_eq_none_iff.2 (heq ▸ hkey)]
      rfl
    · rw [if_neg heq, if_neg heq]

/-- The options after some settings, and what these put in the place of what the options do. -/
theorem parts_setAll (hkeys : (fields.map Prod.fst).Nodup) (options : Options) :
    (options.setAll fields).exclusionTest? =
        (Json.lookup "is_excluded" fields).or options.exclusionTest? ∧
      (options.setAll fields).listing? = (Json.lookup "to_dict" fields).or options.listing? ∧
      (options.setAll fields).settings = options.settings.map fun setting =>
        (setting.1, (Json.lookup setting.1 fields).getD setting.2) := by
  have h := attributes_setAll hkeys options
  obtain ⟨htest, hrest⟩ := List.cons.inj h
  obtain ⟨hlisting, hsettings⟩ := List.cons.inj hrest
  refine ⟨congrArg Prod.snd htest, congrArg Prod.snd hlisting, ?_⟩
  have hinj : Function.Injective fun setting : String × Json => (setting.1, some setting.2) := by
    rintro ⟨k, v⟩ ⟨k', v'⟩ heq
    simpa using heq
  refine List.map_injective_iff.2 hinj (hsettings.trans ?_)
  rw [List.map_map, List.map_map]
  exact List.map_congr_left fun setting _ => congrArg (Prod.mk setting.1) Option.or_some

end Fields

/-! ## What an object gives -/

/-- The options as an object gives them: each has the value under its name, or its standing
value. -/
def given (fields : List (String × Json)) : List (String × Json) :=
  standard.settings.map fun setting => (setting.1, (Json.lookup setting.1 fields).getD setting.2)

/-- The options are what an object gives: they are listed as such, and an excluded name is one that
the list of the object holds. -/
structure IsReadFrom (options : Options) (fields : List (String × Json)) : Prop where
  listing : options.toJson = .ok (.obj (given fields))
  test : ∀ name, options.isExcluded name =
    ((Json.lookup "exclude" fields).getD standard.exclude).holds name

/-- A value that holds nothing is at fault in other ways than by standing for a test. -/
theorem holds_ne_notCallable (value item : Json) : value.holds item ≠ malformed .notCallable := by
  fun_cases Json.holds value item <;> exact nofun

section Fields

variable {fields : List (String × Json)}

theorem exclude_of_settings {options : Options} (h : options.settings = given fields) :
    options.exclude = (Json.lookup "exclude" fields).getD standard.exclude :=
  congrArg Prod.snd (List.cons.inj h).1

/-- Options that are what an object gives do with it what options do. -/
theorem IsReadFrom.parts {options : Options} (h : options.IsReadFrom fields) :
    options.exclusionTest? = none ∧ options.listing? = none ∧ options.settings = given fields := by
  have htest := h.test .null
  have hlisting := h.listing
  rw [isExcluded] at htest
  rw [toJson] at hlisting
  cases hreplaced : options.exclusionTest? with
  | some value =>
    rw [hreplaced] at htest
    exact absurd htest.symm (holds_ne_notCallable _ _)
  | none =>
    cases hlisted : options.listing? with
    | some value =>
      rw [hlisted] at hlisting
      cases hlisting
    | none =>
      rw [hlisted] at hlisting
      exact ⟨rfl, rfl, Json.obj.inj (Except.ok.inj hlisting)⟩

/-- After its settings, the options are what an object gives unless it puts something in the place
of what they do. -/
theorem isReadFrom_setAll_iff (hkeys : (fields.map Prod.fst).Nodup) :
    (standard.setAll fields).IsReadFrom fields ↔
      ∀ key ∈ replacing, key ∉ fields.map Prod.fst := by
  obtain ⟨htest, hlisting, hsettings⟩ := parts_setAll hkeys standard
  rw [show standard.exclusionTest? = none from rfl, Option.or_none] at htest
  rw [show standard.listing? = none from rfl, Option.or_none] at hlisting
  constructor
  · intro h key hkey
    obtain ⟨hown, hlist, -⟩ := h.parts
    rw [← Json.lookup_eq_none_iff]
    rcases List.mem_pair.1 hkey with rfl | rfl
    · exact htest.symm.trans hown
    · exact hlisting.symm.trans hlist
  · intro h
    rw [Json.lookup_eq_none_iff.2 (h "is_excluded" List.mem_cons_self)] at htest
    rw [Json.lookup_eq_none_iff.2 (h "to_dict" (List.mem_cons_of_mem _ List.mem_cons_self))]
      at hlisting
    constructor
    · rw [toJson, hlisting, hsettings]
      rfl
    · intro name
      rw [isExcluded, htest, exclude_of_settings hsettings]

/-- An object is read as what it gives if none of its keys reaches past the options. -/
theorem exists_isReadFrom (hkeys : (fields.map Prod.fst).Nodup)
    (htable : "__dict__" ∉ fields.map Prod.fst)
    (h : ∀ key ∈ replacing ++ forbidden, key ∉ fields.map Prod.fst) :
    ∃ options, ofJson (.obj fields) = .ok options ∧ options.IsReadFrom fields := by
  obtain ⟨hreplacing, hforbidden⟩ := List.forall_mem_append.1 h
  exact ⟨_, (assignAll_eq_ok_iff htable).2 ⟨hforbidden, rfl⟩,
    (isReadFrom_setAll_iff hkeys).2 hreplacing⟩

/-- An object of nothing but options is read as what it gives. -/
theorem exists_isReadFrom_of_isOption (hkeys : (fields.map Prod.fst).Nodup)
    (h : ∀ key ∈ fields.map Prod.fst, isOption key = true) :
    ∃ options, ofJson (.obj fields) = .ok options ∧ options.IsReadFrom fields := by
  have hother : ∀ key, isOption key = false → key ∉ fields.map Prod.fst := by
    intro key hkey hmem
    rw [h key hmem] at hkey
    cases hkey
  exact exists_isReadFrom hkeys (hother _ (by decide +kernel))
    fun key hkey => hother key (by revert key; decide +kernel)

/-- What an object gives is the same as what it gives by its options alone. -/
theorem given_filter (fields : List (String × Json)) :
    given (fields.filter fun field => isOption field.1) = given fields := by
  refine List.map_congr_left fun setting hsetting => ?_
  have hoption : isOption setting.1 = true := by
    revert setting
    decide +kernel
  rw [Json.lookup_filter hoption]

/-- What an object gives has the keys of the options. -/
theorem map_fst_given (fields : List (String × Json)) :
    (given fields).map Prod.fst = standard.settings.map Prod.fst := by
  rw [given, List.map_map]
  rfl

theorem nodup_map_fst_given (fields : List (String × Json)) :
    ((given fields).map Prod.fst).Nodup := by
  rw [map_fst_given]
  decide +kernel

/-- What an object gives has a value for each option. -/
theorem given_given (fields : List (String × Json)) : given (given fields) = given fields := by
  refine List.map_congr_left fun setting hsetting => ?_
  rw [given, Json.lookup_map_of_mem (by decide +kernel) _ hsetting]
  rfl

/-- What is read is decided by what is given. -/
theorem IsReadFrom.unique {first second : Options} {others : List (String × Json)}
    (hfirst : first.IsReadFrom fields) (hsecond : second.IsReadFrom others)
    (h : given fields = given others) : first = second := by
  obtain ⟨htest, hlisting, hsettings⟩ := hfirst.parts
  obtain ⟨htest', hlisting', hsettings'⟩ := hsecond.parts
  exact eq_of_attributes (by
    rw [attributes, attributes, htest, htest', hlisting, hlisting', hsettings, hsettings', h])

/-- **Options are read field by field.**  Let the keys of an object be different, and none be that
of the table of all attributes.  It gives options that have its values, or the standing ones where
it has none, and whose test is its list of names, just when none of its keys is one of four that
reach past the options.  Then its other keys have no influence, and the listing of the options is
read as these options again. -/
theorem ofJson_field_by_field (hkeys : (fields.map Prod.fst).Nodup)
    (htable : "__dict__" ∉ fields.map Prod.fst) :
    ((∃ options, ofJson (.obj fields) = .ok options ∧ options.IsReadFrom fields) ↔
      ∀ key ∈ replacing ++ forbidden, key ∉ fields.map Prod.fst) ∧
    ∀ options : Options, ofJson (.obj fields) = .ok options → options.IsReadFrom fields →
      ofJson (.obj (fields.filter fun field => isOption field.1)) = .ok options ∧
      options.toJson >>= ofJson = .ok options := by
  constructor
  · constructor
    · rintro ⟨options, hread, hfrom⟩
      obtain ⟨hforbidden, rfl⟩ := (assignAll_eq_ok_iff htable).1 hread
      exact List.forall_mem_append.2 ⟨(isReadFrom_setAll_iff hkeys).1 hfrom, hforbidden⟩
    · exact exists_isReadFrom hkeys htable
  · intro options hread hfrom
    constructor
    · have hoptions : ∀ key ∈ (fields.filter fun field => isOption field.1).map Prod.fst,
          isOption key = true := by
        intro key hkey
        obtain ⟨field, hfield, rfl⟩ := List.mem_map.1 hkey
        exact (List.mem_filter.1 hfield).2
      obtain ⟨alone, halone, hfromAlone⟩ :=
        exists_isReadFrom_of_isOption (hkeys.sublist (List.filter_sublist.map Prod.fst)) hoptions
      rw [halone, hfromAlone.unique hfrom (given_filter fields)]
    · obtain ⟨again, hagain, hfromAgain⟩ :=
        exists_isReadFrom_of_isOption (nodup_map_fst_given fields)
          (by rw [map_fst_given]; decide +kernel)
      rw [hfrom.listing, ok_bind, hagain, hfromAgain.unique hfrom (given_given fields)]

end Fields

/-- Fields with two options, and two keys that are none. -/
def sampleFields : List (String × Json) :=
  [("class_suffix", .str "Base"), ("from_dict", .int 1), ("exclude", .arr [.str "seed"]),
    ("colour", .null)]

/-- The options in some fields are read, and the rest of the fields has no influence. -/
theorem ofJson_of_sampleFields :
    (sampleFields.map Prod.fst).Nodup ∧ "__dict__" ∉ sampleFields.map Prod.fst ∧
    ∃ options, ofJson (.obj sampleFields) = .ok options ∧ options.IsReadFrom sampleFields ∧
      ofJson (.obj [("class_suffix", .str "Base"), ("exclude", .arr [.str "seed"])]) = .ok options ∧
      options.toJson >>= ofJson = .ok options := by
  have hkeys : (sampleFields.map Prod.fst).Nodup := by decide +kernel
  have htable : "__dict__" ∉ sampleFields.map Prod.fst := by decide +kernel
  obtain ⟨hread, hagain⟩ := ofJson_field_by_field hkeys htable
  obtain ⟨options, hoptions, hfrom⟩ := hread.2 (by decide +kernel)
  exact ⟨hkeys, htable, options, hoptions, hfrom, hagain options hoptions hfrom⟩

/-- A value in the place of the test for excluded names makes a difference, though it stands under
a key that is no option. -/
theorem ofJson_of_replacedTest :
    ∃ options, ofJson (.obj [("is_excluded", .null)]) = .ok options ∧
      options.toJson = .ok (.obj (given [("is_excluded", .null)])) ∧
      options.isExcluded (.str "seed") = malformed .notCallable ∧
      standard.isExcluded (.str "seed") = .ok false ∧
      ¬ options.IsReadFrom [("is_excluded", .null)] := by
  refine ⟨{ standard with exclusionTest? := some .null }, rfl, rfl, rfl, rfl, fun h => ?_⟩
  cases h.test (.str "seed")

end Options

end CatalogClasses
