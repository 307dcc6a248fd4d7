/-
# Names of fields and of objects of arguments

A member inside groups gives its field the names of these groups as a suffix, and a group
does the same for its object of arguments; an underscore stands before each name of the
suffix.  The names of arguments may hold underscores themselves, so that the flattening is
no injection: `x_sub` beside a group `sub` with a member `x` gives one field name twice.
The main statement is the exact condition: a name is declared twice just when two
different paths run to the same parts once their names are cut at the underscores.
-/
import CatalogClasses.Proofs.Blocks
import Mathlib.Data.List.Nodup

namespace CatalogClasses

/-! ## Paths -/

mutual

/-- In each list inside the argument, no text is the name of two arguments. -/
def Argument.DistinctInside : Argument → Prop
  | .member _ => True
  | .group _ arguments => Argument.DistinctNames arguments

/-- In the list and in each list inside it, no text is the name of two arguments. -/
def Argument.DistinctNames : List Argument → Prop
  | [] => True
  | argument :: rest =>
      (∀ name, argument.longName = .str name → ∀ other ∈ rest, other.longName ≠ .str name) ∧
        argument.DistinctInside ∧ Argument.DistinctNames rest

end

/-- The names that lead to an argument, its own the last. -/
def Site.path (site : Site) : List String :=
  site.groups.map Json.text ++ [site.ownName]

/-- Every survivor lies on the path of one of the arguments, which survives itself. -/
theorem Options.path_of_mem_survivors {options : Options} (arguments : List Argument) :
    ∀ groups, ∀ site ∈ options.survivors groups arguments, ∃ argument ∈ arguments,
      ⟨groups, argument⟩ ∈ options.survivors groups arguments ∧
        groups.map Json.text ++ [argument.longName.text] <+: site.path := by
  induction arguments using Argument.list_induction with
  | nil => intro groups site h; cases h
  | member declaration rest ih =>
    intro groups site h
    rw [survivors_member] at h ⊢
    rcases List.mem_append.1 h with h | h
    · have hhere := List.mem_append_left (options.survivors groups rest) h
      split at h
      · obtain rfl := List.mem_singleton.1 h
        exact ⟨_, List.mem_cons_self, hhere, List.prefix_rfl⟩
      · cases h
    · obtain ⟨argument, hmem, hhere, hpath⟩ := ih groups site h
      exact ⟨argument, List.mem_cons_of_mem _ hmem, List.mem_append_right _ hhere, hpath⟩
  | group declaration inner rest ihInner ih =>
    intro groups site h
    rw [survivors_group] at h ⊢
    rcases List.mem_append.1 h with h | h
    · split at h
      · next hk =>
        rw [if_pos hk]
        have hhere := List.mem_append_left (options.survivors groups rest)
          (List.mem_cons_self (a := (⟨groups, .group declaration inner⟩ : Site))
            (l := options.survivors (groups ++ [declaration.longName]) inner))
        rcases List.mem_cons.1 h with rfl | h
        · exact ⟨_, List.mem_cons_self, hhere, List.prefix_rfl⟩
        -- what is inside the group lies beyond the group itself
        · obtain ⟨argument, -, -, hpath⟩ := ihInner _ site h
          rw [List.map_append] at hpath
          exact ⟨_, List.mem_cons_self, hhere, (List.prefix_append _ _).trans hpath⟩
      · cases h
    · obtain ⟨argument, hmem, hhere, hpath⟩ := ih groups site h
      exact ⟨argument, List.mem_cons_of_mem _ hmem, List.mem_append_right _ hhere, hpath⟩

/-- Paths that go on from different names at one place are different. -/
theorem ne_of_prefix_append_singleton {start first second : List String} {x y : String}
    (hxy : x ≠ y) (hx : start ++ [x] <+: first) (hy : start ++ [y] <+: second) :
    first ≠ second := by
  rintro rfl
  apply hxy
  have hprefix := List.prefix_of_prefix_length_le hx hy (by simp)
  simpa using hprefix.eq_of_length (by simp)

/-- Survivors at an argument and survivors after it part at the name of that argument. -/
theorem Options.disjoint_paths {options : Options} {argument : Argument} {rest : List Argument}
    {groups : List Json} {here : List Site}
    (hdiffer : ∀ name, argument.longName = .str name →
      ∀ other ∈ rest, other.longName ≠ .str name)
    (hname : ∃ name, argument.longName = .str name)
    (hrest : ∀ site ∈ options.survivors groups rest, ∃ name, site.argument.longName = .str name)
    (hhere : ∀ site ∈ here, groups.map Json.text ++ [argument.longName.text] <+: site.path) :
    List.Disjoint (here.map Site.path) ((options.survivors groups rest).map Site.path) := by
  intro path hpath hpathRest
  obtain ⟨first, hfirst, rfl⟩ := List.mem_map.1 hpath
  obtain ⟨second, hsecond, hsame⟩ := List.mem_map.1 hpathRest
  obtain ⟨other, hother, hsurvives, hprefix⟩ := path_of_mem_survivors rest groups second hsecond
  obtain ⟨name, hname⟩ := hname
  obtain ⟨otherName, hotherName⟩ := hrest _ hsurvives
  have hne : other.longName.text ≠ argument.longName.text := by
    rw [hotherName, hname]
    rintro rfl
    exact hdiffer _ hname other hother hotherName
  exact ne_of_prefix_append_singleton hne hprefix (hhere first hfirst) hsame

/-- Where the names in each list differ, different survivors have different paths. -/
theorem Options.nodup_path_survivors {options : Options} (arguments : List Argument) :
    Argument.DistinctNames arguments → ∀ groups,
      (∀ site ∈ options.survivors groups arguments, ∃ name, site.argument.longName = .str name) →
      ((options.survivors groups arguments).map Site.path).Nodup := by
  induction arguments using Argument.list_induction with
  | nil => intro _ groups _; exact List.nodup_nil
  | member declaration rest ih =>
    rintro ⟨hdiffer, -, hrest⟩ groups hnamed
    rw [survivors_member] at hnamed ⊢
    rw [List.forall_mem_append] at hnamed
    obtain ⟨hhere, hlater⟩ := hnamed
    have hnodup := ih hrest groups hlater
    cases hk : options.keeps declaration with
    | false => exact hnodup
    | true =>
      rw [hk] at hhere
      rw [if_pos rfl, List.map_append]
      refine List.Nodup.append (List.nodup_singleton _) hnodup
        (disjoint_paths hdiffer (hhere _ (List.mem_singleton_self _)) hlater ?_)
      intro site hsite
      obtain rfl := List.mem_singleton.1 hsite
      exact List.prefix_rfl
  | group declaration inner rest ihInner ih =>
    rintro ⟨hdiffer, hinner, hrest⟩ groups hnamed
    rw [survivors_group] at hnamed ⊢
    rw [List.forall_mem_append] at hnamed
    obtain ⟨hhere, hlater⟩ := hnamed
    have hnodup := ih hrest groups hlater
    cases hk : options.keeps declaration with
    | false => exact hnodup
    | true =>
      rw [hk, if_pos rfl, List.forall_mem_cons] at hhere
      obtain ⟨hname, hinside⟩ := hhere
      have hlonger : ∀ site ∈ options.survivors (groups ++ [declaration.longName]) inner,
          ∃ name, groups.map Json.text ++ [declaration.longName.text] ++ [name] <+:
            site.path := by
        intro site hsite
        obtain ⟨argument, -, -, hprefix⟩ := path_of_mem_survivors inner _ site hsite
        exact ⟨argument.longName.text, by rwa [List.map_append] at hprefix⟩
      rw [if_pos rfl, List.map_append]
      refine List.Nodup.append ?_ hnodup (disjoint_paths hdiffer hname hlater ?_)
      · rw [List.map_cons, List.nodup_cons]
        refine ⟨?_, ihInner hinner _ hinside⟩
        -- the path of what is inside the group is longer than that of the group
        intro hmem
        obtain ⟨site, hsite, hsame⟩ := List.mem_map.1 hmem
        obtain ⟨name, hprefix⟩ := hlonger site hsite
        have hlength := hprefix.length_le
        rw [hsame] at hlength
        simp [Site.path] at hlength
      · intro site hsite
        rcases List.mem_cons.1 hsite with rfl | hsite
        · exact List.prefix_rfl
        · obtain ⟨name, hprefix⟩ := hlonger site hsite
          exact (List.prefix_append _ _).trans hprefix

/-! ## Names cut at their underscores -/

/-- The parts of a name between its underscores. -/
def nameParts (name : String) : List (List Char) := name.toList.splitOn '_'

/-- The parts of the names that make up the name of a field: its own, then those of the
groups around it. -/
def Site.fieldParts (site : Site) : List (List Char) :=
  nameParts site.ownName ++ site.groups.flatMap fun name => nameParts name.text

/-- The parts of the names that make up the name of the object of a group: those of the
groups around it, then its own. -/
def Site.objectParts (site : Site) : List (List Char) :=
  (site.groups ++ [site.argument.longName]).flatMap fun name => nameParts name.text

/-- A name and a suffix after it are cut into the parts of the name and of the names in the
suffix. -/
theorem splitOn_append_pathSuffix (names : List Json) : ∀ start : List Char,
    (start ++ (pathSuffix names).toList).splitOn '_' =
      start.splitOn '_' ++ names.flatMap fun name => nameParts name.text := by
  induction names with
  | nil => intro start; simp [pathSuffix]
  | cons name rest ih =>
    intro start
    -- the underscore before a name of the suffix is where the text is cut
    have hcons : (pathSuffix (name :: rest)).toList =
        '_' :: (name.text.toList ++ (pathSuffix rest).toList) := by
      simp [pathSuffix, String.toList_append]
    rw [hcons, List.splitOn_append_cons_self, ih, List.flatMap_cons]
    rfl

/-- Two texts with the same parts are the same. -/
theorem eq_of_splitOn_eq {first second : List Char}
    (h : first.splitOn '_' = second.splitOn '_') : first = second :=
  calc first = ['_'].intercalate (first.splitOn '_') := (List.intercalate_splitOn '_').symm
    _ = ['_'].intercalate (second.splitOn '_') := by rw [h]
    _ = second := List.intercalate_splitOn '_'

/-- Two fields have one name exactly when their paths run to the same parts. -/
theorem Site.fieldName_eq_iff {first second : Site} :
    first.fieldName = second.fieldName ↔ first.fieldParts = second.fieldParts := by
  have hcut : ∀ site : Site, site.fieldName.toList.splitOn '_' = site.fieldParts := by
    intro site
    rw [fieldName, String.toList_append, suffix, splitOn_append_pathSuffix]
    rfl
  rw [← hcut first, ← hcut second]
  constructor
  · intro h
    rw [h]
  · intro h
    exact String.toList_inj.1 (eq_of_splitOn_eq h)

/-- Two objects have one name exactly when their paths run to the same parts. -/
theorem Site.objectName_eq_iff {first second : Site} :
    first.objectName = second.objectName ↔ first.objectParts = second.objectParts := by
  have hcut : ∀ site : Site, site.innerSuffix.toList.splitOn '_' = [] :: site.objectParts := by
    intro site
    exact splitOn_append_pathSuffix _ []
  have hinner : first.objectName = second.objectName ↔
      first.innerSuffix.toList = second.innerSuffix.toList := by
    rw [objectName, objectName, argumentsObject, argumentsObject, ← String.toList_inj,
      String.toList_append, String.toList_append, List.append_cancel_left_eq]
  rw [hinner]
  constructor
  · intro h
    have hsame := hcut first
    rw [h, hcut second] at hsame
    exact (List.cons.inj hsame).2.symm
  · intro h
    apply eq_of_splitOn_eq
    rw [hcut first, hcut second, h]

/-- A name without an underscore is its own only part. -/
theorem nameParts_of_not_mem {name : String} (h : '_' ∉ name.toList) :
    nameParts name = [name.toList] :=
  List.splitOn_eq_singleton h

/-- Names without underscores are read off their parts. -/
theorem flatMap_nameParts_of_not_mem {names : List Json}
    (h : ∀ name ∈ names.map Json.text, '_' ∉ name.toList) :
    (names.flatMap fun name => nameParts name.text) = (names.map Json.text).map String.toList := by
  induction names with
  | nil => rfl
  | cons name rest ih =>
    rw [List.map_cons, List.forall_mem_cons] at h
    rw [List.flatMap_cons, nameParts_of_not_mem h.1, ih h.2]
    rfl

/-- The names on a path are those of the groups and, the last, its own. -/
theorem Site.path_eq_map_text (site : Site) :
    site.path = (site.groups ++ [site.argument.longName]).map Json.text := by
  rw [List.map_append]
  rfl

/-- Without underscores, the parts of the name of an object are its path. -/
theorem Site.path_eq_of_objectParts_eq {first second : Site}
    (hfirst : ∀ name ∈ first.path, '_' ∉ name.toList)
    (hsecond : ∀ name ∈ second.path, '_' ∉ name.toList)
    (h : first.objectParts = second.objectParts) : first.path = second.path := by
  rw [path_eq_map_text] at hfirst hsecond
  unfold objectParts at h
  rw [flatMap_nameParts_of_not_mem hfirst, flatMap_nameParts_of_not_mem hsecond] at h
  rw [path_eq_map_text, path_eq_map_text]
  exact (List.map_injective_iff.2 fun _ _ => String.toList_inj.1) h

/-- Without underscores, the parts of the name of a field are its own name and then those of
the groups around it. -/
theorem Site.path_eq_of_fieldParts_eq {first second : Site}
    (hfirst : ∀ name ∈ first.path, '_' ∉ name.toList)
    (hsecond : ∀ name ∈ second.path, '_' ∉ name.toList)
    (h : first.fieldParts = second.fieldParts) : first.path = second.path := by
  have hparts : ∀ site : Site, (∀ name ∈ site.path, '_' ∉ name.toList) →
      site.fieldParts = site.ownName.toList :: (site.groups.map Json.text).map String.toList := by
    intro site hsite
    unfold path at hsite
    rw [List.forall_mem_append] at hsite
    rw [fieldParts, nameParts_of_not_mem (hsite.2 _ (List.mem_singleton_self _)),
      flatMap_nameParts_of_not_mem hsite.1]
    rfl
  rw [hparts first hfirst, hparts second hsecond, List.cons.injEq, String.toList_inj] at h
  unfold path
  rw [h.1, (List.map_injective_iff.2 fun _ _ => String.toList_inj.1) h.2]

/-! ## Names that are declared -/

/-- The names of the private fields: one for each surviving member. -/
def Component.fieldNames (component : Component) (options : Options) : List String :=
  (options.memberSites [] component.arguments).map Site.fieldName

/-- The names of the local variables of the method: the object of arguments of the
component, and that of each surviving group. -/
def Component.objectNames (component : Component) (options : Options) : List String :=
  argumentsObject "" :: (options.groupSites [] component.arguments).map Site.objectName

/-- Where paths are all different, names are all different when equal names come from equal
paths. -/
theorem nodup_map_iff_of_nodup_path {sites : List Site} {name : Site → String}
    (h : (sites.map Site.path).Nodup) :
    (sites.map name).Nodup ↔
      ∀ first ∈ sites, ∀ second ∈ sites, name first = name second →
        first.path = second.path := by
  constructor
  · intro hnames first hfirst second hsecond hsame
    rw [List.inj_on_of_nodup_map hnames hfirst hsecond hsame]
  · intro hnames
    apply List.Nodup.map_on ?_ (List.Nodup.of_map _ h)
    intro first hfirst second hsecond hsame
    exact List.inj_on_of_nodup_map h hfirst hsecond (hnames first hfirst second hsecond hsame)

/-- The object of a group never has the name of the object of the component. -/
theorem Site.objectName_ne (site : Site) : site.objectName ≠ argumentsObject "" := by
  intro h
  have hinner : site.innerSuffix.toList = [] := by
    rw [objectName, argumentsObject, argumentsObject, ← String.toList_inj, String.toList_append,
      String.toList_append, List.append_cancel_left_eq] at h
    exact h
  rw [innerSuffix, ← nestedSuffix_pathSuffix, nestedSuffix, String.toList_append,
    String.toList_append] at hinner
  simp at hinner

namespace Component

variable {options : Options} {component : Component}

/-- Fields are declared once unless paths of different members run to the same parts. -/
theorem nodup_fieldNames_iff
    (hpaths : ((options.survivors [] component.arguments).map Site.path).Nodup) :
    (component.fieldNames options).Nodup ↔
      ∀ first ∈ options.memberSites [] component.arguments,
        ∀ second ∈ options.memberSites [] component.arguments,
          first.fieldParts = second.fieldParts → first.path = second.path := by
  have hmembers : ((options.memberSites [] component.arguments).map Site.path).Nodup :=
    hpaths.sublist (List.Sublist.map Site.path List.filter_sublist)
  unfold fieldNames
  rw [nodup_map_iff_of_nodup_path hmembers]
  simp only [Site.fieldName_eq_iff]

/-- Objects are declared once unless paths of different groups run to the same parts. -/
theorem nodup_objectNames_iff
    (hpaths : ((options.survivors [] component.arguments).map Site.path).Nodup) :
    (component.objectNames options).Nodup ↔
      ∀ first ∈ options.groupSites [] component.arguments,
        ∀ second ∈ options.groupSites [] component.arguments,
          first.objectParts = second.objectParts → first.path = second.path := by
  have hgroups : ((options.groupSites [] component.arguments).map Site.path).Nodup :=
    hpaths.sublist (List.Sublist.map Site.path List.filter_sublist)
  -- the object of the component itself never has the name of the object of a group
  have hnew : argumentsObject "" ∉
      (options.groupSites [] component.arguments).map Site.objectName := by
    intro hmem
    obtain ⟨site, -, hsame⟩ := List.mem_map.1 hmem
    exact site.objectName_ne hsame
  unfold objectNames
  rw [List.nodup_cons, and_iff_right hnew, nodup_map_iff_of_nodup_path hgroups]
  simp only [Site.objectName_eq_iff]

end Component

namespace Factory

variable {factory : Factory} {options : Options} {component : Component}
  {signature? : Option String} {text : String}

/-- **When generated names are distinct.**  In the generated content of a component whose
arguments have different names in each list, a field is declared twice exactly when two
members with different paths run to the same parts, once the names on the paths are cut at
their underscores; the same holds of the objects of arguments and the groups.  So no name is
declared twice where no name on the path of a survivor has an underscore. -/
theorem names_nodup_iff (distinct : Argument.DistinctNames component.arguments)
    (h : (factory.content options component signature?).result = .ok text) :
    text = Layout.join (factory.blocks options component signature?) ∧
    ((component.fieldNames options).Nodup ↔
      ∀ first ∈ options.memberSites [] component.arguments,
        ∀ second ∈ options.memberSites [] component.arguments,
          first.fieldParts = second.fieldParts → first.path = second.path) ∧
    ((component.objectNames options).Nodup ↔
      ∀ first ∈ options.groupSites [] component.arguments,
        ∀ second ∈ options.groupSites [] component.arguments,
          first.objectParts = second.objectParts → first.path = second.path) ∧
    ((∀ site ∈ options.survivors [] component.arguments, ∀ name ∈ site.path,
        '_' ∉ name.toList) →
      (component.fieldNames options).Nodup ∧ (component.objectNames options).Nodup) := by
  obtain ⟨lines, hlines, rfl⟩ := content_eq_ok_iff.1 h
  obtain ⟨hresolved, hblocks⟩ := contentLines_eq_blocks hlines
  have hnamed : ∀ site ∈ options.survivors [] component.arguments,
      ∃ name, site.argument.longName = .str name := by
    intro site hsite
    obtain ⟨resolved, hsite⟩ := hresolved site hsite
    exact ⟨resolved.longName, Site.longName_of_resolve hsite⟩
  have hpaths := Options.nodup_path_survivors component.arguments distinct [] hnamed
  have hfields := Component.nodup_fieldNames_iff hpaths
  have hobjects := Component.nodup_objectNames_iff hpaths
  refine ⟨congrArg Layout.join hblocks, hfields, hobjects, ?_⟩
  intro hplain
  constructor
  · rw [hfields]
    intro first hfirst second hsecond
    exact Site.path_eq_of_fieldParts_eq (hplain first (List.mem_of_mem_filter hfirst))
      (hplain second (List.mem_of_mem_filter hsecond))
  · rw [hobjects]
    intro first hfirst second hsecond
    exact Site.path_eq_of_objectParts_eq (hplain first (List.mem_of_mem_filter hfirst))
      (hplain second (List.mem_of_mem_filter hsecond))

end Factory

/-- No name on a path of the sample component has an underscore, and no name is declared
twice in its content. -/
theorem Component.names_sample :
    Argument.DistinctNames Component.sample.arguments ∧
      (Factory.trainer.content .withoutOld .sample none).result.isOk = true ∧
      (Component.sample.fieldNames .withoutOld).Nodup ∧
      (Component.sample.objectNames .withoutOld).Nodup := by
  have hdistinct : Argument.DistinctNames Component.sample.arguments := by
    simp [Component.sample, Argument.DistinctNames, Argument.DistinctInside, Argument.longName,
      Argument.declaration, Declaration.ofType]
  have hok : (Factory.trainer.content .withoutOld .sample none).result.isOk = true := by
    decide +kernel
  obtain ⟨text, h⟩ := exists_of_isOk hok
  exact ⟨hdistinct, hok, (Factory.names_nodup_iff hdistinct h).2.2.2 (by decide +kernel)⟩

/-- A component with a member `x_sub` beside a group `sub` that holds a member `x`, and with
a group `sub_y` beside the group `y` inside `sub`. -/
def Component.colliding : Component where
  name := .str "pca_trainer"
  kind := .str "trainer"
  argumentsType := .str "Options"
  implementationType := .str "PcaTrainer"
  arguments :=
    [.member (.ofType "x_sub" (.named .integer "")),
      .group (.ofType "sub" (.named .object "Sub"))
        [.member (.ofType "x" (.named .integer "")),
          .group (.ofType "y" (.named .object "Inner"))
            [.member (.ofType "z" (.named .integer ""))]],
      .group (.ofType "sub_y" (.named .object "Outer"))
        [.member (.ofType "w" (.named .integer ""))]]
  summary := .null

/-- Names that differ in each list do not make the declared names differ: one field and one
object of arguments are declared twice. -/
theorem Component.names_colliding :
    Argument.DistinctNames Component.colliding.arguments ∧
      (∃ lines,
        (Factory.trainer.content .standard .colliding none).result = .ok (Layout.join lines) ∧
        lines.count "private int x_sub;" = 2 ∧
        "    var args_sub_y = new Inner();" ∈ lines ∧
        "    var args_sub_y = new Outer();" ∈ lines) ∧
      ¬ (Component.colliding.fieldNames .standard).Nodup ∧
      ¬ (Component.colliding.objectNames .standard).Nodup := by
  have hdistinct : Argument.DistinctNames Component.colliding.arguments := by
    simp [Component.colliding, Argument.DistinctNames, Argument.DistinctInside,
      Argument.longName, Argument.declaration, Declaration.ofType]
  have hok : (Factory.trainer.contentLines .standard .colliding none).result.isOk = true := by
    decide +kernel
  obtain ⟨lines, h⟩ := exists_of_isOk hok
  obtain ⟨-, rfl⟩ := Factory.contentLines_eq_blocks h
  have hcontent := Factory.content_eq_ok_iff.2 ⟨_, h, rfl⟩
  exact ⟨hdistinct, ⟨_, hcontent, by decide +kernel, by decide +kernel, by decide +kernel⟩,
    by decide +kernel, by decide +kernel⟩

end CatalogClasses
