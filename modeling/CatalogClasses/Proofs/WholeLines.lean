/-
# Lines that stay whole

The content of a class is joined to one text, and its lines are cut from this text again when
the class is put together.  A line that holds a line boundary comes out of this in two.  With
names that have no boundary, this can only happen to a field whose initial value is no single
line.  The main statement says that each line of the content stands in the class as it was
written just when there is no such field.

Main definitions:

* `Site.keepsLine` : the field of a member is one line;
* `Component.NamesUnbroken` : the names in a component have no line boundary.
-/
import CatalogClasses.Proofs.LiteralLines
import CatalogClasses.SourceFile

namespace CatalogClasses

/-! ## The lines of a class -/

section Lines

variable {typeName : Json} {name : String}

/-- A field is whole lines just when its initial value is one line. -/
theorem unbroken_fieldLines_iff (htype : Unbroken typeName.text) (hname : Unbroken name)
    (initial? : Option String) :
    (∀ line ∈ fieldLines typeName name initial?, Unbroken line) ↔
      ∀ text, initial? = some text → Unbroken text := by
  have hdeclared : Unbroken ("private " ++ typeName.text ++ " " ++ name) :=
    ((Unbroken.append (by decide) htype).append (by decide)).append hname
  have hrest : Unbroken " = " ∧ Unbroken ";" ∧ Unbroken "" := by decide
  cases initial? with
  | none => simp [fieldLines, hdeclared.append hrest.2.1, hrest]
  | some text =>
    have hfield : Unbroken ("private " ++ typeName.text ++ " " ++ name ++ (" = " ++ text) ++ ";") ↔
        Unbroken text := by
      constructor
      · intro h
        exact (unbroken_append.1 (unbroken_append.1 (unbroken_append.1 h).1).2).2
      · intro h
        exact (hdeclared.append (hrest.1.append h)).append hrest.2.1
    simp only [fieldLines, List.forall_mem_cons, List.not_mem_nil, false_implies, implies_true,
      and_true, hrest, Option.some.injEq, forall_eq']
    exact hfield

/-- A property is whole lines, whatever the help text. -/
theorem unbroken_propertyLines (htype : Unbroken typeName.text) (hname : Unbroken name)
    (isBoolean : Bool) (help : Json) :
    ∀ line ∈ propertyLines typeName name isBoolean help, Unbroken line := by
  have hcapital : Unbroken (capitalized name) := unbroken_ofList.2 (Text.oneLine_capitalize hname)
  intro line hline
  rcases List.mem_append.1 hline with hline | hline
  · exact (Layout.isCommentLine_iff.1 (isCommentLine_summaryLines _ line hline)).2
  · simp only [List.mem_cons, List.not_mem_nil, or_false] at hline
    rcases hline with rfl | rfl | rfl | rfl | rfl | rfl
    · exact ((Unbroken.append (by decide) htype).append (by decide)).append hcapital
    · decide
    · exact (Unbroken.append (by decide) hname).append (by decide)
    · exact (Unbroken.append (by decide) hname).append (by decide)
    · decide
    · decide

/-- The statement that assigns a member is one line. -/
theorem unbroken_assignmentLine {longName suffix : String} {columnType : Json}
    (hlong : Unbroken longName) (hname : Unbroken name) (hsuffix : Unbroken suffix)
    (hcolumn : Unbroken columnType.text) (shape : Shape) (lifted : Bool) :
    Unbroken (assignmentLine shape longName name suffix columnType lifted) := by
  have htarget : Unbroken (argumentsObject suffix ++ "." ++ longName) :=
    ((Unbroken.append (by decide) hsuffix).append (by decide)).append hlong
  unfold assignmentLine
  split
  · exact ((((htarget.append (by decide)).append hname).append (by decide)).append
      hcolumn).append (by decide)
  · exact ((htarget.append (by decide)).append hname).append (by decide)
  · exact ((htarget.append (by decide)).append hname).append (by decide)

/-- The statement that makes the object of a group is one line. -/
theorem unbroken_groupOpenLine {suffix : String} (htype : Unbroken typeName.text)
    (hsuffix : Unbroken suffix) : Unbroken (groupOpenLine typeName suffix) :=
  ((((Unbroken.append (by decide) (Unbroken.append (by decide) hsuffix)).append
    (by decide)).append htype).append (by decide))

/-- The statement that assigns the object of a group is one line. -/
theorem unbroken_groupCloseLine {longName parentSuffix suffix : String}
    (hlong : Unbroken longName) (hparent : Unbroken parentSuffix) (hsuffix : Unbroken suffix) :
    Unbroken (groupCloseLine longName parentSuffix suffix) :=
  (((((Unbroken.append (by decide) hparent).append (by decide)).append hlong).append
    (by decide)).append (Unbroken.append (by decide) hsuffix)).append (by decide)

end Lines

/-! ## Places -/

mutual

/-- No name in a declaration inside the argument has a line boundary. -/
def Argument.NamesUnbrokenInside : Argument → Prop
  | .member _ => True
  | .group _ arguments => Argument.NamesUnbroken arguments

/-- No name in a declaration has a line boundary, at every depth. -/
def Argument.NamesUnbroken : List Argument → Prop
  | [] => True
  | argument :: rest =>
      argument.declaration.NamesUnbroken ∧ argument.NamesUnbrokenInside ∧
        Argument.NamesUnbroken rest

end

namespace Site

/-- No name in the declaration or of a group around the place has a line boundary. -/
structure NamesUnbroken (site : Site) : Prop where
  declaration : site.argument.declaration.NamesUnbroken
  groups : ∀ name ∈ site.groups, Unbroken name.text

/-- The field of a member is one line. -/
def keepsLine (options : Options) (site : Site) : Bool :=
  match site.argument.classify with
  | .ok shape => site.argument.declaration.keepsLine options shape
  | .error _ => true

end Site

theorem unbroken_pathSuffix {groups : List Json} (h : ∀ name ∈ groups, Unbroken name.text) :
    Unbroken (pathSuffix groups) := by
  induction groups with
  | nil => decide
  | cons name rest ih =>
    obtain ⟨hname, hrest⟩ := List.forall_mem_cons.1 h
    rw [pathSuffix, List.map_cons, String.join_cons]
    exact (Unbroken.append (by decide) hname).append (ih hrest)

namespace Site.NamesUnbroken

variable {site : Site} {options : Options} (h : site.NamesUnbroken)

include h

theorem ownName : Unbroken site.ownName := h.declaration.longName

theorem suffix : Unbroken site.suffix := unbroken_pathSuffix h.groups

theorem fieldName : Unbroken site.fieldName := h.ownName.append h.suffix

theorem innerSuffix : Unbroken site.innerSuffix := by
  apply unbroken_pathSuffix
  intro name hname
  rcases List.mem_append.1 hname with hname | hname
  · exact h.groups name hname
  · rw [List.mem_singleton.1 hname]
    exact h.declaration.longName

/-- The name of the type of a resolved argument is one line. -/
theorem typeName {resolved : Resolved} (hresolved : site.resolve options = .ok resolved) :
    Unbroken resolved.typeName.text := by
  obtain ⟨shape, typeName, longName, initializer, -, htype, -, -, rfl⟩ :=
    Argument.resolve_eq_ok_iff.1 hresolved
  exact h.declaration.typeName htype

/-- The field of a member is whole lines just when its initial value is one line. -/
theorem fieldChunk_iff {resolved : Resolved} (hresolved : site.resolve options = .ok resolved) :
    (∀ line ∈ site.fieldChunk options, Unbroken line) ↔ site.keepsLine options = true := by
  have htype := h.typeName hresolved
  rw [Site.fieldChunk, Site.rendered_of_resolve hresolved,
    unbroken_fieldLines_iff htype h.fieldName]
  obtain ⟨shape, typeName, longName, initializer, hshape, -, -, hinitial, rfl⟩ :=
    Argument.resolve_eq_ok_iff.1 hresolved
  rw [Site.keepsLine, hshape]
  exact Declaration.unbroken_initial_iff h.declaration hinitial

theorem propertyChunk : ∀ line ∈ site.propertyChunk options, Unbroken line := by
  unfold Site.propertyChunk Site.rendered
  cases hresolved : site.resolve options with
  | error fault =>
    intro line hline
    cases hline
  | ok resolved => exact unbroken_propertyLines (h.typeName hresolved) h.fieldName _ _

theorem assignment : ∀ line ∈ site.assignment options, Unbroken line := by
  apply Site.forall_mem_rendered
  intro resolved line hline
  rw [List.mem_singleton.1 hline]
  exact unbroken_assignmentLine h.ownName h.fieldName h.suffix h.declaration.columnName _ _

theorem opening : ∀ line ∈ site.opening options, Unbroken line := by
  unfold Site.opening Site.rendered
  cases hresolved : site.resolve options with
  | error fault =>
    intro line hline
    cases hline
  | ok resolved =>
    intro line hline
    rw [List.mem_singleton.1 hline]
    exact unbroken_groupOpenLine (h.typeName hresolved) h.innerSuffix

theorem closing : ∀ line ∈ site.closing options, Unbroken line := by
  apply Site.forall_mem_rendered
  intro resolved line hline
  rw [List.mem_singleton.1 hline]
  exact unbroken_groupCloseLine h.ownName h.suffix h.innerSuffix

end Site.NamesUnbroken

namespace Options

variable {options : Options}

/-- Where no name has a line boundary, none of a survivor has. -/
theorem namesUnbroken_of_mem_survivors (arguments : List Argument) :
    Argument.NamesUnbroken arguments →
      ∀ groups : List Json, (∀ name ∈ groups, Unbroken name.text) →
        ∀ site ∈ options.survivors groups arguments, site.NamesUnbroken := by
  induction arguments using Argument.list_induction with
  | nil => intro _ groups _ site hsite; cases hsite
  | member declaration rest ih =>
    rintro ⟨hhere, -, hrest⟩ groups hgroups site hsite
    rw [survivors_member] at hsite
    rcases List.mem_append.1 hsite with hsite | hsite
    · split at hsite
      · rw [List.mem_singleton.1 hsite]
        exact ⟨hhere, hgroups⟩
      · cases hsite
    · exact ih hrest groups hgroups site hsite
  | group declaration inner rest ihInner ih =>
    rintro ⟨hhere, hinner, hrest⟩ groups hgroups site hsite
    rw [survivors_group] at hsite
    rcases List.mem_append.1 hsite with hsite | hsite
    · split at hsite
      · rcases List.mem_cons.1 hsite with rfl | hsite
        · exact ⟨hhere, hgroups⟩
        · refine ihInner hinner (groups ++ [declaration.longName]) ?_ site hsite
          intro name hname
          rcases List.mem_append.1 hname with hname | hname
          · exact hgroups name hname
          · rw [List.mem_singleton.1 hname]
            exact hhere.longName
      · cases hsite
    · exact ih hrest groups hgroups site hsite

/-- Every statement is one of a survivor. -/
theorem exists_survivor_of_mem_statements (arguments : List Argument) :
    ∀ groups, ∀ line ∈ options.statements groups arguments,
      ∃ site ∈ options.survivors groups arguments, line ∈ site.assignment options ∨
        line ∈ site.opening options ∨ line ∈ site.closing options := by
  induction arguments using Argument.list_induction with
  | nil => intro groups line hline; cases hline
  | member declaration rest ih =>
    intro groups line hline
    rw [statements_member] at hline
    rw [survivors_member]
    rcases List.mem_append.1 hline with hline | hline
    · split at hline
      · next hk =>
        rw [if_pos hk]
        exact ⟨_, List.mem_cons_self, .inl hline⟩
      · cases hline
    · obtain ⟨site, hsite, hmade⟩ := ih groups line hline
      exact ⟨site, List.mem_append_right _ hsite, hmade⟩
  | group declaration inner rest ihInner ih =>
    intro groups line hline
    rw [statements_group] at hline
    rw [survivors_group]
    rcases List.mem_append.1 hline with hline | hline
    · split at hline
      · next hk =>
        rw [if_pos hk]
        rcases List.mem_append.1 hline with hline | hline
        · rcases List.mem_append.1 hline with hline | hline
          · exact ⟨_, List.mem_cons_self, .inr (.inl hline)⟩
          · obtain ⟨site, hsite, hmade⟩ := ihInner _ line hline
            exact ⟨site, List.mem_append_left _ (List.mem_cons_of_mem _ hsite), hmade⟩
        · exact ⟨_, List.mem_cons_self, .inr (.inr hline)⟩
      · cases hline
    · obtain ⟨site, hsite, hmade⟩ := ih groups line hline
      exact ⟨site, List.mem_append_right _ hsite, hmade⟩

end Options

/-! ## The class of a component -/

/-- No name in the component that its class mentions has a line boundary. -/
structure Component.NamesUnbroken (component : Component) : Prop where
  argumentsType : Unbroken component.argumentsType.text
  implementationType : Unbroken component.implementationType.text
  arguments : Argument.NamesUnbroken component.arguments

namespace Component.NamesUnbroken

variable {options : Options} {component : Component} (h : component.NamesUnbroken)

include h

theorem survivors : ∀ site ∈ options.survivors [] component.arguments, site.NamesUnbroken :=
  Options.namesUnbroken_of_mem_survivors component.arguments h.arguments []
    fun _ hname => nomatch hname

theorem members : ∀ site ∈ options.memberSites [] component.arguments, site.NamesUnbroken :=
  fun site hsite => h.survivors site (List.mem_filter.1 hsite).1

/-- The fields are whole lines just when the field of each surviving member is one line. -/
theorem fields_iff (hresolved : ∀ site ∈ options.survivors [] component.arguments,
      ∃ resolved, site.resolve options = .ok resolved) :
    (∀ line ∈ (options.memberSites [] component.arguments).flatMap (Site.fieldChunk options),
      Unbroken line) ↔
      ∀ site ∈ options.memberSites [] component.arguments, site.keepsLine options = true := by
  have hchunk : ∀ site ∈ options.memberSites [] component.arguments,
      ((∀ line ∈ site.fieldChunk options, Unbroken line) ↔ site.keepsLine options = true) := by
    intro site hsite
    obtain ⟨resolved, hr⟩ := hresolved site (List.mem_filter.1 hsite).1
    exact (h.members site hsite).fieldChunk_iff hr
  constructor
  · intro hall site hsite
    rw [← hchunk site hsite]
    exact fun line hline => hall line (List.mem_flatMap.2 ⟨site, hsite, hline⟩)
  · intro hall line hline
    obtain ⟨site, hsite, hline⟩ := List.mem_flatMap.1 hline
    exact (hchunk site hsite).2 (hall site hsite) line hline

theorem properties :
    ∀ line ∈ (options.memberSites [] component.arguments).flatMap (Site.propertyChunk options),
      Unbroken line := by
  intro line hline
  obtain ⟨site, hsite, hline⟩ := List.mem_flatMap.1 hline
  exact (h.members site hsite).propertyChunk line hline

theorem statements : ∀ line ∈ options.statements [] component.arguments, Unbroken line := by
  intro line hline
  obtain ⟨site, hsite, hmade⟩ := Options.exists_survivor_of_mem_statements _ _ line hline
  rcases hmade with hmade | hmade | hmade
  · exact (h.survivors site hsite).assignment line hmade
  · exact (h.survivors site hsite).opening line hmade
  · exact (h.survivors site hsite).closing line hmade

theorem prologue : Unbroken (Factory.prologue component) :=
  (Unbroken.append (by decide) h.argumentsType).append (by decide)

theorem epilogue (factory : Factory) : Unbroken (factory.epilogue component) := by
  have hconstructor : Unbroken factory.constructorArguments := by cases factory <;> decide
  exact ((Unbroken.append (by decide) h.implementationType).append hconstructor).append (by decide)

end Component.NamesUnbroken

namespace Factory

variable {factory : Factory} {options : Options} {component : Component}

/-- The lines of the content are whole just when the fields of the surviving members are. -/
theorem unbroken_contentLines_iff (h : component.NamesUnbroken) {lines : List String}
    (hlines : (factory.contentLines options component none).result = .ok lines) :
    (∀ line ∈ lines, Unbroken line) ↔
      ∀ site ∈ options.memberSites [] component.arguments, site.keepsLine options = true := by
  obtain ⟨hresolved, rfl⟩ := contentLines_eq_blocks hlines
  have hsignature : ∀ line ∈ [Layout.line 0 (factory.chosenSignature none), "\x7b"],
      Unbroken line := by
    cases factory <;> decide
  have hbody : ∀ line ∈ (prologue component :: options.statements [] component.arguments ++
      [factory.epilogue component]).map ("    " ++ ·), Unbroken line := by
    intro line hline
    obtain ⟨statement, hstatement, rfl⟩ := List.mem_map.1 hline
    refine Unbroken.append (by decide) ?_
    rcases List.mem_append.1 hstatement with hstatement | hstatement
    · rcases List.mem_cons.1 hstatement with rfl | hstatement
      · exact h.prologue
      · exact h.statements statement hstatement
    · rw [List.mem_singleton.1 hstatement]
      exact h.epilogue factory
  have hclosing : ∀ line ∈ ["\x7d"], Unbroken line := by decide
  rw [← h.fields_iff hresolved]
  unfold blocks
  simp only [List.forall_mem_append]
  constructor
  · rintro ⟨⟨⟨⟨hfields, -⟩, -⟩, -⟩, -⟩
    exact hfields
  · intro hfields
    exact ⟨⟨⟨⟨hfields, h.properties⟩, hsignature⟩, hbody⟩, hclosing⟩

end Factory

/-- Joined lines are cut at their ends alone just when they are whole. -/
theorem Layout.split_join_eq_iff {lines : List String} :
    split (join lines) = lines ↔ ∀ line ∈ lines, Unbroken line := by
  constructor
  · intro h line hline
    rw [← h] at hline
    obtain ⟨chars, hchars, rfl⟩ := List.mem_map.1 hline
    exact unbroken_ofList.2 (Text.isBreak_of_mem_splitLines _ chars hchars)
  · intro h
    rw [split_join]
    induction lines with
    | nil => rfl
    | cons line rest ih =>
      obtain ⟨hline, hrest⟩ := List.forall_mem_cons.1 h
      rw [List.flatMap_cons, split_lineFeed hline, ih hrest]
      rfl

namespace SourceFile

/-- Different lines are different inside a class. -/
theorem indented_injective : Function.Injective indented := by
  intro first second h
  have hspaces : ∀ line : String, "    " ++ line ≠ "" := by
    intro line hempty
    have hchars := congrArg String.toList hempty
    rw [String.toList_append] at hchars
    cases hchars
  unfold indented at h
  split at h
  · next hfirst =>
    split at h
    · next hsecond => rw [hfirst, hsecond]
    · exact absurd h.symm (hspaces second)
  · split at h
    · exact absurd h (hspaces first)
    · exact (String.append_right_inj _).1 h

variable {factory : Factory} {options : Options} {component : Component}
  {summary lines : List String} {name : String}

/-- The class is put together from the lines that are cut from its content. -/
theorem classLines_eq (hkind : Factory.ofWord component.kind = .ok factory)
    (hsummary : componentSummary component = .ok summary)
    (hname : className options component = .ok name)
    (hlines : (factory.contentLines options component none).result = .ok lines) :
    (classLines options component).result =
      .ok (summary ++ ["public sealed partial class " ++ name, "\x7b"] ++
        (Layout.split (Layout.join lines)).map indented ++ ["\x7d"]) := by
  have hcontent : (component.content options none).result = .ok (Layout.join lines) := by
    rw [Component.content, Logged.result_bind, Logged.result_lift, hkind]
    exact Factory.content_eq_ok_iff.2 ⟨lines, hlines, rfl⟩
  exact classLines_eq_ok_iff.2 ⟨_, summary, name, hcontent, hsummary, hname, rfl⟩

/-- **The lines of a class are whole but for texts in defaults.**  Let no name in a component
have a line boundary.  If its content is generated, the lines of its class are a summary, the
first line, and between braces a body; and the body is the lines of the content, each of them
written inside the class, just when the defaults of the surviving members are kept in one
line. -/
theorem classLines_whole_iff (hnames : component.NamesUnbroken)
    (hkind : Factory.ofWord component.kind = .ok factory)
    (hsummary : componentSummary component = .ok summary)
    (hname : className options component = .ok name)
    (hlines : (factory.contentLines options component none).result = .ok lines) :
    ∃ body, (classLines options component).result =
        .ok (summary ++ ["public sealed partial class " ++ name, "\x7b"] ++ body ++ ["\x7d"]) ∧
      (body = lines.map indented ↔
        ∀ site ∈ options.memberSites [] component.arguments, site.keepsLine options = true) := by
  refine ⟨_, classLines_eq hkind hsummary hname hlines, ?_⟩
  rw [List.map_inj_right fun _ _ h => indented_injective h, Layout.split_join_eq_iff,
    Factory.unbroken_contentLines_iff hnames hlines]

end SourceFile

/-- A member with this name, a type of a plain kind and a default. -/
def Argument.withDefault (name : String) (kind : PlainKind) (value : String) : Argument :=
  .member { Declaration.ofType name (.named kind "") with default? := some (.str value) }

/-- The names of such a member have no line boundary if its own name has none. -/
theorem Argument.namesUnbroken_withDefault {name : String} (h : Unbroken name) (kind : PlainKind)
    (value : String) : (Argument.withDefault name kind value).declaration.NamesUnbroken := by
  have htype : (SchemaType.named kind "").NamesUnbroken := (by decide : Unbroken "")
  refine ⟨h, ?_, ?_⟩
  · rintro type ⟨⟩
    exact htype
  · rintro type ⟨⟩
    exact htype

/-- The sample component with the defaults of a character and a string. -/
def Component.withDefaults (separator title : String) : Component :=
  { Component.sample with
    arguments := [.withDefault "sep" .char separator, .withDefault "title" .string title] }

theorem Component.namesUnbroken_withDefaults (separator title : String) :
    (Component.withDefaults separator title).NamesUnbroken :=
  ⟨(by decide : Unbroken "Options"), (by decide : Unbroken "PcaTrainer"),
    Argument.namesUnbroken_withDefault (by decide) _ _, trivial,
    Argument.namesUnbroken_withDefault (by decide) _ _, trivial, trivial⟩

theorem Component.className_withDefaults (separator title : String) :
    SourceFile.className .standard (.withDefaults separator title) = .ok "PcaTrainer" := by
  have hname : String.ofList (Text.pascalCase "pca_trainer".toList) ++ "" = "PcaTrainer" := by
    decide +kernel
  exact congrArg Except.ok hname

/-- A line feed in a string is escaped, so that the class has the lines of the content. -/
theorem SourceFile.classLines_of_escaped :
    ∃ lines, (Factory.trainer.contentLines .standard (.withDefaults "," "one\ntwo") none).result =
        .ok lines ∧
      (classLines .standard (.withDefaults "," "one\ntwo")).result =
        .ok (["public sealed partial class " ++ "PcaTrainer", "\x7b"] ++ lines.map indented ++
          ["\x7d"]) := by
  have hok : (Factory.trainer.contentLines .standard (.withDefaults "," "one\ntwo")
      none).result.isOk = true := by decide +kernel
  have hname := Component.className_withDefaults "," "one\ntwo"
  obtain ⟨lines, hlines⟩ := exists_of_isOk hok
  obtain ⟨body, hclass, hbody⟩ := classLines_whole_iff
    (Component.namesUnbroken_withDefaults "," "one\ntwo") rfl rfl hname hlines
  rw [hbody.2 (by decide +kernel)] at hclass
  exact ⟨lines, hlines, hclass⟩

/-- A line feed in a character and a line separator in a string break the lines of both fields
in the class. -/
theorem SourceFile.classLines_of_breaking :
    (Component.withDefaults "\n" "one\u2028two").NamesUnbroken ∧
      ∃ lines body,
        (Factory.trainer.contentLines .standard (.withDefaults "\n" "one\u2028two") none).result =
          .ok lines ∧
        lines.take 3 =
          ["private char sep = '\n';", "", "private string title = \"one\u2028two\";"] ∧
        (classLines .standard (.withDefaults "\n" "one\u2028two")).result =
          .ok (["public sealed partial class " ++ "PcaTrainer", "\x7b"] ++ body ++ ["\x7d"]) ∧
        body.take 5 = ["    private char sep = '", "    ';", "",
          "    private string title = \"one", "    two\";"] := by
  have hok : (Factory.trainer.contentLines .standard (.withDefaults "\n" "one\u2028two")
      none).result.isOk = true := by decide +kernel
  have hname := Component.className_withDefaults "\n" "one\u2028two"
  obtain ⟨lines, hlines⟩ := exists_of_isOk hok
  obtain ⟨-, hblocks⟩ := Factory.contentLines_eq_blocks hlines
  refine ⟨Component.namesUnbroken_withDefaults _ _, lines, _, hlines, ?_,
    classLines_eq rfl rfl hname hlines, ?_⟩
  · rw [hblocks]
    decide +kernel
  · rw [hblocks, Layout.split_join]
    decide +kernel

end CatalogClasses
