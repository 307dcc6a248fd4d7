/-
# Files are put together from classes

The classes of a file are generated one by one, and none depends on another.  The file is a part
before the classes, the block of each class with an empty line between any two, and a part after
them.  If some class cannot be generated, there is no file, and the fault is that of the first
such class.  The name of a class is asked for once more before the class is generated, so the
fault may be another one if the ending of class names is no text; and no file at all is generated
if the options do not tell which namespaces are opened.

Main definitions:

* `SourceFile.Generated` : the classes that are generated for some components;
* `SourceFile.classPart` : the lines of the classes, as they stand in the file;
* `SourceFile.opening`, `SourceFile.closing` : the lines before and after them.
-/
import CatalogClasses.CommandLine.Run
import CatalogClasses.Proofs.Failures
import CatalogClasses.Proofs.FirstPass

namespace CatalogClasses

/-! ## Parts of a file -/

namespace SourceFile

/-- The level at which classes are written: one, if they are inside a namespace. -/
def classLevel (options : Options) : Int := if options.namespaceName.isTruthy then 1 else 0

/-- The lines of classes as they stand in a file: the block of each class, with an empty line
between any two. -/
def classPart (options : Options) (classes : List (List String)) : List String :=
  separated (classes.map (Layout.lines (classLevel options)))

/-- The classes are those that are generated for the components, one for each, in order. -/
def Generated (options : Options) (components : List Component) (classes : List (List String)) :
    Prop :=
  components.map (fun component => (classLines options component).result) = classes.map .ok

/-- The lines that begin a namespace, if there is one. -/
def namespaceOpening (options : Options) : List String :=
  if options.namespaceName.isTruthy then
    Layout.lines 0 ["namespace " ++ options.namespaceName.text, "\x7b"]
  else []

/-- The lines before the classes of a file that begins with a text. -/
def opening (options : Options) (head : String) : List String :=
  headLines head ++ namespaceOpening options

/-- The lines after the classes. -/
def closing (options : Options) : List String :=
  if options.namespaceName.isTruthy then Layout.lines 0 ["\x7d"] else []

/-- The start of a file can be written if the options tell which namespaces are opened. -/
theorem exists_headText {options : Options} {names : List Json}
    (h : options.usings.parts = .ok names) (comment : String) :
    ∃ head, headText options comment = .ok head := by
  rw [headText, h, ok_bind]
  exact ⟨_, rfl⟩

/-! ## Blocks one after another -/

theorem separated_cons (block : List String) {rest : List (List String)} (h : rest ≠ []) :
    separated (block :: rest) = block ++ "" :: separated rest := by
  cases rest with
  | nil => exact absurd rfl h
  | cons next rest => rfl

/-- Between the blocks of two parts there is one more empty line. -/
theorem separated_append {first second : List (List String)} (hfirst : first ≠ [])
    (hsecond : second ≠ []) :
    separated (first ++ second) = separated first ++ "" :: separated second := by
  induction first with
  | nil => exact absurd rfl hfirst
  | cons block rest ih =>
    by_cases hrest : rest = []
    · rw [hrest, List.singleton_append, separated_cons block hsecond]
      rfl
    · have hall : rest ++ second ≠ [] := fun h => hrest (List.append_eq_nil_iff.1 h).1
      rw [List.cons_append, separated_cons block hall, ih hrest, separated_cons block hrest,
        List.append_assoc, List.cons_append]

/-- Blocks are written at a level block by block. -/
theorem lines_separated (level : Int) (blocks : List (List String)) :
    Layout.lines level (separated blocks) = separated (blocks.map (Layout.lines level)) := by
  induction blocks with
  | nil => rfl
  | cons block rest ih =>
    by_cases hrest : rest = []
    · rw [hrest]
      rfl
    · have hwritten : rest.map (Layout.lines level) ≠ [] := fun h => hrest (List.map_eq_nil_iff.1 h)
      rw [separated_cons block hrest, Layout.lines_append, List.map_cons,
        separated_cons _ hwritten, ← ih]
      rfl

/-- The start of a file and its body are the classes with the lines around them. -/
theorem append_bodyLines (options : Options) (head : List String) (classes : List (List String)) :
    head ++ bodyLines options.namespaceName (separated classes) =
      head ++ namespaceOpening options ++ classPart options classes ++ closing options := by
  rw [classPart, ← lines_separated]
  unfold bodyLines namespaceOpening closing classLevel
  split
  · simp only [List.append_assoc]
  · simp only [List.append_nil]

/-- Between the blocks of two lists of classes there is an empty line. -/
theorem classPart_append (options : Options) {first second : List (List String)}
    (hfirst : first ≠ []) (hsecond : second ≠ []) :
    classPart options (first ++ second) =
      classPart options first ++ "" :: classPart options second := by
  rw [classPart, List.map_append]
  exact separated_append (fun h => hfirst (List.map_eq_nil_iff.1 h))
    fun h => hsecond (List.map_eq_nil_iff.1 h)

/-- Some lines begin and end with a line that is not empty. -/
def Enclosed (lines : List String) : Prop :=
  (∃ first ∈ lines.head?, first ≠ "") ∧ ∃ last ∈ lines.getLast?, last ≠ ""

/-- A line that is not blank is not written as an empty one. -/
theorem line_ne_empty {text : String} (h : Text.allBlank text.toList = false) (level : Int) :
    Layout.line level text ≠ "" := by
  intro hempty
  rw [Layout.line_of_visible h] at hempty
  have hchars := congrArg String.toList hempty
  rw [String.toList_append] at hchars
  obtain ⟨-, htext⟩ := List.append_eq_nil_iff.1 hchars
  rw [htext] at h
  cases h

/-- A summary has no blank line. -/
theorem visible_componentSummary {component : Component} {summary : List String}
    (h : componentSummary component = .ok summary) :
    ∀ line ∈ summary, Text.allBlank line.toList = false := by
  unfold componentSummary at h
  split at h
  · split at h
    · obtain rfl := Except.ok.inj h
      exact visible_summaryOfLines _
    · cases h
  · obtain rfl := Except.ok.inj h
    nofun

/-- A block begins with a summary or the first line of its class, and it ends with a brace. -/
theorem enclosed_of_classLines {options : Options} {component : Component} {lines : List String}
    (h : (classLines options component).result = .ok lines) (level : Int) :
    Enclosed (Layout.lines level lines) := by
  obtain ⟨content, summary, name, -, hsummary, -, rfl⟩ := classLines_eq_ok_iff.1 h
  constructor
  · cases summary with
    | nil => exact ⟨_, rfl, line_ne_empty (visible_append (by decide) name) level⟩
    | cons first rest =>
      have hfirst := visible_componentSummary hsummary first List.mem_cons_self
      exact ⟨_, rfl, line_ne_empty hfirst level⟩
  · refine ⟨Layout.line level "\x7d", ?_, line_ne_empty (by decide) level⟩
    rw [Layout.lines_append]
    exact List.getLast?_concat

/-! ## Classes one after another -/

theorem result_classBlocks_cons (options : Options) (component : Component)
    (rest : List Component) :
    (classBlocks options (component :: rest)).result =
      (className options component >>= fun _ =>
        (classLines options component).result >>= fun lines =>
          (classBlocks options rest).result >>= fun others => .ok (lines :: others)) := by
  rw [classBlocks]
  simp only [Logged.result_bind, Logged.result_lift, Logged.result_note, Logged.result_pure,
    ok_bind]

/-- The classes of a list are generated when each of them is. -/
theorem classBlocks_eq_ok_iff {options : Options} {components : List Component} :
    ∀ {classes}, (classBlocks options components).result = .ok classes ↔
      Generated options components classes := by
  induction components with
  | nil =>
    intro classes
    cases classes with
    | nil => exact iff_of_true rfl rfl
    | cons => exact iff_of_false nofun nofun
  | cons component rest ih =>
    intro classes
    rw [result_classBlocks_cons, Generated, List.map_cons]
    constructor
    · intro h
      obtain ⟨-, -, h⟩ := bind_eq_ok_iff.1 h
      obtain ⟨lines, hlines, h⟩ := bind_eq_ok_iff.1 h
      obtain ⟨others, hothers, h⟩ := bind_eq_ok_iff.1 h
      obtain rfl := Except.ok.inj h
      rw [hlines, List.map_cons, ih.1 hothers]
    · intro h
      cases classes with
      | nil => cases h
      | cons lines others =>
        obtain ⟨hlines, hothers⟩ := List.cons.inj h
        obtain ⟨-, -, name, -, -, hname, -⟩ := classLines_eq_ok_iff.1 hlines
        rw [hname, ok_bind, hlines, ok_bind, ih.2 hothers]
        rfl

/-- If the classes before it are generated and it has a name, a class that is not generated
leaves its fault. -/
theorem classBlocks_of_first_fault {options : Options} {before after : List Component}
    {component : Component} {name : String} {fault : Fault}
    (hbefore : ∀ earlier ∈ before, ∃ lines, (classLines options earlier).result = .ok lines)
    (hname : className options component = .ok name)
    (hfault : (classLines options component).result = .error fault) :
    (classBlocks options (before ++ component :: after)).result = .error fault := by
  induction before with
  | nil => rw [List.nil_append, result_classBlocks_cons, hname, ok_bind, hfault, error_bind]
  | cons first rest ih =>
    obtain ⟨⟨lines, hlines⟩, hrest⟩ := List.forall_mem_cons.1 hbefore
    obtain ⟨-, -, firstName, -, -, hfirstName, -⟩ := classLines_eq_ok_iff.1 hlines
    rw [List.cons_append, result_classBlocks_cons, hfirstName, ok_bind, hlines, ok_bind, ih hrest,
      error_bind]

/-- A class has a name if the ending of class names is a text, and the name of the component. -/
theorem exists_className {options : Options} {component : Component} {suffix : String}
    (hsuffix : options.classSuffix = .str suffix) (hname : ∃ name, component.name = .str name) :
    ∃ name, className options component = .ok name := by
  obtain ⟨name, hname⟩ := hname
  unfold className
  rw [hname, hsuffix]
  cases (Json.str name).isTruthy <;> exact ⟨_, rfl⟩

namespace Generated

variable {options : Options} {components : List Component} {classes : List (List String)}

/-- Either all classes are generated, or some component leaves a fault. -/
theorem exists_or_fault (options : Options) (components : List Component) :
    (∃ classes, Generated options components classes) ∨
      ∃ component ∈ components, ∃ fault, (classLines options component).result = .error fault := by
  induction components with
  | nil => exact .inl ⟨[], rfl⟩
  | cons component rest ih =>
    cases hlines : (classLines options component).result with
    | error fault => exact .inr ⟨component, List.mem_cons_self, fault, hlines⟩
    | ok lines =>
      rcases ih with ⟨others, hothers⟩ | ⟨later, hlater, hfault⟩
      · refine .inl ⟨lines :: others, ?_⟩
        rw [Generated, List.map_cons, hlines, List.map_cons, hothers]
      · exact .inr ⟨later, List.mem_cons_of_mem _ hlater, hfault⟩

theorem exists_of_mem (h : Generated options components classes) {component : Component}
    (hmem : component ∈ components) :
    ∃ lines, (classLines options component).result = .ok lines := by
  have hresult : (classLines options component).result ∈ classes.map .ok := by
    rw [← h]
    exact List.mem_map.2 ⟨component, hmem, rfl⟩
  obtain ⟨lines, -, hlines⟩ := List.mem_map.1 hresult
  exact ⟨lines, hlines.symm⟩

theorem exists_component (h : Generated options components classes) {lines : List String}
    (hmem : lines ∈ classes) : ∃ component, (classLines options component).result = .ok lines := by
  have hresult : (.ok lines : Fallible (List String)) ∈ classes.map .ok :=
    List.mem_map.2 ⟨lines, hmem, rfl⟩
  rw [← h] at hresult
  obtain ⟨component, -, hcomponent⟩ := List.mem_map.1 hresult
  exact ⟨component, hcomponent⟩

theorem ne_nil (h : Generated options components classes) (hcomponents : components ≠ []) :
    classes ≠ [] := by
  rintro rfl
  exact hcomponents (List.map_eq_nil_iff.1 h)

/-- The classes of two lists of components are those of the first and those of the second. -/
theorem of_append {first second : List Component}
    (h : Generated options (first ++ second) classes) :
    ∃ firstClasses secondClasses, classes = firstClasses ++ secondClasses ∧
      Generated options first firstClasses ∧ Generated options second secondClasses := by
  rw [Generated, List.map_append] at h
  obtain ⟨firstClasses, secondClasses, rfl, hfirst, hsecond⟩ := List.map_eq_append_iff.1 h.symm
  exact ⟨firstClasses, secondClasses, rfl, hfirst.symm, hsecond.symm⟩

/-- Of fewer components there are as many classes fewer. -/
theorem of_sublist {kept : List Component} (h : Generated options components classes)
    (hkept : kept.Sublist components) :
    ∃ keptClasses, keptClasses.Sublist classes ∧ Generated options kept keptClasses := by
  induction hkept generalizing classes with
  | slnil => exact ⟨[], List.nil_sublist _, rfl⟩
  | cons component hrest ih =>
    rcases classes with _ | ⟨lines, others⟩
    · cases h
    · obtain ⟨keptClasses, hsublist, hgenerated⟩ := ih (List.cons.inj h).2
      exact ⟨keptClasses, hsublist.cons lines, hgenerated⟩
  | cons_cons component hrest ih =>
    rcases classes with _ | ⟨lines, others⟩
    · cases h
    · obtain ⟨hlines, hothers⟩ := List.cons.inj h
      obtain ⟨keptClasses, hsublist, hgenerated⟩ := ih hothers
      refine ⟨lines :: keptClasses, hsublist.cons_cons lines, ?_⟩
      rw [Generated, List.map_cons, List.map_cons, hgenerated]
      exact congrArg (· :: _) hlines

end Generated

end SourceFile

/-! ## The place of a failure -/

/-- If the fault tells of a component, then of this one. -/
def Fault.IsIn (component : Json) : Fault → Prop
  | .failure f => f.component = .null ∨ f.component = component
  | .malformed _ => True

/-- If the fault is a failure, it tells of this component. -/
def Fault.Names (component : Json) : Fault → Prop
  | .failure f => f.component = component
  | .malformed _ => True

/-- Once it is located in the component, a failure tells of it. -/
theorem Fault.IsIn.located {fault : Fault} {component argument : Json} (h : fault.IsIn component) :
    (fault.located component argument).Names component := by
  cases fault with
  | malformed m => trivial
  | failure failure =>
    show Failure.fill failure.component component = component
    rcases h with h | h
    · rw [h]
      rfl
    · rw [h]
      cases component <;> rfl

namespace Component

variable {options : Options} {component : Component}

/-- A fault of the walk through a component is one in the component. -/
theorem isIn_of_walk {fault : Fault} (h : (component.walk options).fault = some fault) :
    fault.IsIn component.name := by
  cases fault with
  | malformed m => trivial
  | failure failure =>
    obtain ⟨argument, -, suffix, own, hresolve, rfl⟩ :=
      Walker.failsIn_forest component.arguments "" failure h
    have hown : Fault.IsOf argument.longName (.failure own) :=
      faultsOf_resolve options suffix argument _ hresolve
    exact .inr (Fault.place_of_located hown rfl).1

/-- So is a fault of its content, also where there is no factory for its kind. -/
theorem faultsIn_content (options : Options) (component : Component) (signature? : Option String) :
    FaultsIn (Fault.IsIn component.name) (component.content options signature?).result := by
  have hfactory : FaultsIn (Fault.IsIn component.name) (Factory.ofWord component.kind) := by
    unfold Factory.ofWord
    split
    · exact .ok _
    · exact .ok _
    · exact .error trivial
    · exact .error trivial
    · exact .error (.inl rfl)
  rw [content, Logged.result_bind, Logged.result_lift]
  refine hfactory.bind fun factory => ?_
  cases hwalk : (component.walk options).fault with
  | some fault =>
    rw [Factory.result_content_of_fault hwalk]
    exact .error (isIn_of_walk hwalk)
  | none =>
    obtain ⟨text, htext⟩ := Factory.exists_content_of_no_fault hwalk
    rw [htext]
    exact .ok _

end Component

namespace SourceFile

/-- A class without a name is no failure. -/
theorem names_of_className (options : Options) (component : Component) :
    FaultsIn (Fault.Names component.name) (className options component) := by
  unfold className
  split
  · split
    · split
      · exact .ok _
      · exact .error trivial
    · exact .ok _
  · split
    · split <;> exact .error trivial
    · exact .error trivial

/-- A failure in the class of a component names the component. -/
theorem names_of_classLines (options : Options) (component : Component) :
    FaultsIn (Fault.Names component.name) (classLines options component).result := by
  have hcontent : FaultsIn (Fault.Names component.name)
      (locate component.name .null (component.content options none).result) := by
    cases hresult : (component.content options none).result with
    | ok text => exact .ok _
    | error fault => exact .error (component.faultsIn_content options none fault hresult).located
  have hsummary : FaultsIn (Fault.Names component.name) (componentSummary component) := by
    unfold componentSummary
    split
    · split
      · exact .ok _
      · exact .error trivial
    · exact .ok _
  unfold classLines
  simp only [Logged.result_bind, Logged.result_located, Logged.result_lift, Logged.result_pure]
  exact hcontent.bind fun content => hsummary.bind fun summary =>
    (names_of_className options component).bind fun name => .ok _

/-! ## The file -/

/-- The text of a file is that of its classes with the lines around them. -/
theorem result_text {options : Options} {comment head : String}
    (hhead : headText options comment = .ok head) (components : List Component) :
    (text options comment components).result =
      (classBlocks options components).result >>= fun classes =>
        .ok (Layout.join (opening options head ++ classPart options classes ++
          closing options)) := by
  unfold text lines
  simp only [Logged.result_bind, Logged.result_lift, Logged.result_pure, hhead, ok_bind,
    append_bodyLines, opening]
  cases (classBlocks options components).result <;> rfl

/-- A file is generated when its classes are. -/
theorem text_eq_ok_iff {options : Options} {comment head : String}
    (hhead : headText options comment = .ok head) {components : List Component} {result : String} :
    (text options comment components).result = .ok result ↔
      ∃ classes, Generated options components classes ∧
        result = Layout.join (opening options head ++ classPart options classes ++
          closing options) := by
  rw [result_text hhead, bind_eq_ok_iff]
  constructor
  · rintro ⟨classes, hclasses, hresult⟩
    exact ⟨classes, classBlocks_eq_ok_iff.1 hclasses, (Except.ok.inj hresult).symm⟩
  · rintro ⟨classes, hclasses, rfl⟩
    exact ⟨classes, classBlocks_eq_ok_iff.2 hclasses, rfl⟩

/-- A file is not generated just when some class is not. -/
theorem exists_fault_iff {options : Options} {comment head : String}
    (hhead : headText options comment = .ok head) {components : List Component} :
    (∃ fault, (text options comment components).result = .error fault) ↔
      ∃ component ∈ components, ∃ fault, (classLines options component).result = .error fault := by
  constructor
  · rintro ⟨fault, hfault⟩
    rcases Generated.exists_or_fault options components with ⟨classes, hclasses⟩ | hsome
    · rw [(text_eq_ok_iff hhead).2 ⟨classes, hclasses, rfl⟩] at hfault
      cases hfault
    · exact hsome
  · rintro ⟨component, hmem, fault, hfault⟩
    cases hresult : (text options comment components).result with
    | error other => exact ⟨other, rfl⟩
    | ok result =>
      obtain ⟨classes, hclasses, -⟩ := (text_eq_ok_iff hhead).1 hresult
      obtain ⟨lines, hlines⟩ := hclasses.exists_of_mem hmem
      rw [hlines] at hfault
      cases hfault

/-- The components that a command line chooses are some of those there are, in the same order. -/
theorem sublist_of_chosenComponents {names : List String} {components kept : List Component}
    (h : CommandLine.chosenComponents names components = .ok kept) : kept.Sublist components := by
  unfold CommandLine.chosenComponents at h
  split at h
  · obtain rfl := Except.ok.inj h
    exact List.Sublist.refl _
  · split at h
    · cases h
    · simp only at h
      split at h
      · obtain rfl := Except.ok.inj h
        exact List.filter_sublist
      · cases h

/-- A file is put together from the classes of its components. -/
structure PutTogether (options : Options) (comment head : String) (components : List Component)
    (classes : List (List String)) : Prop where
  /-- In the file the classes stand between lines that do not depend on them. -/
  text_eq : (text options comment components).result =
    .ok (Layout.join (opening options head ++ classPart options classes ++ closing options))
  /-- The block of each class begins and ends with a line that is not empty. -/
  enclosed : ∀ lines ∈ classes, Enclosed (Layout.lines (classLevel options) lines)
  /-- The classes of two lists are those of the first, an empty line and those of the second. -/
  append : ∀ first second, first ≠ [] → second ≠ [] → components = first ++ second →
    ∃ firstClasses secondClasses, Generated options first firstClasses ∧
      Generated options second secondClasses ∧
      classPart options classes =
        classPart options firstClasses ++ "" :: classPart options secondClasses
  /-- Of fewer components there are the same blocks, in the same order. -/
  kept : ∀ kept, kept.Sublist components → ∃ keptClasses, keptClasses.Sublist classes ∧
    Generated options kept keptClasses ∧
    (text options comment kept).result =
      .ok (Layout.join (opening options head ++ classPart options keptClasses ++ closing options))
  /-- The command line chooses such components. -/
  chosen : ∀ names kept, CommandLine.chosenComponents names components = .ok kept →
    kept.Sublist components

/-- A file of classes that are generated is put together from them. -/
theorem Generated.putTogether {options : Options} {comment head : String}
    (hhead : headText options comment = .ok head) {components : List Component}
    {classes : List (List String)} (h : Generated options components classes) :
    PutTogether options comment head components classes where
  text_eq := (text_eq_ok_iff hhead).2 ⟨classes, h, rfl⟩
  enclosed := by
    intro lines hlines
    obtain ⟨component, hcomponent⟩ := h.exists_component hlines
    exact enclosed_of_classLines hcomponent _
  append := by
    rintro first second hfirst hsecond rfl
    obtain ⟨firstClasses, secondClasses, rfl, hfirstClasses, hsecondClasses⟩ := h.of_append
    exact ⟨firstClasses, secondClasses, hfirstClasses, hsecondClasses,
      classPart_append options (hfirstClasses.ne_nil hfirst) (hsecondClasses.ne_nil hsecond)⟩
  kept := by
    intro kept hkept
    obtain ⟨keptClasses, hsublist, hgenerated⟩ := h.of_sublist hkept
    exact ⟨keptClasses, hsublist, hgenerated,
      (text_eq_ok_iff hhead).2 ⟨keptClasses, hgenerated, rfl⟩⟩
  chosen := fun _ _ => sublist_of_chosenComponents

/-- **A file is put together from classes.**  Let the options tell which namespaces are opened,
and let the names of components be texts.  A file cannot be generated just when some class
cannot.  If the ending of class names is a text, the fault is that of the first such class, and
a failure tells of its component.  If all classes are generated, the file is put together from
them, one block each, in order, with an empty line between any two. -/
theorem text_of_classes {options : Options} {names : List Json}
    (husings : options.usings.parts = .ok names) (comment : String) {components : List Component}
    (hnames : ∀ component ∈ components, ∃ name, component.name = .str name) :
    ((∃ fault, (text options comment components).result = .error fault) ↔
      ∃ component ∈ components, ∃ fault, (classLines options component).result = .error fault) ∧
    (∀ suffix, options.classSuffix = .str suffix →
      ∀ before component after fault, components = before ++ component :: after →
        (∀ earlier ∈ before, ∃ lines, (classLines options earlier).result = .ok lines) →
        (classLines options component).result = .error fault →
        (text options comment components).result = .error fault ∧
          ∀ failure, fault = .failure failure → failure.component = component.name) ∧
    ∃ head, headText options comment = .ok head ∧
      ∀ classes, Generated options components classes →
        PutTogether options comment head components classes := by
  obtain ⟨head, hhead⟩ := exists_headText husings comment
  refine ⟨exists_fault_iff hhead, ?_, head, hhead,
    fun classes hclasses => hclasses.putTogether hhead⟩
  rintro suffix hsuffix before component after fault rfl hbefore hfault
  have hmem : component ∈ before ++ component :: after :=
    List.mem_append_right _ List.mem_cons_self
  obtain ⟨name, hname⟩ := exists_className hsuffix (hnames component hmem)
  constructor
  · rw [result_text hhead, classBlocks_of_first_fault hbefore hname hfault, error_bind]
  · rintro failure rfl
    exact names_of_classLines options component _ hfault

end SourceFile

/-- A component without arguments. -/
def Component.bare (name kind : String) : Component :=
  ⟨.str name, .str kind, .str "Options", .str "Component", [], .null⟩

/-- An unknown kind leaves no file, but a failure that tells of its component; without it, the
file is put together from one class. -/
theorem SourceFile.text_of_bare :
    (∃ names, Options.standard.usings.parts = .ok names) ∧
    (∀ component ∈ [Component.bare "pca" "trainer", .bare "ranker" "scorer"],
      ∃ name, component.name = .str name) ∧
    (∃ failure, (text .standard "" [.bare "pca" "trainer", .bare "ranker" "scorer"]).result =
        .error (.failure failure) ∧
      failure.message = "component 'ranker': No generator for component kind " ++
        "'scorer' (known: trainer, transform)") ∧
    ∃ head classes, PutTogether .standard "" head [.bare "pca" "trainer"] classes := by
  have hnames : ∀ component ∈ [Component.bare "pca" "trainer", .bare "ranker" "scorer"],
      ∃ name, component.name = .str name := by
    simp [Component.bare]
  obtain ⟨lines, hlines⟩ : ∃ lines,
      (classLines .standard (.bare "pca" "trainer")).result = .ok lines :=
    exists_of_isOk (by decide +kernel)
  obtain ⟨failure, hfailure⟩ : ∃ failure,
      (classLines .standard (.bare "ranker" "scorer")).result = .error (.failure failure) :=
    ⟨_, rfl⟩
  have hmessage : failure.message = "component 'ranker': No generator for component kind " ++
      "'scorer' (known: trainer, transform)" := by
    obtain rfl := Fault.failure.inj (Except.error.inj hfailure)
    decide +kernel
  obtain ⟨names, husings⟩ : ∃ names, Options.standard.usings.parts = .ok names := ⟨_, rfl⟩
  obtain ⟨-, hfirst, -⟩ := text_of_classes husings "" hnames
  have hbefore : ∀ earlier ∈ [Component.bare "pca" "trainer"], ∃ lines,
      (classLines .standard earlier).result = .ok lines :=
    List.forall_mem_singleton.2 ⟨lines, hlines⟩
  obtain ⟨hfault, -⟩ := hfirst "" rfl [.bare "pca" "trainer"] _ [] _ rfl hbefore hfailure
  have hname : ∀ component ∈ [Component.bare "pca" "trainer"], ∃ name, component.name = .str name :=
    List.forall_mem_singleton.2 ⟨_, rfl⟩
  obtain ⟨-, -, head, -, hclasses⟩ := text_of_classes husings "" hname
  have hgenerated : Generated .standard [.bare "pca" "trainer"] [lines] := congrArg (· :: []) hlines
  exact ⟨⟨names, husings⟩, hnames, ⟨failure, hfault, hmessage⟩, head, [lines],
    hclasses [lines] hgenerated⟩

/-- Without namespaces to go through there is no file though its class is generated; and without
an ending of class names that is a text, an unknown kind is not what the file fails for. -/
theorem SourceFile.text_of_unusable :
    (∃ lines, (classLines { Options.standard with usings := .null }
        (.bare "pca" "trainer")).result = .ok lines) ∧
    (text { Options.standard with usings := .null } "" [.bare "pca" "trainer"]).result =
      malformed .noParts ∧
    (∃ failure, (classLines { Options.standard with classSuffix := .null }
        (.bare "ranker" "scorer")).result = .error (.failure failure)) ∧
    (text { Options.standard with classSuffix := .null } "" [.bare "ranker" "scorer"]).result =
      malformed .notJoinable := by
  refine ⟨?_, rfl, ⟨_, rfl⟩, rfl⟩
  exact exists_of_isOk (by decide +kernel)

end CatalogClasses
