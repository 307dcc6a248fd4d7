/-
# Walks through a pruned tree

A walk asks at every argument whether it is excluded or hidden.  It could as well be told
nothing of this, if the arguments in question, with all that is inside them, were taken out
beforehand.  The main statement says so for every tree: without the arguments that options
pass over, a walk under the same options without restrictions comes to the same events, ends
with the same fault, and is emitted as the same lines, also by the emitter of assignments,
which asks for excluded names once more.

Main definitions:

* `Options.pruned` : the arguments without those that are passed over;
* `Options.unrestricted` : the options with nothing excluded and nothing hidden.
-/
import CatalogClasses.Proofs.Blocks
import CatalogClasses.Proofs.Pruning

namespace CatalogClasses

/-! ## Options and trees -/

/-- The value can be asked whether it holds a name: it is a list, a text or an object. -/
def Json.canHoldNames : Json → Bool
  | .arr _ | .str _ | .obj _ => true
  | _ => false

namespace Options

/-- The argument is passed over: it is excluded, or it is hidden where hidden arguments are
not generated. -/
def passesOver (options : Options) (declaration : Declaration) : Bool :=
  match options.isExcluded declaration.longName with
  | .ok excluded => excluded || (declaration.isHidden && !options.includeHidden.isTruthy)
  | .error _ => false

/-- The arguments without those that are passed over, at every depth. -/
def pruned (options : Options) (arguments : List Argument) : List Argument :=
  Argument.without options.passesOver arguments

/-- The same options with an empty list of excluded names, under which hidden arguments are
generated too. -/
def unrestricted (options : Options) : Options :=
  { options with exclude := .arr [], includeHidden := .bool true }

end Options

mutual

/-- The names of all arguments inside the argument are texts. -/
def Argument.NamedInside : Argument → Prop
  | .member _ => True
  | .group _ arguments => Argument.Named arguments

/-- The names of all arguments are texts, at every depth. -/
def Argument.Named : List Argument → Prop
  | [] => True
  | argument :: rest =>
      (∃ name, argument.longName = .str name) ∧ argument.NamedInside ∧ Argument.Named rest

end

/-! ## The test for excluded names -/

section Test

variable {options : Options} {declaration : Declaration}

/-- What can hold names answers for each text. -/
theorem Json.holds_str {value : Json} (h : value.canHoldNames = true) (name : String) :
    ∃ held, value.holds (.str name) = .ok held := by
  cases value with
  | arr elements => exact ⟨_, rfl⟩
  | str text => exact ⟨_, rfl⟩
  | obj fields => exact ⟨_, rfl⟩
  | null | bool | int | float => cases h

/-- What cannot hold names answers for none. -/
theorem Json.holds_of_not_canHoldNames {value : Json} (h : value.canHoldNames = false)
    (name : Json) : value.holds name = malformed .noMembership := by
  cases value with
  | arr | str | obj => cases h
  | null | bool | int | float => rfl

/-- The test for excluded names, if a setting has taken its place, has no answer. -/
theorem Options.isExcluded_of_replaced {replacement : Json}
    (h : options.exclusionTest? = some replacement) (name : Json) :
    options.isExcluded name = malformed .notCallable := by
  rw [isExcluded, h]

/-- The test for excluded names looks a name up in the setting. -/
theorem Options.isExcluded_of_own (h : options.exclusionTest? = none) (name : Json) :
    options.isExcluded name = options.exclude.holds name := by
  rw [isExcluded, h]

/-- There is a note on passing over an argument that is passed over. -/
theorem Options.exists_note_of_passesOver (h : options.passesOver declaration = true) :
    ∃ note, options.skipNote? declaration = .ok (some note) := by
  unfold passesOver at h
  unfold skipNote?
  cases hx : options.isExcluded declaration.longName with
  | error fault =>
    rw [hx] at h
    cases h
  | ok excluded =>
    rw [hx] at h
    cases excluded with
    | true => exact ⟨.excluded declaration.longName, rfl⟩
    | false =>
      have hhidden : (declaration.isHidden && !options.includeHidden.isTruthy) = true := h
      refine ⟨.hidden declaration.longName, ?_⟩
      rw [ok_bind, if_neg Bool.false_ne_true, if_pos hhidden]
      rfl

/-- At an argument with a text as its name that is not passed over, the options say the same
with and without their restrictions. -/
theorem Options.skipNote?_unrestricted (hexclude : options.exclude.canHoldNames = true)
    (hname : ∃ name, declaration.longName = .str name)
    (h : options.passesOver declaration = false) :
    options.unrestricted.skipNote? declaration = options.skipNote? declaration := by
  cases htest : options.exclusionTest? with
  | some replacement =>
    -- a test that has been replaced is replaced without the restrictions too
    have hfree : options.unrestricted.exclusionTest? = some replacement := htest
    rw [skipNote?, skipNote?, isExcluded_of_replaced htest, isExcluded_of_replaced hfree]
    rfl
  | none =>
    have hfree : options.unrestricted.exclusionTest? = none := htest
    obtain ⟨name, hname⟩ := hname
    obtain ⟨excluded, hheld⟩ := Json.holds_str hexclude name
    have hx : options.isExcluded declaration.longName = .ok excluded := by
      rw [isExcluded_of_own htest, hname, hheld]
    unfold passesOver at h
    rw [hx, Bool.or_eq_false_iff] at h
    obtain ⟨rfl, hvisible⟩ := h
    have hnone : options.skipNote? declaration = .ok none := by
      rw [skipNote?, hx, ok_bind, if_neg Bool.false_ne_true, hvisible]
      rfl
    have hfreeNone : options.unrestricted.skipNote? declaration = .ok none := by
      rw [skipNote?, isExcluded_of_own hfree]
      show (if (declaration.isHidden && !true) = true then _ else _) = _
      rw [Bool.not_true, Bool.and_false]
      rfl
    rw [hnone, hfreeNone]

end Test

/-! ## Walks -/

namespace Walker

variable {walker : Walker} {suffix : String}

/-- The walk of the same component under the options without their restrictions. -/
def unrestricted (walker : Walker) : Walker := ⟨walker.options.unrestricted, walker.component⟩

/-- The steps at an argument depend on the restrictions through the question alone whether
it is passed over. -/
theorem step_unrestricted (argument : Argument) (inner : Trace)
    (h : walker.options.unrestricted.skipNote? argument.declaration =
      walker.options.skipNote? argument.declaration) :
    walker.unrestricted.step suffix argument inner = walker.step suffix argument inner := by
  have hvisit : walker.unrestricted.visit suffix argument inner =
      walker.visit suffix argument inner := rfl
  unfold step
  rw [hvisit, show walker.unrestricted.options = walker.options.unrestricted from rfl, h]

/-- Without the arguments that are passed over, there is no difference between a walk under
the options and one without their restrictions. -/
theorem walk_unrestricted_pruned (hexclude : walker.options.exclude.canHoldNames = true)
    (arguments : List Argument) : Argument.Named arguments →
      ∀ suffix, walker.unrestricted.walk suffix (walker.options.pruned arguments) =
        walker.walk suffix (walker.options.pruned arguments) := by
  unfold Options.pruned
  induction arguments using Argument.list_induction with
  | nil => intro _ suffix; rfl
  | member declaration rest ih =>
    rintro ⟨hname, -, hrest⟩ suffix
    cases hd : walker.options.passesOver declaration with
    | true =>
      rw [Argument.without_cons_of_drop hd]
      exact ih hrest suffix
    | false =>
      have hstep := Options.skipNote?_unrestricted hexclude hname hd
      rw [Argument.without_cons_of_keep hd, Argument.withoutInside, walk_member, walk_member,
        ih hrest, step_unrestricted _ _ hstep]
  | group declaration inner rest ihInner ih =>
    rintro ⟨hname, hinner, hrest⟩ suffix
    cases hd : walker.options.passesOver declaration with
    | true =>
      rw [Argument.without_cons_of_drop hd]
      exact ih hrest suffix
    | false =>
      have hstep := Options.skipNote?_unrestricted hexclude hname hd
      rw [Argument.without_cons_of_keep hd, Argument.withoutInside, walk_group, walk_group,
        ih hrest, ihInner hinner]
      -- the group stays, and what is left inside it has no part in the question
      rw [step_unrestricted (.group declaration (Argument.without _ inner)) _ hstep]

/-- A walk without restrictions through the pruned arguments is like the walk through all of
them. -/
theorem walk_pruned_alike (hexclude : walker.options.exclude.canHoldNames = true)
    {arguments : List Argument} (hnames : Argument.Named arguments) (suffix : String) :
    (walker.unrestricted.walk suffix (walker.options.pruned arguments)).Alike
      (walker.walk suffix arguments) := by
  rw [walk_unrestricted_pruned hexclude arguments hnames suffix]
  exact walk_without (fun _ => Options.exists_note_of_passesOver) arguments suffix

end Walker

/-! ## Emission -/

/-- Two emissions have the same lines and end with the same fault. -/
def Emission.Alike (first second : Emission) : Prop :=
  first.lines = second.lines ∧ first.fault = second.fault

/-- An event of two walks, one after the other, is an event of one of them. -/
theorem Trace.mem_events_andThen {first second : Trace} {event : Event}
    (h : event ∈ (first.andThen second).events) : event ∈ first.events ∨ event ∈ second.events := by
  cases hfault : first.fault with
  | none =>
    rw [events_andThen _ hfault] at h
    exact List.mem_append.1 h
  | some fault =>
    unfold andThen at h
    rw [hfault] at h
    exact .inl h

/-- Emitters that agree on all events of a walk make the same of it. -/
theorem Trace.emit_congr_emitter {trace : Trace} {first second : Emitter}
    (h : ∀ event ∈ trace.events, first event = second event) :
    trace.emit first = trace.emit second := by
  obtain ⟨steps, fault⟩ := trace
  unfold emit
  induction steps with
  | nil => rfl
  | cons step rest ih =>
    cases step with
    | note n =>
      have hrest := ih h
      simp only [emitSteps] at hrest ⊢
      rw [hrest]
    | event e =>
      obtain ⟨hhere, hlater⟩ := List.forall_mem_cons.1
        (show ∀ event ∈ e :: Trace.events ⟨rest, fault⟩, first event = second event from h)
      have hrest := ih hlater
      simp only [emitSteps] at hrest ⊢
      rw [hhere, hrest]

namespace Walker

variable {walker : Walker}

/-- An event of a step at an argument is about the argument, which is kept and can be resolved,
or it is one from inside it. -/
theorem resolve_of_mem_events_step {suffix : String} {argument : Argument} {inner : Trace}
    {event : Event} (h : event ∈ (walker.step suffix argument inner).events) :
    (walker.options.keeps argument.declaration = true ∧
      argument.resolve walker.options suffix = .ok event.resolved) ∨ event ∈ inner.events := by
  rcases walker.step_cases suffix argument inner with
    ⟨fault, -, hstep⟩ | ⟨note, hstep⟩ | ⟨fault, -, hstep⟩ | ⟨resolved, hs, hr, hstep⟩
  · rw [hstep] at h
    cases h
  · rw [hstep] at h
    cases h
  · rw [hstep] at h
    cases h
  · rw [hstep] at h
    have hkept := Options.skipNote?_eq_none_iff.1 hs
    cases argument with
    | member declaration =>
      rw [visit_member hr, events_resolvedNotes] at h
      rw [List.mem_singleton.1 (h : event ∈ [⟨.member, suffix, resolved⟩])]
      exact .inl ⟨hkept, hr⟩
    | group declaration arguments =>
      rw [visit_group hr] at h
      rcases Trace.mem_events_andThen h with h | h
      · rw [events_resolvedNotes] at h
        rw [List.mem_singleton.1 (h : event ∈ [⟨.groupBegin, suffix, resolved⟩])]
        exact .inl ⟨hkept, hr⟩
      · rcases Trace.mem_events_andThen h with h | h
        · exact .inr h
        · rw [List.mem_singleton.1 (h : event ∈ [⟨.groupEnd, suffix, resolved⟩])]
          exact .inl ⟨hkept, hr⟩

/-- Every event of a walk is about an argument that is kept and can be resolved. -/
theorem exists_resolve_of_mem_events (arguments : List Argument) :
    ∀ suffix, ∀ event ∈ (walker.walk suffix arguments).events, ∃ place argument,
      walker.options.keeps (Argument.declaration argument) = true ∧
        argument.resolve walker.options place = .ok event.resolved := by
  induction arguments using Argument.list_induction with
  | nil => intro suffix event h; cases h
  | member declaration rest ih =>
    intro suffix event h
    rw [walk_member] at h
    rcases Trace.mem_events_andThen h with h | h
    · rcases resolve_of_mem_events_step h with hhere | hinner
      · exact ⟨suffix, _, hhere⟩
      · cases hinner
    · exact ih suffix event h
  | group declaration inner rest ihInner ih =>
    intro suffix event h
    rw [walk_group] at h
    rcases Trace.mem_events_andThen h with h | h
    · rcases resolve_of_mem_events_step h with hhere | hinner
      · exact ⟨suffix, _, hhere⟩
      · exact ihInner _ event hinner
    · exact ih suffix event h

/-- No event of a walk is about an excluded name. -/
theorem isExcluded_of_mem_events (arguments : List Argument) :
    ∀ suffix, ∀ event ∈ (walker.walk suffix arguments).events,
      walker.options.isExcluded (.str event.resolved.longName) = .ok false := by
  intro suffix event h
  obtain ⟨place, argument, hkept, hresolved⟩ :=
    exists_resolve_of_mem_events arguments suffix event h
  obtain ⟨shape, typeName, longName, initializer, -, -, hname, -, hr⟩ :=
    Argument.resolve_eq_ok_iff.1 hresolved
  rw [hr]
  show walker.options.isExcluded (.str longName) = .ok false
  rw [← hname]
  exact Options.isExcluded_of_keeps hkept

/-- Of an event whose name is not excluded, the emitter of assignments makes the same without
the restrictions. -/
theorem assignmentEmitter_unrestricted {options : Options} {event : Event}
    (h : options.isExcluded (.str event.resolved.longName) = .ok false) (component : Json) :
    assignmentEmitter options.unrestricted component event =
      assignmentEmitter options component event := by
  have htest : options.exclusionTest? = none := by
    cases htest : options.exclusionTest? with
    | none => rfl
    | some replacement =>
      rw [Options.isExcluded_of_replaced htest] at h
      cases h
  have hfreeTest : options.unrestricted.exclusionTest? = none := htest
  have hfree : options.unrestricted.isExcluded (.str event.resolved.longName) = .ok false := by
    rw [Options.isExcluded_of_own hfreeTest]
    rfl
  unfold assignmentEmitter
  simp only [h, hfree]
  rfl

/-- **Walking is walking the pruned tree.**  Let the arguments have texts as their names.  If
the setting for excluded names can be asked for a name, then the walk through the arguments
comes to the same events and ends with the same fault as a walk without restrictions through
the arguments that are not passed over; and both are emitted as the same lines, with the same
fault, by any emitter and by the emitters of assignments of their own options.  If the setting
cannot be asked, there is a fault at the first argument already. -/
theorem walk_pruned (walker : Walker) (suffix : String) (arguments : List Argument)
    (hnames : Argument.Named arguments) :
    (walker.options.exclude.canHoldNames = true →
      (walker.unrestricted.walk suffix (walker.options.pruned arguments)).Alike
          (walker.walk suffix arguments) ∧
        (∀ emitter,
          ((walker.unrestricted.walk suffix (walker.options.pruned arguments)).emit
            emitter).Alike ((walker.walk suffix arguments).emit emitter)) ∧
        ((walker.unrestricted.walk suffix (walker.options.pruned arguments)).emit
            (assignmentEmitter walker.options.unrestricted walker.component)).Alike
          ((walker.walk suffix arguments).emit
            (assignmentEmitter walker.options walker.component))) ∧
    (walker.options.exclude.canHoldNames = false → ∀ first rest, arguments = first :: rest →
      ∃ reason, walker.walk suffix arguments = .failed (.malformed reason)) := by
  constructor
  · intro hexclude
    have halike := walk_pruned_alike hexclude hnames suffix
    have hemit : ∀ emitter,
        ((walker.unrestricted.walk suffix (walker.options.pruned arguments)).emit emitter).Alike
          ((walker.walk suffix arguments).emit emitter) :=
      fun emitter => Trace.emit_congr halike.1 halike.2 emitter
    refine ⟨halike, hemit, ?_⟩
    -- on the events of the walk the two emitters of assignments agree
    have hagree : ∀ event ∈ (walker.walk suffix arguments).events,
        assignmentEmitter walker.options.unrestricted walker.component event =
          assignmentEmitter walker.options walker.component event := by
      intro event h
      exact assignmentEmitter_unrestricted (isExcluded_of_mem_events arguments suffix event h) _
    rw [← Trace.emit_congr_emitter hagree]
    exact hemit _
  · rintro hexclude first rest rfl
    obtain ⟨reason, htest⟩ : ∃ reason,
        walker.options.isExcluded first.declaration.longName = malformed reason := by
      cases htest : walker.options.exclusionTest? with
      | some replacement => exact ⟨_, Options.isExcluded_of_replaced htest _⟩
      | none =>
        rw [Options.isExcluded_of_own htest]
        exact ⟨_, Json.holds_of_not_canHoldNames hexclude _⟩
    have hs : walker.options.skipNote? first.declaration = .error (.malformed reason) := by
      rw [Options.skipNote?, htest]
      rfl
    refine ⟨reason, ?_⟩
    cases first with
    | member declaration => rw [walk_member, step_of_error hs, Trace.failed_andThen]
    | group declaration arguments => rw [walk_group, step_of_error hs, Trace.failed_andThen]

end Walker

/-- A hidden group around a visible member, and beside it a group with an excluded member that
has no type at all. -/
def Argument.restrictedSample : List Argument :=
  [.group { Declaration.ofType "debug" (.named .object "Debug") with isHidden := true }
      [.member (.ofType "trace" (.named .boolean ""))],
    .group (.ofType "stop" (.named .object "Stop"))
      [.member { Declaration.ofType "old" (.named .boolean "") with itemType := none },
        .member (.ofType "rank" (.named .double ""))]]

/-- The walk through the sample comes to the group that is left and the member left in it, as
the walk through the pruned sample does. -/
theorem Walker.walk_pruned_sample :
    Argument.Named Argument.restrictedSample ∧
      Options.withoutOld.exclude.canHoldNames = true ∧
      Trace.Alike
        (Walker.walk ⟨Options.withoutOld.unrestricted, .null⟩ "_a"
          (Options.withoutOld.pruned Argument.restrictedSample))
        (Walker.walk ⟨Options.withoutOld, .null⟩ "_a" Argument.restrictedSample) ∧
      (Walker.walk ⟨Options.withoutOld, .null⟩ "_a" Argument.restrictedSample).events.map
          (fun event => (event.phase, event.resolved.name)) =
        [(.groupBegin, "stop_a"), (.member, "rank_a_stop"), (.groupEnd, "stop_a")] ∧
      (Walker.walk ⟨Options.withoutOld, .null⟩ "_a" Argument.restrictedSample).fault.isNone := by
  have hnames : Argument.Named Argument.restrictedSample := by
    simp [Argument.restrictedSample, Argument.Named, Argument.NamedInside, Argument.longName,
      Argument.declaration, Declaration.ofType]
  have hwalks := (Walker.walk_pruned ⟨Options.withoutOld, .null⟩ "_a" _ hnames).1 rfl
  exact ⟨hnames, rfl, hwalks.1, by decide +kernel, by decide +kernel⟩

end CatalogClasses
