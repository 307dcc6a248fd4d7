/-
# Exclusion in two places

The emitter of assignments asks once more which names are excluded, and its options may give
other names than those of the walk.  One would expect that the names of both are left out then.
A group of which only the emitter knows that it is excluded makes a difference: its own two
statements are left out, but the walk goes on through its members, and they are assigned into
an object of arguments that nothing declares.  The main statement says that this is all the
difference there can be.

Main definitions:

* `Walker.assignments` : the assignments made with different names for the walk and the emitter;
* `Event.statement` : the one statement that is made of an event.
-/
import CatalogClasses.Proofs.Failures
import CatalogClasses.Proofs.FirstPass

namespace CatalogClasses

/-! ## Names to leave out -/

/-- One of the names is the given one. -/
def Json.isAmong (names : List Json) (name : Json) : Bool := names.any (·.same name)

namespace Site

/-- The argument at the place has one of the names. -/
def isNamed (names : List Json) (site : Site) : Bool :=
  Json.isAmong names site.argument.longName

/-- A group around the place has one of the names. -/
def isInside (names : List Json) (site : Site) : Bool := site.groups.any (Json.isAmong names)

/-- Neither the argument at the place nor a group around it has one of the names. -/
def isSpared (names : List Json) (site : Site) : Bool :=
  !site.isInside names && !site.isNamed names

end Site

namespace Options

/-- The options with these names excluded instead of their own. -/
def excluding (options : Options) (names : List Json) : Options :=
  { options with exclude := .arr names }

/-- The options' own test answers for these names. -/
theorem isExcluded_excluding {options : Options} (h : options.exclusionTest? = none)
    (names : List Json) (name : Json) :
    (options.excluding names).isExcluded name = .ok (Json.isAmong names name) := by
  rw [excluding, isExcluded]
  split
  · next hreplaced => cases h.symm.trans hreplaced
  · rfl

/-- An argument is kept under the names of two lists if it is under the first, and the second
does not have its name. -/
theorem keeps_excluding_append (options : Options) (first second : List Json)
    (declaration : Declaration) :
    (options.excluding (first ++ second)).keeps declaration =
      ((options.excluding first).keeps declaration &&
        !Json.isAmong second declaration.longName) := by
  cases htest : options.exclusionTest? with
  | some replacement =>
    have hnot : ∀ names, (options.excluding names).keeps declaration = false := by
      intro names
      have hreplaced : (options.excluding names).exclusionTest? = some replacement := htest
      rw [keeps, isExcluded_of_replaced hreplaced]
      rfl
    rw [hnot, hnot, Bool.false_and]
  | none =>
    rw [keeps, keeps, isExcluded_excluding htest, isExcluded_excluding htest, Json.isAmong,
      List.any_append]
    show (!(Json.isAmong first _ || Json.isAmong second _) && (!_ || _)) =
      ((!Json.isAmong first _ && (!_ || _)) && !Json.isAmong second _)
    rw [Bool.not_or, Bool.and_assoc, Bool.and_assoc, Bool.and_comm (!Json.isAmong second _)]
    rfl

/-! ## The stops of both walks -/

/-- A stop is at a survivor, which is kept, and the groups around it go on from those around
the list. -/
theorem site_of_mem_stops (options : Options) (arguments : List Argument) :
    ∀ groups, ∀ stop ∈ options.stops groups arguments,
      stop.site ∈ options.survivors groups arguments ∧
        options.keeps stop.site.argument.declaration = true ∧ groups <+: stop.site.groups := by
  induction arguments using Argument.list_induction with
  | nil => intro groups stop h; cases h
  | member declaration rest ih =>
    intro groups stop h
    rw [stops_cons] at h
    rw [survivors_member]
    rcases List.mem_append.1 h with h | h
    · cases hk : options.keeps declaration with
      | false =>
        rw [stopsAt_of_not_keeps hk] at h
        cases h
      | true =>
        rw [stopsAt_member hk] at h
        cases List.mem_singleton.1 h
        exact ⟨List.mem_cons_self, hk, List.prefix_rfl⟩
    · obtain ⟨hsite, hrest⟩ := ih groups stop h
      exact ⟨List.mem_append_right _ hsite, hrest⟩
  | group declaration inner rest ihInner ih =>
    intro groups stop h
    rw [stops_cons] at h
    rw [survivors_group]
    rcases List.mem_append.1 h with h | h
    · cases hk : options.keeps declaration with
      | false =>
        rw [stopsAt_of_not_keeps hk] at h
        cases h
      | true =>
        rw [stopsAt_group hk] at h
        rcases List.mem_cons.1 h with rfl | h
        · exact ⟨List.mem_cons_self, hk, List.prefix_rfl⟩
        · rcases List.mem_append.1 h with h | h
          · obtain ⟨hsite, hkept, hprefix⟩ := ihInner _ stop h
            exact ⟨List.mem_append_left _ (List.mem_cons_of_mem _ hsite), hkept,
              (List.prefix_append _ _).trans hprefix⟩
          · cases List.mem_singleton.1 h
            exact ⟨List.mem_cons_self, hk, List.prefix_rfl⟩
    · obtain ⟨hsite, hrest⟩ := ih groups stop h
      exact ⟨List.mem_append_right _ hsite, hrest⟩

/-- What holds at all stops is what holds at all survivors. -/
theorem forall_mem_stops_iff {options : Options} {arguments : List Argument}
    {property : Site → Prop} :
    (∀ stop ∈ options.stops [] arguments, property stop.site) ↔
      ∀ site ∈ options.survivors [] arguments, property site := by
  constructor
  · intro h site hsite
    rw [survivors_eq_entered] at hsite
    obtain ⟨stop, hstop, rfl⟩ := List.mem_map.1 hsite
    exact h stop (List.mem_filter.1 hstop).1
  · intro h stop hstop
    exact h stop.site (site_of_mem_stops options arguments [] stop hstop).1

/-- No stop inside a group with one of the names is spared. -/
theorem filter_stops_of_inside {names groups : List Json}
    (h : groups.any (Json.isAmong names) = true) (options : Options) (arguments : List Argument) :
    ((options.stops groups arguments).filter fun stop => stop.site.isSpared names) = [] := by
  rw [List.filter_eq_nil_iff]
  intro stop hstop
  obtain ⟨group, hgroup, hamong⟩ := List.any_eq_true.1 h
  have hinside : stop.site.isInside names = true :=
    List.any_eq_true.2
      ⟨group, (site_of_mem_stops options arguments groups stop hstop).2.2.subset hgroup, hamong⟩
  simp [Site.isSpared, hinside]

/-- A stop at an argument inside some groups is spared if neither it nor they have one of the
names. -/
theorem isSpared_eq (names groups : List Json) (phase : Phase) (argument : Argument) :
    Site.isSpared names (Stop.site ⟨phase, groups, argument⟩) =
      (!groups.any (Json.isAmong names) && !Json.isAmong names argument.longName) := rfl

/-- With more names excluded, the stops at a member are those that are spared. -/
theorem stopsAt_member_excluding (options : Options) (first second : List Json)
    {groups : List Json} (hgroups : groups.any (Json.isAmong second) = false)
    (declaration : Declaration) :
    (options.excluding (first ++ second)).stopsAt groups (.member declaration) =
      ((options.excluding first).stopsAt groups (.member declaration)).filter fun stop =>
        stop.site.isSpared second := by
  have hboth := keeps_excluding_append options first second declaration
  have hnone : ∀ names, (options.excluding names).keeps declaration = false →
      (options.excluding names).stopsAt groups (.member declaration) = [] :=
    fun names h => stopsAt_of_not_keeps h groups
  cases hk : (options.excluding first).keeps declaration with
  | false =>
    rw [hk, Bool.false_and] at hboth
    rw [hnone _ hk, hnone _ hboth]
    rfl
  | true =>
    have hspared := isSpared_eq second groups .member (.member declaration)
    rw [hk, Bool.true_and] at hboth
    rw [hgroups, Bool.not_false, Bool.true_and, Argument.longName, Argument.declaration,
      ← hboth] at hspared
    rw [stopsAt_member hk, List.filter_cons, List.filter_nil, hspared]
    cases hn : (options.excluding (first ++ second)).keeps declaration with
    | false => exact hnone _ hn
    | true => exact stopsAt_member hn groups

/-- With more names excluded, the stops at a group are those that are spared, if it is so for
the stops inside the group. -/
theorem stopsAt_group_excluding {options : Options} {first second groups : List Json}
    (hgroups : groups.any (Json.isAmong second) = false) {declaration : Declaration}
    {arguments : List Argument}
    (hinner : (groups ++ [declaration.longName]).any (Json.isAmong second) = false →
      (options.excluding (first ++ second)).stops (groups ++ [declaration.longName]) arguments =
        ((options.excluding first).stops (groups ++ [declaration.longName]) arguments).filter
          fun stop => stop.site.isSpared second) :
    (options.excluding (first ++ second)).stopsAt groups (.group declaration arguments) =
      ((options.excluding first).stopsAt groups (.group declaration arguments)).filter fun stop =>
        stop.site.isSpared second := by
  have hboth := keeps_excluding_append options first second declaration
  have hnone : ∀ names, (options.excluding names).keeps declaration = false →
      (options.excluding names).stopsAt groups (.group declaration arguments) = [] :=
    fun names h => stopsAt_of_not_keeps h groups
  cases hk : (options.excluding first).keeps declaration with
  | false =>
    rw [hk, Bool.false_and] at hboth
    rw [hnone _ hk, hnone _ hboth]
    rfl
  | true =>
    -- the beginning and the end of the group are spared together
    have hspared : ∀ phase, Site.isSpared second
        (Stop.site ⟨phase, groups, .group declaration arguments⟩) =
          !Json.isAmong second declaration.longName := by
      intro phase
      rw [isSpared_eq, hgroups, Bool.not_false, Bool.true_and]
      rfl
    have hgroup : (groups ++ [declaration.longName]).any (Json.isAmong second) =
        Json.isAmong second declaration.longName := by
      simp [hgroups]
    rw [hk, Bool.true_and] at hboth
    rw [stopsAt_group hk, List.filter_cons, hspared, List.filter_append, List.filter_cons,
      List.filter_nil, hspared]
    cases hn : Json.isAmong second declaration.longName with
    | true =>
      rw [hn] at hboth hgroup
      rw [hnone _ hboth, filter_stops_of_inside hgroup]
      rfl
    | false =>
      rw [hn] at hboth hgroup
      rw [stopsAt_group hboth, hinner hgroup]
      rfl

/-- With more names excluded, the stops are those that are spared. -/
theorem stops_excluding_append (options : Options) (first second : List Json)
    (arguments : List Argument) :
    ∀ groups : List Json, groups.any (Json.isAmong second) = false →
      (options.excluding (first ++ second)).stops groups arguments =
        ((options.excluding first).stops groups arguments).filter fun stop =>
          stop.site.isSpared second := by
  induction arguments using Argument.list_induction with
  | nil => intro groups _; rfl
  | member declaration rest ih =>
    intro groups hgroups
    rw [stops_cons, stops_cons, List.filter_append, ih groups hgroups,
      stopsAt_member_excluding options first second hgroups]
  | group declaration inner rest ihInner ih =>
    intro groups hgroups
    rw [stops_cons, stops_cons, List.filter_append, ih groups hgroups,
      stopsAt_group_excluding hgroups (ihInner _)]

/-- The options tell of every argument whether it has one of the names, unless a setting has
taken the place of their test. -/
theorem answers_excluding {options : Options} (h : options.exclusionTest? = none)
    (names : List Json) (arguments : List Argument) :
    (options.excluding names).Answers arguments := by
  induction arguments using Argument.list_induction with
  | nil => trivial
  | member declaration rest ih => exact ⟨⟨_, isExcluded_excluding h names _⟩, trivial, ih⟩
  | group declaration inner rest ihInner ih =>
    exact ⟨⟨_, isExcluded_excluding h names _⟩, ihInner, ih⟩

end Options

/-! ## The statements of both walks -/

/-- The statement that is made at a stop, if the argument there can be resolved. -/
def Stop.statement (options : Options) (start : String) (stop : Stop) : String :=
  match stop.event options start with
  | .ok event => event.statement options
  | .error _ => ""

/-- Of the events at some stops, the emitter of assignments makes a statement for each stop
whose argument has none of the names that it excludes. -/
theorem Stop.lines_events {options : Options} (htest : options.exclusionTest? = none)
    (names : List Json) (component : Json) {start : String} {stops : List Stop}
    (h : ∀ stop ∈ stops, ∃ event, stop.event options start = .ok event) :
    (events options start stops).flatMap
        (linesOf (assignmentEmitter (options.excluding names) component)) =
      (stops.filter fun stop => !stop.site.isNamed names).map (statement options start) := by
  induction stops with
  | nil => rfl
  | cons stop rest ih =>
    obtain ⟨⟨event, hevent⟩, hrest⟩ := List.forall_mem_cons.1 h
    have hstatement : stop.statement options start = event.statement options := by
      rw [statement, hevent]
    obtain ⟨resolved, hresolved, hresult⟩ := event_eq_ok_iff.1 hevent
    have hresolve : stop.site.argument.resolve options (start ++ stop.site.suffix) =
        .ok event.resolved := by
      rw [hresult]
      exact hresolved
    have hexcluded : (options.excluding names).isExcluded (.str event.resolved.longName) =
        .ok (stop.site.isNamed names) := by
      obtain ⟨shape, typeName, longName, initializer, -, -, hname, -, hr⟩ :=
        Argument.resolve_eq_ok_iff.1 hresolve
      rw [Options.isExcluded_excluding htest, Site.isNamed, hname, hr]
    obtain ⟨notes, hchunk⟩ := assignmentEmitter_eq hresolve hexcluded component
    rw [events_cons_of_ok hevent, List.flatMap_cons, ih hrest, List.filter_cons, linesOf, hchunk]
    cases stop.site.isNamed names with
    | true => rfl
    | false =>
      show [event.statement options] ++ _ = stop.statement options start :: _
      rw [hstatement]
      rfl

namespace Walker

/-- The assignments that are made of a walk, where the walk and the emitter exclude different
names. -/
def assignments (walker : Walker) (start : String) (arguments : List Argument)
    (walked emitted : List Json) : Emission :=
  (Walker.walk ⟨walker.options.excluding walked, walker.component⟩ start arguments).emit
    (assignmentEmitter (walker.options.excluding emitted) walker.component)

variable {walker : Walker} {start : String} {arguments : List Argument}

/-- If the assignments are made without a fault, the options' own test for excluded names is
used, or there is no argument. -/
theorem own_or_nil_of_fault_eq_none {walked emitted : List Json}
    (h : (walker.assignments start arguments walked emitted).fault = none) :
    walker.options.exclusionTest? = none ∨ arguments = [] := by
  have hwalk := (Trace.emit_of_fault_eq_none h).1
  cases htest : walker.options.exclusionTest? with
  | none => exact .inl rfl
  | some replacement =>
    right
    cases arguments with
    | nil => rfl
    | cons first rest =>
      let walker' : Walker := ⟨walker.options.excluding walked, walker.component⟩
      have hnot : walker'.options.canTest = false := by
        show (walker.options.exclusionTest?.isNone && _) = false
        rw [htest]
        rfl
      obtain ⟨reason, hfailed⟩ := walk_of_not_canTest hnot first rest
      rw [hfailed] at hwalk
      cases hwalk

/-- Assignments without a fault are the statements at the stops of the walk, all of which can be
resolved, but for those at which the argument has a name that the emitter excludes. -/
theorem lines_assignments (htest : walker.options.exclusionTest? = none)
    {walked emitted : List Json}
    (h : (walker.assignments start arguments walked emitted).fault = none) :
    (∀ stop ∈ (walker.options.excluding walked).stops [] arguments,
      ∃ event, stop.event walker.options start = .ok event) ∧
    (walker.assignments start arguments walked emitted).lines =
      (((walker.options.excluding walked).stops [] arguments).filter fun stop =>
        !stop.site.isNamed emitted).map (Stop.statement walker.options start) := by
  obtain ⟨hwalk, hlines⟩ := Trace.emit_of_fault_eq_none h
  obtain ⟨hresolved, hevents⟩ := events_of_fault_eq_none
    (Options.answers_excluding htest walked arguments) hwalk
  refine ⟨hresolved, ?_⟩
  rw [assignments, hlines, hevents]
  exact Stop.lines_events htest emitted walker.component hresolved

/-- With the same names excluded by the walk and the emitter, the assignments have no fault if
all stops can be resolved. -/
theorem fault_assignments_self (htest : walker.options.exclusionTest? = none) {names : List Json}
    (h : ∀ stop ∈ (walker.options.excluding names).stops [] arguments,
      ∃ event, stop.event walker.options start = .ok event) :
    (walker.assignments start arguments names names).fault = none := by
  rw [assignments,
    fault_emit_assignments ⟨walker.options.excluding names, walker.component⟩ start arguments]
  exact fault_eq_none_of_resolved (Options.answers_excluding htest names arguments) h

/-- With the same names excluded by the walk and the emitter, none of the stops is left out. -/
theorem filter_stops_self (htest : walker.options.exclusionTest? = none) (names : List Json) :
    (((walker.options.excluding names).stops [] arguments).filter fun stop =>
      !stop.site.isNamed names) = (walker.options.excluding names).stops [] arguments := by
  rw [List.filter_eq_self]
  intro stop hstop
  obtain ⟨-, hkept, -⟩ := Options.site_of_mem_stops _ arguments [] stop hstop
  have hexcluded := Options.isExcluded_of_keeps hkept
  rw [Options.isExcluded_excluding htest] at hexcluded
  show (!Json.isAmong names _) = true
  rw [Argument.longName, Except.ok.inj hexcluded]
  rfl

/-- **Exclusion in two places.**  Suppose that a walk excludes some names and the emitter of
assignments some others, and that the assignments are made without a fault.  Then they are also
made when both exclude the names of both, and these are some of the same lines in the same
order.  They are the same lines just when nothing has been assigned from inside a group that
only the emitter excludes: each survivor of the walk inside such a group is excluded by the
emitter itself. -/
theorem assignments_union (walker : Walker) (start : String) (arguments : List Argument)
    (walked emitted : List Json)
    (h : (walker.assignments start arguments walked emitted).fault = none) :
    let together := walker.assignments start arguments (walked ++ emitted) (walked ++ emitted)
    together.fault = none ∧
      together.lines.Sublist (walker.assignments start arguments walked emitted).lines ∧
      ((walker.assignments start arguments walked emitted).lines = together.lines ↔
        ∀ site ∈ (walker.options.excluding walked).survivors [] arguments,
          site.isInside emitted = true → site.isNamed emitted = true) := by
  intro together
  rcases own_or_nil_of_fault_eq_none h with htest | rfl
  · let stops := (walker.options.excluding walked).stops [] arguments
    let written := stops.filter fun stop => !stop.site.isNamed emitted
    let spared := written.filter fun stop => !stop.site.isInside emitted
    obtain ⟨hresolved, hlines⟩ := lines_assignments htest h
    -- together, the walk and the emitter come to the stops that are spared
    have hstops : (walker.options.excluding (walked ++ emitted)).stops [] arguments = spared := by
      rw [walker.options.stops_excluding_append walked emitted arguments [] rfl]
      exact List.filter_filter.symm
    have hfault : together.fault = none := by
      apply fault_assignments_self htest
      rw [hstops]
      intro stop hstop
      exact hresolved stop (List.mem_filter.1 (List.mem_filter.1 hstop).1).1
    have htogether : together.lines = spared.map (Stop.statement walker.options start) := by
      rw [(lines_assignments htest hfault).2, filter_stops_self htest, hstops]
    have hseparate : (walker.assignments start arguments walked emitted).lines =
        written.map (Stop.statement walker.options start) := hlines
    rw [htogether, hseparate]
    refine ⟨hfault, List.filter_sublist.map _, ?_⟩
    rw [← Options.forall_mem_stops_iff]
    constructor
    · -- there is one line for each stop, so that none is lost if the lines are the same
      intro heq stop hstop hinside
      have hlength : spared.length = written.length := by
        simpa using (congrArg List.length heq).symm
      have hself : spared = written := List.filter_sublist.eq_of_length hlength
      cases hnamed : stop.site.isNamed emitted with
      | true => rfl
      | false =>
        have hwritten : stop ∈ written := List.mem_filter.2 ⟨hstop, by rw [hnamed]; rfl⟩
        have hout := List.filter_eq_self.1 hself stop hwritten
        rw [hinside] at hout
        cases hout
    · intro hall
      have hself : spared = written := by
        rw [List.filter_eq_self]
        intro stop hwritten
        obtain ⟨hstop, hnamed⟩ := List.mem_filter.1 hwritten
        cases hinside : stop.site.isInside emitted with
        | false => rfl
        | true =>
          rw [hall stop hstop hinside] at hnamed
          cases hnamed
      rw [hself]
  · refine ⟨rfl, List.Sublist.refl _, iff_of_true rfl ?_⟩
    intro site hsite
    cases hsite

end Walker

/-- A walker through the sample arguments, whose options exclude nothing. -/
def Walker.sample : Walker := ⟨.standard, .str "pca_trainer"⟩

/-- If the walk through the sample arguments excludes `old` and the emitter `rank`, the
assignments are those made when both exclude both: neither is a group. -/
theorem Walker.assignments_union_of_members :
    (Walker.sample.assignments "" Component.sample.arguments [.str "old"] [.str "rank"]).fault =
        none ∧
      (Walker.sample.assignments "" Component.sample.arguments [.str "old"] [.str "rank"]).lines =
        (Walker.sample.assignments "" Component.sample.arguments [.str "old", .str "rank"]
          [.str "old", .str "rank"]).lines := by
  have h : (Walker.sample.assignments "" Component.sample.arguments [.str "old"]
      [.str "rank"]).fault = none := rfl
  obtain ⟨-, -, hlines⟩ := Walker.assignments_union .sample "" _ _ _ h
  exact ⟨h, hlines.2 (by decide +kernel)⟩

/-- A group with one member. -/
def Argument.lonelyGroup : List Argument :=
  [.group (.ofType "sub" (.named .object "Sub")) [.member (.ofType "x" (.named .integer ""))]]

/-- If the emitter alone excludes the group, its member is assigned into an object that nothing
declares; if the walk excludes it as well, there is no statement. -/
theorem Walker.assignments_of_lonelyGroup :
    (Walker.sample.assignments "" Argument.lonelyGroup [] [.str "sub"]).fault = none ∧
      (Walker.sample.assignments "" Argument.lonelyGroup [] [.str "sub"]).lines =
        ["args_sub.x = x_sub;"] ∧
      (Walker.sample.assignments "" Argument.lonelyGroup [.str "sub"] [.str "sub"]).lines = [] :=
  ⟨rfl, by decide +kernel, rfl⟩

end CatalogClasses
