/-
# The order of a walk

A walk comes to the survivors of a tree in an order that has nothing to do with whether they
can be resolved: a member once, a group at its beginning and, after all that is inside it, at
its end.  Here this order is a list of its own.  A walk follows the list up to the first stop
that cannot be resolved, and at each stop the groups around the survivor there are those that
have begun and not yet ended.

Main definitions:

* `Options.stops` : the stops of a walk, whether they can be resolved or not;
* `Walker.follow` : the walk along some stops;
* `openGroups` : the groups that have begun and not yet ended after some events.
-/
import CatalogClasses.Proofs.PrunedWalk

namespace CatalogClasses

/-! ## Stops -/

/-- A stop of a walk: a place, and what the walk comes to it for. -/
structure Stop where
  phase : Phase
  site : Site

/-- The argument resolved at its place, on a walk that begins with a suffix. -/
def Site.resolveFrom (options : Options) (start : String) (site : Site) : Fallible Resolved :=
  site.argument.resolve options (start ++ site.suffix)

namespace Stop

/-- The event at a stop, on a walk that begins with a suffix. -/
def event (options : Options) (start : String) (stop : Stop) : Fallible Event := do
  let resolved ← stop.site.resolveFrom options start
  return ⟨stop.phase, start ++ stop.site.suffix, resolved⟩

/-- The events at those stops that can be resolved. -/
def events (options : Options) (start : String) (stops : List Stop) : List Event :=
  stops.filterMap fun stop => (stop.event options start).toOption

/-- The sites of the stops that are no ends of groups. -/
def entered (stops : List Stop) : List Site :=
  (stops.filter (·.phase ≠ .groupEnd)).map Stop.site

variable {options : Options} {start : String} {stop : Stop}

theorem event_of_resolve {resolved : Resolved}
    (h : stop.site.resolveFrom options start = .ok resolved) :
    stop.event options start = .ok ⟨stop.phase, start ++ stop.site.suffix, resolved⟩ := by
  rw [event, h]
  rfl

theorem event_of_error {fault : Fault}
    (h : stop.site.resolveFrom options start = .error fault) :
    stop.event options start = .error fault := by
  rw [event, h]
  rfl

/-- There is an event at a stop just when the argument there can be resolved. -/
theorem event_eq_ok_iff {event : Event} :
    stop.event options start = .ok event ↔
      ∃ resolved, stop.site.resolveFrom options start = .ok resolved ∧
        event = ⟨stop.phase, start ++ stop.site.suffix, resolved⟩ := by
  cases h : stop.site.resolveFrom options start with
  | error fault => simp [event_of_error h]
  | ok resolved => simp [event_of_resolve h, eq_comm]

theorem event_eq_error_iff {fault : Fault} :
    stop.event options start = .error fault ↔
      stop.site.resolveFrom options start = .error fault := by
  cases h : stop.site.resolveFrom options start with
  | error fault => simp [event_of_error h]
  | ok resolved => simp [event_of_resolve h]

theorem events_cons_of_ok {event : Event} (h : stop.event options start = .ok event)
    (rest : List Stop) :
    events options start (stop :: rest) = event :: events options start rest := by
  rw [events, List.filterMap_cons, h]
  rfl

theorem entered_append (first second : List Stop) :
    entered (first ++ second) = entered first ++ entered second := by
  rw [entered, List.filter_append, List.map_append]
  rfl

theorem entered_cons {stop : Stop} (h : stop.phase ≠ .groupEnd) (rest : List Stop) :
    entered (stop :: rest) = stop.site :: entered rest := by
  rw [entered, List.filter_cons_of_pos (by simpa using h)]
  rfl

end Stop

namespace Options

mutual

/-- The stops at one argument, those inside a group between its beginning and its end. -/
def stopsAt (options : Options) (groups : List Json) : Argument → List Stop
  | .member declaration =>
      if options.keeps declaration then [⟨.member, groups, .member declaration⟩] else []
  | .group declaration arguments =>
      if options.keeps declaration then
        ⟨.groupBegin, groups, .group declaration arguments⟩ ::
          (options.stops (groups ++ [declaration.longName]) arguments ++
            [⟨.groupEnd, groups, .group declaration arguments⟩])
      else []

/-- The stops in a list of arguments inside some groups. -/
def stops (options : Options) (groups : List Json) : List Argument → List Stop
  | [] => []
  | argument :: rest => options.stopsAt groups argument ++ options.stops groups rest

end

theorem stops_cons (options : Options) (groups : List Json) (argument : Argument)
    (rest : List Argument) :
    options.stops groups (argument :: rest) =
      options.stopsAt groups argument ++ options.stops groups rest := rfl

theorem stopsAt_of_not_keeps {options : Options} {argument : Argument}
    (h : options.keeps argument.declaration = false) (groups : List Json) :
    options.stopsAt groups argument = [] := by
  have hnot : ¬options.keeps argument.declaration = true := by
    rw [h]
    exact Bool.false_ne_true
  cases argument with
  | member declaration => exact if_neg hnot
  | group declaration arguments => exact if_neg hnot

theorem stopsAt_member {options : Options} {declaration : Declaration}
    (h : options.keeps declaration = true) (groups : List Json) :
    options.stopsAt groups (.member declaration) = [⟨.member, groups, .member declaration⟩] :=
  if_pos h

theorem stopsAt_group {options : Options} {declaration : Declaration}
    (h : options.keeps declaration = true) (groups : List Json) (arguments : List Argument) :
    options.stopsAt groups (.group declaration arguments) =
      ⟨.groupBegin, groups, .group declaration arguments⟩ ::
        (options.stops (groups ++ [declaration.longName]) arguments ++
          [⟨.groupEnd, groups, .group declaration arguments⟩]) :=
  if_pos h

/-- The survivors are the places that the stops enter, in this order. -/
theorem survivors_eq_entered (options : Options) (arguments : List Argument) :
    ∀ groups,
      options.survivors groups arguments = Stop.entered (options.stops groups arguments) := by
  induction arguments using Argument.list_induction with
  | nil => intro groups; rfl
  | member declaration rest ih =>
    intro groups
    rw [survivors_member, stops_cons, Stop.entered_append, ih]
    cases hk : options.keeps declaration with
    | false => rw [stopsAt_of_not_keeps hk]; rfl
    | true => rw [stopsAt_member hk]; rfl
  | group declaration inner rest ihInner ih =>
    intro groups
    rw [survivors_group, stops_cons, Stop.entered_append, ih]
    cases hk : options.keeps declaration with
    | false => rw [stopsAt_of_not_keeps hk]; rfl
    | true =>
      -- the end of the group is no further place
      have hend : Stop.entered [⟨.groupEnd, groups, .group declaration inner⟩] = [] := rfl
      rw [stopsAt_group hk, Stop.entered_cons Phase.noConfusion, Stop.entered_append, hend,
        List.append_nil, ← ihInner]
      rfl

end Options

/-! ## A walk follows its stops -/

namespace Walker

variable {walker : Walker} {start : String}

/-- The walk along some stops.  It ends at the first one that cannot be resolved. -/
def follow (walker : Walker) (start : String) : List Stop → Trace
  | [] => .done
  | stop :: rest =>
      match locate walker.component stop.site.argument.longName
          (stop.event walker.options start) with
      | .error fault => .failed fault
      | .ok event => (Trace.ofSteps [.event event]).andThen (walker.follow start rest)

theorem follow_of_ok {stop : Stop} {event : Event}
    (h : stop.event walker.options start = .ok event) (rest : List Stop) :
    walker.follow start (stop :: rest) =
      (Trace.ofSteps [.event event]).andThen (walker.follow start rest) := by
  rw [follow, h]
  rfl

theorem follow_of_error {stop : Stop} {fault : Fault}
    (h : stop.event walker.options start = .error fault) (rest : List Stop) :
    walker.follow start (stop :: rest) =
      .failed (fault.located walker.component stop.site.argument.longName) := by
  rw [follow, h]
  rfl

theorem follow_append (walker : Walker) (start : String) (first second : List Stop) :
    walker.follow start (first ++ second) =
      (walker.follow start first).andThen (walker.follow start second) := by
  induction first with
  | nil => rfl
  | cons stop rest ih =>
    rw [List.cons_append]
    cases h : stop.event walker.options start with
    | error fault => rw [follow_of_error h, follow_of_error h, Trace.failed_andThen]
    | ok event => rw [follow_of_ok h, follow_of_ok h, ih, Trace.andThen_assoc]

/-- Along stops that can all be resolved, the walk comes to their events. -/
theorem follow_of_resolved {stops : List Stop}
    (h : ∀ stop ∈ stops, ∃ event, stop.event walker.options start = .ok event) :
    walker.follow start stops =
      ⟨(Stop.events walker.options start stops).map .event, none⟩ := by
  induction stops with
  | nil => rfl
  | cons stop rest ih =>
    obtain ⟨⟨event, hevent⟩, hrest⟩ := List.forall_mem_cons.1 h
    rw [follow_of_ok hevent, ih hrest, Stop.events_cons_of_ok hevent]
    rfl

end Walker

/-! ## Options that tell of every argument -/

mutual

/-- The options tell of each argument inside the argument whether it is excluded. -/
def Options.AnswersInside (options : Options) : Argument → Prop
  | .member _ => True
  | .group _ arguments => options.Answers arguments

/-- The options tell of each argument whether it is excluded, at every depth. -/
def Options.Answers (options : Options) : List Argument → Prop
  | [] => True
  | argument :: rest =>
      (∃ excluded, options.isExcluded argument.longName = .ok excluded) ∧
        options.AnswersInside argument ∧ options.Answers rest

end

namespace Options

variable {options : Options}

/-- The test for excluded names is the options' own, and the setting that it looks into can be
asked for names. -/
def canTest (options : Options) : Bool :=
  options.exclusionTest?.isNone && options.exclude.canHoldNames

theorem canTest_iff :
    options.canTest = true ↔
      options.exclusionTest? = none ∧ options.exclude.canHoldNames = true := by
  rw [canTest, Bool.and_eq_true, Option.isNone_iff_eq_none]

/-- Such options tell of every text whether it is excluded. -/
theorem exists_isExcluded_str (h : options.canTest = true) (name : String) :
    ∃ excluded, options.isExcluded (.str name) = .ok excluded := by
  obtain ⟨htest, hexclude⟩ := canTest_iff.1 h
  rw [isExcluded_of_own htest]
  exact Json.holds_str hexclude name

/-- Other options tell it of no name at all. -/
theorem isExcluded_of_not_canTest (h : options.canTest = false) (name : Json) :
    ∃ reason, options.isExcluded name = malformed reason := by
  cases htest : options.exclusionTest? with
  | some replacement => exact ⟨_, isExcluded_of_replaced htest name⟩
  | none =>
    rw [canTest, htest] at h
    rw [isExcluded_of_own htest]
    exact ⟨_, Json.holds_of_not_canHoldNames h name⟩

theorem answers_of_named (h : options.canTest = true) (arguments : List Argument) :
    Argument.Named arguments → options.Answers arguments := by
  have hname : ∀ {declaration : Declaration}, (∃ name, declaration.longName = .str name) →
      ∃ excluded, options.isExcluded declaration.longName = .ok excluded := by
    rintro declaration ⟨name, hname⟩
    rw [hname]
    exact exists_isExcluded_str h name
  induction arguments using Argument.list_induction with
  | nil => exact id
  | member declaration rest ih =>
    rintro ⟨hhere, -, hrest⟩
    exact ⟨hname hhere, trivial, ih hrest⟩
  | group declaration inner rest ihInner ih =>
    rintro ⟨hhere, hinner, hrest⟩
    exact ⟨hname hhere, ihInner hinner, ih hrest⟩

/-- An argument that options tell of and do not keep is passed over with a note. -/
theorem exists_note_of_not_keeps {declaration : Declaration}
    (h : ∃ excluded, options.isExcluded declaration.longName = .ok excluded)
    (hk : options.keeps declaration = false) :
    ∃ note, options.skipNote? declaration = .ok (some note) := by
  obtain ⟨excluded, hexcluded⟩ := h
  cases hs : options.skipNote? declaration with
  | error fault =>
    rw [skipNote?, hexcluded, ok_bind] at hs
    split at hs
    · cases hs
    · split at hs <;> cases hs
  | ok note =>
    cases note with
    | some note => exact ⟨note, rfl⟩
    | none =>
      rw [skipNote?_eq_none_iff.1 hs] at hk
      cases hk

end Options

namespace Walker

variable {walker : Walker} {start : String} {groups : List Json}

/-- Nothing but a note comes of an argument that is not kept. -/
theorem step_of_not_keeps {argument : Argument} {suffix : String}
    (h : ∃ excluded, walker.options.isExcluded argument.longName = .ok excluded)
    (hk : walker.options.keeps argument.declaration = false) (inner : Trace) :
    (walker.step suffix argument inner).Alike .done := by
  obtain ⟨note, hnote⟩ := Options.exists_note_of_not_keeps h hk
  rw [step_of_note hnote]
  exact ⟨rfl, rfl⟩

/-- The suffix inside a group at a place, on a walk that begins with a suffix. -/
theorem nestedSuffix_start (start : String) (groups : List Json) (name : Json) :
    nestedSuffix (start ++ pathSuffix groups) name = start ++ pathSuffix (groups ++ [name]) := by
  rw [← nestedSuffix_pathSuffix, nestedSuffix, nestedSuffix]
  simp only [String.append_assoc]

/-- At a member a walk follows its stop, if there is one. -/
theorem step_member_follow {declaration : Declaration} {inner : Trace}
    (h : ∃ excluded, walker.options.isExcluded declaration.longName = .ok excluded) :
    (walker.step (start ++ pathSuffix groups) (.member declaration) inner).Alike
      (walker.follow start (walker.options.stopsAt groups (.member declaration))) := by
  cases hk : walker.options.keeps declaration with
  | false =>
    rw [Options.stopsAt_of_not_keeps hk]
    exact step_of_not_keeps h hk inner
  | true =>
    rw [step_of_keeps hk, Options.stopsAt_member hk]
    cases hr : (Argument.member declaration).resolve walker.options
        (start ++ pathSuffix groups) with
    | error fault =>
      have hstop : Stop.event walker.options start ⟨.member, groups, .member declaration⟩ =
          .error fault := Stop.event_of_error hr
      rw [visit_of_error hr, follow_of_error hstop]
      exact Trace.Alike.refl _
    | ok resolved =>
      have hstop : Stop.event walker.options start ⟨.member, groups, .member declaration⟩ =
          .ok ⟨.member, start ++ pathSuffix groups, resolved⟩ := Stop.event_of_resolve hr
      rw [visit_member hr, follow_of_ok hstop]
      refine ⟨?_, rfl⟩
      rw [events_resolvedNotes]
      rfl

/-- At a group a walk follows the stops of the group, if it does so inside the group. -/
theorem step_group_follow {declaration : Declaration} {arguments : List Argument}
    {inner : Trace}
    (h : ∃ excluded, walker.options.isExcluded declaration.longName = .ok excluded)
    (hinner : inner.Alike (walker.follow start
      (walker.options.stops (groups ++ [declaration.longName]) arguments))) :
    (walker.step (start ++ pathSuffix groups) (.group declaration arguments) inner).Alike
      (walker.follow start
        (walker.options.stopsAt groups (.group declaration arguments))) := by
  cases hk : walker.options.keeps declaration with
  | false =>
    rw [Options.stopsAt_of_not_keeps hk]
    exact step_of_not_keeps h hk inner
  | true =>
    rw [step_of_keeps hk, Options.stopsAt_group hk]
    cases hr : (Argument.group declaration arguments).resolve walker.options
        (start ++ pathSuffix groups) with
    | error fault =>
      have hstop : Stop.event walker.options start
          ⟨.groupBegin, groups, .group declaration arguments⟩ = .error fault :=
        Stop.event_of_error hr
      rw [visit_of_error hr, follow_of_error hstop]
      exact Trace.Alike.refl _
    | ok resolved =>
      -- the end is resolved as the beginning is
      have hstop : ∀ phase, Stop.event walker.options start
          ⟨phase, groups, .group declaration arguments⟩ =
            .ok ⟨phase, start ++ pathSuffix groups, resolved⟩ :=
        fun _ => Stop.event_of_resolve hr
      rw [visit_group hr, follow_of_ok (hstop .groupBegin), follow_append,
        follow_of_ok (hstop .groupEnd)]
      refine Trace.Alike.andThen ⟨?_, rfl⟩ (hinner.andThen (Trace.Alike.refl _))
      rw [events_resolvedNotes]

/-- **A walk follows its stops**: but for the notes, it is the walk along the stops of its
options. -/
theorem walk_alike_follow (walker : Walker) (start : String) (arguments : List Argument) :
    walker.options.Answers arguments → ∀ groups,
      (walker.walk (start ++ pathSuffix groups) arguments).Alike
        (walker.follow start (walker.options.stops groups arguments)) := by
  induction arguments using Argument.list_induction with
  | nil => intro _ groups; exact Trace.Alike.refl _
  | member declaration rest ih =>
    rintro ⟨hhere, -, hrest⟩ groups
    rw [walk_member, Options.stops_cons, follow_append]
    exact (step_member_follow hhere).andThen (ih hrest groups)
  | group declaration inner rest ihInner ih =>
    rintro ⟨hhere, hinner, hrest⟩ groups
    rw [walk_group, Options.stops_cons, follow_append, nestedSuffix_start]
    exact (step_group_follow hhere (ihInner hinner _)).andThen (ih hrest groups)

end Walker

/-! ## Open groups -/

/-- The open groups after one more event: a group is opened at its beginning, and the
innermost one is closed at an end. -/
def Event.enter (opened : List Json) (event : Event) : List Json :=
  match event.phase with
  | .member => opened
  | .groupBegin => opened ++ [event.resolved.declaration.longName]
  | .groupEnd => opened.dropLast

/-- The names of the groups that have begun and not yet ended after some events, the outermost
first. -/
def openGroups (events : List Event) : List Json := events.foldl Event.enter []

namespace Stop

/-- The sites of the open groups after one more stop. -/
def enter (opened : List Site) (stop : Stop) : List Site :=
  match stop.phase with
  | .member => opened
  | .groupBegin => opened ++ [stop.site]
  | .groupEnd => opened.dropLast

/-- The names of the arguments at some sites. -/
def names (sites : List Site) : List Json := sites.map fun site => site.argument.longName

/-- A stop fits in with the open groups: it is inside just these groups, or it ends the
innermost of them. -/
def Fits (opened : List Site) (stop : Stop) : Prop :=
  match stop.phase with
  | .groupEnd => ∃ outer, opened = outer ++ [stop.site]
  | _ => stop.site.groups = names opened

/-- Each stop fits in with the groups that the stops before it have left open. -/
def Nested : List Site → List Stop → Prop
  | _, [] => True
  | opened, stop :: rest => stop.Fits opened ∧ Nested (enter opened stop) rest

theorem nested_append (opened : List Site) (first second : List Stop) :
    Nested opened (first ++ second) ↔
      Nested opened first ∧ Nested (first.foldl enter opened) second := by
  induction first generalizing opened with
  | nil => simp [Nested]
  | cons stop rest ih => simp only [List.cons_append, Nested, List.foldl_cons, ih, and_assoc]

/-- A group that some stops leave open was open before them, or one of them is in it. -/
theorem mem_foldl_enter {site : Site} (stops : List Stop) :
    ∀ opened, site ∈ stops.foldl enter opened →
      site ∈ opened ∨ ∃ stop ∈ stops, stop.site = site := by
  induction stops with
  | nil => intro opened h; exact .inl h
  | cons stop rest ih =>
    intro opened h
    rcases ih _ h with h | ⟨later, hlater, hsite⟩
    · unfold enter at h
      split at h
      · exact .inl h
      · rcases List.mem_append.1 h with h | h
        · exact .inl h
        · exact .inr ⟨stop, List.mem_cons_self, (List.mem_singleton.1 h).symm⟩
      · exact .inl (List.dropLast_subset _ h)
    · exact .inr ⟨later, List.mem_cons_of_mem _ hlater, hsite⟩

/-- The groups that some stops leave open are those that their events do. -/
theorem foldl_enter_events {options : Options} {start : String} {stops : List Stop}
    (h : ∀ stop ∈ stops, ∃ event, stop.event options start = .ok event) :
    ∀ opened, (events options start stops).foldl Event.enter (names opened) =
      names (stops.foldl enter opened) := by
  induction stops with
  | nil => intro opened; rfl
  | cons stop rest ih =>
    intro opened
    obtain ⟨⟨event, hevent⟩, hrest⟩ := List.forall_mem_cons.1 h
    have hstep : Event.enter (names opened) event = names (enter opened stop) := by
      obtain ⟨resolved, hresolved, rfl⟩ := event_eq_ok_iff.1 hevent
      obtain ⟨shape, typeName, longName, initializer, -, -, -, -, hr⟩ :=
        Argument.resolve_eq_ok_iff.1 hresolved
      have hname : resolved.declaration.longName = stop.site.argument.longName := by
        rw [hr]
        rfl
      unfold Event.enter enter names
      cases stop.phase with
      | member => rfl
      | groupBegin => simp [hname]
      | groupEnd => simp [List.map_dropLast]
    rw [events_cons_of_ok hevent, List.foldl_cons, List.foldl_cons, hstep, ih hrest]

end Stop

/-- **The stops are nested.**  Each stop fits in with the groups open before it, and in the end
the same groups are open as at first. -/
theorem Options.nested_stops (options : Options) (arguments : List Argument) :
    ∀ opened, Stop.Nested opened (options.stops (Stop.names opened) arguments) ∧
      (options.stops (Stop.names opened) arguments).foldl Stop.enter opened = opened := by
  induction arguments using Argument.list_induction with
  | nil => intro opened; exact ⟨trivial, rfl⟩
  | member declaration rest ih =>
    intro opened
    obtain ⟨hrest, hend⟩ := ih opened
    rw [stops_cons, Stop.nested_append, List.foldl_append]
    cases hk : options.keeps declaration with
    | false =>
      rw [stopsAt_of_not_keeps hk]
      exact ⟨⟨trivial, hrest⟩, hend⟩
    | true =>
      rw [stopsAt_member hk]
      exact ⟨⟨⟨rfl, trivial⟩, hrest⟩, hend⟩
  | group declaration inner rest ihInner ih =>
    intro opened
    obtain ⟨hrest, hend⟩ := ih opened
    rw [stops_cons, Stop.nested_append, List.foldl_append]
    cases hk : options.keeps declaration with
    | false =>
      rw [stopsAt_of_not_keeps hk]
      exact ⟨⟨trivial, hrest⟩, hend⟩
    | true =>
      let site : Site := ⟨Stop.names opened, .group declaration inner⟩
      -- inside the group it is the innermost open one, and so it is at its end
      have hnames : Stop.names (opened ++ [site]) =
          Stop.names opened ++ [declaration.longName] := by
        rw [Stop.names, List.map_append]
        rfl
      obtain ⟨hinner, hinnerEnd⟩ := ihInner (opened ++ [site])
      rw [hnames] at hinner hinnerEnd
      have hclose : Stop.enter (opened ++ [site]) ⟨.groupEnd, site⟩ = opened :=
        List.dropLast_concat
      have hopen : Stop.enter opened ⟨.groupBegin, site⟩ = opened ++ [site] := rfl
      rw [stopsAt_group hk, List.foldl_cons, List.foldl_append, hopen, hinnerEnd, List.foldl_cons,
        List.foldl_nil, hclose]
      refine ⟨⟨⟨rfl, ?_⟩, hrest⟩, hend⟩
      rw [hopen, Stop.nested_append, hinnerEnd]
      exact ⟨hinner, ⟨opened, rfl⟩, trivial⟩

end CatalogClasses
