/-
# Groups are nested

A walk begins and ends groups, and at each of its events some groups have begun and not yet
ended.  They are kept as a stack of openings.  Each event fits in with the stack that the events
before it leave, whether the walk ends with a fault or not: the suffix of its context names the
groups around it, and the end of a group ends the innermost one.  In the lines of the
assignments each event has one statement, so an object of arguments is declared before anything
is assigned into it, and it is assigned once into the object around it, when all its members
have been.

Main definitions:

* `Opening`, `openings` : the groups that have begun and not yet ended;
* `Event.FitsIn` : the event fits in with the open groups;
* `Event.made` : the one statement that is made of an event.
-/
import CatalogClasses.Proofs.FirstPass
import CatalogClasses.Proofs.Traversal

namespace CatalogClasses

/-! ## Open groups -/

/-- A group that has begun: the number of events before its beginning, and the beginning. -/
structure Opening where
  position : Nat
  first : Event

namespace Event

/-- The open groups after one more event, the outermost first. -/
def track (opened : List Opening) (position : Nat) (event : Event) : List Opening :=
  match event.phase with
  | .member => opened
  | .groupBegin => opened ++ [⟨position, event⟩]
  | .groupEnd => opened.dropLast

/-- The open groups that the argument of the event is in; at the end of a group, this group is
none of them. -/
def around (opened : List Opening) (event : Event) : List Opening :=
  match event.phase with
  | .groupEnd => opened.dropLast
  | _ => opened

/-- The event that ends the group which begins at the event. -/
def ending (event : Event) : Event := { event with phase := .groupEnd }

end Event

/-- The open groups after some events; before them there are `position` other events, which have
left the groups in `opened` open. -/
def openings (position : Nat) (opened : List Opening) : List Event → List Opening
  | [] => opened
  | event :: rest => openings (position + 1) (event.track opened position) rest

theorem openings_append (first second : List Event) :
    ∀ position opened, openings position opened (first ++ second) =
      openings (position + first.length) (openings position opened first) second := by
  induction first with
  | nil => intro position opened; rfl
  | cons event rest ih =>
    intro position opened
    rw [List.cons_append, openings, ih, openings, List.length_cons, Nat.add_assoc,
      Nat.add_comm rest.length]

/-- A group that some events leave open was open before them, or it begins at one of them. -/
theorem mem_openings {opening : Opening} (events : List Event) :
    ∀ position opened, opening ∈ openings position opened events →
      opening ∈ opened ∨ ∃ k, opening.position = position + k ∧
        events[k]? = some opening.first ∧ opening.first.phase = .groupBegin := by
  induction events with
  | nil => intro position opened h; exact .inl h
  | cons event rest ih =>
    intro position opened h
    rcases ih _ _ h with h | ⟨k, hposition, hfirst, hphase⟩
    · unfold Event.track at h
      split at h
      · exact .inl h
      · next hphase =>
        rcases List.mem_append.1 h with h | h
        · exact .inl h
        · obtain rfl := List.mem_singleton.1 h
          exact .inr ⟨0, rfl, rfl, hphase⟩
      · exact .inl (List.dropLast_subset _ h)
    · exact .inr ⟨k + 1, by omega, hfirst, hphase⟩

/-- Groups are opened one after another. -/
theorem pairwise_openings (events : List Event) :
    ∀ position opened, opened.Pairwise (·.position < ·.position) →
      (∀ opening ∈ opened, opening.position < position) →
      (openings position opened events).Pairwise (·.position < ·.position) := by
  induction events with
  | nil => intro position opened hopened _; exact hopened
  | cons event rest ih =>
    intro position opened hopened hbound
    rw [openings]
    unfold Event.track
    split
    · exact ih _ _ hopened fun opening h => Nat.lt_succ_of_lt (hbound opening h)
    · refine ih _ _ ?_ ?_
      · refine List.pairwise_append.2 ⟨hopened, List.pairwise_singleton _ _, ?_⟩
        intro opening h last hlast
        obtain rfl := List.mem_singleton.1 hlast
        exact hbound opening h
      · intro opening h
        rcases List.mem_append.1 h with h | h
        · exact Nat.lt_succ_of_lt (hbound opening h)
        · obtain rfl := List.mem_singleton.1 h
          exact Nat.lt_succ_self _
    · refine ih _ _ (hopened.sublist (List.dropLast_sublist _)) ?_
      intro opening h
      exact Nat.lt_succ_of_lt (hbound opening (List.dropLast_subset _ h))

/-! ## The end of a group -/

/-- If a group is not left open, some event ends it, and it is the innermost one there. -/
theorem exists_end {opened : List Opening} {opening : Opening} (events : List Event) :
    ∀ position inside, opening ∉ openings position (opened ++ opening :: inside) events →
      ∃ inner last after, events = inner ++ last :: after ∧ last.phase = .groupEnd ∧
        openings position (opened ++ opening :: inside) inner = opened ++ [opening] := by
  induction events with
  | nil =>
    intro position inside h
    exact absurd (List.mem_append_right _ List.mem_cons_self) h
  | cons event rest ih =>
    intro position inside h
    have hlater : ∀ more, event.track (opened ++ opening :: inside) position =
        opened ++ opening :: more → ∃ inner last after, event :: rest = inner ++ last :: after ∧
          last.phase = .groupEnd ∧
          openings position (opened ++ opening :: inside) inner = opened ++ [opening] := by
      intro more hmore
      rw [openings, hmore] at h
      obtain ⟨inner, last, after, rfl, hlast, hinner⟩ := ih _ _ h
      refine ⟨event :: inner, last, after, rfl, hlast, ?_⟩
      rw [openings, hmore, hinner]
    cases hphase : event.phase with
    | member => exact hlater inside (by rw [Event.track, hphase])
    | groupBegin =>
      refine hlater (inside ++ [⟨position, event⟩]) ?_
      rw [Event.track, hphase, List.append_assoc, List.cons_append]
    | groupEnd =>
      rcases List.eq_nil_or_concat inside with rfl | ⟨others, innermost, rfl⟩
      · exact ⟨[], event, rest, rfl, hphase, rfl⟩
      · refine hlater others ?_
        rw [Event.track, hphase, List.concat_eq_append, ← List.cons_append, ← List.append_assoc]
        exact List.dropLast_concat

/-- A group that has ended is not open again. -/
theorem not_mem_openings_of_end {before between : List Event} {last : Event} {opening : Opening}
    (hlast : last.phase = .groupEnd)
    (hinnermost : (openings 0 [] before).getLast? = some opening) :
    opening ∉ openings 0 [] (before ++ last :: between) := by
  obtain ⟨outer, houter⟩ := List.getLast?_eq_some_iff.1 hinnermost
  have hsorted := pairwise_openings before 0 [] List.Pairwise.nil (List.forall_mem_nil _)
  rw [houter] at hsorted
  have hbefore : opening.position < before.length := by
    have hmem : opening ∈ openings 0 [] before := by
      rw [houter]
      exact List.mem_append_right _ (List.mem_singleton_self _)
    rcases mem_openings before 0 [] hmem with h | ⟨k, hposition, hfirst, -⟩
    · cases h
    · have := (List.getElem?_eq_some_iff.1 hfirst).1
      omega
  have hafter : openings 0 [] (before ++ last :: between) =
      openings (before.length + 1) outer between := by
    rw [openings_append, Nat.zero_add, openings, Event.track, hlast, houter]
    exact congrArg (openings _ · between) List.dropLast_concat
  rw [hafter]
  intro hmem
  rcases mem_openings between _ _ hmem with h | ⟨k, hposition, -⟩
  · have := (List.pairwise_append.1 hsorted).2.2 opening h opening (List.mem_singleton_self _)
    omega
  · omega

/-- Of two beginnings of a list, the longer one goes on with what follows the shorter one. -/
theorem eq_append_cons_of_length_lt {α : Type} {shorter longer rest others : List α} {next : α}
    (h : shorter ++ next :: rest = longer ++ others) (hlength : shorter.length < longer.length) :
    ∃ between, longer = shorter ++ next :: between := by
  rcases List.append_eq_append_iff.1 h with ⟨between, hlonger, hrest⟩ | ⟨between, rfl, -⟩
  · rcases between with _ | ⟨other, between⟩
    · rw [hlonger, List.append_nil] at hlength
      exact absurd hlength (Nat.lt_irrefl _)
    · obtain rfl := (List.cons.inj hrest).1
      exact ⟨between, hlonger⟩
  · rw [List.length_append] at hlength
    omega

/-- The event after some others ends the group. -/
def Ends (events : List Event) (opening : Opening) (before : List Event) : Prop :=
  ∃ last after, events = before ++ last :: after ∧ last.phase = .groupEnd ∧
    (openings 0 [] before).getLast? = some opening

/-- The group that begins at the event after some others is ended once, and no event inside the
group comes after its end. -/
def EndsOnce (events before : List Event) (first : Event) : Prop :=
  ∃ inner, (∀ other, Ends events ⟨before.length, first⟩ other ↔ other = before ++ first :: inner) ∧
    ∀ earlier event later, events = earlier ++ event :: later →
      ⟨before.length, first⟩ ∈ openings 0 [] earlier →
      earlier.length ≤ (before ++ first :: inner).length

/-- If no group is left open, each group that begins is ended once. -/
theorem endsOnce_of_closed {before after : List Event} {first : Event}
    (hclosed : openings 0 [] (before ++ first :: after) = []) (hphase : first.phase = .groupBegin) :
    EndsOnce (before ++ first :: after) before first := by
  let opening : Opening := ⟨before.length, first⟩
  have hopened : ∀ rest, openings 0 [] (before ++ first :: rest) =
      openings (before.length + 1) (openings 0 [] before ++ [opening]) rest := by
    intro rest
    rw [openings_append, Nat.zero_add, openings, Event.track, hphase]
  obtain ⟨inner, last, later, rfl, hlast, hinner⟩ :
      ∃ inner last later, after = inner ++ last :: later ∧ last.phase = .groupEnd ∧
        openings (before.length + 1) (openings 0 [] before ++ [opening]) inner =
          openings 0 [] before ++ [opening] := by
    refine exists_end after (before.length + 1) [] ?_
    rw [← hopened, hclosed]
    exact List.not_mem_nil
  have hinnermost : (openings 0 [] (before ++ first :: inner)).getLast? = some opening := by
    rw [hopened, hinner]
    exact List.getLast?_concat
  have hwhole : before ++ first :: (inner ++ last :: later) =
      (before ++ first :: inner) ++ last :: later := by
    rw [List.append_assoc, List.cons_append]
  have hbound : ∀ earlier event rest,
      before ++ first :: (inner ++ last :: later) = earlier ++ event :: rest →
      opening ∈ openings 0 [] earlier → earlier.length ≤ (before ++ first :: inner).length := by
    intro earlier event rest hsplit hmem
    rw [hwhole] at hsplit
    refine Nat.le_of_not_lt fun hlength => ?_
    obtain ⟨between, rfl⟩ := eq_append_cons_of_length_lt hsplit hlength
    exact not_mem_openings_of_end hlast hinnermost hmem
  refine ⟨inner, fun other => ⟨?_, ?_⟩, hbound⟩
  · rintro ⟨event, rest, hsplit, hend, hother⟩
    have hle := hbound other event rest hsplit (List.mem_of_getLast? hother)
    rw [hwhole] at hsplit
    rcases Nat.lt_or_eq_of_le hle with hlt | hlength
    · obtain ⟨between, hlater⟩ := eq_append_cons_of_length_lt hsplit.symm hlt
      have hmem := List.mem_of_getLast? hinnermost
      rw [hlater] at hmem
      exact absurd hmem (not_mem_openings_of_end hend hother)
    · exact (List.append_inj_left hsplit hlength.symm).symm
  · rintro rfl
    exact ⟨last, later, hwhole, hlast, hinnermost⟩

/-! ## Events and the groups around them -/

namespace Opening

/-- The initial suffix, and after it an underscore and a name for each of the groups. -/
def suffix (start : String) (opened : List Opening) : String :=
  start ++ pathSuffix (opened.map fun opening => .str opening.first.resolved.longName)

/-- The suffix that the innermost group carries; the initial one if there is no group. -/
def carried (start : String) (opened : List Opening) : String :=
  match opened.getLast? with
  | some opening => opening.first.resolved.suffix
  | none => start

theorem suffix_concat (start : String) (opened : List Opening) (opening : Opening) :
    suffix start (opened ++ [opening]) =
      suffix start opened ++ "_" ++ opening.first.resolved.longName := by
  rw [suffix, List.map_append, List.map_singleton, ← Walker.nestedSuffix_start]
  rfl

theorem carried_concat (start : String) (opened : List Opening) (opening : Opening) :
    carried start (opened ++ [opening]) = opening.first.resolved.suffix := by
  rw [carried, List.getLast?_concat]

end Opening

/-- An event fits in with the open groups. -/
structure Event.FitsIn (start : String) (opened : List Opening) (event : Event) : Prop where
  /-- The suffix of the context names the groups around the event. -/
  context : event.contextSuffix = Opening.suffix start (event.around opened)
  /-- It is the suffix that the innermost of them carries. -/
  carried : event.contextSuffix = Opening.carried start (event.around opened)
  /-- The beginning and the end of a group carry the suffix inside it. -/
  inner : event.phase ≠ .member →
    event.resolved.suffix = event.contextSuffix ++ "_" ++ event.resolved.longName
  /-- An end ends the innermost group, just as it has begun. -/
  ended : event.phase = .groupEnd → ∃ opening, opened.getLast? = some opening ∧
    opening.first.phase = .groupBegin ∧ event = opening.first.ending

/-- Each event fits in with the groups that the events before it have left open. -/
def Nested (start : String) (position : Nat) (opened : List Opening) : List Event → Prop
  | [] => True
  | event :: rest =>
      event.FitsIn start opened ∧ Nested start (position + 1) (event.track opened position) rest

theorem nested_append (start : String) (first second : List Event) :
    ∀ position opened, Nested start position opened (first ++ second) ↔
      Nested start position opened first ∧
        Nested start (position + first.length) (openings position opened first) second := by
  induction first with
  | nil => intro position opened; simp [Nested, openings]
  | cons event rest ih =>
    intro position opened
    rw [List.cons_append, Nested, Nested, openings, ih, and_assoc, List.length_cons,
      Nat.add_assoc, Nat.add_comm rest.length]

/-- Any event of nested ones fits in with the groups left open before it. -/
theorem Nested.fitsIn {start : String} {before after : List Event} {event : Event}
    (h : Nested start 0 [] (before ++ event :: after)) :
    event.FitsIn start (openings 0 [] before) :=
  ((nested_append start before _ 0 []).1 h).2.1

/-- The events of a walk are nested, and unless it ends with a fault they leave the same groups
open as there were. -/
structure Trace.IsNested (start : String) (opened : List Opening) (trace : Trace) : Prop where
  nested : ∀ position, Nested start position opened trace.events
  closed : trace.fault = none → ∀ position, openings position opened trace.events = opened

namespace Trace.IsNested

variable {start : String} {opened : List Opening}

/-- A walk without events. -/
theorem of_no_events {trace : Trace} (h : trace.events = []) : trace.IsNested start opened where
  nested := by
    intro position
    rw [h]
    trivial
  closed := by
    intro _ position
    rw [h]
    rfl

/-- One walk after another. -/
theorem andThen {first second : Trace} (hfirst : first.IsNested start opened)
    (hsecond : second.IsNested start opened) : (first.andThen second).IsNested start opened := by
  cases hfault : first.fault with
  | some fault =>
    have hsame : first.andThen second = first := by
      rw [Trace.andThen, hfault]
    rw [hsame]
    exact hfirst
  | none =>
    constructor
    · intro position
      rw [events_andThen second hfault, nested_append, hfirst.closed hfault]
      exact ⟨hfirst.nested _, hsecond.nested _⟩
    · intro hnone position
      rw [events_andThen second hfault, openings_append, hfirst.closed hfault]
      exact hsecond.closed (fault_andThen_eq_none_iff.1 hnone).2 _

/-- A member alone. -/
theorem of_member {event : Event} (hphase : event.phase = .member)
    (hfits : event.FitsIn start opened) {trace : Trace} (h : trace.events = [event]) :
    trace.IsNested start opened where
  nested := by
    intro position
    rw [h]
    exact ⟨hfits, trivial⟩
  closed := by
    intro _ position
    rw [h, openings, Event.track, hphase]
    rfl

/-- If the beginning of a group fits in, so does its end once the group is the innermost one. -/
theorem fitsIn_ending {first : Event} (hphase : first.phase = .groupBegin)
    (h : first.FitsIn start opened) (position : Nat) :
    first.ending.FitsIn start (opened ++ [⟨position, first⟩]) := by
  have haround : first.ending.around (opened ++ [⟨position, first⟩]) = first.around opened := by
    rw [Event.around, Event.around, hphase]
    exact List.dropLast_concat
  have hmember : first.phase ≠ .member := by
    rw [hphase]
    exact Phase.noConfusion
  constructor
  · rw [haround]
    exact h.context
  · rw [haround]
    exact h.carried
  · exact fun _ => h.inner hmember
  · exact fun _ => ⟨_, List.getLast?_concat, hphase, rfl⟩

/-- A group around a walk that is nested in it. -/
theorem of_group {first : Event} (hphase : first.phase = .groupBegin)
    (hfirst : first.FitsIn start opened) {beginning inner : Trace}
    (hbeginning : beginning.events = [first]) (hfault : beginning.fault = none)
    (hinner : ∀ position, inner.IsNested start (opened ++ [⟨position, first⟩])) :
    (beginning.andThen (inner.andThen (.ofSteps [.event first.ending]))).IsNested start opened := by
  have hopen : ∀ position, first.track opened position = opened ++ [⟨position, first⟩] := by
    intro position
    rw [Event.track, hphase]
  have hend : Trace.events (.ofSteps [.event first.ending]) = [first.ending] := rfl
  constructor
  · intro position
    rw [events_andThen _ hfault, hbeginning, List.singleton_append, Nested, hopen]
    refine ⟨hfirst, ?_⟩
    cases hinnerFault : inner.fault with
    | some fault =>
      rw [Trace.andThen, hinnerFault]
      exact (hinner position).nested _
    | none =>
      rw [events_andThen _ hinnerFault, hend, nested_append,
        (hinner position).closed hinnerFault]
      exact ⟨(hinner position).nested _, fitsIn_ending hphase hfirst position, trivial⟩
  · intro hnone position
    have hinnerFault := (fault_andThen_eq_none_iff.1 (fault_andThen_eq_none_iff.1 hnone).2).1
    rw [events_andThen _ hfault, hbeginning, List.singleton_append, openings, hopen,
      events_andThen _ hinnerFault, hend, openings_append, (hinner position).closed hinnerFault]
    exact List.dropLast_concat

end Trace.IsNested

namespace Walker

variable {walker : Walker} {start : String} {opened : List Opening}

/-- What is at one argument is nested, if what is inside it is. -/
theorem isNested_step {suffix : String} (hsuffix : suffix = Opening.suffix start opened)
    (hcarried : suffix = Opening.carried start opened) {argument : Argument} {inner : Trace}
    (hinner : ∀ opening : Opening,
      opening.first.resolved.suffix = nestedSuffix suffix argument.longName →
      opening.first.resolved.suffix = Opening.suffix start (opened ++ [opening]) →
      inner.IsNested start (opened ++ [opening])) :
    (walker.step suffix argument inner).IsNested start opened := by
  rcases walker.step_cases suffix argument inner with
    ⟨fault, -, hstep⟩ | ⟨note, hstep⟩ | ⟨fault, -, hstep⟩ | ⟨resolved, -, hresolve, hstep⟩
  · rw [hstep]
    exact Trace.IsNested.of_no_events rfl
  · rw [hstep]
    exact Trace.IsNested.of_no_events rfl
  · rw [hstep]
    exact Trace.IsNested.of_no_events rfl
  · rw [hstep]
    obtain ⟨shape, typeName, longName, initializer, hshape, -, hname, -, hresolved⟩ :=
      Argument.resolve_eq_ok_iff.1 hresolve
    cases argument with
    | member declaration =>
      have hfits : Event.FitsIn start opened ⟨.member, suffix, resolved⟩ :=
        ⟨hsuffix, hcarried, fun h => absurd rfl h, nofun⟩
      rw [visit_member hresolve]
      refine .of_member rfl hfits ?_
      rw [events_resolvedNotes]
      rfl
    | group declaration arguments =>
      have hnested : resolved.suffix = nestedSuffix suffix declaration.longName := by
        rw [hresolved, Argument.classify_group hshape]
        rfl
      have hlongName : declaration.longName = .str resolved.longName := by
        rw [hresolved]
        exact hname
      have hinside : resolved.suffix = suffix ++ "_" ++ resolved.longName := by
        rw [hnested, hlongName]
        rfl
      have hfits : Event.FitsIn start opened ⟨.groupBegin, suffix, resolved⟩ :=
        ⟨hsuffix, hcarried, fun _ => hinside, nofun⟩
      rw [visit_group hresolve]
      refine .of_group rfl hfits ?_ rfl fun position => hinner ⟨position, _⟩ hnested ?_
      · rw [events_resolvedNotes]
        rfl
      · rw [Opening.suffix_concat, ← hsuffix]
        exact hinside

/-- **The events of a walk are nested**, from any open groups whose suffix it begins with. -/
theorem isNested_walk (walker : Walker) (start : String) (arguments : List Argument) :
    ∀ suffix opened, suffix = Opening.suffix start opened →
      suffix = Opening.carried start opened →
      (walker.walk suffix arguments).IsNested start opened := by
  induction arguments using Argument.list_induction with
  | nil => intro suffix opened _ _; exact Trace.IsNested.of_no_events rfl
  | member declaration rest ih =>
    intro suffix opened hsuffix hcarried
    rw [walk_member]
    refine (isNested_step hsuffix hcarried ?_).andThen (ih suffix opened hsuffix hcarried)
    intro opening _ _
    exact Trace.IsNested.of_no_events rfl
  | group declaration inner rest ihInner ih =>
    intro suffix opened hsuffix hcarried
    rw [walk_group]
    refine (isNested_step hsuffix hcarried ?_).andThen (ih suffix opened hsuffix hcarried)
    intro opening hnested hinner
    refine ihInner _ _ (hnested.symm.trans hinner) ?_
    rw [Opening.carried_concat]
    exact hnested.symm

end Walker

/-! ## Statements -/

/-- A statement of the assignments: it declares an object of arguments, or it assigns a value into
a field of one. -/
inductive Statement where
  | declaration (object : String) (typeName : Json)
  | assignment (object field value : String)

/-- The line of a statement. -/
def Statement.line : Statement → String
  | declaration object typeName => "var " ++ object ++ " = new " ++ typeName.text ++ "();"
  | assignment object field value => object ++ "." ++ field ++ " = " ++ value ++ ";"

/-- What is assigned for a member. -/
def Resolved.assigned (options : Options) (resolved : Resolved) : String :=
  match resolved.shape, options.lift.isTruthy with
  | .columnCollection, _ =>
      resolved.name ++ ".Select(" ++ resolved.declaration.columnName.text ++ ".Parse).ToArray()"
  | .genericCollection, true => "new[] \x7b " ++ resolved.name ++ " \x7d"
  | _, _ => resolved.name

namespace Event

/-- The statement that is made of an event. -/
def made (options : Options) (event : Event) : Statement :=
  let r := event.resolved
  match event.phase with
  | .member => .assignment (argumentsObject event.contextSuffix) r.longName (r.assigned options)
  | .groupBegin => .declaration (argumentsObject r.suffix) r.typeName
  | .groupEnd =>
      .assignment (argumentsObject event.contextSuffix) r.longName (argumentsObject r.suffix)

/-- Its line is the one that the emitter of assignments makes. -/
theorem line_made (options : Options) (event : Event) :
    (event.made options).line = event.statement options := by
  obtain ⟨phase, suffix, resolved⟩ := event
  cases phase with
  | member =>
    show argumentsObject suffix ++ "." ++ resolved.longName ++ " = " ++ resolved.assigned options ++
      ";" = assignmentLine _ _ _ _ _ _
    unfold Resolved.assigned assignmentLine
    cases resolved.shape <;> cases options.lift.isTruthy <;> simp only [String.append_assoc] <;> rfl
  | groupBegin => rfl
  | groupEnd => rfl

end Event

/-- If an emitter makes one line of each event of a walk, these are the lines of the emission,
also when the walk ends with a fault. -/
theorem Trace.lines_emit_of_line {trace : Trace} {emitter : Emitter} {line : Event → String}
    (h : ∀ event ∈ trace.events, ∃ notes, emitter event = .ok ⟨notes, [line event]⟩) :
    (trace.emit emitter).lines = trace.events.map line := by
  obtain ⟨steps, fault⟩ := trace
  unfold emit
  induction steps with
  | nil => rfl
  | cons step rest ih =>
    cases step with
    | note n => exact ih h
    | event e =>
      obtain ⟨⟨notes, hline⟩, hrest⟩ := List.forall_mem_cons.1
        (show ∀ event ∈ e :: Trace.events ⟨rest, fault⟩, ∃ notes,
          emitter event = .ok ⟨notes, [line event]⟩ from h)
      simp only [emitSteps, hline]
      exact congrArg (line e :: ·) (ih hrest)

/-- On a walk under its own options, the emitter of assignments makes the statement of each event
into a line. -/
theorem Walker.lines_emit_assignments (walker : Walker) (start : String)
    (arguments : List Argument) (component : Json) :
    ((walker.walk start arguments).emit (assignmentEmitter walker.options component)).lines =
      (walker.walk start arguments).events.map fun event => (event.made walker.options).line := by
  apply Trace.lines_emit_of_line
  intro event hevent
  obtain ⟨place, argument, -, hresolved⟩ :=
    exists_resolve_of_mem_events arguments start event hevent
  obtain ⟨notes, hchunk⟩ := assignmentEmitter_eq hresolved
    (isExcluded_of_mem_events arguments start event hevent) component
  rw [Event.line_made]
  exact ⟨notes, hchunk⟩

/-- What an event assigns into is the initial object if it is in no group, and else the one that
the beginning of the innermost group around it has declared. -/
def Event.AssignsDeclared (options : Options) (start : String) (before : List Event)
    (event : Event) : Prop :=
  ∀ object field value, event.made options = .assignment object field value →
    (event.around (openings 0 [] before) = [] ∧ object = argumentsObject start) ∨
      ∃ outer opening typeName, event.around (openings 0 [] before) = outer ++ [opening] ∧
        before[opening.position]? = some opening.first ∧
        opening.first.made options = .declaration object typeName

/-- An event that fits in with the open groups assigns into an object that is declared. -/
theorem Event.FitsIn.assignsDeclared {start : String} {before : List Event} {event : Event}
    (h : event.FitsIn start (openings 0 [] before)) (options : Options) :
    event.AssignsDeclared options start before := by
  intro object field value hmade
  have hobject : object = argumentsObject event.contextSuffix := by
    unfold made at hmade
    split at hmade <;> cases hmade <;> rfl
  rw [hobject, h.carried]
  rcases List.eq_nil_or_concat (event.around (openings 0 [] before)) with
    hnone | ⟨outer, opening, hsome⟩
  · refine .inl ⟨hnone, ?_⟩
    rw [hnone]
    rfl
  · rw [List.concat_eq_append] at hsome
    have hmem : opening ∈ openings 0 [] before := by
      have haround : opening ∈ event.around (openings 0 [] before) := by
        rw [hsome]
        exact List.mem_append_right _ (List.mem_singleton_self _)
      unfold around at haround
      split at haround
      · exact List.dropLast_subset _ haround
      · exact haround
    rcases mem_openings before 0 [] hmem with hnil | ⟨k, hposition, hfirst, hphase⟩
    · cases hnil
    · refine .inr ⟨outer, opening, opening.first.resolved.typeName, hsome, ?_, ?_⟩
      · rw [hposition, Nat.zero_add]
        exact hfirst
      · rw [hsome, Opening.carried_concat, made, hphase]

/-- **Groups are nested, and objects are declared before they are used.**  On any walk, be it
ended by a fault or not, each event fits in with the groups that have begun and not yet ended;
the assignments under the options of the walk are one statement for each event, and what is
assigned into is the initial object or the one that the innermost of these groups has declared.
If the walk is not ended by a fault, no group stays open, and the object of each group is
assigned once into a field of the object around it, after all statements inside the group. -/
theorem Walker.walk_nested (walker : Walker) (start : String) (arguments : List Argument)
    (component : Json) :
    let events := (walker.walk start arguments).events
    let emission := (walker.walk start arguments).emit (assignmentEmitter walker.options component)
    (∀ before event after, events = before ++ event :: after →
      event.FitsIn start (openings 0 [] before)) ∧
    emission.lines = events.map (fun event => (event.made walker.options).line) ∧
    (∀ before event after, events = before ++ event :: after →
      event.AssignsDeclared walker.options start before) ∧
    ((walker.walk start arguments).fault = none → openings 0 [] events = [] ∧
      ∀ before first after, events = before ++ first :: after → first.phase = .groupBegin →
        EndsOnce events before first ∧
        ∀ other, Ends events ⟨before.length, first⟩ other →
          emission.lines[other.length]? = some (groupCloseLine first.resolved.longName
            first.contextSuffix first.resolved.suffix)) := by
  intro events emission
  have hsuffix : start = Opening.suffix start [] := String.append_empty.symm
  have hnested := isNested_walk walker start arguments start [] hsuffix rfl
  have hlines : emission.lines = events.map (fun event => (event.made walker.options).line) :=
    lines_emit_assignments walker start arguments component
  have hfits : ∀ before event after, events = before ++ event :: after →
      event.FitsIn start (openings 0 [] before) := by
    intro before event after hsplit
    have hall := hnested.nested 0
    rw [show (walker.walk start arguments).events = _ from hsplit] at hall
    exact hall.fitsIn
  refine ⟨hfits, hlines, ?_, ?_⟩
  · intro before event after hsplit
    exact (hfits before event after hsplit).assignsDeclared walker.options
  · intro hfault
    have hclosed := hnested.closed hfault 0
    refine ⟨hclosed, ?_⟩
    intro before first after hsplit hphase
    constructor
    · rw [hsplit]
      refine endsOnce_of_closed ?_ hphase
      rw [← hsplit]
      exact hclosed
    · rintro other ⟨last, later, hother, hlast, hinnermost⟩
      obtain ⟨opening, hopening, -, hending⟩ := (hfits other last later hother).ended hlast
      obtain rfl := Option.some.inj (hinnermost.symm.trans hopening)
      rw [hlines, hother, List.getElem?_map, List.getElem?_append_right (Nat.le_refl _),
        Nat.sub_self, List.getElem?_cons_zero, hending, Option.map_some, Event.line_made]
      rfl

/-- A group around a member and another group, and a member after it. -/
def Argument.nestedSample : List Argument :=
  [.group (.ofType "solver" (.named .object "Solver"))
      [.member (.ofType "rank" (.named .integer "")),
        .group (.ofType "limits" (.named .object "Limits"))
          [.member (.ofType "steps" (.named .integer ""))]],
    .member (.ofType "seed" (.named .integer ""))]

/-- The assignments of the sample: each object is declared first and assigned last. -/
theorem Walker.walk_nested_sample :
    let walk := Walker.walk ⟨.standard, .str "trainer"⟩ "" Argument.nestedSample
    walk.fault = none ∧
      (walk.emit (assignmentEmitter .standard (.str "trainer"))).lines =
        ["var args_solver = new Solver();", "args_solver.rank = rank_solver;",
          "var args_solver_limits = new Limits();",
          "args_solver_limits.steps = steps_solver_limits;",
          "args_solver.limits = args_solver_limits;", "args.solver = args_solver;",
          "args.seed = seed;"] ∧
      openings 0 [] walk.events = [] ∧
      ∀ before first after, walk.events = before ++ first :: after →
        first.phase = .groupBegin → EndsOnce walk.events before first := by
  intro walk
  have hfault : walk.fault = none := rfl
  have hlines : (walk.emit (assignmentEmitter .standard (.str "trainer"))).lines =
      ["var args_solver = new Solver();", "args_solver.rank = rank_solver;",
        "var args_solver_limits = new Limits();",
        "args_solver_limits.steps = steps_solver_limits;",
        "args_solver.limits = args_solver_limits;", "args.solver = args_solver;",
        "args.seed = seed;"] := by decide +kernel
  obtain ⟨hclosed, hends⟩ := (Walker.walk_nested ⟨.standard, .str "trainer"⟩ ""
    Argument.nestedSample (.str "trainer")).2.2.2 hfault
  exact ⟨hfault, hlines, hclosed, fun before first after hsplit hphase =>
    (hends before first after hsplit hphase).1⟩

end CatalogClasses
