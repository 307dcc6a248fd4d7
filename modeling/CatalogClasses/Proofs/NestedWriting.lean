/-
# Writing in nested blocks

A text is written by a program: lines, blocks of lines one level deeper, and places where writing
is given up.  Giving up leaves the blocks around such a place, one after another, until writing is
taken up again or the program has ended.  A block takes the level back in whichever way it is
left.  So at each point of a run the level is the one of the start and one more for each open
block, what has been written stays as it is, and a run from a deeper level writes the same lines
with more indentation.  The content of a class is the run of such a program: the body of the
factory method is a block, and any of the emissions may give it up.

Main definitions:

* `Writer.Program`, `Writer.Program.run` : what is written, and the writing of it;
* `Writer.Program.stages` : the steps of a run, each with the number of blocks that are open then;
* `Layout.deeper` : a line with the indentation of some more levels, if it is not empty;
* `Factory.program` : what is written as the content of a class.
-/
import CatalogClasses.Proofs.Composition

namespace CatalogClasses

/-! ## Deeper lines -/

namespace Layout

/-- A line with the indentation of some more levels, if it is not empty. -/
def deeper (levels : Nat) (line : String) : String :=
  if line = "" then "" else String.ofList (List.replicate (4 * levels) ' ') ++ line

/-- A line some levels deeper is the line at the level, with more indentation. -/
theorem line_add (levels level : Nat) (text : String) :
    line (levels + level) text = deeper levels (line level text) := by
  cases hblank : Text.allBlank text.toList with
  | true =>
    -- a blank line is empty at every level
    have hempty : ∀ l, line l text = "" := fun l => by rw [line, hblank, if_pos rfl]
    rw [hempty, hempty, deeper, if_pos rfl]
  | false =>
    rw [deeper, if_neg (SourceFile.line_ne_empty hblank level), line_of_visible hblank,
      line_of_visible hblank, ← String.append_assoc, ← String.ofList_append]
    congr 2
    rw [indentation, indentation, List.replicate_append_replicate]
    congr 1
    omega

end Layout

namespace Writer

/-- Actions one after another are done one after another. -/
theorem run_append (w : Writer) (first second : List Action) :
    w.run (first ++ second) = (w.run first).run second :=
  List.foldl_append

/-- Leaving the open blocks one after the other is leaving them all at once. -/
theorem run_replicate_leave (depth : Nat) :
    ∀ w : Writer, w.blocks = depth → w.run (List.replicate depth .leave) = w.act .abandon := by
  induction depth with
  | zero =>
    rintro ⟨level, lines, blocks⟩ rfl
    rw [Writer.act, Int.ofNat_zero, Int.sub_zero]
    rfl
  | succ depth ih =>
    rintro ⟨level, lines, blocks⟩ rfl
    rw [List.replicate_succ]
    refine (ih ⟨level - 1, lines, depth⟩ rfl).trans ?_
    simp only [Writer.act]
    congr 1
    omega

/-- A line and then others are lines at one level, for writing leaves the level as it is. -/
theorem act_write_cons (w : Writer) (text : String) (texts : List String) :
    (w.act (.write [text])).act (.write texts) = w.act (.write (text :: texts)) := by
  simp only [Writer.act, Layout.lines, List.map_cons, List.map_nil, List.append_assoc,
    List.cons_append, List.nil_append]

theorem run_map_write (texts : List String) :
    ∀ w : Writer, w.run (texts.map fun text => .write [text]) = w.act (.write texts) := by
  induction texts with
  | nil =>
    intro w
    simp only [Writer.act, Layout.lines, List.map_nil, List.append_nil]
    rfl
  | cons text rest ih => intro w; exact (ih _).trans (act_write_cons w text rest)

/-! ## Programs -/

/-- What is written.  Writing may be given up at any place, and it is taken up again where the next
`rescue` stands around that place. -/
inductive Program where
  /-- Nothing is written. -/
  | done
  /-- A line is written. -/
  | line (text : String)
  /-- Lines are written, one after another. -/
  | lines (texts : List String)
  /-- Writing is given up. -/
  | fail
  /-- The second program follows the first, unless that has been given up. -/
  | andThen (first second : Program)
  /-- The body is written in a nested block. -/
  | nest (body : Program)
  /-- If the body is given up, the other program follows. -/
  | rescue (body other : Program)

namespace Program

/-- The writing of a program.  What has been written when it is given up is not taken back. -/
def perform : Program → ExceptT Unit (StateM Writer) Unit
  | .done => pure ()
  | .line text => modify (·.act (.write [text]))
  | .lines texts => texts.forM fun text => modify (·.act (.write [text]))
  | .fail => throw ()
  | .andThen first second => do
      first.perform
      second.perform
  | .nest body => do
      modify (·.act .nest)
      try body.perform finally modify (·.act .leave)
  | .rescue body other => try body.perform catch _ => other.perform

/-- How a program ends, and the text then. -/
def run (program : Program) (w : Writer) : Except Unit Unit × Writer := program.perform.run.run w

/-! ### Runs of programs -/

theorem run_line (text : String) (w : Writer) :
    (line text).run w = (.ok (), w.act (.write [text])) := rfl

theorem run_lines (texts : List String) :
    ∀ w : Writer, (lines texts).run w = (.ok (), w.act (.write texts)) := by
  intro w
  rw [← run_map_write]
  induction texts generalizing w with
  | nil => rfl
  | cons text rest ih => exact ih (w.act (.write [text]))

/-- The second of two programs is run only if the first comes to its end. -/
theorem run_andThen (first second : Program) (w : Writer) :
    (andThen first second).run w = match first.run w with
      | (.ok _, after) => second.run after
      | (.error _, after) => (.error (), after) := by
  unfold run
  rw [perform, ExceptT.run_bind, StateT.run_bind]
  rcases first.perform.run.run w with ⟨_ | _, after⟩ <;> rfl

/-- A block is left in whichever way its body ends. -/
theorem run_nest (body : Program) (w : Writer) :
    (nest body).run w = ((body.run (w.act .nest)).1, (body.run (w.act .nest)).2.act .leave) := by
  -- how the body ends is known only when it has been run on a text
  have hfinally : ∀ v : Writer,
      (tryFinally body.perform (modify (·.act .leave))).run.run v =
        ((body.run v).1, (body.run v).2.act .leave) := by
    intro v
    simp only [tryFinally, tryFinally', ExceptT.run_map, ExceptT.run_mk, StateT.run_map,
      StateT.run_bind]
    rcases h : body.perform v with ⟨_ | _, after⟩ <;>
      · simp only [run, StateT.run, ExceptT.run, bind, h]
        rfl
  exact hfinally (w.act .nest)

/-- The other program is run only if the body is given up. -/
theorem run_rescue (body other : Program) (w : Writer) :
    (rescue body other).run w = match body.run w with
      | (.ok _, after) => (.ok (), after)
      | (.error _, after) => other.run after := by
  unfold run
  rw [perform, ExceptT.run_tryCatch, StateT.run_bind]
  rcases body.perform.run.run w with ⟨_ | _, after⟩ <;> rfl

end Program

/-! ## Steps and open blocks -/

/-- A step of a run, and the number of blocks that are open when it is done. -/
structure Stage where
  action : Action
  depth : Nat

namespace Stage

/-- The texts that are written in a step. -/
def texts (stage : Stage) : List String :=
  match stage.action with
  | .write texts => texts
  | _ => []

/-- The lines that a step adds when writing was started at a level. -/
def written (start : Int) (stage : Stage) : List String :=
  Layout.lines (start + stage.depth) stage.texts

/-- From a deeper level, a step adds the same lines with more indentation. -/
theorem written_add (k : Nat) (stage : Stage) :
    stage.written k = (stage.written 0).map (Layout.deeper k) := by
  rw [written, written, Layout.lines, Layout.lines, List.map_map, Int.zero_add]
  exact List.map_congr_left fun text _ => Layout.line_add k stage.depth text

/-- A text that is not blank is added after four spaces for each level. -/
theorem written_eq (k : Nat) (stage : Stage) :
    stage.written k = stage.texts.map fun text => if Text.allBlank text.toList then ""
      else String.ofList (List.replicate (4 * (k + stage.depth)) ' ') ++ text :=
  rfl

/-- The number of open blocks is right for a step that is done when `depth` blocks are open. -/
def Follows (depth : Nat) (stage : Stage) : Prop :=
  match stage.action with
  | .write _ => stage.depth = depth
  | .nest => stage.depth = depth + 1
  | .leave => stage.depth + 1 = depth
  | .abandon => stage.depth = 0
  | .idle => stage.depth = depth

end Stage

/-- The numbers of open blocks are right for all steps, the first of which is done when `depth`
blocks are open; when the last is done, `last` blocks are. -/
def Leads : Nat → List Stage → Nat → Prop
  | depth, [], last => depth = last
  | depth, stage :: rest, last => stage.Follows depth ∧ Leads stage.depth rest last

theorem leads_append {second : List Stage} {last : Nat} (first : List Stage) :
    ∀ depth, Leads depth (first ++ second) last ↔
      ∃ middle, Leads depth first middle ∧ Leads middle second last := by
  induction first with
  | nil => intro depth; exact ⟨fun h => ⟨depth, rfl, h⟩, fun ⟨_, hmiddle, h⟩ => hmiddle ▸ h⟩
  | cons stage rest ih =>
    intro depth
    rw [List.cons_append, Leads, ih]
    constructor
    · rintro ⟨hstage, middle, hrest, hsecond⟩
      exact ⟨middle, ⟨hstage, hrest⟩, hsecond⟩
    · rintro ⟨middle, ⟨hstage, hrest⟩, hsecond⟩
      exact ⟨hstage, middle, hrest, hsecond⟩

/-- Writing was started at a level, `depth` blocks are open, and each of them is one level. -/
structure StandsAt (start : Int) (depth : Nat) (w : Writer) : Prop where
  level_eq : w.level = start + depth
  blocks_eq : w.blocks = depth

/-- After a step, each block that is open then is one level. -/
theorem StandsAt.act {start : Int} {depth : Nat} {w : Writer} {stage : Stage}
    (h : StandsAt start depth w) (hstage : stage.Follows depth) :
    StandsAt start stage.depth (w.act stage.action) := by
  obtain ⟨action, next⟩ := stage
  obtain ⟨level, lines, blocks⟩ := w
  obtain ⟨hlevel, hblocks⟩ := h
  dsimp only at hlevel hblocks
  subst hlevel hblocks
  cases action with
  | write texts =>
    obtain rfl : next = blocks := hstage
    exact ⟨rfl, rfl⟩
  | nest =>
    obtain rfl : next = blocks + 1 := hstage
    exact ⟨by simp only [Writer.act]; omega, rfl⟩
  | leave =>
    -- a block is open, so that there is one to be left
    obtain rfl : next + 1 = blocks := hstage
    exact ⟨by simp only [Writer.act]; omega, rfl⟩
  | abandon =>
    obtain rfl : next = 0 := hstage
    exact ⟨by simp only [Writer.act]; omega, rfl⟩
  | idle =>
    obtain rfl : next = blocks := hstage
    exact ⟨rfl, rfl⟩

/-- A step leaves the lines there are as they are, and adds its own. -/
theorem StandsAt.lines_act {start : Int} {depth : Nat} {w : Writer} {stage : Stage}
    (h : StandsAt start depth w) (hstage : stage.Follows depth) :
    (w.act stage.action).lines = w.lines ++ stage.written start := by
  obtain ⟨action, next⟩ := stage
  cases action with
  | write texts =>
    obtain rfl : next = depth := hstage
    rw [Stage.written, ← h.level_eq]
    rfl
  | leave =>
    rw [show Stage.written start ⟨.leave, next⟩ = [] from rfl, List.append_nil, Writer.act]
    split <;> rfl
  | nest => exact (List.append_nil _).symm
  | abandon => exact (List.append_nil _).symm
  | idle => exact (List.append_nil _).symm

/-- So it is after steps one after another, which add their lines in order. -/
theorem StandsAt.run {start : Int} {last : Nat} (stages : List Stage) :
    ∀ {depth : Nat} {w : Writer}, StandsAt start depth w → Leads depth stages last →
      StandsAt start last (w.run (stages.map Stage.action)) ∧
        (w.run (stages.map Stage.action)).lines =
          w.lines ++ stages.flatMap (Stage.written start) := by
  -- that each open block is one level tells at which level the next step adds its lines
  induction stages with
  | nil =>
    intro depth w h hleads
    obtain rfl : depth = last := hleads
    exact ⟨h, (List.append_nil _).symm⟩
  | cons stage rest ih =>
    intro depth w h ⟨hstage, hrest⟩
    obtain ⟨hlast, hlines⟩ := ih (h.act hstage) hrest
    refine ⟨hlast, ?_⟩
    rw [List.flatMap_cons, ← List.append_assoc, ← h.lines_act hstage]
    exact hlines

/-- The text after some steps, when writing was started at a level. -/
def reached (level : Int) (stages : List Stage) : Writer :=
  (start level).run (stages.map Stage.action)

theorem reached_concat (level : Int) (stages : List Stage) (stage : Stage) :
    reached level (stages ++ [stage]) = (reached level stages).act stage.action := by
  rw [reached, List.map_append, run_append]
  rfl

theorem standsAt_reached {level : Int} {stages : List Stage} {depth : Nat}
    (h : Leads 0 stages depth) : StandsAt level depth (reached level stages) :=
  (StandsAt.run stages ⟨(Int.add_zero level).symm, rfl⟩ h).1

theorem lines_reached {level : Int} {stages : List Stage} {depth : Nat}
    (h : Leads 0 stages depth) :
    (reached level stages).lines = stages.flatMap (Stage.written level) :=
  (StandsAt.run stages ⟨(Int.add_zero level).symm, rfl⟩ h).2

namespace Program

/-! ## The steps of a program -/

/-- How a program ends, whatever the text it is run on. -/
def ending : Program → Except Unit Unit
  | .done => .ok ()
  | .line _ => .ok ()
  | .lines _ => .ok ()
  | .fail => .error ()
  | .andThen first second => match first.ending with
    | .ok () => second.ending
    | .error () => .error ()
  | .nest body => body.ending
  | .rescue body other => match body.ending with
    | .ok () => .ok ()
    | .error () => other.ending

/-- The steps of a program that stands in a number of open blocks.  A block is left when its body
has ended, in whichever way. -/
def stages : Program → Nat → List Stage
  | .done, _ => []
  | .line text, depth => [⟨.write [text], depth⟩]
  | .lines texts, depth => texts.map fun text => ⟨.write [text], depth⟩
  | .fail, _ => []
  | .andThen first second, depth => first.stages depth ++ match first.ending with
    | .ok () => second.stages depth
    | .error () => []
  | .nest body, depth => ⟨.nest, depth + 1⟩ :: body.stages (depth + 1) ++ [⟨.leave, depth⟩]
  | .rescue body other, depth => body.stages depth ++ match body.ending with
    | .ok () => []
    | .error () => other.stages depth

/-- A program leaves all the blocks that it opens, and no other, also if it is given up. -/
theorem leads_stages (program : Program) :
    ∀ depth, Leads depth (program.stages depth) depth := by
  induction program with
  | done => intro depth; rfl
  | line text => intro depth; exact ⟨rfl, rfl⟩
  | lines texts =>
    intro depth
    induction texts with
    | nil => rfl
    | cons text rest ih => exact ⟨rfl, ih⟩
  | fail => intro depth; rfl
  | andThen first second ihfirst ihsecond =>
    intro depth
    refine (leads_append _ _).2 ⟨depth, ihfirst depth, ?_⟩
    split
    · exact ihsecond depth
    · rfl
  | nest body ih =>
    intro depth
    -- the body leaves its own blocks, and the step after it leaves this one
    exact ⟨rfl, (leads_append _ _).2 ⟨depth + 1, ih (depth + 1), rfl, rfl⟩⟩
  | rescue body other ihbody ihother =>
    intro depth
    refine (leads_append _ _).2 ⟨depth, ihbody depth, ?_⟩
    split
    · rfl
    · exact ihother depth

/-- A run of a program takes its steps, one after another. -/
theorem run_eq (program : Program) :
    ∀ depth w, program.run w =
      (program.ending, w.run ((program.stages depth).map Stage.action)) := by
  induction program with
  | done => intro depth w; rfl
  | line text => intro depth w; rfl
  | lines texts =>
    intro depth w
    rw [run_lines, stages, List.map_map, ← run_map_write]
    rfl
  | fail => intro depth w; rfl
  | andThen first second ihfirst ihsecond =>
    intro depth w
    rw [run_andThen, ihfirst depth, stages, ending]
    cases first.ending with
    | ok =>
      show second.run _ = _
      rw [ihsecond depth, List.map_append, run_append]
    | error => rw [List.append_nil]
  | nest body ih =>
    intro depth w
    rw [run_nest, ih (depth + 1), stages, List.map_append, run_append]
    rfl
  | rescue body other ihbody ihother =>
    intro depth w
    rw [run_rescue, ihbody depth, stages, ending]
    cases body.ending with
    | ok => rw [List.append_nil]
    | error =>
      show other.run _ = _
      rw [ihother depth, List.map_append, run_append]

/-! ## Depth and shift -/

/-- **Depth and shift.**  A run from a level takes the steps of the program, however it ends, and
its last level is the first one.  After each step the level is the first one and one more for each
open block; if writing is given up there for good, the blocks are left and the level is the first
one again.  A text that is not blank is written after four spaces for each level, a blank one is
written empty, and nothing that has been written changes.  A run from a deeper level writes the
lines of the run from level zero, with more indentation before those that are not empty. -/
theorem depth_and_shift (program : Program) (k : Nat) :
    program.run (start k) = (program.ending, reached k (program.stages 0)) ∧
    (program.run (start k)).2.level = k ∧
    (∀ before stage after, program.stages 0 = before ++ stage :: after →
      let w := reached k (before ++ [stage])
      w.level = k + stage.depth ∧ w.blocks = stage.depth ∧
      w.run (List.replicate stage.depth .leave) = w.act .abandon ∧ (w.act .abandon).level = k ∧
      w.lines = (reached k before).lines ++
        stage.texts.map fun text => if Text.allBlank text.toList then ""
          else String.ofList (List.replicate (4 * (k + stage.depth)) ' ') ++ text) ∧
    (∀ before between after, program.stages 0 = before ++ between ++ after →
      (reached k before).lines <+: (reached k (before ++ between)).lines) ∧
    (program.run (start k)).2.lines =
      (program.run (start 0)).2.lines.map (Layout.deeper k) := by
  have hstages := program.leads_stages 0
  have hrun : ∀ level, program.run (start level) =
      (program.ending, reached level (program.stages 0)) := fun level => program.run_eq 0 _
  refine ⟨hrun k, ?_, ?_, ?_, ?_⟩
  · rw [hrun]
    exact (standsAt_reached hstages).level_eq.trans (Int.add_zero _)
  · intro before stage after h w
    rw [h] at hstages
    obtain ⟨depth, hbefore, hstage, -⟩ := (leads_append _ _).1 hstages
    have hw : w = (reached k before).act stage.action := reached_concat ..
    have hstands : StandsAt k stage.depth w := hw ▸ (standsAt_reached hbefore).act hstage
    refine ⟨hstands.level_eq, hstands.blocks_eq, run_replicate_leave _ w hstands.blocks_eq, ?_, ?_⟩
    · show w.level - w.blocks = k
      rw [hstands.level_eq, hstands.blocks_eq, Int.add_sub_cancel]
    · rw [hw, (standsAt_reached hbefore).lines_act hstage, Stage.written_eq]
  · intro before between after h
    rw [h] at hstages
    obtain ⟨_, hboth, -⟩ := (leads_append _ _).1 hstages
    obtain ⟨_, hbefore, -⟩ := (leads_append _ _).1 hboth
    rw [lines_reached hboth, lines_reached hbefore, List.flatMap_append]
    exact List.prefix_append ..
  · rw [hrun, hrun, lines_reached hstages, lines_reached hstages, List.map_flatMap]
    exact congrArg (program.stages 0).flatMap (funext fun stage => stage.written_add k)

/-- Two blocks are left when the inner one is given up, writing is taken up again, and the last
block is given up for good. -/
def sample : Program :=
  .andThen
    (.rescue
      (.nest (.andThen (.line "first") (.nest (.andThen (.lines ["inner", " "]) .fail))))
      (.line "other"))
    (.nest (.andThen (.line "last") .fail))

/-- From level two, the line in both blocks is written at level four, and the level is two again
when the program has been given up. -/
theorem depth_and_shift_of_sample :
    sample.ending = .error () ∧ (sample.run (start 2)).2.level = 2 ∧
    (∃ before after, sample.stages 0 = before ++ ⟨.write ["inner"], 2⟩ :: after ∧
      (reached 2 (before ++ [⟨.write ["inner"], 2⟩])).level = 4 ∧
      (reached 2 (before ++ [⟨.write ["inner"], 2⟩])).lines =
        (reached 2 before).lines ++ ["                inner"] ∧
      (reached 2 before).lines <+: (reached 2 (before ++ [⟨.write ["inner"], 2⟩])).lines) ∧
    (sample.run (start 0)).2.lines = ["    first", "        inner", "", "other", "    last"] ∧
    (sample.run (start 2)).2.lines = ["            first", "                inner", "",
      "        other", "            last"] := by
  obtain ⟨hrun, hlevel, hsteps, hprefix, hshift⟩ := depth_and_shift sample 2
  have hstages : sample.stages 0 =
      [⟨.nest, 1⟩, ⟨.write ["first"], 1⟩, ⟨.nest, 2⟩] ++ ⟨.write ["inner"], 2⟩ ::
        [⟨.write [" "], 2⟩, ⟨.leave, 1⟩, ⟨.leave, 0⟩, ⟨.write ["other"], 0⟩, ⟨.nest, 1⟩,
          ⟨.write ["last"], 1⟩, ⟨.leave, 0⟩] := rfl
  have hlines : (sample.run (start 0)).2.lines =
      ["    first", "        inner", "", "other", "    last"] := by rfl
  obtain ⟨hinner, -, -, -, hinnerLine⟩ := hsteps _ _ _ hstages
  refine ⟨rfl, hlevel, ⟨_, _, hstages, hinner, hinnerLine, hprefix _ _ _ hstages⟩, hlines, ?_⟩
  rw [show start 2 = start (2 : Nat) from rfl, hshift, hlines]
  rfl

end Program

end Writer

/-! ## The content of a class -/

/-- The lines of an emission are written, and writing is given up if it ends with a fault. -/
def Emission.program (emission : Emission) : Writer.Program :=
  .andThen (.lines emission.lines) (match emission.fault with
    | none => .done
    | some _ => .fail)

theorem Emission.run_program (emission : Emission) (w : Writer) :
    emission.program.run w =
      (match emission.fault with
        | none => .ok ()
        | some _ => .error (), w.act (.write emission.lines)) := by
  rw [program, Writer.Program.run_andThen, Writer.Program.run_lines]
  cases emission.fault <;> rfl

namespace Factory

/-- The content of a class is written at one level, but for the body of the factory method, which
is a nested block. -/
def program (factory : Factory) (options : Options) (component : Component)
    (signature? : Option String) : Writer.Program :=
  .andThen (component.emission options fieldEmitter).program <|
  .andThen (component.emission options propertyEmitter).program <|
  .andThen (.line (factory.chosenSignature signature?)) <|
  .andThen (.line "\x7b") <|
  .andThen
    (.nest <|
      .andThen (.lines [prologue component]) <|
      .andThen (component.emission options (assignmentEmitter options component.name)).program <|
      .lines [factory.epilogue component])
    (.line "\x7d")

/-- **The content of a class is written in blocks.**  There are lines of the content just when the
program comes to its end, and they are those that it writes from level zero. -/
theorem contentLines_eq_ok_iff_run {factory : Factory} {options : Options} {component : Component}
    {signature? : Option String} {lines : List String} :
    (factory.contentLines options component signature?).result = .ok lines ↔
      (factory.program options component signature?).run (.start 0) = (.ok (), ⟨0, lines, 0⟩) := by
  unfold contentLines program
  simp only [Logged.result_bind, Logged.result_pure, Emission.toLogged, Emission.run_program,
    Writer.Program.run_andThen, Writer.Program.run_nest, Writer.Program.run_line,
    Writer.Program.run_lines]
  -- the first of the three emissions that has a fault ends both
  cases (component.emission options fieldEmitter).fault with
  | some fault => exact iff_of_false nofun nofun
  | none =>
    cases (component.emission options propertyEmitter).fault with
    | some fault => exact iff_of_false nofun nofun
    | none =>
      cases (component.emission options (assignmentEmitter options component.name)).fault with
      | some fault => exact iff_of_false nofun nofun
      | none =>
        simp only [ok_bind, Writer.act, Writer.start, methodLines, Layout.lines_append,
          List.append_assoc, List.nil_append]
        constructor
        · intro h
          obtain rfl := Except.ok.inj h
          rfl
        · intro h
          exact congrArg (fun written => Except.ok written.2.lines) h

end Factory

end CatalogClasses
