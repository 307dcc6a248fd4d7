/-
# Layout of lines

Generated text is a list of lines.  Each line is written at a level, four spaces for
each; a blank line is written empty, and a level below zero indents nothing.
-/
import CatalogClasses.Text.Blank
import CatalogClasses.Text.Lines

namespace CatalogClasses

namespace Layout

/-- The spaces before a line at a level. -/
def indentation (level : Int) : List Char := List.replicate (4 * level.toNat) ' '

/-- A line written at a level. -/
def line (level : Int) (text : String) : String :=
  if Text.allBlank text.toList then ""
  else String.ofList (indentation level) ++ text

/-- Lines written at a level. -/
def lines (level : Int) (texts : List String) : List String := texts.map (line level)

/-- Lines written one after another are written each on its own. -/
theorem lines_append (level : Int) (first second : List String) :
    lines level (first ++ second) = lines level first ++ lines level second :=
  List.map_append

/-- A line that is not blank is written after its indentation. -/
theorem line_of_visible {level : Int} {text : String} (h : Text.allBlank text.toList = false) :
    line level text = String.ofList (indentation level) ++ text := by
  unfold line
  rw [h]
  rfl

/-- At level zero, lines that are empty or not blank are written as they are. -/
theorem lines_zero_of_visible {texts : List String}
    (h : ∀ text ∈ texts, text = "" ∨ Text.allBlank text.toList = false) :
    lines 0 texts = texts := by
  unfold lines
  rw [List.map_congr_left (g := id), List.map_id]
  intro text htext
  rcases h text htext with rfl | hvisible
  · rfl
  · rw [line_of_visible hvisible]
    exact String.empty_append

/-- At level one, lines that are not blank are written after four spaces. -/
theorem lines_one_of_visible {texts : List String}
    (h : ∀ text ∈ texts, Text.allBlank text.toList = false) :
    lines 1 texts = texts.map ("    " ++ ·) :=
  List.map_congr_left fun text htext => line_of_visible (h text htext)

/-- Each line with a line feed after it. -/
def join (lines : List String) : String :=
  String.join (lines.map (· ++ "\n"))

/-- Joined lines of two parts are the joined lines of each. -/
theorem join_append (first second : List String) :
    join (first ++ second) = join first ++ join second := by
  rw [join, List.map_append, String.join_append]
  rfl

/-- The lines of a text. -/
def split (text : String) : List String := (Text.splitLines text.toList).map String.ofList

end Layout

/-! ## Writing step by step -/

/-- The state of a text that is written step by step: the level, the lines written so
far, and how many nested blocks are open. -/
structure Writer where
  level : Int
  lines : List String
  blocks : Nat

/-- One step of writing. -/
inductive Writer.Action where
  /-- Lines are written at the level there is. -/
  | write (texts : List String)
  /-- A nested block is opened. -/
  | nest
  /-- The innermost open block is left. -/
  | leave
  /-- All open blocks are left at once, as when writing is given up inside them. -/
  | abandon
  /-- Nothing is done. -/
  | idle

namespace Writer

/-- Nothing is written yet. -/
def start (level : Int) : Writer := ⟨level, [], 0⟩

/-- The state after one step. -/
def act (w : Writer) : Action → Writer
  | .write texts => { w with lines := w.lines ++ Layout.lines w.level texts }
  | .nest => { w with level := w.level + 1, blocks := w.blocks + 1 }
  | .leave => match w.blocks with
    | 0 => w
    | blocks + 1 => { w with level := w.level - 1, blocks := blocks }
  | .abandon => { w with level := w.level - w.blocks, blocks := 0 }
  | .idle => w

/-- The states after each of a list of steps, in order. -/
def history (w : Writer) : List Action → List Writer
  | [] => []
  | action :: rest => w.act action :: (w.act action).history rest

/-- The state after all of a list of steps. -/
def run (w : Writer) (actions : List Action) : Writer := actions.foldl act w

/-- The text written so far. -/
def text (w : Writer) : String := Layout.join w.lines

end Writer

end CatalogClasses
