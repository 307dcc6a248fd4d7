/-
# Settings of the log

Which notes are shown: the level of the log as a whole, and the outlets that show
them.  The places that make notes follow the level of the whole.
-/
import CatalogClasses.Log.Note

namespace CatalogClasses

/-- The settings of the log as a whole. -/
structure LogSettings where
  level : Level
  /-- Notes are passed on to other logs. -/
  propagates : Bool
  /-- The level of each outlet. -/
  outlets : List Level

/-- The view of the log, or of one place that makes notes. -/
structure LogView where
  name : String
  level : Level
  propagates : Bool
  outlets : List Level

namespace LogSettings

/-- The level of notes that are shown: all of them if asked to be verbose. -/
def shownLevel (verbose : Bool) : Level := if verbose then .debug else .info

/-- Nothing is set up yet: every note counts, and there is no outlet for it. -/
def initial : LogSettings := ⟨.debug, false, []⟩

/-- One outlet, which takes the place of all earlier ones, and its level. -/
def configure (verbose : Bool) : LogSettings :=
  ⟨shownLevel verbose, false, [shownLevel verbose]⟩

/-- The view of the log as a whole, or of the place with a name. -/
def view (settings : LogSettings) (place : String) : LogView :=
  if place = "" then ⟨programName, settings.level, settings.propagates, settings.outlets⟩
  else ⟨sourceName place, settings.level, true, []⟩

end LogSettings

/-- The notes of at least a level. -/
def notesFrom (level : Level) (notes : List Note) : List Note :=
  notes.filter fun n => level.number ≤ n.level.number

end CatalogClasses
