/-
# Searching in a text

Whether one text occurs in another, and the removal of a given ending.
-/

namespace CatalogClasses.Text

/-- The first text begins the second. -/
def startsWith : List Char → List Char → Bool
  | [], _ => true
  | _ :: _, [] => false
  | c :: start, d :: text => c == d && startsWith start text

/-- The first text occurs somewhere in the second; the empty text occurs in every text. -/
def occursIn (part : List Char) : List Char → Bool
  | [] => part.isEmpty
  | c :: rest => startsWith part (c :: rest) || occursIn part rest

/-- The text before the given ending, if it has that ending. -/
def dropEnding? (ending text : List Char) : Option (List Char) :=
  if text.drop (text.length - ending.length) = ending
  then some (text.take (text.length - ending.length)) else none

/-- A text has the given ending exactly when it is some text followed by that ending. -/
theorem dropEnding?_eq_some_iff {ending text start : List Char} :
    dropEnding? ending text = some start ↔ text = start ++ ending := by
  constructor
  · intro h
    unfold dropEnding? at h
    split at h
    · next hd =>
      cases h
      have key := List.take_append_drop (text.length - ending.length) text
      rw [hd] at key
      exact key.symm
    · cases h
  · rintro rfl
    simp [dropEnding?]

end CatalogClasses.Text
