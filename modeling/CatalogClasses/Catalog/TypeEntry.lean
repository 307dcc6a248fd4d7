/-
# Reading type declarations

A type is declared by a text (`int`, `string[]`, `float?`) or by an object that gives
its kind, name, item type and whether it is nullable.
-/
import CatalogClasses.Fault
import CatalogClasses.Text.Blank
import CatalogClasses.Text.Search

namespace CatalogClasses

/-! ## Names of types -/

/-- The kinds of types that have names of their own, by name. -/
def primitiveNames : List (String × PlainKind) :=
  [("bool", .boolean), ("boolean", .boolean), ("int", .integer), ("integer", .integer),
    ("long", .long), ("float", .float), ("double", .double), ("number", .double),
    ("string", .string), ("str", .string), ("char", .char)]

namespace SchemaType

/-! ## Declarations by a text -/

/-- The text without the white space around it and without one question mark at its
end, and whether there is such a mark. -/
def unmark (text : List Char) : List Char × Bool :=
  match Text.dropEnding? ['?'] (Text.trim text) with
  | some rest => (rest, true)
  | none => (Text.trim text, false)

/-- Taking off white space and a question mark never makes a text longer. -/
theorem length_unmark_le (text : List Char) : (unmark text).1.length ≤ text.length := by
  have trimmed := Text.length_trim_le text
  unfold unmark
  split
  · next rest h =>
    have shorter := congrArg List.length (Text.dropEnding?_eq_some_iff.1 h)
    simp at shorter ⊢
    omega
  · exact trimmed

/-- The type declared by a text.  White space around the text is dropped, then one
question mark at its end makes the type nullable, then a pair of brackets at its end
makes it a sequence of the type declared by what stands before them. -/
def ofText (argument : Json) (text : List Char) : Fallible SchemaType :=
  match _h : Text.dropEnding? ['[', ']'] (unmark text).1 with
  | some inner => do
      let item ← ofText argument inner
      return sequence item (.str "") (unmark text).2
  | none => match primitiveNames.lookup (String.ofList (unmark text).1) with
    | some kind => return plain kind (.str "") (unmark text).2
    | none => failAt argument (.unknownType (String.ofList text))
  termination_by text.length
  decreasing_by
    have shorter := congrArg List.length (Text.dropEnding?_eq_some_iff.1 _h)
    have marked := length_unmark_le text
    simp only [List.length_append, List.length_cons, List.length_nil] at shorter
    omega

/-! ## Declarations by an object -/

/-- The kind that a word in an object stands for: the word for a kind, or the name of a
type that is no other's.  A list or an object is no word at all. -/
def kindOfWord (argument : Json) : Json → Fallible Kind
  | .str word => match Kind.ofWord? word with
    | some kind => .ok kind
    | none => match primitiveNames.lookup word with
      | some kind => .ok (.plain kind)
      | none => failAt argument (.unknownKind (.str word))
  | .arr _ => malformed .notAKey
  | .obj _ => malformed .notAKey
  | word => failAt argument (.unknownKind word)

/-- The type that a catalog declares by this value. -/
def ofJson (argument : Json) : Json → Fallible SchemaType
  | .str text => ofText argument text.toList
  | .obj fields => do
      let kind ← kindOfWord argument ((Json.lookup "kind" fields).getD .null)
      let name := (Json.lookup "name" fields).getD (.str "")
      let nullable := ((Json.lookup "nullable" fields).getD .null).isTruthy
      match kind with
      | .plain kind =>
          if kind.isNamed && !name.isTruthy then failAt argument (.declarationWithoutName kind)
          else return plain kind name nullable
      | .sequence => match _h : Json.lookup "item" fields with
        | none => failAt argument .declarationWithoutItem
        | some entry => do
            let item ← ofJson argument entry
            return sequence item name nullable
  | entry => failAt argument (.unsupportedDeclaration entry)
  termination_by entry => sizeOf entry
  decreasing_by
    have := Json.sizeOf_lookup_lt _h
    simp
    omega

end SchemaType

end CatalogClasses
