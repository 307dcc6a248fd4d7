/-
# Reading JSON text

A text is read by going through its tokens once, with the open arrays and objects on
a stack.  Whatever the text, the reader stops after its last token.
-/
import CatalogClasses.Json.Token

namespace CatalogClasses.Json

/-! ## The state of the reader -/

/-- An array or an object that is still open, with what it holds so far (elements in
reverse). -/
inductive Frame where
  | array (elements : List Json)
  | object (fields : List (String × Json))
  | field (fields : List (String × Json)) (key : String)

/-- What may come next. -/
inductive Expects where
  /-- A value. -/
  | value
  /-- A value, or the end of the array just opened. -/
  | firstElement
  /-- A key, or the end of the object just opened. -/
  | firstKey
  /-- A key. -/
  | key
  /-- The colon after a key. -/
  | colon
  /-- A comma or an end, after a value; nothing, if the value is the whole text. -/
  | next

/-- The open arrays and objects, the innermost first, what may come next, and the
value of the whole text once it is complete. -/
structure ReaderState where
  frames : List Frame
  expects : Expects
  whole : Option Json

/-! ## One token -/

/-- The state after a complete value. -/
def ReaderState.put (frames : List Frame) (value : Json) : Option ReaderState :=
  match frames with
  | [] => some ⟨[], .next, some value⟩
  | .array elements :: rest => some ⟨.array (value :: elements) :: rest, .next, none⟩
  | .field fields key :: rest =>
      some ⟨.object (Json.insert key value fields) :: rest, .next, none⟩
  | .object _ :: _ => none

/-- The state after one more token; none if the token may not stand there. -/
def ReaderState.step (s : ReaderState) (token : Token) : Option ReaderState :=
  match s.expects, token, s.frames with
  | .value, .scalar v, frames => put frames v
  | .firstElement, .scalar v, frames => put frames v
  | .value, .openArray, frames => some ⟨.array [] :: frames, .firstElement, none⟩
  | .firstElement, .openArray, frames => some ⟨.array [] :: frames, .firstElement, none⟩
  | .value, .openObject, frames => some ⟨.object [] :: frames, .firstKey, none⟩
  | .firstElement, .openObject, frames => some ⟨.object [] :: frames, .firstKey, none⟩
  | .firstElement, .closeArray, .array elements :: frames => put frames (.arr elements.reverse)
  | .firstKey, .closeObject, .object fields :: frames => put frames (.obj fields)
  | .firstKey, .scalar (.str key), .object fields :: frames =>
      some ⟨.field fields key :: frames, .colon, none⟩
  | .key, .scalar (.str key), .object fields :: frames =>
      some ⟨.field fields key :: frames, .colon, none⟩
  | .colon, .colon, frames => some ⟨frames, .value, none⟩
  | .next, .comma, .array elements :: frames => some ⟨.array elements :: frames, .value, none⟩
  | .next, .comma, .object fields :: frames => some ⟨.object fields :: frames, .key, none⟩
  | .next, .closeArray, .array elements :: frames => put frames (.arr elements.reverse)
  | .next, .closeObject, .object fields :: frames => put frames (.obj fields)
  | _, _, _ => none

/-! ## The whole text -/

/-- The value that a sequence of tokens stands for. -/
def ofTokens? (tokens : List Token) : Option Json := do
  let s ← tokens.foldlM ReaderState.step ⟨[], .value, none⟩
  s.whole

/-- The value that a text stands for; none if the text is not JSON. -/
def ofText? (text : String) : Option Json := do
  let tokens ← tokens? text.toList
  ofTokens? tokens

end CatalogClasses.Json
