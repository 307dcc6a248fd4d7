/-
# Default values as C# literals

A default value is written as a literal of the type it is declared for.  Null has no
literal of its own: on its own it is no default at all, in a list it is the keyword.
-/
import CatalogClasses.CSharp.TypeName
import CatalogClasses.Number.Nearest

namespace CatalogClasses

open Number

/-! ## Texts and characters -/

/-- One character of a string literal. -/
def stringChar : Char → List Char
  | '\\' => ['\\', '\\']
  | '"' => ['\\', '"']
  | '\n' => ['\\', 'n']
  | '\r' => ['\\', 'r']
  | '\t' => ['\\', 't']
  | c => [c]

/-- The string literal of a text. -/
def stringLiteral (text : String) : String :=
  "\"" ++ String.ofList (text.toList.flatMap stringChar) ++ "\""

/-- One character of a character literal. -/
def charChar : Char → List Char
  | '\\' => ['\\', '\\']
  | '\'' => ['\\', '\'']
  | c => [c]

/-- The character literal of a text. -/
def charLiteral (text : String) : String :=
  "'" ++ String.ofList (text.toList.flatMap charChar) ++ "'"

/-- The literal of a text: a value of an enumeration, a character, or else a string. -/
def textLiteral (type : SchemaType) (text : String) : String :=
  match type.kind with
  | .plain .enumeration => type.name.text ++ "." ++ text
  | .plain .char => charLiteral text
  | _ => stringLiteral text

/-! ## Numbers -/

/-- A value of an enumeration by its number; a negative one needs parentheses. -/
def enumerationLiteral (name : Json) (n : Int) : String :=
  "(" ++ name.text ++ ")" ++
    (if n < 0 then "(" ++ Json.intText n ++ ")" else Json.intText n)

/-- The literal of a double-precision number for a keyword, with the given ending.
Numbers without a decimal form are constants of the type. -/
def floatLiteral (keyword ending : String) (x : Binary64) : String :=
  if x.isNaN then keyword ++ ".NaN"
  else if x.isInfinite then
    keyword ++ (if x.negative then ".NegativeInfinity" else ".PositiveInfinity")
  else String.ofList x.text ++ ending

/-- The double-precision number nearest to an integer, which must not be infinite. -/
def toFloat (n : Int) : Fallible Binary64 :=
  match Binary64.ofInt? n with
  | some x => .ok x
  | none => malformed .tooLarge

/-- The literal of an integer. -/
def integerLiteral (type : SchemaType) (n : Int) : Fallible String :=
  match type.kind with
  | .plain .integer => .ok (Json.intText n)
  | .plain .long => .ok (Json.intText n ++ "L")
  | .plain .enumeration => .ok (enumerationLiteral type.name n)
  | .plain .float => do
      let x ← toFloat n
      return floatLiteral "float" "f" x
  | .plain .double => do
      let x ← toFloat n
      return floatLiteral "double" "" x
  | kind => failWith (.defaultNotNumeric (.int n) kind)

/-- The literal of a double-precision number; where an integer is wanted, it has to be
whole. -/
def numberLiteral (type : SchemaType) (x : Binary64) : Fallible String :=
  match type.kind with
  | .plain .float => .ok (floatLiteral "float" "f" x)
  | .plain .double => .ok (floatLiteral "double" "" x)
  | .plain .integer =>
      if x.isWhole then integerLiteral type x.truncate
      else failWith (.defaultNotWhole (.float x) type.kind)
  | .plain .long =>
      if x.isWhole then integerLiteral type x.truncate
      else failWith (.defaultNotWhole (.float x) type.kind)
  | .plain .enumeration =>
      if x.isWhole then integerLiteral type x.truncate
      else failWith (.defaultNotWhole (.float x) type.kind)
  | kind => failWith (.defaultNotNumeric (.float x) kind)

/-! ## Values -/

/-- The elements of an array between braces. -/
def bracedElements (elements : List String) : String :=
  "\x7b " ++ ", ".intercalate elements ++ " \x7d"

/-- The literal of an array.  Without elements it gives the length instead. -/
def arrayLiteral (typeName : Json) (elements : List String) : String :=
  match elements with
  | [] => "new " ++ typeName.text ++ "[0]"
  | _ => "new " ++ typeName.text ++ "[] " ++ bracedElements elements

mutual

/-- The literal of a value for a type; null has none. -/
def literal? : Json → SchemaType → Fallible (Option String)
  | .null, _ => .ok none
  | .bool b, _ => .ok (some (if b then "true" else "false"))
  | .str text, type => .ok (some (textLiteral type text))
  | .int n, type => do
      let text ← integerLiteral type n
      return some text
  | .float x, type => do
      let text ← numberLiteral type x
      return some text
  | .obj fields, _ => .ok (some (Json.obj fields).shown)
  | .arr elements, type => match type.item? with
    | none => failWith (.defaultNotSequence (.arr elements) type.kind)
    | some item => do
        let typeName ← item.spelled
        let literals ← literals elements item
        return some (arrayLiteral typeName literals)

/-- The literals of the elements of a list. -/
def literals : List Json → SchemaType → Fallible (List String)
  | [], _ => .ok []
  | x :: rest, item => do
      let first ← literal? x item
      let others ← literals rest item
      return first.getD "null" :: others

end

/-- The literal of a value for a type that may be missing.  Null and the two truth
values have literals that need no type. -/
def defaultLiteral? (value : Json) : Option SchemaType → Fallible (Option String)
  | some type => literal? value type
  | none => match value with
    | .null => .ok none
    | .bool b => .ok (some (if b then "true" else "false"))
    | _ => malformed .noType

end CatalogClasses
