/-
# Schema types

The type that a catalog declares for an argument.  A type has a kind; a sequence has
an item type beside it.  Every declaration may carry a name and may be nullable, also
where its kind makes no use of the name.
-/
import CatalogClasses.Json.Basic

namespace CatalogClasses

/-! ## Kinds -/

/-- The kinds of types that are no sequences. -/
inductive PlainKind where
  | boolean
  | integer
  | long
  | float
  | double
  | string
  | char
  | enumeration
  | object
  | column
deriving DecidableEq, Repr

/-- The word for a kind in a catalog. -/
def PlainKind.word : PlainKind → String
  | boolean => "bool"
  | integer => "int"
  | long => "long"
  | float => "float"
  | double => "double"
  | string => "string"
  | char => "char"
  | enumeration => "enum"
  | object => "object"
  | column => "column"

/-- All kinds that are no sequences. -/
def PlainKind.all : List PlainKind :=
  [boolean, integer, long, float, double, string, char, enumeration, object, column]

/-- Every kind is in the list of all kinds. -/
theorem PlainKind.mem_all (kind : PlainKind) : kind ∈ PlainKind.all := by
  cases kind <;> decide

/-- A kind that is known by its name: an enumeration, an object or a column type. -/
def PlainKind.isNamed : PlainKind → Bool
  | enumeration | object | column => true
  | _ => false

/-- The kind of a type. -/
inductive Kind where
  | plain (kind : PlainKind)
  | sequence
deriving DecidableEq, Repr

/-- The word for a kind in a catalog. -/
def Kind.word : Kind → String
  | plain kind => kind.word
  | sequence => "sequence"

/-- The kind with this word. -/
def Kind.ofWord? (word : String) : Option Kind :=
  if word = "sequence" then some sequence
  else (PlainKind.all.find? (·.word = word)).map plain

/-! ## Types -/

/-- A declared type: of a plain kind, a sequence of items, or a sequence whose item
type is missing. -/
inductive SchemaType where
  | plain (kind : PlainKind) (name : Json) (nullable : Bool)
  | sequence (item : SchemaType) (name : Json) (nullable : Bool)
  | bareSequence (name : Json) (nullable : Bool)
deriving Repr

namespace SchemaType

/-- The kind of a type. -/
def kind : SchemaType → Kind
  | plain kind _ _ => .plain kind
  | sequence .. => .sequence
  | bareSequence .. => .sequence

/-- The name that the declaration carries. -/
def name : SchemaType → Json
  | plain _ name _ => name
  | sequence _ name _ => name
  | bareSequence name _ => name

/-- The item type of a sequence. -/
def item? : SchemaType → Option SchemaType
  | sequence item _ _ => some item
  | _ => none

/-- The type admits a null value. -/
def nullable : SchemaType → Bool
  | plain _ _ nullable => nullable
  | sequence _ _ nullable => nullable
  | bareSequence _ nullable => nullable

/-- The type is a sequence. -/
def isSequence : SchemaType → Bool
  | plain .. => false
  | _ => true

/-- The type is a string. -/
def isString : SchemaType → Bool
  | plain .string _ _ => true
  | _ => false

/-- The type is a sequence of strings. -/
def isStringSequence : SchemaType → Bool
  | sequence item _ _ => item.isString
  | _ => false

/-- The same type without a null value. -/
def required : SchemaType → SchemaType
  | plain kind name _ => plain kind name false
  | sequence item name _ => sequence item name false
  | bareSequence name _ => bareSequence name false

/-- The sequence type of a possibly missing item type. -/
def sequenceOf : Option SchemaType → SchemaType
  | some item => sequence item (.str "") false
  | none => bareSequence (.str "") false

/-- The sequence of strings. -/
def strings : SchemaType := sequence (.plain .string (.str "") false) (.str "") false

end SchemaType

end CatalogClasses
