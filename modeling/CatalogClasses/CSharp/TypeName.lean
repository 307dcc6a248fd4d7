/-
# Names of types in C#

Every schema type has a name in C#: a keyword for the primitive kinds, its own name
for an enumeration, an object or a column type, and brackets after the name of the
item type for a sequence.  A question mark marks a type that admits null.
-/
import CatalogClasses.Options
import CatalogClasses.Shape

namespace CatalogClasses

/-- The keyword of a primitive kind. -/
def PlainKind.keyword? : PlainKind → Option String
  | .boolean => some "bool"
  | .integer => some "int"
  | .long => some "long"
  | .float => some "float"
  | .double => some "double"
  | .string => some "string"
  | .char => some "char"
  | .enumeration | .object | .column => none

/-! ## The name of a type -/

/-- The name with a question mark at its end, unless it has one. -/
def markNullable (name : String) : String :=
  if (Text.dropEnding? ['?'] name.toList).isSome then name else name ++ "?"

/-- The name with a question mark if the type is nullable.  Only a text can be marked;
a name of another sort stays as it is if it needs no mark. -/
def withNullable : Bool → Json → Fallible Json
  | false, name => .ok name
  | true, .str name => .ok (.str (markNullable name))
  | true, _ => malformed .notText

/-- The name of a type in C#.  It is a text, unless the catalog has named the type by
another value, which then stands for itself. -/
def SchemaType.spelled : SchemaType → Fallible Json
  | .plain kind name nullable => match kind.keyword? with
    | some keyword => withNullable nullable (.str keyword)
    | none =>
        if name.isTruthy then withNullable nullable name
        else failWith (.typeWithoutName kind)
  | .sequence item _ nullable => do
      let name ← item.spelled
      withNullable nullable (.str (name.text ++ "[]"))
  | .bareSequence _ _ => failWith .typeWithoutItem

/-- The name of a type that may be missing. -/
def spelledType : Option SchemaType → Fallible Json
  | some type => type.spelled
  | none => malformed .noType

/-! ## The type of a generated member -/

/-- The name of the type that reads one column. -/
def Declaration.columnType (declaration : Declaration) : Fallible Json :=
  match declaration.itemType with
  | some type => type.required.spelled
  | none => malformed .noTypeToRequire

/-- The name of the type of what is generated for an argument.  Columns are texts
there; the type that reads them is looked up all the same. -/
def Declaration.typeName (options : Options) (declaration : Declaration) :
    Shape → Fallible Json
  | .scalar => spelledType declaration.itemType
  | .columnCollection => do
      let _ ← declaration.columnType
      SchemaType.strings.spelled
  | .stringCollection => spelledType declaration.fieldType
  | .genericCollection =>
      if options.lift.isTruthy then spelledType declaration.itemType
      else (SchemaType.sequenceOf declaration.itemType).spelled
  | .group => spelledType declaration.fieldType

/-- Where columns are generated as texts, the type that reads them can be named. -/
theorem Declaration.columnType_of_typeName {options : Options} {declaration : Declaration}
    {typeName : Json} (h : declaration.typeName options .columnCollection = .ok typeName) :
    ∃ name, declaration.columnType = .ok name := by
  obtain ⟨name, hname, -⟩ := bind_eq_ok_iff.1 h
  exact ⟨name, hname⟩

end CatalogClasses
