/-
# Shapes of arguments

Every argument has one of five shapes, which decides how it is generated.  The shape
depends on the argument alone, never on its neighbours.
-/
import CatalogClasses.Fault
import CatalogClasses.Schema.Argument
import CatalogClasses.Text.Case

namespace CatalogClasses

/-! ## The shapes -/

/-- The shape of an argument. -/
inductive Shape where
  /-- A single value. -/
  | scalar
  /-- Columns, generated as texts and read back one by one. -/
  | columnCollection
  /-- A sequence of texts, generated as it is. -/
  | stringCollection
  /-- Any other collection. -/
  | genericCollection
  /-- A group of arguments. -/
  | group
deriving DecidableEq, Repr

/-- The word for a shape. -/
def Shape.word : Shape → String
  | scalar => "scalar"
  | columnCollection => "column_collection"
  | stringCollection => "string_collection"
  | genericCollection => "generic_collection"
  | group => "subcomponent_group"

/-! ## Names of properties -/

/-- The name of the property for a name.  Only a text has one, but a value that counts
as false stands for itself. -/
def propertyName (name : Json) : Fallible Json :=
  if name.isTruthy then
    match name with
    | .str text => .ok (.str (String.ofList (Text.capitalize text.toList)))
    | .arr (.str _ :: _) => malformed .notJoinable
    | .arr _ => malformed .notText
    | .obj _ => malformed .noLetterField
    | _ => malformed .noFirstLetter
  else .ok name

/-- The property would have the name of the member itself. -/
def isCapitalized (name : Json) : Fallible Bool := do
  let property ← propertyName name
  return property.same name

/-! ## Classification -/

/-- The shape of a member, by its types. -/
def Declaration.memberShape (declaration : Declaration) : Fallible Shape :=
  match declaration.isCollection, declaration.itemType with
  | false, none => failAt declaration.longName .memberWithoutType
  | false, some _ => .ok .scalar
  | true, none => failAt declaration.longName .collectionWithoutItemType
  | true, some itemType =>
      if itemType.kind = .plain .column then .ok .columnCollection
      else if declaration.fieldType.any (·.isStringSequence) then .ok .stringCollection
      else .ok .genericCollection

/-- The shape of an argument.  The name of a member has to begin with a small letter,
so that its property has another name. -/
def Argument.classify : Argument → Fallible Shape
  | .group declaration _ =>
      if declaration.isCollection then failAt declaration.longName .groupIsCollection
      else .ok .group
  | .member declaration => do
      let shape ← declaration.memberShape
      let capitalized ← isCapitalized declaration.longName
      if capitalized then failAt declaration.longName .nameIsCapitalized
      else return shape

/-- A group has the shape of a group. -/
theorem Argument.classify_group {declaration : Declaration} {arguments : List Argument}
    {shape : Shape} (h : (group declaration arguments).classify = .ok shape) :
    shape = .group := by
  unfold classify at h
  cases hc : declaration.isCollection with
  | false =>
    simp only [hc] at h
    exact (Except.ok.inj h).symm
  | true =>
    simp only [hc] at h
    cases h

/-- A member never has the shape of a group. -/
theorem Declaration.memberShape_ne_group {declaration : Declaration} {shape : Shape}
    (h : declaration.memberShape = .ok shape) : shape ≠ .group := by
  rintro rfl
  unfold memberShape at h
  split at h
  · cases h
  · cases h
  · cases h
  · split at h
    · cases h
    · split at h <;> cases h

/-- The shape of a member is that of its types, and its name is not capitalized. -/
theorem Argument.classify_member {declaration : Declaration} {shape : Shape}
    (h : (member declaration).classify = .ok shape) :
    declaration.memberShape = .ok shape ∧ isCapitalized declaration.longName = .ok false := by
  unfold classify at h
  obtain ⟨shape', hshape, h⟩ := bind_eq_ok_iff.1 h
  obtain ⟨capitalized, hcap, h⟩ := bind_eq_ok_iff.1 h
  cases capitalized with
  | true => cases h
  | false =>
    cases h
    exact ⟨hshape, hcap⟩

end CatalogClasses
