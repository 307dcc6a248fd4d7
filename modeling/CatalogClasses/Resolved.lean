/-
# Resolved arguments

An argument together with all that is needed to generate it: its shape, the name and
type of the generated member, and its initial value.
-/
import CatalogClasses.CSharp.Literal
import CatalogClasses.Log.Note

namespace CatalogClasses

/-! ## Initial values -/

/-- The initial value of a generated member. -/
inductive Initializer where
  | absent
  | literal (text : String)
  /-- A default of this many values, which do not fit a single member. -/
  | dropped (count : Nat)
deriving DecidableEq, Repr

namespace Initializer

/-- The initializer with this literal, if there is one. -/
def ofLiteral? : Option String → Initializer
  | some text => literal text
  | none => absent

/-- The literal of an initializer. -/
def literal? : Initializer → Option String
  | literal text => some text
  | _ => none

/-- What there is to note about an initializer for an argument. -/
def notes (name : Json) : Initializer → List Note
  | dropped count => [.droppedDefault name count]
  | _ => []

end Initializer

/-- A list as it is; anything else as the list of itself alone. -/
def asElements : Json → List Json
  | .arr elements => elements
  | value => [value]

/-- The initializer with the literal of a value for a type. -/
def initializerOf (value : Json) (type : Option SchemaType) : Fallible Initializer := do
  let text ← defaultLiteral? value type
  return .ofLiteral? text

/-- The initializer of a single member that stands for a collection: it takes the only
value of a list, and drops a list of any other length. -/
def liftedInitializer (type : Option SchemaType) : Json → Fallible Initializer
  | .arr [value] => initializerOf value type
  | .arr elements => .ok (.dropped elements.length)
  | value => initializerOf value type

/-- The initializer of what is generated for an argument, from its default.  A group
has none. -/
def Declaration.initializer (options : Options) (declaration : Declaration) (shape : Shape) :
    Fallible Initializer :=
  match declaration.default? with
  | none => .ok .absent
  | some .null => .ok .absent
  | some value => match shape with
    | .group => .ok .absent
    | .scalar => initializerOf value declaration.itemType
    | .stringCollection => initializerOf (.arr (asElements value)) declaration.fieldType
    | .columnCollection =>
        initializerOf (.arr ((asElements value).map fun v => .str v.text))
          (some SchemaType.strings)
    | .genericCollection =>
        if options.lift.isTruthy then liftedInitializer declaration.itemType value
        else initializerOf (.arr (asElements value))
          (some (SchemaType.sequenceOf declaration.itemType))

/-! ## Resolution -/

/-- An argument with all that is needed to generate it. -/
structure Resolved where
  declaration : Declaration
  shape : Shape
  /-- The name of the argument itself. -/
  longName : String
  /-- The name of the type of the generated member. -/
  typeName : Json
  /-- The name of the generated member. -/
  name : String
  initializer : Initializer
  isBoolean : Bool
  /-- The suffix of the object that the arguments of a group are assigned into; for a
  member, that of the object it is assigned into itself. -/
  suffix : String
deriving Repr

/-- The suffix inside a group. -/
def nestedSuffix (suffix : String) (name : Json) : String := suffix ++ "_" ++ name.text

/-- The name of an argument as a text, which it has to be for a suffix to be added. -/
def memberName : Json → Fallible String
  | .str name => .ok name
  | _ => malformed .notJoinable

/-- The argument has a truth value. -/
def Declaration.isBoolean (declaration : Declaration) : Bool :=
  declaration.itemType.any (·.kind = .plain .boolean)

/-- The argument resolved, with the suffix of the groups around it. -/
def Argument.resolve (options : Options) (suffix : String) (argument : Argument) :
    Fallible Resolved := do
  let declaration := argument.declaration
  let shape ← argument.classify
  let typeName ← declaration.typeName options shape
  let longName ← memberName declaration.longName
  let initializer ← declaration.initializer options shape
  return {
    declaration := declaration
    shape := shape
    longName := longName
    typeName := typeName
    name := longName ++ suffix
    initializer := initializer
    isBoolean := declaration.isBoolean
    suffix := if shape = .group then nestedSuffix suffix declaration.longName else suffix }

/-- Only a text can be the name of an argument that is resolved. -/
theorem memberName_eq_ok_iff {name : Json} {text : String} :
    memberName name = .ok text ↔ name = .str text := by
  cases name with
  | str s => simp [memberName]
  | null | bool | int | float | arr | obj => simp [memberName, malformed]

/-- An argument is resolved when its shape, the type of what is generated for it, its name
and its initial value can all be found. -/
theorem Argument.resolve_eq_ok_iff {options : Options} {suffix : String} {argument : Argument}
    {resolved : Resolved} :
    argument.resolve options suffix = .ok resolved ↔
      ∃ shape typeName longName initializer,
        argument.classify = .ok shape ∧
        argument.declaration.typeName options shape = .ok typeName ∧
        argument.longName = .str longName ∧
        argument.declaration.initializer options shape = .ok initializer ∧
        resolved =
          { declaration := argument.declaration
            shape := shape
            longName := longName
            typeName := typeName
            name := longName ++ suffix
            initializer := initializer
            isBoolean := argument.declaration.isBoolean
            suffix :=
              if shape = .group then nestedSuffix suffix argument.longName else suffix } := by
  unfold resolve
  constructor
  · intro h
    obtain ⟨shape, hshape, h⟩ := bind_eq_ok_iff.1 h
    obtain ⟨typeName, htype, h⟩ := bind_eq_ok_iff.1 h
    obtain ⟨longName, hname, h⟩ := bind_eq_ok_iff.1 h
    obtain ⟨initializer, hinit, h⟩ := bind_eq_ok_iff.1 h
    exact ⟨shape, typeName, longName, initializer, hshape, htype,
      memberName_eq_ok_iff.1 hname, hinit, (Except.ok.inj h).symm⟩
  · rintro ⟨shape, typeName, longName, initializer, hshape, htype, hname, hinit, rfl⟩
    have hmember : memberName argument.declaration.longName = .ok longName :=
      memberName_eq_ok_iff.2 hname
    simp only [hshape, htype, hmember, hinit, ok_bind]
    rfl

end CatalogClasses
