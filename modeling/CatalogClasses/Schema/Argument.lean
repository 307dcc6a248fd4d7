/-
# Arguments and components

A component has an ordered list of arguments.  An argument is either a member, which
has a value of its own, or a group, which holds further arguments.
-/
import CatalogClasses.Schema.Type

namespace CatalogClasses

/-- What a catalog says about one argument.  Texts are kept as written. -/
structure Declaration where
  /-- The name of the argument. -/
  longName : Json
  /-- The type of one element of a collection; otherwise the type of the value. -/
  itemType : Option SchemaType
  /-- The type as it was declared. -/
  fieldType : Option SchemaType
  isCollection : Bool
  isHidden : Bool
  /-- The default, if there is one; it may be an explicit null. -/
  default? : Option Json
  /-- The help text, or null. -/
  help : Json
deriving Repr, Inhabited

/-- An argument of a component. -/
inductive Argument where
  | member (declaration : Declaration)
  | group (declaration : Declaration) (arguments : List Argument)
deriving Repr, Inhabited

/-- What the catalog says about an argument itself. -/
def Argument.declaration : Argument → Declaration
  | member declaration => declaration
  | group declaration _ => declaration

/-- The name of an argument. -/
def Argument.longName (argument : Argument) : Json := argument.declaration.longName

/-- The arguments of a group. -/
def Argument.nested? : Argument → Option (List Argument)
  | member _ => none
  | group _ arguments => some arguments

/-- Induction on a list of arguments: its first argument may be a group, and then the
arguments inside that group are a list before it. -/
@[elab_as_elim] theorem Argument.list_induction {motive : List Argument → Prop}
    (nil : motive [])
    (member : ∀ declaration rest, motive rest → motive (.member declaration :: rest))
    (group : ∀ declaration inner rest, motive inner → motive rest →
      motive (.group declaration inner :: rest))
    (arguments : List Argument) : motive arguments :=
  @Argument.rec_1 (fun argument => ∀ rest, motive rest → motive (argument :: rest)) motive
    member (fun declaration inner hinner rest => group declaration inner rest hinner)
    nil (fun _ rest hfirst hrest => hfirst rest hrest) arguments

/-- A component of a catalog.  Texts are kept as written. -/
structure Component where
  name : Json
  /-- The word for the kind of component, which decides how it is created. -/
  kind : Json
  /-- The class of the object that the arguments are assigned into. -/
  argumentsType : Json
  /-- The class of the object that is created. -/
  implementationType : Json
  arguments : List Argument
  /-- A summary of the component, or null. -/
  summary : Json
deriving Repr

end CatalogClasses
