/-
# The content of a class

A class holds the fields and properties of its component, and one factory method: it
makes the object of arguments, fills it from the members, and creates the component
from it.  Each kind of component has its own factory method.
-/
import CatalogClasses.Emission

namespace CatalogClasses

/-! ## Kinds of components -/

/-- A way of creating a component. -/
inductive Factory where
  | transform
  | trainer
deriving DecidableEq, Repr

namespace Factory

/-- The factory for a kind of component.  A list or an object is no word at all. -/
def ofWord : Json → Fallible Factory
  | .str "transform" => .ok transform
  | .str "trainer" => .ok trainer
  | .arr _ => malformed .notAKey
  | .obj _ => malformed .notAKey
  | word => failWith (.noFactory word)

/-- The first line of the factory method. -/
def signature : Factory → String
  | transform => "public IDataTransform Create(IHostEnvironment env, IDataView input)"
  | trainer => "public ITrainer CreateTrainer(IHostEnvironment env)"

/-- The arguments of the constructor of the component. -/
def constructorArguments : Factory → String
  | transform => "(env, args, input)"
  | trainer => "(env, args)"

/-- The statement that makes the object of arguments. -/
def prologue (component : Component) : String :=
  "var args = new " ++ component.argumentsType.text ++ "();"

/-- The statement that creates the component. -/
def epilogue (factory : Factory) (component : Component) : String :=
  "return new " ++ component.implementationType.text ++ factory.constructorArguments ++ ";"

/-! ## The content -/

/-- The lines of the factory method. -/
def methodLines (factory : Factory) (signature : String) (component : Component)
    (assignments : List String) : List String :=
  Layout.lines 0 [signature, "\x7b"] ++
    Layout.lines 1 ([prologue component] ++ assignments ++ [factory.epilogue component]) ++
    Layout.lines 0 ["\x7d"]

/-- The signature that was asked for; an empty one stands for the usual one. -/
def chosenSignature (factory : Factory) : Option String → String
  | none => factory.signature
  | some signature => if signature = "" then factory.signature else signature

/-- The lines inside the class of a component: fields, properties, factory method.  Each of
the three comes from a walk of its own. -/
def contentLines (factory : Factory) (options : Options) (component : Component)
    (signature? : Option String) : Logged (List String) := do
  let fields ← (component.emission options fieldEmitter).toLogged
  let properties ← (component.emission options propertyEmitter).toLogged
  let assignments ←
    (component.emission options (assignmentEmitter options component.name)).toLogged
  return Layout.lines 0 fields ++ Layout.lines 0 properties ++
    factory.methodLines (factory.chosenSignature signature?) component assignments

/-- The content of the class of a component, as one text. -/
def content (factory : Factory) (options : Options) (component : Component)
    (signature? : Option String) : Logged String := do
  let lines ← factory.contentLines options component signature?
  return Layout.join lines

end Factory

/-- The content of the class of a component, by the factory for its kind. -/
def Component.content (component : Component) (options : Options)
    (signature? : Option String) : Logged String := do
  let factory ← .lift (Factory.ofWord component.kind)
  factory.content options component signature?

end CatalogClasses
