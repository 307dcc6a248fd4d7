/-
# Reading a catalog

A catalog is a list of component entries, alone or under the key `components`.  Each
entry is read in order, and the first one that cannot be read is the failure of the
whole catalog.  Excluded arguments are passed over before anything else of their
entries is looked at.
-/
import CatalogClasses.Catalog.TypeEntry
import CatalogClasses.Json.Reader
import CatalogClasses.Schema.Argument

namespace CatalogClasses

/-! ## Fields of entries -/

/-- The value of a field, or null. -/
def Json.fieldOrNull (key : String) (fields : List (String × Json)) : Json :=
  (Json.lookup key fields).getD .null

/-- A value that stands in the place of a list of entries holds none of them, and is
passed over if it is empty. -/
def noEntries {α : Type} : Json → Fallible (List α)
  | .str text => if text = "" then .ok [] else malformed .notAnObject
  | .obj fields => if fields.isEmpty then .ok [] else malformed .notAnObject
  | _ => malformed .noParts

/-! ## Arguments -/

/-- A test for names to pass over. -/
abbrev Exclusion := Option (Json → Fallible Bool)

/-- The type of one element: that of the value itself if it is no collection, else the
one declared for elements, else the item type of a sequence. -/
def elementType (name : Json) (fields : List (String × Json)) (isCollection : Bool)
    (fieldType : Option SchemaType) : Fallible (Option SchemaType) :=
  if isCollection then
    match Json.lookup "item_type" fields with
    | some entry => do
        let type ← SchemaType.ofJson name entry
        return some type
    | none => match fieldType with
      | some type => return if type.isSequence then type.item? else some type
      | none => return none
  else return fieldType

/-- The declared type.  A group has to declare one. -/
def declaredType (name : Json) (fields : List (String × Json)) (isGroup : Bool) :
    Fallible (Option SchemaType) :=
  match Json.lookup "type" fields with
  | some entry => do
      let type ← SchemaType.ofJson name entry
      return some type
  | none => if isGroup then failAt name .groupWithoutType else return none

/-- What an entry says about the argument itself.  Without a word on it, an argument is
a collection when its type is a sequence. -/
def Declaration.ofFields (name : Json) (fields : List (String × Json)) (isGroup : Bool) :
    Fallible Declaration := do
  let fieldType ← declaredType name fields isGroup
  let isCollection := match Json.fieldOrNull "collection" fields with
    | .null => fieldType.any (·.isSequence)
    | word => word.isTruthy
  let itemType ← elementType name fields isCollection fieldType
  return {
    longName := name
    itemType := itemType
    fieldType := fieldType
    isCollection := isCollection
    isHidden := (Json.fieldOrNull "hidden" fields).isTruthy
    default? := Json.lookup "default" fields
    help := Json.fieldOrNull "help" fields }

/-- The entry is to be passed over: it has a name, and the test holds of it. -/
def isPassedOver (exclusion : Exclusion) (fields : List (String × Json)) : Fallible Bool :=
  match exclusion with
  | none => .ok false
  | some test =>
      let name := Json.fieldOrNull "name" fields
      if name.isTruthy then test name else .ok false

mutual

/-- The argument of one entry.  The arguments of a group are read before its type. -/
def Argument.ofJson (exclusion : Exclusion) : Json → Fallible Argument
  | .obj fields =>
      let name := Json.fieldOrNull "name" fields
      if name.isTruthy then
        match _h : Json.lookup "arguments" fields with
        | none => do
            let declaration ← Declaration.ofFields name fields false
            return .member declaration
        | some (.arr entries) => do
            let arguments ← Argument.ofEntries exclusion entries
            let declaration ← Declaration.ofFields name fields true
            return .group declaration arguments
        | some other => do
            let arguments ← noEntries other
            let declaration ← Declaration.ofFields name fields true
            return .group declaration arguments
      else failWith (.argumentWithoutName (.obj fields))
  | _ => malformed .notAnObject
  termination_by entry => sizeOf entry
  decreasing_by
    have := Json.sizeOf_lookup_lt _h
    simp only [Json.arr.sizeOf_spec, Json.obj.sizeOf_spec] at this ⊢
    omega

/-- The arguments of a list of entries, without those to pass over. -/
def Argument.ofEntries (exclusion : Exclusion) : List Json → Fallible (List Argument)
  | [] => .ok []
  | .obj fields :: rest => do
      let passedOver ← isPassedOver exclusion fields
      if passedOver then Argument.ofEntries exclusion rest
      else do
        let argument ← Argument.ofJson exclusion (.obj fields)
        let arguments ← Argument.ofEntries exclusion rest
        return argument :: arguments
  | _ :: _ => malformed .notAnObject
  termination_by entries => sizeOf entries
  decreasing_by
    all_goals
      simp only [List.cons.sizeOf_spec]
      omega

end

/-- The arguments that the value in the place of a list of entries gives. -/
def Argument.ofList (exclusion : Exclusion) : Json → Fallible (List Argument)
  | .arr entries => Argument.ofEntries exclusion entries
  | other => noEntries other

/-- A value that is no list gives no arguments, and no test has a part in that. -/
theorem Argument.ofList_of_ne {value : Json} (h : ∀ entries, value ≠ .arr entries)
    (exclusion : Exclusion) : Argument.ofList exclusion value = noEntries value := by
  unfold ofList
  split
  · next entries => exact absurd rfl (h entries)
  · rfl

/-- How one entry is read, with the entries nested in it read as a list. -/
theorem Argument.ofJson_obj (exclusion : Exclusion) (fields : List (String × Json)) :
    Argument.ofJson exclusion (.obj fields) =
      if (Json.fieldOrNull "name" fields).isTruthy then
        match Json.lookup "arguments" fields with
        | none => do
            let declaration ←
              Declaration.ofFields (Json.fieldOrNull "name" fields) fields false
            return .member declaration
        | some entries => do
            let arguments ← Argument.ofList exclusion entries
            let declaration ←
              Declaration.ofFields (Json.fieldOrNull "name" fields) fields true
            return .group declaration arguments
      else failWith (.argumentWithoutName (.obj fields)) := by
  rw [Argument.ofJson]
  split
  · split
    · next h => rw [h]
    · next entries h => rw [h]; rfl
    · next other hother h =>
      rw [h]
      show _ = Argument.ofList exclusion other >>= _
      rw [ofList_of_ne fun entries heq => hother entries heq]
  · rfl

/-- How a list of entries is read. -/
theorem Argument.ofEntries_obj (exclusion : Exclusion) (fields : List (String × Json))
    (rest : List Json) :
    Argument.ofEntries exclusion (.obj fields :: rest) = do
      let passedOver ← isPassedOver exclusion fields
      if passedOver then Argument.ofEntries exclusion rest
      else do
        let argument ← Argument.ofJson exclusion (.obj fields)
        let arguments ← Argument.ofEntries exclusion rest
        return argument :: arguments := by
  rw [Argument.ofEntries]

/-- A list whose first entry is no object cannot be read. -/
theorem Argument.ofEntries_of_ne {entry : Json} (h : ∀ fields, entry ≠ .obj fields)
    (exclusion : Exclusion) (rest : List Json) :
    Argument.ofEntries exclusion (entry :: rest) = malformed .notAnObject := by
  rw [Argument.ofEntries]
  exact h

/-- Induction on a list of entries: those nested in its first entry are a list before it. -/
@[elab_as_elim] theorem Json.entries_induction {motive : List Json → Prop}
    (nil : motive [])
    (obj : ∀ fields rest,
      (∀ entries, Json.lookup "arguments" fields = some (.arr entries) → motive entries) →
      motive rest → motive (.obj fields :: rest))
    (other : ∀ entry rest, (∀ fields, entry ≠ .obj fields) → motive (entry :: rest)) :
    ∀ entries, motive entries
  | [] => nil
  | .obj fields :: rest =>
      obj fields rest
        (fun entries _ => Json.entries_induction nil obj other entries)
        (Json.entries_induction nil obj other rest)
  | .null :: rest => other .null rest nofun
  | .bool b :: rest => other (.bool b) rest nofun
  | .int n :: rest => other (.int n) rest nofun
  | .float x :: rest => other (.float x) rest nofun
  | .str s :: rest => other (.str s) rest nofun
  | .arr xs :: rest => other (.arr xs) rest nofun
  termination_by entries => sizeOf entries
  decreasing_by
    · have := Json.sizeOf_lookup_lt ‹_›
      simp at this ⊢
      omega
    · simp only [List.cons.sizeOf_spec, Json.obj.sizeOf_spec]
      omega

/-! ## Components -/

/-- What an entry says about a component with these arguments. -/
def Component.ofFields (name : Json) (fields : List (String × Json))
    (arguments : List Argument) : Component where
  name := name
  kind := (Json.lookup "kind" fields).getD (.str "transform")
  argumentsType := (Json.lookup "arguments_type" fields).getD (.str "Arguments")
  implementationType := (Json.lookup "implementation_type" fields).getD name
  arguments := arguments
  summary := Json.fieldOrNull "summary" fields

/-- The component of one entry. -/
def Component.ofJson (exclusion : Exclusion) : Json → Fallible Component
  | .obj fields =>
      let name := Json.fieldOrNull "name" fields
      if name.isTruthy then do
        let entries := (Json.lookup "arguments" fields).getD (.arr [])
        let arguments ← locate name .null (Argument.ofList exclusion entries)
        return Component.ofFields name fields arguments
      else failWith (.componentWithoutName (.obj fields))
  | _ => malformed .notAnObject

/-- How a component is read, with its entries read as a list. -/
theorem Component.ofJson_obj (exclusion : Exclusion) (fields : List (String × Json)) :
    Component.ofJson exclusion (.obj fields) =
      if (Json.fieldOrNull "name" fields).isTruthy then do
        let arguments ← locate (Json.fieldOrNull "name" fields) .null
          (Argument.ofList exclusion ((Json.lookup "arguments" fields).getD (.arr [])))
        return Component.ofFields (Json.fieldOrNull "name" fields) fields arguments
      else failWith (.componentWithoutName (.obj fields)) := rfl

/-- The components of a list of entries. -/
def Component.ofEntries (exclusion : Exclusion) : List Json → Fallible (List Component)
  | [] => .ok []
  | entry :: rest => do
      let component ← Component.ofJson exclusion entry
      let components ← Component.ofEntries exclusion rest
      return component :: components

/-- The value that holds the component entries of a catalog. -/
def catalogEntries : Json → Json
  | .obj fields => (Json.lookup "components" fields).getD (.arr [])
  | catalog => catalog

/-- The components of a catalog. -/
def readCatalog (exclusion : Exclusion) (catalog : Json) : Fallible (List Component) :=
  match catalogEntries catalog with
  | .arr entries => Component.ofEntries exclusion entries
  | other => noEntries other

/-- The components of a catalog that is given by its text. -/
def loadCatalog (exclusion : Exclusion) (text : String) : Fallible (List Component) :=
  match Json.ofText? text with
  | some catalog => readCatalog exclusion catalog
  | none => malformed .notJson

end CatalogClasses
