/-
# Faults

What can go wrong, by cause.  A failure is a cause that the makers of a catalog can
mend; it says at which component and argument it arose.  A malformed value is one of
the wrong sort altogether, so that an operation on it has no meaning; it has no
message of its own.
-/
import CatalogClasses.Json.Text
import CatalogClasses.Schema.Type

namespace CatalogClasses

/-! ## Causes -/

/-- The families of failures. -/
inductive Category where
  /-- Some step of generation cannot be completed. -/
  | generation
  /-- An argument fits no shape. -/
  | classification
  /-- A type is unknown, or a default is no value of its type. -/
  | unmapped
deriving DecidableEq, Repr

/-- The causes of failures. -/
inductive Cause where
  | componentWithoutName (entry : Json)
  | argumentWithoutName (entry : Json)
  | groupIsCollection
  | memberWithoutType
  | collectionWithoutItemType
  | nameIsCapitalized
  | groupWithoutType
  | unknownType (text : String)
  | unknownKind (word : Json)
  | declarationWithoutName (kind : PlainKind)
  | declarationWithoutItem
  | unsupportedDeclaration (entry : Json)
  | typeWithoutName (kind : PlainKind)
  | typeWithoutItem
  | defaultNotWhole (value : Json) (kind : Kind)
  | defaultNotNumeric (value : Json) (kind : Kind)
  | defaultNotSequence (value : Json) (kind : Kind)
  | noFactory (word : Json)
  /-- A cause in somebody's own words. -/
  | stated (category : Category) (reason : String)
deriving Repr

/-- The family that a cause belongs to. -/
def Cause.category : Cause → Category
  | componentWithoutName _ | argumentWithoutName _ => .classification
  | groupIsCollection | memberWithoutType | collectionWithoutItemType => .classification
  | nameIsCapitalized => .classification
  | noFactory _ => .generation
  | stated category _ => category
  | _ => .unmapped

/-- The wording of a cause. -/
def Cause.reason : Cause → String
  | componentWithoutName entry => "Component entry without a name: " ++ entry.shown
  | argumentWithoutName entry => "Argument entry without a name: " ++ entry.shown
  | groupIsCollection => "Subcomponent arguments cannot be collections"
  | memberWithoutType => "Scalar argument has no type"
  | collectionWithoutItemType => "Collection argument has no resolvable item type"
  | nameIsCapitalized =>
      "Long name must start with a lowercase letter to get a distinct property name"
  | groupWithoutType => "Subcomponent requires an object type name"
  | unknownType text => "Unknown type '" ++ text ++ "'"
  | unknownKind word => "Unknown type kind '" ++ word.text ++ "'"
  | declarationWithoutName kind => "Type kind '" ++ kind.word ++ "' requires a name"
  | declarationWithoutItem => "Sequence type requires an item type"
  | unsupportedDeclaration entry => "Unsupported type declaration " ++ entry.shown
  | typeWithoutName kind => "Type kind '" ++ kind.word ++ "' has no name"
  | typeWithoutItem => "Sequence type has no item type"
  | defaultNotWhole value kind =>
      "Default " ++ value.shown ++ " is not a whole number for type '" ++ kind.word ++ "'"
  | defaultNotNumeric value kind =>
      "Numeric default " ++ value.shown ++ " for non-numeric type '" ++ kind.word ++ "'"
  | defaultNotSequence value kind =>
      "List default " ++ value.shown ++ " for non-sequence type '" ++ kind.word ++ "'"
  | noFactory word =>
      "No generator for component kind '" ++ word.text ++ "' (known: trainer, transform)"
  | stated _ reason => reason

/-! ## Failures -/

/-- A cause and the place where it arose.  Each part of the place is null as long as it
is unknown. -/
structure Failure where
  cause : Cause
  component : Json
  argument : Json
deriving Repr

namespace Failure

/-- A failure at an unknown place. -/
def of (cause : Cause) : Failure := ⟨cause, .null, .null⟩

/-- A failure at an argument of an unknown component. -/
def atArgument (argument : Json) (cause : Cause) : Failure := ⟨cause, .null, argument⟩

/-- A part of a place: what is known of it stays, what is unknown is filled in. -/
def fill : Json → Json → Json
  | .null, part => part
  | known, _ => known

/-- The failure with the unknown parts of its place filled in. -/
def located (component argument : Json) (failure : Failure) : Failure :=
  { failure with
    component := fill failure.component component
    argument := fill failure.argument argument }

/-- The parts of a place that a message names; a part with an empty name is left out. -/
def placeText (component argument : Json) : List String :=
  (if component.isTruthy then ["component '" ++ component.text ++ "'"] else []) ++
    (if argument.isTruthy then ["argument '" ++ argument.text ++ "'"] else [])

/-- The wording of a failure: its place, if any of it is known, and its cause. -/
def message (failure : Failure) : String :=
  match placeText failure.component failure.argument with
  | [] => failure.cause.reason
  | parts => ", ".intercalate parts ++ ": " ++ failure.cause.reason

/-- A known part of a place is not filled in again. -/
theorem fill_fill (known first second : Json) :
    fill (fill known first) second = fill known (fill first second) := by
  cases known <;> rfl

/-- A failure that is located twice keeps what it was told first. -/
theorem located_located (failure : Failure) (c₁ a₁ c₂ a₂ : Json) :
    (failure.located c₁ a₁).located c₂ a₂ = failure.located (fill c₁ c₂) (fill a₁ a₂) := by
  simp only [located, fill_fill]

end Failure

/-! ## Malformed values -/

/-- The ways in which a value can be of the wrong sort for what is done with it. -/
inductive Malformed where
  /-- A field is read from a value that is no object, or one that is not there is read, or
  one that is not to be set is set. -/
  | notAnObject
  /-- A text is expected. -/
  | notText
  /-- A type is expected and there is none. -/
  | noType
  /-- A type without a null value is asked for, and there is no type. -/
  | noTypeToRequire
  /-- The parts of a value that has none are gone through. -/
  | noParts
  /-- Something is looked for in a value that holds nothing, or cannot hold it, or is put
  where nothing of its sort can be. -/
  | noMembership
  /-- A list or an object is looked up in a table. -/
  | notAKey
  /-- The first letter of a value that has no parts is asked for. -/
  | noFirstLetter
  /-- The first letter of an object is asked for. -/
  | noLetterField
  /-- A text is joined with a value that is no text. -/
  | notJoinable
  /-- An operation is called whose place a setting has taken. -/
  | notCallable
  /-- An integer is too large for a double-precision number. -/
  | tooLarge
  /-- Something is removed from a value that is no list. -/
  | notAList
  /-- Something is removed that is not there. -/
  | notListed
  /-- A position is outside its list. -/
  | noSuchPosition
  /-- A generator is asked for something before there is one. -/
  | noGenerator
  /-- A text that should be JSON is not. -/
  | notJson
deriving DecidableEq, Repr

/-! ## Faults -/

/-- Anything that can go wrong. -/
inductive Fault where
  | failure (failure : Failure)
  | malformed (malformed : Malformed)
deriving Repr

/-- The fault with the unknown parts of its place filled in; a malformed value has no
place. -/
def Fault.located (component argument : Json) : Fault → Fault
  | failure f => failure (f.located component argument)
  | malformed m => malformed m

/-- A result that may be a fault. -/
abbrev Fallible (α : Type) : Type := Except Fault α

/-- The result that is a failure at an unknown place. -/
def failWith {α : Type} (cause : Cause) : Fallible α := .error (.failure (.of cause))

/-- The result that is a failure at an argument. -/
def failAt {α : Type} (argument : Json) (cause : Cause) : Fallible α :=
  .error (.failure (.atArgument argument cause))

/-- The result that is a malformed value. -/
def malformed {α : Type} (m : Malformed) : Fallible α := .error (.malformed m)

@[simp] theorem ok_bind {α β : Type} (value : α) (next : α → Fallible β) :
    ((Except.ok value : Fallible α) >>= next) = next value := rfl

@[simp] theorem error_bind {α β : Type} (fault : Fault) (next : α → Fallible β) :
    ((Except.error fault : Fallible α) >>= next) = .error fault := rfl

/-- Two computations one after another succeed when both do. -/
theorem bind_eq_ok_iff {α β : Type} {first : Fallible α} {next : α → Fallible β} {result : β} :
    first >>= next = .ok result ↔ ∃ value, first = .ok value ∧ next value = .ok result := by
  cases first with
  | ok value => simp
  | error fault => simp

/-- A result that is no fault has a value. -/
theorem exists_of_isOk {α : Type} {result : Fallible α} (h : result.isOk = true) :
    ∃ value, result = .ok value := by
  cases result with
  | ok value => exact ⟨value, rfl⟩
  | error fault => cases h

/-- The result with the unknown parts of the place of a failure filled in. -/
def locate {α : Type} (component argument : Json) : Fallible α → Fallible α
  | .ok value => .ok value
  | .error fault => .error (fault.located component argument)

/-- Locating makes no difference to a value. -/
theorem locate_eq_ok_iff {α : Type} {component argument : Json} {result : Fallible α}
    {value : α} : locate component argument result = .ok value ↔ result = .ok value := by
  cases result with
  | ok v => rfl
  | error fault => simp [locate]

end CatalogClasses
