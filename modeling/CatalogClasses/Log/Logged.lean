/-
# Results with notes

The result of a computation together with the notes made on the way.  A fault ends
the computation, but the notes made before it remain.
-/
import CatalogClasses.Fault
import CatalogClasses.Log.Note

namespace CatalogClasses

/-- A result, or a fault, and the notes made before it. -/
structure Logged (α : Type) where
  notes : List Note
  result : Fallible α

namespace Logged

variable {α β : Type}

/-- A fault-free result without notes. -/
def pure (value : α) : Logged α := ⟨[], .ok value⟩

/-- One computation after another; the second runs only if the first has a result. -/
def bind (first : Logged α) (next : α → Logged β) : Logged β :=
  match first.result with
  | .ok value => ⟨first.notes ++ (next value).notes, (next value).result⟩
  | .error fault => ⟨first.notes, .error fault⟩

instance : Monad Logged where
  pure := pure
  bind := bind

/-- A result without notes. -/
def lift (result : Fallible α) : Logged α := ⟨[], result⟩

/-- A single note. -/
def note (n : Note) : Logged Unit := ⟨[n], .ok ()⟩

/-- The result with the unknown parts of the place of a failure filled in. -/
def located (component argument : Json) (logged : Logged α) : Logged α :=
  ⟨logged.notes, locate component argument logged.result⟩

@[simp] theorem bind_of_ok {first : Logged α} {next : α → Logged β} {value : α}
    (h : first.result = .ok value) :
    first.bind next = ⟨first.notes ++ (next value).notes, (next value).result⟩ := by
  simp [bind, h]

@[simp] theorem bind_of_error {first : Logged α} {next : α → Logged β} {fault : Fault}
    (h : first.result = .error fault) : first.bind next = ⟨first.notes, .error fault⟩ := by
  simp [bind, h]

/-! ## Results and notes alone -/

@[simp] theorem result_pure (value : α) : (Pure.pure value : Logged α).result = .ok value := rfl

@[simp] theorem notes_pure (value : α) : (Pure.pure value : Logged α).notes = [] := rfl

/-- The result of one computation after another does not depend on the notes. -/
@[simp] theorem result_bind (first : Logged α) (next : α → Logged β) :
    (first >>= next).result = first.result >>= fun value => (next value).result := by
  show (Logged.bind first next).result = _
  cases h : first.result with
  | ok value => rw [bind_of_ok h, ok_bind]
  | error fault => rw [bind_of_error h, error_bind]

@[simp] theorem result_lift (result : Fallible α) : (lift result).result = result := rfl

@[simp] theorem result_note (n : Note) : (note n).result = .ok () := rfl

/-- If the first of two computations has a result, the notes of both are made. -/
theorem notes_bind_of_ok {first : Logged α} {next : α → Logged β} {value : α}
    (h : first.result = .ok value) : (first >>= next).notes = first.notes ++ (next value).notes :=
  congrArg notes (bind_of_ok h)

/-- If it has none, only its notes are. -/
theorem notes_bind_of_error {first : Logged α} {next : α → Logged β} {fault : Fault}
    (h : first.result = .error fault) : (first >>= next).notes = first.notes :=
  congrArg notes (bind_of_error h)

@[simp] theorem result_located (component argument : Json) (logged : Logged α) :
    (logged.located component argument).result = locate component argument logged.result := rfl

end Logged

end CatalogClasses
