import RamlDocs.Fault

/-!
# Notes on the way

Reading and viewing a definition is lenient: what does not fit is passed over with a note.
`Logged` carries the notes beside the value, in order, and never looks at them, so the value of a
computation is the value of its parts (`Logged.value_bind`, `Logged.value_mapList`). `Traced` adds
failure; the notes made before it are kept.
-/

namespace RamlDocs

/-- How much a note matters. -/
inductive Level where
  | debug
  | info
  | warning
  deriving DecidableEq, Repr

/-- What is passed over or found. -/
inductive Note where
  | unknownTrait (name method path : String)
  | unknownResourceType (name path : String)
  | viewing (title : String)
  | endpoint (uri method : String)
  | unresolvedType (reference : String)
  | inheritanceCycle (key : String)
  | malformedSchema (reason : String)
  | schemaNotJson (name : String)
  | nameTaken (uri name : String)
  | loadFailed (path reason : String)
  deriving DecidableEq, Repr

/-- A value and the notes made on the way to it. -/
structure Logged (α : Type) where
  value : α
  notes : List Note

namespace Logged

variable {α β : Type}

/-- A note by itself. -/
def note (n : Note) : Logged Unit := ⟨(), [n]⟩

instance : Monad Logged where
  pure a := ⟨a, []⟩
  bind x f := ⟨(f x.value).value, x.notes ++ (f x.value).notes⟩

@[simp] theorem value_pure (a : α) : (pure a : Logged α).value = a := rfl

@[simp] theorem value_bind (x : Logged α) (f : α → Logged β) :
    (x >>= f).value = (f x.value).value := rfl

@[simp] theorem value_map (f : α → β) (x : Logged α) : (f <$> x).value = f x.value := rfl

/-- `f` on every item, the notes in order. -/
def mapList (f : α → Logged β) : List α → Logged (List β)
  | [] => pure []
  | a :: as => do
    let b ← f a
    let bs ← mapList f as
    pure (b :: bs)

@[simp] theorem value_mapList (f : α → Logged β) (as : List α) :
    (mapList f as).value = as.map fun a => (f a).value := by
  induction as with
  | nil => rfl
  | cons a as ih => simp [mapList, ih]

end Logged

/-- A computation that makes notes and may end in a fault. -/
abbrev Traced := ExceptT Fault Logged

namespace Traced

variable {α β : Type}

/-- What a computation comes to, without its notes. -/
def outcome (x : Traced α) : Except Fault α := x.run.value

/-- A note by itself. -/
def note (n : Note) : Traced Unit := ExceptT.lift (Logged.note n)

/-- A computation without notes. -/
def ofExcept (x : Except Fault α) : Traced α := ExceptT.mk (pure x)

/-- A computation that cannot fail. -/
def ofLogged (x : Logged α) : Traced α := ExceptT.lift x

/-- `f` on every item, in order, up to the first fault. -/
def mapList (f : α → Traced β) : List α → Traced (List β)
  | [] => pure []
  | a :: as => do
    let b ← f a
    let bs ← mapList f as
    pure (b :: bs)

@[simp] theorem outcome_pure (a : α) : outcome (pure a : Traced α) = .ok a := rfl

@[simp] theorem outcome_ofExcept (x : Except Fault α) : outcome (ofExcept x) = x := rfl

@[simp] theorem outcome_ofLogged (x : Logged α) : outcome (ofLogged x) = .ok x.value := rfl

@[simp] theorem outcome_bind (x : Traced α) (f : α → Traced β) :
    outcome (x >>= f) = x.outcome >>= fun a => (f a).outcome := by
  obtain ⟨value, notes⟩ := x
  cases value <;> rfl

end Traced

end RamlDocs
