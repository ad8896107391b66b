/-!
# Bindings

A finite map from names, in which a name is bound at most once.
-/

namespace Console

/-- Names with what they are bound to. -/
structure Bindings (α : Type) where
  entries : List (String × α) := []
  deriving Repr

namespace Bindings

variable {α : Type}

/-- No names are bound. -/
def empty : Bindings α := ⟨[]⟩

/-- What a name is bound to. -/
def get? (bindings : Bindings α) (name : String) : Option α := bindings.entries.lookup name

/-- Binds a name, in place of what it was bound to. -/
def insert (bindings : Bindings α) (name : String) (value : α) : Bindings α :=
  ⟨(name, value) :: bindings.entries.filter (·.1 != name)⟩

@[simp] theorem get?_empty (name : String) : (empty : Bindings α).get? name = none := rfl

/-- A name is bound to what it was bound to last. -/
@[simp] theorem get?_insert_self (bindings : Bindings α) (name : String) (value : α) :
    (bindings.insert name value).get? name = some value := by
  simp [get?, insert]

/-- Binding a name leaves all other names as they are. -/
theorem get?_insert_of_ne (bindings : Bindings α) {name other : String} (value : α)
    (differ : other ≠ name) : (bindings.insert name value).get? other = bindings.get? other := by
  have apart : (other == name) = false := beq_false_of_ne differ
  have lookup : ∀ entries : List (String × α),
      (entries.filter (·.1 != name)).lookup other = entries.lookup other := by
    intro entries
    induction entries with
    | nil => rfl
    | cons entry rest ih =>
      obtain ⟨bound, held⟩ := entry
      by_cases same : bound = name
      · subst same
        simp [List.lookup_cons, ih, apart]
      · simp [List.lookup_cons, ih, same]
  simp [get?, insert, List.lookup_cons, apart, lookup]

/-- Binding a name changes what that name is bound to, and nothing else. -/
theorem get?_insert (bindings : Bindings α) (name other : String) (value : α) :
    (bindings.insert name value).get? other =
      if other = name then some value else bindings.get? other := by
  by_cases same : other = name
  · subst same
    simp
  · simp [same, get?_insert_of_ne bindings value same]

end Bindings

end Console
