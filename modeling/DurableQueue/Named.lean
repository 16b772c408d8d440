/-!
# Named values

Values by name, in the order in which the names first came up. `lookup_put` says what putting a value
under a name does to look-ups.
-/

namespace DurableQueue

/-- Values by name. -/
abbrev Named (α : Type) := List (String × α)

namespace Named

variable {α : Type}

/-- Puts a value under a name, in place of the one that is there or at the end. -/
def put (name : String) (value : α) : Named α → Named α
  | [] => [(name, value)]
  | (n, v) :: rest => if n = name then (name, value) :: rest else (n, v) :: put name value rest

@[simp] theorem lookup_put (name n : String) (value : α) (values : Named α) :
    (put name value values).lookup n = if n = name then some value else values.lookup n := by
  induction values with
  | nil => simp only [put, List.lookup_cons, List.lookup_nil]; grind
  | cons head rest ih =>
    obtain ⟨m, v⟩ := head
    rw [put]
    split <;> simp only [List.lookup_cons] <;> grind

end Named

end DurableQueue
