/-!
# Reading from the start of a list

A reader takes what it needs from the start of a list and gives back the rest. The rest is shorter
than a bound that stands in the type, so a reader can be used in a recursion on the length of what
is left without another proof.
-/

namespace WindowActions

/-- Something read from the start of a list, of which fewer than `bound` elements are left. -/
structure Reading (τ α : Type) (bound : Nat) where
  value : α
  rest : List τ
  shorter : rest.length < bound

namespace Reading

variable {τ α β : Type} {m n : Nat}

def widen (r : Reading τ α m) (h : m ≤ n) : Reading τ α n :=
  ⟨r.value, r.rest, Nat.lt_of_lt_of_le r.shorter h⟩

def map (f : α → β) (r : Reading τ α n) : Reading τ β n :=
  ⟨f r.value, r.rest, r.shorter⟩

@[simp] theorem widen_value (r : Reading τ α m) (h : m ≤ n) : (r.widen h).value = r.value := rfl

@[simp] theorem widen_rest (r : Reading τ α m) (h : m ≤ n) : (r.widen h).rest = r.rest := rfl

@[simp] theorem map_value (f : α → β) (r : Reading τ α n) : (r.map f).value = f r.value := rfl

@[simp] theorem map_rest (f : α → β) (r : Reading τ α n) : (r.map f).rest = r.rest := rfl

end Reading

end WindowActions
