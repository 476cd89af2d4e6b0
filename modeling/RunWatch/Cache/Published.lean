/-!
# Published values

A value that others watch, with the number of times it has been published.  A watcher has seen the latest
value when it has seen the latest number.
-/

namespace RunWatch

/-- A value and the count of its publications. -/
structure Published (α : Type) where
  value : α
  version : Nat
  deriving DecidableEq

namespace Published

/-- A value that nobody has been told of yet. -/
def first (value : α) : Published α := ⟨value, 0⟩

/-- Publishes a value. -/
def publish (p : Published α) (value : α) : Published α :=
  ⟨value, p.version + 1⟩

end Published

end RunWatch
