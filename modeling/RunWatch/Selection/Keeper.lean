import RunWatch.Cache.Cache
import RunWatch.Selection.Storage

/-!
# Keeping the selection

The keeper watches a cache and stores the record singled out there.  It looks at the cache whenever
something has been published since it last looked, however often that was, and writes only if the selection
differs from what it last stored; zero and minus zero do not differ.  A write that fails is tried again at the
next look.
-/

namespace RunWatch

open Json (Value)

/-- A watcher of a cache's selection. -/
structure Keeper where
  /-- What is stored as far as the keeper knows. -/
  last : Option Value
  /-- The publication it has seen last. -/
  seen : Nat

namespace Keeper

variable {R : Type} [Record R] {σ : Type} [SelectionStorage σ]

/-- The selection of a cache as it is stored. -/
def selection (c : Cache R) : Option Value :=
  c.listing.selected.map Record.encode

/-- A keeper that starts to watch a cache; the selection at that moment counts as stored. -/
def start (c : Cache R) : Keeper :=
  ⟨selection c, c.state.version⟩

/-- Whether two selections are one and the same as JSON values, in which zero has no sign. -/
def Same (a b : Option Value) : Prop :=
  a.map Value.plain = b.map Value.plain

instance (a b : Option Value) : Decidable (Same a b) :=
  inferInstanceAs (Decidable (a.map Value.plain = b.map Value.plain))

/-- Stores a selection under a key: an empty one removes the key. -/
def store (storage : σ) (key : String) : Option Value → Written σ
  | some value => SelectionStorage.save storage key value
  | none => SelectionStorage.remove storage key

/-- What the keeper reports about a write. -/
def report (w : Written σ) : List LogEntry :=
  match w.outcome with
  | .ok () => []
  | .error fault => [.warn .keeper ("failed to persist selection: " ++ fault.message)]

/-- One look at the cache: the keeper and the storage afterwards, and what is reported. -/
def look (k : Keeper) (c : Cache R) (key : String) (storage : σ) : Keeper × σ × List LogEntry :=
  if k.seen = c.state.version then (k, storage, [])
  else
    let current := selection c
    let k := { k with seen := c.state.version }
    if Same current k.last then (k, storage, [])
    else
      let w := store storage key current
      match w.outcome with
      | .ok () => ({ k with last := current }, w.storage, report w)
      | .error _ => (k, w.storage, report w)

end Keeper

end RunWatch
