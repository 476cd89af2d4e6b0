import RunWatch.Cache.Fault
import RunWatch.Json.Value
import RunWatch.Log

/-!
# Storage of the selection

What outlives a session: a few values under keys.  A `SelectionStorage` can load, save and remove; the
plainest one is `Memory`, which never fails, and `Refusing` makes the first writes of another one fail.
-/

namespace RunWatch

open Json (Value Members)

/-- What comes of writing to a storage. -/
structure Written (σ : Type) where
  storage : σ
  outcome : Except CacheFault Unit
  /-- What was noticed on the way. -/
  notes : List LogEntry

namespace Written

/-- A write that went well. -/
def done (storage : σ) : Written σ := ⟨storage, .ok (), []⟩

/-- A write that failed and left this storage behind. -/
def refused (storage : σ) (fault : CacheFault) : Written σ := ⟨storage, .error fault, []⟩

/-- The same outcome for a storage that contains this one. -/
def lift (f : σ → τ) (w : Written σ) : Written τ := ⟨f w.storage, w.outcome, w.notes⟩

end Written

/-- Storage for values under keys. -/
class SelectionStorage (σ : Type) where
  load : σ → String → Except CacheFault (Option Value)
  save : σ → String → Value → Written σ
  remove : σ → String → Written σ

/-! ## In memory -/

/-- Values that last as long as the program. -/
structure Memory where
  entries : Members
  deriving DecidableEq

namespace Memory

instance : SelectionStorage Memory where
  load m key := .ok (m.entries.find? key)
  save m key value := .done ⟨m.entries.insert key value⟩
  remove m key := .done ⟨m.entries.erase key⟩

end Memory

/-! ## Refusing writes -/

/-- A storage whose next `refusals` writes fail without effect. -/
structure Refusing (σ : Type) where
  inner : σ
  refusals : Nat

namespace Refusing

variable {σ : Type} [SelectionStorage σ]

/-- A write, unless it is to be refused. -/
def write (r : Refusing σ) (act : σ → Written σ) : Written (Refusing σ) :=
  match r.refusals with
  | 0 => (act r.inner).lift (⟨·, 0⟩)
  | n + 1 => .refused { r with refusals := n } (.storage "the write was refused")

instance : SelectionStorage (Refusing σ) where
  load r key := SelectionStorage.load r.inner key
  save r key value := r.write fun s => SelectionStorage.save s key value
  remove r key := r.write fun s => SelectionStorage.remove s key

end Refusing

/-! ## One of two -/

/-- A storage of one of two sorts. -/
inductive EitherStorage (σ τ : Type) where
  | left (s : σ)
  | right (t : τ)

namespace EitherStorage

variable {σ τ : Type} [SelectionStorage σ] [SelectionStorage τ]

instance : SelectionStorage (EitherStorage σ τ) where
  load
    | left s, key => SelectionStorage.load s key
    | right t, key => SelectionStorage.load t key
  save
    | left s, key, value => (SelectionStorage.save s key value).lift left
    | right t, key, value => (SelectionStorage.save t key value).lift right
  remove
    | left s, key => (SelectionStorage.remove s key).lift left
    | right t, key => (SelectionStorage.remove t key).lift right

end EitherStorage

end RunWatch
