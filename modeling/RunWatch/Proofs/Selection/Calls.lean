import Mathlib.Control.Monad.Basic
import RunWatch.Selection.Storage

/-!
# Calls of a storage

What a storage is asked for and what it answers, as values, so that a statement can be about any row of calls:
`StorageCall.run` carries one call out, `StorageCall.after` and `StorageCall.answers` a row of them.
-/

namespace RunWatch

open Json (Value Members)

/-- What a storage can be asked for. -/
inductive StorageCall where
  | load (key : String)
  | save (key : String) (value : Value)
  | remove (key : String)

/-- What a storage answers. -/
inductive StorageAnswer where
  | found (result : Except CacheFault (Option Value))
  | wrote (outcome : Except CacheFault Unit)
  deriving DecidableEq

namespace StorageCall

/-- The key that a call is about. -/
def key : StorageCall → String
  | load key | save key _ | remove key => key

/-- The entries that a call asks for in place of those that are there. -/
def revise : StorageCall → Members → Members
  | load _, ms => ms
  | save key value, ms => ms.insert key value
  | remove key, ms => ms.erase key

variable {σ : Type} [SelectionStorage σ]

/-- The storage after a call, and its answer. -/
def run (s : σ) : StorageCall → σ × StorageAnswer
  | load key => (s, .found (SelectionStorage.load s key))
  | save key value => ((SelectionStorage.save s key value).storage, .wrote (SelectionStorage.save s key value).outcome)
  | remove key => ((SelectionStorage.remove s key).storage, .wrote (SelectionStorage.remove s key).outcome)

/-- The storage after some calls. -/
def after (s : σ) (calls : List StorageCall) : σ :=
  calls.foldl (fun s call => (call.run s).1) s

/-- What a storage answers to some calls, the first one first. -/
def answers (s : σ) : List StorageCall → List StorageAnswer
  | [] => []
  | call :: calls => (call.run s).2 :: answers (call.run s).1 calls

@[simp] theorem after_cons (s : σ) (call : StorageCall) (calls : List StorageCall) :
    after s (call :: calls) = after (call.run s).1 calls := rfl

end StorageCall

end RunWatch
