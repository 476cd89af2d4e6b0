import Mathlib.Algebra.GroupWithZero.Nat
import Mathlib.Data.List.Induction
import RunWatch.Rollup.Alerts

/-!
# What an alert board holds

Of the alerts that came, a board has those of each level in the order they came, and counts them by what they stand for
(`AlertBoard.ofAlerts_eq`).  It stands for all of them in the end (`AlertBoard.total_ofAlerts`).
-/

namespace RunWatch

namespace AlertGroup

/-- The alerts of one level among some. -/
def ofLevel (level : AlertLevel) (alerts : List Alert) : AlertGroup :=
  let own := alerts.filter fun a => a.level = level
  ⟨(own.map fun a => a.count.toNat).sum, own⟩

/-- Two groups as one, the alerts of the first in front. -/
def followedBy (g h : AlertGroup) : AlertGroup :=
  ⟨g.count + h.count, g.alerts ++ h.alerts⟩

/-- Two groups with the same alerts in any order. -/
structure Alike (g h : AlertGroup) : Prop where
  count : g.count = h.count
  alerts : g.alerts.Perm h.alerts

theorem ofLevel_append (level : AlertLevel) (xs ys : List Alert) :
    ofLevel level (xs ++ ys) = (ofLevel level xs).followedBy (ofLevel level ys) := by
  simp [ofLevel, followedBy]

theorem ofLevel_concat (level : AlertLevel) (alerts : List Alert) (a : Alert) :
    ofLevel level (alerts ++ [a]) = if a.level = level then (ofLevel level alerts).push a else ofLevel level alerts := by
  by_cases h : a.level = level
  · simp [ofLevel, push, h]
  · simp [ofLevel, h]

theorem alike_ofLevel {xs ys : List Alert} (level : AlertLevel) (h : xs.Perm ys) :
    (ofLevel level xs).Alike (ofLevel level ys) :=
  have halerts : (ofLevel level xs).alerts.Perm (ofLevel level ys).alerts := h.filter _
  ⟨(halerts.map _).sum_nat, halerts⟩

end AlertGroup

namespace AlertBoard

open AlertGroup (ofLevel)

theorem ofAlerts_concat (alerts : List Alert) (a : Alert) : ofAlerts (alerts ++ [a]) = (ofAlerts alerts).push a :=
  List.foldl_append

theorem ofAlerts_eq (alerts : List Alert) : ofAlerts alerts = ⟨ofLevel .error alerts, ofLevel .warning alerts⟩ := by
  induction alerts using List.reverseRecOn with
  | nil => rfl
  | append_singleton alerts a ih =>
    rw [ofAlerts_concat, ih, AlertGroup.ofLevel_concat, AlertGroup.ofLevel_concat, push]
    cases a.level with
    | warning => rfl
    | error => rfl

theorem total_push (b : AlertBoard) (a : Alert) : (b.push a).total = b.total + a.count.toNat := by
  rw [push]
  cases a.level with
  | warning => exact (Nat.add_assoc _ _ _).symm
  | error => exact Nat.add_right_comm _ _ _

theorem total_ofAlerts (alerts : List Alert) : (ofAlerts alerts).total = (alerts.map fun a => a.count.toNat).sum := by
  induction alerts using List.reverseRecOn with
  | nil => rfl
  | append_singleton alerts a ih =>
    rw [ofAlerts_concat, total_push, ih]
    simp

end AlertBoard

end RunWatch
