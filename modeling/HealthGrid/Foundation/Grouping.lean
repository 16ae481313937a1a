import HealthGrid.Foundation.Dict
import Mathlib.Data.List.Induction
import Mathlib.Data.List.Perm.Basic

/-!
# Grouping rows by a key

A dictionary of lists to which the rows are appended in turn holds every row
exactly once, under its own key.
-/

namespace HealthGrid.Foundation

variable {α κ : Type} [DecidableEq κ]

/-- `groups.setdefault(key(row), []).append(row)` -/
def addToGroup (key : α → κ) (groups : Dict κ (List α)) (row : α) :
    Dict κ (List α) :=
  groups.set (key row) ((groups.get? (key row)).getD [] ++ [row])

def group (key : α → κ) (rows : List α) : Dict κ (List α) :=
  rows.foldl (addToGroup key) .empty

section Groups

variable {key : α → κ} {rows : List α} {k : κ}

theorem group_append_singleton (row : α) :
    group key (rows ++ [row]) = addToGroup key (group key rows) row := by
  rw [group, List.foldl_append, List.foldl_cons, List.foldl_nil]
  rfl

theorem group_map {f : α → α} (hkey : ∀ row, key (f row) = key row)
    (rows : List α) : group key (rows.map f) =
      (group key rows).mapValues fun _ => List.map f := by
  induction rows using List.reverseRecOn with
  | nil => rfl
  | append_singleton rows row ih =>
      rw [List.map_append, List.map_singleton, group_append_singleton, ih,
        group_append_singleton, addToGroup, addToGroup, Dict.mapValues_set, hkey,
        Dict.get?_mapValues, List.map_append, List.map_singleton]
      cases (group key rows).get? (key row) with
      | none => rfl
      | some members => rfl

end Groups

end HealthGrid.Foundation
