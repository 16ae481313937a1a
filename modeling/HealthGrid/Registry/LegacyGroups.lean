import HealthGrid.Foundation.Dict
import HealthGrid.Foundation.OpenTable
import Mathlib.Data.List.Sort

/-!
# Groups of the legacy instances

The migrations that give every registered connection a group.  The first adds
the column; the second walks the rows and is to join those that name the same
connection.
-/

namespace HealthGrid.Registry

open HealthGrid.Foundation

/-- The columns the migration reads; `none` is a group that is not set. -/
structure LegacyInstance where
  pk : Nat
  name : String
  engine : String
  dbIdentifier : String
  region : String
  host : String
  port : Nat
  username : String
  connectionGroup : Option Nat
  deriving DecidableEq, Repr

instance : OpenRow LegacyInstance Nat where
  pk := LegacyInstance.pk
  key := LegacyInstance.pk
  isOpen _ := true

abbrev LegacyTable := OpenTable LegacyInstance

structure Identity where
  name : String
  engine : String
  dbIdentifier : String
  region : String
  host : String
  port : Nat
  username : String
  deriving DecidableEq, Repr

def LegacyInstance.identity (row : LegacyInstance) : Identity :=
  ⟨row.name, row.engine, row.dbIdentifier, row.region, row.host, row.port,
    row.username⟩

def LegacyInstance.withGroup (group : Option Nat) (row : LegacyInstance) :
    LegacyInstance :=
  { row with connectionGroup := group }

@[simp] theorem pk_withGroup (group : Option Nat) (row : LegacyInstance) :
    (row.withGroup group).pk = row.pk := rfl

@[simp] theorem identity_withGroup (group : Option Nat) (row : LegacyInstance) :
    (row.withGroup group).identity = row.identity := rfl

@[simp] theorem connectionGroup_withGroup (group : Option Nat)
    (row : LegacyInstance) :
    (row.withGroup group).connectionGroup = group := rfl

theorem withGroup_keeps (group : LegacyInstance → Option Nat) :
    Keeps fun row : LegacyInstance => row.withGroup (group row) :=
  ⟨fun _ => rfl, fun _ => rfl, fun _ h => h⟩

/-! ## The migrations -/

/-- `AddField` evaluates the default once, for all rows that exist. -/
def addConnectionGroup (default : Nat) (table : LegacyTable) : LegacyTable :=
  table.update (fun row => row.withGroup (some default))
    (withGroup_keeps fun _ => some default)

/-- `fresh` are the answers of `uuid.uuid4()`, `drawn` of them used up. -/
structure GroupState where
  table : LegacyTable
  groups : Dict Identity Nat
  drawn : Nat

/-- `instance.connection_group or uuid.uuid4()` -/
def defaultGroup (fresh : Nat → Nat) (drawn : Nat) (row : LegacyInstance) :
    Nat × Nat :=
  match row.connectionGroup with
  | some group => (group, drawn)
  | none => (fresh drawn, drawn + 1)

def saveGroup (table : LegacyTable) (row : LegacyInstance) (group : Nat) :
    LegacyTable :=
  if row.connectionGroup ≠ some group then
    table.update
      (fun other =>
        if other.pk = row.pk then other.withGroup (some group) else other)
      ((withGroup_keeps fun _ => some group).ite _)
  else table

def groupLegacyInstance (fresh : Nat → Nat) (s : GroupState)
    (row : LegacyInstance) : GroupState :=
  let (default, drawn) := defaultGroup fresh s.drawn row
  let (groups, group) := s.groups.setDefault row.identity default
  ⟨saveGroup s.table row group, groups, drawn⟩

/-- `objects.order_by("id")` -/
def orderById (rows : List LegacyInstance) : List LegacyInstance :=
  rows.insertionSort fun row row' => row.pk ≤ row'.pk

def walkInstances (fresh : Nat → Nat) (table : LegacyTable) : GroupState :=
  (orderById table.rows).foldl (groupLegacyInstance fresh) ⟨table, .empty, 0⟩

def groupLegacyInstances (fresh : Nat → Nat) (table : LegacyTable) :
    LegacyTable :=
  (walkInstances fresh table).table

/-! ## What the walk leaves -/

section Walk

variable {fresh : Nat → Nat} {s : GroupState} {row : LegacyInstance}
  {todo : List LegacyInstance} {identity : Identity} {group : Nat}

theorem saveGroup_rows {table : LegacyTable} (hrow : row ∈ table.rows) :
    (saveGroup table row group).rows = table.rows.map fun other =>
      if other.pk = row.pk then other.withGroup (some group) else other := by
  unfold saveGroup
  split
  · rfl
  · rename_i hsame
    -- the group is not written where it is the stored one
    conv_lhs => rw [← List.map_id table.rows]
    apply List.map_congr_left
    intro other hmem
    split
    · rename_i hpk
      have hother : other = row := OpenTable.eq_of_pk_eq hmem hrow hpk
      rw [hother, ← not_not.mp hsame]
      rfl
    · rfl

def groupId (fresh : Nat → Nat) (s : GroupState) (row : LegacyInstance) : Nat :=
  (s.groups.setDefault row.identity (defaultGroup fresh s.drawn row).1).2

theorem table_step : (groupLegacyInstance fresh s row).table =
    saveGroup s.table row (groupId fresh s row) := rfl

theorem groups_step_self :
    (groupLegacyInstance fresh s row).groups.get? row.identity =
      some (groupId fresh s row) :=
  Dict.get?_setDefault ..

theorem groups_walk_of_some (h : s.groups.get? identity = some group) :
    (todo.foldl (groupLegacyInstance fresh) s).groups.get? identity =
      some group := by
  induction todo generalizing s with
  | nil => exact h
  | cons row todo ih => exact ih (Dict.get?_setDefault_of_some h)

theorem walk_rows (hmem : ∀ row ∈ todo, row ∈ s.table.rows)
    (hpks : (todo.map LegacyInstance.pk).Nodup) :
    (todo.foldl (groupLegacyInstance fresh) s).table.rows =
      s.table.rows.map fun other =>
        if other.pk ∈ todo.map LegacyInstance.pk then
          other.withGroup ((todo.foldl (groupLegacyInstance fresh) s).groups.get?
            other.identity)
        else other := by
  induction todo generalizing s with
  | nil => simp
  | cons row todo ih =>
      rw [List.map_cons, List.nodup_cons] at hpks
      have hrow : row ∈ s.table.rows := hmem row (List.mem_cons_self ..)
      have hlater : ∀ other ∈ todo,
          other ∈ (groupLegacyInstance fresh s row).table.rows := by
        intro other hother
        rw [table_step, saveGroup_rows hrow, List.mem_map]
        refine ⟨other, hmem other (List.mem_cons_of_mem _ hother), if_neg ?_⟩
        rintro hpk
        exact hpks.1 (hpk ▸ List.mem_map_of_mem hother)
      rw [List.foldl_cons, ih hlater hpks.2, table_step, saveGroup_rows hrow,
        List.map_map]
      apply List.map_congr_left
      intro other hother
      simp only [Function.comp, List.map_cons, List.mem_cons]
      by_cases hpk : other.pk = row.pk
      · have heq : other = row := OpenTable.eq_of_pk_eq hother hrow hpk
        subst heq
        simp [hpks.1, groups_walk_of_some groups_step_self]
      · simp [hpk]

theorem groups_walk_set (htodo : ∀ row ∈ todo, row.connectionGroup = some group)
    (h : ∀ identity group', s.groups.get? identity = some group' →
      group' = group) {group' : Nat}
    (hget : (todo.foldl (groupLegacyInstance fresh) s).groups.get? identity =
      some group') : group' = group := by
  induction todo generalizing s with
  | nil => exact h identity group' hget
  | cons row todo ih =>
      refine ih (fun other hother => htodo other (List.mem_cons_of_mem _ hother))
        ?_ hget
      intro identity' other hother
      rcases Dict.of_get?_setDefault hother with hold | ⟨-, -, rfl⟩
      · exact h identity' other hold
      · simp [htodo row (List.mem_cons_self ..)]

structure DrawnApart (fresh : Nat → Nat) (s : GroupState) : Prop where
  drawn : ∀ identity group, s.groups.get? identity = some group →
    ∃ i < s.drawn, group = fresh i
  apart : ∀ identity identity' group, s.groups.get? identity = some group →
    s.groups.get? identity' = some group → identity = identity'

theorem drawnApart_walk (hfresh : fresh.Injective)
    (htodo : ∀ row ∈ todo, row.connectionGroup = none)
    (h : DrawnApart fresh s) :
    DrawnApart fresh (todo.foldl (groupLegacyInstance fresh) s) := by
  induction todo generalizing s with
  | nil => exact h
  | cons row todo ih =>
      refine ih (fun other hother => htodo other (List.mem_cons_of_mem _ hother))
        ?_
      have hdefault : defaultGroup fresh s.drawn row =
          (fresh s.drawn, s.drawn + 1) := by
        simp [defaultGroup, htodo row (List.mem_cons_self ..)]
      -- the group drawn now has no identity yet
      have hunused : ∀ identity, s.groups.get? identity ≠ some (fresh s.drawn) := by
        intro identity hget
        obtain ⟨i, hlt, heq⟩ := h.drawn identity _ hget
        exact absurd (hfresh heq) (Nat.ne_of_gt hlt)
      have hcases : ∀ {identity group},
          (groupLegacyInstance fresh s row).groups.get? identity = some group →
            s.groups.get? identity = some group ∨
              (identity = row.identity ∧ group = fresh s.drawn) := by
        intro identity group hget
        rcases Dict.of_get?_setDefault hget with hold | ⟨-, hkey, hvalue⟩
        · exact .inl hold
        · exact .inr ⟨hkey, hvalue.trans (congrArg Prod.fst hdefault)⟩
      have hdrawn : (groupLegacyInstance fresh s row).drawn = s.drawn + 1 := by
        change (defaultGroup fresh s.drawn row).2 = _
        rw [hdefault]
      constructor
      · intro identity group hget
        rw [hdrawn]
        rcases hcases hget with hold | ⟨-, rfl⟩
        · obtain ⟨i, hlt, heq⟩ := h.drawn identity group hold
          exact ⟨i, by omega, heq⟩
        · exact ⟨s.drawn, by omega, rfl⟩
      · intro identity identity' group hget hget'
        rcases hcases hget with hold | ⟨rfl, rfl⟩ <;>
          rcases hcases hget' with hold' | ⟨hkey', hvalue'⟩
        · exact h.apart _ _ _ hold hold'
        · rw [hvalue'] at hold
          exact absurd hold (hunused _)
        · exact absurd hold' (hunused _)
        · exact hkey'.symm

end Walk

/-! ## The groups afterwards -/

/-- Two rows have one group exactly when they name the same connection. -/
def GroupedByIdentity (table : LegacyTable) : Prop :=
  ∀ row ∈ table.rows, ∀ row' ∈ table.rows,
    row.connectionGroup = row'.connectionGroup ↔ row.identity = row'.identity

section Result

variable (fresh : Nat → Nat) (table : LegacyTable)

theorem mem_orderById {row : LegacyInstance} {rows : List LegacyInstance} :
    row ∈ orderById rows ↔ row ∈ rows :=
  (List.perm_insertionSort _ rows).mem_iff

theorem groupLegacyInstances_rows :
    (groupLegacyInstances fresh table).rows = table.rows.map fun row =>
      row.withGroup ((walkInstances fresh table).groups.get? row.identity) := by
  have hperm := List.perm_insertionSort
    (fun row row' : LegacyInstance => row.pk ≤ row'.pk) table.rows
  have hpks : ((orderById table.rows).map LegacyInstance.pk).Nodup :=
    (hperm.map _).nodup_iff.mpr table.pk_nodup
  unfold groupLegacyInstances walkInstances
  rw [walk_rows (fun row hmem => mem_orderById.mp hmem) hpks]
  apply List.map_congr_left
  intro row hmem
  rw [if_pos (List.mem_map_of_mem (mem_orderById.mpr hmem))]

theorem groupLegacyInstances_isSome {row : LegacyInstance}
    (hmem : row ∈ (groupLegacyInstances fresh table).rows) :
    ∃ group, row.connectionGroup = some group ∧
      (walkInstances fresh table).groups.get? row.identity = some group := by
  rw [groupLegacyInstances_rows, List.mem_map] at hmem
  obtain ⟨old, hold, rfl⟩ := hmem
  have hsome : ∀ {todo : List LegacyInstance} {s : GroupState}, old ∈ todo →
      ((todo.foldl (groupLegacyInstance fresh) s).groups.get?
        old.identity).isSome := by
    intro todo
    induction todo with
    | nil => simp
    | cons row todo ih =>
        intro s hmem
        rcases List.mem_cons.mp hmem with rfl | hlater
        · rw [List.foldl_cons, groups_walk_of_some groups_step_self]
          rfl
        · exact ih hlater
  obtain ⟨group, hgroup⟩ := Option.isSome_iff_exists.mp
    (hsome (s := ⟨table, .empty, 0⟩) (mem_orderById.mpr hold))
  exact ⟨group, hgroup, hgroup⟩

/-- Had the new column been left unset, the walk would do what it is for. -/
theorem grouped_of_unset (hfresh : fresh.Injective)
    (hunset : ∀ row ∈ table.rows, row.connectionGroup = none) :
    GroupedByIdentity (groupLegacyInstances fresh table) := by
  have hapart : DrawnApart fresh (walkInstances fresh table) := by
    refine drawnApart_walk hfresh
      (fun row hmem => hunset row (mem_orderById.mp hmem)) ⟨?_, ?_⟩ <;>
      simp [Dict.get?, Dict.empty]
  intro row hmem row' hmem'
  obtain ⟨group, hgroup, hget⟩ := groupLegacyInstances_isSome _ _ hmem
  obtain ⟨group', hgroup', hget'⟩ := groupLegacyInstances_isSome _ _ hmem'
  constructor
  · intro hsame
    have heq : group = group' := by simpa [hgroup, hgroup'] using hsame
    rw [← heq] at hget'
    exact hapart.apart _ _ _ hget hget'
  · intro hsame
    rw [hsame, hget'] at hget
    rw [hgroup, hgroup', hget]

variable (default : Nat)

theorem connectionGroup_legacy {row : LegacyInstance}
    (hmem : row ∈ (groupLegacyInstances fresh
      (addConnectionGroup default table)).rows) :
    row.connectionGroup = some default := by
  obtain ⟨group, hgroup, hget⟩ := groupLegacyInstances_isSome _ _ hmem
  have hset : ∀ old ∈ orderById (addConnectionGroup default table).rows,
      old.connectionGroup = some default := by
    intro old hold
    obtain ⟨before, -, rfl⟩ := List.mem_map.mp (mem_orderById.mp hold)
    rfl
  rw [hgroup, groups_walk_set hset ?_ hget]
  simp [Dict.get?, Dict.empty]

theorem legacy_instances_grouped :
    GroupedByIdentity (groupLegacyInstances fresh
        (addConnectionGroup default table)) ↔
      ∀ row ∈ table.rows, ∀ row' ∈ table.rows,
        row.identity = row'.identity := by
  have hidentities : (groupLegacyInstances fresh
      (addConnectionGroup default table)).rows.map LegacyInstance.identity =
        table.rows.map LegacyInstance.identity := by
    rw [groupLegacyInstances_rows, addConnectionGroup, OpenTable.update_rows,
      List.map_map, List.map_map]
    rfl
  have hiff : GroupedByIdentity (groupLegacyInstances fresh
      (addConnectionGroup default table)) ↔
        ∀ i ∈ table.rows.map LegacyInstance.identity,
          ∀ j ∈ table.rows.map LegacyInstance.identity, i = j := by
    rw [← hidentities]
    simp only [GroupedByIdentity, List.forall_mem_map]
    refine forall₂_congr fun row hmem => forall₂_congr fun row' hmem' => ?_
    simp [connectionGroup_legacy _ _ _ hmem, connectionGroup_legacy _ _ _ hmem']
  rw [hiff]
  simp only [List.forall_mem_map]

end Result

/-! ## Two databases in one group -/

def legacyRow (pk : Nat) (name : String) : LegacyInstance where
  pk := pk
  name := name
  engine := "postgresql"
  dbIdentifier := name
  region := "us-east-1"
  host := name
  port := 5432
  username := "app"
  connectionGroup := none

def twoLegacyRows : LegacyTable where
  rows := [legacyRow 1 "orders", legacyRow 2 "billing"]
  nextPk := 3
  pk_lt := by decide
  pk_nodup := by decide
  unique_open := by decide

theorem legacy_instances_share_group :
    ¬ GroupedByIdentity (groupLegacyInstances id
      (addConnectionGroup 7 twoLegacyRows)) := by
  intro hgrouped
  have hsame := (hgrouped ((legacyRow 1 "orders").withGroup (some 7)) (by decide)
    ((legacyRow 2 "billing").withGroup (some 7)) (by decide)).mp rfl
  exact absurd hsame (by decide)

end HealthGrid.Registry
