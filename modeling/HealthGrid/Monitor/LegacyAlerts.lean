import HealthGrid.Foundation.Dict
import HealthGrid.Foundation.OpenTable
import HealthGrid.Models
import Mathlib.Data.List.Sort

/-!
# The active alerts before they had a key

The migration that gives every active alert the key of its pair of PIDs.  Two
active alerts for one pair become one, and then no two active alerts of an
instance may have the same key.
-/

namespace HealthGrid.Monitor

open HealthGrid.Foundation

/-- The columns of the table at the time of the migration. -/
structure LegacyAlert where
  pk : Nat
  instancePk : Nat
  alertKey : String
  blockedPid : Int
  blockingPid : Int
  blockedUser : String
  blockingUser : String
  blockedQuery : String
  blockingQuery : String
  waitingSeconds : Nat
  observationCount : Nat
  firstSeenAt : Time
  lastSeenAt : Time
  alertedAt : Option Time
  resolvedAt : Option Time
  deriving DecidableEq, Repr

/-- There is no constraint on the rows yet but that of their primary key. -/
instance : OpenRow LegacyAlert Nat where
  pk := LegacyAlert.pk
  key := LegacyAlert.pk
  isOpen _ := true

abbrev LegacyAlertTable := OpenTable LegacyAlert

namespace LegacyAlert

def isActive (alert : LegacyAlert) : Bool := alert.resolvedAt.isNone

def newKey (alert : LegacyAlert) : String :=
  pairKey alert.blockedPid alert.blockingPid

def groupKey (alert : LegacyAlert) : Nat × String :=
  (alert.instancePk, alert.newKey)

def withKey (key : String) (alert : LegacyAlert) : LegacyAlert :=
  { alert with alertKey := key }

/-- `order_by("first_seen_at", "pk")` -/
def Before (alert other : LegacyAlert) : Prop :=
  alert.firstSeenAt < other.firstSeenAt ∨
    alert.firstSeenAt = other.firstSeenAt ∧ alert.pk ≤ other.pk

instance : DecidableRel Before :=
  fun _ _ => inferInstanceAs (Decidable (_ ∨ _))

instance : Std.Total Before where
  total alert other := by
    unfold Before
    rcases Int.lt_trichotomy alert.firstSeenAt other.firstSeenAt with
      h | h | h <;> grind

instance : IsTrans LegacyAlert Before where
  trans a b c hab hbc := by
    unfold Before at *
    grind

end LegacyAlert

/-! ## The migration -/

/-- `if value: setattr(existing, field, value)` -/
def laterText (text value : String) : String :=
  if value ≠ "" then value else text

def earliestAlert (times : List (Option Time)) : Option Time :=
  (times.filterMap id).min?

/-- Keep the oldest incident and merge the latest useful details into it. -/
def mergeAlert (existing alert : LegacyAlert) : LegacyAlert :=
  { existing with
    lastSeenAt := max existing.lastSeenAt alert.lastSeenAt
    waitingSeconds := max existing.waitingSeconds alert.waitingSeconds
    observationCount := max existing.observationCount alert.observationCount
    alertedAt := earliestAlert [existing.alertedAt, alert.alertedAt]
    blockedUser := laterText existing.blockedUser alert.blockedUser
    blockingUser := laterText existing.blockingUser alert.blockingUser
    blockedQuery := laterText existing.blockedQuery alert.blockedQuery
    blockingQuery := laterText existing.blockingQuery alert.blockingQuery }

def mergedFields (merged row : LegacyAlert) : LegacyAlert :=
  { row with
    lastSeenAt := merged.lastSeenAt
    waitingSeconds := merged.waitingSeconds
    observationCount := merged.observationCount
    alertedAt := merged.alertedAt
    blockedUser := merged.blockedUser
    blockingUser := merged.blockingUser
    blockedQuery := merged.blockedQuery
    blockingQuery := merged.blockingQuery }

@[simp] theorem pk_mergeAlert (existing alert : LegacyAlert) :
    (mergeAlert existing alert).pk = existing.pk := rfl

@[simp] theorem mergedFields_mergeAlert (existing alert : LegacyAlert) :
    mergedFields (mergeAlert existing alert) existing =
      mergeAlert existing alert := rfl

def saveAlert (table : LegacyAlertTable) (pk : Nat)
    (change : LegacyAlert → LegacyAlert) (h : Keeps change) :
    LegacyAlertTable :=
  table.update (fun row => if row.pk = pk then change row else row) (h.ite _)

theorem withKey_keeps (key : String) : Keeps (LegacyAlert.withKey key) :=
  ⟨fun _ => rfl, fun _ => rfl, fun _ h => h⟩

theorem mergedFields_keeps (merged : LegacyAlert) :
    Keeps (mergedFields merged) :=
  ⟨fun _ => rfl, fun _ => rfl, fun _ h => h⟩

def deleteAlert (table : LegacyAlertTable) (pk : Nat) : LegacyAlertTable :=
  table.filter fun row => row.pk != pk

structure NormalizeState where
  table : LegacyAlertTable
  canonical : Dict (Nat × String) LegacyAlert

def normalizeAlert (s : NormalizeState) (alert : LegacyAlert) :
    NormalizeState :=
  match s.canonical.get? alert.groupKey with
  | none =>
      { table :=
          if alert.alertKey ≠ alert.newKey then
            saveAlert s.table alert.pk _ (withKey_keeps alert.newKey)
          else s.table
        canonical :=
          s.canonical.set alert.groupKey (alert.withKey alert.newKey) }
  | some existing =>
      let merged := mergeAlert existing alert
      { table := deleteAlert
          (saveAlert s.table existing.pk _ (mergedFields_keeps merged)) alert.pk
        canonical := s.canonical.set alert.groupKey merged }

def activeLegacyAlerts (table : LegacyAlertTable) : List LegacyAlert :=
  (table.rows.filter LegacyAlert.isActive).insertionSort LegacyAlert.Before

def normalizeActiveAlertKeys (table : LegacyAlertTable) : LegacyAlertTable :=
  ((activeLegacyAlerts table).foldl normalizeAlert ⟨table, .empty⟩).table

/-! ## What the walk knows -/

def canonicalOf (walked : List LegacyAlert) (group : Nat × String) :
    Option LegacyAlert :=
  match walked.filter fun alert => alert.groupKey = group with
  | [] => none
  | first :: rest => some (rest.foldl mergeAlert (first.withKey first.newKey))

def settled (walked : List LegacyAlert) (row : LegacyAlert) :
    Option LegacyAlert :=
  if row.pk ∈ walked.map LegacyAlert.pk then
    (canonicalOf walked row.groupKey).filter fun alert => alert.pk = row.pk
  else some row

section Canonical

variable {walked rest : List LegacyAlert} {alert first row : LegacyAlert}
  {group : Nat × String}

theorem mergeAll_frame {α : Type} (field : LegacyAlert → α)
    (h : ∀ merged row, field (mergedFields merged row) = field row) :
    field (rest.foldl mergeAlert first) = field first := by
  induction rest generalizing first with
  | nil => rfl
  | cons alert rest ih =>
      have hmerged : field (mergeAlert first alert) = field first :=
        h (mergeAlert first alert) first
      rw [List.foldl_cons, ih, hmerged]

theorem canonicalOf_eq_none :
    canonicalOf walked group = none ↔
      ∀ alert ∈ walked, alert.groupKey ≠ group := by
  unfold canonicalOf
  split
  · rename_i hnil
    simpa using hnil
  · rename_i first rest hcons
    have hmem : first ∈ walked.filter fun alert => alert.groupKey = group := by
      simp [hcons]
    obtain ⟨hwalked, hgroup⟩ := List.mem_filter.mp hmem
    simp only [reduceCtorEq, false_iff]
    exact fun h => h first hwalked (by simpa using hgroup)

theorem canonicalOf_some (h : canonicalOf walked group = some alert) :
    ∃ first ∈ walked, first.groupKey = group ∧ alert.pk = first.pk ∧
      alert.groupKey = group ∧ alert.alertKey = group.2 ∧
      alert.resolvedAt = first.resolvedAt := by
  unfold canonicalOf at h
  split at h
  · cases h
  · rename_i first rest hcons
    obtain rfl := Option.some.inj h
    have hmem : first ∈ walked.filter fun alert => alert.groupKey = group := by
      simp [hcons]
    obtain ⟨hwalked, hgroup⟩ := List.mem_filter.mp hmem
    obtain rfl : first.groupKey = group := by simpa using hgroup
    exact ⟨first, hwalked, rfl, mergeAll_frame _ fun _ _ => rfl,
      mergeAll_frame _ fun _ _ => rfl, mergeAll_frame _ fun _ _ => rfl,
      mergeAll_frame _ fun _ _ => rfl⟩

theorem canonicalOf_append (walked : List LegacyAlert) (alert : LegacyAlert)
    (group : Nat × String) :
    canonicalOf (walked ++ [alert]) group =
      if alert.groupKey = group then
        match canonicalOf walked group with
        | none => some (alert.withKey alert.newKey)
        | some existing => some (mergeAlert existing alert)
      else canonicalOf walked group := by
  unfold canonicalOf
  rw [List.filter_append]
  by_cases hgroup : alert.groupKey = group
  · simp only [hgroup, decide_true, List.filter_cons_of_pos, List.filter_nil,
      if_true]
    cases walked.filter fun alert => alert.groupKey = group with
    | nil => rfl
    | cons first rest => simp [List.foldl_append]
  · simp [hgroup]

theorem settled_of_not_mem (h : row.pk ∉ walked.map LegacyAlert.pk) :
    settled walked row = some row :=
  if_neg h

theorem settled_of_mem (h : row.pk ∈ walked.map LegacyAlert.pk) :
    settled walked row =
      (canonicalOf walked row.groupKey).filter fun alert =>
        alert.pk = row.pk :=
  if_pos h

end Canonical

/-! ## One step of the walk -/

structure Walked (table : LegacyAlertTable) (walked : List LegacyAlert)
    (s : NormalizeState) : Prop where
  rows : s.table.rows = table.rows.filterMap (settled walked)
  canonical : ∀ group, s.canonical.get? group = canonicalOf walked group

structure Walkable (table : LegacyAlertTable) (walked : List LegacyAlert) :
    Prop where
  mem : ∀ alert ∈ walked, alert ∈ table.rows
  nodup : (walked.map LegacyAlert.pk).Nodup

section Walk

variable {table : LegacyAlertTable} {walked todo : List LegacyAlert}
  {alert row existing : LegacyAlert} {s : NormalizeState}

theorem Walkable.mem_of_pk (h : Walkable table walked)
    (hrow : row ∈ table.rows) (hpk : row.pk ∈ walked.map LegacyAlert.pk) :
    row ∈ walked := by
  obtain ⟨other, hmem, hpk⟩ := List.mem_map.mp hpk
  exact OpenTable.eq_of_pk_eq (h.mem other hmem) hrow hpk ▸ hmem

theorem Walkable.not_mem (h : Walkable table (walked ++ [alert])) :
    alert.pk ∉ walked.map LegacyAlert.pk := by
  have hnodup := h.nodup
  rw [List.map_append, List.nodup_append] at hnodup
  intro hmem
  exact hnodup.2.2 _ hmem _ (by simp) rfl

theorem Walkable.front (h : Walkable table (walked ++ todo)) :
    Walkable table walked where
  mem other hmem := h.mem other (List.mem_append_left _ hmem)
  nodup := h.nodup.sublist ((List.sublist_append_left _ _).map _)

theorem settled_first (h : Walkable table (walked ++ [alert]))
    (hnone : canonicalOf walked alert.groupKey = none)
    (hrow : row ∈ table.rows) :
    settled (walked ++ [alert]) row = (settled walked row).map fun other =>
      if other.pk = alert.pk then other.withKey alert.newKey else other := by
  by_cases hpk : row.pk = alert.pk
  · obtain rfl : row = alert :=
      OpenTable.eq_of_pk_eq hrow (h.mem alert (by simp)) hpk
    rw [settled_of_not_mem h.not_mem, settled_of_mem (by simp),
      canonicalOf_append, if_pos rfl, hnone]
    simp [LegacyAlert.withKey]
  by_cases hmem : row.pk ∈ walked.map LegacyAlert.pk
  · have hgroup : alert.groupKey ≠ row.groupKey := fun heq =>
      canonicalOf_eq_none.mp hnone row (h.front.mem_of_pk hrow hmem) heq.symm
    rw [settled_of_mem hmem, settled_of_mem (by simp [hmem]),
      canonicalOf_append, if_neg hgroup]
    cases canonicalOf walked row.groupKey with
    | none => rfl
    | some other =>
        by_cases hother : other.pk = row.pk
        · simp [Option.filter_some, hother, hpk]
        · simp [Option.filter_some, hother]
  · rw [settled_of_not_mem hmem, settled_of_not_mem (by simp [hmem, hpk])]
    simp [hpk]

theorem settled_merged (h : Walkable table (walked ++ [alert]))
    (hsome : canonicalOf walked alert.groupKey = some existing)
    (hrow : row ∈ table.rows) :
    settled (walked ++ [alert]) row = ((settled walked row).map fun other =>
      if other.pk = existing.pk then
        mergedFields (mergeAlert existing alert) other
      else other).filter fun other => other.pk != alert.pk := by
  obtain ⟨first, hfirst, hgroup, hexisting, -⟩ := canonicalOf_some hsome
  have hne : existing.pk ≠ alert.pk := fun heq =>
    h.not_mem (heq ▸ hexisting ▸ List.mem_map_of_mem hfirst)
  by_cases hpk : row.pk = alert.pk
  · obtain rfl : row = alert :=
      OpenTable.eq_of_pk_eq hrow (h.mem alert (by simp)) hpk
    rw [settled_of_not_mem h.not_mem, settled_of_mem (by simp),
      canonicalOf_append, if_pos rfl, hsome]
    simp [Option.filter_some, hne, hne.symm]
  by_cases hmem : row.pk ∈ walked.map LegacyAlert.pk
  · rw [settled_of_mem hmem, settled_of_mem (by simp [hmem]),
      canonicalOf_append]
    by_cases hsame : alert.groupKey = row.groupKey
    · rw [if_pos hsame, ← hsame, hsome]
      by_cases hother : existing.pk = row.pk
      · simp [Option.filter_some, hother, hpk]
      · simp [Option.filter_some, hother]
    · rw [if_neg hsame]
      have hapart : row.pk ≠ existing.pk := by
        intro heq
        have hrow' := OpenTable.eq_of_pk_eq hrow
          (h.front.mem first hfirst) (heq.trans hexisting)
        exact hsame (hrow' ▸ hgroup.symm)
      cases canonicalOf walked row.groupKey with
      | none => rfl
      | some other =>
          by_cases hother : other.pk = row.pk
          · simp [Option.filter_some, hother, hapart, hpk]
          · simp [Option.filter_some, hother]
  · have hapart : row.pk ≠ existing.pk := fun heq =>
      hmem (heq ▸ hexisting ▸ List.mem_map_of_mem hfirst)
    rw [settled_of_not_mem hmem, settled_of_not_mem (by simp [hmem, hpk])]
    simp [Option.filter_some, hpk, hapart]

theorem saveKey_rows (hrow : alert ∈ s.table.rows) :
    (if alert.alertKey ≠ alert.newKey then
      saveAlert s.table alert.pk _ (withKey_keeps alert.newKey)
      else s.table).rows = s.table.rows.map fun other =>
        if other.pk = alert.pk then other.withKey alert.newKey else other := by
  split
  · rfl
  · rename_i hkey
    have hsame : ∀ other ∈ s.table.rows, (if other.pk = alert.pk then
        other.withKey alert.newKey else other) = other := by
      intro other hmem
      split
      · rename_i hpk
        obtain rfl : other = alert := OpenTable.eq_of_pk_eq hmem hrow hpk
        rw [← not_not.mp hkey]
        rfl
      · rfl
    rw [List.map_congr_left hsame, List.map_id']

theorem get?_set_canonical (hs : Walked table walked s)
    {merged : LegacyAlert}
    (hmerged : canonicalOf (walked ++ [alert]) alert.groupKey = some merged)
    (group : Nat × String) :
    (s.canonical.set alert.groupKey merged).get? group =
      canonicalOf (walked ++ [alert]) group := by
  rw [Dict.get?_set]
  split
  · rename_i hgroup
    rw [hgroup, hmerged]
  · rename_i hgroup
    rw [canonicalOf_append, if_neg (Ne.symm hgroup), hs.canonical]

theorem walked_step (h : Walkable table (walked ++ [alert]))
    (hs : Walked table walked s) :
    Walked table (walked ++ [alert]) (normalizeAlert s alert) := by
  have hrow : alert ∈ table.rows := h.mem alert (by simp)
  cases hcanonical : canonicalOf walked alert.groupKey with
  | none =>
      have hget := (hs.canonical alert.groupKey).trans hcanonical
      have hstored : alert ∈ s.table.rows := by
        rw [hs.rows, List.mem_filterMap]
        exact ⟨alert, hrow, settled_of_not_mem h.not_mem⟩
      unfold normalizeAlert
      rw [hget]
      constructor
      · dsimp only
        rw [saveKey_rows hstored, hs.rows, List.map_filterMap]
        refine List.filterMap_congr fun row hmem => ?_
        exact (settled_first h hcanonical hmem).symm
      · exact get?_set_canonical hs (by
          rw [canonicalOf_append, if_pos rfl, hcanonical])
  | some existing =>
      have hget := (hs.canonical alert.groupKey).trans hcanonical
      unfold normalizeAlert
      rw [hget]
      constructor
      · dsimp only [deleteAlert, saveAlert]
        rw [OpenTable.filter_rows, OpenTable.update_rows, hs.rows,
          List.map_filterMap, List.filter_filterMap]
        refine List.filterMap_congr fun row hmem => ?_
        exact (settled_merged h hcanonical hmem).symm
      · exact get?_set_canonical hs (by
          rw [canonicalOf_append, if_pos rfl, hcanonical])

theorem walked_all (h : Walkable table (walked ++ todo))
    (hs : Walked table walked s) :
    Walked table (walked ++ todo) (todo.foldl normalizeAlert s) := by
  induction todo generalizing walked s with
  | nil => simpa using hs
  | cons alert todo ih =>
      rw [List.append_cons] at h ⊢
      exact ih h (walked_step h.front hs)

end Walk

/-! ## What the migration leaves -/

def pairAlerts (table : LegacyAlertTable) (instancePk : Nat)
    (blockedPid blockingPid : Int) : List LegacyAlert :=
  (activeLegacyAlerts table).filter fun alert =>
    alert.instancePk = instancePk ∧ alert.blockedPid = blockedPid ∧
      alert.blockingPid = blockingPid

def lastNonEmpty (texts : List String) : String :=
  (texts.filter fun text => text ≠ "").getLastD ""

/-- What one row has of the rows, from the oldest on, that it stands for. -/
structure Merged (members : List LegacyAlert) (row : LegacyAlert) : Prop where
  oldest : ∃ first ∈ members, row.pk = first.pk ∧
    row.firstSeenAt = first.firstSeenAt ∧
      ∀ other ∈ members, first.Before other
  alertKey : row.alertKey = pairKey row.blockedPid row.blockingPid
  lastSeenAt : (members.map LegacyAlert.lastSeenAt).max? = some row.lastSeenAt
  waitingSeconds :
    (members.map LegacyAlert.waitingSeconds).max? = some row.waitingSeconds
  observationCount :
    (members.map LegacyAlert.observationCount).max? = some row.observationCount
  alertedAt : earliestAlert (members.map LegacyAlert.alertedAt) = row.alertedAt
  blockedUser :
    lastNonEmpty (members.map LegacyAlert.blockedUser) = row.blockedUser
  blockingUser :
    lastNonEmpty (members.map LegacyAlert.blockingUser) = row.blockingUser
  blockedQuery :
    lastNonEmpty (members.map LegacyAlert.blockedQuery) = row.blockedQuery
  blockingQuery :
    lastNonEmpty (members.map LegacyAlert.blockingQuery) = row.blockingQuery

section Merging

variable (first : LegacyAlert) (rest : List LegacyAlert)

theorem mergeAll_max {α : Type} [Max α] (field : LegacyAlert → α)
    (h : ∀ existing alert, field (mergeAlert existing alert) =
      max (field existing) (field alert)) :
    ((first :: rest).map field).max? =
      some (field (rest.foldl mergeAlert first)) := by
  rw [List.map_cons, List.max?_cons']
  induction rest generalizing first with
  | nil => rfl
  | cons alert rest ih =>
      rw [List.map_cons, List.foldl_cons, ← h, List.foldl_cons]
      exact ih (mergeAlert first alert)

theorem earliestAlert_cons_cons (time time' : Option Time)
    (times : List (Option Time)) :
    earliestAlert (time :: time' :: times) =
      earliestAlert (earliestAlert [time, time'] :: times) := by
  cases time <;> cases time' <;> rfl

theorem mergeAll_alertedAt :
    earliestAlert ((first :: rest).map LegacyAlert.alertedAt) =
      (rest.foldl mergeAlert first).alertedAt := by
  induction rest generalizing first with
  | nil => cases h : first.alertedAt <;> simp [earliestAlert, h]
  | cons alert rest ih =>
      rw [List.map_cons, List.map_cons, earliestAlert_cons_cons]
      exact ih (mergeAlert first alert)

theorem lastNonEmpty_cons_cons (text text' : String) (texts : List String) :
    lastNonEmpty (text :: text' :: texts) =
      lastNonEmpty (laterText text text' :: texts) := by
  by_cases htext' : text' = "" <;> by_cases htext : text = "" <;>
    simp [lastNonEmpty, laterText, htext, htext']

theorem mergeAll_text (field : LegacyAlert → String)
    (h : ∀ existing alert, field (mergeAlert existing alert) =
      laterText (field existing) (field alert)) :
    lastNonEmpty ((first :: rest).map field) =
      field (rest.foldl mergeAlert first) := by
  induction rest generalizing first with
  | nil => by_cases hfirst : field first = "" <;> simp [lastNonEmpty, hfirst]
  | cons alert rest ih =>
      rw [List.map_cons, List.map_cons, lastNonEmpty_cons_cons, ← h]
      exact ih (mergeAlert first alert)

theorem merged_mergeAll
    (hsorted : (first :: rest).Pairwise LegacyAlert.Before) :
    Merged (first :: rest)
      (rest.foldl mergeAlert (first.withKey first.newKey)) where
  oldest := by
    refine ⟨first, List.mem_cons_self .., mergeAll_frame _ fun _ _ => rfl,
      mergeAll_frame _ fun _ _ => rfl, ?_⟩
    rintro other (_ | ⟨_, hmem⟩)
    · exact .inr ⟨rfl, le_refl _⟩
    · exact List.rel_of_pairwise_cons hsorted hmem
  alertKey := by
    have hkey : ∀ field : LegacyAlert → String,
        (∀ merged row, field (mergedFields merged row) = field row) →
        field (rest.foldl mergeAlert (first.withKey first.newKey)) =
          field (first.withKey first.newKey) := fun _ h => mergeAll_frame _ h
    exact (hkey LegacyAlert.alertKey fun _ _ => rfl).trans
      (hkey LegacyAlert.newKey fun _ _ => rfl).symm
  lastSeenAt := mergeAll_max (first.withKey first.newKey) rest
    LegacyAlert.lastSeenAt fun _ _ => rfl
  waitingSeconds := mergeAll_max (first.withKey first.newKey) rest
    LegacyAlert.waitingSeconds fun _ _ => rfl
  observationCount := mergeAll_max (first.withKey first.newKey) rest
    LegacyAlert.observationCount fun _ _ => rfl
  alertedAt := mergeAll_alertedAt (first.withKey first.newKey) rest
  blockedUser := mergeAll_text (first.withKey first.newKey) rest
    LegacyAlert.blockedUser fun _ _ => rfl
  blockingUser := mergeAll_text (first.withKey first.newKey) rest
    LegacyAlert.blockingUser fun _ _ => rfl
  blockedQuery := mergeAll_text (first.withKey first.newKey) rest
    LegacyAlert.blockedQuery fun _ _ => rfl
  blockingQuery := mergeAll_text (first.withKey first.newKey) rest
    LegacyAlert.blockingQuery fun _ _ => rfl

end Merging

section Normalized

variable {table : LegacyAlertTable} {alert row : LegacyAlert}

theorem mem_activeLegacyAlerts :
    alert ∈ activeLegacyAlerts table ↔
      alert ∈ table.rows ∧ alert.isActive = true := by
  rw [activeLegacyAlerts, (List.perm_insertionSort _ _).mem_iff,
    List.mem_filter]

theorem walkable_active (table : LegacyAlertTable) :
    Walkable table (activeLegacyAlerts table) where
  mem _ hmem := (mem_activeLegacyAlerts.mp hmem).1
  nodup := ((List.perm_insertionSort _ _).map _).nodup_iff.mpr
    (table.pk_nodup.sublist (List.filter_sublist.map _))

theorem normalized_rows (table : LegacyAlertTable) :
    (normalizeActiveAlertKeys table).rows =
      table.rows.filterMap (settled (activeLegacyAlerts table)) := by
  have hstart : Walked table [] ⟨table, .empty⟩ := by
    refine ⟨?_, fun group => rfl⟩
    exact List.filterMap_some.symm
  exact (walked_all (walkable_active table) hstart).rows

theorem mem_active_pks (hrow : row ∈ table.rows) :
    row.pk ∈ (activeLegacyAlerts table).map LegacyAlert.pk ↔
      row.isActive = true := by
  constructor
  · intro hpk
    have hmem := (walkable_active table).mem_of_pk hrow hpk
    exact (mem_activeLegacyAlerts.mp hmem).2
  · intro hactive
    exact List.mem_map_of_mem (mem_activeLegacyAlerts.mpr ⟨hrow, hactive⟩)

theorem canonicalOf_isActive {group : Nat × String}
    (h : canonicalOf (activeLegacyAlerts table) group = some alert) :
    alert.isActive = true := by
  obtain ⟨first, hfirst, -, -, -, -, hresolved⟩ := canonicalOf_some h
  have hactive := (mem_activeLegacyAlerts.mp hfirst).2
  rwa [LegacyAlert.isActive, hresolved]

theorem mem_normalized_active (hactive : alert.isActive = true) :
    alert ∈ (normalizeActiveAlertKeys table).rows ↔
      canonicalOf (activeLegacyAlerts table) alert.groupKey = some alert := by
  rw [normalized_rows, List.mem_filterMap]
  constructor
  · rintro ⟨row, hrow, hsettled⟩
    by_cases hmem : row.pk ∈ (activeLegacyAlerts table).map LegacyAlert.pk
    · rw [settled_of_mem hmem, Option.filter_eq_some_iff] at hsettled
      obtain ⟨-, -, -, -, hgroup, -⟩ := canonicalOf_some hsettled.1
      rw [hgroup]
      exact hsettled.1
    · rw [settled_of_not_mem hmem] at hsettled
      obtain rfl := Option.some.inj hsettled
      exact absurd ((mem_active_pks hrow).mpr hactive) hmem
  · intro hcanonical
    obtain ⟨first, hfirst, hgroup, hpk, -⟩ := canonicalOf_some hcanonical
    refine ⟨first, (mem_activeLegacyAlerts.mp hfirst).1, ?_⟩
    rw [settled_of_mem (List.mem_map_of_mem hfirst), hgroup, hcanonical]
    simp [Option.filter_some, hpk]

theorem normalized_resolved (table : LegacyAlertTable) :
    ((normalizeActiveAlertKeys table).rows.filter fun row => !row.isActive) =
      table.rows.filter fun row => !row.isActive := by
  rw [normalized_rows, List.filter_filterMap, ← List.filterMap_eq_filter]
  refine List.filterMap_congr fun row hrow => ?_
  cases hactive : row.isActive with
  | false =>
      have hmem := mt (mem_active_pks hrow).mp (by simp [hactive])
      simp [settled_of_not_mem hmem, Option.filter_some, Option.guard, hactive]
  | true =>
      rw [settled_of_mem ((mem_active_pks hrow).mpr hactive)]
      cases hcanonical :
          canonicalOf (activeLegacyAlerts table) row.groupKey with
      | none => simp [Option.guard, hactive]
      | some other =>
          simp [Option.filter_some, Option.guard, hactive,
            canonicalOf_isActive hcanonical]

theorem normalized_unique (table : LegacyAlertTable) :
    (((normalizeActiveAlertKeys table).rows.filter LegacyAlert.isActive).map
      fun row => (row.instancePk, row.alertKey)).Nodup := by
  have hnodup : ((normalizeActiveAlertKeys table).rows.filter
      LegacyAlert.isActive).Nodup :=
    (List.Nodup.of_map _ (normalizeActiveAlertKeys table).pk_nodup).filter _
  refine List.Nodup.map_on ?_ hnodup
  intro row hrow other hother heq
  obtain ⟨hrow, hactive⟩ := List.mem_filter.mp hrow
  obtain ⟨hother, hactive'⟩ := List.mem_filter.mp hother
  have hcanonical := (mem_normalized_active hactive).mp hrow
  have hcanonical' := (mem_normalized_active hactive').mp hother
  obtain ⟨-, -, -, -, -, hkey, -⟩ := canonicalOf_some hcanonical
  obtain ⟨-, -, -, -, -, hkey', -⟩ := canonicalOf_some hcanonical'
  have hgroup : row.groupKey = other.groupKey := by
    rw [hkey, hkey'] at heq
    exact heq
  rw [hgroup, hcanonical'] at hcanonical
  exact (Option.some.inj hcanonical).symm

theorem groupKey_eq_iff {instancePk : Nat} {blockedPid blockingPid : Int} :
    alert.groupKey = (instancePk, pairKey blockedPid blockingPid) ↔
      alert.instancePk = instancePk ∧ alert.blockedPid = blockedPid ∧
        alert.blockingPid = blockingPid := by
  simp only [LegacyAlert.groupKey, LegacyAlert.newKey, Prod.mk.injEq]
  constructor
  · rintro ⟨hinstance, hkey⟩
    exact ⟨hinstance, pairKey_inj hkey⟩
  · rintro ⟨hinstance, rfl, rfl⟩
    exact ⟨hinstance, rfl⟩

theorem pairAlerts_pairwise (table : LegacyAlertTable) (instancePk : Nat)
    (blockedPid blockingPid : Int) :
    (pairAlerts table instancePk blockedPid blockingPid).Pairwise
      LegacyAlert.Before :=
  (List.pairwise_insertionSort _ _).sublist List.filter_sublist

theorem canonicalOf_pair {instancePk : Nat} {blockedPid blockingPid : Int}
    (h : pairAlerts table instancePk blockedPid blockingPid ≠ []) :
    ∃ row, canonicalOf (activeLegacyAlerts table)
        (instancePk, pairKey blockedPid blockingPid) = some row ∧
      Merged (pairAlerts table instancePk blockedPid blockingPid) row := by
  have hmembers : ((activeLegacyAlerts table).filter fun alert =>
      alert.groupKey = (instancePk, pairKey blockedPid blockingPid)) =
        pairAlerts table instancePk blockedPid blockingPid := by
    simp only [pairAlerts, groupKey_eq_iff]
  obtain ⟨first, rest, hcons⟩ := List.exists_cons_of_ne_nil h
  refine ⟨rest.foldl mergeAlert (first.withKey first.newKey), ?_, ?_⟩
  · rw [canonicalOf, hmembers, hcons]
  · have hsorted := pairAlerts_pairwise table instancePk blockedPid blockingPid
    rw [hcons] at hsorted ⊢
    exact merged_mergeAll first rest hsorted

end Normalized

theorem active_alerts_normalized (table : LegacyAlertTable) :
    (∀ instancePk blockedPid blockingPid,
      pairAlerts table instancePk blockedPid blockingPid ≠ [] →
      ∃ row, pairAlerts (normalizeActiveAlertKeys table) instancePk blockedPid
          blockingPid = [row] ∧
        Merged (pairAlerts table instancePk blockedPid blockingPid) row) ∧
    ((normalizeActiveAlertKeys table).rows.filter fun row => !row.isActive) =
      table.rows.filter (fun row => !row.isActive) ∧
    (((normalizeActiveAlertKeys table).rows.filter LegacyAlert.isActive).map
      fun row => (row.instancePk, row.alertKey)).Nodup := by
  refine ⟨?_, normalized_resolved table, normalized_unique table⟩
  intro instancePk blockedPid blockingPid hne
  obtain ⟨row, hcanonical, hmerged⟩ := canonicalOf_pair hne
  refine ⟨row, ?_, hmerged⟩
  obtain ⟨-, -, -, -, hgroup, -⟩ := canonicalOf_some hcanonical
  have hnodup : (pairAlerts (normalizeActiveAlertKeys table) instancePk
      blockedPid blockingPid).Nodup :=
    (List.Nodup.of_map _ (walkable_active _).nodup).filter _
  have hmem : ∀ other, other ∈ pairAlerts (normalizeActiveAlertKeys table)
      instancePk blockedPid blockingPid ↔ other ∈ [row] := by
    intro other
    rw [pairAlerts, List.mem_filter, mem_activeLegacyAlerts, decide_eq_true_iff,
      ← groupKey_eq_iff, List.mem_singleton]
    constructor
    · rintro ⟨⟨hrow, hactive⟩, hother⟩
      rw [mem_normalized_active hactive, hother, hcanonical] at hrow
      exact (Option.some.inj hrow).symm
    · rintro rfl
      have hactive := canonicalOf_isActive hcanonical
      rw [mem_normalized_active hactive, hgroup]
      exact ⟨⟨hcanonical, hactive⟩, rfl⟩
  exact List.perm_singleton.mp ((List.perm_ext_iff_of_nodup hnodup
    (List.nodup_singleton row)).mpr hmem)

/-! ## Two alerts for one pair, the newer one stored first -/

def legacyAlert (pk : Nat) (firstSeenAt : Time) (blockedUser : String)
    (alertedAt : Option Time) : LegacyAlert where
  pk := pk
  instancePk := 1
  alertKey := "7:8:started"
  blockedPid := 7
  blockingPid := 8
  blockedUser := blockedUser
  blockingUser := ""
  blockedQuery := ""
  blockingQuery := ""
  waitingSeconds := 10 * pk
  observationCount := 1
  firstSeenAt := firstSeenAt
  lastSeenAt := firstSeenAt
  alertedAt := alertedAt
  resolvedAt := none

def legacyAlerts : LegacyAlertTable where
  rows := [legacyAlert 1 60 "" (some 70), legacyAlert 2 0 "app" none]
  nextPk := 3
  pk_lt := by decide
  pk_nodup := by decide
  unique_open := by decide

theorem legacy_alerts_merged :
    ∃ row, pairAlerts (normalizeActiveAlertKeys legacyAlerts) 1 7 8 = [row] ∧
      row.blockedUser = "app" ∧ some row.lastSeenAt = some 60 := by
  obtain ⟨row, hrow, hmerged⟩ :=
    (active_alerts_normalized legacyAlerts).1 1 7 8 (by decide)
  exact ⟨row, hrow, hmerged.blockedUser.symm, hmerged.lastSeenAt.symm⟩

end HealthGrid.Monitor
