import HealthGrid.Foundation.Intervals
import HealthGrid.Monitor.LockAlerts

/-!
# What one snapshot does to the incidents of a pair

The rows that ever stood for a pair are its history.  Storing a row touches
the history of its own pair only, resolving touches the pairs that are gone,
and seen as an interval of sightings the history takes one observation.
-/

namespace HealthGrid.Monitor

open HealthGrid.Foundation HealthGrid.Db

/-! ## Keys of rows -/

private theorem mem_strPid {c : Char} {pid : Option Int}
    (h : c ∈ (strPid pid).toList) :
    c = '-' ∨ c.isDigit = true ∨ c ∈ "None".toList := by
  cases pid with
  | none => exact .inr (.inr h)
  | some pid =>
      rcases PyText.mem_toString_int h with hsign | hdigit
      · exact .inl hsign
      · exact .inr (.inl hdigit)

theorem colon_not_mem_strPid (pid : Option Int) :
    ':' ∉ (strPid pid).toList := by
  intro h
  rcases mem_strPid h with h | h | h <;> revert h <;> decide

private theorem strPid_inj {pid pid' : Option Int}
    (h : strPid pid = strPid pid') : pid = pid' := by
  have hnone : ∀ n : Int, strPid none ≠ strPid (some n) := by
    intro n heq
    refine PyText.not_mem_toString_int (c := 'N') (by decide) (by decide) n ?_
    change 'N' ∈ (strPid (some n)).toList
    rw [← heq]
    decide
  cases pid with
  | none =>
      cases pid' with
      | none => rfl
      | some n => exact absurd h (hnone n)
  | some n =>
      cases pid' with
      | none => exact absurd h.symm (hnone n)
      | some n' => rw [PyText.toString_int_inj h]

theorem lockKey_eq_pairKey {row : LockRow} {blockedPid blockingPid : Int} :
    lockKey row = pairKey blockedPid blockingPid ↔
      row.blockedPid = some blockedPid ∧
        row.blockingPid = some blockingPid := by
  constructor
  · intro h
    have hchars := congrArg String.toList h
    rw [show pairKey blockedPid blockingPid =
      strPid (some blockedPid) ++ ":" ++ strPid (some blockingPid) from rfl,
      lockKey] at hchars
    simp only [String.toList_append, List.append_assoc] at hchars
    rw [show ":".toList = [':'] from rfl, List.singleton_append,
      List.singleton_append, List.append_cons_inj_of_notMem
        (colon_not_mem_strPid _) (colon_not_mem_strPid _)] at hchars
    obtain ⟨hblocked, -, hblocking⟩ := hchars
    exact ⟨strPid_inj (String.toList_inj.mp hblocked),
      strPid_inj (String.toList_inj.mp hblocking)⟩
  · rintro ⟨hblocked, hblocking⟩
    rw [lockKey, hblocked, hblocking]
    rfl

private theorem uniqueBlocking_append (blocking : List LockRow)
    (row : LockRow) :
    uniqueBlocking (blocking ++ [row]) = uniqueBlocking blocking ∨
      uniqueBlocking (blocking ++ [row]) =
        (uniqueBlocking blocking).set (lockKey row) row := by
  unfold uniqueBlocking
  rw [List.foldl_append, List.foldl_cons, List.foldl_nil]
  split
  · exact .inr rfl
  · split
    · exact .inr rfl
    · exact .inl rfl

theorem mem_uniqueBlocking {blocking : List LockRow} {key : String}
    {row : LockRow} (h : (key, row) ∈ (uniqueBlocking blocking).entries) :
    row ∈ blocking ∧ lockKey row = key := by
  induction blocking using List.reverseRecOn with
  | nil => cases h
  | append_singleton blocking last ih =>
      have hold : (key, row) ∈ (uniqueBlocking blocking).entries →
          row ∈ blocking ++ [last] ∧ lockKey row = key := by
        intro hmem
        obtain ⟨hrow, hkey⟩ := ih hmem
        exact ⟨List.mem_append_left _ hrow, hkey⟩
      rcases uniqueBlocking_append blocking last with heq | heq
      · rw [heq] at h
        exact hold h
      · rw [heq] at h
        rcases Dict.mem_entries_set.mp h with hnew | ⟨hmem, -⟩
        · cases hnew
          exact ⟨by simp, rfl⟩
        · exact hold hmem

theorem mem_keys_uniqueBlocking {blocking : List LockRow} {key : String} :
    key ∈ (uniqueBlocking blocking).keys ↔
      ∃ row ∈ blocking, lockKey row = key := by
  constructor
  · intro h
    obtain ⟨⟨key, row⟩, hmem, rfl⟩ := List.mem_map.mp h
    exact ⟨row, mem_uniqueBlocking hmem⟩
  · induction blocking using List.reverseRecOn with
    | nil => simp
    | append_singleton blocking last ih =>
        rintro ⟨row, hmem, rfl⟩
        rw [List.mem_append, List.mem_singleton] at hmem
        have hset : (uniqueBlocking (blocking ++ [last])).keys ⊇
            (uniqueBlocking blocking).keys := by
          intro key hkey
          rcases uniqueBlocking_append blocking last with heq | heq <;>
            simp [heq, hkey]
        rcases hmem with hmem | rfl
        · exact hset (ih ⟨row, hmem, rfl⟩)
        · by_cases hnew : lockKey row ∈ (uniqueBlocking blocking).keys
          · exact hset hnew
          · have hget := Dict.get?_eq_none_iff.mpr hnew
            have heq : uniqueBlocking (blocking ++ [row]) =
                (uniqueBlocking blocking).set (lockKey row) row := by
              unfold uniqueBlocking at hget ⊢
              rw [List.foldl_append, List.foldl_cons, List.foldl_nil, hget]
            simp [heq]

def Shows (blocking : List LockRow) (blockedPid blockingPid : Int) : Prop :=
  ∃ row ∈ blocking, row.blockedPid = some blockedPid ∧
    row.blockingPid = some blockingPid

instance (blocking : List LockRow) (blockedPid blockingPid : Int) :
    Decidable (Shows blocking blockedPid blockingPid) :=
  inferInstanceAs (Decidable (∃ row ∈ blocking, _))

theorem pairKey_mem_seenKeys {blocking : List LockRow}
    {blockedPid blockingPid : Int} :
    pairKey blockedPid blockingPid ∈ (uniqueBlocking blocking).keys ↔
      Shows blocking blockedPid blockingPid := by
  rw [mem_keys_uniqueBlocking]
  simp only [lockKey_eq_pairKey, Shows]

/-! ## Storing rows -/

def showRow (instancePk threshold : Nat) (now : Time)
    (blockedPid blockingPid : Int) (row : LockRow) (pk : Nat)
    (alerts : List LockAlert) : List LockAlert :=
  if alerts.any isOpen then
    alerts.map fun alert =>
      if isOpen alert then markAlerted threshold now (seenAgain row now alert)
      else alert
  else
    alerts ++ [markAlerted threshold now
      (newLockAlert instancePk pk blockedPid blockingPid row now)]

section Store

variable {instancePk threshold : Nat} {now : Time} {table : LockAlertTable}
  {blockedPid blockingPid : Int} {row : LockRow}

theorem storeLockRow_history_self :
    ∃ pk, (storeLockRow instancePk threshold now table blockedPid blockingPid
        row).history (instancePk, pairKey blockedPid blockingPid) =
      showRow instancePk threshold now blockedPid blockingPid row pk
        (table.history (instancePk, pairKey blockedPid blockingPid)) := by
  refine ⟨table.nextPk, ?_⟩
  unfold storeLockRow showRow
  rw [OpenTable.any_open_history]
  split
  · rename_i hfind
    rw [OpenTable.history_insert, if_pos (key_newLockAlert ..), hfind]
    rfl
  · rename_i found hfind
    rw [OpenTable.history_update, hfind, Option.isSome_some, if_pos rfl]
    apply List.map_congr_left
    intro alert hmem
    have hiff := OpenTable.pk_eq_iff_open hfind hmem
    exact if_congr hiff rfl rfl

theorem storeLockRow_history_ne {key : Nat × String}
    (hne : key ≠ (instancePk, pairKey blockedPid blockingPid)) :
    (storeLockRow instancePk threshold now table blockedPid blockingPid
      row).history key = table.history key := by
  unfold storeLockRow
  split
  · rw [OpenTable.history_insert, if_neg]
    rw [key_newLockAlert]
    exact fun h => hne h.symm
  · rename_i found hfind
    rw [OpenTable.history_update]
    conv_rhs => rw [← List.map_id (table.history key)]
    apply List.map_congr_left
    intro alert hmem
    have hpk := OpenTable.pk_ne_of_key_ne hfind hmem hne
    exact if_neg hpk

def Storable (app : AppDatabase) (row : LockRow) : Prop :=
  row.blockedPid.isSome ∧ row.blockingPid.isSome ∧
    app.acceptsLockRow row = true

instance (app : AppDatabase) : DecidablePred (Storable app) :=
  fun _ => inferInstanceAs (Decidable (_ ∧ _ ∧ _))

theorem upsertLockAlert_storable {app : AppDatabase} :
    (∃ table', upsertLockAlert app instancePk threshold now table row =
      .ok table') ↔ Storable app row := by
  constructor
  · rintro ⟨table', h⟩
    obtain ⟨_, _, hblocked, hblocking, haccepts, -⟩ := upsertLockAlert_ok h
    exact ⟨by simp [hblocked], by simp [hblocking], haccepts⟩
  · rintro ⟨hblocked, hblocking, haccepts⟩
    obtain ⟨blockedPid, hblocked⟩ := Option.isSome_iff_exists.mp hblocked
    obtain ⟨blockingPid, hblocking⟩ := Option.isSome_iff_exists.mp hblocking
    unfold upsertLockAlert
    rw [hblocked, hblocking]
    exact ⟨_, if_pos haccepts⟩

end Store

theorem upsertLockAlerts_storable {app : AppDatabase}
    {instancePk threshold : Nat} {now : Time} {table : LockAlertTable}
    {rows : List LockRow} :
    (∃ table', upsertLockAlerts app instancePk threshold now table rows =
      .ok table') ↔ ∀ row ∈ rows, Storable app row := by
  induction rows generalizing table with
  | nil => exact iff_of_true ⟨table, rfl⟩ (by simp)
  | cons row rows ih =>
      rw [List.forall_mem_cons]
      constructor
      · rintro ⟨table', h⟩
        obtain ⟨middle, hrow, hrest⟩ := upsertLockAlerts_cons h
        exact ⟨upsertLockAlert_storable.mp ⟨middle, hrow⟩,
          ih.mp ⟨table', hrest⟩⟩
      · rintro ⟨hrow, hrest⟩
        obtain ⟨middle, hmiddle⟩ := upsertLockAlert_storable.mpr hrow
        obtain ⟨table', htable⟩ := ih.mpr hrest
        refine ⟨table', ?_⟩
        unfold upsertLockAlerts
        rw [List.foldlM_cons, hmiddle]
        exact htable

theorem upsertLockAlerts_history_ne {app : AppDatabase}
    {instancePk threshold : Nat} {now : Time} {table table' : LockAlertTable}
    {rows : List LockRow} {key : Nat × String}
    (h : upsertLockAlerts app instancePk threshold now table rows = .ok table')
    (hkey : ∀ row ∈ rows, key ≠ (instancePk, lockKey row)) :
    table'.history key = table.history key := by
  induction rows generalizing table with
  | nil =>
      cases h
      rfl
  | cons row rows ih =>
      rw [List.forall_mem_cons] at hkey
      obtain ⟨middle, hrow, hrest⟩ := upsertLockAlerts_cons h
      obtain ⟨blockedPid, blockingPid, hblocked, hblocking, -, rfl⟩ :=
        upsertLockAlert_ok hrow
      rw [ih hrest hkey.2]
      apply storeLockRow_history_ne
      rw [← lockKey_eq_pairKey.mpr ⟨hblocked, hblocking⟩]
      exact hkey.1

theorem upsertLockAlerts_history {app : AppDatabase}
    {instancePk threshold : Nat} {now : Time} {table table' : LockAlertTable}
    {rows : List LockRow} {row : LockRow} {blockedPid blockingPid : Int}
    (h : upsertLockAlerts app instancePk threshold now table rows = .ok table')
    (hnodup : (rows.map lockKey).Nodup) (hmem : row ∈ rows)
    (hkey : lockKey row = pairKey blockedPid blockingPid) :
    ∃ pk, table'.history (instancePk, pairKey blockedPid blockingPid) =
      showRow instancePk threshold now blockedPid blockingPid row pk
        (table.history (instancePk, pairKey blockedPid blockingPid)) := by
  induction rows generalizing table with
  | nil => cases hmem
  | cons first rows ih =>
      rw [List.map_cons, List.nodup_cons] at hnodup
      obtain ⟨middle, hfirst, hrest⟩ := upsertLockAlerts_cons h
      obtain ⟨blockedPid', blockingPid', hblocked, hblocking, -, rfl⟩ :=
        upsertLockAlert_ok hfirst
      have hfirstKey : lockKey first = pairKey blockedPid' blockingPid' :=
        lockKey_eq_pairKey.mpr ⟨hblocked, hblocking⟩
      rw [List.mem_cons] at hmem
      rcases hmem with rfl | hmem
      · obtain ⟨rfl, rfl⟩ := pairKey_inj (hkey.symm.trans hfirstKey)
        rw [upsertLockAlerts_history_ne hrest]
        · exact storeLockRow_history_self
        · intro other hother heq
          refine hnodup.1 (List.mem_map.mpr ⟨other, hother, ?_⟩)
          rw [hkey]
          exact (Prod.mk.inj heq).2.symm
      · have hne : (instancePk, pairKey blockedPid blockingPid) ≠
            (instancePk, pairKey blockedPid' blockingPid') := by
          intro heq
          refine hnodup.1 (List.mem_map.mpr ⟨row, hmem, ?_⟩)
          rw [hkey, hfirstKey]
          exact (Prod.mk.inj heq).2
        obtain ⟨pk, hpk⟩ := ih hrest hnodup.2 hmem
        exact ⟨pk, by rw [hpk, storeLockRow_history_ne hne]⟩

/-! ## Rows that storing leaves alone -/

theorem storeLockRow_filter {instancePk threshold : Nat} {now : Time}
    {table : LockAlertTable} {blockedPid blockingPid : Int} {row : LockRow}
    {p : LockAlert → Bool}
    (hp : ∀ alert : LockAlert, isOpen alert = true →
      key alert = (instancePk, pairKey blockedPid blockingPid) →
        p alert = false) :
    (storeLockRow instancePk threshold now table blockedPid blockingPid
      row).rows.filter p = table.rows.filter p := by
  unfold storeLockRow
  split
  · have hnew : p (markAlerted threshold now (newLockAlert instancePk
        table.nextPk blockedPid blockingPid row now)) = false := by
      apply hp
      · rw [isOpen_markAlerted]
        rfl
      · exact key_newLockAlert ..
    rw [OpenTable.insert_rows, List.filter_append]
    simp [hnew]
  · rename_i found hfind
    obtain ⟨hfound, hopen, hkey⟩ := OpenTable.findOpen?_spec hfind
    rw [OpenTable.update_rows]
    apply filter_map_of_same
    intro alert hmem
    by_cases hpk : alert.pk = found.pk
    · obtain rfl := OpenTable.eq_of_pk_eq hmem hfound hpk
      right
      rw [if_pos rfl]
      refine ⟨hp alert hopen hkey, hp _ ?_ ?_⟩
      · rw [isOpen_markAlerted]
        exact hopen
      · rw [(markAlerted_keeps threshold now).key, (seenAgain_keeps row now).key]
        exact hkey
    · exact .inl (if_neg hpk)

theorem upsertLockAlerts_filter {app : AppDatabase}
    {instancePk threshold : Nat} {now : Time} {table table' : LockAlertTable}
    {rows : List LockRow} {p : LockAlert → Bool}
    (h : upsertLockAlerts app instancePk threshold now table rows = .ok table')
    (hp : ∀ alert : LockAlert, isOpen alert = true → alert.instancePk =
      instancePk → alert.alertKey ∈ rows.map lockKey → p alert = false) :
    table'.rows.filter p = table.rows.filter p := by
  induction rows generalizing table with
  | nil =>
      cases h
      rfl
  | cons row rows ih =>
      obtain ⟨middle, hrow, hrest⟩ := upsertLockAlerts_cons h
      obtain ⟨blockedPid, blockingPid, hblocked, hblocking, -, rfl⟩ :=
        upsertLockAlert_ok hrow
      rw [ih hrest]
      · apply storeLockRow_filter
        intro alert hopen hkey
        obtain ⟨hinstance, halertKey⟩ := Prod.mk.inj hkey
        refine hp alert hopen hinstance ?_
        rw [List.map_cons, lockKey_eq_pairKey.mpr ⟨hblocked, hblocking⟩]
        exact halertKey ▸ List.mem_cons_self ..
      · intro alert hopen hinstance hmem
        exact hp alert hopen hinstance (List.mem_cons_of_mem _ hmem)

/-! ## Incidents that are active or eligible -/

theorem mem_activeAlerts {instancePk : Nat} {table : LockAlertTable}
    {alert : LockAlert} :
    alert ∈ activeAlerts instancePk table ↔
      alert ∈ table.rows ∧ alert.instancePk = instancePk ∧
        alert.resolvedAt = none := by
  unfold activeAlerts orderByPids
  rw [List.mem_insertionSort, List.mem_filter, Bool.and_eq_true, beq_iff_eq,
    Option.isNone_iff_eq_none]

theorem mem_eligibleAlerts {instancePk : Nat} {table : LockAlertTable}
    {alert : LockAlert} :
    alert ∈ eligibleAlerts instancePk table ↔
      alert ∈ activeAlerts instancePk table ∧ alert.alertedAt ≠ none := by
  rw [mem_activeAlerts]
  unfold eligibleAlerts orderByPids
  rw [List.mem_insertionSort, List.mem_filter, Bool.and_eq_true,
    Bool.and_eq_true, beq_iff_eq, Option.isNone_iff_eq_none,
    ← Option.ne_none_iff_isSome, and_assoc, and_assoc, and_assoc]

theorem eligibleAlerts_of_active_nil {instancePk : Nat}
    {table : LockAlertTable} (h : activeAlerts instancePk table = []) :
    eligibleAlerts instancePk table = [] := by
  rw [List.eq_nil_iff_forall_not_mem] at h ⊢
  intro alert hmem
  exact h alert (mem_eligibleAlerts.mp hmem).1

/-! ## Sightings -/

def sighting (alert : LockAlert) : Period Time :=
  ⟨alert.firstSeenAt, alert.lastSeenAt, alert.resolvedAt⟩

@[simp] theorem isOpen_sighting (alert : LockAlert) :
    (sighting alert).isOpen = isOpen alert := rfl

theorem sighting_markAlerted (threshold : Nat) (now : Time)
    (alert : LockAlert) :
    sighting (markAlerted threshold now alert) = sighting alert := by
  rw [markAlerted_eq]
  rfl

theorem any_open_sightings (alerts : List LockAlert) :
    (alerts.map sighting).any Period.isOpen = alerts.any isOpen := by
  rw [List.any_map]
  rfl

theorem sightings_showRow (instancePk threshold : Nat) (now : Time)
    (blockedPid blockingPid : Int) (row : LockRow) (pk : Nat)
    (alerts : List LockAlert) :
    (showRow instancePk threshold now blockedPid blockingPid row pk
      alerts).map sighting = observe (alerts.map sighting) (now, true) := by
  unfold showRow observe
  rw [any_open_sightings, if_pos rfl]
  split
  · rw [List.map_map, List.map_map]
    apply List.map_congr_left
    intro alert _
    dsimp only [Function.comp]
    rw [isOpen_sighting]
    split
    · rw [sighting_markAlerted]
      rfl
    · rfl
  · rw [List.map_append, List.map_singleton, sighting_markAlerted]
    rfl

theorem stale_iff {instancePk : Nat} {seenKeys : List String}
    {table : LockAlertTable} {key : String} {alert : LockAlert}
    (hmem : alert ∈ table.history (instancePk, key)) :
    Stale instancePk seenKeys alert ↔ isOpen alert = true ∧ key ∉ seenKeys := by
  obtain ⟨-, hkey⟩ := OpenTable.mem_history.mp hmem
  obtain ⟨hinstance, rfl⟩ := Prod.mk.inj hkey
  change alert.instancePk = instancePk ∧ _ ∧ _ ↔
    alert.resolvedAt.isNone = true ∧ _
  rw [Option.isNone_iff_eq_none]
  exact ⟨fun h => h.2, fun h => ⟨hinstance, h⟩⟩

theorem resolveStale_history_seen {instancePk : Nat} {seenKeys : List String}
    {table : LockAlertTable} {key : String} (now : Time)
    (hseen : key ∈ seenKeys) :
    (resolveStale instancePk seenKeys now table).history (instancePk, key) =
      table.history (instancePk, key) := by
  unfold resolveStale
  rw [OpenTable.history_update]
  conv_rhs => rw [← List.map_id (table.history (instancePk, key))]
  apply List.map_congr_left
  intro alert hmem
  refine if_neg ?_
  rw [stale_iff hmem]
  exact fun h => h.2 hseen

theorem sightings_resolveStale (instancePk : Nat) (seenKeys : List String)
    (now : Time) (table : LockAlertTable) (key : String) :
    ((resolveStale instancePk seenKeys now table).history
        (instancePk, key)).map sighting =
      if key ∈ seenKeys then (table.history (instancePk, key)).map sighting
      else observe ((table.history (instancePk, key)).map sighting)
        (now, false) := by
  split
  · rename_i hseen
    rw [resolveStale_history_seen now hseen]
  · rename_i hunseen
    unfold resolveStale observe
    rw [OpenTable.history_update, if_neg Bool.false_ne_true, List.map_map,
      List.map_map]
    apply List.map_congr_left
    intro alert hmem
    dsimp only [Function.comp]
    have hiff : Stale instancePk seenKeys alert ↔ isOpen alert = true :=
      (stale_iff hmem).trans (and_iff_left hunseen)
    rw [isOpen_sighting, if_congr hiff rfl rfl]
    split <;> rfl

end HealthGrid.Monitor
