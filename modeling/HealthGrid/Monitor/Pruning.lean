import HealthGrid.Monitor.Cycle

/-!
# Cycles on pruned tables

A cycle reads and writes open rows only, so it does the same on a table from
which closed rows were deleted.
-/

namespace HealthGrid.Monitor

open HealthGrid.Foundation HealthGrid.Db

/-! ## Lock incidents -/

section LockAlerts

variable {table stored : LockAlertTable} {pks : List Nat}
  (app : AppDatabase) (instancePk threshold : Nat) (now : Time)
  (seenKeys : List String)

theorem storeLockRow_without (h : table.Droppable pks)
    (blockedPid blockingPid : Int) (row : LockRow) :
    storeLockRow instancePk threshold now (table.without pks) blockedPid
        blockingPid row =
      (storeLockRow instancePk threshold now table blockedPid blockingPid
        row).without pks := by
  have hfind := OpenTable.findOpen?_without h
    (instancePk, pairKey blockedPid blockingPid)
  unfold storeLockRow
  split <;> split
  · exact OpenTable.without_insert _ _ _ h
  · simp_all
  · simp_all
  · rename_i found hfound found' hfound'
    rw [hfind, hfound', Option.some.injEq] at hfound
    subst hfound
    exact OpenTable.without_update ..

theorem storeLockRow_droppable (h : table.Droppable pks)
    (blockedPid blockingPid : Int) (row : LockRow) :
    (storeLockRow instancePk threshold now table blockedPid blockingPid
      row).Droppable pks := by
  unfold storeLockRow
  split
  · exact OpenTable.droppable_insert h ..
  · exact OpenTable.droppable_update h _

theorem upsertLockAlert_without (h : table.Droppable pks) (row : LockRow) :
    upsertLockAlert app instancePk threshold now (table.without pks) row =
      (upsertLockAlert app instancePk threshold now table row).map
        (OpenTable.without · pks) := by
  unfold upsertLockAlert
  split
  · split
    · rw [storeLockRow_without _ _ _ h]
      rfl
    · rfl
  · rfl

theorem upsertLockAlert_droppable (h : table.Droppable pks) {row : LockRow}
    (hstore : upsertLockAlert app instancePk threshold now table row =
      .ok stored) : stored.Droppable pks := by
  obtain ⟨_, _, -, -, -, rfl⟩ := upsertLockAlert_ok hstore
  exact storeLockRow_droppable _ _ _ h ..

theorem upsertLockAlerts_without (h : table.Droppable pks)
    (rows : List LockRow) :
    upsertLockAlerts app instancePk threshold now (table.without pks) rows =
      (upsertLockAlerts app instancePk threshold now table rows).map
        (OpenTable.without · pks) := by
  unfold upsertLockAlerts
  induction rows generalizing table with
  | nil => rfl
  | cons row rows ih =>
      rw [List.foldlM_cons, List.foldlM_cons, upsertLockAlert_without _ _ _ _ h]
      cases hstore : upsertLockAlert app instancePk threshold now table row with
      | error e => rfl
      | ok stored => exact ih (upsertLockAlert_droppable _ _ _ _ h hstore)

theorem upsertLockAlerts_droppable (h : table.Droppable pks)
    {rows : List LockRow}
    (hstore : upsertLockAlerts app instancePk threshold now table rows =
      .ok stored) : stored.Droppable pks := by
  refine upsertLockAlerts_preserves (P := (OpenTable.Droppable · pks)) ?_
    hstore h
  intro table blockedPid blockingPid row h
  exact storeLockRow_droppable _ _ _ h ..

theorem resolveStale_without :
    resolveStale instancePk seenKeys now (table.without pks) =
      (resolveStale instancePk seenKeys now table).without pks :=
  OpenTable.without_update ..

theorem not_mem_of_open (h : table.Droppable pks) {alert : LockAlert}
    (hmem : alert ∈ table.rows) (hopen : alert.resolvedAt = none) :
    alert.pk ∉ pks := by
  intro hpk
  have hclosed := h.closed alert hmem hpk
  rw [show isOpen alert = true from Option.isNone_iff_eq_none.mpr hopen]
    at hclosed
  cases hclosed

theorem clearedAlerts_without (h : table.Droppable pks) :
    clearedAlerts instancePk seenKeys now (table.without pks) =
      clearedAlerts instancePk seenKeys now table := by
  unfold clearedAlerts
  rw [OpenTable.filter_without]
  intro alert hmem hstale
  rw [Bool.and_eq_true, decide_eq_true_eq] at hstale
  exact not_mem_of_open h hmem hstale.1.2.1

theorem activeAlerts_without (h : table.Droppable pks) :
    activeAlerts instancePk (table.without pks) =
      activeAlerts instancePk table := by
  unfold activeAlerts
  rw [OpenTable.filter_without]
  intro alert hmem hopen
  simp only [Bool.and_eq_true, Option.isNone_iff_eq_none] at hopen
  exact not_mem_of_open h hmem hopen.2

theorem eligibleAlerts_without (h : table.Droppable pks) :
    eligibleAlerts instancePk (table.without pks) =
      eligibleAlerts instancePk table := by
  unfold eligibleAlerts
  rw [OpenTable.filter_without]
  intro alert hmem hopen
  simp only [Bool.and_eq_true, Option.isNone_iff_eq_none] at hopen
  exact not_mem_of_open h hmem hopen.1.2

end LockAlerts

/-! ## Long queries -/

def LongQueryState.prune (s : LongQueryState) (pks : List Nat) :
    LongQueryState :=
  { s with alerts := s.alerts.without pks }

section LongQueries

variable {s : LongQueryState} {pks : List Nat} (lib : TextLibrary)
  (app : AppDatabase) (config : NotificationSettings) (now : Time)
  (instancePk : Nat)

theorem storeLongQuery_found {alertKey : String} {found : LongQueryAlert}
    (h : s.alerts.findOpen? (instancePk, alertKey) = some found)
    (row : ActivityRow) :
    storeLongQuery app now instancePk alertKey row s =
      if app.acceptsActivityRow row then
        (.ok (stillRunning now row found),
          { s with
            alerts := s.alerts.update
              (fun alert =>
                if alert.pk = found.pk then stillRunning now row alert
                else alert)
              ((stillRunning_keeps now row).ite _) })
      else (.error (.appDatabaseError "value out of range"), s) := by
  unfold storeLongQuery
  split
  · rename_i found' hfound
    rw [h, Option.some.injEq] at hfound
    subst hfound
    rfl
  · rename_i hnone
    rw [h] at hnone
    cases hnone

theorem storeLongQuery_new {alertKey : String} {pid : Int}
    (h : s.alerts.findOpen? (instancePk, alertKey) = none) {row : ActivityRow}
    (hpid : row.pid = some pid) :
    storeLongQuery app now instancePk alertKey row s =
      if app.acceptsActivityRow row then
        (.ok (newLongQueryAlert now instancePk s.alerts.nextPk alertKey pid row),
          { s with
            alerts := s.alerts.insert
              (newLongQueryAlert now instancePk s.alerts.nextPk alertKey pid row)
              (pk_newLongQueryAlert ..)
              (by rw [key_newLongQueryAlert]; exact h) })
      else (.error (.appDatabaseError "value out of range"), s) := by
  unfold storeLongQuery
  split
  · rename_i found hfound
    rw [h] at hfound
    cases hfound
  · rw [hpid]

theorem storeLongQuery_no_pid {alertKey : String}
    (h : s.alerts.findOpen? (instancePk, alertKey) = none) {row : ActivityRow}
    (hpid : row.pid = none) :
    storeLongQuery app now instancePk alertKey row s =
      (.error (.appDatabaseError "null value in pid"), s) := by
  unfold storeLongQuery
  split
  · rename_i found hfound
    rw [h] at hfound
    cases hfound
  · rw [hpid]

theorem storeLongQuery_prune (h : s.alerts.Droppable pks) (alertKey : String)
    (row : ActivityRow) :
    storeLongQuery app now instancePk alertKey row (s.prune pks) =
      ((storeLongQuery app now instancePk alertKey row s).1,
        (storeLongQuery app now instancePk alertKey row s).2.prune pks) := by
  have hfind : (s.prune pks).alerts.findOpen? (instancePk, alertKey) =
      s.alerts.findOpen? (instancePk, alertKey) :=
    OpenTable.findOpen?_without h _
  cases hfound : s.alerts.findOpen? (instancePk, alertKey) with
  | some found =>
      rw [storeLongQuery_found _ _ _ hfound,
        storeLongQuery_found _ _ _ (hfind.trans hfound)]
      split
      · refine Prod.ext rfl ?_
        exact congrArg (LongQueryState.mk · s.cards)
          (OpenTable.without_update ..)
      · rfl
  | none =>
      cases hpid : row.pid with
      | none =>
          rw [storeLongQuery_no_pid _ _ _ hfound hpid,
            storeLongQuery_no_pid _ _ _ (hfind.trans hfound) hpid]
      | some pid =>
          rw [storeLongQuery_new _ _ _ hfound hpid,
            storeLongQuery_new _ _ _ (hfind.trans hfound) hpid]
          split
          · refine Prod.ext rfl ?_
            have hinsert := OpenTable.without_insert
              (pk_newLongQueryAlert now instancePk s.alerts.nextPk alertKey pid
                row) hfound (hfind.trans hfound) h
            exact congrArg (LongQueryState.mk · s.cards) hinsert
          · rfl

theorem storeLongQuery_droppable (h : s.alerts.Droppable pks)
    (alertKey : String) (row : ActivityRow) :
    (storeLongQuery app now instancePk alertKey row
      s).2.alerts.Droppable pks := by
  unfold storeLongQuery
  split
  · split
    · exact OpenTable.droppable_update h ((stillRunning_keeps now row).ite _)
    · exact h
  · rename_i hnone
    split
    · exact h
    · split
      · exact OpenTable.droppable_insert h (pk_newLongQueryAlert ..) hnone
      · exact h

theorem storeLongQueries_prune (h : s.alerts.Droppable pks)
    (entries : List (String × ActivityRow)) :
    storeLongQueries app now instancePk entries (s.prune pks) =
        ((storeLongQueries app now instancePk entries s).1,
          (storeLongQueries app now instancePk entries s).2.prune pks) ∧
      (storeLongQueries app now instancePk entries
        s).2.alerts.Droppable pks := by
  induction entries generalizing s with
  | nil => exact ⟨rfl, h⟩
  | cons entry entries ih =>
      obtain ⟨alertKey, row⟩ := entry
      have hfirst := storeLongQuery_prune app now instancePk h alertKey row
      have hdrop := storeLongQuery_droppable app now instancePk h alertKey row
      rw [storeLongQueries]
      cases hrun : storeLongQuery app now instancePk alertKey row s with
      | mk result middle =>
          rw [hrun] at hfirst hdrop
          cases result with
          | error e =>
              rw [Call.bind_error hrun, Call.bind_error hfirst]
              exact ⟨rfl, hdrop⟩
          | ok alert =>
              obtain ⟨hrest, hlast⟩ := ih hdrop
              rw [Call.bind_ok hrun, Call.bind_ok hfirst]
              cases hlater : storeLongQueries app now instancePk entries
                  middle with
              | mk result last =>
                  rw [hlater] at hrest hlast
                  cases result with
                  | error e =>
                      rw [Call.bind_error hlater, Call.bind_error hrest]
                      exact ⟨rfl, hlast⟩
                  | ok later =>
                      rw [Call.bind_ok hlater, Call.bind_ok hrest]
                      exact ⟨rfl, hlast⟩

theorem resolveLongQueries_prune (seenKeys : List String) :
    resolveLongQueries now instancePk seenKeys (s.prune pks) =
      (resolveLongQueries now instancePk seenKeys s).prune pks :=
  congrArg (LongQueryState.mk · s.cards) (OpenTable.without_update ..)

theorem notifyLongQueries_prune (deliver : List LongQueryAlert → Bool)
    (newAlerts : List LongQueryAlert) :
    notifyLongQueries now instancePk deliver newAlerts (s.prune pks) =
      (notifyLongQueries now instancePk deliver newAlerts s).prune pks := by
  unfold notifyLongQueries
  dsimp only
  split
  · exact congrArg (LongQueryState.mk · _) (OpenTable.without_update ..)
  · rfl

theorem notifyLongQueries_droppable (h : s.alerts.Droppable pks)
    (deliver : List LongQueryAlert → Bool) (newAlerts : List LongQueryAlert) :
    (notifyLongQueries now instancePk deliver newAlerts
      s).alerts.Droppable pks := by
  unfold notifyLongQueries
  dsimp only
  split
  · exact OpenTable.droppable_update h ((longQueryAlerted_keeps now).ite _)
  · exact h

theorem processLongQueries_prune (h : s.alerts.Droppable pks)
    (activity : List ActivityRow) (deliver : List LongQueryAlert → Bool) :
    processLongQueries lib app config now instancePk activity deliver
          (s.prune pks) =
        ((processLongQueries lib app config now instancePk activity deliver
            s).1,
          (processLongQueries lib app config now instancePk activity deliver
            s).2.prune pks) ∧
      (processLongQueries lib app config now instancePk activity deliver
        s).2.alerts.Droppable pks := by
  unfold processLongQueries
  split
  · obtain ⟨hprune, hdrop⟩ := storeLongQueries_prune app now instancePk h
      (longQueryCandidates lib config activity).entries
    cases hrun : storeLongQueries app now instancePk
        (longQueryCandidates lib config activity).entries s with
    | mk result middle =>
        rw [hrun] at hprune hdrop
        cases result with
        | error e =>
            rw [Call.bind_error hrun, Call.bind_error hprune]
            exact ⟨rfl, hdrop⟩
        | ok newAlerts =>
            have hresolved := OpenTable.droppable_update hdrop
              ((longQueryResolved_keeps now).ite fun alert =>
                alert.instancePk = instancePk ∧ alert.resolvedAt = none ∧
                  alert.alertKey ∉
                    (longQueryCandidates lib config activity).keys)
            rw [Call.bind_ok hrun, Call.bind_ok hprune,
              Call.bind_ok (Call.modify_run _ _),
              Call.bind_ok (Call.modify_run _ _), resolveLongQueries_prune]
            split
            · rw [Call.modify_run, Call.modify_run, notifyLongQueries_prune]
              exact ⟨rfl, notifyLongQueries_droppable _ _ hresolved ..⟩
            · exact ⟨rfl, hresolved⟩
  · rw [Call.modify_run, Call.modify_run, resolveLongQueries_prune]
    exact ⟨rfl, OpenTable.droppable_update h
      ((longQueryResolved_keeps now).ite _)⟩

end LongQueries

/-! ## Cycles -/

def MonitorState.prune (s : MonitorState) (locks queries : List Nat) :
    MonitorState :=
  { s with
    lockAlerts := s.lockAlerts.without locks
    longQueries := s.longQueries.prune queries }

structure MonitorState.Droppable (s : MonitorState) (locks queries : List Nat) :
    Prop where
  locks : s.lockAlerts.Droppable locks
  queries : s.longQueries.alerts.Droppable queries

section Cycles

variable {env : MonitorEnv} {inst : RDSInstance} {input : CycleInput}
  {s : MonitorState} {locks queries : List Nat}

theorem droppable_cycle (h : s.Droppable locks queries) :
    (cycle env inst s input).Droppable locks queries := by
  constructor
  · refine cycle_preserves (P := (OpenTable.Droppable · locks)) ?_ ?_ h.locks
    · intro table blockedPid blockingPid row hdrop
      exact storeLockRow_droppable _ _ _ hdrop ..
    · intro table seenKeys hdrop
      exact OpenTable.droppable_update hdrop
        ((clearAlert_keeps input.now).ite _)
  · rcases cycle_longQueries env inst input s with hsame | ⟨activity, hcall⟩
    · rw [hsame]
      exact h.queries
    · rw [hcall]
      exact (processLongQueries_prune env.lib env.app input.config input.now
        inst.pk h.queries activity input.deliverLongQueries).2

theorem notifyLocks_prune (summary : LockSummary) :
    notifyLocks env inst input summary (s.prune locks queries) =
      (notifyLocks env inst input summary s).prune locks queries := rfl

theorem cycleSummary_without {stored : LockAlertTable} {seenKeys : List String}
    (hstored : stored.Droppable locks) :
    cycleSummary inst
        (clearedAlerts inst.pk seenKeys input.now (stored.without locks))
        (resolveStale inst.pk seenKeys input.now (stored.without locks)) =
      cycleSummary inst (clearedAlerts inst.pk seenKeys input.now stored)
        (resolveStale inst.pk seenKeys input.now stored) := by
  have hresolved : (resolveStale inst.pk seenKeys input.now
      stored).Droppable locks :=
    OpenTable.droppable_update hstored ((clearAlert_keeps input.now).ite _)
  unfold cycleSummary
  rw [resolveStale_without, clearedAlerts_without _ _ _ hstored,
    eligibleAlerts_without _ hresolved, activeAlerts_without _ hresolved]

theorem cycle_prune (h : s.Droppable locks queries) :
    cycle env inst (s.prune locks queries) input =
      (cycle env inst s input).prune locks queries := by
  unfold cycle
  cases hfetch : input.fetch inst with
  | error e =>
      rw [processInstance_notFetched hfetch, processInstance_notFetched hfetch]
  | ok rows =>
      obtain ⟨activity, blocking⟩ := rows
      have hupsert := upsertLockAlerts_without env.app inst.pk
        input.config.thresholdSeconds input.now h.locks
        (uniqueBlocking blocking).values
      have hqueries := (processLongQueries_prune env.lib env.app input.config
        input.now inst.pk h.queries activity input.deliverLongQueries).1
      cases hstored : upsertLockAlerts env.app inst.pk
          input.config.thresholdSeconds input.now s.lockAlerts
          (uniqueBlocking blocking).values with
      | error e =>
          rw [hstored] at hupsert
          rw [processInstance_notStored hfetch hstored,
            processInstance_notStored hfetch hupsert]
      | ok stored =>
          have hdrop := upsertLockAlerts_droppable _ _ _ _ h.locks hstored
          rw [hstored] at hupsert
          cases htrack : processLongQueries env.lib env.app input.config
              input.now inst.pk activity input.deliverLongQueries
              s.longQueries with
          | mk result longQueries =>
              rw [htrack] at hqueries
              cases result with
              | error e =>
                  rw [processInstance_notTracked hfetch hstored htrack,
                    processInstance_notTracked hfetch hupsert hqueries,
                    resolveStale_without]
                  rfl
              | ok _ =>
                  rw [processInstance_ok hfetch hstored htrack,
                    processInstance_ok hfetch hupsert hqueries]
                  dsimp only
                  rw [cycleSummary_without hdrop, resolveStale_without,
                    ← notifyLocks_prune]
                  rfl

end Cycles

end HealthGrid.Monitor
