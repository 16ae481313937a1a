import HealthGrid.Monitor.IncidentHistory

/-!
# Cycles that cannot read the lock catalog

A cycle should resolve an incident only on the evidence of the lock catalog.
For MySQL and MariaDB an unreadable catalog reaches the monitor as an empty
one.
-/

namespace HealthGrid.Monitor

open HealthGrid.Foundation HealthGrid.Db

/-! ## Reading the catalog -/

def CycleInput.catalog (input : CycleInput) (inst : RDSInstance) :
    Option (List LockRow) :=
  match getConnection input.drivers inst, input.calls.activity with
  | .ok _, .ok _ =>
      match input.calls.lockCatalog with
      | .ok rows => some rows
      | .error _ =>
          if isMysql inst then input.calls.fallbackCatalog.toOption else none
  | _, _ => none

/-- A failure that `_mysql_blocking` hides: both catalog queries raise. -/
structure CatalogSwallowed (inst : RDSInstance) (input : CycleInput)
    (activity : List ActivityRow) : Prop where
  mysql : isMysql inst = true
  connected : ∃ conn, getConnection input.drivers inst = .ok conn
  active : input.calls.activity = .ok activity
  catalog : ∃ message, input.calls.lockCatalog = .error message
  fallback : ∃ message, input.calls.fallbackCatalog = .error message

section Fetch

variable {inst : RDSInstance} {input : CycleInput}
  {activity : List ActivityRow} {blocking : List LockRow}

theorem shows_withTextDefaults {rows : List LockRow}
    {blockedPid blockingPid : Int} :
    Shows (rows.map withTextDefaults) blockedPid blockingPid ↔
      Shows rows blockedPid blockingPid := by
  constructor
  · rintro ⟨row, hmem, hpids⟩
    obtain ⟨raw, hraw, rfl⟩ := List.mem_map.mp hmem
    exact ⟨raw, hraw, hpids⟩
  · rintro ⟨row, hmem, hpids⟩
    exact ⟨withTextDefaults row, List.mem_map_of_mem hmem, hpids⟩

theorem fetch_of_swallowed (h : CatalogSwallowed inst input activity) :
    input.fetch inst = .ok (activity, []) := by
  obtain ⟨conn, hconn⟩ := h.connected
  obtain ⟨message, hcatalog⟩ := h.catalog
  obtain ⟨message', hfallback⟩ := h.fallback
  unfold CycleInput.fetch fetchActivity
  rw [hconn, h.active]
  change (if isMysql inst then _ else _) = _
  rw [if_pos h.mysql, mysqlBlocking, hcatalog, hfallback]
  rfl

theorem catalog_of_swallowed (h : CatalogSwallowed inst input activity) :
    input.catalog inst = none := by
  obtain ⟨conn, hconn⟩ := h.connected
  obtain ⟨message, hcatalog⟩ := h.catalog
  obtain ⟨message', hfallback⟩ := h.fallback
  rw [CycleInput.catalog, hconn, h.active, hcatalog, hfallback]
  exact if_pos h.mysql

theorem catalog_of_fetch (hfetch : input.fetch inst = .ok (activity, blocking))
    (h : ¬ CatalogSwallowed inst input activity) :
    ∃ rows, input.catalog inst = some rows ∧ ∀ blockedPid blockingPid,
      Shows blocking blockedPid blockingPid ↔
        Shows rows blockedPid blockingPid := by
  unfold CycleInput.fetch fetchActivity at hfetch
  unfold CycleInput.catalog
  cases hconn : getConnection input.drivers inst with
  | error e =>
      rw [hconn] at hfetch
      cases hfetch
  | ok conn =>
      cases hactivity : input.calls.activity with
      | error message =>
          rw [hconn, hactivity] at hfetch
          cases hfetch
      | ok activity' =>
          rw [hconn, hactivity] at hfetch
          change (if isMysql inst then _ else _) = _ at hfetch
          dsimp only
          cases hcatalog : input.calls.lockCatalog with
          | ok rows =>
              refine ⟨rows, rfl, fun blockedPid blockingPid => ?_⟩
              split at hfetch
              · rw [mysqlBlocking, hcatalog] at hfetch
                cases hfetch
                exact shows_withTextDefaults
              · split at hfetch
                · rw [mssqlBlocking, hcatalog] at hfetch
                  cases hfetch
                  exact shows_withTextDefaults
                · rw [hcatalog] at hfetch
                  cases hfetch
                  exact Iff.rfl
          | error message =>
              dsimp only
              split at hfetch
              · rename_i hmysql
                rw [if_pos hmysql]
                rw [mysqlBlocking, hcatalog] at hfetch
                cases hfallback : input.calls.fallbackCatalog with
                | ok rows =>
                    rw [hfallback] at hfetch
                    cases hfetch
                    exact ⟨rows, rfl, fun _ _ => shows_withTextDefaults⟩
                | error message' =>
                    rw [hfallback] at hfetch
                    cases hfetch
                    exact absurd ⟨hmysql, ⟨conn, hconn⟩, hactivity,
                      ⟨message, hcatalog⟩, ⟨message', hfallback⟩⟩ h
              · split at hfetch
                · rw [mssqlBlocking, hcatalog] at hfetch
                  cases hfetch
                · rw [hcatalog] at hfetch
                  cases hfetch

end Fetch

/-! ## What a stored snapshot resolves -/

theorem storeLockRow_tracks (instancePk threshold : Nat) (now : Time)
    (table : LockAlertTable) (blockedPid blockingPid : Int) (row : LockRow) :
    table.Tracks (storeLockRow instancePk threshold now table blockedPid
      blockingPid row) := by
  unfold storeLockRow
  split
  · exact OpenTable.tracks_insert table _ _ _
  · apply OpenTable.tracks_update
    intro alert
    split
    · exact isOpen_markAlerted threshold now _
    · rfl

theorem upsertLockAlerts_tracks {app : AppDatabase}
    {instancePk threshold : Nat} {now : Time} {table table' : LockAlertTable}
    {rows : List LockRow}
    (h : upsertLockAlerts app instancePk threshold now table rows =
      .ok table') : table.Tracks table' := by
  refine upsertLockAlerts_preserves ?_ h (OpenTable.Tracks.refl table)
  intro stored blockedPid blockingPid row htracks
  exact htracks.trans (storeLockRow_tracks _ _ _ _ _ _ _)

section Resolve

variable {env : MonitorEnv} {inst : RDSInstance} {input : CycleInput}
  {table table' : LockAlertTable} {alert alert' : LockAlert}

theorem not_shows_of_resolved {blocking : List LockRow}
    (h : snapshotTable env inst input blocking table = .ok table')
    (hmem : alert ∈ table.rows) (hopen : alert.resolvedAt = none)
    (hmem' : alert' ∈ table'.rows) (hpk : alert'.pk = alert.pk)
    (hresolved : alert'.resolvedAt ≠ none) :
    ¬ Shows blocking alert.blockedPid alert.blockingPid := by
  obtain ⟨stored, hstored, rfl⟩ := snapshotTable_stored h
  obtain ⟨kept, hkept, hkeptPk, hkeptKey, hkeptOpen⟩ :=
    upsertLockAlerts_tracks hstored alert hmem
  rw [resolveStale, OpenTable.update_rows, List.mem_map] at hmem'
  obtain ⟨last, hlast, rfl⟩ := hmem'
  have hlastPk : pk last = pk kept := by
    rw [hkeptPk]
    split at hpk <;> exact hpk
  have heq : last = kept := OpenTable.eq_of_pk_eq hlast hkept hlastPk
  subst heq
  have hlastOpen : last.resolvedAt = none := by
    have hisOpen : isOpen last = true := by
      rw [hkeptOpen]
      exact Option.isNone_iff_eq_none.mpr hopen
    exact Option.isNone_iff_eq_none.mp hisOpen
  split at hresolved
  · rename_i hstale
    have hkey : last.alertKey = alert.alertKey := (Prod.mk.inj hkeptKey).2
    rw [← pairKey_mem_seenKeys]
    have hunseen := hstale.2.2
    rw [hkey] at hunseen
    exact hunseen
  · exact absurd hlastOpen hresolved

theorem resolveStale_nil_mem {now : Time} {instancePk : Nat}
    (hmem : alert' ∈ (resolveStale instancePk [] now table).rows) :
    ∃ alert ∈ table.rows,
      (alert.instancePk = instancePk ∧ alert.resolvedAt = none ∧
        alert' = clearAlert now alert) ∨
      (¬ (alert.instancePk = instancePk ∧ alert.resolvedAt = none) ∧
        alert' = alert) := by
  rw [resolveStale, OpenTable.update_rows, List.mem_map] at hmem
  obtain ⟨alert, hold, rfl⟩ := hmem
  refine ⟨alert, hold, ?_⟩
  split
  · rename_i hstale
    exact .inl ⟨hstale.1, hstale.2.1, rfl⟩
  · rename_i hstale
    exact .inr ⟨fun h => hstale ⟨h.1, h.2, List.not_mem_nil⟩, rfl⟩

theorem activeAlerts_resolveStale_nil (table : LockAlertTable) (now : Time)
    (instancePk : Nat) :
    activeAlerts instancePk (resolveStale instancePk [] now table) = [] := by
  unfold activeAlerts orderByPids
  rw [List.filter_eq_nil_iff.mpr, List.insertionSort_nil]
  intro alert hmem
  rw [Bool.and_eq_true, beq_iff_eq, Option.isNone_iff_eq_none]
  obtain ⟨old, -, ⟨-, -, rfl⟩ | ⟨hkept, rfl⟩⟩ := resolveStale_nil_mem hmem
  · exact fun h => by cases h.2
  · exact hkept

end Resolve

/-! ## Safe cycles -/

/--
An incident is resolved only on a catalog that was read and does not show its
pair, and without one no clear is announced.
-/
structure SafeCycle (env : MonitorEnv) (inst : RDSInstance) (s : MonitorState)
    (input : CycleInput) : Prop where
  resolved : ∀ alert ∈ s.lockAlerts.rows, alert.resolvedAt = none →
    ∀ alert' ∈ (cycle env inst s input).lockAlerts.rows,
      alert'.pk = alert.pk → alert'.resolvedAt ≠ none →
      ∃ rows, input.catalog inst = some rows ∧
        ¬ Shows rows alert.blockedPid alert.blockingPid
  cards : input.catalog inst = none →
    ∀ card ∈ cycleCards env inst s input, card.2.1.event ≠ .cleared

def NoUnresolved (instancePk : Nat) (table : LockAlertTable) : Prop :=
  ∀ alert ∈ table.rows, alert.resolvedAt = none → alert.instancePk ≠ instancePk

structure ClearedCardDue (env : MonitorEnv) (inst : RDSInstance)
    (input : CycleInput) (activity : List ActivityRow) (s : MonitorState) :
    Prop where
  tracked : LongQueriesStorable env.lib env.app input.config inst.pk activity
    s.longQueries
  windowOpen : lockNotificationsOpen input.config input.now = true
  fingerprint : env.lib.sha256 "" ≠
    (s.notificationState inst.pk).lastFingerprint
  keys : (s.notificationState inst.pk).lastActiveKeys ≠ []

theorem cleared_attempt_iff {sha256 : String → String}
    {config : NotificationSettings} {now : Time} {cleared : List LockAlert}
    {deliver : Card → Bool} {state : LockNotificationState} :
    (∃ attempt, (lockSummaryTransaction sha256 config now ⟨[], cleared, []⟩
        deliver state).2 = some attempt ∧ attempt.1.event = .cleared) ↔
      lockNotificationsOpen config now = true ∧
        sha256 "" ≠ state.lastFingerprint ∧ state.lastActiveKeys ≠ [] := by
  cases hopen : lockNotificationsOpen config now with
  | false => simp [lockSummaryTransaction, hopen]
  | true =>
      have hkeys := ordinary_attempt_iff sha256 now ⟨[], cleared, []⟩ deliver
        { state with stormActive := false }
      have hsorted : (PyText.sorted state.lastActiveKeys = [] ∧
          alertKeys [] = []) ↔ state.lastActiveKeys = [] := by simp
      rw [show summaryFingerprint sha256 [] = sha256 "" from rfl, hsorted]
        at hkeys
      rw [lockSummaryTransaction_empty _ _ _ _ _ hopen rfl,
        iff_true_intro rfl, true_and, ← hkeys]
      constructor
      · rintro ⟨attempt, hattempt, -⟩
        exact ⟨attempt, hattempt⟩
      · rintro ⟨attempt, hattempt⟩
        refine ⟨attempt, hattempt, ?_⟩
        obtain ⟨hcard, hsome⟩ := ordinary_attempt hattempt
        rw [hcard, (ordinaryCard_describes hsome).event]
        have hne : PyText.sorted state.lastActiveKeys ≠ [] :=
          fun h => hsome ⟨h, alertKeys_eq_nil.mpr rfl⟩
        rw [if_neg hne, if_pos rfl]

section Swallowed

variable {env : MonitorEnv} {inst : RDSInstance} {input : CycleInput}
  {s : MonitorState} {activity : List ActivityRow}

theorem cycle_of_swallowed (env : MonitorEnv) (s : MonitorState)
    (h : CatalogSwallowed inst input activity) :
    (cycle env inst s input).lockAlerts =
        resolveStale inst.pk [] input.now s.lockAlerts ∧
      ((∃ card ∈ cycleCards env inst s input, card.2.1.event = .cleared) ↔
        ClearedCardDue env inst input activity s) := by
  have hfetched := fetch_of_swallowed h
  have htracked : (∃ longQueries, processLongQueries env.lib env.app
      input.config input.now inst.pk activity input.deliverLongQueries
        s.longQueries = (.ok (), longQueries)) ↔
      LongQueriesStorable env.lib env.app input.config inst.pk activity
        s.longQueries := processLongQueries_ok_iff _ _ _ _
  have hstored : upsertLockAlerts env.app inst.pk
      input.config.thresholdSeconds input.now s.lockAlerts
      (uniqueBlocking []).values = .ok s.lockAlerts := rfl
  unfold cycleCards cycle
  cases htrack : processLongQueries env.lib env.app input.config input.now
      inst.pk activity input.deliverLongQueries s.longQueries with
  | mk result longQueries =>
      cases result with
      | error e =>
          rw [processInstance_notTracked hfetched hstored htrack]
          refine ⟨rfl, iff_of_false (by simp) ?_⟩
          intro hdue
          obtain ⟨_, hok⟩ := htracked.mpr hdue.tracked
          rw [htrack] at hok
          cases hok
      | ok _ =>
          rw [processInstance_ok hfetched hstored htrack]
          refine ⟨rfl, ?_⟩
          have hactive := activeAlerts_resolveStale_nil s.lockAlerts input.now
            inst.pk
          have hcards : ∀ attempts : Option Attempt,
              (∃ card ∈ (s.lockCards ++ attempts.toList.map
                (Prod.mk inst.pk)).drop s.lockCards.length,
                  card.2.1.event = .cleared) ↔
              ∃ attempt, attempts = some attempt ∧
                attempt.1.event = .cleared := by
            intro attempts
            rw [List.drop_left]
            cases attempts <;> simp
          have hseen : (uniqueBlocking []).keys = [] := rfl
          dsimp only
          rw [hseen]
          unfold notifyLocks cycleSummary
          rw [hcards, hactive, eligibleAlerts_of_active_nil hactive,
            cleared_attempt_iff]
          constructor
          · rintro ⟨hopen, hfingerprint, hkeys⟩
            exact ⟨htracked.mp ⟨_, htrack⟩, hopen, hfingerprint, hkeys⟩
          · intro hdue
            exact ⟨hdue.windowOpen, hdue.fingerprint, hdue.keys⟩

theorem safeCycle_of_swallowed (h : CatalogSwallowed inst input activity) :
    SafeCycle env inst s input ↔
      NoUnresolved inst.pk s.lockAlerts ∧
        ¬ ClearedCardDue env inst input activity s := by
  obtain ⟨htable, hcard⟩ := cycle_of_swallowed env s h
  have hcatalog := catalog_of_swallowed h
  constructor
  · intro hsafe
    constructor
    · intro alert hmem hopen hinstance
      obtain ⟨rows, hrows, -⟩ := hsafe.resolved alert hmem hopen
        (clearAlert input.now alert) (by
          rw [htable, resolveStale, OpenTable.update_rows, List.mem_map]
          exact ⟨alert, hmem, if_pos ⟨hinstance, hopen, List.not_mem_nil⟩⟩)
        rfl (by simp [clearAlert])
      rw [hcatalog] at hrows
      cases hrows
    · intro hdue
      obtain ⟨card, hmem, hcleared⟩ := hcard.mpr hdue
      exact hsafe.cards hcatalog card hmem hcleared
  · rintro ⟨hnone, hquiet⟩
    constructor
    · intro alert hmem hopen alert' hmem' hpk hresolved
      rw [htable] at hmem'
      obtain ⟨old, hold, ⟨hinstance, hopen', rfl⟩ | ⟨-, rfl⟩⟩ :=
        resolveStale_nil_mem hmem'
      · exact absurd hinstance (hnone old hold hopen')
      · have heq : alert' = alert := OpenTable.eq_of_pk_eq hold hmem hpk
        rw [heq] at hresolved
        exact absurd hopen hresolved
    · intro _ card hmem hcleared
      exact hquiet (hcard.mp ⟨card, hmem, hcleared⟩)

theorem safeCycle_of_not_swallowed
    (h : ∀ activity, ¬ CatalogSwallowed inst input activity) :
    SafeCycle env inst s input := by
  have hunread : input.catalog inst = none →
      ∃ e, input.fetch inst = .error e := by
    intro hcatalog
    cases hfetch : input.fetch inst with
    | error e => exact ⟨e, rfl⟩
    | ok rows =>
        obtain ⟨activity, blocking⟩ := rows
        obtain ⟨rows, hrows, -⟩ := catalog_of_fetch hfetch (h activity)
        rw [hcatalog] at hrows
        cases hrows
  constructor
  · intro alert hmem hopen alert' hmem' hpk hresolved
    have hcycle := cycle_lockAlerts env inst input s
    cases hsnapshot : input.snapshot env inst with
    | none =>
        rw [hsnapshot] at hcycle
        dsimp only at hcycle
        rw [hcycle] at hmem'
        have heq : alert' = alert := OpenTable.eq_of_pk_eq hmem' hmem hpk
        rw [heq] at hresolved
        exact absurd hopen hresolved
    | some blocking =>
        rw [hsnapshot] at hcycle
        have hshows := not_shows_of_resolved hcycle hmem hopen hmem' hpk
          hresolved
        obtain ⟨activity, hfetch⟩ := fetch_of_snapshot hsnapshot
        obtain ⟨rows, hrows, hiff⟩ := catalog_of_fetch hfetch (h activity)
        exact ⟨rows, hrows, fun hrow => hshows ((hiff _ _).mpr hrow)⟩
  · intro hcatalog card hmem
    obtain ⟨e, hfetch⟩ := hunread hcatalog
    rw [cycleCards, cycle_of_fetch_error hfetch, List.drop_length] at hmem
    cases hmem

end Swallowed

/--
A cycle is safe unless a swallowed catalog failure meets an unresolved
incident or a clear that is due.
-/
theorem safeCycle_iff (env : MonitorEnv) (inst : RDSInstance)
    (input : CycleInput) (s : MonitorState) :
    SafeCycle env inst s input ↔
      ∀ activity, CatalogSwallowed inst input activity →
        NoUnresolved inst.pk s.lockAlerts ∧
          ¬ ClearedCardDue env inst input activity s := by
  constructor
  · intro hsafe activity hswallowed
    exact (safeCycle_of_swallowed hswallowed).mp hsafe
  · intro h
    by_cases hswallowed : ∃ activity, CatalogSwallowed inst input activity
    · obtain ⟨activity, hswallowed⟩ := hswallowed
      exact (safeCycle_of_swallowed hswallowed).mpr (h activity hswallowed)
    · exact safeCycle_of_not_swallowed
        (fun activity hactivity => hswallowed ⟨activity, hactivity⟩)

theorem unreadable_catalog_resolves :
    let pair : LockRow := ⟨some 1, some 2, none, none, none, none, some 300⟩
    let s := cycle sampleEnv (sampleInstance .mysql) .empty
      (sampleCycle 0 [pair])
    let unreadable := { sampleCycle 60 [] with
      calls := ⟨.ok [], .error "denied", .error "denied"⟩ }
    ¬ SafeCycle sampleEnv (sampleInstance .mysql) s unreadable := by
  intro pair s unreadable hsafe
  have hresolved := hsafe.resolved
  have hnone : unreadable.catalog (sampleInstance .mysql) = none := by decide
  simp only [hnone] at hresolved
  revert hresolved
  decide

end HealthGrid.Monitor
