import HealthGrid.Monitor.LongQueries
import HealthGrid.Monitor.Snapshot
import HealthGrid.Monitor.SummaryChannel
import Mathlib.Logic.Function.Basic

/-!
# A monitor cycle

`process_instance` fetches a snapshot, stores it, resolves what is gone,
tracks long queries and ends with the notification transaction.  Storing the
snapshot is one transaction; everything before a failure stays.
-/

namespace HealthGrid.Monitor

open HealthGrid.Foundation HealthGrid.Db

/-- The parts of the deployment that stay the same from cycle to cycle. -/
structure MonitorEnv where
  app : AppDatabase
  lib : TextLibrary

structure MonitorState where
  lockAlerts : LockAlertTable
  longQueries : LongQueryState
  notificationState : Nat → LockNotificationState
  lockCards : List (Nat × Attempt)

def MonitorState.empty : MonitorState where
  lockAlerts := .empty
  longQueries := ⟨.empty, []⟩
  notificationState _ := .fresh
  lockCards := []

structure CycleInput where
  now : Time
  config : NotificationSettings
  drivers : Drivers
  calls : CatalogCalls
  deliver : Card → Bool
  deliverLongQueries : List LongQueryAlert → Bool

def sampleEnv : MonitorEnv where
  app := ⟨fun _ => true, fun _ => true⟩
  lib := ⟨sampleDigest, String.toLower, fun _ => ""⟩

def sampleCycle (now : Time) (blocking : List LockRow) : CycleInput where
  now := now
  config := .defaults
  drivers := openDrivers
  calls := ⟨.ok [], .ok blocking, .ok blocking⟩
  deliver _ := true
  deliverLongQueries _ := true

def CycleInput.fetch (input : CycleInput) (inst : RDSInstance) :
    Except Exn (List ActivityRow × List LockRow) :=
  fetchActivity input.drivers input.calls inst

def notifyLocks (env : MonitorEnv) (inst : RDSInstance) (input : CycleInput)
    (summary : LockSummary) (s : MonitorState) : MonitorState :=
  let result := lockSummaryTransaction env.lib.sha256 input.config input.now
    summary input.deliver (s.notificationState inst.pk)
  { s with
    notificationState := Function.update s.notificationState inst.pk result.1
    lockCards := s.lockCards ++ result.2.toList.map (Prod.mk inst.pk) }

def trackLongQueries (env : MonitorEnv) (inst : RDSInstance)
    (input : CycleInput) (activity : List ActivityRow) :
    Call Exn MonitorState Unit :=
  Call.zoom MonitorState.longQueries
    (fun longQueries s => { s with longQueries := longQueries })
    (processLongQueries env.lib env.app input.config input.now inst.pk activity
      input.deliverLongQueries)

def processInstance (env : MonitorEnv) (inst : RDSInstance)
    (input : CycleInput) : Call Exn MonitorState Unit := do
  let (activity, blocking) ← Call.ofExcept (input.fetch inst)
  let unique := uniqueBlocking blocking
  let before ← Call.get
  let stored ← Call.ofExcept (upsertLockAlerts env.app inst.pk
    input.config.thresholdSeconds input.now before.lockAlerts unique.values)
  let resolved := resolveStale inst.pk unique.keys input.now stored
  Call.modify fun s => { s with lockAlerts := resolved }
  let cleared := clearedAlerts inst.pk unique.keys input.now stored
  let eligible := eligibleAlerts inst.pk resolved
  trackLongQueries env inst input activity
  let s ← Call.get
  let active := activeAlerts inst.pk s.lockAlerts
  Call.modify (notifyLocks env inst input ⟨eligible, cleared, active⟩)

def cycle (env : MonitorEnv) (inst : RDSInstance) (s : MonitorState)
    (input : CycleInput) : MonitorState :=
  (processInstance env inst input s).2

def CycleStep (env : MonitorEnv) (inst : RDSInstance) (s : MonitorState)
    (input : CycleInput) (s' : MonitorState) : Prop :=
  cycle env inst s input = s'

def cycleCards (env : MonitorEnv) (inst : RDSInstance) (s : MonitorState)
    (input : CycleInput) : List (Nat × Attempt) :=
  (cycle env inst s input).lockCards.drop s.lockCards.length

/-! ## What a cycle can do -/

def snapshotTable (env : MonitorEnv) (inst : RDSInstance) (input : CycleInput)
    (blocking : List LockRow) (table : LockAlertTable) :
    Except Exn LockAlertTable :=
  (upsertLockAlerts env.app inst.pk input.config.thresholdSeconds input.now
    table (uniqueBlocking blocking).values).map
      (resolveStale inst.pk (uniqueBlocking blocking).keys input.now)

def cycleSummary (inst : RDSInstance) (cleared : List LockAlert)
    (table : LockAlertTable) : LockSummary :=
  ⟨eligibleAlerts inst.pk table, cleared, activeAlerts inst.pk table⟩

def LockSummary.result (summary : LockSummary) (env : MonitorEnv)
    (input : CycleInput) (state : LockNotificationState) :
    LockNotificationState × List Attempt :=
  let result := lockSummaryTransaction env.lib.sha256 input.config input.now
    summary input.deliver state
  (result.1, result.2.toList)

section Cases

variable {env : MonitorEnv} {inst : RDSInstance} {input : CycleInput}
  {s s' : MonitorState} {result : Except Exn Unit}

theorem notifyLocks_state (summary : LockSummary) :
    (notifyLocks env inst input summary s).notificationState inst.pk =
      (summary.result env input (s.notificationState inst.pk)).1 :=
  Function.update_self ..

theorem notifyLocks_cards (summary : LockSummary) :
    (notifyLocks env inst input summary s).lockCards = s.lockCards ++
      (summary.result env input (s.notificationState inst.pk)).2.map
        (Prod.mk inst.pk) := rfl

inductive CycleEnd (env : MonitorEnv) (inst : RDSInstance) (input : CycleInput)
    (s : MonitorState) : Except Exn Unit → MonitorState → Prop
  | notFetched {e : Exn} (hfetch : input.fetch inst = .error e) :
      CycleEnd env inst input s (.error e) s
  | notStored {activity : List ActivityRow} {blocking : List LockRow} {e : Exn}
      (hfetch : input.fetch inst = .ok (activity, blocking))
      (htable : snapshotTable env inst input blocking s.lockAlerts =
        .error e) :
      CycleEnd env inst input s (.error e) s
  | notTracked {activity : List ActivityRow} {blocking : List LockRow}
      {table : LockAlertTable} {longQueries : LongQueryState} {e : Exn}
      (hfetch : input.fetch inst = .ok (activity, blocking))
      (htable : snapshotTable env inst input blocking s.lockAlerts = .ok table)
      (htrack : processLongQueries env.lib env.app input.config input.now
        inst.pk activity input.deliverLongQueries s.longQueries =
          (.error e, longQueries)) :
      CycleEnd env inst input s (.error e)
        { s with lockAlerts := table, longQueries := longQueries }
  | completed {activity : List ActivityRow} {blocking : List LockRow}
      {table : LockAlertTable} {longQueries : LongQueryState}
      {cleared : List LockAlert}
      (hfetch : input.fetch inst = .ok (activity, blocking))
      (htable : snapshotTable env inst input blocking s.lockAlerts = .ok table)
      (htrack : processLongQueries env.lib env.app input.config input.now
        inst.pk activity input.deliverLongQueries s.longQueries =
          (.ok (), longQueries))
      (hcleared : ∀ alert ∈ cleared, alert ∈ table.rows ∧
        alert.instancePk = inst.pk ∧ alert.resolvedAt = some input.now) :
      CycleEnd env inst input s (.ok ())
        (notifyLocks env inst input (cycleSummary inst cleared table)
          { s with lockAlerts := table, longQueries := longQueries })

private theorem trackLongQueries_run {activity : List ActivityRow}
    {longQueries : LongQueryState} {table : LockAlertTable}
    (htrack : processLongQueries env.lib env.app input.config input.now inst.pk
      activity input.deliverLongQueries s.longQueries = (result, longQueries)) :
    trackLongQueries env inst input activity
        { s with lockAlerts := table } =
      (result, { s with lockAlerts := table, longQueries := longQueries }) := by
  rw [trackLongQueries, Call.zoom_run]
  dsimp only
  rw [htrack]

theorem processInstance_notFetched {e : Exn}
    (hfetch : input.fetch inst = .error e) :
    processInstance env inst input s = (.error e, s) := by
  unfold processInstance
  rw [hfetch]
  exact Call.bind_error (Call.ofExcept_run _ s)

section Fetched

variable {activity : List ActivityRow} {blocking : List LockRow}
  {stored : LockAlertTable} {longQueries : LongQueryState} {e : Exn}

theorem processInstance_notStored
    (hfetch : input.fetch inst = .ok (activity, blocking))
    (hstored : upsertLockAlerts env.app inst.pk input.config.thresholdSeconds
      input.now s.lockAlerts (uniqueBlocking blocking).values = .error e) :
    processInstance env inst input s = (.error e, s) := by
  unfold processInstance
  rw [hfetch, Call.bind_ok (Call.ofExcept_run _ s)]
  dsimp only
  rw [Call.bind_ok (Call.get_run s), hstored]
  exact Call.bind_error (Call.ofExcept_run _ s)

theorem processInstance_notTracked
    (hfetch : input.fetch inst = .ok (activity, blocking))
    (hstored : upsertLockAlerts env.app inst.pk input.config.thresholdSeconds
      input.now s.lockAlerts (uniqueBlocking blocking).values = .ok stored)
    (htrack : processLongQueries env.lib env.app input.config input.now
      inst.pk activity input.deliverLongQueries s.longQueries =
        (.error e, longQueries)) :
    processInstance env inst input s =
      (.error e,
        { s with
          lockAlerts := resolveStale inst.pk (uniqueBlocking blocking).keys
            input.now stored
          longQueries := longQueries }) := by
  unfold processInstance
  rw [hfetch, Call.bind_ok (Call.ofExcept_run _ s)]
  dsimp only
  rw [Call.bind_ok (Call.get_run s), hstored,
    Call.bind_ok (Call.ofExcept_run _ s), Call.bind_ok (Call.modify_run _ s)]
  exact Call.bind_error (trackLongQueries_run htrack)

theorem processInstance_ok
    (hfetch : input.fetch inst = .ok (activity, blocking))
    (hstored : upsertLockAlerts env.app inst.pk input.config.thresholdSeconds
      input.now s.lockAlerts (uniqueBlocking blocking).values = .ok stored)
    (htrack : processLongQueries env.lib env.app input.config input.now
      inst.pk activity input.deliverLongQueries s.longQueries =
        (.ok (), longQueries)) :
    let seenKeys := (uniqueBlocking blocking).keys
    let table := resolveStale inst.pk seenKeys input.now stored
    processInstance env inst input s =
      (.ok (), notifyLocks env inst input
        (cycleSummary inst
          (clearedAlerts inst.pk seenKeys input.now stored) table)
        { s with lockAlerts := table, longQueries := longQueries }) := by
  unfold processInstance
  rw [hfetch, Call.bind_ok (Call.ofExcept_run _ s)]
  dsimp only
  rw [Call.bind_ok (Call.get_run s), hstored,
    Call.bind_ok (Call.ofExcept_run _ s), Call.bind_ok (Call.modify_run _ s),
    Call.bind_ok (trackLongQueries_run htrack), Call.bind_ok (Call.get_run _),
    Call.modify_run]
  rfl

end Fetched

theorem processInstance_end (env : MonitorEnv) (inst : RDSInstance)
    (input : CycleInput) (s : MonitorState) :
    CycleEnd env inst input s (processInstance env inst input s).1
      (processInstance env inst input s).2 := by
  cases hfetch : input.fetch inst with
  | error e =>
      rw [processInstance_notFetched hfetch]
      exact .notFetched hfetch
  | ok rows =>
      obtain ⟨activity, blocking⟩ := rows
      cases hstored : upsertLockAlerts env.app inst.pk
          input.config.thresholdSeconds input.now s.lockAlerts
          (uniqueBlocking blocking).values with
      | error e =>
          rw [processInstance_notStored hfetch hstored]
          refine .notStored hfetch ?_
          rw [snapshotTable, hstored]
          rfl
      | ok stored =>
          have htable : snapshotTable env inst input blocking s.lockAlerts =
              .ok (resolveStale inst.pk (uniqueBlocking blocking).keys
                input.now stored) := by
            rw [snapshotTable, hstored]
            rfl
          cases htrack : processLongQueries env.lib env.app input.config
              input.now inst.pk activity input.deliverLongQueries
              s.longQueries with
          | mk result longQueries =>
              cases result with
              | error e =>
                  rw [processInstance_notTracked hfetch hstored htrack]
                  exact .notTracked hfetch htable htrack
              | ok _ =>
                  rw [processInstance_ok hfetch hstored htrack]
                  exact .completed hfetch htable htrack
                    fun _ hmem => mem_clearedAlerts hmem

theorem completed_cycle (h : (processInstance env inst input s).1 = .ok ()) :
    ∃ activity blocking cleared,
      input.fetch inst = .ok (activity, blocking) ∧
      snapshotTable env inst input blocking s.lockAlerts =
        .ok (cycle env inst s input).lockAlerts ∧
      ((cycle env inst s input).notificationState inst.pk,
          (cycleCards env inst s input).map Prod.snd) =
        (cycleSummary inst cleared (cycle env inst s input).lockAlerts).result
          env input (s.notificationState inst.pk) := by
  unfold cycleCards cycle
  generalize hstate : (processInstance env inst input s).2 = s'
  have hend := processInstance_end env inst input s
  rw [h, hstate] at hend
  cases hend with
  | @completed activity blocking table longQueries cleared hfetch htable _ =>
      refine ⟨activity, blocking, cleared, hfetch, htable, ?_⟩
      rw [notifyLocks_state, notifyLocks_cards, List.drop_left, List.map_map]
      exact congrArg (Prod.mk _) (List.map_id _)

/-! ## What a cycle keeps -/

theorem snapshotTable_stored {blocking : List LockRow}
    {table table' : LockAlertTable}
    (h : snapshotTable env inst input blocking table = .ok table') :
    ∃ stored, upsertLockAlerts env.app inst.pk input.config.thresholdSeconds
        input.now table (uniqueBlocking blocking).values = .ok stored ∧
      table' = resolveStale inst.pk (uniqueBlocking blocking).keys input.now
        stored := by
  unfold snapshotTable at h
  cases hstored : upsertLockAlerts env.app inst.pk
      input.config.thresholdSeconds input.now table
      (uniqueBlocking blocking).values with
  | error e =>
      rw [hstored] at h
      cases h
  | ok stored =>
      rw [hstored] at h
      exact ⟨stored, rfl, (Except.ok.inj h).symm⟩

theorem cycle_preserves {P : LockAlertTable → Prop}
    (hstore : ∀ table blockedPid blockingPid row, P table →
      P (storeLockRow inst.pk input.config.thresholdSeconds input.now table
        blockedPid blockingPid row))
    (hresolve : ∀ table seenKeys, P table →
      P (resolveStale inst.pk seenKeys input.now table))
    (h : P s.lockAlerts) : P (cycle env inst s input).lockAlerts := by
  have hsnapshot : ∀ {blocking table},
      snapshotTable env inst input blocking s.lockAlerts = .ok table →
      P table := by
    intro blocking table htable
    obtain ⟨stored, hstored, rfl⟩ := snapshotTable_stored htable
    exact hresolve _ _ (upsertLockAlerts_preserves hstore hstored h)
  have hend := processInstance_end env inst input s
  unfold cycle
  generalize (processInstance env inst input s).1 = result at hend
  generalize (processInstance env inst input s).2 = after at hend ⊢
  cases hend with
  | notFetched => exact h
  | notStored => exact h
  | notTracked _ htable => exact hsnapshot htable
  | completed _ htable => exact hsnapshot htable

theorem cycle_longQueries (env : MonitorEnv) (inst : RDSInstance)
    (input : CycleInput) (s : MonitorState) :
    (cycle env inst s input).longQueries = s.longQueries ∨
      ∃ activity, (cycle env inst s input).longQueries =
        (processLongQueries env.lib env.app input.config input.now inst.pk
          activity input.deliverLongQueries s.longQueries).2 := by
  have hend := processInstance_end env inst input s
  unfold cycle
  generalize (processInstance env inst input s).1 = result at hend
  generalize (processInstance env inst input s).2 = after at hend ⊢
  cases hend with
  | notFetched => exact .inl rfl
  | notStored => exact .inl rfl
  | @notTracked activity _ _ _ _ _ _ htrack =>
      exact .inr ⟨activity, (congrArg Prod.snd htrack).symm⟩
  | @completed activity _ _ _ _ _ _ htrack _ =>
      exact .inr ⟨activity, (congrArg Prod.snd htrack).symm⟩

end Cases

end HealthGrid.Monitor
