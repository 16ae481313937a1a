import HealthGrid.Db.Activity
import HealthGrid.Foundation.Dict

/-!
# One snapshot of the lock catalog

`_upsert_lock_alerts` stores the rows of one snapshot, and the cycle then
resolves the incidents of the instance that the snapshot no longer contains.
-/

namespace HealthGrid.Monitor

open HealthGrid.Foundation HealthGrid.Foundation.PyText HealthGrid.Db

def strPid : Option Int → String
  | some pid => toString pid
  | none => "None"

def lockKey (row : LockRow) : String :=
  strPid row.blockedPid ++ ":" ++ strPid row.blockingPid

def uniqueBlocking (blocking : List LockRow) : Dict String LockRow :=
  blocking.foldl
    (fun unique row =>
      match unique.get? (lockKey row) with
      | none => unique.set (lockKey row) row
      | some current =>
          if intOr row.waitingSeconds 0 > intOr current.waitingSeconds 0 then
            unique.set (lockKey row) row
          else unique)
    .empty

abbrev LockAlertTable := OpenTable LockAlert

/--
The rows whose values the columns of the app database can hold.  A row is
judged as a whole, also where an open incident only saves some of its columns.
-/
structure AppDatabase where
  acceptsLockRow : LockRow → Bool
  acceptsActivityRow : ActivityRow → Bool

def newLockAlert (instancePk pk : Nat) (blockedPid blockingPid : Int)
    (row : LockRow) (now : Time) : LockAlert where
  pk := pk
  instancePk := instancePk
  blockedPid := blockedPid
  blockingPid := blockingPid
  blockedUser := textOr row.blockedUser ""
  blockingUser := textOr row.blockingUser ""
  blockedQuery := textOr row.blockedQuery ""
  blockingQuery := textOr row.blockingQuery ""
  waitingSeconds := max 0 (intOr row.waitingSeconds 0)
  firstSeenAt := now
  lastSeenAt := now
  alertedAt := none
  resolvedAt := none
  clearReason := ""
  clearedBy := ""

def seenAgain (row : LockRow) (now : Time) (alert : LockAlert) : LockAlert :=
  { alert with
    lastSeenAt := now
    blockedUser := textOr row.blockedUser alert.blockedUser
    blockingUser := textOr row.blockingUser alert.blockingUser
    blockedQuery := textOr row.blockedQuery alert.blockedQuery
    blockingQuery := textOr row.blockingQuery alert.blockingQuery
    waitingSeconds :=
      max 0 (intOr row.waitingSeconds alert.waitingSeconds) }

def markAlerted (threshold : Nat) (now : Time) (alert : LockAlert) :
    LockAlert :=
  if alert.waitingSeconds ≥ threshold ∧ alert.alertedAt = none then
    { alert with alertedAt := some now }
  else alert

theorem seenAgain_keeps (row : LockRow) (now : Time) :
    Keeps (seenAgain row now) :=
  ⟨fun _ => rfl, fun _ => rfl, fun _ h => h⟩

section Mark

variable (threshold : Nat) (now : Time) (alert : LockAlert)

theorem markAlerted_eq :
    markAlerted threshold now alert =
      { alert with
        alertedAt := alert.alertedAt.or
          (if alert.waitingSeconds ≥ threshold then some now else none) } := by
  unfold markAlerted
  split
  · rename_i hmark
    rw [if_pos hmark.1, hmark.2, Option.none_or]
  · rename_i hkeep
    have hsame : alert.alertedAt.or
        (if alert.waitingSeconds ≥ threshold then some now else none) =
          alert.alertedAt := by
      cases halerted : alert.alertedAt with
      | some time => rfl
      | none => rw [if_neg (fun hwait => hkeep ⟨hwait, halerted⟩), Option.none_or]
    rw [hsame]

@[simp] theorem isOpen_markAlerted :
    isOpen (markAlerted threshold now alert) = isOpen alert := by
  rw [markAlerted_eq]
  rfl

@[simp] theorem waitingSeconds_markAlerted :
    (markAlerted threshold now alert).waitingSeconds =
      alert.waitingSeconds := by
  rw [markAlerted_eq]

theorem alertedAt_markAlerted :
    (markAlerted threshold now alert).alertedAt =
      alert.alertedAt.or
        (if alert.waitingSeconds ≥ threshold then some now else none) := by
  rw [markAlerted_eq]

theorem markAlerted_keeps : Keeps (markAlerted threshold now) where
  pk alert := by rw [markAlerted_eq]; rfl
  key alert := by rw [markAlerted_eq]; rfl
  isOpen alert h := by rwa [isOpen_markAlerted] at h

end Mark

section

variable (instancePk threshold nextPk : Nat) (blockedPid blockingPid : Int)
  (row : LockRow) (now : Time)

theorem pk_newLockAlert :
    pk (markAlerted threshold now
      (newLockAlert instancePk nextPk blockedPid blockingPid row now)) =
      nextPk :=
  (markAlerted_keeps threshold now).pk _

theorem key_newLockAlert :
    key (markAlerted threshold now
      (newLockAlert instancePk nextPk blockedPid blockingPid row now)) =
      (instancePk, pairKey blockedPid blockingPid) :=
  (markAlerted_keeps threshold now).key _

end

/-- `get_or_create` of the open incident, then the writes to it. -/
def storeLockRow (instancePk threshold : Nat) (now : Time)
    (table : LockAlertTable) (blockedPid blockingPid : Int) (row : LockRow) :
    LockAlertTable :=
  match h : table.findOpen? (instancePk, pairKey blockedPid blockingPid) with
  | none =>
      table.insert
        (markAlerted threshold now
          (newLockAlert instancePk table.nextPk blockedPid blockingPid row now))
        (pk_newLockAlert ..) (by rw [key_newLockAlert]; exact h)
  | some found =>
      table.update
        (fun alert =>
          if alert.pk = found.pk then
            markAlerted threshold now (seenAgain row now alert)
          else alert)
        (((markAlerted_keeps threshold now).comp
          (seenAgain_keeps row now)).ite _)

/-- One row of the transaction.  The PID columns do not take NULL. -/
def upsertLockAlert (app : AppDatabase) (instancePk threshold : Nat)
    (now : Time) (table : LockAlertTable) (row : LockRow) :
    Except Exn LockAlertTable :=
  match row.blockedPid, row.blockingPid with
  | some blockedPid, some blockingPid =>
      if app.acceptsLockRow row then
        .ok (storeLockRow instancePk threshold now table blockedPid
          blockingPid row)
      else .error (.appDatabaseError "value out of range for its column")
  | _, _ => .error (.appDatabaseError "null value in a PID column")

def upsertLockAlerts (app : AppDatabase) (instancePk threshold : Nat)
    (now : Time) (table : LockAlertTable) (rows : List LockRow) :
    Except Exn LockAlertTable :=
  rows.foldlM (upsertLockAlert app instancePk threshold now) table

section Transaction

variable {app : AppDatabase} {instancePk threshold : Nat} {now : Time}
  {table table' : LockAlertTable} {row : LockRow} {rows : List LockRow}

theorem upsertLockAlert_ok
    (h : upsertLockAlert app instancePk threshold now table row = .ok table') :
    ∃ blockedPid blockingPid, row.blockedPid = some blockedPid ∧
      row.blockingPid = some blockingPid ∧ app.acceptsLockRow row = true ∧
      table' = storeLockRow instancePk threshold now table blockedPid
        blockingPid row := by
  unfold upsertLockAlert at h
  split at h
  · rename_i blockedPid blockingPid hblocked hblocking
    split at h
    · rename_i haccepts
      exact ⟨blockedPid, blockingPid, hblocked, hblocking, haccepts,
        (Except.ok.inj h).symm⟩
    · cases h
  · cases h

theorem upsertLockAlerts_cons
    (h : upsertLockAlerts app instancePk threshold now table (row :: rows) =
      .ok table') :
    ∃ middle, upsertLockAlert app instancePk threshold now table row =
        .ok middle ∧
      upsertLockAlerts app instancePk threshold now middle rows =
        .ok table' := by
  unfold upsertLockAlerts at h
  rw [List.foldlM_cons] at h
  cases hrow : upsertLockAlert app instancePk threshold now table row with
  | error e =>
      rw [hrow] at h
      cases h
  | ok middle =>
      rw [hrow] at h
      exact ⟨middle, rfl, h⟩

theorem upsertLockAlerts_preserves {P : LockAlertTable → Prop}
    (hstore : ∀ table blockedPid blockingPid row, P table →
      P (storeLockRow instancePk threshold now table blockedPid blockingPid
        row))
    (h : upsertLockAlerts app instancePk threshold now table rows =
      .ok table') (htable : P table) : P table' := by
  induction rows generalizing table with
  | nil =>
      cases h
      exact htable
  | cons row rows ih =>
      obtain ⟨middle, hrow, hrest⟩ := upsertLockAlerts_cons h
      obtain ⟨_, _, -, -, -, rfl⟩ := upsertLockAlert_ok hrow
      exact ih hrest (hstore _ _ _ _ htable)

end Transaction

def Stale (instancePk : Nat) (seenKeys : List String) (alert : LockAlert) :
    Prop :=
  alert.instancePk = instancePk ∧ alert.resolvedAt = none ∧
    alert.alertKey ∉ seenKeys

instance (instancePk : Nat) (seenKeys : List String) :
    DecidablePred (Stale instancePk seenKeys) :=
  fun _ => inferInstanceAs (Decidable (_ ∧ _ ∧ _))

def clearAlert (now : Time) (alert : LockAlert) : LockAlert :=
  { alert with
    resolvedAt := some now
    clearReason :=
      if alert.clearReason = "" then "auto_clear" else alert.clearReason }

theorem clearAlert_keeps (now : Time) : Keeps (clearAlert now) :=
  ⟨fun _ => rfl, fun _ => rfl, fun _ h => by cases h⟩

def resolveStale (instancePk : Nat) (seenKeys : List String) (now : Time)
    (table : LockAlertTable) : LockAlertTable :=
  table.update
    (fun alert =>
      if Stale instancePk seenKeys alert then clearAlert now alert else alert)
    ((clearAlert_keeps now).ite _)

def clearedAlerts (instancePk : Nat) (seenKeys : List String) (now : Time)
    (table : LockAlertTable) : List LockAlert :=
  (table.rows.filter fun alert =>
    Stale instancePk seenKeys alert && alert.alertedAt.isSome).map
      (clearAlert now)

theorem mem_clearedAlerts {instancePk : Nat} {seenKeys : List String}
    {now : Time} {table : LockAlertTable} {alert : LockAlert}
    (h : alert ∈ clearedAlerts instancePk seenKeys now table) :
    alert ∈ (resolveStale instancePk seenKeys now table).rows ∧
      alert.instancePk = instancePk ∧ alert.resolvedAt = some now := by
  obtain ⟨before, hbefore, rfl⟩ := List.mem_map.mp h
  obtain ⟨hmem, hstale⟩ := List.mem_filter.mp hbefore
  obtain ⟨hstale, -⟩ := Bool.and_eq_true_iff.mp hstale
  have hstale := of_decide_eq_true hstale
  refine ⟨?_, hstale.1, rfl⟩
  rw [resolveStale, OpenTable.update_rows]
  exact List.mem_map.mpr ⟨before, hmem, if_pos hstale⟩

/-- `order_by("blocked_pid", "blocking_pid")`. -/
def orderByPids (alerts : List LockAlert) : List LockAlert :=
  alerts.insertionSort fun a b =>
    a.blockedPid < b.blockedPid ∨
      (a.blockedPid = b.blockedPid ∧ a.blockingPid ≤ b.blockingPid)

def activeAlerts (instancePk : Nat) (table : LockAlertTable) :
    List LockAlert :=
  orderByPids (table.rows.filter fun alert =>
    alert.instancePk == instancePk && alert.resolvedAt.isNone)

def eligibleAlerts (instancePk : Nat) (table : LockAlertTable) :
    List LockAlert :=
  orderByPids (table.rows.filter fun alert =>
    alert.instancePk == instancePk && alert.resolvedAt.isNone &&
      alert.alertedAt.isSome)

end HealthGrid.Monitor
