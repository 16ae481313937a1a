import HealthGrid.Foundation.OpenTable
import HealthGrid.Foundation.PyText

/-!
# Data model

The columns of `monitor/models.py` that the modelled functions read or write.
Primary keys and user ids are natural numbers, times are microseconds since
the epoch in UTC, and a foreign key that may be null is an option.
-/

namespace HealthGrid

open HealthGrid.Foundation

abbrev Time := Int

inductive Engine where
  | postgresql
  | mysql
  | mariadb
  | mssql
  deriving DecidableEq, Repr

structure RDSInstance where
  pk : Nat
  name : String
  engine : Engine
  dbIdentifier : String
  host : String
  port : Nat
  dbName : String
  username : String
  passwordEncrypted : String
  lockControlEnabled : Bool
  controlUsername : String
  controlPasswordEncrypted : String
  queryRunnerEnabled : Bool
  queryRunnerUsername : String
  queryRunnerPasswordEncrypted : String
  sslRequired : Bool
  deriving DecidableEq, Repr

def isMysql (inst : RDSInstance) : Bool :=
  inst.engine == .mysql || inst.engine == .mariadb

def isMssql (inst : RDSInstance) : Bool := inst.engine == .mssql

def sampleInstance (engine : Engine) : RDSInstance where
  pk := 1
  name := "orders"
  engine := engine
  dbIdentifier := "orders-db"
  host := "db.internal"
  port := 5432
  dbName := "orders"
  username := "app"
  passwordEncrypted := ""
  lockControlEnabled := false
  controlUsername := ""
  controlPasswordEncrypted := ""
  queryRunnerEnabled := true
  queryRunnerUsername := "runner"
  queryRunnerPasswordEncrypted := ""
  sslRequired := false

inductive ExecutionStatus where
  | pending
  | committed
  | discarded
  | failed
  deriving DecidableEq, Repr

structure QueryRunnerExecution where
  pk : Nat
  instancePk : Nat
  user : Option Nat
  sql : String
  status : ExecutionStatus
  rowsAffected : Option Int
  error : String
  resolvedAt : Option Time
  deriving DecidableEq, Repr

inductive AuditAction where
  | killSession
  | killChain
  | bulkKill
  | runQuery
  deriving DecidableEq, Repr

inductive AuditResult where
  | success
  | failed
  deriving DecidableEq, Repr

structure AuditLog where
  instancePk : Nat
  instanceName : String
  action : AuditAction
  targetPid : Option Int
  targetQuery : String
  performedBy : Nat
  result : AuditResult
  detail : String
  deriving DecidableEq, Repr

/-- The text of a pair of PIDs, `alert_key` of the incident they name. -/
def pairKey (blockedPid blockingPid : Int) : String :=
  toString blockedPid ++ ":" ++ toString blockingPid

theorem pairKey_inj {blocked blocking blocked' blocking' : Int}
    (h : pairKey blocked blocking = pairKey blocked' blocking') :
    blocked = blocked' ∧ blocking = blocking' :=
  PyText.separated_ints_inj (c := ':') (by decide) (by decide) h

structure LockAlert where
  pk : Nat
  instancePk : Nat
  blockedPid : Int
  blockingPid : Int
  blockedUser : String
  blockingUser : String
  blockedQuery : String
  blockingQuery : String
  waitingSeconds : Int
  firstSeenAt : Time
  lastSeenAt : Time
  alertedAt : Option Time
  resolvedAt : Option Time
  clearReason : String
  clearedBy : String
  deriving DecidableEq, Repr

/-- The column is written once, when the incident is created. -/
def LockAlert.alertKey (alert : LockAlert) : String :=
  pairKey alert.blockedPid alert.blockingPid

def sampleAlert (blockedPid blockingPid : Int) : LockAlert where
  pk := 0
  instancePk := 1
  blockedPid := blockedPid
  blockingPid := blockingPid
  blockedUser := ""
  blockingUser := ""
  blockedQuery := ""
  blockingQuery := ""
  waitingSeconds := 300
  firstSeenAt := 0
  lastSeenAt := 0
  alertedAt := some 0
  resolvedAt := none
  clearReason := ""
  clearedBy := ""

instance : OpenRow LockAlert (Nat × String) where
  pk := LockAlert.pk
  key alert := (alert.instancePk, alert.alertKey)
  isOpen alert := alert.resolvedAt.isNone

structure LongQueryAlert where
  pk : Nat
  instancePk : Nat
  alertKey : String
  pid : Int
  username : String
  applicationName : String
  clientAddr : String
  query : String
  queryStart : Option Time
  durationSeconds : Int
  firstSeenAt : Time
  lastSeenAt : Time
  alertedAt : Option Time
  resolvedAt : Option Time
  deriving DecidableEq, Repr

instance : OpenRow LongQueryAlert (Nat × String) where
  pk := LongQueryAlert.pk
  key alert := (alert.instancePk, alert.alertKey)
  isOpen alert := alert.resolvedAt.isNone

structure LockNotificationState where
  lastFingerprint : String
  lastActiveKeys : List String
  lastSentAt : Option Time
  stormActive : Bool
  deriving DecidableEq, Repr

/-- The defaults of the model, with which `get_or_create` creates the row. -/
def LockNotificationState.fresh : LockNotificationState where
  lastFingerprint := ""
  lastActiveKeys := []
  lastSentAt := none
  stormActive := false

/-- Times of day are microseconds after midnight in the display time zone. -/
structure NotificationSettings where
  thresholdSeconds : Nat
  lockStormThreshold : Nat
  notificationScheduleEnabled : Bool
  notificationStartTime : Int
  notificationEndTime : Int
  manualQueryAlertEnabled : Bool
  manualQueryThresholdSeconds : Nat
  manualQueryExcludedUsers : String
  deriving DecidableEq, Repr

def hour : Int := 3600 * 1000000

def NotificationSettings.defaults : NotificationSettings where
  thresholdSeconds := 120
  lockStormThreshold := 100
  notificationScheduleEnabled := false
  notificationStartTime := 9 * hour
  notificationEndTime := 21 * hour
  manualQueryAlertEnabled := false
  manualQueryThresholdSeconds := 60
  manualQueryExcludedUsers := "applms,applos"

end HealthGrid
