import HealthGrid.Db.Connection

/-!
# Activity and lock catalog of a monitored database

`fetch_activity` opens a connection and reads both lists.  For MySQL and
MariaDB the lock catalog is read from one of two places.
-/

namespace HealthGrid.Db

open HealthGrid.Foundation.PyText

structure ActivityRow where
  pid : Option Int
  usename : Option String
  applicationName : Option String
  clientAddr : Option String
  state : Option String
  query : Option String
  queryStart : Option Time
  durationSeconds : Option Int
  deriving DecidableEq, Repr

structure LockRow where
  blockedPid : Option Int
  blockingPid : Option Int
  blockedUser : Option String
  blockingUser : Option String
  blockedQuery : Option String
  blockingQuery : Option String
  waitingSeconds : Option Int
  deriving DecidableEq, Repr

/-- What each statement of one fetch would return or raise. -/
structure CatalogCalls where
  activity : Except String (List ActivityRow)
  lockCatalog : Except String (List LockRow)
  fallbackCatalog : Except String (List LockRow)

def withTextDefaults (row : LockRow) : LockRow :=
  { row with
    blockedUser := some (textOr row.blockedUser "")
    blockingUser := some (textOr row.blockingUser "")
    blockedQuery := some (textOr row.blockedQuery "")
    blockingQuery := some (textOr row.blockingQuery "") }

/-- `MYSQL_LOCK_QUERY`, then the performance schema, then no rows at all. -/
def mysqlBlocking (calls : CatalogCalls) : List LockRow :=
  let rows :=
    match calls.lockCatalog with
    | .ok rows => rows
    | .error _ =>
        match calls.fallbackCatalog with
        | .ok rows => rows
        | .error _ => []
  rows.map withTextDefaults

def mssqlBlocking (calls : CatalogCalls) : Except Exn (List LockRow) :=
  match calls.lockCatalog with
  | .ok rows => .ok (rows.map withTextDefaults)
  | .error message => .error (.driverError message)

def fetchActivity (drivers : Drivers) (calls : CatalogCalls)
    (inst : RDSInstance) : Except Exn (List ActivityRow × List LockRow) := do
  let _conn ← getConnection drivers inst
  let activity ← calls.activity.mapError .driverError
  if isMysql inst then
    return (activity, mysqlBlocking calls)
  else if isMssql inst then
    let blocking ← mssqlBlocking calls
    return (activity, blocking)
  else
    let blocking ← calls.lockCatalog.mapError .driverError
    return (activity, blocking)

/-! ## The dashboard -/

/-- The row of the vitals query; the size is a text the server has formatted. -/
structure Vitals where
  totalConns : Option Int
  activeConns : Option Int
  idleConns : Option Int
  idleInTxn : Option Int
  waitingOnLocks : Option Int
  maxConns : Option Int
  dbSize : Option String
  longestActiveSeconds : Option Int
  deriving DecidableEq, Repr

structure TopTable where
  tableName : Option String
  totalBytes : Option Int
  sizeGb : Option String
  deriving DecidableEq, Repr

structure DashboardCalls extends CatalogCalls where
  vitals : Except String (Option Vitals)
  topTables : Except String (List TopTable)

structure Dashboard where
  activity : List ActivityRow
  blocking : List LockRow
  vitals : Option Vitals
  topTables : List TopTable
  deriving DecidableEq, Repr

/-- Vitals and tables are best-effort, except on MySQL and MariaDB. -/
def fetchActivityWithVitals (drivers : Drivers) (calls : DashboardCalls)
    (inst : RDSInstance) : Except Exn Dashboard := do
  let (activity, blocking) ← fetchActivity drivers calls.toCatalogCalls inst
  if isMysql inst then
    let vitals ← calls.vitals.mapError .driverError
    let topTables ← calls.topTables.mapError .driverError
    return ⟨activity, blocking, vitals, topTables⟩
  else
    return ⟨activity, blocking, calls.vitals.toOption.join,
      calls.topTables.toOption.getD []⟩

end HealthGrid.Db
