import HealthGrid.Db.Connection
import HealthGrid.Foundation.Dict
import Mathlib.Algebra.Order.Ring.Int

/-!
# The databases of a whole server

`fetch_server_overview` reads the databases of the server that an instance is
on, with the sessions and locks counted for each.
-/

namespace HealthGrid.Db

open HealthGrid.Foundation

structure ActivityCounts where
  totalSessions : Option Int
  activeSessions : Option Int
  idleSessions : Option Int
  deriving DecidableEq, Repr

/-- What each statement of one overview would return or raise. -/
structure OverviewCalls where
  databases : Except String (List String)
  activityCounts : Except String (List (String × ActivityCounts))
  lockCounts : Except String (List (String × Option Int))

structure DatabaseCounts where
  name : String
  total : Int
  active : Int
  idle : Int
  locks : Int
  deriving DecidableEq, Repr

structure ServerOverview where
  databases : List DatabaseCounts
  total : Int
  active : Int
  idle : Int
  locks : Int
  deriving DecidableEq, Repr

def databaseCounts (activityCounts : Dict String ActivityCounts)
    (lockCounts : Dict String (Option Int)) (name : String) : DatabaseCounts :=
  let counts := (activityCounts.get? name).getD ⟨none, none, none⟩
  { name := name
    total := counts.totalSessions.getD 0
    active := counts.activeSessions.getD 0
    idle := counts.idleSessions.getD 0
    locks := ((lockCounts.get? name).getD none).getD 0 }

def databasesFromCounts (databaseNames : List String)
    (activityCounts : Dict String ActivityCounts)
    (lockCounts : Dict String (Option Int)) : ServerOverview :=
  let databases := databaseNames.map (databaseCounts activityCounts lockCounts)
  { databases := databases
    total := (databases.map DatabaseCounts.total).sum
    active := (databases.map DatabaseCounts.active).sum
    idle := (databases.map DatabaseCounts.idle).sum
    locks := (databases.map DatabaseCounts.locks).sum }

def fetchServerOverview (drivers : Drivers) (calls : OverviewCalls)
    (inst : RDSInstance) : Except Exn ServerOverview :=
  if isMysql inst then
    .error (.connectionError ("Server-wide database discovery is currently " ++
      "available for PostgreSQL and MSSQL endpoints only."))
  else do
    let _conn ← getConnection drivers inst
    let databaseNames ← calls.databases.mapError .driverError
    let activityCounts ← calls.activityCounts.mapError .driverError
    let lockCounts ← calls.lockCounts.mapError .driverError
    return databasesFromCounts databaseNames (Dict.empty.setAll activityCounts)
      (Dict.empty.setAll lockCounts)

end HealthGrid.Db
