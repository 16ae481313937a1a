import HealthGrid.Db.Termination

/-!
# The guard on terminations

`kill_pid` and `kill_pids` against a table of server sessions.  The guard
binds them to the registered database: a live session attached to it is
terminated and answered with true, anything else is left alone.
-/

namespace HealthGrid.Kill

open HealthGrid.Foundation HealthGrid.Db

structure Session where
  pid : Int
  database : String
  deriving DecidableEq, Repr

structure SessionTable where
  sessions : List Session
  pids_nodup : (sessions.map Session.pid).Nodup

namespace SessionTable

def attached (table : SessionTable) (pid : Int) (database : String) : Bool :=
  table.sessions.any fun session =>
    session.pid == pid && session.database == database

def live (table : SessionTable) (pid : Int) : Bool :=
  table.sessions.any fun session => session.pid == pid

def terminate (table : SessionTable) (pid : Int) : SessionTable where
  sessions := table.sessions.filter fun session => session.pid != pid
  pids_nodup := table.pids_nodup.sublist (List.filter_sublist.map _)

end SessionTable

def sessionServer : TerminationServer SessionTable where
  countSessions database pid := fun table =>
    (.ok (table.sessions.countP fun session =>
      session.pid == pid && session.database == database), table)
  kill pid := fun table =>
    if table.live pid then (.ok (), table.terminate pid)
    else (.error "Unknown thread id", table)
  guardedTerminate database _ pid := fun table =>
    if table.attached pid database then (.ok true, table.terminate pid)
    else (.ok false, table)

def guardedKill (database : String) (pid : Int) (table : SessionTable) :
    Bool × SessionTable :=
  if table.attached pid database then (true, table.terminate pid)
  else (false, table)

def KeepsGuard (drivers : Drivers) (inst : RDSInstance)
    (allowReplication : Bool) (pid : Int) (table : SessionTable) : Prop :=
  killPid sessionServer drivers inst pid allowReplication table =
      (.ok (guardedKill inst.dbName pid table).1,
        (guardedKill inst.dbName pid table).2) ∧
    ∃ results,
      killPids sessionServer drivers inst [pid] allowReplication table =
        (.ok results, (guardedKill inst.dbName pid table).2) ∧
      results.get? pid = some (guardedKill inst.dbName pid table).1

section

variable {drivers : Drivers} {inst : RDSInstance} {conn : ConnectArgs}

theorem killGuarded_sessions (hdatabase : conn.database = inst.dbName)
    (allowReplication : Bool) (pid : Int) (table : SessionTable) :
    killGuarded sessionServer conn allowReplication pid table =
      (.ok (guardedKill inst.dbName pid table).1,
        (guardedKill inst.dbName pid table).2) := by
  unfold killGuarded runStatement sessionServer guardedKill
  rw [hdatabase]
  dsimp only
  split <;> rfl

theorem keepsGuard_postgresql (hconn : getConnection drivers inst = .ok conn)
    (hengine : inst.engine = .postgresql) (allowReplication : Bool)
    (pid : Int) (table : SessionTable) :
    KeepsGuard drivers inst allowReplication pid table := by
  have hguarded := killGuarded_sessions (getConnection_database hconn)
    allowReplication pid table
  constructor
  · rw [killPid_postgresql sessionServer hconn hengine]
    exact hguarded
  · refine ⟨Dict.empty.set pid (guardedKill inst.dbName pid table).1, ?_, ?_⟩
    · rw [killPids_postgresql sessionServer hconn hengine, killLoop,
        Call.bind_ok hguarded]
      rfl
    · rw [Dict.get?_eq_some_iff]
      exact List.mem_singleton_self _

theorem not_keepsGuard_mapping (hconn : getConnection drivers inst = .ok conn)
    (hengine : inst.engine ≠ .postgresql) (allowReplication : Bool)
    (pid : Int) (table : SessionTable) :
    ¬ KeepsGuard drivers inst allowReplication pid table := by
  rintro ⟨hkill, -⟩
  obtain ⟨e, herror⟩ := killPid_mapping sessionServer hconn hengine pid
    allowReplication table
  rw [herror] at hkill
  cases (Prod.mk.inj hkill).1

end

/-- Once connected, the promise is kept exactly for PostgreSQL. -/
theorem keepsGuard_iff {drivers : Drivers} {inst : RDSInstance}
    {conn : ConnectArgs} (hconn : getConnection drivers inst = .ok conn)
    (allowReplication : Bool) (pid : Int) (table : SessionTable) :
    KeepsGuard drivers inst allowReplication pid table ↔
      inst.engine = .postgresql := by
  constructor
  · intro hkeeps
    by_contra hengine
    exact not_keepsGuard_mapping hconn hengine allowReplication pid table hkeeps
  · intro hengine
    exact keepsGuard_postgresql hconn hengine allowReplication pid table

def oneSession : SessionTable := ⟨[⟨7, "orders"⟩], by decide⟩

theorem keepsGuard_iff_orders :
    KeepsGuard openDrivers (sampleInstance .postgresql) false 7 oneSession ↔
      (sampleInstance .postgresql).engine = .postgresql := by
  have hconn : getConnection openDrivers (sampleInstance .postgresql) =
      .ok (connectArgs (sampleInstance .postgresql) "app" ""
        "healthgrid-control") := rfl
  exact keepsGuard_iff hconn false 7 oneSession

theorem mysql_session_survives :
    killPid sessionServer openDrivers (sampleInstance .mysql) 7 false
        oneSession = (.error (.keyError "0"), oneSession) ∧
      ¬ ∀ (engine : Engine) (pid : Int) (table : SessionTable),
        KeepsGuard openDrivers (sampleInstance engine) false pid table := by
  refine ⟨rfl, ?_⟩
  intro h
  have hkill := (h .mysql 7 oneSession).1
  cases (Prod.mk.inj hkill).1

end HealthGrid.Kill
