import HealthGrid.Db.Connection
import HealthGrid.Foundation.Dict

/-!
# Terminating sessions

`kill_pid` and `kill_pids`, over the statements they run on the monitored
server.  Each statement takes effect at once: the connections are in
autocommit mode.
-/

namespace HealthGrid.Db

open HealthGrid.Foundation

/-- The statements of both functions on a server with state `σ`. -/
structure TerminationServer (σ : Type) where
  /-- `SELECT COUNT(*)` of the sessions with this PID in this database. -/
  countSessions : String → Int → Call String σ Nat
  /-- `KILL CONNECTION` for MySQL and MariaDB, `KILL` for SQL Server. -/
  kill : Int → Call String σ Unit
  /-- `GUARDED_TERMINATE_QUERY`, connected to this database. -/
  guardedTerminate : String → Bool → Int → Call String σ Bool

variable {σ α : Type}

/-- `cur.execute`: the exception of a statement is the driver's. -/
def runStatement (statement : Call String σ α) : Call Exn σ α := fun s =>
  ((statement s).1.mapError .driverError, (statement s).2)

/-- `fetchone()[0]`: a mapping has no key `0`. -/
def firstColumn (cursorKind : CursorKind) (value : α) : Except Exn α :=
  match cursorKind with
  | .tuple => .ok value
  | .mapping => .error (.keyError "0")

/-- `_mysql_pid_in_db` and `_mssql_pid_in_db`. -/
def pidInDb (server : TerminationServer σ) (conn : ConnectArgs) (pid : Int) :
    Call Exn σ Bool := do
  let count ← runStatement (server.countSessions conn.database pid)
  let count ← Call.ofExcept (firstColumn conn.cursorKind count)
  pure (count != 0)

def killCounted (server : TerminationServer σ) (conn : ConnectArgs)
    (pid : Int) : Call Exn σ Bool := do
  if ← pidInDb server conn pid then
    runStatement (server.kill pid)
    pure true
  else pure false

/-- The PostgreSQL branch of `kill_pid`. -/
def killGuarded (server : TerminationServer σ) (conn : ConnectArgs)
    (allowReplication : Bool) (pid : Int) : Call Exn σ Bool :=
  runStatement (server.guardedTerminate conn.database allowReplication pid)

def killPid (server : TerminationServer σ) (drivers : Drivers)
    (inst : RDSInstance) (pid : Int) (allowReplication : Bool) :
    Call Exn σ Bool := do
  let conn ← Call.ofExcept (getConnection drivers inst)
  if isMysql inst || isMssql inst then killCounted server conn pid
  else killGuarded server conn allowReplication pid

def killLoop (kill : Int → Call Exn σ Bool) :
    List Int → Dict Int Bool → Call Exn σ (Dict Int Bool)
  | [], results => pure results
  | pid :: pids, results => do
      let terminated ← kill pid
      killLoop kill pids (results.set pid terminated)

def killPids (server : TerminationServer σ) (drivers : Drivers)
    (inst : RDSInstance) (pids : List Int) (allowReplication : Bool) :
    Call Exn σ (Dict Int Bool) := do
  let conn ← Call.ofExcept (getConnection drivers inst)
  if isMysql inst || isMssql inst then
    -- `except Exception: results[pid] = False`
    killLoop (fun pid => Call.tryExcept (killCounted server conn pid)
      (fun _ => pure false)) pids .empty
  else
    killLoop (killGuarded server conn allowReplication) pids .empty

/-! ## What the branches do -/

section Branches

variable {server : TerminationServer σ} {drivers : Drivers}
  {inst : RDSInstance} {conn : ConnectArgs} {s : σ}

theorem isPostgresql_iff :
    (isMysql inst || isMssql inst) = false ↔ inst.engine = .postgresql := by
  cases hengine : inst.engine <;> simp [isMysql, isMssql, hengine]

theorem getConnection_cursorKind (h : getConnection drivers inst = .ok conn) :
    conn.cursorKind = if isMysql inst || isMssql inst then .mapping
      else .tuple := by
  obtain ⟨user, password, rfl⟩ := getConnection_args h
  rfl

theorem getConnection_database (h : getConnection drivers inst = .ok conn) :
    conn.database = inst.dbName := by
  obtain ⟨user, password, rfl⟩ := getConnection_args h
  rfl

variable (server)

theorem killCounted_mapping (hkind : conn.cursorKind = .mapping) (pid : Int)
    (s : σ) :
    ∃ e, killCounted server conn pid s =
      (.error e, (server.countSessions conn.database pid s).2) := by
  unfold killCounted pidInDb
  cases hcount : server.countSessions conn.database pid s with
  | mk result s' =>
      cases result with
      | error message =>
          have hrun : runStatement (server.countSessions conn.database pid) s =
              (.error (.driverError message), s') := by
            rw [runStatement, hcount]
            rfl
          exact ⟨_, Call.bind_error (Call.bind_error hrun)⟩
      | ok count =>
          have hrun : runStatement (server.countSessions conn.database pid) s =
              (.ok count, s') := by
            rw [runStatement, hcount]
            rfl
          have hcolumn : firstColumn conn.cursorKind count =
              .error (.keyError "0") := by
            rw [hkind]
            rfl
          refine ⟨.keyError "0", Call.bind_error ?_⟩
          rw [Call.bind_ok hrun, hcolumn]
          rfl

theorem killPid_mapping (hconn : getConnection drivers inst = .ok conn)
    (hengine : inst.engine ≠ .postgresql) (pid : Int)
    (allowReplication : Bool) (s : σ) :
    ∃ e, killPid server drivers inst pid allowReplication s =
      (.error e, (server.countSessions conn.database pid s).2) := by
  have hbranch : (isMysql inst || isMssql inst) = true := by
    rw [← Bool.not_eq_false, isPostgresql_iff]
    exact hengine
  have hkind : conn.cursorKind = .mapping := by
    rw [getConnection_cursorKind hconn, if_pos hbranch]
  unfold killPid
  rw [hconn, Call.bind_ok (Call.ofExcept_run _ s), if_pos hbranch]
  exact killCounted_mapping server hkind pid s

theorem killPid_postgresql (hconn : getConnection drivers inst = .ok conn)
    (hengine : inst.engine = .postgresql) (pid : Int)
    (allowReplication : Bool) (s : σ) :
    killPid server drivers inst pid allowReplication s =
      killGuarded server conn allowReplication pid s := by
  unfold killPid
  rw [hconn, Call.bind_ok (Call.ofExcept_run _ s), isPostgresql_iff.mpr hengine,
    if_neg Bool.false_ne_true]

theorem killPids_postgresql (hconn : getConnection drivers inst = .ok conn)
    (hengine : inst.engine = .postgresql) (pids : List Int)
    (allowReplication : Bool) (s : σ) :
    killPids server drivers inst pids allowReplication s =
      killLoop (killGuarded server conn allowReplication) pids .empty s := by
  unfold killPids
  rw [hconn, Call.bind_ok (Call.ofExcept_run _ s), isPostgresql_iff.mpr hengine,
    if_neg Bool.false_ne_true]

theorem killPids_mapping {τ : Type} (part : σ → τ)
    (hcount : ∀ database pid s,
      part (server.countSessions database pid s).2 = part s)
    (hengine : inst.engine ≠ .postgresql) (pids : List Int)
    (allowReplication : Bool) (s : σ) :
    part (killPids server drivers inst pids allowReplication s).2 = part s := by
  have hbranch : (isMysql inst || isMssql inst) = true := by
    rw [← Bool.not_eq_false, isPostgresql_iff]
    exact hengine
  unfold killPids
  cases hconn : getConnection drivers inst with
  | error e =>
      rw [Call.bind_error (Call.ofExcept_run _ s)]
  | ok conn =>
      have hkind : conn.cursorKind = .mapping := by
        rw [getConnection_cursorKind hconn, if_pos hbranch]
      rw [Call.bind_ok (Call.ofExcept_run _ s), if_pos hbranch]
      generalize Dict.empty = results
      induction pids generalizing results s with
      | nil => rfl
      | cons pid pids ih =>
          obtain ⟨e, herror⟩ := killCounted_mapping server hkind pid s
          rw [killLoop, Call.bind_ok (Call.tryExcept_error herror), ih]
          exact hcount conn.database pid s

end Branches

end HealthGrid.Db
