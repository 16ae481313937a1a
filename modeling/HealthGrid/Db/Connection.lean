import HealthGrid.Foundation.Call
import HealthGrid.Models

/-!
# Connections to a monitored database

`get_connection` and `get_query_runner_connection` open a driver connection
with different credentials and the same options.  The options that decide how
a connection behaves are kept: whether it is in autocommit mode, and whether
its rows are tuples or mappings keyed by column name.  Timeouts and the TLS
arguments are passed through by the source and read by nothing here.
-/

namespace HealthGrid.Db

open HealthGrid.Foundation

inductive Exn where
  | connectionError (message : String)
  | queryValidationError (message : String)
  | keyError (key : String)
  | driverError (message : String)
  | appDatabaseError (message : String)
  | permissionDenied (message : String)
  | http404 (message : String)
  deriving DecidableEq, Repr

def Exn.str : Exn → String
  | .connectionError message | .queryValidationError message
  | .driverError message | .appDatabaseError message
  | .permissionDenied message | .http404 message => message
  | .keyError key => key

inductive CursorKind where
  | tuple
  | mapping
  deriving DecidableEq, Repr

structure ConnectArgs where
  host : String
  port : Nat
  database : String
  user : String
  password : String
  autocommit : Bool
  cursorKind : CursorKind
  applicationName : String
  deriving DecidableEq, Repr

/-- What lies outside the repository: password decryption and `connect`. -/
structure Drivers where
  decrypt : String → Except String String
  connect : Engine → ConnectArgs → Except String Unit

def openDrivers : Drivers where
  decrypt := .ok
  connect _ _ := .ok ()

def decryptPassword (drivers : Drivers) (ciphertext : String) :
    Except Exn String :=
  if ciphertext = "" then .ok ""
  else (drivers.decrypt ciphertext).mapError .driverError

def mssqlSslRefusal : String :=
  "MSSQL connections cannot honor 'SSL required' with the bundled driver. " ++
    "Uncheck SSL required for this instance to connect."

def connectArgs (inst : RDSInstance) (user password applicationName : String) :
    ConnectArgs where
  host := inst.host
  port := inst.port
  database := inst.dbName
  user := user
  password := password
  autocommit := isMysql inst || isMssql inst
  cursorKind := if isMysql inst || isMssql inst then .mapping else .tuple
  applicationName := applicationName

/-- The `try` block both functions share. -/
def connectWith (drivers : Drivers) (inst : RDSInstance)
    (user password applicationName : String) : Except Exn ConnectArgs :=
  let args := connectArgs inst user password applicationName
  if isMssql inst && inst.sslRequired then
    .error (.connectionError mssqlSslRefusal)
  else
    match drivers.connect inst.engine args with
    | .ok () => .ok args
    | .error message => .error (.connectionError message)

def getConnection (drivers : Drivers) (inst : RDSInstance) :
    Except Exn ConnectArgs := do
  let useControlCredentials :=
    inst.lockControlEnabled && inst.controlUsername != ""
  let user :=
    if useControlCredentials then inst.controlUsername else inst.username
  let password ← decryptPassword drivers
    (if useControlCredentials then inst.controlPasswordEncrypted
      else inst.passwordEncrypted)
  connectWith drivers inst user password "healthgrid-control"

def getQueryRunnerConnection (drivers : Drivers) (inst : RDSInstance) :
    Except Exn ConnectArgs := do
  if !inst.queryRunnerEnabled || inst.queryRunnerUsername == "" then
    throw (.connectionError
      "Query-runner credentials are not configured for this instance.")
  let password ← decryptPassword drivers inst.queryRunnerPasswordEncrypted
  connectWith drivers inst inst.queryRunnerUsername password
    "healthgrid-query-runner"

theorem connectWith_args {drivers : Drivers} {inst : RDSInstance}
    {user password applicationName : String} {conn : ConnectArgs}
    (h : connectWith drivers inst user password applicationName = .ok conn) :
    conn = connectArgs inst user password applicationName := by
  unfold connectWith at h
  dsimp only at h
  split at h
  · cases h
  · split at h
    · exact (Except.ok.inj h).symm
    · cases h

theorem getConnection_args {drivers : Drivers} {inst : RDSInstance}
    {conn : ConnectArgs} (h : getConnection drivers inst = .ok conn) :
    ∃ user password,
      conn = connectArgs inst user password "healthgrid-control" := by
  unfold getConnection at h
  dsimp only at h
  generalize decryptPassword drivers _ = password at h
  cases password with
  | error e => cases h
  | ok password => exact ⟨_, password, connectWith_args h⟩

theorem getQueryRunnerConnection_args {drivers : Drivers} {inst : RDSInstance}
    {conn : ConnectArgs}
    (h : getQueryRunnerConnection drivers inst = .ok conn) :
    ∃ password, conn = connectArgs inst inst.queryRunnerUsername password
      "healthgrid-query-runner" := by
  unfold getQueryRunnerConnection at h
  split at h
  · cases h
  · generalize decryptPassword drivers _ = password at h
    cases password with
    | error e => cases h
    | ok password => exact ⟨password, connectWith_args h⟩

theorem getQueryRunnerConnection_autocommit {drivers : Drivers}
    {inst : RDSInstance} {conn : ConnectArgs}
    (h : getQueryRunnerConnection drivers inst = .ok conn) :
    conn.autocommit = true ↔ inst.engine ≠ .postgresql := by
  obtain ⟨password, rfl⟩ := getQueryRunnerConnection_args h
  cases hengine : inst.engine <;>
    simp [connectArgs, isMysql, isMssql, hengine]

end HealthGrid.Db
