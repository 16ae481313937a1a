import HealthGrid.Models
import HealthGrid.Views.Overview

/-!
# The pages of an account

The answers to the requests that only read the dashboard: the instance list and
its cards, the page of an instance, the form that copies an instance, and the
lists of the API.  An answer holds the columns that its template or serializer
prints.
-/

namespace HealthGrid.Views.Reading

open HealthGrid.Foundation HealthGrid.Db HealthGrid.Access HealthGrid.Registry
open HealthGrid.Views.Overview

structure ReadingLibrary extends OverviewLibrary where
  registry : RegistryLibrary
  isDigit : Char → Bool

/-! ## Rows -/

inductive LoggedAction where
  | killSession
  | killChain
  | bulkKill
  | killReplicationSlot
  | dropReplicationSlot
  | addInstance
  | removeInstance
  | renameInstance
  | updateSlotPermissions
  | runQuery
  deriving DecidableEq, Repr

/-- An audit log as the API shows it.  Its instance may have been removed. -/
structure AuditEntry where
  pk : Nat
  inst : Option Nat
  instanceName : String
  action : LoggedAction
  targetPid : Option Int
  targetQuery : String
  performedBy : Option Nat
  performedAt : Time
  result : AuditResult
  detail : String
  deriving DecidableEq, Repr

structure ExecutionRow extends QueryRunnerExecution where
  previewedAt : Time
  deriving DecidableEq, Repr

/-- What the pages read; `servers` is what the server of an instance would
answer.  `createdAt` is the column of an instance, and `grantPk` the key of a
query-runner grant. -/
structure Dashboard where
  tables : AccessTables
  instances : InstanceTable
  createdAt : Nat → Time
  grantPk : Nat × Nat → Nat
  links : List DashboardLink
  auditLogs : List AuditEntry
  executions : List ExecutionRow
  servers : InstanceRecord → CardCalls

def Dashboard.username (w : Dashboard) (pk : Nat) : Option String :=
  (w.tables.accounts.findPk? pk).map Account.username

def latest {ρ : Type} (time : ρ → Time) (rows : List ρ) : List ρ :=
  rows.mergeSort fun row other => decide (time other ≤ time row)

/-! ## Columns -/

section Columns

variable (lib : ReadingLibrary) (w : Dashboard) (user : Account)
  (record : InstanceRecord)

def maskEndpoint (value : String) : String :=
  let value := PyText.strip value.toList
  let parts := value.splitOn '.'
  if value = [] then "—"
  else if 4 ≤ parts.length ∧
      parts.all (fun part => part ≠ [] && part.all lib.isDigit) = true then
    String.ofList (List.intercalate ['.']
      (parts.take 2 ++ ["•••".toList, "•••".toList]))
  else if 1 < parts.length then
    let first := parts.head?.getD []
    String.ofList (first.take (min 5 (max 2 (first.length / 2)))) ++ "••••" ++
      "." ++ String.ofList (List.intercalate ['.'] parts.tail)
  else if value.length ≤ 4 then "••••"
  else String.ofList (value.take 2) ++ "••••" ++
    String.ofList (value.drop (value.length - 2))

def shownHost : String :=
  if user.isSuperuser then record.host else maskEndpoint lib record.host

/-- The columns that the pages print, the others left blank. -/
def printed : InstanceRecord :=
  { InstanceRecord.blank with
    pk := record.pk
    name := record.name
    connectionGroup := record.connectionGroup
    engine := record.engine
    dbIdentifier := record.dbIdentifier
    region := record.region
    host := shownHost lib user record
    port := record.port
    dbName := record.dbName
    excludeFromGlobalNotifications := record.excludeFromGlobalNotifications
    isActive := record.isActive }

structure ApiInstance where
  id : Nat
  name : String
  engine : String
  dbIdentifier : String
  region : String
  host : String
  port : Nat
  dbName : String
  username : String
  lockControlEnabled : Bool
  controlUsername : String
  excludeFromGlobalNotifications : Bool
  sslRequired : Bool
  isActive : Bool
  addedBy : Option Nat
  createdAt : Time
  deriving DecidableEq, Repr

def toRepresentation : ApiInstance where
  id := record.pk
  name := record.name
  engine := record.engine
  dbIdentifier := record.dbIdentifier
  region := record.region
  host := shownHost lib user record
  port := record.port
  dbName := record.dbName
  username := record.username
  lockControlEnabled := record.lockControlEnabled
  controlUsername := record.controlUsername
  excludeFromGlobalNotifications := record.excludeFromGlobalNotifications
  sslRequired := record.sslRequired
  isActive := record.isActive
  addedBy := record.addedBy
  createdAt := w.createdAt record.pk

structure AuditLine where
  performedAt : Time
  action : LoggedAction
  targetPid : Option Int
  performedBy : Option String
  result : AuditResult
  detail : String
  deriving DecidableEq, Repr

def auditLine (entry : AuditEntry) : AuditLine where
  performedAt := entry.performedAt
  action := entry.action
  targetPid := entry.targetPid
  performedBy := entry.performedBy.bind w.username
  result := entry.result
  detail := entry.detail

structure PendingLine where
  pk : Nat
  username : Option String
  previewedAt : Time
  rowsAffected : Option Int
  sql : String
  deriving DecidableEq, Repr

def pendingLine (row : ExecutionRow) : PendingLine where
  pk := row.pk
  username := row.user.bind w.username
  previewedAt := row.previewedAt
  rowsAffected := row.rowsAffected
  sql := row.sql

structure HistoryLine where
  resolvedAt : Time
  username : Option String
  status : ExecutionStatus
  rowsAffected : Option Int
  sql : String
  deriving DecidableEq, Repr

def historyLine (row : ExecutionRow) : HistoryLine where
  resolvedAt := row.resolvedAt.getD row.previewedAt
  username := row.user.bind w.username
  status := row.status
  rowsAffected := row.rowsAffected
  sql := row.sql

end Columns

/-! ## Answers -/

section Printed

variable (lib : ReadingLibrary) (user : Account)

def printedItem (item : DatabaseItem) : DatabaseItem :=
  { item with inst := printed lib user item.inst }

/-- A row of a group's card says no more than that it is unreachable. -/
def printedRow (item : DatabaseItem) : DatabaseItem :=
  { printedItem lib user item with error := none }

def printedCard (card : GroupCard) : GroupCard :=
  { card with
    inst := printed lib user card.inst
    databases := card.databases.map (printedRow lib user)
    additionalDatabases := card.additionalDatabases.map (printedRow lib user) }

def printedGroup (g : InstanceGroup) : InstanceGroup :=
  { g with inst := printed lib user g.inst }

def printedPage (page : ListPage) : ListPage :=
  { page with
    instances := page.instances.map (printed lib user)
    instanceGroups := page.instanceGroups.map (printedGroup lib user) }

end Printed

structure InstanceCard where
  item : DatabaseItem
  canOperateInstance : Bool
  deriving DecidableEq, Repr

structure AdministratorPanel where
  lockControlEnabled : Bool
  controlUsername : String
  queryRunnerEnabled : Bool
  queryRunnerUsername : String
  queryRunnerGrants : List (Nat × Option String)
  deriving DecidableEq, Repr

structure DetailPage where
  inst : InstanceRecord
  addedBy : Option String
  createdAt : Time
  auditLogs : List AuditLine
  canOperateInstance : Bool
  canManageNotifications : Bool
  canRunQueries : Bool
  queryRunnerPending : Option (List PendingLine)
  queryRunnerHistory : Option (List HistoryLine)
  ownerTeamsWebhookUrl : Option String
  administratorPanel : Option AdministratorPanel
  deriving DecidableEq, Repr

structure Prefill where
  name : String
  dbIdentifier : String
  engine : String
  region : String
  host : String
  port : Nat
  databaseNames : String
  dbName : String
  username : String
  lockControlEnabled : Bool
  controlUsername : String
  ownerTeamsWebhookUrl : String
  excludeFromGlobalNotifications : Bool
  password : String
  sslRequired : Bool
  deriving DecidableEq, Repr

inductive PageRequest where
  | instanceList
  | instanceGroupCard (groupId : Nat)
  | instanceCard (pk : Nat)
  | instanceDetail (pk : Nat)
  | addInstance (extend duplicate : Option Nat)
  | apiInstances
  | apiInstance (pk : Nat)
  | apiAuditLogs (instanceId : Option Nat)
  | apiAuditLog (instanceId : Option Nat) (pk : Nat)
  deriving DecidableEq, Repr

inductive PageAnswer where
  /-- the login page, or the refusal of the API -/
  | signIn
  | instanceList (page : ListPage)
  | instanceGroupCard (card : GroupCard)
  | instanceCard (card : InstanceCard)
  | instanceDetail (page : DetailPage)
  | addInstance (prefill : Option Prefill) (extendInstance : Option Nat)
  | instances (rows : List ApiInstance)
  | inst (row : ApiInstance)
  | auditLogs (entries : List AuditEntry)
  | auditLog (entry : AuditEntry)
  deriving DecidableEq, Repr

/-! ## Views -/

section Views

variable (lib : ReadingLibrary) (drivers : Drivers) (w : Dashboard)
  (user : Account)

def Dashboard.accessible : List InstanceRecord :=
  accessibleInstances w.tables user w.instances

/-- `get_object_or_404`, and then `_require_instance_access`. -/
def getViewable (pk : Nat) (write : Bool) : Except Exn InstanceRecord :=
  match w.instances.findPk? pk with
  | none => .error (.http404 "No RDSInstance matches the given query.")
  | some record => do
      requireInstanceAccess w.tables user record.target write
      return record

def instanceCard (pk : Nat) : Except Exn InstanceCard := do
  let record ← getViewable w user pk false
  let item ← databaseItem lib.toOverviewLibrary drivers
    (w.servers record).toCatalogCalls record
  return ⟨printedItem lib user item,
    canOperateInstance w.tables user record.target⟩

def executionsOf (record : InstanceRecord) : List ExecutionRow :=
  latest ExecutionRow.previewedAt (w.executions.filter fun row =>
    row.instancePk == record.pk && (user.isSuperuser || row.user == some user.pk))

def administratorPanel (record : InstanceRecord) : AdministratorPanel where
  lockControlEnabled := record.lockControlEnabled
  controlUsername := record.controlUsername
  queryRunnerEnabled := record.queryRunnerEnabled
  queryRunnerUsername := record.queryRunnerUsername
  queryRunnerGrants := (w.tables.queryRunnerGrants.filter fun grant =>
    grant.2 == record.pk).map fun grant => (w.grantPk grant, w.username grant.1)

def instanceDetail (pk : Nat) : Except Exn DetailPage := do
  let record ← getViewable w user pk false
  let allowedToRunQueries := canRunQueries w.tables user record.target
  let executions := executionsOf w user record
  let canOperate := canOperateInstance w.tables user record.target
  let canManage := canManageInstanceNotifications w.tables user record.target
  return {
    inst := printed lib user record
    addedBy := record.addedBy.bind w.username
    createdAt := w.createdAt record.pk
    auditLogs := ((latest AuditEntry.performedAt (w.auditLogs.filter fun entry =>
      entry.inst == some record.pk)).take 25).map (auditLine w)
    canOperateInstance := canOperate
    canManageNotifications := canManage
    canRunQueries := allowedToRunQueries
    queryRunnerPending := if allowedToRunQueries then
      some (((executions.filter fun row => row.status == .pending).take 10).map
        (pendingLine w))
      else none
    queryRunnerHistory := if allowedToRunQueries then
      some (((executions.filter fun row => row.status != .pending).take 10).map
        (historyLine w))
      else none
    ownerTeamsWebhookUrl := if canOperate && canManage then
      some record.ownerTeamsWebhookUrl else none
    administratorPanel := if canOperate && user.isSuperuser then
      some (administratorPanel w record) else none }

def prefillOf (extending : Bool) (record : InstanceRecord) :
    Except Exn Prefill := do
  let password ← getPassword lib.registry record
  return {
    name := record.name
    dbIdentifier := record.dbIdentifier
    engine := record.engine
    region := record.region
    host := record.host
    port := record.port
    databaseNames := if extending then "" else record.dbName
    dbName := if extending then "" else record.dbName
    username := record.username
    lockControlEnabled := user.isSuperuser && record.lockControlEnabled
    controlUsername := if user.isSuperuser && record.lockControlEnabled then
      record.controlUsername else ""
    ownerTeamsWebhookUrl := record.ownerTeamsWebhookUrl
    excludeFromGlobalNotifications := record.excludeFromGlobalNotifications
    password := password
    sslRequired := record.sslRequired }

def addInstanceForm (extend duplicate : Option Nat) :
    Except Exn PageAnswer := do
  requireStaff user
  match extend.or duplicate with
  | none => return .addInstance none none
  | some pk =>
      let source ← getViewable w user pk true
      let prefill ← prefillOf lib user extend.isSome source
      return .addInstance (some prefill) (extend.map fun _ => source.pk)

/-- `AuditLogViewSet`, behind `IsAdminUser`. -/
def auditLogsOf (instanceId : Option Nat) : Except Exn (List AuditEntry) :=
  if !user.isStaff then
    .error (.permissionDenied
      "You do not have permission to perform this action.")
  else
    .ok (latest AuditEntry.performedAt (auditQueryset w.tables user w.instances
      AuditEntry.inst instanceId w.auditLogs))

def answer : PageRequest → Except Exn PageAnswer
  | .instanceList =>
      .ok (.instanceList (printedPage lib user (instanceList
        lib.toOverviewLibrary w.tables user w.instances w.links)))
  | .instanceGroupCard groupId => do
      let card ← groupCard lib.toOverviewLibrary drivers w.tables user
        w.instances w.servers groupId
      return .instanceGroupCard (printedCard lib user card)
  | .instanceCard pk => do
      return .instanceCard (← instanceCard lib drivers w user pk)
  | .instanceDetail pk => do
      return .instanceDetail (← instanceDetail lib w user pk)
  | .addInstance extend duplicate => addInstanceForm lib w user extend duplicate
  | .apiInstances =>
      .ok (.instances ((orderBy (recordOrder lib.toOverviewLibrary)
        (w.accessible user)).map (toRepresentation lib w user)))
  | .apiInstance pk =>
      match apiObject w.tables user w.instances pk with
      | none => .error (.http404 "No RDSInstance matches the given query.")
      | some record => .ok (.inst (toRepresentation lib w user record))
  | .apiAuditLogs instanceId => do
      return .auditLogs (← auditLogsOf w user instanceId)
  | .apiAuditLog instanceId pk => do
      let entries ← auditLogsOf w user instanceId
      match entries.find? fun entry => entry.pk == pk with
      | none => throw (.http404 "No AuditLog matches the given query.")
      | some entry => return .auditLog entry

/-- The session keeps the account that signed in. -/
def respond (requester : Nat) (request : PageRequest) :
    Except Exn PageAnswer :=
  match w.tables.accounts.findPk? requester with
  | none => .ok .signIn
  | some user =>
      if user.isActive then answer lib drivers w user request else .ok .signIn

end Views

end HealthGrid.Views.Reading
