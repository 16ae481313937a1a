import HealthGrid.Db.QueryRunner
import HealthGrid.Foundation.Run
import Mathlib.Logic.Function.Basic

/-!
# The query-runner views

`preview_query`, `commit_query` and `discard_query`, taken as whole requests on
any registered instances.  What the permission and second-factor checks of a
request answer is part of the request, and so is what the application database
answers its writes.
-/

namespace HealthGrid.Views

open HealthGrid.Foundation HealthGrid.Db

variable {Site Data : Type}

structure Requester where
  pk : Nat
  isSuperuser : Bool
  canView : Bool
  canRunQueries : Bool
  mfaPassed : Bool
  deriving DecidableEq, Repr

/--
The monitored databases: the one that an instance's connections lead to, and
what a statement does to the data there.
-/
structure Targets (Site Data : Type) where
  site : RDSInstance → Site
  effect : Site → String → Data → Data

/--
What the application database answers a request's save of the execution row,
and its audit row.
-/
structure AppCalls where
  save : Except String Unit
  audit : Except String Unit

structure QueryRunnerState (Site Data : Type) where
  data : Site → Data
  executions : List QueryRunnerExecution
  nextPk : Nat
  auditLog : List AuditLog

abbrev Handler (Site Data : Type) := Call Exn (QueryRunnerState Site Data)

/-- `_log_audit`: a `DatabaseError` of the row's insert is swallowed. -/
def logAudit (app : AppCalls) (inst : RDSInstance) (user : Requester)
    (query : String) (result : AuditResult) (detail : String) :
    Handler Site Data Unit :=
  match app.audit with
  | .error _ => pure ()
  | .ok () => Call.modify fun s =>
      { s with auditLog := s.auditLog ++
          [⟨inst.pk, inst.name, .runQuery, none, query, user.pk, result,
            detail⟩] }

def onTarget [DecidableEq Site] {α : Type} (site : Site) (call : Call Exn Data α) :
    Handler Site Data α :=
  Call.zoom (fun s => s.data site)
    (fun data s => { s with data := Function.update s.data site data }) call

/-- `_require_instance_access` and `can_run_queries`. -/
def requireQueryRunner (user : Requester) : Handler Site Data Unit :=
  if !user.canView then
    Call.raise (.permissionDenied
      "You do not have access to this database instance.")
  else if !user.canRunQueries then
    Call.raise (.permissionDenied
      "You do not have query-runner access on this instance.")
  else pure ()

/-- `get_object_or_404` on the instance's pending rows, and the ownership check. -/
def ownPendingExecution (user : Requester) (inst : RDSInstance)
    (executionId : Nat) (executions : List QueryRunnerExecution) :
    Except Exn QueryRunnerExecution :=
  match executions.find? fun execution =>
      execution.pk == executionId && execution.instancePk == inst.pk &&
        execution.status == .pending with
  | none => .error (.http404
      "No QueryRunnerExecution matches the given query.")
  | some execution =>
      if execution.user != some user.pk && !user.isSuperuser then
        .error (.permissionDenied
          "You can only act on your own pending query preview.")
      else .ok execution

theorem ownPendingExecution_ok {user : Requester} {inst : RDSInstance}
    {executionId : Nat} {executions : List QueryRunnerExecution}
    {execution : QueryRunnerExecution}
    (h : ownPendingExecution user inst executionId executions =
      .ok execution) :
    execution ∈ executions ∧ execution.pk = executionId ∧
      execution.instancePk = inst.pk ∧ execution.status = .pending := by
  unfold ownPendingExecution at h
  split at h
  · cases h
  · rename_i found hfind
    split at h
    · cases h
    · cases h
      have hkey := List.find?_some hfind
      simp only [Bool.and_eq_true, beq_iff_eq] at hkey
      exact ⟨List.mem_of_find?_eq_some hfind, hkey.1.1, hkey.1.2, hkey.2⟩

def getOwnPendingExecution (user : Requester) (inst : RDSInstance)
    (executionId : Nat) : Handler Site Data QueryRunnerExecution :=
  fun s => (ownPendingExecution user inst executionId s.executions, s)

theorem getOwnPendingExecution_run {user : Requester} {inst : RDSInstance}
    {executionId : Nat} {s : QueryRunnerState Site Data}
    {result : Except Exn QueryRunnerExecution}
    (h : ownPendingExecution user inst executionId s.executions = result) :
    getOwnPendingExecution user inst executionId s = (result, s) := by
  rw [getOwnPendingExecution, h]

/-- `execution.save(update_fields=...)`: only the changed columns are written. -/
def saveExecution (app : AppCalls) (executionId : Nat)
    (change : QueryRunnerExecution → QueryRunnerExecution) :
    Handler Site Data Unit :=
  match app.save with
  | .error message => Call.raise (.appDatabaseError message)
  | .ok () => Call.modify fun s =>
      { s with executions := s.executions.map fun execution =>
          if execution.pk = executionId then change execution else execution }

def markCommitted (rowcount : Int) (now : Time)
    (execution : QueryRunnerExecution) : QueryRunnerExecution :=
  { execution with
    status := .committed, rowsAffected := some rowcount, resolvedAt := some now }

def markFailed (message : String) (now : Time)
    (execution : QueryRunnerExecution) : QueryRunnerExecution :=
  { execution with
    status := .failed, error := message, resolvedAt := some now }

def markDiscarded (now : Time) (execution : QueryRunnerExecution) :
    QueryRunnerExecution :=
  { execution with status := .discarded, resolvedAt := some now }

def createExecution (app : AppCalls) (user : Requester) (inst : RDSInstance)
    (statement : String) (rowcount : Int) : Handler Site Data Nat :=
  match app.save with
  | .error message => Call.raise (.appDatabaseError message)
  | .ok () => fun s =>
      (.ok s.nextPk,
        { s with
          executions := s.executions ++
            [⟨s.nextPk, inst.pk, some user.pk, statement, .pending,
              some rowcount, "", none⟩]
          nextPk := s.nextPk + 1 })

def mfaDetail (detail : String) : String :=
  "MFA verification required: " ++ detail

def previewQuery [DecidableEq Site] (drivers : Drivers)
    (targets : Targets Site Data) (calls : QueryRunnerCalls) (app : AppCalls)
    (user : Requester) (inst : RDSInstance) (sql : String) : Handler Site Data Unit := do
  requireQueryRunner user
  if !user.mfaPassed then
    logAudit app inst user "" .failed
      (mfaDetail ("[preview] " ++ (sql.take 200).toString))
  else
    Call.tryExcept
      (do
        let (statement, rowcount) ←
          onTarget (targets.site inst)
            (previewWriteQuery drivers (targets.effect (targets.site inst))
              calls inst sql)
        let executionId ← createExecution app user inst statement rowcount
        logAudit app inst user statement .success
          s!"[preview] rows_affected={rowcount} execution_id={executionId}")
      fun exc =>
        match exc with
        | .queryValidationError _ => pure ()
        | .connectionError message =>
            logAudit app inst user (sql.take 2000).toString .failed
              s!"[preview] {message}"
        | exc => Call.raise exc

def commitQuery [DecidableEq Site] (drivers : Drivers)
    (targets : Targets Site Data) (calls : QueryRunnerCalls) (app : AppCalls)
    (user : Requester) (inst : RDSInstance) (executionId : Nat) (now : Time) :
    Handler Site Data Unit := do
  requireQueryRunner user
  let execution ← getOwnPendingExecution user inst executionId
  if !user.mfaPassed then
    logAudit app inst user "" .failed
      (mfaDetail s!"[commit] execution_id={executionId}")
  else
    Call.tryExcept
      (do
        let rowcount ←
          onTarget (targets.site inst)
            (commitWriteQuery drivers (targets.effect (targets.site inst))
              calls inst execution.sql)
        saveExecution app executionId (markCommitted rowcount now)
        logAudit app inst user execution.sql .success
          s!"[commit] rows_affected={rowcount} execution_id={executionId}")
      fun exc =>
        match exc with
        | .connectionError message => do
            saveExecution app executionId (markFailed message now)
            logAudit app inst user execution.sql .failed s!"[commit] {message}"
        | exc => Call.raise exc

def discardQuery (app : AppCalls) (user : Requester) (inst : RDSInstance)
    (executionId : Nat) (now : Time) : Handler Site Data Unit := do
  requireQueryRunner user
  let execution ← getOwnPendingExecution user inst executionId
  saveExecution app executionId (markDiscarded now)
  logAudit app inst user execution.sql .success
    s!"[discard] execution_id={executionId}"

end HealthGrid.Views
