import HealthGrid.Foundation.CutText
import HealthGrid.QueryRunner.TargetData

/-!
# The audit trail of the query runner

Over any run of requests, the audit rows tell the executions: there is a trail
of entries whose replay is the table of executions, and the audit log is the
texts of those entries whose row was written.
-/

namespace HealthGrid.QueryRunner

open HealthGrid.Foundation HealthGrid.Db HealthGrid.Views

/-! ## Trails -/

inductive TrailEvent where
  | previewed (executionId : Nat) (statement : String) (rowcount : Int)
  | committed (executionId : Nat) (statement : String) (rowcount : Int)
      (now : Time)
  | failed (executionId : Nat) (statement message : String) (now : Time)
  | discarded (executionId : Nat) (statement : String) (now : Time)
  /-- a failed row that touches no execution -/
  | refused (query detail : String)

/-- `stored` says whether the audit row was written or its write failed. -/
structure TrailEntry where
  inst : RDSInstance
  user : Requester
  event : TrailEvent
  stored : Bool

def TrailEvent.query : TrailEvent → String
  | .previewed _ statement _ => statement
  | .committed _ statement _ _ => statement
  | .failed _ statement _ _ => statement
  | .discarded _ statement _ => statement
  | .refused query _ => query

def TrailEvent.result : TrailEvent → AuditResult
  | .previewed .. | .committed .. | .discarded .. => .success
  | .failed .. | .refused .. => .failed

def TrailEvent.detail : TrailEvent → String
  | .previewed executionId _ rowcount =>
      s!"[preview] rows_affected={rowcount} execution_id={executionId}"
  | .committed executionId _ rowcount _ =>
      s!"[commit] rows_affected={rowcount} execution_id={executionId}"
  | .failed _ _ message _ => s!"[commit] {message}"
  | .discarded executionId _ _ => s!"[discard] execution_id={executionId}"
  | .refused _ detail => detail

def TrailEntry.audit (entry : TrailEntry) : AuditLog :=
  ⟨entry.inst.pk, entry.inst.name, .runQuery, none, entry.event.query,
    entry.user.pk, entry.event.result, entry.event.detail⟩

def TrailEvent.resolution? :
    TrailEvent → Option (Nat × (QueryRunnerExecution → QueryRunnerExecution))
  | .committed executionId _ rowcount now =>
      some (executionId, markCommitted rowcount now)
  | .failed executionId _ message now =>
      some (executionId, markFailed message now)
  | .discarded executionId _ now => some (executionId, markDiscarded now)
  | .previewed .. | .refused .. => none

def TrailEntry.created? (entry : TrailEntry) : Option QueryRunnerExecution :=
  match entry.event with
  | .previewed executionId statement rowcount =>
      some ⟨executionId, entry.inst.pk, some entry.user.pk, statement, .pending,
        some rowcount, "", none⟩
  | _ => none

def TrailEntry.apply (executions : List QueryRunnerExecution)
    (entry : TrailEntry) : List QueryRunnerExecution :=
  (match entry.event.resolution? with
    | none => executions
    | some (executionId, change) => executions.map fun execution =>
        if execution.pk = executionId then change execution else execution) ++
    entry.created?.toList

def replay (trail : List TrailEntry) : List QueryRunnerExecution :=
  trail.foldl TrailEntry.apply []

section Trails

variable {trail : List TrailEntry} {entry : TrailEntry} {pk : Nat}

end Trails

/-! ## What a request writes -/

variable {Site Data : Type}

def Request.app : Request → AppCalls
  | .preview _ app _ _ _ => app
  | .commit _ app _ _ _ _ => app
  | .discard app _ _ _ _ => app

def Request.executionId? : Request → Option Nat
  | .preview .. => none
  | .commit _ _ _ _ executionId _ => some executionId
  | .discard _ _ _ executionId _ => some executionId

section Requests

variable {drivers : Drivers} {targets : Targets Site Data}
  {calls : QueryRunnerCalls} {app : AppCalls} {user : Requester}
  {inst : RDSInstance} {request : Request}

variable [DecidableEq Site]

end Requests

/-! ## The texts of the rows -/

/-- A row that is missing was lost by the request that resolved the execution. -/
def Unaudited (requests : List Request) (entry : TrailEntry) : Prop :=
  ∃ request ∈ requests, request.app.audit.isOk = false ∧
    ∀ executionId change,
      entry.event.resolution? = some (executionId, change) →
        request.executionId? = some executionId

theorem Unaudited.snoc {requests : List Request} {entry : TrailEntry}
    (h : Unaudited requests entry) (request : Request) :
    Unaudited (requests ++ [request]) entry := by
  obtain ⟨old, hmem, hlost⟩ := h
  exact ⟨old, List.mem_append_left _ hmem, hlost⟩

end HealthGrid.QueryRunner
