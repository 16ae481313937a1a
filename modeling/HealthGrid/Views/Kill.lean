import HealthGrid.Db.Activity
import HealthGrid.Db.Termination

/-!
# The kill views

The single, bulk and chain routes, with and without the lock scope.  What the
permission and second-factor checks answer for the user is part of the
request.  Statements on the monitored server take effect one by one; the audit
row and the marks on incidents are written after them.
-/

namespace HealthGrid.Views.Kill

open HealthGrid.Foundation HealthGrid.Db

variable {σ : Type}

structure Operator where
  pk : Nat
  username : String
  isStaff : Bool
  canView : Bool
  canOperate : Bool
  mayTerminateSlots : Bool
  mfaPassed : Bool
  deriving DecidableEq, Repr

structure KillState (σ : Type) where
  server : σ
  lockAlerts : OpenTable LockAlert
  auditLog : List AuditLog

abbrev Handler (σ : Type) := Call Exn (KillState σ)

def logAudit (inst : RDSInstance) (user : Operator) (action : AuditAction)
    (pid : Option Int) (query : String) (result : AuditResult)
    (detail : String) : Handler σ Unit :=
  Call.modify fun s =>
    { s with auditLog := s.auditLog ++
        [⟨inst.pk, inst.name, action, pid, query, user.pk, result, detail⟩] }

def involves (pids : List Int) (alert : LockAlert) : Bool :=
  pids.contains alert.blockedPid || pids.contains alert.blockingPid

def markManual (username : String) (alert : LockAlert) : LockAlert :=
  { alert with clearReason := "manual_kill", clearedBy := username }

theorem markManual_keeps (username : String) : Keeps (markManual username) :=
  ⟨fun _ => rfl, fun _ => rfl, fun _ h => h⟩

def markManualKill (inst : RDSInstance) (pids : List Int) (user : Operator) :
    Handler σ Unit :=
  Call.modify fun s =>
    { s with
      lockAlerts := s.lockAlerts.update
        (fun alert =>
          if alert.instancePk = inst.pk ∧ alert.resolvedAt = none ∧
              involves pids alert = true then
            markManual user.username alert
          else alert)
        ((markManual_keeps user.username).ite _) }

def onServer {α : Type} (call : Call Exn σ α) : Handler σ α :=
  Call.zoom KillState.server (fun server s => { s with server := server }) call

/-- `_require_staff` and `_require_instance_access(write=True)`. -/
def requireOperator (user : Operator) : Except Exn Unit :=
  if !user.isStaff then
    .error (.permissionDenied "Staff permission required for this action.")
  else if !user.canView then
    .error (.permissionDenied
      "You do not have access to this database instance.")
  else if !user.canOperate then
    .error (.permissionDenied
      "Operator access is required for this database instance.")
  else .ok ()

/-- `except db.ConnectionError`: other exceptions pass. -/
def exceptConnectionError {α : Type} (body : Handler σ α)
    (handler : String → Handler σ α) : Handler σ α :=
  Call.tryExcept body fun e =>
    match e with
    | .connectionError message => handler message
    | e => Call.raise e

def lockPids (blocking : List LockRow) : List Int :=
  blocking.flatMap fun row => row.blockedPid.toList ++ row.blockingPid.toList

def mfaRefusal (detail : String) : String :=
  "MFA verification required" ++ if detail = "" then "" else ": " ++ detail

structure KillRequest where
  user : Operator
  inst : RDSInstance
  query : String
  lockOnly : Bool
  fetch : Except Exn (List ActivityRow × List LockRow)

variable (server : TerminationServer σ) (drivers : Drivers)
  (request : KillRequest)

/-! ## One session -/

def recordSession (pid : Int) (terminated : Bool) : Handler σ Unit := do
  logAudit request.inst request.user .killSession (some pid) request.query
    (if terminated then .success else .failed)
    (if terminated then ""
      else "pid was not running or is a protected replication-slot backend")
  if terminated then
    markManualKill request.inst [pid] request.user

/-- The `try` block of `_kill_session_impl`. -/
def terminateSession (pid : Int) : Handler σ Unit :=
  exceptConnectionError
    (do
      let terminated ← onServer (killPid server drivers request.inst pid
        request.user.mayTerminateSlots)
      recordSession request pid terminated)
    (fun message => logAudit request.inst request.user .killSession (some pid)
      request.query .failed message)

/-- `pid` is what `int(request.POST["pid"])` gives, if it does. -/
def killSessionImpl (pid : Option Int) : Handler σ Unit := do
  Call.ofExcept (requireOperator request.user)
  match pid with
  | none => pure ()
  | some pid =>
      if request.lockOnly then
        match request.fetch with
        | .ok (_, blocking) =>
            if pid ∈ lockPids blocking then
              terminateSession server drivers request pid
        | .error (.connectionError _) => pure ()
        | .error e => Call.raise e
      else if request.user.mfaPassed then
        terminateSession server drivers request pid
      else
        logAudit request.inst request.user .killSession none "" .failed
          (mfaRefusal ("pid=" ++ toString pid))

/-! ## Several sessions -/

def chainDetail (pids terminated notRunning : List Int) : String :=
  "pids=" ++ PyText.listText pids ++ " terminated=" ++
    PyText.listText terminated ++ " not_running=" ++
    PyText.listText notRunning

def answered (results : Dict Int Bool) (answer : Bool) : List Int :=
  (results.entries.filter fun entry => entry.2 == answer).map Prod.fst

def recordChain (action : AuditAction) (pids : List Int)
    (results : Dict Int Bool) : Handler σ Unit := do
  let terminated := answered results true
  let notRunning := answered results false
  logAudit request.inst request.user action none request.query
    (if terminated ≠ [] then .success else .failed)
    (chainDetail pids terminated notRunning)
  if terminated ≠ [] then
    markManualKill request.inst terminated request.user

/-- The `try` block of `_kill_chain_impl`. -/
def terminateChain (action : AuditAction) (pids : List Int) : Handler σ Unit :=
  exceptConnectionError
    (do
      let results ← onServer (killPids server drivers request.inst pids
        request.user.mayTerminateSlots)
      recordChain request action pids results)
    (fun message => logAudit request.inst request.user .killChain none
      request.query .failed message)

/--
`pids` is what the list of `int(p)` gives, if it does.  Both chain routes call
this with `require_mfa=True`.
-/
def killChainImpl (chainMode : Bool) (pids : Option (List Int)) :
    Handler σ Unit := do
  Call.ofExcept (requireOperator request.user)
  match pids with
  | none => pure ()
  | some pids =>
      let action : AuditAction := if chainMode then .killChain else .bulkKill
      if pids = [] then pure ()
      else if !request.user.mfaPassed then
        logAudit request.inst request.user action none "" .failed
          (mfaRefusal ("pids=" ++ PyText.listText pids))
      else if request.lockOnly then
        match request.fetch with
        | .ok (_, blocking) =>
            if pids ⊆ lockPids blocking then
              terminateChain server drivers request action pids
        | .error (.connectionError _) => pure ()
        | .error e => Call.raise e
      else terminateChain server drivers request action pids

inductive KillForm where
  | session (pid : Option Int)
  | chain (chainMode : Bool) (pids : Option (List Int))
  deriving DecidableEq, Repr

def handle (form : KillForm) : Handler σ Unit :=
  match form with
  | .session pid => killSessionImpl server drivers request pid
  | .chain chainMode pids =>
      killChainImpl server drivers request chainMode pids

/-! ## What a request may terminate -/

def checkedPid (pid : Option Int) : Option Int :=
  match requireOperator request.user, pid with
  | .ok (), some pid =>
      if request.lockOnly then
        match request.fetch with
        | .ok (_, blocking) => if pid ∈ lockPids blocking then some pid else none
        | .error _ => none
      else if request.user.mfaPassed then some pid
      else none
  | _, _ => none

def checkedPids (pids : Option (List Int)) : Option (List Int) :=
  match requireOperator request.user, pids with
  | .ok (), some pids =>
      if pids = [] then none
      else if !request.user.mfaPassed then none
      else if request.lockOnly then
        match request.fetch with
        | .ok (_, blocking) =>
            if pids ⊆ lockPids blocking then some pids else none
        | .error _ => none
      else some pids
  | _, _ => none

variable {server drivers request}

theorem killSessionImpl_checked {pid : Option Int} (s : KillState σ) :
    (∃ checked, checkedPid request pid = some checked ∧
        killSessionImpl server drivers request pid s =
          terminateSession server drivers request checked s) ∨
      (checkedPid request pid = none ∧
        (killSessionImpl server drivers request pid s).2.server = s.server) := by
  unfold killSessionImpl checkedPid
  cases hoperator : requireOperator request.user with
  | error e =>
      rw [Call.bind_error (Call.ofExcept_run _ s)]
      exact .inr ⟨rfl, rfl⟩
  | ok _ =>
      rw [Call.bind_ok (Call.ofExcept_run _ s)]
      cases pid with
      | none => exact .inr ⟨rfl, rfl⟩
      | some pid =>
          dsimp only
          split
          · cases hfetch : request.fetch with
            | ok rows =>
                dsimp only
                split
                · exact .inl ⟨pid, rfl, rfl⟩
                · exact .inr ⟨rfl, rfl⟩
            | error e => cases e <;> exact .inr ⟨rfl, rfl⟩
          · split
            · exact .inl ⟨pid, rfl, rfl⟩
            · exact .inr ⟨rfl, rfl⟩

theorem killChainImpl_checked {chainMode : Bool} {pids : Option (List Int)}
    (s : KillState σ) :
    (∃ checked, checkedPids request pids = some checked ∧
        killChainImpl server drivers request chainMode pids s =
          terminateChain server drivers request
            (if chainMode then .killChain else .bulkKill) checked s) ∨
      (checkedPids request pids = none ∧
        (killChainImpl server drivers request chainMode pids s).2.server =
          s.server) := by
  unfold killChainImpl checkedPids
  cases hoperator : requireOperator request.user with
  | error e =>
      rw [Call.bind_error (Call.ofExcept_run _ s)]
      exact .inr ⟨rfl, rfl⟩
  | ok _ =>
      rw [Call.bind_ok (Call.ofExcept_run _ s)]
      cases pids with
      | none => exact .inr ⟨rfl, rfl⟩
      | some pids =>
          dsimp only
          split
          · exact .inr ⟨rfl, rfl⟩
          · split
            · exact .inr ⟨rfl, rfl⟩
            · split
              · cases hfetch : request.fetch with
                | ok rows =>
                    dsimp only
                    split
                    · exact .inl ⟨pids, rfl, rfl⟩
                    · exact .inr ⟨rfl, rfl⟩
                | error e => cases e <;> exact .inr ⟨rfl, rfl⟩
              · exact .inl ⟨pids, rfl, rfl⟩

/-! ## What is left on record -/

theorem onServer_run {α : Type} {call : Call Exn σ α} {s : KillState σ}
    {result : Except Exn α} {t : σ} (h : call s.server = (result, t)) :
    onServer call s = (result, { s with server := t }) := by
  rw [onServer, Call.zoom_run, h]

theorem exceptConnectionError_ok {α : Type} {body : Handler σ α}
    {handler : String → Handler σ α} {s t : KillState σ} {value : α}
    (h : body s = (.ok value, t)) :
    exceptConnectionError body handler s = (.ok value, t) := by
  rw [exceptConnectionError, Call.tryExcept_ok h]

section Record

variable (request)

theorem recordSession_run (pid : Int) (terminated : Bool) (s : KillState σ) :
    ∃ t, recordSession request pid terminated s = (.ok (), t) ∧
      t.server = s.server ∧
      (terminated = true →
        (∃ row, t.auditLog = s.auditLog ++ [row] ∧ row.result = .success ∧
          row.targetPid = some pid) ∧
        t.lockAlerts =
          (markManualKill request.inst [pid] request.user s).2.lockAlerts) := by
  cases terminated with
  | false => exact ⟨_, rfl, rfl, nofun⟩
  | true => exact ⟨_, rfl, rfl, fun _ => ⟨⟨_, rfl, rfl, rfl⟩, rfl⟩⟩

theorem recordChain_run (action : AuditAction) (pids : List Int)
    (results : Dict Int Bool) (s : KillState σ) :
    ∃ t, recordChain request action pids results s = (.ok (), t) ∧
      t.server = s.server ∧
      (∃ row, t.auditLog = s.auditLog ++ [row] ∧
        (answered results true ≠ [] → row.result = .success) ∧
        row.targetPid = none ∧ row.detail =
          chainDetail pids (answered results true) (answered results false)) ∧
      (answered results true ≠ [] → t.lockAlerts =
        (markManualKill request.inst (answered results true) request.user
          s).2.lockAlerts) := by
  unfold recordChain
  by_cases h : answered results true = []
  · rw [if_neg (not_not_intro h), if_neg (not_not_intro h)]
    exact ⟨_, rfl, rfl, ⟨_, rfl, absurd h, rfl, rfl⟩, absurd h⟩
  · rw [if_pos h, if_pos h]
    exact ⟨_, rfl, rfl, ⟨_, rfl, fun _ => rfl, rfl, rfl⟩, fun _ => rfl⟩

variable {request} {s : KillState σ} {t : σ}

theorem terminateSession_ok {pid : Int} {terminated : Bool}
    (hkill : killPid server drivers request.inst pid
      request.user.mayTerminateSlots s.server = (.ok terminated, t)) :
    terminateSession server drivers request pid s =
      recordSession request pid terminated { s with server := t } := by
  obtain ⟨u, hrecord, -⟩ :=
    recordSession_run request pid terminated { s with server := t }
  rw [terminateSession, hrecord]
  apply exceptConnectionError_ok
  rw [Call.bind_ok (onServer_run hkill), hrecord]

theorem terminateChain_ok {action : AuditAction} {pids : List Int}
    {results : Dict Int Bool}
    (hkill : killPids server drivers request.inst pids
      request.user.mayTerminateSlots s.server = (.ok results, t)) :
    terminateChain server drivers request action pids s =
      recordChain request action pids results { s with server := t } := by
  obtain ⟨u, hrecord, -⟩ :=
    recordChain_run request action pids results { s with server := t }
  rw [terminateChain, hrecord]
  apply exceptConnectionError_ok
  rw [Call.bind_ok (onServer_run hkill), hrecord]

theorem terminateSession_server {pid : Int} {result : Except Exn Bool}
    (hkill : killPid server drivers request.inst pid
      request.user.mayTerminateSlots s.server = (result, t)) :
    (terminateSession server drivers request pid s).2.server = t := by
  cases result with
  | ok terminated =>
      obtain ⟨u, hrecord, hserver, -⟩ :=
        recordSession_run request pid terminated { s with server := t }
      rw [terminateSession_ok hkill, hrecord]
      exact hserver
  | error e =>
      unfold terminateSession exceptConnectionError
      rw [Call.tryExcept_error (Call.bind_error (onServer_run hkill))]
      cases e <;> rfl

theorem terminateChain_server {action : AuditAction} {pids : List Int}
    {result : Except Exn (Dict Int Bool)}
    (hkill : killPids server drivers request.inst pids
      request.user.mayTerminateSlots s.server = (result, t)) :
    (terminateChain server drivers request action pids s).2.server = t := by
  cases result with
  | ok results =>
      obtain ⟨u, hrecord, hserver, -⟩ :=
        recordChain_run request action pids results { s with server := t }
      rw [terminateChain_ok hkill, hrecord]
      exact hserver
  | error e =>
      unfold terminateChain exceptConnectionError
      rw [Call.tryExcept_error (Call.bind_error (onServer_run hkill))]
      cases e <;> rfl

theorem terminateChain_driverError {action : AuditAction} {pids : List Int}
    {message : String}
    (hkill : killPids server drivers request.inst pids
      request.user.mayTerminateSlots s.server =
        (.error (.driverError message), t)) :
    terminateChain server drivers request action pids s =
      (.error (.driverError message), { s with server := t }) := by
  unfold terminateChain exceptConnectionError
  rw [Call.tryExcept_error (Call.bind_error (onServer_run hkill))]
  rfl

end Record

end HealthGrid.Views.Kill
