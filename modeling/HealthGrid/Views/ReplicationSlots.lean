import HealthGrid.Access.Routes
import HealthGrid.Db.ReplicationSlots

/-!
# The replication-slot views

`kill_replication_slot` asks for the terminate grant and operator access,
`drop_replication_slot` for the drop grant, operator access and a code.
-/

namespace HealthGrid.Views.ReplicationSlots

open HealthGrid.Foundation HealthGrid.Access HealthGrid.Db

structure SlotAudit where
  instancePk : Nat
  instanceName : String
  action : SlotAction
  performedBy : Nat
  result : AuditResult
  detail : String
  deriving DecidableEq, Repr

structure SlotState (σ : Type) where
  server : σ
  auditLog : List SlotAudit

abbrev Handler (σ : Type) := Call Exn (SlotState σ)

variable {σ : Type}

def logAudit (inst : RDSInstance) (user : Account) (action : SlotAction)
    (detail : String) (result : AuditResult) : Handler σ Unit :=
  Call.modify fun s =>
    { s with auditLog := s.auditLog ++
        [⟨inst.pk, inst.name, action, user.pk, result, detail⟩] }

def onServer {α : Type} (call : Call Exn σ α) : Handler σ α :=
  Call.zoom SlotState.server (fun server s => { s with server := server }) call

def auditConnectionError (inst : RDSInstance) (user : Account)
    (action : SlotAction) (slotName : String) (body : Handler σ Unit) :
    Handler σ Unit :=
  Call.tryExcept body fun e =>
    match e with
    | .connectionError message =>
        logAudit inst user action (slotName ++ ": " ++ message) .failed
    | e => Call.raise e

variable (server : SlotServer σ) (drivers : Drivers) (t : AccessTables)
  (user : Account) (inst : RDSInstance) (slotName : String)

def requireSlotRoute (action : SlotAction) : Except Exn Unit := do
  requireSlotPermission t user action
  requireInstanceAccess t user inst true

def killReplicationSlot : Handler σ Unit := do
  Call.ofExcept (requireSlotRoute t user inst .terminate)
  auditConnectionError inst user .terminate slotName do
    let terminated ← onServer
      (terminateReplicationSlotBackend server drivers inst slotName)
    logAudit inst user .terminate slotName
      (if terminated then .success else .failed)

def dropDetail (ok : Bool) (error : Option String) : String :=
  if ok then slotName else slotName ++ ": " ++ error.getD "None"

/-- `mfaPassed` is the answer of `_require_action_mfa`. -/
def dropReplicationSlot (mfaPassed : Bool) : Handler σ Unit := do
  Call.ofExcept (requireSlotRoute t user inst .drop)
  if !mfaPassed then
    logAudit inst user .drop
      ("MFA verification required" ++
        if slotName = "" then "" else ": " ++ slotName) .failed
  else
    auditConnectionError inst user .drop slotName do
      let (ok, error) ← onServer
        (Db.dropReplicationSlot server drivers inst slotName)
      logAudit inst user .drop (dropDetail slotName ok error)
        (if ok then .success else .failed)

/-! ## What reaches the server -/

variable {server drivers t user inst slotName}

theorem auditConnectionError_server {action : SlotAction}
    {body : Handler σ Unit} (s : SlotState σ) :
    (auditConnectionError inst user action slotName body s).2.server =
      (body s).2.server := by
  unfold auditConnectionError
  cases hbody : body s with
  | mk result s' =>
      cases result with
      | ok value => rw [Call.tryExcept_ok hbody]
      | error e =>
          rw [Call.tryExcept_error hbody]
          cases e <;> rfl

theorem onServer_logAudit {α : Type} {call : Call Exn σ α}
    {next : α → Handler σ Unit}
    (hnext : ∀ value s, (next value s).2.server = s.server)
    (s : SlotState σ) :
    ((onServer call >>= next) s).2.server = (call s.server).2 := by
  cases hcall : call s.server with
  | mk result server' =>
      have hrun : onServer call s = (result, { s with server := server' }) := by
        rw [onServer, Call.zoom_run, hcall]
      cases result with
      | ok value => rw [Call.bind_ok hrun, hnext]
      | error e => rw [Call.bind_error hrun]

theorem killReplicationSlot_server (s : SlotState σ) :
    (requireSlotRoute t user inst .terminate = .ok () ∧
      (killReplicationSlot server drivers t user inst slotName s).2.server =
        (terminateReplicationSlotBackend server drivers inst slotName
          s.server).2) ∨
    (killReplicationSlot server drivers t user inst slotName s).2.server =
      s.server := by
  unfold killReplicationSlot
  cases hroute : requireSlotRoute t user inst .terminate with
  | error e =>
      rw [Call.bind_error (Call.ofExcept_run _ s)]
      exact .inr rfl
  | ok _ =>
      rw [Call.bind_ok (Call.ofExcept_run _ s), auditConnectionError_server,
        onServer_logAudit fun _ _ => rfl]
      exact .inl ⟨rfl, rfl⟩

theorem dropReplicationSlot_server {mfaPassed : Bool} (s : SlotState σ) :
    (requireSlotRoute t user inst .drop = .ok () ∧ mfaPassed = true ∧
      (dropReplicationSlot server drivers t user inst slotName mfaPassed
        s).2.server =
        (Db.dropReplicationSlot server drivers inst slotName s.server).2) ∨
    (dropReplicationSlot server drivers t user inst slotName mfaPassed
      s).2.server = s.server := by
  unfold dropReplicationSlot
  cases hroute : requireSlotRoute t user inst .drop with
  | error e =>
      rw [Call.bind_error (Call.ofExcept_run _ s)]
      exact .inr rfl
  | ok _ =>
      rw [Call.bind_ok (Call.ofExcept_run _ s)]
      cases mfaPassed with
      | false => exact .inr rfl
      | true =>
          rw [Bool.not_true, if_neg Bool.false_ne_true,
            auditConnectionError_server, onServer_logAudit fun _ _ => rfl]
          exact .inl ⟨rfl, rfl, rfl⟩

end HealthGrid.Views.ReplicationSlots
