import HealthGrid.Access.UserManagement

/-!
# The mutating routes

The permission checks of every route that changes the registry or acts on a
monitored database, and what an accepted request does.  What the form checks
and the second factor answer is part of the request, and so are the rows that
it saves.  The Django admin site is left out.
-/

namespace HealthGrid.Access

open HealthGrid.Foundation HealthGrid.Db

instance : OpenRow RDSInstance Nat where
  pk := RDSInstance.pk
  key := RDSInstance.pk
  isOpen _ := true

structure Registry where
  tables : AccessTables
  instances : OpenTable RDSInstance

/-! ## Checks -/

section Checks

variable (t : AccessTables) (user : Account) (inst : RDSInstance)

def requireStaff : Except Exn Unit :=
  if !user.isStaff then
    .error (.permissionDenied "Staff permission required for this action.")
  else .ok ()

def requireInstanceAccess (write : Bool) : Except Exn Unit :=
  if !canViewInstance t user inst then
    .error (.permissionDenied
      "You do not have access to this database instance.")
  else if write && !canOperateInstance t user inst then
    .error (.permissionDenied
      "Operator access is required for this database instance.")
  else .ok ()

def requireAdministrator : Except Exn Unit :=
  if !isAdministrator user then
    .error (.permissionDenied
      "Administrator permission required for this action.")
  else .ok ()

def requireGlobalNotificationAccess : Except Exn Unit :=
  if !canManageGlobalNotifications t user then
    .error (.permissionDenied
      "Global notification-management permission required.")
  else .ok ()

def SlotAction.text : SlotAction → String
  | .drop => "drop"
  | .terminate => "terminate"

def requireSlotPermission (action : SlotAction) : Except Exn Unit :=
  if !canManageReplicationSlot t user action then
    .error (.permissionDenied
      ("Administrator access or an explicit operator grant is required to " ++
        action.text ++ " replication slots."))
  else .ok ()

def requireInstanceNotifications : Except Exn Unit :=
  if !canManageInstanceNotifications t user inst then
    .error (.permissionDenied
      "Notification-management permission is required for this instance.")
  else .ok ()

def requireQueryRunner : Except Exn Unit := do
  requireInstanceAccess t user inst false
  if !canRunQueries t user inst then
    .error (.permissionDenied
      "You do not have query-runner access on this instance.")
  else .ok ()

end Checks

def getInstance (r : Registry) (pk : Nat) : Except Exn RDSInstance :=
  match r.instances.findPk? pk with
  | none => .error (.http404 "No RDSInstance matches the given query.")
  | some inst => .ok inst

/-! ## Routes -/

/-- `save` is what the request makes of each row of the registry. -/
inductive Route where
  | kill (inst : Nat)
  | replicationSlot (action : SlotAction) (inst : Nat)
  | previewQuery (inst : Nat)
  | commitQuery (inst : Nat)
  | discardQuery (inst : Nat)
  | addInstance (source : Option Nat) (added : List RDSInstance)
  | renameInstance (inst : Nat) (save : RDSInstance → RDSInstance)
  | updateOwnerWebhook (inst : Nat) (save : RDSInstance → RDSInstance)
  | updateCredentials (inst : Nat) (save : RDSInstance → RDSInstance)
  | removeInstances (inst : Nat) (removed : List Nat)
  | apiCreate (added : RDSInstance)
  | apiUpdate (inst : Nat) (save : RDSInstance → RDSInstance)
  | notificationSettings
  | dashboardLinks
  | userManagement (activeInstances : List Nat) (form : Form)
  | grantQueryRunner (inst : Nat) (username : String)
  | revokeQueryRunner (inst userPk : Nat)
  | readPage

inductive Operation where
  | terminate (inst : Nat)
  | dropSlot (inst : Nat)
  | previewStatement (inst : Nat)
  | commitStatement (inst : Nat)
  | changeInstances
  | changeSettings
  | changeAccounts
  deriving DecidableEq, Repr

structure Request where
  requester : Nat
  route : Route
  accepted : Bool

variable (lib : ManagementLibrary) (r : Registry) (user : Account)

def Route.check : Route → Except Exn Unit
  | .kill inst => do
      let inst ← getInstance r inst
      requireStaff user
      requireInstanceAccess r.tables user inst true
  | .replicationSlot action inst => do
      requireSlotPermission r.tables user action
      let inst ← getInstance r inst
      requireInstanceAccess r.tables user inst true
  | .previewQuery inst | .commitQuery inst | .discardQuery inst => do
      let inst ← getInstance r inst
      requireQueryRunner r.tables user inst
  | .addInstance source _ => do
      requireStaff user
      match source with
      | none => .ok ()
      | some source =>
          let source ← getInstance r source
          requireInstanceAccess r.tables user source true
  | .renameInstance inst _ => do
      requireStaff user
      let inst ← getInstance r inst
      requireInstanceAccess r.tables user inst true
  | .updateOwnerWebhook inst _ => do
      requireStaff user
      let inst ← getInstance r inst
      requireInstanceNotifications r.tables user inst
  | .updateCredentials inst _ | .removeInstances inst _
  | .grantQueryRunner inst _ | .revokeQueryRunner inst _ => do
      requireAdministrator user
      let inst ← getInstance r inst
      requireInstanceAccess r.tables user inst true
  -- `IsStaffOrReadOnly`, then `perform_update`
  | .apiCreate _ =>
      if !user.isStaff then
        .error (.permissionDenied
          "You do not have permission to perform this action.")
      else .ok ()
  | .apiUpdate inst _ =>
      if !user.isStaff then
        .error (.permissionDenied
          "You do not have permission to perform this action.")
      else do
        let inst ← getInstance r inst
        if !canOperateInstance r.tables user inst then
          .error (.permissionDenied
            "You do not have operate access to this instance.")
        else .ok ()
  | .notificationSettings => requireGlobalNotificationAccess r.tables user
  | .dashboardLinks | .userManagement _ _ => requireAdministrator user
  | .readPage => .ok ()

def insertInstance (instances : OpenTable RDSInstance) (added : RDSInstance) :
    OpenTable RDSInstance :=
  instances.insert { added with pk := instances.nextPk } rfl (by
    rw [OpenTable.findOpen?_eq_none]
    intro row hmem _
    exact Nat.ne_of_lt (instances.pk_lt row hmem))

def savedRow (save : RDSInstance → RDSInstance) (row : RDSInstance) :
    RDSInstance :=
  { save row with pk := row.pk }

def saveInstances (save : RDSInstance → RDSInstance) : Registry :=
  { r with
    instances := r.instances.update (savedRow save)
      ⟨fun _ => rfl, fun _ => rfl, fun _ h => h⟩ }

/-- The rows of the access tables that name a removed instance go with it. -/
def withoutInstances (removed : List Nat) : Registry where
  instances := r.instances.filter fun inst => !removed.contains inst.pk
  tables :=
    { r.tables with
      instanceAccess := r.tables.instanceAccess.filterKeys fun key =>
        !removed.contains key.2
      queryRunnerGrants := r.tables.queryRunnerGrants.filter fun grant =>
        !removed.contains grant.2 }

def withQueryRunnerGrant (inst : Nat) (username : String) : AccessTables :=
  match r.tables.accounts.findOpen? username with
  | none => r.tables
  | some target =>
      if target.isSuperuser then r.tables
      else
        { r.tables with
          queryRunnerGrants :=
            if r.tables.queryRunnerGrants.contains (target.pk, inst) then
              r.tables.queryRunnerGrants
            else r.tables.queryRunnerGrants ++ [(target.pk, inst)] }

def Route.perform : Route → Registry × List Operation
  | .kill inst | .replicationSlot .terminate inst => (r, [.terminate inst])
  | .replicationSlot .drop inst => (r, [.dropSlot inst])
  | .previewQuery inst => (r, [.previewStatement inst])
  | .commitQuery inst => (r, [.commitStatement inst])
  | .addInstance _ added =>
      ({ r with instances := added.foldl insertInstance r.instances },
        [.changeInstances])
  | .apiCreate added =>
      ({ r with instances := insertInstance r.instances added },
        [.changeInstances])
  | .renameInstance _ save | .updateOwnerWebhook _ save
  | .updateCredentials _ save | .apiUpdate _ save =>
      (saveInstances r save, [.changeInstances])
  | .removeInstances _ removed =>
      (withoutInstances r removed, [.changeInstances])
  | .notificationSettings | .dashboardLinks => (r, [.changeSettings])
  | .userManagement activeInstances form =>
      ({ r with tables := manage lib r.tables ⟨user, activeInstances, form⟩ },
        [.changeAccounts])
  | .grantQueryRunner inst username =>
      ({ r with tables := withQueryRunnerGrant r inst username },
        [.changeAccounts])
  | .revokeQueryRunner inst userPk =>
      ({ r with
          tables :=
            { r.tables with
              queryRunnerGrants := r.tables.queryRunnerGrants.filter
                fun grant => grant != (userPk, inst) } },
        [.changeAccounts])
  | .discardQuery _ | .readPage => (r, [])

/-- `login_required` lets active accounts pass. -/
def respond (request : Request) : Registry × List Operation :=
  match r.tables.accounts.findPk? request.requester with
  | none => (r, [])
  | some user =>
      if !user.isActive then (r, [])
      else
        match request.route.check r user with
        | .error _ => (r, [])
        | .ok () =>
            if request.accepted then request.route.perform lib r user
            else (r, [])

variable {r}

theorem respond_cases (request : Request) :
    respond lib r request = (r, []) ∨
      ∃ user ∈ r.tables.accounts.rows, user.pk = request.requester ∧
        user.isActive = true ∧ request.route.check r user = .ok () ∧
        respond lib r request = request.route.perform lib r user := by
  unfold respond
  split
  · exact .inl rfl
  · rename_i user hfind
    obtain ⟨hmem, hpk⟩ := OpenTable.findPk?_eq_some.mp hfind
    split
    · exact .inl rfl
    · rename_i hactive
      split
      · exact .inl rfl
      · rename_i hcheck
        split
        · exact .inr ⟨user, hmem, hpk, by simpa using hactive, hcheck, rfl⟩
        · exact .inl rfl

variable {lib}

theorem respond_accepted {request : Request} {user : Account}
    (hmem : user ∈ r.tables.accounts.rows)
    (hpk : user.pk = request.requester) (hactive : user.isActive = true)
    (hcheck : request.route.check r user = .ok ())
    (haccepted : request.accepted = true) :
    respond lib r request = request.route.perform lib r user := by
  unfold respond
  rw [OpenTable.findPk?_eq_some.mpr ⟨hmem, hpk⟩]
  dsimp only
  rw [hactive, hcheck, haccepted]
  rfl

end HealthGrid.Access
