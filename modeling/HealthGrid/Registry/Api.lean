import HealthGrid.Registry.Forms

/-!
# The instance API

`RDSInstanceSerializer.create` and `update` behind the checks of the view set.
The data are those the serializer has validated: any of the fields, each of its
own type.  A create is validated as a whole, so its data always have `name`,
`db_identifier`, `host`, `db_name` and `username`; an update may be partial.
-/

namespace HealthGrid.Registry

open HealthGrid.Foundation HealthGrid.Db HealthGrid.Access

/-- `validated_data` -/
structure InstanceData where
  name : Option String
  engine : Option Engine
  dbIdentifier : Option String
  region : Option String
  host : Option String
  port : Option Nat
  dbName : Option String
  username : Option String
  password : Option String
  lockControlEnabled : Option Bool
  controlUsername : Option String
  controlPassword : Option String
  ownerTeamsWebhookUrl : Option String
  excludeFromGlobalNotifications : Option Bool
  sslRequired : Option Bool
  isActive : Option Bool
  deriving DecidableEq, Repr

def InstanceData.empty : InstanceData where
  name := none
  engine := none
  dbIdentifier := none
  region := none
  host := none
  port := none
  dbName := none
  username := none
  password := none
  lockControlEnabled := none
  controlUsername := none
  controlPassword := none
  ownerTeamsWebhookUrl := none
  excludeFromGlobalNotifications := none
  sslRequired := none
  isActive := none

/-- The least that a create is accepted with. -/
def plainInstance : InstanceData :=
  { InstanceData.empty with
    name := some "orders"
    dbIdentifier := some "orders-db"
    host := some "orders.example"
    dbName := some "orders"
    username := some "monitor" }

def engineText : Engine → String
  | .postgresql => "postgresql"
  | .mysql => "mysql"
  | .mariadb => "mariadb"
  | .mssql => "mssql"

variable (lib : RegistryLibrary) (requester : Requester) (data : InstanceData)

def validationError (field text : String) : Refusal :=
  .message (field ++ ": " ++ text)

def controlPasswordRequired : Refusal :=
  validationError "control_password" "Required when control_username is set."

/-- `setattr` for each field of the data but the two passwords. -/
def InstanceData.assign (record : InstanceRecord) : InstanceRecord :=
  { record with
    name := data.name.getD record.name
    engine := (data.engine.map engineText).getD record.engine
    dbIdentifier := data.dbIdentifier.getD record.dbIdentifier
    region := data.region.getD record.region
    host := data.host.getD record.host
    port := data.port.getD record.port
    dbName := data.dbName.getD record.dbName
    username := data.username.getD record.username
    lockControlEnabled := data.lockControlEnabled.getD record.lockControlEnabled
    controlUsername := data.controlUsername.getD record.controlUsername
    ownerTeamsWebhookUrl :=
      data.ownerTeamsWebhookUrl.getD record.ownerTeamsWebhookUrl
    excludeFromGlobalNotifications := data.excludeFromGlobalNotifications.getD
      record.excludeFromGlobalNotifications
    sslRequired := data.sslRequired.getD record.sslRequired
    isActive := data.isActive.getD record.isActive }

/-! ## create -/

def InstanceData.withoutControl : InstanceData :=
  { data with
    lockControlEnabled := none
    controlUsername := none
    controlPassword := none }

def creationData : InstanceData :=
  let data :=
    if requester.user.isSuperuser then data else data.withoutControl
  if data.lockControlEnabled.getD false then data
  else { data with controlUsername := some "", controlPassword := none }

/-- `group` is the default of the column, `uuid.uuid4()`. -/
def create (group : Nat) : Except Refusal InstanceRecord := do
  let data := creationData requester data
  let controlPassword := data.controlPassword.getD ""
  let record := data.assign { InstanceRecord.blank with
    connectionGroup := group
    addedBy := some requester.user.pk }
  if record.controlUsername ≠ "" ∧ controlPassword = "" then
    throw controlPasswordRequired
  let record := setPassword lib (data.password.getD "") record
  .ok (if controlPassword = "" then record
    else setControlPassword lib controlPassword record)

/-! ## update -/

/-- The fields that make an operator's update fail, in the order checked. -/
def administratorFields : List (String × Bool × String) :=
  let control := "Only an Administrator can configure lock-control credentials."
  let only := "Only an Administrator can change this field."
  [("lock_control_enabled", data.lockControlEnabled.isSome, control),
    ("control_username", data.controlUsername.isSome, control),
    ("control_password", data.controlPassword.isSome, control),
    ("host", data.host.isSome, only),
    ("port", data.port.isSome, only),
    ("engine", data.engine.isSome, only),
    ("username", data.username.isSome, only),
    ("db_name", data.dbName.isSome, only),
    ("ssl_required", data.sslRequired.isSome, only),
    ("is_active", data.isActive.isSome, only),
    ("exclude_from_global_notifications",
      data.excludeFromGlobalNotifications.isSome, only)]

def checkOperatorUpdate (record : InstanceRecord) : Except Refusal Unit :=
  match (administratorFields data).find? fun field => field.2.1 with
  | some (field, _, text) => .error (validationError field text)
  | none =>
      if data.ownerTeamsWebhookUrl.isSome &&
          !canManageInstanceNotifications requester.tables requester.user
            record.target then
        .error (validationError "owner_teams_webhook_url"
          ("Notification-management permission is required for this " ++
            "instance."))
      else .ok ()

def connectionChanged (record : InstanceRecord) : Bool :=
  data.host.any (· != record.host) || data.port.any (· != record.port) ||
    data.engine.any (engineText · != record.engine) ||
    data.username.any (· != record.username)

def withoutCredentials (record : InstanceRecord) : InstanceRecord :=
  { record with controlUsername := "", controlPasswordEncrypted := "" }

/-- `"control_password" not in validated_data` holds: it has been popped. -/
def repointed (before record : InstanceRecord) : InstanceRecord :=
  if connectionChanged data before then
    { withoutCredentials record with lockControlEnabled := false }
  else record

def settleControl (record : InstanceRecord) : Except Refusal InstanceRecord :=
  if !record.lockControlEnabled then .ok (withoutCredentials record)
  else if data.controlUsername.isSome then
    if record.controlUsername ≠ "" ∧ data.controlPassword.getD "" = "" then
      .error controlPasswordRequired
    else if record.controlUsername = "" then
      .ok { record with controlPasswordEncrypted := "" }
    else .ok record
  else .ok record

def update (before : InstanceRecord) : Except Refusal InstanceRecord := do
  if !requester.user.isSuperuser then
    checkOperatorUpdate requester data before
  let record := repointed data before (data.assign before)
  let password := data.password.getD ""
  let record :=
    if password = "" then record else setPassword lib password record
  let record ← settleControl data record
  let controlPassword := data.controlPassword.getD ""
  .ok (if controlPassword = "" then record
    else setControlPassword lib controlPassword record)

section Results

variable {lib : RegistryLibrary} {requester : Requester} {data : InstanceData}
  {before record settled : InstanceRecord}

theorem create_ok {group : Nat}
    (h : create lib requester data group = .ok record) :
    let data' := creationData requester data
    let assigned := data'.assign { InstanceRecord.blank with
      connectionGroup := group
      addedBy := some requester.user.pk }
    ¬ (assigned.controlUsername ≠ "" ∧ data'.controlPassword.getD "" = "") ∧
      record = { assigned with
        passwordEncrypted := encryptPassword lib (data'.password.getD "")
        controlPasswordEncrypted :=
          encryptPassword lib (data'.controlPassword.getD "") } := by
  unfold create at h
  dsimp only at h ⊢
  split at h
  · cases h
  · rename_i hpassword
    refine ⟨hpassword, ?_⟩
    cases h
    split
    · rename_i hempty
      rw [hempty]
      rfl
    · rfl

theorem checkOperatorUpdate_ok
    (h : checkOperatorUpdate requester data before = .ok ()) :
    ∀ field ∈ administratorFields data, field.2.1 = false := by
  unfold checkOperatorUpdate at h
  split at h
  · cases h
  · rename_i hnone
    intro field hmem
    simpa using List.find?_eq_none.mp hnone field hmem

def assigned (lib : RegistryLibrary) (data : InstanceData)
    (before : InstanceRecord) : InstanceRecord :=
  let record := repointed data before (data.assign before)
  if data.password.getD "" = "" then record
  else setPassword lib (data.password.getD "") record

theorem update_ok (h : update lib requester data before = .ok record) :
    (requester.user.isSuperuser = false →
      checkOperatorUpdate requester data before = .ok ()) ∧
      ∃ settled, settleControl data (assigned lib data before) = .ok settled ∧
        record = if data.controlPassword.getD "" = "" then settled
          else setControlPassword lib (data.controlPassword.getD "")
            settled := by
  unfold update at h
  dsimp only at h
  split at h
  · obtain ⟨_, hcheck, h⟩ := of_bind_eq_ok h
    obtain ⟨settled, hsettled, h⟩ := of_bind_eq_ok h
    cases h
    exact ⟨fun _ => hcheck, settled, hsettled, rfl⟩
  · rename_i hsuperuser
    obtain ⟨settled, hsettled, h⟩ := of_bind_eq_ok h
    cases h
    refine ⟨fun hfalse => ?_, settled, hsettled, rfl⟩
    rw [hfalse] at hsuperuser
    exact absurd rfl hsuperuser

theorem assigned_keeps {α : Type} (f : InstanceRecord → α)
    (hf : ∀ record password,
      f { record with passwordEncrypted := password } = f record) :
    f (assigned lib data before) =
      f (repointed data before (data.assign before)) := by
  unfold assigned
  dsimp only
  split
  · rfl
  · exact hf _ _

theorem settleControl_ok (h : settleControl data record = .ok settled) :
    settled = { record with
      controlUsername := settled.controlUsername
      controlPasswordEncrypted := settled.controlPasswordEncrypted } := by
  unfold settleControl at h
  split at h
  · cases h
    rfl
  · split at h
    · split at h
      · cases h
      · split at h <;> cases h <;> rfl
    · cases h
      rfl

theorem update_keeps {α : Type} (f : InstanceRecord → α)
    (hf : ∀ record username password,
      f { record with
        controlUsername := username
        controlPasswordEncrypted := password } = f record)
    (h : update lib requester data before = .ok record) :
    f record = f (assigned lib data before) := by
  obtain ⟨-, settled, hsettled, rfl⟩ := update_ok h
  have hsame : f settled = f (assigned lib data before) := by
    rw [settleControl_ok hsettled]
    exact hf _ _ _
  rw [← hsame]
  split
  · rfl
  · exact hf settled settled.controlUsername _

theorem update_pk (h : update lib requester data before = .ok record) :
    record.pk = before.pk := by
  rw [update_keeps InstanceRecord.pk (fun _ _ _ => rfl) h,
    assigned_keeps InstanceRecord.pk fun _ _ => rfl]
  unfold repointed
  split <;> rfl

theorem update_excluded_eq (h : update lib requester data before = .ok record) :
    record.excludeFromGlobalNotifications =
      data.excludeFromGlobalNotifications.getD
        before.excludeFromGlobalNotifications := by
  rw [update_keeps InstanceRecord.excludeFromGlobalNotifications
      (fun _ _ _ => rfl) h,
    assigned_keeps InstanceRecord.excludeFromGlobalNotifications fun _ _ => rfl]
  unfold repointed
  split <;> rfl

theorem update_connection (h : update lib requester data before = .ok record) :
    record.host = data.host.getD before.host ∧
      record.port = data.port.getD before.port ∧
      record.engine = (data.engine.map engineText).getD before.engine ∧
      record.username = data.username.getD before.username := by
  let connection (r : InstanceRecord) := (r.host, r.port, r.engine, r.username)
  have hconnection : connection record = connection (data.assign before) := by
    rw [update_keeps connection (fun _ _ _ => rfl) h,
      assigned_keeps connection fun _ _ => rfl]
    unfold repointed
    split <;> rfl
  simpa [connection, InstanceData.assign] using hconnection

end Results

/-! ## The view set -/

/-- `IsStaffOrReadOnly` for a request that writes. -/
def hasWritePermission : Except Refusal Unit :=
  if !requester.user.isStaff then
    .error (.raised (.permissionDenied
      "You do not have permission to perform this action."))
  else .ok ()

def apiCreate (instances : InstanceTable) (group : Nat) :
    Except Refusal InstanceTable := do
  hasWritePermission requester
  let record ← create lib requester data group
  if !lib.storable record then
    throw (.raised
      (.appDatabaseError "value too long for type character varying"))
  .ok (insertRecord instances record)

/-- `get_object` looks only among the accessible instances. -/
def apiUpdate (instances : InstanceTable) (pk : Nat) :
    Except Refusal InstanceTable := do
  hasWritePermission requester
  match (accessibleInstances requester.tables requester.user instances).find?
      (·.pk == pk) with
  | none =>
      throw (.raised (.http404 "No RDSInstance matches the given query."))
  | some before =>
      if !canOperateInstance requester.tables requester.user before.target then
        throw (.raised (.permissionDenied
          "You do not have operate access to this instance."))
      let record ← update lib requester data before
      storeRecord lib instances record

end HealthGrid.Registry
