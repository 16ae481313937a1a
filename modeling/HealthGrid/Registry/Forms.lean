import HealthGrid.Registry.Instances

/-!
# The registry forms

The add form, which also extends a registered connection by more databases,
and the forms for the owner webhook and the lock-control credentials of an
instance.  What a form refuses leaves the registry as it was.
-/

namespace HealthGrid.Registry

open HealthGrid.Foundation HealthGrid.Foundation.PyText HealthGrid.Db
open HealthGrid.Access

structure Requester where
  tables : AccessTables
  user : Account

variable (lib : RegistryLibrary) (requester : Requester) (form : Form)
  (instances : InstanceTable)

/-! ## add_instance -/

/-- `text.replace("\n", ",").split(",")`, stripped, without empty names. -/
def databaseNames : List String :=
  let text := form.text "database_names" (form.text "db_name" "")
  let commas := text.toList.map fun c => if c = '\n' then ',' else c
  ((commas.splitOn ',').map fun name => stripText (String.ofList name)).filter
    (· ≠ "")

def extendSource : Except Refusal (Option InstanceRecord) :=
  let extendPk := form.text "extend_instance" ""
  if extendPk = "" then .ok none
  else
    match lib.parseInt extendPk with
    | none =>
        .error (.valueError
          ("Field 'id' expected a number but got '" ++ extendPk ++ "'."))
    | some pk => do
        let source ← getRecord instances pk
        (requireInstanceAccess requester.tables requester.user source.target
          true).mapError .raised
        .ok (some source)

structure ControlValues where
  enabled : Bool
  username : String
  password : String
  deriving DecidableEq, Repr

def controlValues : Option InstanceRecord → Except Refusal ControlValues
  | some source =>
      if source.controlPasswordEncrypted ≠ "" then do
        let password ← (getControlPassword lib source).mapError .raised
        .ok ⟨source.lockControlEnabled, source.controlUsername, password⟩
      else
        .ok ⟨source.lockControlEnabled, source.controlUsername,
          if source.lockControlEnabled then form.text "control_password" ""
          else ""⟩
  | none =>
      let enabled :=
        requester.user.isSuperuser && form.checked "lock_control_enabled"
      .ok ⟨enabled,
        if enabled then stripText (form.text "control_username" "") else "",
        if enabled then form.text "control_password" "" else ""⟩

def alreadyRegistered (source : InstanceRecord) (name : String) : Bool :=
  instances.rows.any fun row =>
    row.connectionGroup == source.connectionGroup && row.dbName == name

/-- `sorted(set(database_names) & existing_names)` -/
def duplicateNames (source : InstanceRecord) : List String :=
  sorted ((databaseNames form).filter
    (alreadyRegistered instances source)).dedup

def couldNotAdd (exc : String) : Refusal :=
  .message ("Could not add the database target(s): " ++ exc)

/-- `request.POST[key]`; the text of the exception quotes the key. -/
def postField (key : String) : Except Refusal String :=
  match form key with
  | some text => .ok text
  | none => .error (couldNotAdd ("'" ++ key ++ "'"))

def defaultPortForEngine (engine : Option String) : Nat :=
  match engine with
  | some "mysql" | some "mariadb" => 3306
  | some "mssql" => 1433
  | _ => 5432

/-- `request.POST.get("port") or default`, as the column converts it. -/
def portField : Except Refusal Nat :=
  let text := form.text "port" ""
  if text = "" then .ok (defaultPortForEngine (form "engine"))
  else
    match lib.parseInt text with
    | none =>
        .error (couldNotAdd
          ("Field 'port' expected a number but got '" ++ text ++ "'."))
    | some port =>
        if port < 0 then .error (couldNotAdd "integer out of range")
        else .ok port.toNat

/-- The fields all new rows share; `group` is `uuid.uuid4()`. -/
def commonFields (group : Nat) (control : ControlValues) :
    Option InstanceRecord → Except Refusal InstanceRecord
  | some source => do
      let password ← (getPassword lib source).mapError .raised
      .ok { InstanceRecord.blank with
        name := source.name
        connectionGroup := source.connectionGroup
        engine := source.engine
        dbIdentifier := source.dbIdentifier
        region := source.region
        host := source.host
        port := source.port
        username := source.username
        lockControlEnabled := control.enabled
        controlUsername := control.username
        ownerTeamsWebhookUrl := source.ownerTeamsWebhookUrl
        excludeFromGlobalNotifications := source.excludeFromGlobalNotifications
        passwordEncrypted := encryptPassword lib password
        controlPasswordEncrypted := encryptPassword lib control.password
        sslRequired := source.sslRequired
        addedBy := source.addedBy }
  | none => do
      let name ← postField form "name"
      let dbIdentifier ← postField form "db_identifier"
      let host ← postField form "host"
      let username ← postField form "username"
      let password ← postField form "password"
      let port ← portField lib form
      .ok { InstanceRecord.blank with
        name := stripText name
        connectionGroup := group
        engine := form.text "engine" "postgresql"
        dbIdentifier := stripText dbIdentifier
        region := stripText (form.text "region" "us-east-1")
        host := stripText host
        port := port
        username := stripText username
        lockControlEnabled := control.enabled
        controlUsername := control.username
        ownerTeamsWebhookUrl :=
          stripText (form.text "owner_teams_webhook_url" "")
        excludeFromGlobalNotifications := requester.user.isSuperuser &&
          form.checked "exclude_from_global_notifications"
        passwordEncrypted := encryptPassword lib password
        controlPasswordEncrypted := encryptPassword lib control.password
        sslRequired := form.checked "ssl_required"
        addedBy := some requester.user.pk }

def forDatabase (common : InstanceRecord) (name : String) : InstanceRecord :=
  { common with dbName := name }

def newTargets (group : Nat) : Except Refusal (List InstanceRecord) := do
  (requireStaff requester.user).mapError .raised
  let source ← extendSource lib requester form instances
  let control ← controlValues lib requester form source
  let names := databaseNames form
  if names = [] ∨ names.length > 50 then
    throw (.message ("Enter between 1 and 50 database names, separated by " ++
      "commas or new lines."))
  let duplicates := source.elim [] (duplicateNames form instances)
  if duplicates ≠ [] then
    -- the page with the message is given `database_names` only, and its
    -- template asks for `prefill.db_name` as well
    throw (.variableDoesNotExist "db_name")
  if control.enabled ∧ control.username ≠ "" ∧ control.password = "" then
    throw (.message ("Lock-control password is required when a lock-control " ++
      "username is provided."))
  let common ← commonFields lib requester form group control source
  let targets := names.map (forDatabase common)
  if !targets.all lib.storable then
    throw (couldNotAdd "value too long for type character varying")
  .ok targets

def addInstance (group : Nat) : Except Refusal InstanceTable := do
  let targets ← newTargets lib requester form instances group
  .ok (insertRecords instances targets)

section NewTargets

variable {lib : RegistryLibrary} {requester : Requester} {form : Form}
  {instances : InstanceTable} {group : Nat} {control : ControlValues}
  {source : InstanceRecord} {common : InstanceRecord}

theorem extendSource_mem
    (h : extendSource lib requester form instances = .ok (some source)) :
    source ∈ instances.rows := by
  unfold extendSource at h
  dsimp only at h
  split at h
  · cases h
  · split at h
    · cases h
    · obtain ⟨found, hfound, h⟩ := of_bind_eq_ok h
      obtain ⟨-, -, h⟩ := of_bind_eq_ok h
      cases h
      exact getRecord_mem hfound

theorem commonFields_some
    (h : commonFields lib requester form group control (some source) =
      .ok common) :
    common.connectionGroup = source.connectionGroup ∧
      common.excludeFromGlobalNotifications =
        source.excludeFromGlobalNotifications := by
  obtain ⟨password, -, h⟩ := of_bind_eq_ok h
  cases h
  exact ⟨rfl, rfl⟩

theorem commonFields_none
    (h : commonFields lib requester form group control none = .ok common) :
    common.connectionGroup = group ∧
      (common.excludeFromGlobalNotifications = true →
        requester.user.isSuperuser = true) := by
  obtain ⟨name, -, h⟩ := of_bind_eq_ok h
  obtain ⟨dbIdentifier, -, h⟩ := of_bind_eq_ok h
  obtain ⟨host, -, h⟩ := of_bind_eq_ok h
  obtain ⟨username, -, h⟩ := of_bind_eq_ok h
  obtain ⟨password, -, h⟩ := of_bind_eq_ok h
  obtain ⟨port, -, h⟩ := of_bind_eq_ok h
  cases h
  refine ⟨rfl, ?_⟩
  intro hexcluded
  exact (Bool.and_eq_true_iff.mp hexcluded).1

theorem commonFields_control {source : Option InstanceRecord}
    (h : commonFields lib requester form group control source = .ok common) :
    common.lockControlEnabled = control.enabled ∧
      common.controlUsername = control.username ∧
      common.controlPasswordEncrypted =
        encryptPassword lib control.password := by
  cases source with
  | some source =>
      obtain ⟨password, -, h⟩ := of_bind_eq_ok h
      cases h
      exact ⟨rfl, rfl, rfl⟩
  | none =>
      obtain ⟨name, -, h⟩ := of_bind_eq_ok h
      obtain ⟨dbIdentifier, -, h⟩ := of_bind_eq_ok h
      obtain ⟨host, -, h⟩ := of_bind_eq_ok h
      obtain ⟨username, -, h⟩ := of_bind_eq_ok h
      obtain ⟨password, -, h⟩ := of_bind_eq_ok h
      obtain ⟨port, -, h⟩ := of_bind_eq_ok h
      cases h
      exact ⟨rfl, rfl, rfl⟩

structure Accepted (lib : RegistryLibrary) (requester : Requester)
    (form : Form) (instances : InstanceTable) (group : Nat)
    (source : Option InstanceRecord) (control : ControlValues)
    (common : InstanceRecord) : Prop where
  hsource : extendSource lib requester form instances = .ok source
  hcontrol : controlValues lib requester form source = .ok control
  hduplicates : ∀ record, source = some record →
    duplicateNames form instances record = []
  hpassword : ¬ (control.enabled = true ∧ control.username ≠ "" ∧
    control.password = "")
  hcommon : commonFields lib requester form group control source = .ok common

theorem newTargets_ok {targets : List InstanceRecord}
    (h : newTargets lib requester form instances group = .ok targets) :
    ∃ source control common,
      Accepted lib requester form instances group source control common ∧
        targets = (databaseNames form).map (forDatabase common) := by
  obtain ⟨-, -, h⟩ := of_bind_eq_ok h
  obtain ⟨source, hsource, h⟩ := of_bind_eq_ok h
  obtain ⟨control, hcontrol, h⟩ := of_bind_eq_ok h
  dsimp only at h
  split at h
  · cases h
  · split at h
    · cases h
    · rename_i hduplicates
      split at h
      · cases h
      · rename_i hpassword
        obtain ⟨common, hcommon, h⟩ := of_bind_eq_ok h
        split at h
        · cases h
        · cases h
          refine ⟨source, control, common,
            ⟨hsource, hcontrol, ?_, hpassword, hcommon⟩, rfl⟩
          rintro record rfl
          exact not_not.mp hduplicates

end NewTargets

/-- `instance.save(update_fields=…)` -/
def storeRecord (record : InstanceRecord) : Except Refusal InstanceTable :=
  if lib.storable record then .ok (saveRecord instances record)
  else
    .error (.raised
      (.appDatabaseError "value too long for type character varying"))

/-! ## update_owner_webhook -/

def checkWebhookUrl (webhookUrl : String) : Except Refusal Unit :=
  if webhookUrl.length > 2048 then
    .error (.message "The Teams webhook URL must be 2048 characters or fewer.")
  else if webhookUrl ≠ "" ∧ lib.validUrl webhookUrl = false then
    .error (.message
      "Enter a valid Teams webhook URL or leave the field blank.")
  else .ok ()

def withOwnerWebhook (webhookUrl : String) (record : InstanceRecord) :
    InstanceRecord :=
  { record with
    ownerTeamsWebhookUrl := webhookUrl
    excludeFromGlobalNotifications :=
      if requester.user.isSuperuser then
        form.checked "exclude_from_global_notifications"
      else record.excludeFromGlobalNotifications }

def updateOwnerWebhook (pk : Nat) : Except Refusal InstanceTable := do
  (requireStaff requester.user).mapError .raised
  let record ← getRecord instances pk
  (requireInstanceNotifications requester.tables requester.user
    record.target).mapError .raised
  let webhookUrl := stripText (form.text "owner_teams_webhook_url" "")
  checkWebhookUrl lib webhookUrl
  storeRecord lib instances (withOwnerWebhook requester form webhookUrl record)

/-! ## update_control_credentials -/

def submittedControl : ControlValues :=
  let enabled := form.checked "lock_control_enabled"
  ⟨enabled,
    if enabled then stripText (form.text "control_username" "") else "",
    if enabled then form.text "control_password" "" else ""⟩

/-- A name without a password needs a stored password that is its own. -/
def lacksPassword (control : ControlValues) (record : InstanceRecord) : Bool :=
  control.enabled && control.username != "" && control.password == "" &&
    (record.controlPasswordEncrypted == "" || !record.lockControlEnabled ||
      control.username != record.controlUsername)

def withControl (control : ControlValues) (record : InstanceRecord) :
    InstanceRecord :=
  { record with
    lockControlEnabled := control.enabled
    controlUsername := control.username
    controlPasswordEncrypted :=
      if control.username = "" then ""
      else if control.password = "" then record.controlPasswordEncrypted
      else encryptPassword lib control.password }

def updateControlCredentials (pk : Nat) : Except Refusal InstanceTable := do
  (requireAdministrator requester.user).mapError .raised
  let record ← getRecord instances pk
  (requireInstanceAccess requester.tables requester.user record.target
    true).mapError .raised
  let control := submittedControl form
  if lacksPassword control record then
    throw (.message ("Enter the lock-control password, or clear the username " ++
      "to use the DB username."))
  storeRecord lib instances (withControl lib control record)

end HealthGrid.Registry
