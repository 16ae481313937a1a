import HealthGrid.Access.Demotion
import HealthGrid.Registry.Renaming

/-!
# The query-runner credentials of an instance

One form writes them, for Administrators only.  Over every request that writes
the registry, removals included, an enabled instance holds a username and a
password that came together in one accepted submission of that form.
-/

namespace HealthGrid.Registry

open HealthGrid.Foundation HealthGrid.Foundation.PyText HealthGrid.Db
open HealthGrid.Access

section Views

variable (lib : RegistryLibrary) (requester : Requester) (form : Form)
  (instances : InstanceTable)

/-! ## update_query_runner_credentials -/

structure QueryRunnerValues where
  enabled : Bool
  username : String
  password : String

def submittedQueryRunner : QueryRunnerValues :=
  let enabled := form.checked "query_runner_enabled"
  ⟨enabled,
    if enabled then stripText (form.text "query_runner_username" "") else "",
    if enabled then form.text "query_runner_password" "" else ""⟩

def lacksQueryRunnerPassword (values : QueryRunnerValues)
    (record : InstanceRecord) : Bool :=
  values.enabled && values.username != "" && values.password == "" &&
    (record.queryRunnerPasswordEncrypted == "" || !record.queryRunnerEnabled ||
      values.username != record.queryRunnerUsername)

def setQueryRunnerPassword (rawPassword : String) (record : InstanceRecord) :
    InstanceRecord :=
  { record with
    queryRunnerPasswordEncrypted := encryptPassword lib rawPassword }

def withQueryRunner (values : QueryRunnerValues) (record : InstanceRecord) :
    InstanceRecord :=
  let record :=
    { record with
      queryRunnerEnabled := values.enabled
      queryRunnerUsername := values.username }
  if values.username ≠ "" then
    if values.password ≠ "" then
      setQueryRunnerPassword lib values.password record
    else record
  else { record with queryRunnerPasswordEncrypted := "" }

theorem withQueryRunner_columns (values : QueryRunnerValues)
    (record : InstanceRecord) :
    (withQueryRunner lib values record).pk = record.pk ∧
      (withQueryRunner lib values record).queryRunnerEnabled = values.enabled ∧
      (withQueryRunner lib values record).queryRunnerUsername =
        values.username := by
  unfold withQueryRunner
  split
  · split <;> exact ⟨rfl, rfl, rfl⟩
  · exact ⟨rfl, rfl, rfl⟩

theorem withQueryRunner_password (values : QueryRunnerValues)
    (record : InstanceRecord) :
    (withQueryRunner lib values record).queryRunnerPasswordEncrypted =
      if values.username = "" then ""
      else if values.password = "" then record.queryRunnerPasswordEncrypted
      else encryptPassword lib values.password := by
  unfold withQueryRunner
  by_cases hname : values.username = "" <;>
    by_cases hpassword : values.password = "" <;>
      simp [hname, hpassword, setQueryRunnerPassword]

def updateQueryRunnerCredentials (pk : Nat) : Except Refusal InstanceTable := do
  (requireAdministrator requester.user).mapError .raised
  let record ← getRecord instances pk
  (requireInstanceAccess requester.tables requester.user record.target
    true).mapError .raised
  let values := submittedQueryRunner form
  if values.enabled && values.username == "" then
    throw (.message ("A dedicated query-runner username is required to " ++
      "enable this feature."))
  if lacksQueryRunnerPassword values record then
    throw (.message "Enter the query-runner password.")
  storeRecord lib instances (withQueryRunner lib values record)

/-! ## Removals -/

def secondFactorRefusal : Refusal :=
  .message ("MFA verification is required for this action. Set up Google " ++
    "Authenticator from the security menu, then try again.")

/-- `codeAccepted` is what the second factor answers. -/
def removeInstance (pk : Nat) (codeAccepted : Bool) :
    Except Refusal InstanceTable := do
  (requireAdministrator requester.user).mapError .raised
  let record ← getRecord instances pk
  (requireInstanceAccess requester.tables requester.user record.target
    true).mapError .raised
  if !codeAccepted then
    throw secondFactorRefusal
  .ok (instances.without [record.pk])

def removeInstanceGroup (group : Nat) (codeAccepted : Bool) :
    Except Refusal InstanceTable := do
  (requireAdministrator requester.user).mapError .raised
  let members := instances.rows.filter fun record =>
    record.isActive && record.connectionGroup == group
  if members.isEmpty then
    throw (.raised (.http404 "Instance group not found"))
  if !codeAccepted then
    throw secondFactorRefusal
  .ok (instances.without (members.map InstanceRecord.pk))

/-- `IsStaffOrReadOnly` for a `DELETE`, then `perform_destroy`. -/
def apiDestroy (pk : Nat) (codeAccepted : Bool) :
    Except Refusal InstanceTable :=
  let found := accessibleInstances requester.tables requester.user instances
  if !isAdministrator requester.user then
    .error (.raised (.permissionDenied
      "You do not have permission to perform this action."))
  else
    match found.find? fun record => record.pk == pk with
    | none =>
        .error (.raised (.http404 "No RDSInstance matches the given query."))
    | some record => do
        (requireAdministrator requester.user).mapError .raised
        if !codeAccepted then
          throw (.raised (.permissionDenied ("A valid authenticator or " ++
            "recovery code is required to remove an instance.")))
        .ok (instances.without [record.pk])

end Views

/-! ## Every request that writes the registry -/

inductive InstanceRequest where
  | registry (request : RegistryRequest)
  | renameInstance (form : Form) (pk : Nat)
  | updateQueryRunnerCredentials (form : Form) (pk : Nat)
  | removeInstance (pk : Nat) (codeAccepted : Bool)
  | removeInstanceGroup (group : Nat) (codeAccepted : Bool)
  | apiDestroy (pk : Nat) (codeAccepted : Bool)

structure InstanceCall where
  requester : Requester
  request : InstanceRequest

def InstanceRequest.view (lib : RegistryLibrary) (requester : Requester)
    (instances : InstanceTable) :
    InstanceRequest → Except Refusal InstanceTable
  | .registry _ => .ok instances
  | .renameInstance form pk =>
      Registry.renameInstance lib requester form instances pk
  | .updateQueryRunnerCredentials form pk =>
      Registry.updateQueryRunnerCredentials lib requester form instances pk
  | .removeInstance pk codeAccepted =>
      Registry.removeInstance requester instances pk codeAccepted
  | .removeInstanceGroup group codeAccepted =>
      Registry.removeInstanceGroup requester instances group codeAccepted
  | .apiDestroy pk codeAccepted =>
      Registry.apiDestroy requester instances pk codeAccepted

def serveInstance (lib : Libraries) (s : RegistryState) (call : InstanceCall) :
    RegistryState :=
  match call.request with
  | .registry request => serve lib ⟨call.requester, request⟩ s
  | request =>
      if call.requester.user.isActive then
        (onInstances (request.view lib.registry call.requester) s).2
      else s

def served (lib : Libraries) (s₀ : RegistryState) (calls : List InstanceCall) :
    RegistryState :=
  calls.foldl (serveInstance lib) s₀

/-! ## What the requests leave of the credentials -/

def queryRunnerOf (record : InstanceRecord) : Bool × String × String :=
  (record.queryRunnerEnabled, record.queryRunnerUsername,
    record.queryRunnerPasswordEncrypted)

/-- Every row has its credentials from before, or is a new row without any. -/
def KeepsQueryRunner (instances instances' : InstanceTable) : Prop :=
  ∀ row ∈ instances'.rows, queryRunnerOf row = (false, "", "") ∨
    ∃ old ∈ instances.rows, old.pk = row.pk ∧
      queryRunnerOf row = queryRunnerOf old

section Frames

variable {lib : RegistryLibrary} {requester : Requester} {form : Form}
  {instances instances' : InstanceTable} {pk : Nat} {record : InstanceRecord}

theorem keepsQueryRunner_refl : KeepsQueryRunner instances instances :=
  fun row hmem => .inr ⟨row, hmem, rfl, rfl⟩

theorem keepsQueryRunner_save {before : InstanceRecord}
    (hbefore : before ∈ instances.rows) (hpk : record.pk = before.pk)
    (hkeeps : queryRunnerOf record = queryRunnerOf before) :
    KeepsQueryRunner instances (saveRecord instances record) := by
  intro row hmem
  rcases mem_saveRecord hmem with rfl | ⟨hold, -⟩
  · exact .inr ⟨before, hbefore, hpk.symm, hkeeps⟩
  · exact .inr ⟨row, hold, rfl, rfl⟩

theorem keepsQueryRunner_without (pks : List Nat) :
    KeepsQueryRunner instances (instances.without pks) := by
  intro row hmem
  exact .inr ⟨row, (OpenTable.mem_without.mp hmem).1, rfl, rfl⟩

theorem commonFields_queryRunner {group : Nat} {control : ControlValues}
    {source : Option InstanceRecord} {common : InstanceRecord}
    (h : commonFields lib requester form group control source = .ok common) :
    queryRunnerOf common = (false, "", "") := by
  cases source with
  | some source =>
      obtain ⟨password, -, h⟩ := of_bind_eq_ok h
      cases h
      rfl
  | none =>
      obtain ⟨name, -, h⟩ := of_bind_eq_ok h
      obtain ⟨dbIdentifier, -, h⟩ := of_bind_eq_ok h
      obtain ⟨host, -, h⟩ := of_bind_eq_ok h
      obtain ⟨username, -, h⟩ := of_bind_eq_ok h
      obtain ⟨password, -, h⟩ := of_bind_eq_ok h
      obtain ⟨port, -, h⟩ := of_bind_eq_ok h
      cases h
      rfl

theorem update_queryRunner {data : InstanceData} {before : InstanceRecord}
    (h : update lib requester data before = .ok record) :
    queryRunnerOf record = queryRunnerOf before := by
  rw [update_keeps queryRunnerOf (fun _ _ _ => rfl) h,
    assigned_keeps queryRunnerOf fun _ _ => rfl]
  unfold repointed
  split <;> rfl

theorem keepsQueryRunner_registry {request : RegistryRequest}
    (h : RegistryEnd lib requester instances request instances') :
    KeepsQueryRunner instances instances' := by
  cases h with
  | unchanged => exact keepsQueryRunner_refl
  | added htargets =>
      intro row hmem
      rcases mem_insertRecords hmem with hold | ⟨target, htarget, hrow⟩
      · exact .inr ⟨row, hold, rfl, rfl⟩
      · obtain ⟨source, control, common, haccepted, rfl⟩ := newTargets_ok htargets
        obtain ⟨name, -, rfl⟩ := List.mem_map.mp htarget
        have hcommon := commonFields_queryRunner haccepted.hcommon
        rw [hrow]
        exact .inl hcommon
  | ownerWebhook webhookUrl hbefore => exact keepsQueryRunner_save hbefore rfl rfl
  | control hbefore _ => exact keepsQueryRunner_save hbefore rfl rfl
  | rescoped _ hrescoped =>
      intro row hmem
      obtain ⟨old, hold, excluded, rfl⟩ := hrescoped.mem hmem
      exact .inr ⟨old, hold, rfl, rfl⟩
  | created hcreate =>
      intro row hmem
      rw [insertRecord_rows, List.mem_append, List.mem_singleton] at hmem
      rcases hmem with hold | rfl
      · exact .inr ⟨row, hold, rfl, rfl⟩
      · obtain ⟨-, rfl⟩ := create_ok hcreate
        exact .inl rfl
  | updated hbefore _ hupdate =>
      exact keepsQueryRunner_save hbefore (update_pk hupdate)
        (update_queryRunner hupdate)

theorem keepsQueryRunner_rename
    (h : renameInstance lib requester form instances pk = .ok instances') :
    KeepsQueryRunner instances instances' := by
  obtain ⟨record, -, rfl⟩ := renameInstance_ok.mp h
  intro row hmem
  obtain ⟨old, hold, rfl⟩ := List.mem_map.mp hmem
  refine .inr ⟨old, hold, ?_⟩
  split <;> exact ⟨rfl, rfl⟩

theorem keepsQueryRunner_remove {codeAccepted : Bool}
    (h : removeInstance requester instances pk codeAccepted = .ok instances') :
    KeepsQueryRunner instances instances' := by
  obtain ⟨-, -, h⟩ := of_bind_eq_ok h
  obtain ⟨record, -, h⟩ := of_bind_eq_ok h
  obtain ⟨-, -, h⟩ := of_bind_eq_ok h
  dsimp only at h
  split at h
  · cases h
  · cases h
    exact keepsQueryRunner_without _

theorem keepsQueryRunner_removeGroup {group : Nat} {codeAccepted : Bool}
    (h : removeInstanceGroup requester instances group codeAccepted =
      .ok instances') : KeepsQueryRunner instances instances' := by
  obtain ⟨-, -, h⟩ := of_bind_eq_ok h
  dsimp only at h
  split at h
  · cases h
  · split at h
    · cases h
    · cases h
      exact keepsQueryRunner_without _

theorem keepsQueryRunner_destroy {codeAccepted : Bool}
    (h : apiDestroy requester instances pk codeAccepted = .ok instances') :
    KeepsQueryRunner instances instances' := by
  unfold apiDestroy at h
  dsimp only at h
  split at h
  · cases h
  · split at h
    · cases h
    · obtain ⟨-, -, h⟩ := of_bind_eq_ok h
      split at h
      · cases h
      · cases h
        exact keepsQueryRunner_without _

structure QueryRunnerAccepted (requester : Requester) (form : Form)
    (instances : InstanceTable) (pk : Nat) (record : InstanceRecord) : Prop where
  hmem : record ∈ instances.rows
  hpk : record.pk = pk
  hadministrator : isAdministrator requester.user = true
  hname : (submittedQueryRunner form).enabled = true →
    (submittedQueryRunner form).username ≠ ""
  hpassword : lacksQueryRunnerPassword (submittedQueryRunner form) record = false

theorem updateQueryRunnerCredentials_ok
    (h : updateQueryRunnerCredentials lib requester form instances pk =
      .ok instances') :
    ∃ record, QueryRunnerAccepted requester form instances pk record ∧
      instances' = saveRecord instances
        (withQueryRunner lib (submittedQueryRunner form) record) := by
  obtain ⟨_, hadministrator, h⟩ := of_bind_eq_ok h
  obtain ⟨record, hrecord, h⟩ := of_bind_eq_ok h
  obtain ⟨-, -, h⟩ := of_bind_eq_ok h
  dsimp only at h
  split at h
  · cases h
  · rename_i hname
    split at h
    · cases h
    · rename_i hpassword
      obtain ⟨hmem, hpk⟩ := getRecord_eq_ok.mp hrecord
      refine ⟨record, ⟨hmem, hpk,
        requireAdministrator_ok (mapError_eq_ok.mp hadministrator),
        by simpa using hname, by simpa using hpassword⟩, storeRecord_ok h⟩

end Frames

/-! ## Where the credentials come from -/

def Submitted (lib : Libraries) (s₀ : RegistryState)
    (history : List InstanceCall) (pk : Nat) (username password : String) :
    Prop :=
  ∃ front requester form rest,
    history =
        front ++ ⟨requester, .updateQueryRunnerCredentials form pk⟩ :: rest ∧
      isAdministrator requester.user = true ∧
      (∃ instances, updateQueryRunnerCredentials lib.registry requester form
        (served lib s₀ front).instances pk = .ok instances) ∧
      (submittedQueryRunner form).username = username ∧
      (submittedQueryRunner form).password = password

structure QueryRunnerBacked (lib : Libraries) (s₀ : RegistryState)
    (history : List InstanceCall) (record : InstanceRecord) : Prop where
  off : record.queryRunnerEnabled = false →
    record.queryRunnerUsername = "" ∧ record.queryRunnerPasswordEncrypted = ""
  on : record.queryRunnerEnabled = true → record.queryRunnerUsername ≠ "" ∧
    ∃ password, password ≠ "" ∧
      record.queryRunnerPasswordEncrypted =
        encryptPassword lib.registry password ∧
      Submitted lib s₀ history record.pk record.queryRunnerUsername password

section Runs

variable {lib : Libraries} {s₀ s : RegistryState} {call : InstanceCall}
  {history : List InstanceCall} {record row : InstanceRecord}

theorem served_snoc : served lib s₀ (history ++ [call]) =
    serveInstance lib (served lib s₀ history) call := by
  simp [served]

theorem Submitted.snoc {pk : Nat} {username password : String}
    (h : Submitted lib s₀ history pk username password) :
    Submitted lib s₀ (history ++ [call]) pk username password := by
  obtain ⟨front, requester, form, rest, rfl, hsubmitted⟩ := h
  exact ⟨front, requester, form, rest ++ [call], by simp, hsubmitted⟩

theorem QueryRunnerBacked.keep (h : QueryRunnerBacked lib s₀ history record)
    (hpk : record.pk = row.pk) (hkeeps : queryRunnerOf row = queryRunnerOf record) :
    QueryRunnerBacked lib s₀ (history ++ [call]) row := by
  obtain ⟨henabled, husername, hpassword⟩ :
      row.queryRunnerEnabled = record.queryRunnerEnabled ∧
      row.queryRunnerUsername = record.queryRunnerUsername ∧
      row.queryRunnerPasswordEncrypted = record.queryRunnerPasswordEncrypted := by
    simpa [queryRunnerOf] using hkeeps
  constructor
  · rw [henabled, husername, hpassword]
    exact h.off
  · rw [henabled, husername, hpassword, ← hpk]
    intro hon
    obtain ⟨hname, password, hne, hstored, hsubmitted⟩ := h.on hon
    exact ⟨hname, password, hne, hstored, hsubmitted.snoc⟩

theorem queryRunnerBacked_new (h : queryRunnerOf row = (false, "", "")) :
    QueryRunnerBacked lib s₀ history row := by
  obtain ⟨henabled, husername, hpassword⟩ : row.queryRunnerEnabled = false ∧
      row.queryRunnerUsername = "" ∧ row.queryRunnerPasswordEncrypted = "" := by
    simpa [queryRunnerOf] using h
  exact ⟨fun _ => ⟨husername, hpassword⟩, fun hon => by simp [henabled] at hon⟩

theorem submittedQueryRunner_off {form : Form}
    (h : (submittedQueryRunner form).enabled = false) :
    (submittedQueryRunner form).username = "" := by
  have hform : form.checked "query_runner_enabled" = false := h
  simp [submittedQueryRunner, hform]

theorem queryRunnerBacked_saved {requester : Requester} {form : Form} {pk : Nat}
    (hbefore : QueryRunnerBacked lib s₀ history record)
    (haccepted : QueryRunnerAccepted requester form
      (served lib s₀ history).instances pk record)
    (hok : ∃ instances, updateQueryRunnerCredentials lib.registry requester form
      (served lib s₀ history).instances pk = .ok instances) :
    QueryRunnerBacked lib s₀
      (history ++ [⟨requester, .updateQueryRunnerCredentials form pk⟩])
      (withQueryRunner lib.registry (submittedQueryRunner form) record) := by
  generalize hvalues : submittedQueryRunner form = values
  have hname := haccepted.hname
  have hpassword := haccepted.hpassword
  rw [hvalues] at hname hpassword
  obtain ⟨hsamePk, hsameEnabled, hsameName⟩ :=
    withQueryRunner_columns lib.registry values record
  have hstored := withQueryRunner_password lib.registry values record
  constructor
  · rw [hsameEnabled, hsameName, hstored]
    intro hoff
    have hempty : values.username = "" := by
      rw [← hvalues] at hoff ⊢
      exact submittedQueryRunner_off hoff
    exact ⟨hempty, if_pos hempty⟩
  · rw [hsameEnabled, hsameName, hstored, hsamePk]
    intro hon
    have hne := hname hon
    rw [if_neg hne]
    by_cases hgiven : values.password = ""
    · -- the username is the stored one, and so is the password
      rw [if_pos hgiven]
      obtain ⟨⟨-, hwasOn⟩, hsame⟩ :
          (record.queryRunnerPasswordEncrypted ≠ "" ∧
            record.queryRunnerEnabled = true) ∧
          values.username = record.queryRunnerUsername := by
        simpa [lacksQueryRunnerPassword, hon, hne, hgiven] using hpassword
      obtain ⟨-, password, hfilled, hcipher, hsubmitted⟩ := hbefore.on hwasOn
      rw [← hsame] at hsubmitted
      exact ⟨hne, password, hfilled, hcipher, hsubmitted.snoc⟩
    · rw [if_neg hgiven]
      refine ⟨hne, values.password, hgiven, rfl, history, requester, form, [],
        ?_, haccepted.hadministrator, ?_, ?_, ?_⟩
      · rw [haccepted.hpk]
      · rw [haccepted.hpk]
        exact hok
      · rw [hvalues]
      · rw [hvalues]

theorem keepsQueryRunner_serve
    (h : ∀ form pk, call.request ≠ .updateQueryRunnerCredentials form pk) :
    KeepsQueryRunner s.instances (serveInstance lib s call).instances := by
  obtain ⟨requester, request⟩ := call
  have hview : ∀ {view : InstanceTable → Except Refusal InstanceTable},
      (∀ instances', view s.instances = .ok instances' →
        KeepsQueryRunner s.instances instances') →
      KeepsQueryRunner s.instances
        (if requester.user.isActive then (onInstances view s).2
          else s).instances := by
    intro view hok
    split
    · unfold onInstances
      cases hresult : view s.instances with
      | error e => exact keepsQueryRunner_refl
      | ok instances' => exact hok instances' hresult
    · exact keepsQueryRunner_refl
  cases request with
  | registry request =>
      exact keepsQueryRunner_registry (serve_end lib ⟨requester, request⟩ s)
  | updateQueryRunnerCredentials form pk => exact absurd rfl (h form pk)
  | renameInstance form pk =>
      exact hview fun _ => keepsQueryRunner_rename
  | removeInstance pk codeAccepted =>
      exact hview fun _ => keepsQueryRunner_remove
  | removeInstanceGroup group codeAccepted =>
      exact hview fun _ => keepsQueryRunner_removeGroup
  | apiDestroy pk codeAccepted =>
      exact hview fun _ => keepsQueryRunner_destroy

theorem queryRunnerBacked_step
    (h : ∀ record ∈ (served lib s₀ history).instances.rows,
      QueryRunnerBacked lib s₀ history record) :
    ∀ record ∈ (served lib s₀ (history ++ [call])).instances.rows,
      QueryRunnerBacked lib s₀ (history ++ [call]) record := by
  rw [served_snoc]
  intro row hmem
  by_cases hform : ∃ form pk, call.request = .updateQueryRunnerCredentials form pk
  · obtain ⟨form, pk, hrequest⟩ := hform
    obtain ⟨requester, request⟩ := call
    subst hrequest
    have hkeep : row ∈ (served lib s₀ history).instances.rows →
        QueryRunnerBacked lib s₀ (history ++
          [⟨requester, .updateQueryRunnerCredentials form pk⟩]) row :=
      fun hold => (h row hold).keep rfl rfl
    change row ∈ (if requester.user.isActive then (onInstances _ _).2
      else served lib s₀ history).instances.rows at hmem
    split at hmem
    · unfold onInstances at hmem
      split at hmem
      · rename_i instances hok
        obtain ⟨record, haccepted, rfl⟩ := updateQueryRunnerCredentials_ok hok
        rcases mem_saveRecord hmem with rfl | ⟨hold, -⟩
        · exact queryRunnerBacked_saved (h record haccepted.hmem) haccepted
            ⟨_, hok⟩
        · exact hkeep hold
      · exact hkeep hmem
    · exact hkeep hmem
  · rw [not_exists] at hform
    rcases keepsQueryRunner_serve
        (fun form pk hrequest => hform form ⟨pk, hrequest⟩) row hmem
      with hnew | ⟨old, hold, hpk, hkeeps⟩
    · exact queryRunnerBacked_new hnew
    · exact (h old hold).keep hpk hkeeps

theorem queryRunnerBacked_served (hempty : s₀.instances.rows = [])
    (calls : List InstanceCall) :
    ∀ record ∈ (served lib s₀ calls).instances.rows,
      QueryRunnerBacked lib s₀ calls record := by
  induction calls using List.reverseRecOn with
  | nil =>
      intro record hmem
      rw [served, List.foldl_nil, hempty] at hmem
      cases hmem
  | append_singleton calls call ih => exact queryRunnerBacked_step ih

end Runs

/--
From an empty registry on, an instance whose query runner is off holds no
credentials for it, and one whose query runner is on is connected to with a
username and a password that an Administrator submitted together for it.
-/
theorem query_runner_logs_in_as_submitted (lib : Libraries)
    (hdecrypt : ∀ text,
      lib.registry.drivers.decrypt (lib.registry.encrypt text) = .ok text)
    (config : SettingsRow) (calls : List InstanceCall) :
    ∀ record ∈ (served lib ⟨config, .empty⟩ calls).instances.rows,
      (record.queryRunnerEnabled = false →
        record.queryRunnerUsername = "" ∧
          record.queryRunnerPasswordEncrypted = "") ∧
      (record.queryRunnerEnabled = true → ∃ password,
        Submitted lib ⟨config, .empty⟩ calls record.pk record.queryRunnerUsername
          password ∧
        record.queryRunnerUsername ≠ "" ∧ password ≠ "" ∧
        getQueryRunnerConnection lib.registry.drivers record.target =
          connectWith lib.registry.drivers record.target
            record.queryRunnerUsername password "healthgrid-query-runner") := by
  intro record hmem
  have hbacked := queryRunnerBacked_served rfl calls record hmem
  refine ⟨hbacked.off, fun hon => ?_⟩
  obtain ⟨hname, password, hne, hstored, hsubmitted⟩ := hbacked.on hon
  refine ⟨password, hsubmitted, hname, hne, ?_⟩
  have hplain : decryptPassword lib.registry.drivers
      record.queryRunnerPasswordEncrypted = .ok password := by
    rw [hstored, encryptPassword, if_neg hne, decryptPassword,
      if_neg (lib.registry.encrypt_ne password), hdecrypt]
    rfl
  have hconfigured : (!record.target.queryRunnerEnabled ||
      record.target.queryRunnerUsername == "") = false := by
    simp [InstanceRecord.target, hon, hname]
  unfold getQueryRunnerConnection
  rw [hconfigured, show decryptPassword lib.registry.drivers
    record.target.queryRunnerPasswordEncrypted = .ok password from hplain]
  rfl

/-! ## One instance with a query runner -/

/-- Encryption puts a mark before the text, decryption takes it off. -/
def markedLibraries : Libraries :=
  { openLibraries with
    registry := { openLibraries.registry with
      drivers := { openDrivers with
        decrypt := fun text => .ok (String.ofList (text.toList.drop 1)) }
      encrypt := fun text => "=" ++ text
      encrypt_ne := fun text => by simp } }

def queryRunnerForm : Form
  | "query_runner_enabled" => some "on"
  | "query_runner_username" => some "runner"
  | "query_runner_password" => some "secret"
  | _ => none

def enabledOnce : List InstanceCall :=
  [⟨administrator, .registry (.apiCreate plainInstance 0)⟩,
    ⟨administrator, .updateQueryRunnerCredentials queryRunnerForm 0⟩]

theorem enabled_once_logs_in :
    ∃ record ∈ (served markedLibraries noInstances enabledOnce).instances.rows,
      record.queryRunnerEnabled = true ∧ ∃ password,
        Submitted markedLibraries noInstances enabledOnce record.pk
          record.queryRunnerUsername password ∧
        record.queryRunnerUsername ≠ "" ∧ password ≠ "" ∧
        getQueryRunnerConnection markedLibraries.registry.drivers record.target =
          connectWith markedLibraries.registry.drivers record.target
            record.queryRunnerUsername password "healthgrid-query-runner" := by
  have hdecrypt : ∀ text, markedLibraries.registry.drivers.decrypt
      (markedLibraries.registry.encrypt text) = .ok text := by
    intro text
    simp [markedLibraries]
  refine ⟨_, List.mem_singleton_self _, rfl, ?_⟩
  exact (query_runner_logs_in_as_submitted markedLibraries hdecrypt .defaults
    enabledOnce _ (List.mem_singleton_self _)).2 rfl

end HealthGrid.Registry
