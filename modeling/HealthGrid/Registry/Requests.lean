import HealthGrid.Registry.Api
import HealthGrid.Registry.Settings

/-!
# Requests to the registry

The writes of the forms and of the API on one state, and every way in which
such a request ends.
-/

namespace HealthGrid.Registry

open HealthGrid.Foundation HealthGrid.Db HealthGrid.Access

inductive RegistryRequest where
  | addInstance (form : Form) (group : Nat)
  | updateOwnerWebhook (form : Form) (pk : Nat)
  | updateControlCredentials (form : Form) (pk : Nat)
  | notificationSettings (form : Form) (excludedIds : List String)
  | apiCreate (data : InstanceData) (group : Nat)
  | apiUpdate (data : InstanceData) (pk : Nat)

structure RegistryCall where
  requester : Requester
  request : RegistryRequest

structure Libraries where
  registry : RegistryLibrary
  settings : SettingsLibrary

def onInstances (view : InstanceTable → Except Refusal InstanceTable) :
    Call Refusal RegistryState Unit := fun s =>
  match view s.instances with
  | .ok instances => (.ok (), { s with instances := instances })
  | .error e => (.error e, s)

def answer (lib : Libraries) (requester : Requester) :
    RegistryRequest → Call Refusal RegistryState Unit
  | .addInstance form group => onInstances fun instances =>
      addInstance lib.registry requester form instances group
  | .updateOwnerWebhook form pk => onInstances fun instances =>
      updateOwnerWebhook lib.registry requester form instances pk
  | .updateControlCredentials form pk => onInstances fun instances =>
      updateControlCredentials lib.registry requester form instances pk
  | .notificationSettings form excludedIds =>
      notificationSettings lib.settings form requester excludedIds
  | .apiCreate data group => onInstances fun instances =>
      apiCreate lib.registry requester data instances group
  | .apiUpdate data pk => onInstances fun instances =>
      apiUpdate lib.registry requester data instances pk

def serve (lib : Libraries) (call : RegistryCall) (s : RegistryState) :
    RegistryState :=
  if call.requester.user.isActive then
    (answer lib call.requester call.request s).2
  else s

theorem serve_inactive {lib : Libraries} {call : RegistryCall}
    (s : RegistryState) (h : ¬ call.requester.user.isActive = true) :
    serve lib call s = s :=
  if_neg h

theorem serve_ok {lib : Libraries} {call : RegistryCall} {s : RegistryState}
    {view : InstanceTable → Except Refusal InstanceTable}
    {instances : InstanceTable} (hactive : call.requester.user.isActive = true)
    (hview : answer lib call.requester call.request = onInstances view)
    (hok : view s.instances = .ok instances) :
    (serve lib call s).instances = instances := by
  rw [serve, if_pos hactive, hview, onInstances, hok]

/-! ## What the settings form does to the instances -/

def Rescoped (instances instances' : InstanceTable) : Prop :=
  ∃ excluded : InstanceRecord → Bool, instances'.rows =
    instances.rows.map fun record => withExclusion (excluded record) record

theorem rescoped_updateExclusion (chosen : InstanceRecord → Bool)
    (excluded : Bool) (instances : InstanceTable) :
    Rescoped instances (updateExclusion chosen excluded instances) := by
  refine ⟨fun record => if record.isActive = true ∧ chosen record = true then
    excluded else record.excludeFromGlobalNotifications, ?_⟩
  rw [updateExclusion, OpenTable.update_rows]
  apply List.map_congr_left
  intro record _
  by_cases hchosen : record.isActive = true ∧ chosen record = true
  · simp [hchosen]
  · simp only [if_neg hchosen]
    rfl

theorem Rescoped.trans {instances instances' instances'' : InstanceTable}
    (first : Rescoped instances instances')
    (second : Rescoped instances' instances'') :
    Rescoped instances instances'' := by
  obtain ⟨excluded, hrows⟩ := first
  obtain ⟨excluded', hrows'⟩ := second
  refine ⟨fun record => excluded' (withExclusion (excluded record) record), ?_⟩
  rw [hrows', hrows, List.map_map]
  rfl

theorem Rescoped.mem {instances instances' : InstanceTable}
    (h : Rescoped instances instances') {record : InstanceRecord}
    (hmem : record ∈ instances'.rows) :
    ∃ old ∈ instances.rows, ∃ excluded, record = withExclusion excluded old := by
  obtain ⟨excluded, hrows⟩ := h
  rw [hrows] at hmem
  obtain ⟨old, hold, rfl⟩ := List.mem_map.mp hmem
  exact ⟨old, hold, excluded old, rfl⟩

theorem notificationSettings_instances (lib : SettingsLibrary) (form : Form)
    (requester : Requester) (excludedIds : List String) (s : RegistryState) :
    let s' := (notificationSettings lib form requester excludedIds s).2
    s'.instances = s.instances ∨ (requester.user.isSuperuser = true ∧
      Rescoped s.instances s'.instances) := by
  have hfalse := rescoped_updateExclusion (fun _ => true) false s.instances
  unfold notificationSettings
  simp only [Call.bind_run, Call.ofExcept_run]
  cases (requireGlobalNotificationAccess requester.tables
    requester.user).mapError Refusal.raised with
  | error e => exact .inl rfl
  | ok _ =>
      cases (checkSettings lib form).mapError Refusal.message with
      | error e => exact .inl rfl
      | ok managed =>
          dsimp only
          split
          · exact .inl rfl
          · split
            · rename_i hadministrator
              refine .inr ⟨hadministrator.2, ?_⟩
              cases (excludedIds.filter (isDigitText lib)).mapM
                lib.parseInt with
              | none => exact hfalse
              | some pks =>
                  exact hfalse.trans (rescoped_updateExclusion _ true _)
            · exact .inl rfl

/-! ## Every way a request ends -/

inductive RegistryEnd (lib : RegistryLibrary) (requester : Requester)
    (instances : InstanceTable) : RegistryRequest → InstanceTable → Prop
  | unchanged (request : RegistryRequest) :
      RegistryEnd lib requester instances request instances
  | added {form : Form} {group : Nat} {targets : List InstanceRecord} :
      newTargets lib requester form instances group = .ok targets →
      RegistryEnd lib requester instances (.addInstance form group)
        (insertRecords instances targets)
  | ownerWebhook {form : Form} {pk : Nat} {record : InstanceRecord}
      (webhookUrl : String) :
      record ∈ instances.rows →
      RegistryEnd lib requester instances (.updateOwnerWebhook form pk)
        (saveRecord instances (withOwnerWebhook requester form webhookUrl
          record))
  | control {form : Form} {pk : Nat} {record : InstanceRecord} :
      record ∈ instances.rows →
      lacksPassword (submittedControl form) record = false →
      RegistryEnd lib requester instances (.updateControlCredentials form pk)
        (saveRecord instances (withControl lib (submittedControl form) record))
  | rescoped {form : Form} {excludedIds : List String}
      {instances' : InstanceTable} :
      requester.user.isSuperuser = true → Rescoped instances instances' →
      RegistryEnd lib requester instances
        (.notificationSettings form excludedIds) instances'
  | created {data : InstanceData} {group : Nat} {record : InstanceRecord} :
      create lib requester data group = .ok record →
      apiCreate lib requester data instances group =
        .ok (insertRecord instances record) →
      RegistryEnd lib requester instances (.apiCreate data group)
        (insertRecord instances record)
  | updated {data : InstanceData} {pk : Nat} {before record : InstanceRecord} :
      before ∈ instances.rows → before.pk = pk →
      update lib requester data before = .ok record →
      apiUpdate lib requester data instances pk =
        .ok (saveRecord instances record) →
      RegistryEnd lib requester instances (.apiUpdate data pk)
        (saveRecord instances record)

section Ends

variable {lib : RegistryLibrary} {requester : Requester} {form : Form}
  {instances instances' : InstanceTable} {record : InstanceRecord}

theorem storeRecord_ok (h : storeRecord lib instances record = .ok instances') :
    instances' = saveRecord instances record := by
  unfold storeRecord at h
  split at h
  · cases h
    rfl
  · cases h

theorem addInstance_end {group : Nat}
    (h : addInstance lib requester form instances group = .ok instances') :
    RegistryEnd lib requester instances (.addInstance form group)
      instances' := by
  obtain ⟨targets, htargets, hinsert⟩ := of_bind_eq_ok h
  cases hinsert
  exact .added htargets

theorem updateOwnerWebhook_end {pk : Nat}
    (h : updateOwnerWebhook lib requester form instances pk = .ok instances') :
    RegistryEnd lib requester instances (.updateOwnerWebhook form pk)
      instances' := by
  obtain ⟨-, -, h⟩ := of_bind_eq_ok h
  obtain ⟨record, hrecord, h⟩ := of_bind_eq_ok h
  obtain ⟨-, -, h⟩ := of_bind_eq_ok h
  obtain ⟨-, -, h⟩ := of_bind_eq_ok h
  rw [storeRecord_ok h]
  exact .ownerWebhook _ (getRecord_mem hrecord)

theorem updateControlCredentials_end {pk : Nat}
    (h : updateControlCredentials lib requester form instances pk =
      .ok instances') :
    RegistryEnd lib requester instances (.updateControlCredentials form pk)
      instances' := by
  obtain ⟨-, -, h⟩ := of_bind_eq_ok h
  obtain ⟨record, hrecord, h⟩ := of_bind_eq_ok h
  obtain ⟨-, -, h⟩ := of_bind_eq_ok h
  dsimp only at h
  split at h
  · cases h
  · rename_i hlacks
    rw [storeRecord_ok h]
    exact .control (getRecord_mem hrecord) (by simpa using hlacks)

theorem apiCreate_ok {data : InstanceData} {group : Nat}
    (h : apiCreate lib requester data instances group = .ok instances') :
    ∃ record, create lib requester data group = .ok record ∧
      instances' = insertRecord instances record := by
  obtain ⟨-, -, h⟩ := of_bind_eq_ok h
  obtain ⟨record, hcreate, h⟩ := of_bind_eq_ok h
  refine ⟨record, hcreate, ?_⟩
  dsimp only at h
  split at h
  · cases h
  · cases h
    rfl

theorem apiUpdate_ok {data : InstanceData} {pk : Nat}
    (h : apiUpdate lib requester data instances pk = .ok instances') :
    ∃ before ∈ instances.rows, before.pk = pk ∧
      ∃ record, update lib requester data before = .ok record ∧
        instances' = saveRecord instances record := by
  obtain ⟨-, -, h⟩ := of_bind_eq_ok h
  dsimp only at h
  split at h
  · cases h
  · rename_i before hfind
    refine ⟨before, (mem_of_mem_accessibleInstances
      (List.mem_of_find?_eq_some hfind)).1,
      by simpa using List.find?_some hfind, ?_⟩
    split at h
    · cases h
    · obtain ⟨record, hupdate, h⟩ := of_bind_eq_ok h
      exact ⟨record, hupdate, storeRecord_ok h⟩

theorem apiCreate_end {data : InstanceData} {group : Nat}
    (h : apiCreate lib requester data instances group = .ok instances') :
    RegistryEnd lib requester instances (.apiCreate data group) instances' := by
  obtain ⟨record, hcreate, heq⟩ := apiCreate_ok h
  rw [heq] at h ⊢
  exact .created hcreate h

theorem apiUpdate_end {data : InstanceData} {pk : Nat}
    (h : apiUpdate lib requester data instances pk = .ok instances') :
    RegistryEnd lib requester instances (.apiUpdate data pk) instances' := by
  obtain ⟨before, hmem, hpk, record, hupdate, heq⟩ := apiUpdate_ok h
  rw [heq] at h ⊢
  exact .updated hmem hpk hupdate h

theorem onInstances_end {s : RegistryState} {request : RegistryRequest}
    {view : InstanceTable → Except Refusal InstanceTable}
    (h : ∀ {instances'}, view s.instances = .ok instances' →
      RegistryEnd lib requester s.instances request instances') :
    RegistryEnd lib requester s.instances request
      (onInstances view s).2.instances := by
  unfold onInstances
  cases hview : view s.instances with
  | error e => exact .unchanged _
  | ok instances => exact h hview

end Ends

theorem serve_end (lib : Libraries) (call : RegistryCall) (s : RegistryState) :
    RegistryEnd lib.registry call.requester s.instances call.request
      (serve lib call s).instances := by
  obtain ⟨requester, request⟩ := call
  unfold serve
  split
  · dsimp only
    cases request with
    | notificationSettings form excludedIds =>
        rcases notificationSettings_instances lib.settings form requester
          excludedIds s with hsame | ⟨hadministrator, hrescoped⟩
        · rw [answer, hsame]
          exact .unchanged _
        · exact .rescoped hadministrator hrescoped
    | addInstance form group => exact onInstances_end addInstance_end
    | updateOwnerWebhook form pk => exact onInstances_end updateOwnerWebhook_end
    | updateControlCredentials form pk =>
        exact onInstances_end updateControlCredentials_end
    | apiCreate data group => exact onInstances_end apiCreate_end
    | apiUpdate data pk => exact onInstances_end apiUpdate_end
  · exact .unchanged _

def registryStep (lib : Libraries) (s : RegistryState) (call : RegistryCall) :
    Option RegistryState :=
  some (serve lib call s)

/-! ## A small registry -/

def openLibraries : Libraries where
  registry := {
    parseInt := fun text => if text = "0" then some 0 else none
    drivers := openDrivers
    encrypt := fun text => text ++ "="
    encrypt_ne := fun text => by simp
    validUrl := fun _ => true
    storable := fun _ => true }
  settings := {
    parseInt := fun text => if text = "0" then some 0 else none
    parseTime := fun _ => some 0
    casefold := id
    isDigit := Char.isDigit
    validUrl := fun _ => true
    storable := fun _ => true }

def openTables : AccessTables where
  accounts := .empty
  instanceAccess := .empty
  scopes := .empty
  slotAccess := .empty
  queryRunnerGrants := []

def operator : Requester where
  tables := openTables
  user :=
    { pk := 1, username := "oper", isActive := true, isStaff := true,
      isSuperuser := false }

def administrator : Requester where
  tables := openTables
  user :=
    { pk := 0, username := "root", isActive := true, isStaff := true,
      isSuperuser := true }

def noInstances : RegistryState := ⟨.defaults, .empty⟩

end HealthGrid.Registry
