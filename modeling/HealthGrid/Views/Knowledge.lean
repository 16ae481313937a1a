import HealthGrid.Foundation.Observation
import HealthGrid.Views.Reading

/-!
# What an account may know

Of a row that an account may view, the pages show the host behind a mask, and
the password and the webhook not at all, unless the account has more than the
right to view it.  `known` is what is left of the row.  Two dashboards look
alike to an account when they agree on what it may know.

The driver's message for a connection that failed is printed as it is, and may
name the host.  It is known up to a redaction `redact`: the whole message when
that is the identity, that there is one when it is constant.
-/

namespace HealthGrid.Views.Reading

open HealthGrid.Foundation HealthGrid.Db HealthGrid.Access HealthGrid.Registry
open HealthGrid.Views.Overview

section Knowledge

variable (lib : ReadingLibrary) (t : AccessTables) (user : Account)

def mayCopy (record : InstanceRecord) : Bool :=
  user.isStaff && canOperateInstance t user record.target

def known (record : InstanceRecord) : InstanceRecord :=
  let copies := mayCopy t user record
  let managesWebhook := canOperateInstance t user record.target &&
    canManageInstanceNotifications t user record.target
  { record with
    host := if user.isSuperuser || copies then record.host
      else maskEndpoint lib record.host
    passwordEncrypted := if copies then record.passwordEncrypted else ""
    ownerTeamsWebhookUrl := if copies || managesWebhook then
      record.ownerTeamsWebhookUrl else ""
    controlPasswordEncrypted := ""
    queryRunnerEnabled := if user.isSuperuser then record.queryRunnerEnabled
      else canRunQueries t user record.target
    queryRunnerUsername := if user.isSuperuser then record.queryRunnerUsername
      else ""
    queryRunnerPasswordEncrypted := "" }

variable (w : Dashboard)

def Dashboard.viewable : List InstanceRecord :=
  w.instances.rows.filter fun record =>
    canViewInstance w.tables user record.target

def Dashboard.viewablePks : List Nat :=
  (w.viewable user).map InstanceRecord.pk

def Dashboard.shownAuditLogs : List AuditEntry :=
  w.auditLogs.filter fun entry =>
    user.isSuperuser || entry.inst.any (w.viewablePks user).contains

def Dashboard.shownExecutions : List ExecutionRow :=
  w.executions.filter fun row => (w.viewablePks user).contains row.instancePk &&
    (user.isSuperuser || row.user == some user.pk)

def Dashboard.shownGrants : List (Nat × Nat) :=
  w.tables.queryRunnerGrants.filter fun grant =>
    user.isSuperuser || grant.1 == user.pk

def Dashboard.namedAccounts : List Nat :=
  (w.viewable user).filterMap InstanceRecord.addedBy ++
    (w.shownAuditLogs user).filterMap AuditEntry.performedBy ++
    (w.shownExecutions user).filterMap (fun row => row.user) ++
    (w.shownGrants user).map Prod.fst

end Knowledge

/-! ## Errors -/

section Redaction

variable (redact : String → String)

/-- A page for an error of the server carries no text of it. -/
def redactError : Exn → Exn
  | .connectionError message => .connectionError (redact message)
  | .queryValidationError _ => .queryValidationError ""
  | .keyError _ => .keyError ""
  | .driverError _ => .driverError ""
  | .appDatabaseError _ => .appDatabaseError ""
  | .permissionDenied message => .permissionDenied message
  | .http404 message => .http404 message

def redactItem (item : DatabaseItem) : DatabaseItem :=
  { item with error := item.error.map redact }

def redactCard (card : GroupCard) : GroupCard :=
  { card with discoveryError := card.discoveryError.map redact }

def PageAnswer.redacted : PageAnswer → PageAnswer
  | .instanceCard card =>
      .instanceCard { card with item := redactItem redact card.item }
  | .instanceGroupCard card => .instanceGroupCard (redactCard redact card)
  | page => page

def shown : Except Exn PageAnswer → Except Exn PageAnswer :=
  seen (redactError redact) (PageAnswer.redacted redact)

end Redaction

/--
The account has the same rights, the same rows of its own and the same known
columns of the instances it may view, in the same order.  Their servers give
the same answers to a connection, and the connections fail alike.  The names of
the accounts on these rows are the same, and so are the numbers of the other
instances.
-/
structure LooksAlike (lib : ReadingLibrary) (drivers : Drivers)
    (redact : String → String) (user : Account) (w w' : Dashboard) : Prop where
  account : w.tables.accounts.findPk? user.pk = some user
  account' : w'.tables.accounts.findPk? user.pk = some user
  scope : hasScope w.tables user = hasScope w'.tables user
  access : ∀ pk, w.tables.instanceAccess.get? (user.pk, pk) =
    w'.tables.instanceAccess.get? (user.pk, pk)
  grants : w.shownGrants user = w'.shownGrants user
  registered : ∀ pk, (w.instances.findPk? pk).isSome =
    (w'.instances.findPk? pk).isSome
  viewable : (w.viewable user).map (known lib w.tables user) =
    (w'.viewable user).map (known lib w'.tables user)
  createdAt : ∀ pk ∈ w.viewablePks user, w.createdAt pk = w'.createdAt pk
  connections : ∀ record ∈ w.viewable user, ∀ record' ∈ w'.viewable user,
    record.pk = record'.pk →
    seen (redactError redact) (fun _ => ()) (getConnection drivers record.target) =
      seen (redactError redact) (fun _ => ())
        (getConnection drivers record'.target)
  servers : ∀ record ∈ w.viewable user, ∀ record' ∈ w'.viewable user,
    record.pk = record'.pk → w.servers record = w'.servers record'
  links : w.links = w'.links
  auditLogs : w.shownAuditLogs user = w'.shownAuditLogs user
  executions : w.shownExecutions user = w'.shownExecutions user
  names : ∀ pk ∈ w.namedAccounts user, w.username pk = w'.username pk
  grantPks : user.isSuperuser = true →
    ∀ grant ∈ w.shownGrants user, w.grantPk grant = w'.grantPk grant

/-! ## Rights -/

section Rights

variable {t t' : AccessTables} {user : Account} {inst inst' : RDSInstance}

theorem instanceRole_congr (hpk : inst.pk = inst'.pk) :
    instanceRole t user inst = instanceRole t user inst' := by
  unfold instanceRole
  rw [hpk]

theorem canOperateInstance_congr (hpk : inst.pk = inst'.pk) :
    canOperateInstance t user inst = canOperateInstance t user inst' := by
  unfold canOperateInstance
  rw [instanceRole_congr hpk]

theorem canManageInstanceNotifications_congr (hpk : inst.pk = inst'.pk) :
    canManageInstanceNotifications t user inst =
      canManageInstanceNotifications t user inst' := by
  unfold canManageInstanceNotifications
  rw [hpk]

end Rights

section Columns

variable {lib : ReadingLibrary} {t : AccessTables} {user : Account}
  {record record' : InstanceRecord}

theorem known_pk (h : known lib t user record = known lib t user record') :
    record.pk = record'.pk := by
  have hpk := congrArg InstanceRecord.pk h
  exact hpk

theorem known_engine (h : known lib t user record = known lib t user record') :
    record.target.engine = record'.target.engine := by
  have hengine := congrArg (fun record => record.target.engine) h
  exact hengine

theorem mayCopy_congr (hpk : record.pk = record'.pk) :
    mayCopy t user record = mayCopy t user record' := by
  have htarget : record.target.pk = record'.target.pk := hpk
  unfold mayCopy
  rw [canOperateInstance_congr htarget]

theorem shownHost_factors :
    (shownHost lib user).FactorsThrough (known lib t user) := by
  intro record record' h
  have hhost := congrArg InstanceRecord.host h
  unfold known at hhost
  dsimp only at hhost
  rw [mayCopy_congr (known_pk h)] at hhost
  unfold shownHost
  cases hsuperuser : user.isSuperuser with
  | true => simpa [hsuperuser] using hhost
  | false =>
      rw [hsuperuser, Bool.false_or] at hhost
      split at hhost
      · rw [hhost]
      · simpa using hhost

theorem printed_factors :
    (printed lib user).FactorsThrough (known lib t user) := by
  intro record record' h
  calc
    printed lib user record =
        { printed lib user (known lib t user record) with
          host := shownHost lib user record } := rfl
    _ = { printed lib user (known lib t user record') with
          host := shownHost lib user record' } := by
        rw [h, shownHost_factors h]
    _ = printed lib user record' := rfl

theorem toRepresentation_congr {w w' : Dashboard}
    (h : known lib t user record = known lib t user record')
    (hcreated : w.createdAt record.pk = w'.createdAt record'.pk) :
    toRepresentation lib w user record = toRepresentation lib w' user record' := by
  calc
    toRepresentation lib w user record =
        { toRepresentation lib w user (known lib t user record) with
          host := shownHost lib user record
          createdAt := w.createdAt record.pk } := rfl
    _ = { toRepresentation lib w user (known lib t user record') with
          host := shownHost lib user record'
          createdAt := w'.createdAt record'.pk } := by
        rw [h, shownHost_factors h, hcreated]
    _ = toRepresentation lib w' user record' := rfl

theorem canRunQueries_of_known
    (h : known lib t user record = known lib t user record') :
    canRunQueries t user record.target = canRunQueries t user record'.target := by
  have henabled := congrArg InstanceRecord.queryRunnerEnabled h
  unfold known at henabled
  dsimp only at henabled
  cases hsuperuser : user.isSuperuser with
  | true =>
      rw [hsuperuser, if_pos rfl, if_pos rfl] at henabled
      unfold canRunQueries InstanceRecord.target
      dsimp only
      rw [henabled, known_pk h]
  | false => simpa [hsuperuser] using henabled

theorem webhook_of_known
    (hmanages : (canOperateInstance t user record.target &&
      canManageInstanceNotifications t user record.target) = true)
    (h : known lib t user record = known lib t user record') :
    record.ownerTeamsWebhookUrl = record'.ownerTeamsWebhookUrl := by
  have hpk : record.target.pk = record'.target.pk := known_pk h
  have hmanages' := hmanages
  rw [canOperateInstance_congr hpk, canManageInstanceNotifications_congr hpk]
    at hmanages'
  have hwebhook := congrArg InstanceRecord.ownerTeamsWebhookUrl h
  unfold known at hwebhook
  dsimp only at hwebhook
  rwa [hmanages, hmanages', Bool.or_true, Bool.or_true, if_pos rfl, if_pos rfl]
    at hwebhook

theorem prefillOf_known {extending : Bool}
    (hcopies : mayCopy t user record = true) :
    prefillOf lib user extending (known lib t user record) =
      prefillOf lib user extending record := by
  unfold prefillOf getPassword known
  dsimp only
  rw [hcopies, Bool.or_true, Bool.true_or]
  rfl

theorem prefillOf_congr {extending : Bool}
    (hcopies : mayCopy t user record = true)
    (h : known lib t user record = known lib t user record') :
    prefillOf lib user extending record =
      prefillOf lib user extending record' := by
  have hcopies' : mayCopy t user record' = true := by
    rwa [← mayCopy_congr (known_pk h)]
  rw [← prefillOf_known hcopies, h, prefillOf_known hcopies']

end Columns

theorem accessible_eq {t : AccessTables} {user : Account}
    {instances : InstanceTable} (hactive : user.isActive = true) :
    accessibleInstances t user instances =
      (instances.rows.filter fun record =>
        canViewInstance t user record.target).filter InstanceRecord.isActive := by
  rw [List.filter_comm]
  unfold accessibleInstances
  dsimp only
  split
  · rename_i hall
    have hview : ∀ record : InstanceRecord,
        canViewInstance t user record.target = true := by
      intro record
      cases hsuperuser : user.isSuperuser with
      | true => exact canViewInstance_superuser hactive hsuperuser
      | false =>
          rw [hsuperuser, Bool.false_or, Bool.not_eq_true'] at hall
          exact canViewInstance_legacy hactive hall
    simp [hview]
  · rename_i hscoped
    rw [Bool.or_eq_true, not_or, Bool.not_eq_true, Bool.not_eq_true',
      Bool.not_eq_false] at hscoped
    have hjoin : ∀ record : InstanceRecord,
        ((t.instanceAccess.keys.filter fun key =>
          key.1 == user.pk && key.2 == record.pk).map fun _ => record) =
        if canViewInstance t user record.target then [record] else [] := by
      intro record
      have hkey : ∀ key : Nat × Nat, (key.1 == user.pk && key.2 == record.pk) =
          (key == (user.pk, record.pk)) := by
        intro key
        rw [Bool.eq_iff_iff]
        simp [Prod.ext_iff]
      rw [List.filter_congr fun key _ => hkey key, List.filter_beq]
      have hview : canViewInstance t user record.target = true ↔
          (user.pk, record.pk) ∈ t.instanceAccess.keys :=
        canViewInstance_scoped hactive hscoped.1 hscoped.2
      by_cases hmem : (user.pk, record.pk) ∈ t.instanceAccess.keys
      · rw [List.count_eq_one_of_mem t.instanceAccess.keys_nodup hmem,
          if_pos (hview.mpr hmem)]
        rfl
      · rw [List.count_eq_zero_of_not_mem hmem,
          if_neg fun h => hmem (hview.mp h)]
        rfl
    simp only [hjoin]
    rw [flatMap_ite_eq_filter, List.Nodup.dedup]
    exact ((List.Nodup.of_map _ instances.pk_nodup).filter _).filter _

/-! ## Rows that look alike -/

namespace LooksAlike

variable {lib : ReadingLibrary} {drivers : Drivers} {redact : String → String}
  {user : Account} {w w' : Dashboard} {inst : RDSInstance} {pk : Nat}

theorem role (h : LooksAlike lib drivers redact user w w') :
    instanceRole w.tables user inst = instanceRole w'.tables user inst := by
  unfold instanceRole
  rw [h.access, h.scope]

theorem views (h : LooksAlike lib drivers redact user w w') :
    canViewInstance w.tables user inst = canViewInstance w'.tables user inst := by
  unfold canViewInstance
  rw [h.role]

theorem operates (h : LooksAlike lib drivers redact user w w') :
    canOperateInstance w.tables user inst =
      canOperateInstance w'.tables user inst := by
  unfold canOperateInstance
  rw [h.role]

theorem manages (h : LooksAlike lib drivers redact user w w') :
    canManageInstanceNotifications w.tables user inst =
      canManageInstanceNotifications w'.tables user inst := by
  unfold canManageInstanceNotifications
  rw [h.access, h.scope]

theorem mem_shownGrants {w : Dashboard} : (user.pk, pk) ∈ w.shownGrants user ↔
    (user.pk, pk) ∈ w.tables.queryRunnerGrants := by
  unfold Dashboard.shownGrants
  simp

theorem runs (h : LooksAlike lib drivers redact user w w') :
    canRunQueries w.tables user inst = canRunQueries w'.tables user inst := by
  have hgrants : w.tables.queryRunnerGrants.contains (user.pk, inst.pk) =
      w'.tables.queryRunnerGrants.contains (user.pk, inst.pk) := by
    rw [Bool.eq_iff_iff, List.contains_iff_mem, List.contains_iff_mem,
      ← mem_shownGrants, ← mem_shownGrants, h.grants]
  unfold canRunQueries
  rw [hgrants]

theorem known_eq (h : LooksAlike lib drivers redact user w w') :
    known lib w.tables user = known lib w'.tables user := by
  funext record
  unfold known mayCopy
  rw [h.operates, h.manages, h.runs]

theorem known_viewable (h : LooksAlike lib drivers redact user w w') :
    (w.viewable user).map (known lib w.tables user) =
      (w'.viewable user).map (known lib w.tables user) := by
  rw [h.viewable, h.known_eq]

theorem viewablePks (h : LooksAlike lib drivers redact user w w') :
    w.viewablePks user = w'.viewablePks user :=
  map_eq_of_factors (fun _ _ => known_pk) h.known_viewable

theorem username_eq (h : LooksAlike lib drivers redact user w w')
    {account : Option Nat}
    (hnamed : ∀ pk, account = some pk → pk ∈ w.namedAccounts user) :
    account.bind w.username = account.bind w'.username := by
  cases account with
  | none => rfl
  | some pk => exact h.names pk (hnamed pk rfl)

theorem addedBy_eq (h : LooksAlike lib drivers redact user w w')
    {record : InstanceRecord} (hmem : record ∈ w.viewable user) :
    record.addedBy.bind w.username = record.addedBy.bind w'.username := by
  refine h.username_eq fun pk hpk => ?_
  have hnamed := List.mem_filterMap.mpr ⟨record, hmem, hpk⟩
  unfold Dashboard.namedAccounts
  simp only [List.mem_append, hnamed, true_or]

theorem auditLine_eq (h : LooksAlike lib drivers redact user w w')
    {entry : AuditEntry} (hmem : entry ∈ w.shownAuditLogs user) :
    auditLine w entry = auditLine w' entry := by
  unfold auditLine
  rw [h.username_eq fun pk hpk => ?_]
  have hnamed := List.mem_filterMap.mpr ⟨entry, hmem, hpk⟩
  unfold Dashboard.namedAccounts
  simp only [List.mem_append, hnamed, true_or, or_true]

theorem executionUser_eq (h : LooksAlike lib drivers redact user w w')
    {row : ExecutionRow} (hmem : row ∈ w.shownExecutions user) :
    row.user.bind w.username = row.user.bind w'.username := by
  refine h.username_eq fun pk hpk => ?_
  have hnamed := List.mem_filterMap.mpr
    (⟨row, hmem, hpk⟩ : ∃ row ∈ w.shownExecutions user, row.user = some pk)
  unfold Dashboard.namedAccounts
  simp only [List.mem_append, hnamed, true_or, or_true]

end LooksAlike

end HealthGrid.Views.Reading
