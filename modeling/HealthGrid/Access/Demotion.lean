import HealthGrid.Access.Routes
import HealthGrid.Foundation.Call

/-!
# Demotion to Read-only

What is left to an account after `update_user_role` has made it Read-only, as
long as no Administrator acts on the account or its grants again.
-/

namespace HealthGrid.Access

open HealthGrid.Foundation HealthGrid.Db

/-! ## Checks that staff status decides -/

section Staff

variable {t : AccessTables} {user : Account}

theorem requireStaff_ok (h : requireStaff user = .ok ()) :
    user.isStaff = true := by
  unfold requireStaff at h
  split at h
  · cases h
  · rename_i hstaff
    simpa using hstaff

theorem requireAdministrator_ok (h : requireAdministrator user = .ok ()) :
    isAdministrator user = true := by
  unfold requireAdministrator at h
  split at h
  · cases h
  · rename_i hadministrator
    simpa using hadministrator

theorem isAdministrator_staff (h : isAdministrator user = true) :
    user.isStaff = true := by
  unfold isAdministrator at h
  simp only [Bool.and_eq_true] at h
  exact h.1.2

theorem requireSlotPermission_ok {action : SlotAction}
    (h : requireSlotPermission t user action = .ok ()) :
    user.isStaff = true := by
  unfold requireSlotPermission canManageReplicationSlot at h
  cases hstaff : user.isStaff with
  | true => rfl
  | false =>
      rw [hstaff, Bool.and_false] at h
      cases h

theorem requireGlobalNotificationAccess_ok
    (h : requireGlobalNotificationAccess t user = .ok ()) :
    user.isStaff = true := by
  unfold requireGlobalNotificationAccess canManageGlobalNotifications at h
  cases hstaff : user.isStaff with
  | true => rfl
  | false =>
      rw [hstaff, Bool.and_false] at h
      cases h

end Staff

/-- The routes that do not ask for staff status. -/
def Route.OpenToReaders : Route → Prop
  | .previewQuery _ | .commitQuery _ | .discardQuery _ | .readPage => True
  | _ => False

theorem check_staff {r : Registry} {user : Account} {route : Route}
    (h : route.check r user = .ok ()) :
    route.OpenToReaders ∨ user.isStaff = true := by
  cases route with
  | previewQuery | commitQuery | discardQuery | readPage => exact .inl trivial
  | kill =>
      dsimp only [Route.check] at h
      obtain ⟨_, _, h⟩ := of_bind_eq_ok h
      obtain ⟨_, h, _⟩ := of_bind_eq_ok h
      exact .inr (requireStaff_ok h)
  | replicationSlot =>
      dsimp only [Route.check] at h
      obtain ⟨_, h, _⟩ := of_bind_eq_ok h
      exact .inr (requireSlotPermission_ok h)
  | addInstance | renameInstance | updateOwnerWebhook =>
      dsimp only [Route.check] at h
      obtain ⟨_, h, _⟩ := of_bind_eq_ok h
      exact .inr (requireStaff_ok h)
  | updateCredentials | removeInstances | grantQueryRunner
  | revokeQueryRunner =>
      dsimp only [Route.check] at h
      obtain ⟨_, h, _⟩ := of_bind_eq_ok h
      exact .inr (isAdministrator_staff (requireAdministrator_ok h))
  | apiCreate | apiUpdate =>
      dsimp only [Route.check] at h
      cases hstaff : user.isStaff with
      | true => exact .inr rfl
      | false =>
          rw [hstaff] at h
          cases h
  | notificationSettings => exact .inr (requireGlobalNotificationAccess_ok h)
  | dashboardLinks | userManagement =>
      exact .inr (isAdministrator_staff (requireAdministrator_ok h))

/-! ## Actions on the account -/

/-- The request changes the role, the access or the grants of the account. -/
def ActsOn (lib : ManagementLibrary) (r : Registry) (account : Account)
    (request : Request) : Prop :=
  match request.route with
  | .userManagement _ form => Names lib form account.pk
  | .grantQueryRunner _ username => ∃ target ∈ r.tables.accounts.rows,
      target.username = username ∧ target.pk = account.pk
  | .revokeQueryRunner _ userPk => userPk = account.pk
  | _ => False

def AdministratorActs (lib : ManagementLibrary) (account : Account)
    (r : Registry) (request : Request) : Prop :=
  ActsOn lib r account request ∧
    ∃ user ∈ r.tables.accounts.rows, user.pk = request.requester ∧
      isAdministrator user = true

def registryStep (lib : ManagementLibrary) (r : Registry) (request : Request) :
    Option Registry :=
  some (respond lib r request).1

/-! ## What a demoted account keeps -/

/-- The rows of the account, and no grant that `t` did not have. -/
structure Demoted (t : AccessTables) (account : Account) (r : Registry) :
    Prop where
  row : withStaff false account ∈ r.tables.accounts.rows
  access : ∀ inst grant,
    r.tables.instanceAccess.get? (account.pk, inst) = some grant →
      (t.instanceAccess.get? (account.pk, inst)).isSome = true
  scope : (r.tables.scopes.get? account.pk).isSome = true
  runner : ∀ inst, (account.pk, inst) ∈ r.tables.queryRunnerGrants →
    (account.pk, inst) ∈ t.queryRunnerGrants

section Kept

variable {lib : ManagementLibrary} {t : AccessTables} {r : Registry}
  {account : Account} {request : Request}

theorem demoted_same {t' : AccessTables} {instances : OpenTable RDSInstance}
    (h : Demoted t account r)
    (hsame : SameFor (withStaff false account) r.tables t') :
    Demoted t account ⟨t', instances⟩ where
  row := hsame.row h.row
  access inst grant hget := by
    have hold := hsame.access inst
    rw [show t'.instanceAccess.get? (account.pk, inst) = _ from hold] at hget
    exact h.access inst grant hget
  scope := by
    have hold := hsame.scope
    rw [show t'.scopes.get? account.pk = _ from hold]
    exact h.scope
  runner inst hmem := by
    rw [show t'.queryRunnerGrants = _ from hsame.runner] at hmem
    exact h.runner inst hmem

theorem demoted_instances {instances : OpenTable RDSInstance}
    (h : Demoted t account r) : Demoted t account ⟨r.tables, instances⟩ :=
  ⟨h.row, h.access, h.scope, h.runner⟩

theorem demoted_runner {grants : List (Nat × Nat)} (h : Demoted t account r)
    (hgrants : ∀ inst, (account.pk, inst) ∈ grants →
      (account.pk, inst) ∈ r.tables.queryRunnerGrants) :
    Demoted t account
      { r with tables := { r.tables with queryRunnerGrants := grants } } :=
  ⟨h.row, h.access, h.scope, fun inst hmem => h.runner inst (hgrants inst hmem)⟩

theorem demoted_without {removed : List Nat} (h : Demoted t account r) :
    Demoted t account (withoutInstances r removed) where
  row := h.row
  access inst grant hget := by
    rw [withoutInstances, Dict.get?_filterKeys] at hget
    split at hget
    · exact h.access inst grant hget
    · cases hget
  scope := h.scope
  runner inst hmem := h.runner inst (List.mem_of_mem_filter hmem)

theorem demoted_step (h : Demoted t account r)
    (hleft : ¬ AdministratorActs lib account r request) :
    Demoted t account (respond lib r request).1 := by
  rcases respond_cases lib request with
    hsame | ⟨user, huser, hpk, -, hcheck, hperform⟩
  · rw [hsame]
    exact h
  rw [hperform]
  obtain ⟨requester, route, accepted⟩ := request
  have hother : isAdministrator user = true →
      ¬ ActsOn lib r account ⟨requester, route, accepted⟩ :=
    fun hadmin hacts => hleft ⟨hacts, user, huser, hpk, hadmin⟩
  cases route with
  | kill | previewQuery | commitQuery | discardQuery
  | notificationSettings | dashboardLinks | readPage => exact h
  | replicationSlot action => cases action <;> exact h
  | addInstance | apiCreate | renameInstance | updateOwnerWebhook
  | updateCredentials | apiUpdate => exact demoted_instances h
  | removeInstances => exact demoted_without h
  | userManagement activeInstances form =>
      refine demoted_same h (manage_same h.row ?_)
      exact hother (requireAdministrator_ok hcheck)
  | revokeQueryRunner inst userPk =>
      exact demoted_runner h fun inst hmem => List.mem_of_mem_filter hmem
  | grantQueryRunner inst username =>
      dsimp only [Route.check] at hcheck
      obtain ⟨_, hadmin, _⟩ := of_bind_eq_ok hcheck
      have hnone := hother (requireAdministrator_ok hadmin)
      simp only [Route.perform, withQueryRunnerGrant]
      split
      · exact demoted_instances h
      · rename_i target hfind
        obtain ⟨htarget, -, hname⟩ := OpenTable.findOpen?_spec hfind
        split
        · exact demoted_instances h
        · refine demoted_runner h fun other hmem => ?_
          split at hmem
          · exact hmem
          · rw [List.mem_append, List.mem_singleton] at hmem
            rcases hmem with hmem | heq
            · exact hmem
            · exact absurd ⟨target, htarget, hname,
                (Prod.mk.inj heq).1.symm⟩ hnone

end Kept

/-! ## Demotion -/

structure Demotes (lib : ManagementLibrary) (r : Registry) (account : Account)
    (request : Request) (activeInstances : List Nat) (form : Form) :
    Prop where
  target : account ∈ r.tables.accounts.rows
  superuser : account.isSuperuser = false
  route : request.route = .userManagement activeInstances form
  accepted : request.accepted = true
  requester : ∃ user ∈ r.tables.accounts.rows, user.pk = request.requester ∧
    isAdministrator user = true
  action : form.text "action" "create_user" = "update_user_role"
  named : lib.parseInt (form.text "user_id" "") = some (account.pk : Int)
  role : form.text "role" "" = "readonly"

section Demote

variable {lib : ManagementLibrary} {r₀ r : Registry} {account : Account}
  {request : Request} {activeInstances : List Nat} {form : Form}

theorem administrator_active {user : Account}
    (h : isAdministrator user = true) : user.isActive = true := by
  unfold isAdministrator at h
  simp only [Bool.and_eq_true] at h
  exact h.1.1

theorem requireAdministrator_of {user : Account}
    (h : isAdministrator user = true) : requireAdministrator user = .ok () := by
  unfold requireAdministrator
  rw [h]
  rfl

theorem respond_demotes
    (h : Demotes lib r₀ account request activeInstances form) :
    (respond lib r₀ request).1 =
      { r₀ with
        tables := changeRole r₀.tables account .readonly
          (form.checked "can_manage_global_notifications") } := by
  obtain ⟨user, huser, hpk, hadmin⟩ := h.requester
  have hcheck : request.route.check r₀ user = .ok () := by
    rw [h.route]
    exact requireAdministrator_of hadmin
  have hfound : findAccount r₀.tables (account.pk : Int) = some account := by
    unfold findAccount
    rw [if_neg (by omega)]
    exact OpenTable.findPk?_eq_some.mpr ⟨h.target, rfl⟩
  rw [respond_accepted huser hpk (administrator_active hadmin) hcheck
    h.accepted, h.route]
  dsimp only [Route.perform]
  unfold manage userManagement updateUserRole requestedAccount
  simp only [hadmin, h.action, h.named, hfound, h.role, Bool.not_true]
  have hrole : parseRole "readonly" = some .readonly := rfl
  simp only [hrole, bind, Except.bind, h.superuser]
  rfl

theorem demoted_start
    (h : Demotes lib r₀ account request activeInstances form) :
    Demoted r₀.tables account (respond lib r₀ request).1 := by
  rw [respond_demotes h]
  constructor
  · exact List.mem_map.mpr ⟨account, h.target, if_pos rfl⟩
  · intro inst grant hget
    dsimp only at hget
    rw [changeRole, Dict.get?_mapValues] at hget
    obtain ⟨old, hold, -⟩ := Option.map_eq_some_iff.mp hget
    rw [hold]
    rfl
  · dsimp only
    rw [changeRole, Dict.get?_set, if_pos rfl]
    rfl
  · exact fun inst hmem => hmem

def OnlyReads (lib : ManagementLibrary) (account : Account) (r : Registry) :
    Prop :=
  ∀ request, request.requester = account.pk → respond lib r request = (r, [])

/--
The account may be active, and there is an instance on which it has an access
row and a query-runner grant.
-/
def KeepsQueryRunner (t : AccessTables) (account : Account) : Prop :=
  account.isActive = true ∧ ∃ inst,
    (account.pk, inst) ∈ t.queryRunnerGrants ∧
    (t.instanceAccess.get? (account.pk, inst)).isSome = true

theorem canViewInstance_scoped {t : AccessTables} {user : Account}
    {inst : RDSInstance} (hsuperuser : user.isSuperuser = false)
    (hscope : (t.scopes.get? user.pk).isSome = true)
    (h : canViewInstance t user inst = true) :
    ∃ grant, t.instanceAccess.get? (user.pk, inst.pk) = some grant := by
  unfold canViewInstance instanceRole hasScope at h
  rw [hsuperuser, hscope, Bool.true_or] at h
  cases hget : t.instanceAccess.get? (user.pk, inst.pk) with
  | some grant => exact ⟨grant, rfl⟩
  | none =>
      rw [hget] at h
      split at h <;> cases h

theorem requireQueryRunner_ok {t : AccessTables} {user : Account}
    {inst : RDSInstance} (h : requireQueryRunner t user inst = .ok ()) :
    canViewInstance t user inst = true ∧ canRunQueries t user inst = true := by
  obtain ⟨_, haccess, hrun⟩ := of_bind_eq_ok h
  constructor
  · unfold requireInstanceAccess at haccess
    cases hview : canViewInstance t user inst with
    | true => rfl
    | false =>
        rw [hview] at haccess
        cases haccess
  · cases hqueries : canRunQueries t user inst with
    | true => rfl
    | false =>
        rw [hqueries] at hrun
        cases hrun

theorem keepsQueryRunner_of_ok {t : AccessTables} {inst : RDSInstance}
    (h : Demoted t account r) (hsuperuser : account.isSuperuser = false)
    (hok : requireQueryRunner r.tables (withStaff false account) inst =
      .ok ()) : KeepsQueryRunner t account := by
  obtain ⟨hview, hrun⟩ := requireQueryRunner_ok hok
  have hplain : (withStaff false account).isSuperuser = false := hsuperuser
  have hscope : (r.tables.scopes.get? (withStaff false account).pk).isSome =
    true := h.scope
  obtain ⟨grant, hget⟩ := canViewInstance_scoped hplain hscope hview
  unfold canRunQueries withStaff at hrun
  dsimp only at hrun
  split at hrun
  · cases hrun
  · rename_i hactive
    split at hrun
    · cases hrun
    · rw [hsuperuser, if_neg Bool.false_ne_true, List.contains_iff_mem] at hrun
      exact ⟨by simpa using hactive, inst.pk, h.runner inst.pk hrun,
        h.access inst.pk grant hget⟩

theorem onlyReads_of_demoted {t : AccessTables} (h : Demoted t account r)
    (hsuperuser : account.isSuperuser = false)
    (hnone : ¬ KeepsQueryRunner t account) : OnlyReads lib account r := by
  intro request hrequester
  rcases respond_cases lib request with
    hsame | ⟨user, huser, hpk, -, hcheck, hperform⟩
  · exact hsame
  have huser : user = withStaff false account :=
    OpenTable.eq_of_pk_eq huser h.row (hpk.trans hrequester)
  subst huser
  rw [hperform]
  obtain ⟨requester, route, accepted⟩ := request
  rcases check_staff hcheck with hreader | hstaff
  · cases route with
    | discardQuery | readPage => rfl
    | previewQuery | commitQuery =>
        obtain ⟨inst, -, hok⟩ := of_bind_eq_ok hcheck
        exact absurd (keepsQueryRunner_of_ok h hsuperuser hok) hnone
    | _ => exact hreader.elim
  · cases hstaff

/-! ## What a kept grant still allows -/

theorem getInstance_of_mem {inst : RDSInstance}
    (h : inst ∈ r.instances.rows) : getInstance r inst.pk = .ok inst := by
  have hfind : r.instances.findPk? inst.pk = some inst :=
    OpenTable.findPk?_eq_some.mpr ⟨h, rfl⟩
  rw [getInstance, hfind]

theorem requireInstanceAccess_administrator {t : AccessTables}
    {user : Account} (inst : RDSInstance) (h : isAdministrator user = true) :
    requireInstanceAccess t user inst true = .ok () := by
  have hactive := administrator_active h
  have hsuperuser : user.isSuperuser = true := by
    unfold isAdministrator at h
    simp only [Bool.and_eq_true] at h
    exact h.2
  unfold requireInstanceAccess canOperateInstance canViewInstance instanceRole
  rw [hactive, hsuperuser]
  rfl

def enableQueryRunner (inst : RDSInstance) : RDSInstance :=
  { inst with queryRunnerEnabled := true }

theorem requireQueryRunner_demoted {t : AccessTables} {inst : RDSInstance}
    (globalBox : Bool) (hactive : account.isActive = true)
    (hsuperuser : account.isSuperuser = false)
    (hgrant : (account.pk, inst.pk) ∈ t.queryRunnerGrants)
    (haccess : (t.instanceAccess.get? (account.pk, inst.pk)).isSome = true) :
    requireQueryRunner (changeRole t account .readonly globalBox)
      (withStaff false account) (savedRow enableQueryRunner inst) =
        .ok () := by
  obtain ⟨grant, hget⟩ := Option.isSome_iff_exists.mp haccess
  have hnew : (changeRole t account .readonly globalBox).instanceAccess.get?
      (account.pk, inst.pk) = some (changeGrant .readonly grant) := by
    rw [changeRole, Dict.get?_mapValues, hget]
    exact congrArg some (if_pos rfl)
  have hview : canViewInstance (changeRole t account .readonly globalBox)
      (withStaff false account) (savedRow enableQueryRunner inst) = true := by
    unfold canViewInstance instanceRole withStaff savedRow
    dsimp only
    rw [hactive, hsuperuser, hnew]
    rfl
  have hrun : canRunQueries (changeRole t account .readonly globalBox)
      (withStaff false account) (savedRow enableQueryRunner inst) = true := by
    unfold canRunQueries withStaff savedRow enableQueryRunner changeRole
    dsimp only
    rw [hactive, hsuperuser, List.contains_iff_mem.mpr hgrant]
    rfl
  unfold requireQueryRunner requireInstanceAccess
  rw [hview, hrun]
  rfl

theorem respond_enables (lib : ManagementLibrary) {user : Account}
    {inst : RDSInstance}
    (huser : user ∈ r.tables.accounts.rows) (hadmin : isAdministrator user = true)
    (hinst : inst ∈ r.instances.rows) :
    respond lib r
        ⟨user.pk, .updateCredentials inst.pk enableQueryRunner, true⟩ =
      (saveInstances r enableQueryRunner, [.changeInstances]) := by
  have hcheck : Route.check r user
      (.updateCredentials inst.pk enableQueryRunner) = .ok () := by
    dsimp only [Route.check]
    rw [requireAdministrator_of hadmin, getInstance_of_mem hinst]
    exact requireInstanceAccess_administrator inst hadmin
  exact respond_accepted huser rfl (administrator_active hadmin) hcheck rfl

theorem respond_previews (lib : ManagementLibrary) {inst : RDSInstance}
    (globalBox : Bool)
    (htarget : account ∈ r.tables.accounts.rows)
    (hactive : account.isActive = true)
    (hsuperuser : account.isSuperuser = false)
    (hinst : inst ∈ r.instances.rows)
    (hgrant : (account.pk, inst.pk) ∈ r.tables.queryRunnerGrants)
    (haccess :
      (r.tables.instanceAccess.get? (account.pk, inst.pk)).isSome = true) :
    let enabled := saveInstances
      { r with tables := changeRole r.tables account .readonly globalBox }
      enableQueryRunner
    respond lib enabled ⟨account.pk, .previewQuery inst.pk, true⟩ =
      (enabled, [.previewStatement inst.pk]) := by
  intro enabled
  have hrow : withStaff false account ∈ enabled.tables.accounts.rows :=
    List.mem_map.mpr ⟨account, htarget, if_pos rfl⟩
  have hsaved : savedRow enableQueryRunner inst ∈ enabled.instances.rows :=
    List.mem_map_of_mem hinst
  have hpreview : Route.check enabled (withStaff false account)
      (.previewQuery inst.pk) = .ok () := by
    have hfound := getInstance_of_mem hsaved
    dsimp only [Route.check]
    rw [show getInstance _ inst.pk = _ from hfound]
    exact requireQueryRunner_demoted globalBox hactive hsuperuser hgrant haccess
  exact respond_accepted hrow rfl hactive hpreview rfl

theorem previews_of_kept
    (hforeign : ∀ grant ∈ r₀.tables.queryRunnerGrants,
      ∃ inst ∈ r₀.instances.rows, inst.pk = grant.2)
    (h : Demotes lib r₀ account request activeInstances form)
    (hkept : KeepsQueryRunner r₀.tables account) :
    ∃ requests r,
      Run (Guarded (fun r request => ¬ AdministratorActs lib account r request)
        (Enabled (registryStep lib))) (respond lib r₀ request).1 requests r ∧
      ¬ OnlyReads lib account r := by
  obtain ⟨hactive, instPk, hgrant, haccess⟩ := hkept
  obtain ⟨inst, hinst, hpk⟩ := hforeign _ hgrant
  cases hpk
  obtain ⟨user, huser, -, hadmin⟩ := h.requester
  have hne : user.pk ≠ account.pk := by
    intro heq
    have hsame := OpenTable.eq_of_pk_eq huser h.target heq
    unfold isAdministrator at hadmin
    rw [hsame, h.superuser, Bool.and_false] at hadmin
    cases hadmin
  have hpreview := respond_previews lib
    (form.checked "can_manage_global_notifications") h.target hactive
    h.superuser hinst hgrant haccess
  rw [respond_demotes h]
  generalize hr : ({ r₀ with
    tables := changeRole r₀.tables account .readonly
      (form.checked "can_manage_global_notifications") } : Registry) = r
      at hpreview ⊢
  have huser' : user ∈ r.tables.accounts.rows := by
    rw [← hr]
    exact List.mem_map.mpr ⟨user, huser, if_neg hne⟩
  have hinst' : inst ∈ r.instances.rows := by
    rw [← hr]
    exact hinst
  have henable := respond_enables lib huser' hadmin hinst'
  refine ⟨[⟨user.pk, .updateCredentials inst.pk enableQueryRunner, true⟩],
    saveInstances r enableQueryRunner,
    .single ⟨fun hacts => hacts.1, congrArg some (congrArg Prod.fst henable)⟩,
    ?_⟩
  intro honly
  dsimp only at hpreview
  rw [honly _ rfl] at hpreview
  cases hpreview

theorem demoted_account_only_reads
    (hforeign : ∀ grant ∈ r₀.tables.queryRunnerGrants,
      ∃ inst ∈ r₀.instances.rows, inst.pk = grant.2)
    (h : Demotes lib r₀ account request activeInstances form) :
    (∀ requests r,
      Run (Guarded (fun r request => ¬ AdministratorActs lib account r request)
        (Enabled (registryStep lib))) (respond lib r₀ request).1 requests r →
        OnlyReads lib account r) ↔
      ¬ KeepsQueryRunner r₀.tables account := by
  constructor
  · intro honly hkept
    obtain ⟨requests, r, run, hpreviews⟩ := previews_of_kept hforeign h hkept
    exact hpreviews (honly requests r run)
  · intro hnone requests r run
    have hdemoted := run.invariant (Demoted r₀.tables account)
      (fun r request r' hdemoted hstep => by
        obtain ⟨hguard, hstep⟩ := hstep
        rw [← Option.some.inj hstep]
        exact demoted_step hdemoted hguard)
      (demoted_start h)
    exact onlyReads_of_demoted hdemoted h.superuser hnone

end Demote

/-! ## A Read-only account that writes -/

def demotionLibrary : ManagementLibrary where
  parseInt text := if text = "1" then some 1 else none
  passwordProblems _ := none
  normalizeUsername := id

def demotedOperator : Account where
  pk := 1
  username := "maya"
  isActive := true
  isStaff := true
  isSuperuser := false

def demotionRegistry (grants : List (Nat × Nat)) : Registry where
  tables :=
    { accounts := (OpenTable.empty.insert
        ⟨0, "root", true, true, true⟩ rfl rfl).insert demotedOperator rfl rfl
      instanceAccess := Dict.empty.set (1, 0) ⟨.operator, true⟩
      scopes := Dict.empty.set 1 ⟨true⟩
      slotAccess := Dict.empty.set 1 ⟨true, true⟩
      queryRunnerGrants := grants }
  instances := insertInstance
    (insertInstance .empty (sampleInstance .postgresql))
    (sampleInstance .mysql)

def demotionForm : Form := fun key =>
  [("action", "update_user_role"), ("user_id", "1"), ("role", "readonly")].lookup
    key

def demotionRequest : Request where
  requester := 0
  route := .userManagement [0] demotionForm
  accepted := true

theorem demotionRequest_demotes (grants : List (Nat × Nat)) :
    Demotes demotionLibrary (demotionRegistry grants) demotedOperator
      demotionRequest [0] demotionForm where
  target := List.mem_cons_of_mem _ (List.mem_singleton_self _)
  superuser := rfl
  route := rfl
  accepted := rfl
  requester := ⟨⟨0, "root", true, true, true⟩, List.mem_cons_self .., rfl, rfl⟩
  action := rfl
  named := rfl
  role := rfl

theorem demoted_account_previews :
    ¬ ∀ requests r,
      Run (Guarded (fun r request =>
          ¬ AdministratorActs demotionLibrary demotedOperator r request)
        (Enabled (registryStep demotionLibrary)))
        (respond demotionLibrary (demotionRegistry [(1, 0)])
          demotionRequest).1 requests r →
        OnlyReads demotionLibrary demotedOperator r := by
  intro honly
  obtain ⟨requests, r, run, hpreviews⟩ := previews_of_kept
    (by
      intro grant hgrant
      cases List.mem_singleton.mp hgrant
      exact ⟨_, List.mem_cons_self, rfl⟩)
    (demotionRequest_demotes [(1, 0)])
    ⟨rfl, 0, List.mem_singleton_self _, rfl⟩
  exact hpreviews (honly requests r run)

/-- The grant on the second instance stands, and that instance it may not view. -/
theorem demoted_account_only_reads_later :
    let r := (respond demotionLibrary (demotionRegistry [(1, 1)])
      demotionRequest).1
    let enabled := (respond demotionLibrary r
      ⟨0, .updateCredentials 1 enableQueryRunner, true⟩).1
    (1, 1) ∈ enabled.tables.queryRunnerGrants ∧
    OnlyReads demotionLibrary demotedOperator
      (respond demotionLibrary enabled ⟨1, .previewQuery 1, true⟩).1 := by
  intro r enabled
  have hforeign : ∀ grant ∈ (demotionRegistry [(1, 1)]).tables.queryRunnerGrants,
      ∃ inst ∈ (demotionRegistry [(1, 1)]).instances.rows, inst.pk = grant.2 := by
    intro grant hgrant
    cases List.mem_singleton.mp hgrant
    exact ⟨_, List.mem_cons_of_mem _ List.mem_cons_self, rfl⟩
  have hreads := (demoted_account_only_reads hforeign
    (demotionRequest_demotes [(1, 1)])).mpr ?_
  · have hrun : Run (Guarded
        (fun r request => ¬ AdministratorActs demotionLibrary demotedOperator r request)
        (Enabled (registryStep demotionLibrary))) r
        [⟨0, .updateCredentials 1 enableQueryRunner, true⟩] enabled :=
      .single ⟨fun hacts => hacts.1, rfl⟩
    have hown : ¬ AdministratorActs demotionLibrary demotedOperator enabled
        ⟨1, .previewQuery 1, true⟩ := fun hacts => hacts.1
    exact ⟨by decide, hreads _ _ (hrun.snoc ⟨hown, rfl⟩)⟩
  · rintro ⟨-, inst, hgrant, haccess⟩
    obtain rfl : inst = 1 :=
      congrArg Prod.snd (List.mem_singleton.mp hgrant)
    cases haccess

end HealthGrid.Access
