import HealthGrid.Access.UserManagement

/-!
# Saving the role an account has

The role editor also holds the box for global notifications, so a role is
saved again whenever that box is.  The request writes the role into every
grant of the account and leaves it with a scope.
-/

namespace HealthGrid.Access

open HealthGrid.Foundation

def currentRole (account : Account) : Role :=
  if account.isStaff then .operator else .readonly

theorem currentRole_operator (account : Account) :
    (currentRole account == .operator) = account.isStaff := by
  unfold currentRole
  cases account.isStaff <;> rfl

structure SavesCurrentRole (lib : ManagementLibrary) (t : AccessTables)
    (request : ManagementRequest) (account : Account) : Prop where
  hmem : account ∈ t.accounts.rows
  hrequester : isAdministrator request.requester = true
  haction : request.form.text "action" "create_user" = "update_user_role"
  huser : lib.parseInt (request.form.text "user_id" "") =
    some (account.pk : Int)
  hrole : request.form.text "role" "" = (currentRole account).text

structure SameAccess (t t' : AccessTables) (account : Account)
    (inst : RDSInstance) : Prop where
  row : account ∈ t'.accounts.rows
  role : instanceRole t' account inst = instanceRole t account inst
  view : canViewInstance t' account inst = canViewInstance t account inst
  operate : canOperateInstance t' account inst =
    canOperateInstance t account inst

/-- A grant has the role of its account; without one there is a scope. -/
def AccessMatchesRole (t : AccessTables) (account : Account)
    (inst : RDSInstance) : Prop :=
  account.isActive = false ∨
    match t.instanceAccess.get? (account.pk, inst.pk) with
    | some grant => grant.role = currentRole account
    | none => hasScope t account = true

section Save

variable {lib : ManagementLibrary} {t : AccessTables}
  {request : ManagementRequest} {account : Account} {inst : RDSInstance}
  {globalBox : Bool}

theorem parseRole_text (role : Role) : parseRole role.text = some role := by
  cases role <;> decide

theorem requestedAccount_eq {refusal : String} (hmem : account ∈ t.accounts.rows)
    (huser : lib.parseInt (request.form.text "user_id" "") =
      some (account.pk : Int)) :
    requestedAccount lib t request refusal = .ok account := by
  have hfind : findAccount t (account.pk : Int) = some account := by
    rw [findAccount, if_neg (by omega), Int.toNat_natCast]
    exact OpenTable.findPk?_eq_some.mpr ⟨hmem, rfl⟩
  simp [requestedAccount, huser, hfind]

theorem manage_saves (h : SavesCurrentRole lib t request account)
    (hsuperuser : account.isSuperuser = false) :
    manage lib t request = changeRole t account (currentRole account)
      (request.form.checked "can_manage_global_notifications") := by
  have hupdate : updateUserRole lib t request =
      .ok (changeRole t account (currentRole account)
          (request.form.checked "can_manage_global_notifications"),
        "Changed '" ++ account.username ++ "' to " ++
          (currentRole account).text ++ ".") := by
    unfold updateUserRole
    rw [requestedAccount_eq h.hmem h.huser, h.hrole, parseRole_text]
    simp [bind, Except.bind, hsuperuser]
  simp [manage, userManagement, h.hrequester, h.haction, hupdate]

/-! ## The tables afterwards -/

theorem mem_changeRole_current (hmem : account ∈ t.accounts.rows) :
    account ∈ (changeRole t account (currentRole account)
      globalBox).accounts.rows := by
  refine List.mem_map.mpr ⟨account, hmem, ?_⟩
  rw [if_pos rfl, currentRole_operator]
  rfl

theorem hasScope_changeRole {newRole : Role} :
    hasScope (changeRole t account newRole globalBox) account = true := by
  simp [hasScope, changeRole, Dict.get?_set]

theorem get?_changeRole {newRole : Role} :
    (changeRole t account newRole globalBox).instanceAccess.get?
        (account.pk, inst.pk) =
      (t.instanceAccess.get? (account.pk, inst.pk)).map
        (changeGrant newRole) := by
  simp [changeRole, Dict.get?_mapValues]

theorem instanceRole_changeRole {newRole : Role}
    (hactive : account.isActive = true)
    (hsuperuser : account.isSuperuser = false) :
    instanceRole (changeRole t account newRole globalBox) account inst =
      (t.instanceAccess.get? (account.pk, inst.pk)).map
        fun _ => newRole.toInstanceRole := by
  unfold instanceRole
  rw [get?_changeRole, hasScope_changeRole]
  cases t.instanceAccess.get? (account.pk, inst.pk) with
  | none => simp [hactive, hsuperuser]
  | some grant => simp [hactive, hsuperuser, changeGrant]

theorem toInstanceRole_inj {role role' : Role} :
    role.toInstanceRole = role'.toInstanceRole ↔ role = role' := by
  cases role <;> cases role' <;> decide

theorem role_kept_iff (hsuperuser : account.isSuperuser = false) :
    instanceRole (changeRole t account (currentRole account) globalBox) account
        inst = instanceRole t account inst ↔
      AccessMatchesRole t account inst := by
  unfold AccessMatchesRole
  cases hactive : account.isActive with
  | false => simp [instanceRole, hactive]
  | true =>
      rw [instanceRole_changeRole hactive hsuperuser]
      unfold instanceRole
      cases t.instanceAccess.get? (account.pk, inst.pk) with
      | some grant =>
          simp only [hactive, hsuperuser, Option.map_some, Bool.not_true,
            Bool.false_eq_true, if_false, Option.some.injEq, false_or,
            toInstanceRole_inj, reduceCtorEq]
          exact eq_comm
      | none =>
          simp only [hactive, hsuperuser, Option.map_none, Bool.not_true,
            Bool.false_eq_true, if_false, false_or, reduceCtorEq]
          cases hasScope t account with
          | true => simp
          | false => cases account.isStaff <;> simp

theorem current_role_saved (hsuperuser : account.isSuperuser = false)
    (h : SavesCurrentRole lib t request account) :
    SameAccess t (manage lib t request) account inst ↔
      AccessMatchesRole t account inst := by
  rw [manage_saves h hsuperuser, ← role_kept_iff hsuperuser]
  constructor
  · exact SameAccess.role
  · intro hrole
    refine ⟨mem_changeRole_current h.hmem, hrole, ?_, ?_⟩
    · rw [canViewInstance, hrole]
      rfl
    · rw [canOperateInstance, hrole]
      rfl

end Save

/-! ## An operator without a scope -/

def editorLibrary : ManagementLibrary where
  parseInt text := if text = "1" then some 1 else none
  passwordProblems _ := none
  normalizeUsername := id

def legacyOperator : Account where
  pk := 1
  username := "oper"
  isActive := true
  isStaff := true
  isSuperuser := false

def editorTables (grants : List ((Nat × Nat) × UserInstanceAccess)) :
    AccessTables where
  accounts := ⟨[legacyOperator], 2, by decide, by decide, by decide⟩
  instanceAccess := Dict.empty.setAll grants
  scopes := .empty
  slotAccess := .empty
  queryRunnerGrants := []

def saveGlobalBox : ManagementRequest where
  requester :=
    { pk := 0, username := "root", isActive := true, isStaff := true,
      isSuperuser := true }
  activeInstances := [1]
  form key := [("action", "update_user_role"), ("user_id", "1"),
    ("role", "operator"), ("can_manage_global_notifications", "1")].lookup key

theorem saveGlobalBox_saves (grants : List ((Nat × Nat) × UserInstanceAccess)) :
    SavesCurrentRole editorLibrary (editorTables grants) saveGlobalBox
      legacyOperator :=
  ⟨List.mem_singleton_self _, rfl, rfl, rfl, rfl⟩

theorem legacy_operator_loses_access :
    SavesCurrentRole editorLibrary (editorTables []) saveGlobalBox
        legacyOperator ∧
      ¬ SameAccess (editorTables [])
        (manage editorLibrary (editorTables []) saveGlobalBox) legacyOperator
        (sampleInstance .postgresql) := by
  refine ⟨saveGlobalBox_saves [], fun hsame => ?_⟩
  exact absurd hsame.view (by decide)

theorem current_role_saved_operator :
    SameAccess (editorTables [((1, 1), ⟨.operator, false⟩)])
      (manage editorLibrary (editorTables [((1, 1), ⟨.operator, false⟩)])
        saveGlobalBox) legacyOperator (sampleInstance .postgresql) :=
  (current_role_saved rfl (saveGlobalBox_saves _)).mpr (.inr rfl)

end HealthGrid.Access
