import HealthGrid.Access.Permissions
import HealthGrid.Foundation.Run

/-!
# User management

The four actions of the `user_management` form.  Each is one transaction: a
request that raises leaves the tables as they were.  The audit rows of slot
grants are not modelled.
-/

namespace HealthGrid.Access

open HealthGrid.Foundation HealthGrid.Foundation.PyText HealthGrid.Db

/-- `request.POST.get` -/
abbrev Form := String → Option String

def Form.text (form : Form) (key default : String) : String :=
  (form key).getD default

/-- `bool(request.POST.get(key))` -/
def Form.checked (form : Form) (key : String) : Bool := form.text key "" != ""

/-- `int`, `validate_password` with its messages, and `normalize_username`. -/
structure ManagementLibrary where
  parseInt : String → Option Int
  passwordProblems : String → Option String
  normalizeUsername : String → String

/-- The active instances are given by their primary keys. -/
structure ManagementRequest where
  requester : Account
  activeInstances : List Nat
  form : Form

def Role.text : Role → String
  | .readonly => "readonly"
  | .operator => "operator"

def parseRole (text : String) : Option Role :=
  if text = "readonly" then some .readonly
  else if text = "operator" then some .operator
  else none

def chosenRole (form : Form) (bulkKey fieldStart : String) (inst : Nat) :
    Option Role :=
  (parseRole (form.text bulkKey "")).or
    (parseRole (form.text (fieldStart ++ toString inst) ""))

variable (lib : ManagementLibrary) (t : AccessTables)
  (request : ManagementRequest)

def findAccount (userId : Int) : Option Account :=
  if userId < 0 then none else t.accounts.findPk? userId.toNat

/-- `int(request.POST.get("user_id", ""))`, then `get_object_or_404`. -/
def requestedAccount (refusal : String) : Except Exn Account :=
  match lib.parseInt (request.form.text "user_id" "") with
  | none => .error (.permissionDenied refusal)
  | some userId =>
      match findAccount t userId with
      | none => .error (.http404 "No User matches the given query.")
      | some target => .ok target

def canDropSlots : Bool := request.form.text "can_drop_slots" "" == "1"

def canTerminateSlots : Bool :=
  request.form.text "can_terminate_slots" "" == "1"

/-! ## update_user_role -/

def withStaff (isStaff : Bool) (account : Account) : Account :=
  { account with isStaff := isStaff }

theorem withStaff_keeps (isStaff : Bool) : Keeps (withStaff isStaff) :=
  ⟨fun _ => rfl, fun _ => rfl, fun _ h => h⟩

def changeGrant (newRole : Role) (grant : UserInstanceAccess) :
    UserInstanceAccess where
  role := newRole
  canManageNotifications :=
    if newRole = .readonly then false else grant.canManageNotifications

def changeRole (target : Account) (newRole : Role) (globalBox : Bool) :
    AccessTables :=
  { t with
    accounts := t.accounts.update
      (fun account =>
        if account.pk = target.pk then
          withStaff (newRole == .operator) account
        else account)
      ((withStaff_keeps _).ite _)
    scopes := t.scopes.set target.pk ⟨newRole == .operator && globalBox⟩
    instanceAccess := t.instanceAccess.mapValues fun key grant =>
      if key.1 = target.pk then changeGrant newRole grant else grant
    slotAccess := t.slotAccess.mapValues fun userPk access =>
      if newRole = .readonly ∧ userPk = target.pk then ⟨false, false⟩
      else access }

def updateUserRole : Except Exn (AccessTables × String) := do
  let target ← requestedAccount lib t request "A valid user is required."
  match parseRole (request.form.text "role" "") with
  | none =>
      .error (.permissionDenied
        "Only non-administrator accounts can use these roles.")
  | some newRole =>
      if target.isSuperuser then
        .error (.permissionDenied
          "Only non-administrator accounts can use these roles.")
      else
        .ok (changeRole t target newRole
            (request.form.checked "can_manage_global_notifications"),
          "Changed '" ++ target.username ++ "' to " ++ newRole.text ++ ".")

/-! ## update_slot_access -/

def saveSlotAccess (userPk : Nat) : Dict Nat ReplicationSlotAccess :=
  t.slotAccess.set userPk ⟨canDropSlots request, canTerminateSlots request⟩

def updateSlotAccess : Except Exn (AccessTables × String) := do
  let target ← requestedAccount lib t request
    "A valid operator account is required."
  if target.isSuperuser || !target.isStaff then
    .error (.permissionDenied
      "Replication-slot grants can only be changed for operators.")
  else
    .ok ({ t with slotAccess := saveSlotAccess t request target.pk },
      "Updated replication-slot permissions for '" ++ target.username ++ "'.")

/-! ## update_instance_access -/

def assignedAccess (target : Account) (inst : Nat) :
    Option UserInstanceAccess :=
  (chosenRole request.form "all_instance_role" "instance_role_" inst).map
    fun role =>
      { role := role
        canManageNotifications := target.isStaff && role == .operator &&
          request.form.checked ("instance_notifications_" ++ toString inst) }

def replaceInstanceAccess (target : Account) : AccessTables :=
  { t with
    instanceAccess :=
      (t.instanceAccess.filterKeys fun key => key.1 != target.pk).setAll
        (request.activeInstances.filterMap fun inst =>
          (assignedAccess request target inst).map (Prod.mk (target.pk, inst)))
    scopes :=
      if (t.scopes.get? target.pk).isSome then t.scopes
      else t.scopes.set target.pk ⟨false⟩ }

def updateInstanceAccess : Except Exn (AccessTables × String) := do
  let target ← requestedAccount lib t request "A valid user is required."
  if target.isSuperuser then
    .error (.permissionDenied
      "Administrators already have access to every instance.")
  else if !target.isStaff && request.activeInstances.any fun inst =>
      chosenRole request.form "all_instance_role" "instance_role_" inst ==
        some .operator then
    .error (.permissionDenied
      "Only operator accounts can receive operator instance access.")
  else
    .ok (replaceInstanceAccess t request target,
      "Updated instance access for '" ++ target.username ++ "'.")

/-! ## create_user -/

def newInstanceRole (inst : Nat) : Option Role :=
  chosenRole request.form "new_all_instance_role" "new_instance_role_" inst

def newUsername : String := stripText (request.form.text "username" "")

def checkNewUser : Except String Role :=
  let password := request.form.text "password" ""
  match parseRole (request.form.text "role" "readonly") with
  | none => .error "Username, password, and a valid role are required."
  | some role =>
      if newUsername request = "" ∨ password = "" then
        .error "Username, password, and a valid role are required."
      else if role ≠ .operator ∧
          (canDropSlots request || canTerminateSlots request) then
        .error "Only operators can be granted replication-slot permissions."
      else if (t.accounts.findOpen? (newUsername request)).isSome then
        .error "That username already exists."
      else
        match lib.passwordProblems password with
        | some problems => .error problems
        | none =>
            if role ≠ .operator ∧ request.activeInstances.any fun inst =>
                newInstanceRole request inst == some .operator then
              .error
                "Read-only accounts cannot receive operator instance access."
            else .ok role

def newAccess (role : Role) (inst : Nat) : Option UserInstanceAccess :=
  (newInstanceRole request inst).map fun instanceRole =>
    { role := instanceRole
      canManageNotifications := role == .operator &&
        request.form.checked ("new_instance_notifications_" ++ toString inst) }

def newAccount (pk : Nat) (username : String) (role : Role) : Account where
  pk := pk
  username := username
  isActive := true
  isStaff := role == .operator
  isSuperuser := false

/-- `User.objects.create_user`; the column of the username is unique. -/
def insertAccount (username : String) (role : Role) :
    Except Exn (OpenTable Account) :=
  match h : t.accounts.findOpen? username with
  | some _ =>
      .error (.appDatabaseError
        "duplicate key value violates unique constraint")
  | none =>
      .ok (t.accounts.insert (newAccount t.accounts.nextPk username role) rfl h)

def withNewUser (accounts : OpenTable Account) (role : Role) : AccessTables :=
  let userPk := t.accounts.nextPk
  { t with
    accounts := accounts
    scopes := t.scopes.set userPk ⟨role == .operator &&
      request.form.checked "new_can_manage_global_notifications"⟩
    slotAccess :=
      if role == .operator &&
          (canDropSlots request || canTerminateSlots request) then
        saveSlotAccess t request userPk
      else t.slotAccess
    instanceAccess := t.instanceAccess.setAll
      (request.activeInstances.filterMap fun inst =>
        (newAccess request role inst).map (Prod.mk (userPk, inst))) }

def createUser : Except Exn (AccessTables × String) :=
  match checkNewUser lib t request with
  | .error message => .ok (t, message)
  | .ok role => do
      let accounts ← insertAccount t
        (lib.normalizeUsername (newUsername request)) role
      .ok (withNewUser t request accounts role,
        "Created " ++ role.text ++ " user '" ++ newUsername request ++
          "'. They will enroll their own authenticator on first login.")

/-! ## The form -/

def userManagement : Except Exn (AccessTables × String) :=
  let action := request.form.text "action" "create_user"
  if !isAdministrator request.requester then
    .error (.permissionDenied
      "Administrator permission required for this action.")
  else if action = "update_user_role" then updateUserRole lib t request
  else if action = "update_slot_access" then updateSlotAccess lib t request
  else if action = "update_instance_access" then
    updateInstanceAccess lib t request
  else if action ≠ "create_user" then
    .error (.permissionDenied "Unknown user-management action.")
  else createUser lib t request

def manage : AccessTables :=
  match userManagement lib t request with
  | .ok (t', _) => t'
  | .error _ => t

variable {lib t request}

theorem findAccount_eq_some {userId : Int} {account : Account}
    (h : findAccount t userId = some account) :
    account ∈ t.accounts.rows ∧ (account.pk : Int) = userId := by
  unfold findAccount at h
  split at h
  · cases h
  · rename_i hsign
    obtain ⟨hmem, hpk⟩ := OpenTable.findPk?_eq_some.mp h
    refine ⟨hmem, ?_⟩
    change account.pk = userId.toNat at hpk
    omega

/-- An update whose `user_id` field names this account. -/
def Names (lib : ManagementLibrary) (form : Form) (userPk : Nat) : Prop :=
  form.text "action" "create_user" ≠ "create_user" ∧
    lib.parseInt (form.text "user_id" "") = some (userPk : Int)

theorem requestedAccount_ok {refusal : String} {target : Account}
    (h : requestedAccount lib t request refusal = .ok target) :
    target ∈ t.accounts.rows ∧
      lib.parseInt (request.form.text "user_id" "") =
        some (target.pk : Int) := by
  unfold requestedAccount at h
  split at h
  · cases h
  · rename_i userId hparse
    split at h
    · cases h
    · rename_i hfind
      cases h
      obtain ⟨hmem, hpk⟩ := findAccount_eq_some hfind
      exact ⟨hmem, by rw [hparse, hpk]⟩

theorem insertAccount_rows {username : String} {role : Role}
    {accounts : OpenTable Account}
    (h : insertAccount t username role = .ok accounts) :
    accounts.rows =
      t.accounts.rows ++ [newAccount t.accounts.nextPk username role] := by
  unfold insertAccount at h
  split at h
  · cases h
  · cases h
    rfl

theorem insertAccount_free {username : String} {role : Role}
    {accounts : OpenTable Account}
    (h : insertAccount t username role = .ok accounts) :
    t.accounts.findOpen? username = none := by
  unfold insertAccount at h
  split at h
  · cases h
  · assumption

variable (lib t request)

inductive ManagementEnd : AccessTables → Prop
  | unchanged : ManagementEnd t
  | roleChanged {target : Account} {newRole : Role}
      (htarget : target ∈ t.accounts.rows)
      (hnamed : Names lib request.form target.pk)
      (hsuperuser : target.isSuperuser = false) :
      ManagementEnd (changeRole t target newRole
        (request.form.checked "can_manage_global_notifications"))
  | slotsSaved {target : Account} (htarget : target ∈ t.accounts.rows)
      (hnamed : Names lib request.form target.pk)
      (hsuperuser : target.isSuperuser = false)
      (hstaff : target.isStaff = true) :
      ManagementEnd
        { t with slotAccess := saveSlotAccess t request target.pk }
  | accessReplaced {target : Account} (htarget : target ∈ t.accounts.rows)
      (hnamed : Names lib request.form target.pk)
      (hsuperuser : target.isSuperuser = false)
      (hroles : target.isStaff = true ∨ ∀ inst ∈ request.activeInstances,
        chosenRole request.form "all_instance_role" "instance_role_" inst ≠
          some .operator) :
      ManagementEnd (replaceInstanceAccess t request target)
  | created {role : Role} {accounts : OpenTable Account}
      (haction : request.form.text "action" "create_user" = "create_user")
      (hrequester : isAdministrator request.requester = true)
      (hcheck : checkNewUser lib t request = .ok role)
      (hinsert : insertAccount t
        (lib.normalizeUsername (newUsername request)) role = .ok accounts) :
      ManagementEnd (withNewUser t request accounts role)

variable {lib t request}

private theorem updateUserRole_end {t' : AccessTables} {message : String}
    (haction : request.form.text "action" "create_user" ≠ "create_user")
    (h : updateUserRole lib t request = .ok (t', message)) :
    ManagementEnd lib t request t' := by
  unfold updateUserRole at h
  cases hfound : requestedAccount lib t request "A valid user is required." with
  | error e =>
      rw [hfound] at h
      cases h
  | ok target =>
      rw [hfound] at h
      change (match parseRole (request.form.text "role" "") with
        | none => _ | some newRole => _) = _ at h
      split at h
      · cases h
      · split at h
        · cases h
        · rename_i hsuperuser
          cases h
          obtain ⟨htarget, hpk⟩ := requestedAccount_ok hfound
          exact .roleChanged htarget ⟨haction, hpk⟩
            (Bool.eq_false_iff.mpr hsuperuser)

private theorem updateSlotAccess_end {t' : AccessTables} {message : String}
    (haction : request.form.text "action" "create_user" ≠ "create_user")
    (h : updateSlotAccess lib t request = .ok (t', message)) :
    ManagementEnd lib t request t' := by
  unfold updateSlotAccess at h
  cases hfound : requestedAccount lib t request
      "A valid operator account is required." with
  | error e =>
      rw [hfound] at h
      cases h
  | ok target =>
      rw [hfound] at h
      change (if target.isSuperuser || !target.isStaff then _ else _) = _ at h
      split at h
      · cases h
      · rename_i hallowed
        cases h
        rw [Bool.not_eq_true, Bool.or_eq_false_iff, Bool.not_eq_false']
          at hallowed
        obtain ⟨htarget, hpk⟩ := requestedAccount_ok hfound
        exact .slotsSaved htarget ⟨haction, hpk⟩ hallowed.1 hallowed.2

private theorem updateInstanceAccess_end {t' : AccessTables} {message : String}
    (haction : request.form.text "action" "create_user" ≠ "create_user")
    (h : updateInstanceAccess lib t request = .ok (t', message)) :
    ManagementEnd lib t request t' := by
  unfold updateInstanceAccess at h
  cases hfound : requestedAccount lib t request "A valid user is required." with
  | error e =>
      rw [hfound] at h
      cases h
  | ok target =>
      rw [hfound] at h
      change (if target.isSuperuser = true then _ else _) = _ at h
      split at h
      · cases h
      · rename_i hsuperuser
        split at h
        · cases h
        · rename_i hallowed
          cases h
          obtain ⟨htarget, hpk⟩ := requestedAccount_ok hfound
          refine .accessReplaced htarget ⟨haction, hpk⟩
            (Bool.eq_false_iff.mpr hsuperuser) ?_
          rw [or_iff_not_imp_left, Bool.not_eq_true]
          simpa using hallowed

private theorem createUser_end {t' : AccessTables} {message : String}
    (haction : request.form.text "action" "create_user" = "create_user")
    (hrequester : isAdministrator request.requester = true)
    (h : createUser lib t request = .ok (t', message)) :
    ManagementEnd lib t request t' := by
  unfold createUser at h
  split at h
  · cases h
    exact .unchanged
  · rename_i role hcheck
    cases hinsert : insertAccount t
        (lib.normalizeUsername (newUsername request)) role with
    | error e =>
        rw [hinsert] at h
        cases h
    | ok accounts =>
        rw [hinsert] at h
        cases h
        exact .created haction hrequester hcheck hinsert

theorem createUser_ok {role : Role} {accounts : OpenTable Account}
    (hcheck : checkNewUser lib t request = .ok role)
    (hinsert : insertAccount t
      (lib.normalizeUsername (newUsername request)) role = .ok accounts) :
    ∃ message, createUser lib t request =
      .ok (withNewUser t request accounts role, message) := by
  unfold createUser
  rw [hcheck]
  dsimp only
  rw [hinsert]
  exact ⟨_, rfl⟩

theorem manage_end : ManagementEnd lib t request (manage lib t request) := by
  unfold manage
  cases hresult : userManagement lib t request with
  | error e => exact .unchanged
  | ok result =>
      obtain ⟨t', message⟩ := result
      dsimp only
      unfold userManagement at hresult
      dsimp only at hresult
      split at hresult
      · cases hresult
      · rename_i hrequester
        split at hresult
        · rename_i haction
          exact updateUserRole_end (by rw [haction]; decide) hresult
        · split at hresult
          · rename_i haction
            exact updateSlotAccess_end (by rw [haction]; decide) hresult
          · split at hresult
            · rename_i haction
              exact updateInstanceAccess_end (by rw [haction]; decide) hresult
            · split at hresult
              · cases hresult
              · rename_i haction
                exact createUser_end (not_not.mp haction)
                  (by simpa using hrequester) hresult

/-! ## Accounts the request does not name -/

structure SameFor (account : Account) (t t' : AccessTables) : Prop where
  row : account ∈ t.accounts.rows → account ∈ t'.accounts.rows
  access : ∀ inst, t'.instanceAccess.get? (account.pk, inst) =
    t.instanceAccess.get? (account.pk, inst)
  scope : t'.scopes.get? account.pk = t.scopes.get? account.pk
  slots : t'.slotAccess.get? account.pk = t.slotAccess.get? account.pk
  runner : t'.queryRunnerGrants = t.queryRunnerGrants

theorem SameFor.refl (account : Account) (t : AccessTables) :
    SameFor account t t :=
  ⟨id, fun _ => rfl, rfl, rfl, rfl⟩

theorem changeRole_same {account target : Account} {newRole : Role}
    {globalBox : Bool} (hne : account.pk ≠ target.pk) :
    SameFor account t (changeRole t target newRole globalBox) where
  row hmem := List.mem_map.mpr ⟨account, hmem, if_neg hne⟩
  access inst := by
    rw [changeRole, Dict.get?_mapValues]
    dsimp only
    simp only [if_neg hne, Option.map_id_fun', id_eq]
  scope := by
    rw [changeRole, Dict.get?_set, if_neg hne]
  slots := by
    rw [changeRole, Dict.get?_mapValues]
    simp only [hne, and_false, if_false, Option.map_id_fun', id_eq]
  runner := rfl

theorem mem_assignments {userPk : Nat} {active : List Nat}
    {access? : Nat → Option UserInstanceAccess} {key : Nat × Nat}
    {access : UserInstanceAccess} :
    (key, access) ∈ (active.filterMap fun inst =>
        (access? inst).map (Prod.mk (userPk, inst))) ↔
      key.1 = userPk ∧ key.2 ∈ active ∧ access? key.2 = some access := by
  obtain ⟨owner, inst⟩ := key
  simp only [List.mem_filterMap, Option.map_eq_some_iff, Prod.mk.injEq]
  constructor
  · rintro ⟨inst, hactive, access, haccess, ⟨rfl, rfl⟩, rfl⟩
    exact ⟨rfl, hactive, haccess⟩
  · rintro ⟨rfl, hactive, haccess⟩
    exact ⟨inst, hactive, access, haccess, ⟨rfl, rfl⟩, rfl⟩

theorem get?_setAll_other {userPk inst : Nat}
    {dict : Dict (Nat × Nat) UserInstanceAccess} {active : List Nat}
    {access? : Nat → Option UserInstanceAccess} {other : Nat}
    (hne : userPk ≠ other) :
    (dict.setAll (active.filterMap fun inst =>
        (access? inst).map (Prod.mk (other, inst)))).get? (userPk, inst) =
      dict.get? (userPk, inst) := by
  apply Dict.get?_setAll_of_not_mem
  intro access hmem
  exact hne (mem_assignments.mp hmem).1

theorem replaceInstanceAccess_same {account target : Account}
    (hne : account.pk ≠ target.pk) :
    SameFor account t (replaceInstanceAccess t request target) where
  row := id
  access inst := by
    rw [replaceInstanceAccess, get?_setAll_other hne, Dict.get?_filterKeys,
      if_pos (by simpa using hne)]
  scope := by
    rw [replaceInstanceAccess]
    dsimp only
    split
    · rfl
    · rw [Dict.get?_set, if_neg hne]
  slots := rfl
  runner := rfl

theorem withNewUser_same {account : Account} {username : String} {role : Role}
    {accounts : OpenTable Account}
    (hinsert : insertAccount t username role = .ok accounts)
    (hne : account.pk ≠ t.accounts.nextPk) :
    SameFor account t (withNewUser t request accounts role) where
  row hmem := by
    change account ∈ accounts.rows
    rw [insertAccount_rows hinsert]
    exact List.mem_append_left _ hmem
  access inst := get?_setAll_other hne
  scope := by
    rw [withNewUser, Dict.get?_set, if_neg hne]
  slots := by
    rw [withNewUser]
    dsimp only
    split
    · rw [saveSlotAccess, Dict.get?_set, if_neg hne]
    · rfl
  runner := rfl

theorem manage_same {account : Account} (hmem : account ∈ t.accounts.rows)
    (hother : ¬ Names lib request.form account.pk) :
    SameFor account t (manage lib t request) := by
  have hend : ManagementEnd lib t request (manage lib t request) := manage_end
  generalize manage lib t request = t' at hend ⊢
  have hne : ∀ {target : Account}, Names lib request.form target.pk →
      account.pk ≠ target.pk := by
    intro target hnamed heq
    rw [← heq] at hnamed
    exact hother hnamed
  cases hend with
  | unchanged => exact .refl account t
  | roleChanged _ hnamed => exact changeRole_same (hne hnamed)
  | slotsSaved _ hnamed =>
      refine ⟨id, fun _ => rfl, rfl, ?_, rfl⟩
      dsimp only
      rw [saveSlotAccess, Dict.get?_set, if_neg (hne hnamed)]
  | accessReplaced _ hnamed => exact replaceInstanceAccess_same (hne hnamed)
  | created _ _ _ hinsert =>
      exact withNewUser_same hinsert
        (Nat.ne_of_lt (t.accounts.pk_lt account hmem))

end HealthGrid.Access
