import HealthGrid.Access.UserManagement

/-!
# Privileges follow the role

What the account form keeps about the tables: an account that is not staff
holds no operator row, no slot grant and no global notification permission.
-/

namespace HealthGrid.Access

open HealthGrid.Foundation HealthGrid.Db

/-! ## Staff and their rows -/

def StaffPk (t : AccessTables) (userPk : Nat) : Prop :=
  ∃ account ∈ t.accounts.rows, account.pk = userPk ∧ account.isStaff = true

structure StaffBacked (t : AccessTables) : Prop where
  operator : ∀ userPk inst grant,
    t.instanceAccess.get? (userPk, inst) = some grant →
      grant.role = .operator → StaffPk t userPk
  global : ∀ userPk scope, t.scopes.get? userPk = some scope →
    scope.canManageGlobalNotifications = true → StaffPk t userPk
  slots : ∀ userPk access action, t.slotAccess.get? userPk = some access →
    access.allows action = true → StaffPk t userPk

def NotifiersOperate (t : AccessTables) : Prop :=
  ∀ key grant, t.instanceAccess.get? key = some grant →
    grant.canManageNotifications = true → grant.role = .operator

section Steps

variable {lib : ManagementLibrary} {t : AccessTables}
  {request : ManagementRequest} {target : Account} {newRole : Role}
  {globalBox : Bool} {accounts : OpenTable Account} {username : String}
  {role : Role} {userPk : Nat}

theorem staffPk_changeRole_self (htarget : target ∈ t.accounts.rows) :
    StaffPk (changeRole t target .operator globalBox) target.pk :=
  ⟨_, List.mem_map_of_mem htarget, by rw [if_pos rfl]; rfl,
    by rw [if_pos rfl]; rfl⟩

theorem staffPk_changeRole_other (h : StaffPk t userPk)
    (hne : userPk ≠ target.pk) :
    StaffPk (changeRole t target newRole globalBox) userPk := by
  obtain ⟨account, hmem, hpk, hstaff⟩ := h
  refine ⟨account, List.mem_map.mpr ⟨account, hmem, if_neg ?_⟩, hpk, hstaff⟩
  rw [hpk]
  exact hne

theorem staffPk_created
    (hinsert : insertAccount t username role = .ok accounts)
    (h : StaffPk t userPk) :
    StaffPk (withNewUser t request accounts role) userPk := by
  obtain ⟨account, hmem, hstaff⟩ := h
  refine ⟨account, ?_, hstaff⟩
  change account ∈ accounts.rows
  rw [insertAccount_rows hinsert]
  exact List.mem_append_left _ hmem

theorem staffPk_new (hinsert : insertAccount t username .operator =
      .ok accounts) :
    StaffPk (withNewUser t request accounts .operator) t.accounts.nextPk := by
  refine ⟨newAccount t.accounts.nextPk username .operator, ?_, rfl, rfl⟩
  change _ ∈ accounts.rows
  rw [insertAccount_rows hinsert]
  exact List.mem_append_right _ (List.mem_singleton_self _)

theorem staffBacked_changeRole (h : StaffBacked t)
    (htarget : target ∈ t.accounts.rows) :
    StaffBacked (changeRole t target newRole globalBox) := by
  have hstaff : ∀ userPk, (userPk = target.pk → newRole = .operator) →
      (userPk ≠ target.pk → StaffPk t userPk) →
      StaffPk (changeRole t target newRole globalBox) userPk := by
    intro userPk hself hother
    by_cases heq : userPk = target.pk
    · rw [hself heq, heq]
      exact staffPk_changeRole_self htarget
    · exact staffPk_changeRole_other (hother heq) heq
  constructor
  · intro userPk inst grant hget hrole
    rw [changeRole, Dict.get?_mapValues, Option.map_eq_some_iff] at hget
    obtain ⟨old, hold, rfl⟩ := hget
    refine hstaff userPk (fun heq => ?_) (fun hne => ?_)
    · rw [if_pos heq] at hrole
      exact hrole
    · rw [if_neg hne] at hrole
      exact h.operator userPk inst old hold hrole
  · intro userPk scope hget hglobal
    rw [changeRole, Dict.get?_set] at hget
    refine hstaff userPk (fun heq => ?_) (fun hne => ?_)
    · rw [if_pos heq] at hget
      cases hget
      rw [Bool.and_eq_true, beq_iff_eq] at hglobal
      exact hglobal.1
    · rw [if_neg hne] at hget
      exact h.global userPk scope hget hglobal
  · intro userPk access action hget hallows
    rw [changeRole, Dict.get?_mapValues, Option.map_eq_some_iff] at hget
    obtain ⟨old, hold, rfl⟩ := hget
    refine hstaff userPk (fun heq => ?_) (fun hne => ?_)
    · by_contra hrole
      have hreadonly : newRole = .readonly := by
        cases newRole
        · rfl
        · exact absurd rfl hrole
      rw [if_pos ⟨hreadonly, heq⟩] at hallows
      cases action <;> cases hallows
    · rw [if_neg (fun hboth => hne hboth.2)] at hallows
      exact h.slots userPk old action hold hallows

theorem staffBacked_saveSlots (h : StaffBacked t)
    (htarget : target ∈ t.accounts.rows) (hstaff : target.isStaff = true) :
    StaffBacked { t with slotAccess := saveSlotAccess t request target.pk } := by
  refine ⟨h.operator, h.global, ?_⟩
  intro userPk access action hget hallows
  rw [saveSlotAccess, Dict.get?_set] at hget
  split at hget
  · rename_i heq
    exact ⟨target, htarget, heq.symm, hstaff⟩
  · exact h.slots userPk access action hget hallows

theorem assigned_of_get? {key : Nat × Nat} {grant : UserInstanceAccess}
    (hget : (replaceInstanceAccess t request target).instanceAccess.get? key =
      some grant) :
    (key.1 = target.pk ∧ key.2 ∈ request.activeInstances ∧
        assignedAccess request target key.2 = some grant) ∨
      (key.1 ≠ target.pk ∧ t.instanceAccess.get? key = some grant) := by
  rcases Dict.get?_setAll hget with hmem | hold
  · exact .inl (mem_assignments.mp hmem)
  · rw [Dict.get?_filterKeys] at hold
    split at hold
    · rename_i hkeep
      exact .inr ⟨by simpa using hkeep, hold⟩
    · cases hold

theorem staffBacked_replace (h : StaffBacked t)
    (htarget : target ∈ t.accounts.rows)
    (hroles : target.isStaff = true ∨ ∀ inst ∈ request.activeInstances,
      chosenRole request.form "all_instance_role" "instance_role_" inst ≠
        some .operator) :
    StaffBacked (replaceInstanceAccess t request target) := by
  refine ⟨?_, ?_, h.slots⟩
  · intro userPk inst grant hget hrole
    rcases assigned_of_get? hget with ⟨hpk, hactive, hassigned⟩ | ⟨-, hold⟩
    · rcases hroles with hstaff | hnone
      · exact ⟨target, htarget, hpk.symm, hstaff⟩
      · obtain ⟨chosen, hchosen, rfl⟩ := Option.map_eq_some_iff.mp hassigned
        rw [show chosen = .operator from hrole] at hchosen
        exact absurd hchosen (hnone inst hactive)
    · exact h.operator userPk inst grant hold hrole
  · intro userPk scope hget hglobal
    rw [replaceInstanceAccess] at hget
    dsimp only at hget
    split at hget
    · exact h.global userPk scope hget hglobal
    · rw [Dict.get?_set] at hget
      split at hget
      · cases hget
        cases hglobal
      · exact h.global userPk scope hget hglobal

theorem created_of_get? {key : Nat × Nat} {grant : UserInstanceAccess}
    (hget : (withNewUser t request accounts role).instanceAccess.get? key =
      some grant) :
    (key.1 = t.accounts.nextPk ∧ key.2 ∈ request.activeInstances ∧
        newAccess request role key.2 = some grant) ∨
      t.instanceAccess.get? key = some grant := by
  rcases Dict.get?_setAll hget with hmem | hold
  · exact .inl (mem_assignments.mp hmem)
  · exact .inr hold

theorem checkNewUser_operator (h : checkNewUser lib t request = .ok role)
    {inst : Nat} (hactive : inst ∈ request.activeInstances)
    (hrole : newInstanceRole request inst = some .operator) :
    role = .operator := by
  unfold checkNewUser at h
  dsimp only at h
  split at h
  · cases h
  · split at h
    · cases h
    · split at h
      · cases h
      · split at h
        · cases h
        · split at h
          · cases h
          · split at h
            · cases h
            · rename_i hallowed
              cases h
              by_contra hne
              refine hallowed ⟨hne, List.any_eq_true.mpr
                ⟨inst, hactive, ?_⟩⟩
              rw [hrole]
              rfl

theorem staffBacked_created (h : StaffBacked t)
    (hcheck : checkNewUser lib t request = .ok role)
    (hinsert : insertAccount t username role = .ok accounts) :
    StaffBacked (withNewUser t request accounts role) := by
  have hnew : role = .operator →
      StaffPk (withNewUser t request accounts role) t.accounts.nextPk := by
    rintro rfl
    exact staffPk_new hinsert
  constructor
  · intro userPk inst grant hget hrole
    rcases created_of_get? hget with ⟨hpk, hactive, haccess⟩ | hold
    · obtain ⟨chosen, hchosen, rfl⟩ := Option.map_eq_some_iff.mp haccess
      rw [show chosen = .operator from hrole] at hchosen
      rw [show userPk = _ from hpk]
      exact hnew (checkNewUser_operator hcheck hactive hchosen)
    · exact staffPk_created hinsert (h.operator userPk inst grant hold hrole)
  · intro userPk scope hget hglobal
    rw [withNewUser, Dict.get?_set] at hget
    split at hget
    · rename_i heq
      cases hget
      rw [Bool.and_eq_true, beq_iff_eq] at hglobal
      rw [heq]
      exact hnew hglobal.1
    · exact staffPk_created hinsert (h.global userPk scope hget hglobal)
  · intro userPk access action hget hallows
    rw [withNewUser] at hget
    dsimp only at hget
    split at hget
    · rename_i hgranted
      rw [saveSlotAccess, Dict.get?_set] at hget
      split at hget
      · rename_i heq
        rw [Bool.and_eq_true, beq_iff_eq] at hgranted
        rw [heq]
        exact hnew hgranted.1
      · exact staffPk_created hinsert (h.slots userPk access action hget hallows)
    · exact staffPk_created hinsert (h.slots userPk access action hget hallows)

theorem staffBacked_manage (h : StaffBacked t) :
    StaffBacked (manage lib t request) := by
  have hend : ManagementEnd lib t request (manage lib t request) := manage_end
  generalize manage lib t request = t' at hend ⊢
  cases hend with
  | unchanged => exact h
  | roleChanged htarget _ _ => exact staffBacked_changeRole h htarget
  | slotsSaved htarget _ _ hstaff => exact staffBacked_saveSlots h htarget hstaff
  | accessReplaced htarget _ _ hroles =>
      exact staffBacked_replace h htarget hroles
  | created _ _ hcheck hinsert => exact staffBacked_created h hcheck hinsert

/-! ## The owner webhook permission -/

def NotifiesReadonly (lib : ManagementLibrary) (t : AccessTables)
    (request : ManagementRequest) : Prop :=
  request.form.text "action" "create_user" = "create_user" ∧
    isAdministrator request.requester = true ∧
    checkNewUser lib t request = .ok .operator ∧
    t.accounts.findOpen? (lib.normalizeUsername (newUsername request)) =
      none ∧
    ∃ inst ∈ request.activeInstances,
      newInstanceRole request inst = some .readonly ∧
      request.form.checked ("new_instance_notifications_" ++ toString inst) =
        true

theorem notifiersOperate_manage (h : NotifiersOperate t)
    (hrequest : ¬ NotifiesReadonly lib t request) :
    NotifiersOperate (manage lib t request) := by
  have hend : ManagementEnd lib t request (manage lib t request) := manage_end
  generalize manage lib t request = t' at hend ⊢
  cases hend with
  | unchanged => exact h
  | slotsSaved => exact h
  | @roleChanged target newRole htarget _ _ =>
      intro key grant hget hnotify
      rw [changeRole, Dict.get?_mapValues, Option.map_eq_some_iff] at hget
      obtain ⟨old, hold, rfl⟩ := hget
      split at hnotify
      · rename_i heq
        rw [if_pos heq]
        cases newRole
        · cases hnotify
        · rfl
      · rename_i hne
        rw [if_neg hne]
        exact h key old hold hnotify
  | accessReplaced =>
      intro key grant hget hnotify
      rcases assigned_of_get? hget with ⟨-, -, hassigned⟩ | ⟨-, hold⟩
      · obtain ⟨chosen, hchosen, rfl⟩ := Option.map_eq_some_iff.mp hassigned
        simp only [Bool.and_eq_true, beq_iff_eq] at hnotify
        exact hnotify.1.2
      · exact h key grant hold hnotify
  | @created role accounts haction hrequester hcheck hinsert =>
      intro key grant hget hnotify
      rcases created_of_get? hget with ⟨-, hactive, haccess⟩ | hold
      · obtain ⟨chosen, hchosen, rfl⟩ := Option.map_eq_some_iff.mp haccess
        simp only [Bool.and_eq_true, beq_iff_eq] at hnotify
        obtain ⟨rfl, hbox⟩ := hnotify
        cases hrole : chosen with
        | operator => rfl
        | readonly =>
            rw [hrole] at hchosen
            exact absurd ⟨haction, hrequester, hcheck,
              insertAccount_free hinsert, key.2, hactive, hchosen, hbox⟩
              hrequest
      · exact h key grant hold hnotify

end Steps

/-! ## Runs of the form -/

def NoGrants (t : AccessTables) : Prop :=
  t.instanceAccess = .empty ∧ t.scopes = .empty ∧ t.slotAccess = .empty

def managementStep (lib : ManagementLibrary) (t : AccessTables)
    (request : ManagementRequest) : Option AccessTables :=
  some (manage lib t request)

structure PrivilegesFollowRole (t : AccessTables) (account : Account) :
    Prop where
  operator : ∀ inst grant,
    t.instanceAccess.get? (account.pk, inst) = some grant →
      grant.role = .operator → account.isStaff = true
  notifications : ∀ inst grant,
    t.instanceAccess.get? (account.pk, inst) = some grant →
      grant.canManageNotifications = true → grant.role = .operator
  global : ∀ scope, t.scopes.get? account.pk = some scope →
    scope.canManageGlobalNotifications = true → account.isStaff = true
  slots : ∀ access, t.slotAccess.get? account.pk = some access →
    access.canDrop = true ∨ access.canTerminate = true →
      account.isStaff = true

def AllPrivilegesFollow (t : AccessTables) : Prop :=
  ∀ account ∈ t.accounts.rows, account.isSuperuser = false →
    PrivilegesFollowRole t account

theorem allPrivilegesFollow {t : AccessTables} (hstaff : StaffBacked t)
    (hnotify : NotifiersOperate t) : AllPrivilegesFollow t := by
  intro account hmem _
  have hself : StaffPk t account.pk → account.isStaff = true := by
    rintro ⟨other, hother, hpk, hisStaff⟩
    rw [← OpenTable.eq_of_pk_eq hother hmem hpk]
    exact hisStaff
  constructor
  · exact fun inst grant hget hrole =>
      hself (hstaff.operator account.pk inst grant hget hrole)
  · exact fun inst grant hget => hnotify _ grant hget
  · exact fun scope hget hglobal =>
      hself (hstaff.global account.pk scope hget hglobal)
  · intro access hget hallows
    rcases hallows with hdrop | hterminate
    · exact hself (hstaff.slots account.pk access .drop hget hdrop)
    · exact hself (hstaff.slots account.pk access .terminate hget hterminate)

theorem privileges_kept {lib : ManagementLibrary} {t₀ t : AccessTables}
    {requests : List ManagementRequest} (hnone : NoGrants t₀)
    (run : Run (Guarded (fun t request => ¬ NotifiesReadonly lib t request)
      (Enabled (managementStep lib))) t₀ requests t) :
    AllPrivilegesFollow t := by
  have hkept : StaffBacked t ∧ NotifiersOperate t := by
    refine run.invariant (fun t => StaffBacked t ∧ NotifiersOperate t) ?_ ?_
    · rintro t request t' ⟨hstaff, hnotify⟩ ⟨hguard, hstep⟩
      cases hstep
      exact ⟨staffBacked_manage hstaff, notifiersOperate_manage hnotify hguard⟩
    · obtain ⟨haccess, hscopes, hslots⟩ := hnone
      refine ⟨⟨?_, ?_, ?_⟩, ?_⟩
      · intro userPk inst grant hget
        rw [haccess] at hget
        cases hget
      · intro userPk scope hget
        rw [hscopes] at hget
        cases hget
      · intro userPk access action hget
        rw [hslots] at hget
        cases hget
      · intro key grant hget
        rw [haccess] at hget
        cases hget
  exact allPrivilegesFollow hkept.1 hkept.2

section Exact

variable {lib : ManagementLibrary} {t t₀ : AccessTables}
  {request : ManagementRequest} {requests : List ManagementRequest}

theorem notifiesReadonly_created (h : NotifiesReadonly lib t request) :
    ∃ accounts, insertAccount t (lib.normalizeUsername (newUsername request))
        .operator = .ok accounts ∧
      manage lib t request = withNewUser t request accounts .operator := by
  obtain ⟨haction, hrequester, hcheck, hfree, -⟩ := h
  have hinsert : ∃ accounts, insertAccount t
      (lib.normalizeUsername (newUsername request)) .operator =
        .ok accounts := by
    unfold insertAccount
    split
    · rename_i found hfound
      rw [hfree] at hfound
      cases hfound
    · exact ⟨_, rfl⟩
  obtain ⟨accounts, hinsert⟩ := hinsert
  refine ⟨accounts, hinsert, ?_⟩
  have hresult : userManagement lib t request = createUser lib t request := by
    unfold userManagement
    rw [haction, hrequester]
    rfl
  obtain ⟨message, hcreate⟩ := createUser_ok hcheck hinsert
  rw [manage, hresult, hcreate]

theorem notifiesReadonly_breaks (h : NotifiesReadonly lib t request) :
    ¬ AllPrivilegesFollow (manage lib t request) := by
  obtain ⟨accounts, hinsert, hmanage⟩ := notifiesReadonly_created h
  obtain ⟨-, -, -, -, inst, hactive, hrole, hbox⟩ := h
  rw [hmanage]
  intro hall
  have haccess : newAccess request .operator inst = some ⟨.readonly, true⟩ := by
    rw [newAccess, hrole, hbox]
    rfl
  have hget : (withNewUser t request accounts .operator).instanceAccess.get?
      (t.accounts.nextPk, inst) = some ⟨.readonly, true⟩ := by
    apply Dict.get?_setAll_of_mem
    · exact mem_assignments.mpr ⟨rfl, hactive, haccess⟩
    · intro other hother
      have hother := (mem_assignments.mp hother).2.2
      rw [haccess] at hother
      exact (Option.some.inj hother).symm
  have hmem : newAccount t.accounts.nextPk
      (lib.normalizeUsername (newUsername request)) .operator ∈
        (withNewUser t request accounts .operator).accounts.rows := by
    change _ ∈ accounts.rows
    rw [insertAccount_rows hinsert]
    exact List.mem_append_right _ (List.mem_singleton_self _)
  have hoperator := (hall _ hmem rfl).notifications inst _ hget rfl
  cases hoperator

def AlwaysFollow (lib : ManagementLibrary) (t₀ : AccessTables)
    (requests : List ManagementRequest) : Prop :=
  ∀ front rest t, requests = front ++ rest →
    Run (Enabled (managementStep lib)) t₀ front t → AllPrivilegesFollow t

theorem privileges_follow_role (hnone : NoGrants t₀)
    (run : Run (Enabled (managementStep lib)) t₀ requests t) :
    AlwaysFollow lib t₀ requests ↔
      Run (Guarded (fun t request => ¬ NotifiesReadonly lib t request)
        (Enabled (managementStep lib))) t₀ requests t := by
  constructor
  · intro halways
    induction run with
    | refl => exact .refl _
    | @snoc s u requests request hfront hstep ih =>
        refine .snoc (ih ?_) ⟨?_, hstep⟩
        · intro front rest t heq
          refine halways front (rest ++ [request]) t ?_
          rw [heq, List.append_assoc]
        · intro hbreaks
          refine notifiesReadonly_breaks hbreaks ?_
          rw [Option.some.inj hstep]
          exact halways (requests ++ [request]) [] u (by simp)
            (.snoc hfront hstep)
  · intro hguarded front rest t' heq hfront
    subst heq
    obtain ⟨middle, hmiddle, -⟩ := hguarded.append_inv
    have hsame := hfront.unique (hmiddle.mono fun _ _ _ h => h.2)
    subst hsame
    exact privileges_kept hnone hmiddle

end Exact

/-! ## A dormant notifier -/

def sampleLibrary : ManagementLibrary where
  parseInt text := if text = "1" then some 1 else none
  passwordProblems _ := none
  normalizeUsername := id

def sampleAdministrator : Account where
  pk := 0
  username := "root"
  isActive := true
  isStaff := true
  isSuperuser := true

def sampleTables : AccessTables where
  accounts := OpenTable.empty.insert sampleAdministrator rfl rfl
  instanceAccess := .empty
  scopes := .empty
  slotAccess := .empty
  queryRunnerGrants := []

def sampleRequest (fields : List (String × String)) : ManagementRequest where
  requester := sampleAdministrator
  activeInstances := [7]
  form key := fields.lookup key

def dormantNotifier : ManagementRequest :=
  sampleRequest [("username", "maya"), ("password", "long enough"),
    ("role", "operator"), ("new_instance_role_7", "readonly"),
    ("new_instance_notifications_7", "1")]

theorem privileges_exceed_role :
    ¬ AlwaysFollow sampleLibrary sampleTables [dormantNotifier] := by
  intro halways
  have hfollow := halways [dormantNotifier] [] _ rfl (.single rfl)
  refine notifiesReadonly_breaks ?_ hfollow
  exact ⟨rfl, rfl, rfl, rfl, 7, List.mem_singleton_self 7, rfl, rfl⟩

theorem privileges_follow_role_operator :
    let request := sampleRequest [("username", "maya"),
      ("password", "long enough"), ("role", "operator"),
      ("new_instance_role_7", "operator"),
      ("new_instance_notifications_7", "1")]
    AlwaysFollow sampleLibrary sampleTables [request] := by
  intro request
  refine (privileges_follow_role ⟨rfl, rfl, rfl⟩ (.single rfl)).mpr
    (.single ⟨?_, rfl⟩)
  rintro ⟨-, -, -, -, inst, hactive, hrole, -⟩
  cases List.mem_singleton.mp hactive
  revert hrole
  decide

end HealthGrid.Access
