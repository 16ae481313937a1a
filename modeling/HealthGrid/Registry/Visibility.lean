import HealthGrid.Registry.Requests

/-!
# Which instances an account sees

The queryset behind the list and the API, the filter of the audit log, and the
role that a page of one instance asks for.
-/

namespace HealthGrid.Registry

open HealthGrid.Foundation HealthGrid.Db HealthGrid.Access

section Queries

variable (t : AccessTables) (user : Account) (instances : InstanceTable)

/-- `get_object` of the instance API, a 404 when there is none. -/
def apiObject (pk : Nat) : Option InstanceRecord :=
  (accessibleInstances t user instances).find? (·.pk == pk)

/--
`AuditLogViewSet.get_queryset`.  The instance column is null on global rows;
`instanceId` is the query parameter.
-/
def auditQueryset {ρ : Type} (instanceOf : ρ → Option Nat)
    (instanceId : Option Nat) (logs : List ρ) : List ρ :=
  let accessible := (accessibleInstances t user instances).map InstanceRecord.pk
  let visible := if user.isSuperuser then logs
    else logs.filter fun log => (instanceOf log).any accessible.contains
  match instanceId with
  | none => visible
  | some pk => visible.filter fun log => instanceOf log == some pk

end Queries

variable {t : AccessTables} {user : Account} {instances : InstanceTable}
  {record : InstanceRecord} {inst : RDSInstance}

theorem canViewInstance_superuser (hactive : user.isActive = true)
    (h : user.isSuperuser = true) : canViewInstance t user inst = true := by
  simp [canViewInstance, instanceRole, hactive, h]

theorem canViewInstance_legacy (hactive : user.isActive = true)
    (h : hasScope t user = false) : canViewInstance t user inst = true := by
  unfold canViewInstance instanceRole
  rw [hactive, h]
  cases user.isSuperuser <;> cases user.isStaff <;>
    cases t.instanceAccess.get? (user.pk, inst.pk) <;> rfl

theorem canViewInstance_scoped (hactive : user.isActive = true)
    (hsuperuser : user.isSuperuser = false) (h : hasScope t user = true) :
    canViewInstance t user inst = true ↔
      (user.pk, inst.pk) ∈ t.instanceAccess.keys := by
  unfold canViewInstance instanceRole
  rw [hactive, hsuperuser, h]
  cases hget : t.instanceAccess.get? (user.pk, inst.pk) with
  | none => simpa using Dict.get?_eq_none_iff.mp hget
  | some grant =>
      refine iff_of_true rfl ?_
      by_contra habsent
      rw [Dict.get?_eq_none_iff.mpr habsent] at hget
      cases hget

theorem canViewInstance_of_canOperate
    (h : canOperateInstance t user inst = true) :
    canViewInstance t user inst = true := by
  unfold canOperateInstance at h
  unfold canViewInstance
  cases hrole : instanceRole t user inst with
  | none =>
      rw [hrole] at h
      cases h
  | some role => rfl

theorem mem_accessibleInstances (hactive : user.isActive = true) :
    record ∈ accessibleInstances t user instances ↔
      record ∈ instances.rows ∧ record.isActive = true ∧
        canViewInstance t user record.target = true := by
  unfold accessibleInstances
  dsimp only
  split
  · rename_i hall
    have hview : canViewInstance t user record.target = true := by
      cases hsuperuser : user.isSuperuser with
      | true => exact canViewInstance_superuser hactive hsuperuser
      | false =>
          rw [hsuperuser, Bool.false_or, Bool.not_eq_true'] at hall
          exact canViewInstance_legacy hactive hall
    rw [List.mem_filter]
    simp [hview]
  · rename_i hscoped
    rw [Bool.or_eq_true, not_or, Bool.not_eq_true, Bool.not_eq_true',
      Bool.not_eq_false] at hscoped
    rw [canViewInstance_scoped hactive hscoped.1 hscoped.2, List.mem_dedup,
      List.mem_flatMap]
    constructor
    · rintro ⟨row, hrow, hjoin⟩
      obtain ⟨key, hkey, rfl⟩ := List.mem_map.mp hjoin
      rw [List.mem_filter] at hrow hkey
      refine ⟨hrow.1, hrow.2, ?_⟩
      obtain ⟨huser, hpk⟩ := by simpa using hkey.2
      rw [show (user.pk, row.target.pk) = key from
        Prod.ext huser.symm hpk.symm]
      exact hkey.1
    · rintro ⟨hmem, hopen, hkey⟩
      refine ⟨record, List.mem_filter.mpr ⟨hmem, hopen⟩,
        List.mem_map.mpr ⟨(user.pk, record.pk), ?_, rfl⟩⟩
      exact List.mem_filter.mpr ⟨hkey, by simp⟩

theorem accessibleInstances_nodup :
    (accessibleInstances t user instances).Nodup := by
  unfold accessibleInstances
  dsimp only
  split
  · exact (List.Nodup.of_map _ instances.pk_nodup).filter _
  · exact List.nodup_dedup _

theorem pk_mem_accessible (hactive : user.isActive = true)
    (hmem : record ∈ instances.rows) (hopen : record.isActive = true) :
    record.pk ∈ (accessibleInstances t user instances).map InstanceRecord.pk ↔
      canViewInstance t user record.target = true := by
  rw [List.mem_map]
  constructor
  · rintro ⟨row, hrow, hpk⟩
    obtain ⟨hrowMem, -, hview⟩ := (mem_accessibleInstances hactive).mp hrow
    rw [← OpenTable.eq_of_pk_eq hrowMem hmem hpk]
    exact hview
  · intro hview
    exact ⟨record, (mem_accessibleInstances hactive).mpr
      ⟨hmem, hopen, hview⟩, rfl⟩

theorem requireInstanceAccess_view :
    requireInstanceAccess t user inst false = .ok () ↔
      canViewInstance t user inst = true := by
  unfold requireInstanceAccess
  cases canViewInstance t user inst <;> simp

theorem apiObject_isSome (hactive : user.isActive = true)
    (hmem : record ∈ instances.rows) (hopen : record.isActive = true) :
    (apiObject t user instances record.pk).isSome = true ↔
      canViewInstance t user record.target = true := by
  rw [← pk_mem_accessible hactive hmem hopen, apiObject, List.find?_isSome,
    List.mem_map]
  simp

theorem mem_auditQueryset {ρ : Type} {instanceOf : ρ → Option Nat}
    {logs : List ρ} {log : ρ} (hactive : user.isActive = true)
    (hmem : record ∈ instances.rows) (hopen : record.isActive = true)
    (hlog : instanceOf log = some record.pk) (instanceId : Option Nat) :
    log ∈ auditQueryset t user instances instanceOf instanceId logs ↔
      log ∈ logs ∧ canViewInstance t user record.target = true ∧
        ∀ pk, instanceId = some pk → pk = record.pk := by
  have hvisible : log ∈ (if user.isSuperuser then logs
      else logs.filter fun log => (instanceOf log).any
        ((accessibleInstances t user instances).map
          InstanceRecord.pk).contains) ↔
      log ∈ logs ∧ canViewInstance t user record.target = true := by
    cases hsuperuser : user.isSuperuser with
    | true => simp [canViewInstance_superuser hactive hsuperuser]
    | false =>
        rw [if_neg (by simp), List.mem_filter, hlog,
          ← pk_mem_accessible hactive hmem hopen, Option.any_some,
          List.contains_iff_mem]
  unfold auditQueryset
  cases instanceId with
  | none => simpa using hvisible
  | some pk =>
      dsimp only
      rw [List.mem_filter, hvisible, hlog, and_assoc]
      simp only [beq_iff_eq, Option.some.injEq, forall_eq']
      rw [@eq_comm _ pk]

/--
The queryset, the API, the audit log and the pages agree on every active
instance.
-/
theorem accessible_instances_agree (t : AccessTables) (user : Account)
    (instances : InstanceTable) (hactive : user.isActive = true) :
    (accessibleInstances t user instances).Nodup ∧
      (∀ record, record ∈ accessibleInstances t user instances ↔
        record ∈ instances.rows ∧ record.isActive = true ∧
          canViewInstance t user record.target = true) ∧
      (∀ inst, canOperateInstance t user inst = true →
        canViewInstance t user inst = true) ∧
      ∀ record ∈ instances.rows, record.isActive = true →
        ((apiObject t user instances record.pk).isSome = true ↔
          canViewInstance t user record.target = true) ∧
        (requireInstanceAccess t user record.target false = .ok () ↔
          canViewInstance t user record.target = true) ∧
        ∀ (ρ : Type) (instanceOf : ρ → Option Nat) (logs : List ρ) (log : ρ),
          log ∈ logs → instanceOf log = some record.pk →
            (log ∈ auditQueryset t user instances instanceOf none logs ↔
              canViewInstance t user record.target = true) := by
  refine ⟨accessibleInstances_nodup, fun record => mem_accessibleInstances
    hactive, fun inst => canViewInstance_of_canOperate, ?_⟩
  intro record hmem hopen
  refine ⟨apiObject_isSome hactive hmem hopen, requireInstanceAccess_view, ?_⟩
  intro ρ instanceOf logs log hlog hinstance
  rw [mem_auditQueryset hactive hmem hopen hinstance none]
  simp [hlog]

theorem granted_reader_agrees :
    let t := { openTables with
      instanceAccess := Dict.empty.set (1, 0) ⟨.readonly, false⟩ }
    let instances := insertRecord (insertRecord .empty .blank) .blank
    (accessibleInstances t operator.user instances).map InstanceRecord.pk =
        [0] ∧
      (accessibleInstances t operator.user instances).Nodup := by
  intro t instances
  exact ⟨by decide,
    (accessible_instances_agree t operator.user instances rfl).1⟩

end HealthGrid.Registry
