import HealthGrid.Registry.Requests
import HealthGrid.Registry.Visibility

/-!
# Renaming an instance

A rename covers the whole connection group of the instance that it names, and
the check is made for that instance.  The other two requests of an operator
save the row they have checked.  The audit rows are left out.
-/

namespace HealthGrid.Registry

open HealthGrid.Foundation HealthGrid.Foundation.PyText HealthGrid.Db
open HealthGrid.Access

variable (lib : RegistryLibrary) (requester : Requester) (form : Form)
  (instances : InstanceTable)

/-! ## rename_instance -/

def newName : String := stripText (form.text "name" "")

def withName (name : String) (record : InstanceRecord) : InstanceRecord :=
  { record with name := name }

/-- `filter(connection_group=instance.connection_group)` -/
def siblings (record : InstanceRecord) : List InstanceRecord :=
  instances.rows.filter fun row =>
    row.connectionGroup == record.connectionGroup

def renameGroup (record : InstanceRecord) (name : String) : InstanceTable :=
  instances.update
    (fun row =>
      if row.connectionGroup = record.connectionGroup then withName name row
      else row)
    ((⟨fun _ => rfl, fun _ => rfl, fun _ h => h⟩ :
      Keeps (withName name)).ite _)

def renameInstance (pk : Nat) : Except Refusal InstanceTable := do
  (requireStaff requester.user).mapError .raised
  let record ← getRecord instances pk
  (requireInstanceAccess requester.tables requester.user record.target
    true).mapError .raised
  let name := newName form
  if name = "" then
    throw (.message "Name cannot be empty.")
  if !(siblings instances record).all fun row =>
      lib.storable (withName name row) then
    throw (.raised
      (.appDatabaseError "value too long for type character varying"))
  .ok (renameGroup instances record name)

/-! ## The requests of an operator -/

inductive SaveRequest where
  | renameInstance (form : Form) (pk : Nat)
  | updateOwnerWebhook (form : Form) (pk : Nat)
  | apiUpdate (data : InstanceData) (pk : Nat)

def SaveRequest.view : SaveRequest → Except Refusal InstanceTable
  | .renameInstance form pk => Registry.renameInstance lib requester form instances pk
  | .updateOwnerWebhook form pk =>
      Registry.updateOwnerWebhook lib requester form instances pk
  | .apiUpdate data pk => Registry.apiUpdate lib requester data instances pk

def saved (request : SaveRequest) : InstanceTable :=
  match request.view lib requester instances with
  | .ok instances' => instances'
  | .error _ => instances

def Changed (instances instances' : InstanceTable) (row : InstanceRecord) :
    Prop :=
  row ∈ instances.rows ∧ ∃ row' ∈ instances'.rows, row'.pk = row.pk ∧ row' ≠ row

def Operates (row : InstanceRecord) : Prop :=
  canOperateInstance requester.tables requester.user row.target = true

def ManagesNotifications (row : InstanceRecord) : Prop :=
  canManageInstanceNotifications requester.tables requester.user row.target =
    true

structure WithinAccess (instances' : InstanceTable) (request : SaveRequest) :
    Prop where
  changed : ∀ row, Changed instances instances' row →
    Operates requester row ∨ ManagesNotifications requester row
  renamed : ∀ form pk, request = .renameInstance form pk →
    ∀ row, Changed instances instances' row → Operates requester row

structure RenameAccepted (pk : Nat) (record : InstanceRecord) : Prop where
  hmem : record ∈ instances.rows
  hpk : record.pk = pk
  hstaff : requester.user.isStaff = true
  hoperates : Operates requester record
  hname : newName form ≠ ""
  hstorable : ∀ row ∈ siblings instances record,
    lib.storable (withName (newName form) row) = true

def Overreaches : SaveRequest → Prop
  | .renameInstance form pk =>
      ∃ record, RenameAccepted lib requester form instances pk record ∧
        ∃ sibling ∈ siblings instances record,
          sibling.name ≠ newName form ∧ ¬ Operates requester sibling
  | _ => False

section Renames

variable {lib : RegistryLibrary} {requester : Requester} {form : Form}
  {instances instances' : InstanceTable} {pk : Nat}
  {record row : InstanceRecord}

theorem requireInstanceAccess_write {t : AccessTables} {user : Account}
    {inst : RDSInstance} :
    requireInstanceAccess t user inst true = .ok () ↔
      canOperateInstance t user inst = true := by
  unfold requireInstanceAccess
  cases hoperate : canOperateInstance t user inst with
  | true => simp [canViewInstance_of_canOperate hoperate]
  | false => cases canViewInstance t user inst <;> simp

theorem requireStaff_iff {user : Account} :
    requireStaff user = .ok () ↔ user.isStaff = true := by
  unfold requireStaff
  cases user.isStaff <;> simp

theorem getRecord_eq_ok :
    getRecord instances (pk : Int) = .ok record ↔
      record ∈ instances.rows ∧ record.pk = pk := by
  have hfind : getRecord instances (pk : Int) = .ok record ↔
      instances.findPk? pk = some record := by
    unfold getRecord
    rw [if_neg (by omega), Int.toNat_natCast]
    cases instances.findPk? pk <;> simp
  rw [hfind]
  exact OpenTable.findPk?_eq_some

theorem mapError_eq_ok {ε ε' : Type} {check : Except ε Unit} {f : ε → ε'} :
    check.mapError f = .ok () ↔ check = .ok () := by
  cases check <;> simp [Except.mapError]

theorem renameInstance_ok :
    renameInstance lib requester form instances pk = .ok instances' ↔
      ∃ record, RenameAccepted lib requester form instances pk record ∧
        instances' = renameGroup instances record (newName form) := by
  constructor
  · intro h
    obtain ⟨_, hstaff, h⟩ := of_bind_eq_ok h
    obtain ⟨record, hrecord, h⟩ := of_bind_eq_ok h
    obtain ⟨_, haccess, h⟩ := of_bind_eq_ok h
    dsimp only at h
    split at h
    · cases h
    · rename_i hname
      split at h
      · cases h
      · rename_i hstorable
        cases h
        obtain ⟨hmem, hpk⟩ := getRecord_eq_ok.mp hrecord
        exact ⟨record, ⟨hmem, hpk, requireStaff_iff.mp (mapError_eq_ok.mp hstaff),
          requireInstanceAccess_write.mp (mapError_eq_ok.mp haccess), hname,
          by simpa using hstorable⟩, rfl⟩
  · rintro ⟨record, haccepted, rfl⟩
    have hstaff := mapError_eq_ok (f := Refusal.raised).mpr
      (requireStaff_iff.mpr haccepted.hstaff)
    have hrecord := getRecord_eq_ok.mpr ⟨haccepted.hmem, haccepted.hpk⟩
    have haccess := mapError_eq_ok (f := Refusal.raised).mpr
      (requireInstanceAccess_write.mpr haccepted.hoperates)
    have hstorable : ((siblings instances record).all fun row =>
        lib.storable (withName (newName form) row)) = true :=
      List.all_eq_true.mpr haccepted.hstorable
    simp [renameInstance, hstaff, hrecord, haccess, haccepted.hname, hstorable,
      bind, Except.bind]

theorem changed_renameGroup {name : String} :
    Changed instances (renameGroup instances record name) row ↔
      row ∈ siblings instances record ∧ row.name ≠ name := by
  simp only [Changed, siblings, List.mem_filter, beq_iff_eq, renameGroup,
    OpenTable.update_rows]
  constructor
  · rintro ⟨hrow, row', hrow', hpk, hne⟩
    obtain ⟨old, hold, rfl⟩ := List.mem_map.mp hrow'
    have hsame : old = row := by
      refine OpenTable.eq_of_pk_eq hold hrow (Eq.trans ?_ hpk)
      split <;> rfl
    subst hsame
    split at hne
    · rename_i hgroup
      refine ⟨⟨hrow, hgroup⟩, fun hname => hne ?_⟩
      rw [← hname]
      rfl
    · exact absurd rfl hne
  · rintro ⟨⟨hrow, hgroup⟩, hname⟩
    refine ⟨hrow, withName name row, List.mem_map.mpr ⟨row, hrow, if_pos hgroup⟩,
      rfl, fun heq => hname ?_⟩
    rw [← heq]
    rfl

theorem not_changed_self : ¬ Changed instances instances row := by
  rintro ⟨hrow, row', hrow', hpk, hne⟩
  exact hne (OpenTable.eq_of_pk_eq hrow' hrow hpk)

theorem changed_saveRecord {before : InstanceRecord}
    (h : Changed instances (saveRecord instances record) row)
    (hmem : before ∈ instances.rows) (hpk : record.pk = before.pk) :
    row = before := by
  obtain ⟨hrow, row', hrow', hpk', hne⟩ := h
  rcases mem_saveRecord hrow' with rfl | ⟨hold, -⟩
  · exact OpenTable.eq_of_pk_eq hrow hmem (hpk'.symm.trans hpk)
  · exact absurd (OpenTable.eq_of_pk_eq hold hrow hpk') hne

theorem updateOwnerWebhook_changes
    (h : updateOwnerWebhook lib requester form instances pk = .ok instances')
    (hchanged : Changed instances instances' row) :
    ManagesNotifications requester row := by
  obtain ⟨-, -, h⟩ := of_bind_eq_ok h
  obtain ⟨record, hrecord, h⟩ := of_bind_eq_ok h
  obtain ⟨_, hallowed, h⟩ := of_bind_eq_ok h
  obtain ⟨-, -, h⟩ := of_bind_eq_ok h
  rw [storeRecord_ok h] at hchanged
  rw [changed_saveRecord hchanged (getRecord_mem hrecord) rfl]
  by_contra hdenied
  rw [mapError_eq_ok, requireInstanceNotifications] at hallowed
  simp [ManagesNotifications] at hdenied
  simp [hdenied] at hallowed

theorem apiUpdate_changes {data : InstanceData}
    (h : apiUpdate lib requester data instances pk = .ok instances')
    (hchanged : Changed instances instances' row) : Operates requester row := by
  obtain ⟨-, -, h⟩ := of_bind_eq_ok h
  dsimp only at h
  split at h
  · cases h
  · rename_i before hfind
    have hmem := (mem_of_mem_accessibleInstances
      (List.mem_of_find?_eq_some hfind)).1
    split at h
    · cases h
    · rename_i hoperates
      obtain ⟨record, hupdate, h⟩ := of_bind_eq_ok h
      rw [storeRecord_ok h] at hchanged
      rw [changed_saveRecord hchanged hmem (update_pk hupdate)]
      simpa [Operates] using hoperates

end Renames

theorem saves_within_access (request : SaveRequest) :
    WithinAccess requester instances (saved lib requester instances request)
        request ↔ ¬ Overreaches lib requester instances request := by
  unfold saved
  cases request with
  | updateOwnerWebhook form pk =>
      refine iff_of_true ⟨fun row hchanged => .inr ?_, fun _ _ h => nomatch h⟩ id
      split at hchanged
      · rename_i hview
        exact updateOwnerWebhook_changes hview hchanged
      · exact absurd hchanged not_changed_self
  | apiUpdate data pk =>
      refine iff_of_true ⟨fun row hchanged => .inl ?_, fun _ _ h => nomatch h⟩ id
      split at hchanged
      · rename_i hview
        exact apiUpdate_changes hview hchanged
      · exact absurd hchanged not_changed_self
  | renameInstance form pk =>
      constructor
      · rintro hwithin ⟨record, haccepted, sibling, hsibling, hname, hdenied⟩
        have hview := renameInstance_ok.mpr ⟨record, haccepted, rfl⟩
        refine hdenied (hwithin.renamed form pk rfl sibling ?_)
        rw [SaveRequest.view, hview]
        exact changed_renameGroup.mpr ⟨hsibling, hname⟩
      · intro hwithin
        have hoperates : ∀ row, Changed instances
            (match (SaveRequest.renameInstance form pk).view lib requester
                instances with
              | .ok instances' => instances'
              | .error _ => instances) row → Operates requester row := by
          intro row hchanged
          split at hchanged
          · rename_i instances' hview
            obtain ⟨record, haccepted, rfl⟩ := renameInstance_ok.mp hview
            obtain ⟨hsibling, hname⟩ := changed_renameGroup.mp hchanged
            by_contra hdenied
            exact hwithin ⟨record, haccepted, row, hsibling, hname, hdenied⟩
          · exact absurd hchanged not_changed_self
        exact ⟨fun row hchanged => .inl (hoperates row hchanged),
          fun _ _ _ => hoperates⟩

/-! ## A sibling without a grant -/

def groupMember (pk : Nat) (dbName : String) : InstanceRecord :=
  { InstanceRecord.blank with
    pk := pk
    name := "orders"
    connectionGroup := 5
    dbName := dbName }

def connectionGroupOfTwo : InstanceTable where
  rows := [groupMember 1 "orders", groupMember 2 "payroll"]
  nextPk := 3
  pk_lt := by decide
  pk_nodup := by decide
  unique_open := by decide

def ordersOperator : Requester :=
  { operator with
    tables := { openTables with
      instanceAccess := Dict.empty.set (1, 1) ⟨.operator, false⟩ } }

def renameForm : Form := fun key =>
  if key = "name" then some "billing" else none

theorem rename_reaches_sibling :
    ordersOperator.user.isSuperuser = false ∧
      ¬ WithinAccess ordersOperator connectionGroupOfTwo
        (saved openLibraries.registry ordersOperator connectionGroupOfTwo
          (.renameInstance renameForm 1)) (.renameInstance renameForm 1) := by
  refine ⟨rfl, fun hwithin => ?_⟩
  have hoperates := hwithin.renamed renameForm 1 rfl (groupMember 2 "payroll")
    ⟨by decide, withName "billing" (groupMember 2 "payroll"), by decide, rfl,
      by decide⟩
  exact absurd hoperates (by unfold Operates; decide)

end HealthGrid.Registry
