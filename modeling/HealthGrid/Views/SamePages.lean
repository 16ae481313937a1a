import HealthGrid.Views.Knowledge

/-!
# Pages of dashboards that look alike

The lists, the page of an instance and the form that copies one are the same
for two dashboards that look alike: they print nothing but known columns.
-/

namespace HealthGrid.Views.Reading

open HealthGrid.Foundation HealthGrid.Db HealthGrid.Access HealthGrid.Registry
open HealthGrid.Views.Overview

namespace LooksAlike

variable {lib : ReadingLibrary} {drivers : Drivers} {redact : String → String}
  {user : Account} {w w' : Dashboard} {pk : Nat}

/-! ### Lists -/

theorem known_accessible (h : LooksAlike lib drivers redact user w w')
    (hactive : user.isActive = true) :
    (w.accessible user).map (known lib w.tables user) =
      (w'.accessible user).map (known lib w.tables user) := by
  have hkept : ∀ w : Dashboard, (w.accessible user).map (known lib w.tables user) =
      ((w.viewable user).map (known lib w.tables user)).filter
        InstanceRecord.isActive := by
    intro w
    rw [List.filter_map]
    exact congrArg _ (accessible_eq hactive)
  rw [hkept, h.viewable, ← hkept, h.known_eq]

theorem accessiblePks (h : LooksAlike lib drivers redact user w w')
    (hactive : user.isActive = true) :
    (w.accessible user).map InstanceRecord.pk =
      (w'.accessible user).map InstanceRecord.pk :=
  map_eq_of_factors (fun _ _ => known_pk) (h.known_accessible hactive)

theorem known_orderBy (order : InstanceRecord → InstanceRecord → Ordering)
    {records records' : List InstanceRecord} {t : AccessTables}
    (horder : ∀ record other, order (known lib t user record)
      (known lib t user other) = order record other)
    (h : records.map (known lib t user) = records'.map (known lib t user)) :
    (orderBy order records).map (known lib t user) =
      (orderBy order records').map (known lib t user) := by
  have hmap : ∀ records, (orderBy order records).map (known lib t user) =
      orderBy order (records.map (known lib t user)) := fun records =>
    List.map_mergeSort fun record _ other _ => by rw [horder]
  rw [hmap, h, ← hmap]

theorem mem_viewablePks_of_accessible {w : Dashboard}
    (hactive : user.isActive = true)
    (hpk : pk ∈ (w.accessible user).map InstanceRecord.pk) :
    pk ∈ w.viewablePks user := by
  obtain ⟨record, hmem, rfl⟩ := List.mem_map.mp hpk
  rw [Dashboard.accessible, accessible_eq hactive] at hmem
  exact List.mem_map_of_mem (List.mem_filter.mp hmem).1

theorem apiInstances (h : LooksAlike lib drivers redact user w w')
    (hactive : user.isActive = true) :
    answer lib drivers w user .apiInstances =
      answer lib drivers w' user .apiInstances := by
  have hrows := known_orderBy (recordOrder lib.toOverviewLibrary)
    (fun _ _ => rfl) (h.known_accessible hactive)
  unfold answer
  rw [map_congr_of_map_eq hrows fun record hmem record' _ hknown => ?_]
  have hpk : record.pk ∈ w.viewablePks user := by
    refine mem_viewablePks_of_accessible hactive (List.mem_map_of_mem ?_)
    exact (orderBy_perm _ _).mem_iff.mp hmem
  refine toRepresentation_congr hknown ?_
  rw [← known_pk hknown, h.createdAt _ hpk]

theorem known_apiObject (h : LooksAlike lib drivers redact user w w')
    (hactive : user.isActive = true) (pk : Nat) :
    (apiObject w.tables user w.instances pk).map (known lib w.tables user) =
      (apiObject w'.tables user w'.instances pk).map
        (known lib w.tables user) := by
  have hmap : ∀ w' : Dashboard, (apiObject w'.tables user w'.instances pk).map
      (known lib w.tables user) =
      ((w'.accessible user).map (known lib w.tables user)).find?
        (·.pk == pk) := by
    intro w'
    rw [List.find?_map]
    rfl
  rw [hmap, h.known_accessible hactive, ← hmap]

theorem apiInstance (h : LooksAlike lib drivers redact user w w')
    (hactive : user.isActive = true) :
    answer lib drivers w user (.apiInstance pk) =
      answer lib drivers w' user (.apiInstance pk) := by
  have hobject := h.known_apiObject hactive pk
  unfold answer
  dsimp only
  cases hrow : apiObject w.tables user w.instances pk with
  | none =>
      rw [hrow, Option.map_none, eq_comm, Option.map_eq_none_iff] at hobject
      rw [hobject]
  | some record =>
      rw [hrow, Option.map_some, eq_comm, Option.map_eq_some_iff] at hobject
      obtain ⟨record', hrow', hknown⟩ := hobject
      have hpk : record.pk ∈ w.viewablePks user :=
        mem_viewablePks_of_accessible hactive
          (List.mem_map_of_mem (List.mem_of_find?_eq_some hrow))
      rw [hrow']
      dsimp only
      rw [toRepresentation_congr hknown.symm]
      rw [known_pk hknown, h.createdAt _ hpk]

theorem auditQueryset_shown {w : Dashboard} (hactive : user.isActive = true)
    (instanceId : Option Nat) :
    auditQueryset w.tables user w.instances AuditEntry.inst instanceId
        w.auditLogs =
      auditQueryset w.tables user w.instances AuditEntry.inst instanceId
        (w.shownAuditLogs user) := by
  have hvisible : (if user.isSuperuser then w.auditLogs
      else w.auditLogs.filter fun entry => entry.inst.any
        ((w.accessible user).map InstanceRecord.pk).contains) =
      if user.isSuperuser then w.shownAuditLogs user
      else (w.shownAuditLogs user).filter fun entry => entry.inst.any
        ((w.accessible user).map InstanceRecord.pk).contains := by
    unfold Dashboard.shownAuditLogs
    cases user.isSuperuser with
    | true => simp
    | false =>
        rw [if_neg (by simp), if_neg (by simp), List.filter_filter]
        refine List.filter_congr fun entry _ => ?_
        rw [Bool.false_or, Bool.eq_self_and]
        intro hany
        rw [Option.any_eq_true] at hany ⊢
        obtain ⟨pk, hinst, hpk⟩ := hany
        refine ⟨pk, hinst, ?_⟩
        rw [List.contains_iff_mem] at hpk ⊢
        exact mem_viewablePks_of_accessible hactive hpk
  unfold auditQueryset
  cases instanceId with
  | none => exact hvisible
  | some pk => exact congrArg (List.filter _) hvisible

theorem auditQueryset_eq (h : LooksAlike lib drivers redact user w w')
    (hactive : user.isActive = true) (instanceId : Option Nat) :
    auditQueryset w.tables user w.instances AuditEntry.inst instanceId
        w.auditLogs =
      auditQueryset w'.tables user w'.instances AuditEntry.inst instanceId
        w'.auditLogs := by
  have hpks := h.accessiblePks hactive
  rw [auditQueryset_shown hactive, auditQueryset_shown hactive, h.auditLogs]
  unfold auditQueryset
  unfold Dashboard.accessible at hpks
  rw [hpks]

theorem auditLogsOf_eq (h : LooksAlike lib drivers redact user w w')
    (hactive : user.isActive = true) (instanceId : Option Nat) :
    auditLogsOf w user instanceId = auditLogsOf w' user instanceId := by
  unfold auditLogsOf
  rw [h.auditQueryset_eq hactive]

theorem printedGroups_eq {t : AccessTables} {rows rows' : List InstanceRecord}
    (h : rows.map (known lib t user) = rows'.map (known lib t user)) :
    (((group InstanceRecord.connectionGroup rows).entries.filterMap fun entry =>
      entry.2.head?.map fun first =>
        InstanceGroup.mk entry.1 first entry.2.length).map
          (printedGroup lib user)) =
    (((group InstanceRecord.connectionGroup rows').entries.filterMap fun entry =>
      entry.2.head?.map fun first =>
        InstanceGroup.mk entry.1 first entry.2.length).map
          (printedGroup lib user)) := by
  let shown (entry : Nat × List InstanceRecord) : Option InstanceGroup :=
    entry.2.head?.map fun first =>
      ⟨entry.1, printed lib user first, entry.2.length⟩
  let knownEntry (entry : Nat × List InstanceRecord) :=
    (entry.1, entry.2.map (known lib t user))
  have hshown : ∀ rows : List InstanceRecord,
      ((group InstanceRecord.connectionGroup rows).entries.filterMap fun entry =>
        entry.2.head?.map fun first =>
          InstanceGroup.mk entry.1 first entry.2.length).map
            (printedGroup lib user) =
      ((group InstanceRecord.connectionGroup rows).entries.map shown).filterMap
        id := by
    intro rows
    rw [List.filterMap_map, List.map_filterMap]
    refine List.filterMap_congr fun entry _ => ?_
    rw [Option.map_map]
    rfl
  have hentries : ∀ rows : List InstanceRecord,
      (group InstanceRecord.connectionGroup rows).entries.map knownEntry =
        (group InstanceRecord.connectionGroup
          (rows.map (known lib t user))).entries := by
    intro rows
    rw [group_map (f := known lib t user) fun _ => rfl]
    rfl
  have hfactors : shown.FactorsThrough knownEntry := by
    rintro ⟨groupId, members⟩ ⟨groupId', members'⟩ hentry
    obtain ⟨hgroup, hmembers⟩ := Prod.mk.inj hentry
    dsimp only at hgroup hmembers
    have hheads : ∀ groupId members, shown (groupId, members) =
        ((members.map (printed lib user)).head?).map fun first =>
          ⟨groupId, first, (members.map (printed lib user)).length⟩ := by
      intro groupId members
      rw [List.head?_map, Option.map_map, List.length_map]
      rfl
    rw [hheads, hheads, hgroup, map_eq_of_factors printed_factors hmembers]
  rw [hshown, hshown, map_eq_of_factors hfactors]
  rw [hentries, h, ← hentries]

theorem instanceList_eq (h : LooksAlike lib drivers redact user w w')
    (hactive : user.isActive = true) :
    answer lib drivers w user .instanceList =
      answer lib drivers w' user .instanceList := by
  have hrows := known_orderBy (recordOrder lib.toOverviewLibrary)
    (fun _ _ => rfl) (h.known_accessible hactive)
  have hgroups := printedGroups_eq (known_orderBy
    (groupOrder lib.toOverviewLibrary) (fun _ _ => rfl)
    (h.known_accessible hactive))
  unfold answer printedPage instanceList
  dsimp only
  rw [h.links]
  unfold Dashboard.accessible at hrows hgroups
  rw [hgroups, map_eq_of_factors printed_factors hrows]

/-! ### One instance -/

theorem getViewable_ok {w : Dashboard} {record : InstanceRecord} {write : Bool}
    (hget : getViewable w user pk write = .ok record) :
    record ∈ w.viewable user ∧ record.pk = pk ∧
      (write = true → canOperateInstance w.tables user record.target = true) := by
  unfold getViewable at hget
  split at hget
  · cases hget
  · rename_i found hfound
    obtain ⟨hmem, hpk⟩ := OpenTable.findPk?_eq_some.mp hfound
    obtain ⟨done, haccess, heq⟩ := of_bind_eq_ok hget
    cases heq
    unfold requireInstanceAccess at haccess
    split at haccess
    · cases haccess
    · rename_i hview
      split at haccess
      · cases haccess
      · rename_i hoperate
        refine ⟨List.mem_filter.mpr ⟨hmem, by simpa using hview⟩, hpk, ?_⟩
        rintro rfl
        simpa using hoperate

theorem known_of_pk (h : LooksAlike lib drivers redact user w w')
    {record record' : InstanceRecord} (hmem : record ∈ w.viewable user)
    (hmem' : record' ∈ w'.instances.rows) (hpk : record.pk = record'.pk) :
    record' ∈ w'.viewable user ∧
      known lib w.tables user record = known lib w.tables user record' := by
  obtain ⟨other, hother, hknown⟩ := mem_of_map_eq h.known_viewable hmem
  have heq : other = record' := OpenTable.eq_of_pk_eq
    (List.mem_of_mem_filter hother) hmem' ((known_pk hknown).trans hpk)
  rw [← heq]
  exact ⟨hother, hknown.symm⟩

theorem getViewable_found {w : Dashboard} {record : InstanceRecord}
    (hfound : w.instances.findPk? pk = some record) (user : Account)
    (write : Bool) : getViewable w user pk write =
      (requireInstanceAccess w.tables user record.target write).map
        fun _ => record := by
  unfold getViewable
  rw [hfound]
  dsimp only
  cases requireInstanceAccess w.tables user record.target write with
  | error e => rfl
  | ok done => rfl

theorem getViewable_alike (h : LooksAlike lib drivers redact user w w') (pk : Nat)
    (write : Bool) :
    (∃ e, getViewable w user pk write = .error e ∧
      getViewable w' user pk write = .error e) ∨
    ∃ record record', getViewable w user pk write = .ok record ∧
      getViewable w' user pk write = .ok record' ∧
      record' ∈ w'.viewable user ∧
      known lib w.tables user record = known lib w.tables user record' := by
  have hregistered := h.registered pk
  cases hfound : w.instances.findPk? pk with
  | none =>
      rw [hfound, Option.isSome_none, eq_comm, Option.isSome_eq_false_iff,
        Option.isNone_iff_eq_none] at hregistered
      left
      unfold getViewable
      rw [hfound, hregistered]
      exact ⟨_, rfl, rfl⟩
  | some record =>
      rw [hfound, Option.isSome_some, eq_comm, Option.isSome_iff_exists]
        at hregistered
      obtain ⟨record', hfound'⟩ := hregistered
      obtain ⟨hmem', hpk'⟩ := OpenTable.findPk?_eq_some.mp hfound'
      have hpk : record.target.pk = record'.target.pk :=
        (OpenTable.findPk?_eq_some.mp hfound).2.trans hpk'.symm
      have haccess : requireInstanceAccess w.tables user record.target write =
          requireInstanceAccess w'.tables user record'.target write := by
        unfold requireInstanceAccess
        rw [h.views, h.operates, canOperateInstance_congr hpk]
        unfold canViewInstance
        rw [instanceRole_congr hpk]
      have hget := getViewable_found hfound user write
      have hget' := getViewable_found hfound' user write
      rw [haccess] at hget
      cases hcheck : requireInstanceAccess w'.tables user record'.target write with
      | error e =>
          rw [hcheck] at hget hget'
          exact .inl ⟨e, hget, hget'⟩
      | ok done =>
          rw [hcheck] at hget hget'
          obtain ⟨hview, hknown⟩ := h.known_of_pk (getViewable_ok hget).1 hmem'
            hpk
          exact .inr ⟨record, record', hget, hget', hview, hknown⟩

theorem seen_page {α β : Type} {r : α → β} {q : Exn → Exn}
    {page page' : InstanceRecord → Except Exn α}
    (h : LooksAlike lib drivers redact user w w') (pk : Nat) (write : Bool)
    (hpage : ∀ record ∈ w.viewable user, ∀ record' ∈ w'.viewable user,
      known lib w.tables user record = known lib w.tables user record' →
      (write = true → canOperateInstance w.tables user record.target = true) →
      seen q r (page record) = seen q r (page' record')) :
    seen q r (getViewable w user pk write >>= page) =
      seen q r (getViewable w' user pk write >>= page') := by
  rcases h.getViewable_alike pk write with
    ⟨e, hget, hget'⟩ | ⟨record, record', hget, hget', hview', hknown⟩
  · rw [hget, hget']
    rfl
  · rw [hget, hget']
    obtain ⟨hview, -, hoperate⟩ := getViewable_ok hget
    exact hpage record hview record' hview' hknown hoperate

theorem page_eq {α : Type} {page page' : InstanceRecord → Except Exn α}
    (h : LooksAlike lib drivers redact user w w') (pk : Nat) (write : Bool)
    (hpage : ∀ record ∈ w.viewable user, ∀ record' ∈ w'.viewable user,
      known lib w.tables user record = known lib w.tables user record' →
      (write = true → canOperateInstance w.tables user record.target = true) →
      page record = page' record') :
    (getViewable w user pk write >>= page) =
      (getViewable w' user pk write >>= page') := by
  rw [← seen_id (getViewable w user pk write >>= page), h.seen_page pk write,
    seen_id]
  intro record hmem record' hmem' hknown hoperate
  rw [hpage record hmem record' hmem' hknown hoperate]

theorem executionsOf_shown {w : Dashboard} {record : InstanceRecord}
    (hmem : record ∈ w.viewable user) : executionsOf w user record =
      latest ExecutionRow.previewedAt ((w.shownExecutions user).filter
        fun row => row.instancePk == record.pk) := by
  unfold executionsOf Dashboard.shownExecutions
  rw [List.filter_filter]
  refine congrArg _ (List.filter_congr fun row _ => ?_)
  by_cases hinst : row.instancePk = record.pk
  · have hview : (w.viewablePks user).contains row.instancePk = true := by
      rw [hinst, List.contains_iff_mem]
      exact List.mem_map_of_mem hmem
    rw [hview, Bool.true_and]
  · rw [beq_eq_false_iff_ne.mpr hinst, Bool.false_and, Bool.false_and]

theorem auditLogs_shown {w : Dashboard} {record : InstanceRecord}
    (hmem : record ∈ w.viewable user) :
    (w.auditLogs.filter fun entry => entry.inst == some record.pk) =
      (w.shownAuditLogs user).filter fun entry =>
        entry.inst == some record.pk := by
  unfold Dashboard.shownAuditLogs
  rw [List.filter_filter]
  refine List.filter_congr fun entry _ => ?_
  rw [Bool.eq_self_and]
  intro hinst
  rw [beq_iff_eq] at hinst
  have hview : (w.viewablePks user).contains record.pk = true := by
    rw [List.contains_iff_mem]
    exact List.mem_map_of_mem hmem
  rw [hinst, Option.any_some, hview, Bool.or_true]

theorem mem_latest {ρ : Type} {time : ρ → Time} {rows : List ρ} {row : ρ} :
    row ∈ latest time rows ↔ row ∈ rows :=
  (List.mergeSort_perm rows _).mem_iff

theorem auditLines_eq (h : LooksAlike lib drivers redact user w w')
    {record record' : InstanceRecord} (hmem : record ∈ w.viewable user)
    (hmem' : record' ∈ w'.viewable user) (hpk : record.pk = record'.pk) :
    ((latest AuditEntry.performedAt (w.auditLogs.filter fun entry =>
        entry.inst == some record.pk)).take 25).map (auditLine w) =
      ((latest AuditEntry.performedAt (w'.auditLogs.filter fun entry =>
        entry.inst == some record'.pk)).take 25).map (auditLine w') := by
  rw [auditLogs_shown hmem, auditLogs_shown hmem', ← h.auditLogs, hpk]
  refine List.map_congr_left fun entry hentry => h.auditLine_eq ?_
  exact List.mem_of_mem_filter (mem_latest.mp (List.mem_of_mem_take hentry))

theorem executionLines_eq {β : Type} {line : Dashboard → ExecutionRow → β}
    (h : LooksAlike lib drivers redact user w w') (keep : ExecutionRow → Bool)
    (hline : ∀ row ∈ w.shownExecutions user, line w row = line w' row)
    {record record' : InstanceRecord} (hmem : record ∈ w.viewable user)
    (hmem' : record' ∈ w'.viewable user) (hpk : record.pk = record'.pk) :
    (((executionsOf w user record).filter keep).take 10).map (line w) =
      (((executionsOf w' user record').filter keep).take 10).map (line w') := by
  rw [executionsOf_shown hmem, executionsOf_shown hmem', ← h.executions, hpk]
  refine List.map_congr_left fun row hrow => hline row ?_
  exact List.mem_of_mem_filter (mem_latest.mp
    (List.mem_of_mem_filter (List.mem_of_mem_take hrow)))

theorem administratorPanel_eq (h : LooksAlike lib drivers redact user w w')
    (hsuperuser : user.isSuperuser = true) {record record' : InstanceRecord}
    (hknown : known lib w.tables user record = known lib w.tables user record') :
    administratorPanel w record = administratorPanel w' record' := by
  have hgrants : w.tables.queryRunnerGrants = w'.tables.queryRunnerGrants := by
    have hshown := h.grants
    unfold Dashboard.shownGrants at hshown
    simpa [hsuperuser] using hshown
  have hpanel : ∀ record, administratorPanel w record =
      administratorPanel w (known lib w.tables user record) := by
    intro record
    unfold administratorPanel known
    dsimp only
    rw [hsuperuser, if_pos rfl, if_pos rfl]
  rw [hpanel, hknown, ← hpanel]
  unfold administratorPanel
  rw [← hgrants]
  congr 1
  refine List.map_congr_left fun grant hmem => ?_
  have hshown : grant ∈ w.shownGrants user := by
    refine List.mem_filter.mpr ⟨List.mem_of_mem_filter hmem, ?_⟩
    rw [hsuperuser, Bool.true_or]
  have hnamed : grant.1 ∈ w.namedAccounts user :=
    List.mem_append_right _ (List.mem_map_of_mem hshown)
  rw [h.grantPks hsuperuser grant hshown, h.names _ hnamed]

theorem instanceDetail_eq (h : LooksAlike lib drivers redact user w w') (pk : Nat) :
    instanceDetail lib w user pk = instanceDetail lib w' user pk := by
  refine h.page_eq pk false fun record hmem record' hmem' hknown _ => ?_
  have hpk : record.target.pk = record'.target.pk := known_pk hknown
  have hprinted : printed lib user record = printed lib user record' :=
    printed_factors hknown
  have hadded : record.addedBy.bind w.username =
      record'.addedBy.bind w'.username := by
    have hcolumn := congrArg InstanceRecord.addedBy hknown
    rw [h.addedBy_eq hmem]
    exact congrArg (Option.bind · w'.username) hcolumn
  have hcreated : w.createdAt record.pk = w'.createdAt record'.pk := by
    rw [h.createdAt _ (List.mem_map_of_mem hmem), known_pk hknown]
  have hlogs := h.auditLines_eq hmem hmem' (known_pk hknown)
  have hpending := h.executionLines_eq (·.status == .pending)
    (fun row hrow => show pendingLine w row = pendingLine w' row by
      rw [pendingLine, pendingLine, h.executionUser_eq hrow])
    hmem hmem' (known_pk hknown)
  have hhistory := h.executionLines_eq (·.status != .pending)
    (fun row hrow => show historyLine w row = historyLine w' row by
      rw [historyLine, historyLine, h.executionUser_eq hrow])
    hmem hmem' (known_pk hknown)
  have hoperate : canOperateInstance w.tables user record.target =
      canOperateInstance w'.tables user record'.target := by
    rw [h.operates, canOperateInstance_congr hpk]
  have hmanage : canManageInstanceNotifications w.tables user record.target =
      canManageInstanceNotifications w'.tables user record'.target := by
    rw [h.manages, canManageInstanceNotifications_congr hpk]
  have hrun : canRunQueries w.tables user record.target =
      canRunQueries w'.tables user record'.target := by
    rw [canRunQueries_of_known hknown, h.runs]
  have hwebhook : (if canOperateInstance w'.tables user record'.target &&
        canManageInstanceNotifications w'.tables user record'.target then
        some record.ownerTeamsWebhookUrl else none) =
      if canOperateInstance w'.tables user record'.target &&
        canManageInstanceNotifications w'.tables user record'.target then
        some record'.ownerTeamsWebhookUrl else none := by
    rw [← hoperate, ← hmanage]
    split
    · rename_i hmanages
      rw [webhook_of_known hmanages hknown]
    · rfl
  have hpanel : (if canOperateInstance w'.tables user record'.target &&
        user.isSuperuser then some (administratorPanel w record) else none) =
      if canOperateInstance w'.tables user record'.target &&
        user.isSuperuser then some (administratorPanel w' record') else none := by
    cases hsuperuser : user.isSuperuser with
    | true => rw [h.administratorPanel_eq hsuperuser hknown]
    | false => rw [Bool.and_false]; rfl
  dsimp only
  rw [hprinted, hadded, hcreated, hlogs, hpending, hhistory, hrun, hoperate,
    hmanage, hwebhook, hpanel]

theorem addInstanceForm_eq (h : LooksAlike lib drivers redact user w w')
    (extend duplicate : Option Nat) :
    addInstanceForm lib w user extend duplicate =
      addInstanceForm lib w' user extend duplicate := by
  unfold addInstanceForm
  cases hstaff : user.isStaff with
  | false =>
      unfold requireStaff
      rw [hstaff]
      rfl
  | true =>
      refine congrArg (requireStaff user >>= ·) (funext fun _ => ?_)
      cases extend.or duplicate with
      | none => rfl
      | some pk =>
          refine h.page_eq pk true fun record hmem record' _ hknown hoperate => ?_
          have hcopies : mayCopy w.tables user record = true := by
            unfold mayCopy
            rw [hstaff, hoperate rfl]
            rfl
          rw [prefillOf_congr hcopies hknown, known_pk hknown]

end LooksAlike

end HealthGrid.Views.Reading
