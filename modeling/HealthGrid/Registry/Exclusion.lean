import HealthGrid.Registry.Requests

/-!
# Who keeps an instance out of the shared channel

Every instance that becomes excluded from the shared channel is recorded with
the account that asked and with the instance that the new one extends, if any.
-/

namespace HealthGrid.Registry

open HealthGrid.Foundation HealthGrid.Db HealthGrid.Access

structure ExclusionChange where
  pk : Nat
  requester : Account
  extended : Option InstanceRecord
  deriving DecidableEq, Repr

structure ExclusionWatch where
  state : RegistryState
  changes : List ExclusionChange

def excludedIn (instances : InstanceTable) (pk : Nat) : Bool :=
  instances.rows.any fun row =>
    row.pk == pk && row.excludeFromGlobalNotifications

def newlyExcluded (before after : InstanceTable) : List Nat :=
  (after.rows.map InstanceRecord.pk).filter fun pk =>
    excludedIn after pk && !excludedIn before pk

def extendedBy (lib : RegistryLibrary) (call : RegistryCall)
    (instances : InstanceTable) : Option InstanceRecord :=
  match call.request with
  | .addInstance form _ =>
      match extendSource lib call.requester form instances with
      | .ok source => source
      | .error _ => none
  | _ => none

def watchExclusion (lib : Libraries) (watch : ExclusionWatch)
    (call : RegistryCall) : ExclusionWatch :=
  let s := serve lib call watch.state
  ⟨s, (newlyExcluded watch.state.instances s.instances).map (fun pk =>
    ⟨pk, call.requester.user,
      extendedBy lib.registry call watch.state.instances⟩) ++ watch.changes⟩

def exclusionStep (lib : Libraries) (watch : ExclusionWatch)
    (call : RegistryCall) : Option ExclusionWatch :=
  some (watchExclusion lib watch call)

def ExclusionWatch.lastChange (watch : ExclusionWatch) (pk : Nat) :
    Option ExclusionChange :=
  watch.changes.find? (·.pk == pk)

/-- By an Administrator, or copied from an instance that had it. -/
def ExclusionChange.Sanctioned (change : ExclusionChange) : Prop :=
  change.requester.isSuperuser = true ∨
    ∃ source, change.extended = some source ∧
      source.excludeFromGlobalNotifications = true

def ExclusionWatch.Sanctioned (watch : ExclusionWatch) : Prop :=
  ∀ row ∈ watch.state.instances.rows,
    row.excludeFromGlobalNotifications = true →
      ∃ change, watch.lastChange row.pk = some change ∧ change.Sanctioned

def ExcludesOnCreate (lib : Libraries) (watch : ExclusionWatch)
    (call : RegistryCall) : Prop :=
  call.requester.user.isActive = true ∧
    call.requester.user.isSuperuser = false ∧
    ∃ data group, call.request = .apiCreate data group ∧
      data.excludeFromGlobalNotifications = some true ∧
      ∃ instances, apiCreate lib.registry call.requester data
        watch.state.instances group = .ok instances

/-! ## Where an exclusion comes from -/

section Origin

variable {lib : RegistryLibrary} {requester : Requester}
  {instances instances' : InstanceTable} {row : InstanceRecord}

theorem excludedIn_iff {pk : Nat} :
    excludedIn instances pk = true ↔ ∃ row ∈ instances.rows, row.pk = pk ∧
      row.excludeFromGlobalNotifications = true := by
  simp [excludedIn]

theorem excludedIn_of_mem (hmem : row ∈ instances.rows)
    (h : row.excludeFromGlobalNotifications = true) :
    excludedIn instances row.pk = true :=
  excludedIn_iff.mpr ⟨row, hmem, rfl, h⟩

theorem create_excluded {data : InstanceData} {group : Nat}
    (h : create lib requester data group = .ok row) :
    row.excludeFromGlobalNotifications =
      data.excludeFromGlobalNotifications.getD false := by
  rw [(create_ok h).2]
  simp only [creationData, InstanceData.withoutControl]
  split_ifs <;> rfl

theorem update_excluded {data : InstanceData} {before : InstanceRecord}
    (h : update lib requester data before = .ok row)
    (hrequester : requester.user.isSuperuser = false) :
    row.excludeFromGlobalNotifications =
      before.excludeFromGlobalNotifications := by
  have hfield : data.excludeFromGlobalNotifications = none := by
    simpa using checkOperatorUpdate_ok ((update_ok h).1 hrequester)
      ("exclude_from_global_notifications",
        data.excludeFromGlobalNotifications.isSome,
        "Only an Administrator can change this field.")
      (by simp [administratorFields])
  rw [update_excluded_eq h, hfield]
  rfl

inductive Origin (lib : RegistryLibrary) (call : RegistryCall)
    (instances : InstanceTable) (row : InstanceRecord) : Prop
  | before : excludedIn instances row.pk = true → Origin lib call instances row
  | administrator : call.requester.user.isSuperuser = true →
      Origin lib call instances row
  | extended (source : InstanceRecord) :
      extendedBy lib call instances = some source →
      source.excludeFromGlobalNotifications = true →
      Origin lib call instances row
  | created (data : InstanceData) (group : Nat) (instances' : InstanceTable) :
      call.request = .apiCreate data group →
      data.excludeFromGlobalNotifications = some true →
      apiCreate lib call.requester data instances group = .ok instances' →
      Origin lib call instances row

theorem origin_of_old {call : RegistryCall} (hmem : row ∈ instances.rows)
    (h : row.excludeFromGlobalNotifications = true) :
    Origin lib call instances row :=
  .before (excludedIn_of_mem hmem h)

theorem origin_of_saved {call : RegistryCall} {before : InstanceRecord}
    (record : InstanceRecord) (hbefore : before ∈ instances.rows) (hpk : record.pk = before.pk)
    (hkept : call.requester.user.isSuperuser = false →
      record.excludeFromGlobalNotifications =
        before.excludeFromGlobalNotifications)
    (hmem : row ∈ (saveRecord instances record).rows)
    (h : row.excludeFromGlobalNotifications = true) :
    Origin lib call instances row := by
  rcases mem_saveRecord hmem with rfl | ⟨hold, -⟩
  · cases hrequester : call.requester.user.isSuperuser with
    | true => exact .administrator hrequester
    | false =>
        rw [hkept hrequester] at h
        refine .before ?_
        rw [hpk]
        exact excludedIn_of_mem hbefore h
  · exact origin_of_old hold h

theorem origin_of_added {request : RegistryRequest} {form : Form} {group : Nat}
    {targets : List InstanceRecord} (hrequest : request = .addInstance form group)
    (htargets : newTargets lib requester form instances group = .ok targets)
    (hmem : row ∈ (insertRecords instances targets).rows)
    (h : row.excludeFromGlobalNotifications = true) :
    Origin lib ⟨requester, request⟩ instances row := by
  rcases mem_insertRecords hmem with hold | ⟨target, htarget, hrow⟩
  · exact origin_of_old hold h
  · obtain ⟨source, control, common, haccepted, rfl⟩ := newTargets_ok htargets
    obtain ⟨name, -, rfl⟩ := List.mem_map.mp htarget
    have hcommon : common.excludeFromGlobalNotifications = true := by
      rw [hrow] at h
      exact h
    cases source with
    | none =>
        exact .administrator ((commonFields_none haccepted.hcommon).2 hcommon)
    | some source =>
        refine .extended source ?_ ?_
        · rw [extendedBy, hrequest]
          dsimp only
          rw [haccepted.hsource]
        · rw [← (commonFields_some haccepted.hcommon).2]
          exact hcommon

theorem origin_of_serve {libs : Libraries} {call : RegistryCall}
    {s : RegistryState} (hmem : row ∈ (serve libs call s).instances.rows)
    (h : row.excludeFromGlobalNotifications = true) :
    Origin libs.registry call s.instances row := by
  have hend := serve_end libs call s
  obtain ⟨requester, request⟩ := call
  generalize (serve libs ⟨requester, request⟩ s).instances = after
    at hend hmem
  cases hend with
  | unchanged => exact origin_of_old hmem h
  | added htargets => exact origin_of_added rfl htargets hmem h
  | @ownerWebhook form pk record webhookUrl hbefore =>
      refine origin_of_saved (withOwnerWebhook requester form webhookUrl record)
        hbefore rfl ?_ hmem h
      intro hrequester
      dsimp only at hrequester
      simp [withOwnerWebhook, hrequester]
  | @control form pk record hbefore =>
      exact origin_of_saved (withControl libs.registry (submittedControl form)
        record) hbefore rfl (fun _ => rfl) hmem h
  | rescoped hrequester => exact .administrator hrequester
  | @created data group record hcreate hcall =>
      rw [insertRecord_rows, List.mem_append, List.mem_singleton] at hmem
      rcases hmem with hold | rfl
      · exact origin_of_old hold h
      · have hrecord : record.excludeFromGlobalNotifications = true := h
        rw [create_excluded hcreate] at hrecord
        refine .created data group _ rfl ?_ hcall
        cases hdata : data.excludeFromGlobalNotifications with
        | none => simp [hdata] at hrecord
        | some excluded => simpa [hdata] using hrecord
  | updated hbefore hpk hupdate hcall =>
      exact origin_of_saved _ hbefore (update_pk hupdate)
        (update_excluded hupdate) hmem h

end Origin

/-! ## The last change of an excluded instance -/

section Watches

variable {lib : Libraries} {watch watch' watch₀ : ExclusionWatch}
  {call : RegistryCall} {calls : List RegistryCall}

theorem lastChange_watch {row : InstanceRecord}
    (hmem : row ∈ (watchExclusion lib watch call).state.instances.rows)
    (h : row.excludeFromGlobalNotifications = true) :
    (watchExclusion lib watch call).lastChange row.pk =
      if excludedIn watch.state.instances row.pk then watch.lastChange row.pk
      else some ⟨row.pk, call.requester.user,
        extendedBy lib.registry call watch.state.instances⟩ := by
  have hnew : row.pk ∈ newlyExcluded watch.state.instances
      (serve lib call watch.state).instances ↔
        excludedIn watch.state.instances row.pk = false := by
    have hafter := excludedIn_of_mem hmem h
    have hpk := List.mem_map_of_mem (f := InstanceRecord.pk) hmem
    rw [newlyExcluded, List.mem_filter]
    simp only [Bool.and_eq_true, Bool.not_eq_true']
    exact ⟨fun hboth => hboth.2.2, fun hfalse => ⟨hpk, hafter, hfalse⟩⟩
  unfold ExclusionWatch.lastChange watchExclusion
  dsimp only
  rw [List.find?_append, List.find?_map]
  cases hbefore : excludedIn watch.state.instances row.pk with
  | true =>
      rw [if_pos rfl, List.find?_eq_none.mpr]
      · rfl
      · intro pk hpk heq
        rw [show pk = row.pk by simpa using heq, hnew, hbefore] at hpk
        cases hpk
  | false =>
      rw [if_neg (by simp)]
      cases hfind : (newlyExcluded watch.state.instances
          (serve lib call watch.state).instances).find? _ with
      | none =>
          simpa using List.find?_eq_none.mp hfind _ (hnew.mpr hbefore)
      | some pk =>
          have hpk : pk = row.pk := by simpa using List.find?_some hfind
          rw [hpk]
          rfl

theorem sanctioned_step (h : watch.Sanctioned)
    (hcall : ¬ ExcludesOnCreate lib watch call) :
    (watchExclusion lib watch call).Sanctioned := by
  intro row hmem hexcluded
  rw [lastChange_watch hmem hexcluded]
  cases hbefore : excludedIn watch.state.instances row.pk with
  | true =>
      obtain ⟨old, hold, hpk, holdExcluded⟩ := excludedIn_iff.mp hbefore
      rw [if_pos rfl, ← hpk]
      exact h old hold holdExcluded
  | false =>
      rw [if_neg (by simp)]
      refine ⟨_, rfl, ?_⟩
      cases origin_of_serve hmem hexcluded with
      | before hold =>
          rw [hbefore] at hold
          cases hold
      | administrator hrequester => exact .inl hrequester
      | extended source hsource hcopied => exact .inr ⟨source, hsource, hcopied⟩
      | created data group instances' hrequest hdata hok =>
          cases hrequester : call.requester.user.isSuperuser with
          | true => exact .inl hrequester
          | false =>
              refine absurd ⟨?_, hrequester, data, group, hrequest, hdata,
                instances', hok⟩ hcall
              by_contra hinactive
              have hold := hmem
              rw [watchExclusion, serve_inactive _ hinactive] at hold
              rw [excludedIn_of_mem hold hexcluded] at hbefore
              cases hbefore

theorem excludesOnCreate_breaks (hcall : ExcludesOnCreate lib watch call) :
    ¬ (watchExclusion lib watch call).Sanctioned := by
  obtain ⟨hactive, hrequester, data, group, hrequest, hdata, instances, hok⟩ :=
    hcall
  obtain ⟨record, hcreate, rfl⟩ := apiCreate_ok hok
  intro hsanctioned
  have hserve : (serve lib call watch.state).instances =
      insertRecord watch.state.instances record :=
    serve_ok hactive (by rw [hrequest, answer]) hok
  let row := record.numbered watch.state.instances.nextPk
  have hmem : row ∈ (watchExclusion lib watch call).state.instances.rows := by
    rw [show (watchExclusion lib watch call).state.instances = _ from hserve]
    simp [row]
  have hexcluded : row.excludeFromGlobalNotifications = true := by
    change record.excludeFromGlobalNotifications = true
    rw [create_excluded hcreate, hdata]
    rfl
  have hbefore : excludedIn watch.state.instances row.pk = false := by
    by_contra hold
    obtain ⟨old, hmemOld, hpk, -⟩ := excludedIn_iff.mp (by simpa using hold)
    exact absurd hpk (Nat.ne_of_lt (watch.state.instances.pk_lt old hmemOld))
  obtain ⟨change, hlast, hby⟩ := hsanctioned row hmem hexcluded
  rw [lastChange_watch hmem hexcluded, hbefore] at hlast
  cases hlast
  rcases hby with hsuperuser | ⟨source, hsource, -⟩
  · rw [hrequester] at hsuperuser
    cases hsuperuser
  · rw [extendedBy, hrequest] at hsource
    cases hsource

theorem exclusion_sanctioned (hstart : watch₀.Sanctioned)
    (run : Run (Enabled (exclusionStep lib)) watch₀ calls watch) :
    Always (exclusionStep lib) ExclusionWatch.Sanctioned watch₀ calls ↔
      Run (Guarded (fun watch call => ¬ ExcludesOnCreate lib watch call)
        (Enabled (exclusionStep lib))) watch₀ calls watch := by
  refine always_iff_guarded ?_ ?_ hstart run
  · intro watch call watch' hkept hcall hstep
    rw [← Option.some.inj hstep]
    exact sanctioned_step hkept hcall
  · intro watch call watch' _ hcall hstep
    rw [← Option.some.inj hstep]
    exact excludesOnCreate_breaks (not_not.mp hcall)

end Watches

/-! ## An instance nobody sees in the channel -/

def excludedInstance : InstanceData :=
  { plainInstance with excludeFromGlobalNotifications := some true }

theorem operator_creates_excluded :
    ¬ Always (exclusionStep openLibraries) ExclusionWatch.Sanctioned
      ⟨noInstances, []⟩ [⟨operator, .apiCreate excludedInstance 0⟩] := by
  intro halways
  refine excludesOnCreate_breaks ?_ (halways _ [] _ rfl (.single rfl))
  exact ⟨rfl, rfl, excludedInstance, 0, rfl, rfl, _, rfl⟩

theorem administrator_creates_excluded :
    Always (exclusionStep openLibraries) ExclusionWatch.Sanctioned
      ⟨noInstances, []⟩ [⟨administrator, .apiCreate excludedInstance 0⟩] := by
  refine (exclusion_sanctioned ?_ (.single rfl)).mpr (.single ⟨?_, rfl⟩)
  · intro row hmem
    cases hmem
  · rintro ⟨-, hoperator, -⟩
    cases hoperator

end HealthGrid.Registry
