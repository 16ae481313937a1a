import HealthGrid.Registry.Requests

/-!
# The lock-control credentials of an instance

With lock control off an instance holds no control credentials, and a control
username never stands without a password.
-/

namespace HealthGrid.Registry

open HealthGrid.Foundation HealthGrid.Db HealthGrid.Access

structure ControlSound (record : InstanceRecord) : Prop where
  off : record.lockControlEnabled = false →
    record.controlUsername = "" ∧ record.controlPasswordEncrypted = ""
  named : record.controlUsername ≠ "" → record.controlPasswordEncrypted ≠ ""

def ControlsSound (s : RegistryState) : Prop :=
  ∀ record ∈ s.instances.rows, ControlSound record

def SuppliedBy (lib : RegistryLibrary) (data : InstanceData)
    (record : InstanceRecord) : Prop :=
  (record.controlUsername = "" ∨
      data.controlUsername = some record.controlUsername) ∧
    (record.controlPasswordEncrypted = "" ∨
      ∃ password, data.controlPassword = some password ∧
        record.controlPasswordEncrypted = encryptPassword lib password)

def Repointed (before record : InstanceRecord) : Prop :=
  record.host ≠ before.host ∨ record.port ≠ before.port ∨
    record.engine ≠ before.engine ∨ record.username ≠ before.username

def RepointsSupplied (lib : Libraries) (s₀ : RegistryState)
    (calls : List RegistryCall) : Prop :=
  ∀ front requester data pk rest s,
    calls = front ++ ⟨requester, .apiUpdate data pk⟩ :: rest →
    Run (Enabled (registryStep lib)) s₀ front s →
    ∀ before ∈ s.instances.rows, before.pk = pk →
      ∀ record ∈ (serve lib ⟨requester, .apiUpdate data pk⟩ s).instances.rows,
        record.pk = pk → Repointed before record →
          SuppliedBy lib.registry data record

def StoresWhileOff (lib : Libraries) (s : RegistryState) (call : RegistryCall) :
    Prop :=
  call.requester.user.isActive = true ∧
    ∃ data pk, call.request = .apiUpdate data pk ∧
      data.controlPassword.getD "" ≠ "" ∧
      (∃ instances, apiUpdate lib.registry call.requester data s.instances pk =
        .ok instances) ∧
      ∃ before ∈ s.instances.rows, before.pk = pk ∧
        (connectionChanged data before = true ∨
          data.lockControlEnabled.getD before.lockControlEnabled = false)

/-! ## The credentials that each function leaves -/

section Functions

variable {lib : RegistryLibrary} {requester : Requester} {form : Form}
  {data : InstanceData} {before record settled : InstanceRecord}

theorem controlValues_sound {source : Option InstanceRecord}
    {control : ControlValues}
    (hsource : ∀ record, source = some record → ControlSound record)
    (h : controlValues lib requester form source = .ok control)
    (hpassword : ¬ (control.enabled = true ∧ control.username ≠ "" ∧
      control.password = "")) :
    (control.enabled = false → control.username = "" ∧ control.password = "") ∧
      (control.username ≠ "" → control.password ≠ "") := by
  have hoff : control.enabled = false →
      control.username = "" ∧ control.password = "" := by
    intro henabled
    cases source with
    | none =>
        cases h
        dsimp only at henabled
        simp [henabled]
    | some source =>
        have hsound := hsource source rfl
        unfold controlValues at h
        dsimp only at h
        split at h
        · rename_i hstored
          obtain ⟨password, -, h⟩ := of_bind_eq_ok h
          cases h
          exact absurd (hsound.off henabled).2 hstored
        · cases h
          dsimp only at henabled
          simp [henabled, (hsound.off henabled).1]
  refine ⟨hoff, fun hname hempty => ?_⟩
  cases henabled : control.enabled with
  | false => exact hname (hoff henabled).1
  | true => exact hpassword ⟨henabled, hname, hempty⟩

theorem submittedControl_enabled (h : (submittedControl form).username ≠ "") :
    (submittedControl form).enabled = true := by
  by_contra hoff
  simp [submittedControl] at h hoff
  rw [h.1] at hoff
  cases hoff

theorem controlSound_withControl
    (hlacks : lacksPassword (submittedControl form) record = false) :
    ControlSound (withControl lib (submittedControl form) record) := by
  constructor
  · intro henabled
    have hform : form.checked "lock_control_enabled" = false := henabled
    simp [withControl, submittedControl, hform]
  · intro hname hempty
    have hname' : (submittedControl form).username ≠ "" := hname
    simp only [withControl, if_neg hname'] at hempty
    split at hempty
    · -- the name is kept with its stored password
      rename_i hpassword
      simp [lacksPassword, submittedControl_enabled hname', hname', hpassword,
        hempty] at hlacks
    · simp_all

theorem creationData_off
    (h : (creationData requester data).lockControlEnabled.getD false = false) :
    (creationData requester data).controlUsername = some "" ∧
      (creationData requester data).controlPassword = none := by
  unfold creationData at h ⊢
  dsimp only at h ⊢
  generalize (if requester.user.isSuperuser = true then data
    else data.withoutControl) = permitted at h ⊢
  by_cases hon : permitted.lockControlEnabled.getD false = true
  · rw [if_pos hon, hon] at h
    cases h
  · rw [if_neg hon]
    exact ⟨rfl, rfl⟩

theorem controlSound_create {group : Nat}
    (h : create lib requester data group = .ok record) :
    ControlSound record := by
  obtain ⟨hpassword, rfl⟩ := create_ok h
  constructor
  · intro henabled
    obtain ⟨hname, hnone⟩ := creationData_off henabled
    constructor
    · simp [InstanceData.assign, hname]
    · simp [hnone]
  · intro hname hempty
    exact hpassword ⟨hname, encryptPassword_eq_empty.mp hempty⟩

theorem assigned_enabled :
    (assigned lib data before).lockControlEnabled =
      (!connectionChanged data before &&
        data.lockControlEnabled.getD before.lockControlEnabled) := by
  rw [assigned_keeps InstanceRecord.lockControlEnabled fun _ _ => rfl, repointed]
  cases connectionChanged data before <;> rfl

theorem assigned_control (hnone : data.controlUsername = none) :
    (assigned lib data before).controlUsername = "" ∨
      ((assigned lib data before).controlUsername = before.controlUsername ∧
        (assigned lib data before).controlPasswordEncrypted =
          before.controlPasswordEncrypted) := by
  rw [assigned_keeps InstanceRecord.controlUsername fun _ _ => rfl,
    assigned_keeps InstanceRecord.controlPasswordEncrypted fun _ _ => rfl,
    repointed]
  cases connectionChanged data before with
  | true => exact .inl rfl
  | false => exact .inr (by simp [InstanceData.assign, hnone])

theorem settleControl_off (hoff : record.lockControlEnabled = false) :
    settleControl data record = .ok (withoutCredentials record) := by
  rw [settleControl, hoff]
  rfl

theorem settleControl_named (h : settleControl data record = .ok settled)
    (hkept : data.controlUsername = none → record.controlUsername ≠ "" →
      record.controlPasswordEncrypted ≠ "")
    (hpassword : data.controlPassword.getD "" = "")
    (hname : settled.controlUsername ≠ "") :
    settled.controlPasswordEncrypted ≠ "" := by
  unfold settleControl at h
  split at h
  · cases h
    exact absurd rfl hname
  · split at h
    · split at h
      · cases h
      · rename_i hgiven
        split at h
        · cases h
          contradiction
        · exact absurd ⟨‹_›, hpassword⟩ hgiven
    · rename_i hgiven
      cases h
      exact hkept (by simpa using hgiven) hname

theorem controlSound_update (hbefore : ControlSound before)
    (h : update lib requester data before = .ok record)
    (hslip : ¬ (data.controlPassword.getD "" ≠ "" ∧
      (assigned lib data before).lockControlEnabled = false)) :
    ControlSound record := by
  have henabled := update_keeps InstanceRecord.lockControlEnabled
    (fun _ _ _ => rfl) h
  obtain ⟨-, settled, hsettled, rfl⟩ := update_ok h
  constructor
  · intro hoff
    rw [henabled] at hoff
    have hempty : data.controlPassword.getD "" = "" := by
      by_contra hne
      exact hslip ⟨hne, hoff⟩
    rw [settleControl_off hoff] at hsettled
    cases hsettled
    simp [hempty, withoutCredentials]
  · split
    · rename_i hempty
      refine settleControl_named hsettled (fun hnone hname => ?_) hempty
      rcases assigned_control hnone with hcleared | ⟨hsame, hstored⟩
      · exact absurd hcleared hname
      · rw [hsame] at hname
        rw [hstored]
        exact hbefore.named hname
    · rename_i hpassword
      intro _
      simpa [setControlPassword] using hpassword

theorem connectionChanged_of_repointed
    (h : update lib requester data before = .ok record)
    (hrepointed : Repointed before record) :
    connectionChanged data before = true := by
  obtain ⟨hhost, hport, hengine, husername⟩ := update_connection h
  have hany : ∀ {α : Type} [DecidableEq α] (given : Option α) (stored : α),
      given.getD stored ≠ stored → given.any (· != stored) = true := by
    intro α _ given stored hne
    cases given <;> simp_all
  simp only [connectionChanged, Bool.or_eq_true]
  rcases hrepointed with hne | hne | hne | hne
  · exact .inl (.inl (.inl (hany _ _ (hhost ▸ hne))))
  · exact .inl (.inl (.inr (hany _ _ (hport ▸ hne))))
  · refine .inl (.inr ?_)
    have hgiven := hany (data.engine.map engineText) _ (hengine ▸ hne)
    cases hdata : data.engine with
    | none => simp [hdata] at hgiven
    | some engine => simpa [hdata] using hgiven
  · exact .inr (hany _ _ (husername ▸ hne))

theorem supplied_of_repointed
    (h : update lib requester data before = .ok record)
    (hrepointed : Repointed before record) : SuppliedBy lib data record := by
  have hchanged := connectionChanged_of_repointed h hrepointed
  obtain ⟨-, settled, hsettled, rfl⟩ := update_ok h
  rw [settleControl_off (by simp [assigned_enabled, hchanged])] at hsettled
  cases hsettled
  split
  · exact ⟨.inl rfl, .inl rfl⟩
  · rename_i hpassword
    refine ⟨.inl rfl, .inr ?_⟩
    cases hgiven : data.controlPassword with
    | none => simp [hgiven] at hpassword
    | some password => exact ⟨password, rfl, rfl⟩

end Functions

/-! ## The credentials of every instance -/

section Runs

variable {lib : Libraries} {s s₀ : RegistryState} {call : RegistryCall}
  {calls : List RegistryCall}

theorem controlSound_added {requester : Requester} {form : Form} {group : Nat}
    {instances : InstanceTable} {targets : List InstanceRecord}
    {target : InstanceRecord}
    (hsound : ∀ record ∈ instances.rows, ControlSound record)
    (htargets : newTargets lib.registry requester form instances group =
      .ok targets) (hmem : target ∈ targets) : ControlSound target := by
  obtain ⟨source, control, common, haccepted, rfl⟩ := newTargets_ok htargets
  obtain ⟨name, -, rfl⟩ := List.mem_map.mp hmem
  obtain ⟨henabled, husername, hpassword⟩ :=
    commonFields_control haccepted.hcommon
  have hsource : ∀ record, source = some record → ControlSound record := by
    rintro record rfl
    exact hsound record (extendSource_mem haccepted.hsource)
  obtain ⟨hoff, hnamed⟩ := controlValues_sound hsource haccepted.hcontrol
    haccepted.hpassword
  constructor
  · intro hfalse
    obtain ⟨hname, hempty⟩ := hoff (henabled ▸ hfalse)
    exact ⟨husername.trans hname, by simp [forDatabase, hpassword, hempty]⟩
  · intro hname
    simpa [forDatabase, hpassword] using hnamed (husername ▸ hname)

theorem controlsSound_step (h : ControlsSound s)
    (hcall : ¬ StoresWhileOff lib s call) :
    ControlsSound (serve lib call s) := by
  intro row hmem
  by_cases hactive : call.requester.user.isActive = true
  · have hend := serve_end lib call s
    obtain ⟨requester, request⟩ := call
    generalize (serve lib ⟨requester, request⟩ s).instances = after
      at hend hmem
    cases hend with
    | unchanged => exact h row hmem
    | added htargets =>
        rcases mem_insertRecords hmem with hold | ⟨target, htarget, hrow⟩
        · exact h row hold
        · have htargetSound := controlSound_added h htargets htarget
          rw [hrow]
          exact ⟨htargetSound.off, htargetSound.named⟩
    | ownerWebhook webhookUrl hbefore =>
        rcases mem_saveRecord hmem with rfl | ⟨hold, -⟩
        · have hsound := h _ hbefore
          exact ⟨hsound.off, hsound.named⟩
        · exact h row hold
    | control hbefore hlacks =>
        rcases mem_saveRecord hmem with rfl | ⟨hold, -⟩
        · exact controlSound_withControl hlacks
        · exact h row hold
    | rescoped _ hrescoped =>
        obtain ⟨old, hold, excluded, rfl⟩ := hrescoped.mem hmem
        have hsound := h old hold
        exact ⟨hsound.off, hsound.named⟩
    | created hcreate =>
        rw [insertRecord_rows, List.mem_append, List.mem_singleton] at hmem
        rcases hmem with hold | rfl
        · exact h row hold
        · have hsound := controlSound_create hcreate
          exact ⟨hsound.off, hsound.named⟩
    | @updated data pk before record hbefore hpk hupdate hok =>
        rcases mem_saveRecord hmem with rfl | ⟨hold, -⟩
        · refine controlSound_update (h before hbefore) hupdate ?_
          rintro ⟨hpassword, hoff⟩
          refine hcall ⟨hactive, data, pk, rfl, hpassword, ⟨_, hok⟩, before,
            hbefore, hpk, ?_⟩
          simpa [assigned_enabled, or_iff_not_imp_left] using hoff
        · exact h row hold
  · rw [serve_inactive s hactive] at hmem
    exact h row hmem

theorem storesWhileOff_breaks (hcall : StoresWhileOff lib s call) :
    ¬ ControlsSound (serve lib call s) := by
  obtain ⟨hactive, data, pk, hrequest, hpassword, ⟨instances, hok⟩, before,
    hbefore, hpk, hoff⟩ := hcall
  have hserve : (serve lib call s).instances = instances :=
    serve_ok hactive (by rw [hrequest, answer]) hok
  obtain ⟨stored, hstored, hstoredPk, record, hupdate, rfl⟩ := apiUpdate_ok hok
  have hsame : stored = before :=
    OpenTable.eq_of_pk_eq hstored hbefore (hstoredPk.trans hpk.symm)
  subst hsame
  intro hsound
  have hrecord := hsound record
    (hserve ▸ mem_saveRecord_self hbefore (update_pk hupdate))
  have henabled : record.lockControlEnabled = false := by
    rw [update_keeps InstanceRecord.lockControlEnabled (fun _ _ _ => rfl)
      hupdate]
    simpa [assigned_enabled, or_iff_not_imp_left] using hoff
  have hempty := (hrecord.off henabled).2
  obtain ⟨-, settled, -, rfl⟩ := update_ok hupdate
  rw [if_neg hpassword] at hempty
  exact hpassword (by simpa [setControlPassword] using hempty)

theorem repoints_supplied : RepointsSupplied lib s₀ calls := by
  intro front requester data pk rest s _ _ before hbefore hpk record hmem
    hrecordPk hrepointed
  have hend := serve_end lib ⟨requester, .apiUpdate data pk⟩ s
  generalize (serve lib ⟨requester, .apiUpdate data pk⟩ s).instances = after
    at hend hmem
  cases hend with
  | unchanged =>
      rw [OpenTable.eq_of_pk_eq hmem hbefore (hrecordPk.trans hpk.symm)]
        at hrepointed
      simp [Repointed] at hrepointed
  | @updated _ _ stored saved hstored hstoredPk hupdate =>
      have hsame : stored = before :=
        OpenTable.eq_of_pk_eq hstored hbefore (hstoredPk.trans hpk.symm)
      subst hsame
      rcases mem_saveRecord hmem with rfl | ⟨-, hne⟩
      · exact supplied_of_repointed hupdate hrepointed
      · rw [update_pk hupdate, hstoredPk] at hne
        exact absurd hrecordPk hne

theorem control_credentials_sound (hstart : ControlsSound s₀)
    (run : Run (Enabled (registryStep lib)) s₀ calls s) :
    (Always (registryStep lib) ControlsSound s₀ calls ∧
        RepointsSupplied lib s₀ calls) ↔
      Run (Guarded (fun s call => ¬ StoresWhileOff lib s call)
        (Enabled (registryStep lib))) s₀ calls s := by
  rw [and_iff_left repoints_supplied]
  refine always_iff_guarded ?_ ?_ hstart run
  · intro s call s' hsound hcall hstep
    rw [← Option.some.inj hstep]
    exact controlsSound_step hsound hcall
  · intro s call s' _ hcall hstep
    rw [← Option.some.inj hstep]
    exact storesWhileOff_breaks (not_not.mp hcall)

end Runs

/-! ## A password behind the switch -/

def dormantPassword : InstanceData :=
  { InstanceData.empty with controlPassword := some "secret" }

def updatedInstance (data : InstanceData) : List RegistryCall :=
  [⟨operator, .apiCreate plainInstance 0⟩, ⟨administrator, .apiUpdate data 0⟩]

theorem controlsSound_noInstances : ControlsSound noInstances := by
  intro record hmem
  cases hmem

theorem update_stores_dormant_password :
    ¬ (Always (registryStep openLibraries) ControlsSound noInstances
        (updatedInstance dormantPassword) ∧
      RepointsSupplied openLibraries noInstances
        (updatedInstance dormantPassword)) := by
  rintro ⟨halways, -⟩
  refine storesWhileOff_breaks ?_
    (halways _ [] _ rfl ((Run.single rfl).snoc rfl))
  exact ⟨rfl, dormantPassword, 0, rfl, by decide, ⟨_, rfl⟩, _,
    List.mem_singleton_self _, rfl, .inr rfl⟩

theorem enabled_update_keeps_sound :
    let calls := updatedInstance { dormantPassword with
      lockControlEnabled := some true, controlUsername := some "guard" }
    Always (registryStep openLibraries) ControlsSound noInstances calls ∧
      RepointsSupplied openLibraries noInstances calls := by
  intro calls
  have hcreate : ¬ StoresWhileOff openLibraries noInstances
      ⟨operator, .apiCreate plainInstance 0⟩ := by
    rintro ⟨-, data, pk, hrequest, -⟩
    cases hrequest
  refine (control_credentials_sound controlsSound_noInstances
    ((Run.single rfl).snoc rfl)).mpr
    ((Run.single ⟨hcreate, rfl⟩).snoc ⟨?_, rfl⟩)
  rintro ⟨-, data, pk, hrequest, -, -, before, hmem, -, hoff⟩
  cases hrequest
  rcases hoff with hchanged | hoff
  · cases hchanged
  · cases hoff

end HealthGrid.Registry
