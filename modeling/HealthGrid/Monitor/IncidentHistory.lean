import HealthGrid.Foundation.Run
import HealthGrid.Monitor.Cycle

/-!
# Incidents are runs of sightings

Over any sequence of cycles the incidents of a PID pair are the maximal runs
of consecutive snapshots that show the pair.
-/

namespace HealthGrid.Monitor

open HealthGrid.Foundation HealthGrid.Db

def CycleInput.snapshot (env : MonitorEnv) (inst : RDSInstance)
    (input : CycleInput) : Option (List LockRow) :=
  match input.fetch inst with
  | .ok (_, blocking) =>
      if ∀ row ∈ (uniqueBlocking blocking).values, Storable env.app row then
        some blocking
      else none
  | .error _ => none

def incidents (instancePk : Nat) (blockedPid blockingPid : Int)
    (table : LockAlertTable) : List LockAlert :=
  table.rows.filter fun alert =>
    alert.instancePk == instancePk && alert.blockedPid == blockedPid &&
      alert.blockingPid == blockingPid

theorem incidents_eq_history (instancePk : Nat) (blockedPid blockingPid : Int)
    (table : LockAlertTable) :
    incidents instancePk blockedPid blockingPid table =
      table.history (instancePk, pairKey blockedPid blockingPid) := by
  apply List.filter_congr
  intro alert _
  rw [Bool.eq_iff_iff]
  simp only [Bool.and_eq_true, beq_iff_eq]
  constructor
  · rintro ⟨⟨rfl, rfl⟩, rfl⟩
    rfl
  · intro heq
    obtain ⟨hinstance, hkey⟩ := Prod.mk.inj heq
    obtain ⟨hblocked, hblocking⟩ := pairKey_inj hkey
    exact ⟨⟨hinstance, hblocked⟩, hblocking⟩

/-! ## One cycle -/

section Step

variable {env : MonitorEnv} {inst : RDSInstance} {input : CycleInput}
  {s : MonitorState}

theorem fetch_of_snapshot {blocking : List LockRow}
    (h : input.snapshot env inst = some blocking) :
    ∃ activity, input.fetch inst = .ok (activity, blocking) := by
  unfold CycleInput.snapshot at h
  split at h
  · rename_i activity rows hfetch
    split at h
    · cases h
      exact ⟨activity, hfetch⟩
    · cases h
  · cases h

theorem cycle_of_fetch_error {e : Exn} (h : input.fetch inst = .error e) :
    cycle env inst s input = s := by
  rw [cycle, processInstance_notFetched h]

theorem cycle_lockAlerts (env : MonitorEnv) (inst : RDSInstance)
    (input : CycleInput) (s : MonitorState) :
    match input.snapshot env inst with
    | none => (cycle env inst s input).lockAlerts = s.lockAlerts
    | some blocking => snapshotTable env inst input blocking s.lockAlerts =
        .ok (cycle env inst s input).lockAlerts := by
  have hsnapshot : ∀ activity blocking,
      input.fetch inst = .ok (activity, blocking) →
      ∀ table, snapshotTable env inst input blocking s.lockAlerts = .ok table →
      input.snapshot env inst = some blocking := by
    intro activity blocking hfetch table htable
    obtain ⟨stored, hstored, -⟩ := snapshotTable_stored htable
    have hall := upsertLockAlerts_storable.mp ⟨stored, hstored⟩
    rw [CycleInput.snapshot, hfetch]
    exact if_pos hall
  unfold cycle
  generalize hresult : (processInstance env inst input s).1 = result
  generalize hstate : (processInstance env inst input s).2 = s'
  have hend := processInstance_end env inst input s
  rw [hresult, hstate] at hend
  cases hend with
  | notFetched hfetch =>
      rw [CycleInput.snapshot, hfetch]
  | @notStored activity blocking e hfetch htable =>
      have hnone : input.snapshot env inst = none := by
        rw [CycleInput.snapshot, hfetch]
        refine if_neg ?_
        intro hall
        obtain ⟨stored, hstored⟩ := upsertLockAlerts_storable.mpr hall
        rw [snapshotTable, hstored] at htable
        cases htable
      rw [hnone]
  | notTracked hfetch htable =>
      rw [hsnapshot _ _ hfetch _ htable]
      exact htable
  | completed hfetch htable =>
      rw [hsnapshot _ _ hfetch _ htable]
      exact htable

theorem values_lockKey (blocking : List LockRow) :
    (uniqueBlocking blocking).values.map lockKey =
      (uniqueBlocking blocking).keys := by
  unfold Dict.values Dict.keys
  rw [List.map_map]
  apply List.map_congr_left
  intro entry hmem
  exact (mem_uniqueBlocking hmem).2

theorem snapshotTable_sightings {blocking : List LockRow}
    {table table' : LockAlertTable} (blockedPid blockingPid : Int)
    (h : snapshotTable env inst input blocking table = .ok table') :
    (table'.history (inst.pk, pairKey blockedPid blockingPid)).map sighting =
      observe ((table.history
          (inst.pk, pairKey blockedPid blockingPid)).map sighting)
        (input.now, decide (Shows blocking blockedPid blockingPid)) := by
  obtain ⟨stored, hstored, rfl⟩ := snapshotTable_stored h
  rw [sightings_resolveStale]
  by_cases hshows : Shows blocking blockedPid blockingPid
  · have hseen := pairKey_mem_seenKeys.mpr hshows
    rw [if_pos hseen, decide_eq_true hshows]
    rw [← values_lockKey, List.mem_map] at hseen
    obtain ⟨row, hmem, hkey⟩ := hseen
    have hnodup : ((uniqueBlocking blocking).values.map lockKey).Nodup := by
      rw [values_lockKey]
      exact Dict.keys_nodup _
    obtain ⟨pk, hhistory⟩ := upsertLockAlerts_history hstored hnodup hmem hkey
    rw [hhistory, sightings_showRow]
  · have hseen := mt pairKey_mem_seenKeys.mp hshows
    rw [if_neg hseen, decide_eq_false hshows]
    rw [upsertLockAlerts_history_ne hstored]
    intro row hmem heq
    refine hseen ?_
    rw [← values_lockKey, List.mem_map]
    exact ⟨row, hmem, (Prod.mk.inj heq).2.symm⟩

end Step

/-! ## Resolved rows -/

theorem resolved_mem_storeLockRow {instancePk threshold : Nat} {now : Time}
    {table : LockAlertTable} {blockedPid blockingPid : Int} {row : LockRow}
    {alert : LockAlert} (hmem : alert ∈ table.rows)
    (hresolved : alert.resolvedAt ≠ none) :
    alert ∈ (storeLockRow instancePk threshold now table blockedPid blockingPid
      row).rows := by
  unfold storeLockRow
  split
  · rw [OpenTable.insert_rows]
    exact List.mem_append_left _ hmem
  · rename_i found hfind
    obtain ⟨hfound, hopen, -⟩ := OpenTable.findOpen?_spec hfind
    rw [OpenTable.update_rows, List.mem_map]
    refine ⟨alert, hmem, if_neg ?_⟩
    intro hpk
    rw [OpenTable.eq_of_pk_eq hmem hfound hpk] at hresolved
    exact hresolved (Option.isNone_iff_eq_none.mp hopen)

theorem resolved_mem_upsertLockAlerts {app : AppDatabase}
    {instancePk threshold : Nat} {now : Time} {table table' : LockAlertTable}
    {rows : List LockRow} {alert : LockAlert}
    (h : upsertLockAlerts app instancePk threshold now table rows = .ok table')
    (hmem : alert ∈ table.rows) (hresolved : alert.resolvedAt ≠ none) :
    alert ∈ table'.rows := by
  refine upsertLockAlerts_preserves (P := (alert ∈ ·.rows)) ?_ h hmem
  intro stored blockedPid blockingPid row hmem
  exact resolved_mem_storeLockRow hmem hresolved

theorem resolved_mem_snapshotTable {env : MonitorEnv} {inst : RDSInstance}
    {input : CycleInput} {blocking : List LockRow}
    {table table' : LockAlertTable} {alert : LockAlert}
    (h : snapshotTable env inst input blocking table = .ok table')
    (hmem : alert ∈ table.rows) (hresolved : alert.resolvedAt ≠ none) :
    alert ∈ table'.rows := by
  obtain ⟨stored, hstored, rfl⟩ := snapshotTable_stored h
  have hkept := resolved_mem_upsertLockAlerts hstored hmem hresolved
  rw [resolveStale, OpenTable.update_rows, List.mem_map]
  exact ⟨alert, hkept, if_neg (fun hstale => hresolved hstale.2.1)⟩

/-! ## Whole runs -/

/-- Per stored snapshot, its time and whether it shows the pair. -/
def observations (env : MonitorEnv) (inst : RDSInstance)
    (blockedPid blockingPid : Int) (inputs : List CycleInput) :
    List (Time × Bool) :=
  inputs.filterMap fun input =>
    (input.snapshot env inst).map fun blocking =>
      (input.now, decide (Shows blocking blockedPid blockingPid))

theorem run_sightings {env : MonitorEnv} {inst : RDSInstance}
    {inputs : List CycleInput} {start s : MonitorState}
    (hrun : Run (CycleStep env inst) start inputs s)
    (hstart : ∀ alert ∈ start.lockAlerts.rows, alert.instancePk ≠ inst.pk)
    (blockedPid blockingPid : Int) :
    (s.lockAlerts.history
        (inst.pk, pairKey blockedPid blockingPid)).map sighting =
      encode (observations env inst blockedPid blockingPid inputs) := by
  induction hrun with
  | refl =>
      have hnone : start.lockAlerts.history
          (inst.pk, pairKey blockedPid blockingPid) = [] := by
        rw [List.eq_nil_iff_forall_not_mem]
        intro alert hmem
        obtain ⟨hrow, hkey⟩ := OpenTable.mem_history.mp hmem
        exact hstart alert hrow (Prod.mk.inj hkey).1
      rw [hnone]
      rfl
  | @snoc t u inputs input _ hstep ih =>
      subst hstep
      have hcycle := cycle_lockAlerts env inst input t
      unfold observations at ih ⊢
      rw [List.filterMap_append, List.filterMap_cons, List.filterMap_nil]
      cases hsnapshot : input.snapshot env inst with
      | none =>
          rw [hsnapshot] at hcycle
          dsimp only at hcycle
          rw [hcycle, ih, Option.map_none, List.append_nil]
      | some blocking =>
          rw [hsnapshot] at hcycle
          rw [snapshotTable_sightings _ _ hcycle, ih, Option.map_some,
            encode_append]

def RecordsRuns (env : MonitorEnv) (inst : RDSInstance)
    (inputs : List CycleInput) (table : LockAlertTable)
    (blockedPid blockingPid : Int) : Prop :=
  let observed := observations env inst blockedPid blockingPid inputs
  let times := observed.map Prod.fst
  ∃ runs : List (Nat × Nat),
    (∀ i j, (i, j) ∈ runs ↔ IsMaximalRun (observed.map Prod.snd) i j) ∧
    (runs.map Prod.fst).Nodup ∧
    List.Forall₂
      (fun alert run =>
        times[run.1]? = some alert.firstSeenAt ∧
        times[run.2]? = some alert.lastSeenAt ∧
        times[run.2 + 1]? = alert.resolvedAt)
      (incidents inst.pk blockedPid blockingPid table) runs

theorem recordsRuns_of_run {env : MonitorEnv} {inst : RDSInstance}
    {inputs : List CycleInput} {start s : MonitorState}
    (hrun : Run (CycleStep env inst) start inputs s)
    (hstart : ∀ alert ∈ start.lockAlerts.rows, alert.instancePk ≠ inst.pk)
    (blockedPid blockingPid : Int) :
    RecordsRuns env inst inputs s.lockAlerts blockedPid blockingPid := by
  have hrecords := encode_records
    (observations env inst blockedPid blockingPid inputs)
  rw [← run_sightings hrun hstart, List.forall₂_map_left_iff] at hrecords
  refine ⟨_, fun i j => mem_maximalRuns, maximalRuns_starts_nodup _, ?_⟩
  rw [incidents_eq_history]
  exact hrecords.imp fun alert run h => ⟨h.first, h.last, h.stop⟩

/--
The incidents of every pair are the maximal runs of its sightings, at most one
of them is unresolved, and the next cycle keeps every resolved row as it is;
one whose fetch raises changes no row at all.
-/
theorem incidents_are_runs {env : MonitorEnv} {inst : RDSInstance}
    {inputs : List CycleInput} {start s : MonitorState}
    (hrun : Run (CycleStep env inst) start inputs s)
    (hstart : ∀ alert ∈ start.lockAlerts.rows, alert.instancePk ≠ inst.pk) :
    (∀ blockedPid blockingPid,
      RecordsRuns env inst inputs s.lockAlerts blockedPid blockingPid ∧
      ∀ alert ∈ incidents inst.pk blockedPid blockingPid s.lockAlerts,
        ∀ alert' ∈ incidents inst.pk blockedPid blockingPid s.lockAlerts,
          alert.resolvedAt = none → alert'.resolvedAt = none →
            alert = alert') ∧
    ∀ input,
      (∀ alert ∈ s.lockAlerts.rows, alert.resolvedAt ≠ none →
        alert ∈ (cycle env inst s input).lockAlerts.rows) ∧
      ∀ e, input.fetch inst = .error e →
        (cycle env inst s input).lockAlerts = s.lockAlerts := by
  constructor
  · intro blockedPid blockingPid
    refine ⟨recordsRuns_of_run hrun hstart blockedPid blockingPid, ?_⟩
    rw [incidents_eq_history]
    intro alert hmem alert' hmem' hopen hopen'
    obtain ⟨hrow, hkey⟩ := OpenTable.mem_history.mp hmem
    obtain ⟨hrow', hkey'⟩ := OpenTable.mem_history.mp hmem'
    refine OpenTable.eq_of_open hrow hrow' ?_ ?_ (hkey.trans hkey'.symm)
    · exact Option.isNone_iff_eq_none.mpr hopen
    · exact Option.isNone_iff_eq_none.mpr hopen'
  · intro input
    have hcycle := cycle_lockAlerts env inst input s
    constructor
    · intro alert hmem hresolved
      cases hsnapshot : input.snapshot env inst with
      | none =>
          rw [hsnapshot] at hcycle
          dsimp only at hcycle
          rw [hcycle]
          exact hmem
      | some blocking =>
          rw [hsnapshot] at hcycle
          exact resolved_mem_snapshotTable hcycle hmem hresolved
    · intro e hfetch
      rw [CycleInput.snapshot, hfetch] at hcycle
      exact hcycle

theorem incidents_are_runs_return :
    let pair : LockRow := ⟨some 1, some 2, none, none, none, none, some 300⟩
    let inputs := [sampleCycle 0 [pair], sampleCycle 60 [],
      sampleCycle 120 [pair]]
    let s := inputs.foldl (cycle sampleEnv (sampleInstance .postgresql)) .empty
    RecordsRuns sampleEnv (sampleInstance .postgresql) inputs s.lockAlerts
      1 2 := by
  intro pair inputs s
  have hrun : Run (CycleStep sampleEnv (sampleInstance .postgresql)) .empty
      inputs s :=
    .snoc (.snoc (.single rfl) rfl) rfl
  exact ((incidents_are_runs hrun
    (fun alert hmem => absurd hmem List.not_mem_nil)).1 1 2).1

end HealthGrid.Monitor
