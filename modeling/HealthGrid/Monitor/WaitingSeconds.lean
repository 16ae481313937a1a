import HealthGrid.Monitor.IncidentHistory

/-!
# How long a pair has waited

A snapshot can hold several rows for one pair.  The cycle keeps the one that
has waited longest, and the incident of the pair takes its waiting time from
that row, or keeps its own where the row has none.
-/

namespace HealthGrid.Monitor

open HealthGrid.Foundation HealthGrid.Foundation.PyText HealthGrid.Db

/-! ## The longest wait of a pair -/

/-- `int(row.get("waiting_seconds") or 0)` -/
def waited (row : LockRow) : Int := intOr row.waitingSeconds 0

def pairRows (blocking : List LockRow) (blockedPid blockingPid : Int) :
    List LockRow :=
  blocking.filter fun row =>
    row.blockedPid == some blockedPid && row.blockingPid == some blockingPid

/-- Over the rows of the pair; a missing wait counts as zero. -/
def longestWait (blocking : List LockRow) (blockedPid blockingPid : Int) :
    Int :=
  (((pairRows blocking blockedPid blockingPid).map waited).max?).getD 0

theorem mem_pairRows {blocking : List LockRow} {blockedPid blockingPid : Int}
    {row : LockRow} :
    row ∈ pairRows blocking blockedPid blockingPid ↔
      row ∈ blocking ∧ lockKey row = pairKey blockedPid blockingPid := by
  simp [pairRows, lockKey_eq_pairKey]

theorem uniqueBlocking_snoc (blocking : List LockRow) (last : LockRow)
    (key : String) :
    (uniqueBlocking (blocking ++ [last])).get? key =
      if lockKey last = key then
        match (uniqueBlocking blocking).get? key with
        | none => some last
        | some current =>
            if waited last > waited current then some last else some current
      else (uniqueBlocking blocking).get? key := by
  have hstep : uniqueBlocking (blocking ++ [last]) =
      match (uniqueBlocking blocking).get? (lockKey last) with
      | none => (uniqueBlocking blocking).set (lockKey last) last
      | some current =>
          if waited last > waited current then
            (uniqueBlocking blocking).set (lockKey last) last
          else uniqueBlocking blocking := by
    unfold uniqueBlocking
    rw [List.foldl_append, List.foldl_cons, List.foldl_nil]
    rfl
  rw [hstep]
  by_cases hkey : lockKey last = key
  · subst hkey
    rw [if_pos rfl]
    cases hget : (uniqueBlocking blocking).get? (lockKey last) with
    | none => simp [Dict.get?_set]
    | some current =>
        dsimp only
        split
        · simp [Dict.get?_set]
        · exact hget
  · rw [if_neg hkey]
    split
    · rw [Dict.get?_set, if_neg (Ne.symm hkey)]
    · split
      · rw [Dict.get?_set, if_neg (Ne.symm hkey)]
      · rfl

def KeptRow (blocking : List LockRow) (row : LockRow) : Prop :=
  ∃ front rest, blocking = front ++ row :: rest ∧
    (∀ other ∈ front, lockKey other = lockKey row →
      waited other < waited row) ∧
    ∀ other ∈ rest, lockKey other = lockKey row → waited other ≤ waited row

theorem keptRow_snoc {blocking : List LockRow} {last row : LockRow} :
    KeptRow (blocking ++ [last]) row ↔
      (row = last ∧ ∀ other ∈ blocking, lockKey other = lockKey row →
        waited other < waited row) ∨
      (KeptRow blocking row ∧
        (lockKey last = lockKey row → waited last ≤ waited row)) := by
  constructor
  · rintro ⟨front, rest, hsplit, hfront, hrest⟩
    rcases List.eq_nil_or_concat rest with rfl | ⟨rest, other, rfl⟩
    · obtain ⟨rfl, hlast⟩ := List.append_inj' hsplit rfl
      cases hlast
      exact .inl ⟨rfl, hfront⟩
    · rw [List.concat_eq_append] at hsplit hrest
      rw [← List.cons_append, ← List.append_assoc] at hsplit
      obtain ⟨rfl, hlast⟩ := List.append_inj' hsplit rfl
      cases hlast
      refine .inr ⟨⟨front, rest, rfl, hfront, fun other hmem => ?_⟩, ?_⟩
      · exact hrest other (List.mem_append_left _ hmem)
      · exact hrest last (by simp)
  · rintro (⟨rfl, hfront⟩ | ⟨⟨front, rest, rfl, hfront, hrest⟩, hlast⟩)
    · exact ⟨blocking, [], rfl, hfront, by simp⟩
    · refine ⟨front, rest ++ [last], by simp, hfront, fun other hmem => ?_⟩
      rcases List.mem_append.mp hmem with hmem | hmem
      · exact hrest other hmem
      · rw [List.mem_singleton.mp hmem]
        exact hlast

theorem KeptRow.longest {blocking : List LockRow} {row other : LockRow}
    (h : KeptRow blocking row) (hmem : other ∈ blocking)
    (hkey : lockKey other = lockKey row) : waited other ≤ waited row := by
  obtain ⟨front, rest, rfl, hfront, hrest⟩ := h
  rw [List.mem_append, List.mem_cons] at hmem
  rcases hmem with hmem | rfl | hmem
  · exact le_of_lt (hfront other hmem hkey)
  · exact le_refl _
  · exact hrest other hmem hkey

theorem KeptRow.mem {blocking : List LockRow} {row : LockRow}
    (h : KeptRow blocking row) : row ∈ blocking := by
  obtain ⟨front, rest, rfl, -, -⟩ := h
  simp

theorem uniqueBlocking_eq_some {blocking : List LockRow} {key : String}
    {row : LockRow} :
    (uniqueBlocking blocking).get? key = some row ↔
      KeptRow blocking row ∧ lockKey row = key := by
  induction blocking using List.reverseRecOn generalizing row with
  | nil =>
      refine iff_of_false (by simp [uniqueBlocking, Dict.get?, Dict.empty]) ?_
      rintro ⟨hkept, -⟩
      cases hkept.mem
  | append_singleton blocking last ih =>
      rw [uniqueBlocking_snoc, keptRow_snoc]
      by_cases hkey : lockKey last = key
      · rw [if_pos hkey]
        cases hget : (uniqueBlocking blocking).get? key with
        | none =>
            have hnew : ∀ other ∈ blocking, lockKey other ≠ key := by
              intro other hmem heq
              exact Dict.get?_eq_none_iff.mp hget
                (mem_keys_uniqueBlocking.mpr ⟨other, hmem, heq⟩)
            constructor
            · intro hlast
              cases hlast
              refine ⟨.inl ⟨rfl, fun other hmem hsame => ?_⟩, hkey⟩
              exact absurd (hsame.trans hkey) (hnew other hmem)
            · rintro ⟨⟨rfl, -⟩ | ⟨hkept, -⟩, hrow⟩
              · rfl
              · exact absurd hrow (hnew row hkept.mem)
        | some current =>
            obtain ⟨hcurrent, hcurrentKey⟩ := ih.mp hget
            have hsame : ∀ {row}, KeptRow blocking row → lockKey row = key →
                row = current := by
              intro row hkept hrow
              have hrow := ih.mpr ⟨hkept, hrow⟩
              rw [hget] at hrow
              exact (Option.some.inj hrow).symm
            dsimp only
            by_cases hlonger : waited last > waited current
            · rw [if_pos hlonger]
              constructor
              · intro hlast
                cases hlast
                refine ⟨.inl ⟨rfl, fun other hmem hother => ?_⟩, hkey⟩
                exact lt_of_le_of_lt (hcurrent.longest hmem
                  (hother.trans (hkey.trans hcurrentKey.symm))) hlonger
              · rintro ⟨⟨rfl, -⟩ | ⟨hkept, hle⟩, hrow⟩
                · rfl
                · have hlast := hle (hkey.trans hrow.symm)
                  rw [hsame hkept hrow] at hlast
                  omega
            · rw [if_neg hlonger]
              constructor
              · intro hrow
                cases hrow
                exact ⟨.inr ⟨hcurrent, fun _ => by omega⟩, hcurrentKey⟩
              · rintro ⟨⟨rfl, hall⟩ | ⟨hkept, -⟩, hrow⟩
                · have := hall current hcurrent.mem
                    (hcurrentKey.trans hkey.symm)
                  omega
                · rw [hsame hkept hrow]
      · rw [if_neg hkey, ih]
        constructor
        · rintro ⟨hkept, hrow⟩
          exact ⟨.inr ⟨hkept, fun hsame => absurd (hsame.trans hrow) hkey⟩, hrow⟩
        · rintro ⟨⟨rfl, -⟩ | ⟨hkept, -⟩, hrow⟩
          · exact absurd hrow hkey
          · exact ⟨hkept, hrow⟩

theorem waited_kept {blocking : List LockRow} {blockedPid blockingPid : Int}
    {row : LockRow} (h : KeptRow blocking row)
    (hkey : lockKey row = pairKey blockedPid blockingPid) :
    waited row = longestWait blocking blockedPid blockingPid := by
  have hmax : ((pairRows blocking blockedPid blockingPid).map waited).max? =
      some (waited row) := by
    rw [List.max?_eq_some_iff]
    refine ⟨List.mem_map_of_mem (mem_pairRows.mpr ⟨h.mem, hkey⟩), ?_⟩
    intro wait hwait
    obtain ⟨other, hother, rfl⟩ := List.mem_map.mp hwait
    obtain ⟨hmem, hpair⟩ := mem_pairRows.mp hother
    exact h.longest hmem (hpair.trans hkey.symm)
  rw [longestWait, hmax]
  rfl

/-! ## The incident after the snapshot -/

theorem findOpen?_showRow {instancePk threshold : Nat} {now : Time}
    {blockedPid blockingPid : Int} {row : LockRow} {pk : Nat}
    {alerts : List LockAlert} :
    (showRow instancePk threshold now blockedPid blockingPid row pk
        alerts).find? isOpen =
      some (markAlerted threshold now
        (match alerts.find? isOpen with
          | some found => seenAgain row now found
          | none => newLockAlert instancePk pk blockedPid blockingPid row now)) := by
  unfold showRow
  cases hfind : alerts.find? isOpen with
  | some found =>
      have hfound := List.find?_some hfind
      rw [if_pos (List.any_eq_true.mpr
        ⟨found, List.mem_of_find?_eq_some hfind, hfound⟩), List.find?_map]
      have hsame : (isOpen ∘ fun alert : LockAlert =>
          if isOpen alert then markAlerted threshold now (seenAgain row now alert)
          else alert) = isOpen := by
        funext alert
        dsimp only [Function.comp]
        split
        · rw [isOpen_markAlerted]
          rfl
        · rfl
      rw [hsame, hfind, Option.map_some, if_pos hfound]
  | none =>
      rw [if_neg (by simpa using hfind), List.find?_append, hfind,
        Option.none_or, List.find?_cons_of_pos]
      rw [isOpen_markAlerted]
      rfl

section Snapshot

variable {env : MonitorEnv} {inst : RDSInstance} {input : CycleInput}
  {blocking : List LockRow} {table table' : LockAlertTable}
  {blockedPid blockingPid : Int}

theorem snapshotTable_open
    (h : snapshotTable env inst input blocking table = .ok table')
    (hshows : Shows blocking blockedPid blockingPid) :
    ∃ row pk, KeptRow blocking row ∧
      lockKey row = pairKey blockedPid blockingPid ∧
      table'.findOpen? (inst.pk, pairKey blockedPid blockingPid) =
        some (markAlerted input.config.thresholdSeconds input.now
          (match table.findOpen? (inst.pk, pairKey blockedPid blockingPid) with
            | some found => seenAgain row input.now found
            | none => newLockAlert inst.pk pk blockedPid blockingPid row
                input.now)) := by
  obtain ⟨stored, hstored, rfl⟩ := snapshotTable_stored h
  have hseen := pairKey_mem_seenKeys.mpr hshows
  cases hget : (uniqueBlocking blocking).get?
      (pairKey blockedPid blockingPid) with
  | none => exact absurd hseen (Dict.get?_eq_none_iff.mp hget)
  | some row =>
      obtain ⟨hkept, hkey⟩ := uniqueBlocking_eq_some.mp hget
      have hentry := Dict.get?_eq_some_iff.mp hget
      have hnodup : ((uniqueBlocking blocking).values.map lockKey).Nodup := by
        rw [values_lockKey]
        exact Dict.keys_nodup _
      obtain ⟨pk, hhistory⟩ := upsertLockAlerts_history hstored hnodup
        (List.mem_map_of_mem (f := Prod.snd) hentry) hkey
      refine ⟨row, pk, hkept, hkey, ?_⟩
      rw [OpenTable.findOpen?_eq_find?_history,
        resolveStale_history_seen input.now hseen, hhistory, findOpen?_showRow,
        OpenTable.findOpen?_eq_find?_history]

end Snapshot

/-! ## Alerting once -/

def AlertedKept (table table' : LockAlertTable) : Prop :=
  ∀ alert ∈ table.rows, ∀ time, alert.alertedAt = some time →
    ∃ alert' ∈ table'.rows, alert'.pk = alert.pk ∧
      alert'.alertedAt = some time

theorem AlertedKept.refl (table : LockAlertTable) : AlertedKept table table :=
  fun alert hmem _ htime => ⟨alert, hmem, rfl, htime⟩

theorem AlertedKept.trans {table table' table'' : LockAlertTable}
    (first : AlertedKept table table') (second : AlertedKept table' table'') :
    AlertedKept table table'' := by
  intro alert hmem time htime
  obtain ⟨alert', hmem', hpk, htime'⟩ := first alert hmem time htime
  obtain ⟨alert'', hmem'', hpk', htime''⟩ := second alert' hmem' time htime'
  exact ⟨alert'', hmem'', hpk'.trans hpk, htime''⟩

theorem alertedKept_update (table : LockAlertTable)
    {change : LockAlert → LockAlert} (h : Keeps change)
    (hsame : ∀ alert time, alert.alertedAt = some time →
      (change alert).alertedAt = some time) :
    AlertedKept table (table.update change h) :=
  fun alert hmem time htime =>
    ⟨change alert, List.mem_map_of_mem hmem, h.pk alert, hsame alert time htime⟩

theorem alertedKept_storeLockRow (instancePk threshold : Nat) (now : Time)
    (table : LockAlertTable) (blockedPid blockingPid : Int) (row : LockRow) :
    AlertedKept table (storeLockRow instancePk threshold now table blockedPid
      blockingPid row) := by
  unfold storeLockRow
  split
  · intro alert hmem time htime
    exact ⟨alert, List.mem_append_left _ hmem, rfl, htime⟩
  · apply alertedKept_update
    intro alert time htime
    split
    · rw [alertedAt_markAlerted]
      simp [seenAgain, htime]
    · exact htime

theorem alertedKept_cycle (env : MonitorEnv) (inst : RDSInstance)
    (input : CycleInput) (s : MonitorState) :
    AlertedKept s.lockAlerts (cycle env inst s input).lockAlerts := by
  refine cycle_preserves ?_ ?_ (.refl s.lockAlerts)
  · intro table blockedPid blockingPid row hkept
    exact hkept.trans (alertedKept_storeLockRow _ _ _ _ _ _ _)
  · intro table seenKeys hkept
    refine hkept.trans (alertedKept_update _ _ ?_)
    intro alert time htime
    split <;> exact htime

def AnyCycle (env : MonitorEnv) (s : MonitorState)
    (input : RDSInstance × CycleInput) (s' : MonitorState) : Prop :=
  CycleStep env input.1 s input.2 s'

theorem alertedKept_run {env : MonitorEnv}
    {inputs : List (RDSInstance × CycleInput)} {s s' : MonitorState}
    (run : Run (AnyCycle env) s inputs s') :
    AlertedKept s.lockAlerts s'.lockAlerts := by
  induction run with
  | refl => exact .refl _
  | snoc _ hstep ih =>
      rw [← hstep]
      exact ih.trans (alertedKept_cycle _ _ _ _)

/-! ## What the incident of a pair records -/

/-- `before` is the open incident of the pair before the cycle. -/
structure RecordsWait (blocking : List LockRow) (input : CycleInput)
    (blockedPid blockingPid : Int) (before : Option LockAlert)
    (alert : LockAlert) : Prop where
  measured : before = none ∨
      longestWait blocking blockedPid blockingPid ≠ 0 →
    alert.waitingSeconds = max 0 (longestWait blocking blockedPid blockingPid)
  unmeasured : (∀ row ∈ pairRows blocking blockedPid blockingPid,
      row.waitingSeconds = none) →
    ∀ found, before = some found →
      alert.waitingSeconds = max 0 found.waitingSeconds
  alerted : alert.alertedAt = (before.bind LockAlert.alertedAt).or
    (if alert.waitingSeconds ≥ input.config.thresholdSeconds then
      some input.now
    else none)

theorem recordsWait_snapshot {env : MonitorEnv} {inst : RDSInstance}
    {input : CycleInput} {blocking : List LockRow}
    {table table' : LockAlertTable} {blockedPid blockingPid : Int}
    (h : snapshotTable env inst input blocking table = .ok table')
    (hshows : Shows blocking blockedPid blockingPid) :
    ∃ alert, table'.findOpen? (inst.pk, pairKey blockedPid blockingPid) =
        some alert ∧
      RecordsWait blocking input blockedPid blockingPid
        (table.findOpen? (inst.pk, pairKey blockedPid blockingPid)) alert := by
  obtain ⟨row, pk, hkept, hkey, hopen⟩ := snapshotTable_open h hshows
  have hrow := mem_pairRows.mpr ⟨hkept.mem, hkey⟩
  have hwaited := waited_kept hkept hkey
  refine ⟨_, hopen, ?_, ?_, ?_⟩
  · intro hmeasured
    rw [waitingSeconds_markAlerted, ← hwaited]
    rw [← hwaited] at hmeasured
    cases hfind : table.findOpen? (inst.pk, pairKey blockedPid blockingPid) with
    | none => rfl
    | some found =>
        have hne : waited row ≠ 0 := by simpa [hfind] using hmeasured
        exact congrArg (max 0) (intOr_of_ne_zero hne found.waitingSeconds)
  · intro hmissing found hfound
    rw [waitingSeconds_markAlerted, hfound]
    change max 0 (intOr row.waitingSeconds found.waitingSeconds) = _
    rw [hmissing row hrow]
    rfl
  · rw [alertedAt_markAlerted, waitingSeconds_markAlerted]
    cases table.findOpen? (inst.pk, pairKey blockedPid blockingPid) <;> rfl

theorem snapshot_records_wait {env : MonitorEnv} {inst : RDSInstance}
    {inputs : List (RDSInstance × CycleInput)} {start s : MonitorState}
    {input : CycleInput} {blocking : List LockRow}
    (run : Run (AnyCycle env) start inputs s)
    (hsnapshot : input.snapshot env inst = some blocking) :
    (∀ blockedPid blockingPid, Shows blocking blockedPid blockingPid →
      ∃ alert, (cycle env inst s input).lockAlerts.findOpen?
          (inst.pk, pairKey blockedPid blockingPid) = some alert ∧
        RecordsWait blocking input blockedPid blockingPid
          (s.lockAlerts.findOpen? (inst.pk, pairKey blockedPid blockingPid))
          alert) ∧
      AlertedKept start.lockAlerts (cycle env inst s input).lockAlerts := by
  have hcycle := cycle_lockAlerts env inst input s
  rw [hsnapshot] at hcycle
  exact ⟨fun _ _ hshows => recordsWait_snapshot hcycle hshows,
    (alertedKept_run run).trans (alertedKept_cycle _ _ _ _)⟩

/-! ## A pair whose wait is missing -/

def waitingPair (waitingSeconds : Option Int) : LockRow :=
  ⟨some 1, some 2, none, none, none, none, waitingSeconds⟩

def afterWait : MonitorState :=
  cycle sampleEnv (sampleInstance .postgresql) .empty
    (sampleCycle 0 [waitingPair (some 300)])

/-- The second snapshot has no wait, and the stored one stays. -/
theorem missing_wait_keeps_stored :
    longestWait [waitingPair none] 1 2 = 0 ∧
      ∃ alert, (cycle sampleEnv (sampleInstance .postgresql) afterWait
          (sampleCycle 60 [waitingPair none])).lockAlerts.findOpen?
            (1, pairKey 1 2) = some alert ∧
        alert.waitingSeconds = 300 :=
  ⟨rfl, _, rfl, rfl⟩

theorem snapshot_records_wait_again :
    (∀ blockedPid blockingPid,
      Shows [waitingPair (some 420)] blockedPid blockingPid →
        ∃ alert, (cycle sampleEnv (sampleInstance .postgresql) afterWait
            (sampleCycle 60 [waitingPair (some 420)])).lockAlerts.findOpen?
              (1, pairKey blockedPid blockingPid) = some alert ∧
          RecordsWait [waitingPair (some 420)]
            (sampleCycle 60 [waitingPair (some 420)]) blockedPid blockingPid
            (afterWait.lockAlerts.findOpen?
              (1, pairKey blockedPid blockingPid)) alert) ∧
      AlertedKept MonitorState.empty.lockAlerts
        (cycle sampleEnv (sampleInstance .postgresql) afterWait
          (sampleCycle 60 [waitingPair (some 420)])).lockAlerts := by
  have run : Run (AnyCycle sampleEnv) .empty
      [(sampleInstance .postgresql, sampleCycle 0 [waitingPair (some 300)])]
      afterWait := .single rfl
  exact snapshot_records_wait run rfl

end HealthGrid.Monitor
