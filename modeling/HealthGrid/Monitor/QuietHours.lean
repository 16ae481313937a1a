import HealthGrid.Monitor.IncidentHistory

/-!
# Storms and clears across the notification window

Runs of completed cycles of one instance, with what each cycle saw and sent.
A cycle outside the window ends before the storm flag is looked at, and
replaces the stored keys without telling the channel.
-/

namespace HealthGrid.Monitor

open HealthGrid.Foundation HealthGrid.Foundation.PyText HealthGrid.Db

/-! ## Watched runs -/

structure CycleRecord where
  windowOpen : Bool
  eligible : List LockAlert
  active : List LockAlert
  cards : List Attempt

structure Watch where
  state : MonitorState
  history : List CycleRecord

def Watch.cards (w : Watch) : List Attempt :=
  w.history.flatMap CycleRecord.cards

def Watch.texts (w : Watch) : List String :=
  w.history.flatMap fun record =>
    [summaryText record.eligible, summaryText record.active]

def cycleRecord (env : MonitorEnv) (inst : RDSInstance) (s : MonitorState)
    (input : CycleInput) : CycleRecord where
  windowOpen := lockNotificationsOpen input.config input.now
  eligible := eligibleAlerts inst.pk (cycle env inst s input).lockAlerts
  active := activeAlerts inst.pk (cycle env inst s input).lockAlerts
  cards := (cycleCards env inst s input).map Prod.snd

def Watch.Step (env : MonitorEnv) (inst : RDSInstance) (w : Watch)
    (input : CycleInput) (w' : Watch) : Prop :=
  (processInstance env inst input w.state).1 = .ok () ∧
    w' = ⟨cycle env inst w.state input,
      w.history ++ [cycleRecord env inst w.state input]⟩

def watchCycles (env : MonitorEnv) (inst : RDSInstance) (w : Watch)
    (inputs : List CycleInput) : Watch :=
  inputs.foldl
    (fun w input => ⟨cycle env inst w.state input,
      w.history ++ [cycleRecord env inst w.state input]⟩) w

def scheduledCycle (stormThreshold : Nat) (now : Time)
    (blocking : List LockRow) : CycleInput :=
  { sampleCycle now blocking with
    config := { NotificationSettings.defaults with
      notificationScheduleEnabled := true
      lockStormThreshold := stormThreshold } }

def samplePair : LockRow := ⟨some 1, some 2, none, none, none, none, some 300⟩

/-! ## Pairs a stored snapshot shows -/

section Shown

variable {env : MonitorEnv} {inst : RDSInstance} {input : CycleInput}
  {blocking : List LockRow} {table table' : LockAlertTable}

theorem value_pair (h : snapshotTable env inst input blocking table =
      .ok table') {row : LockRow}
    (hmem : row ∈ (uniqueBlocking blocking).values) :
    ∃ blockedPid blockingPid,
      lockKey row = pairKey blockedPid blockingPid := by
  obtain ⟨stored, hstored, -⟩ := snapshotTable_stored h
  obtain ⟨hblocked, hblocking, -⟩ :=
    upsertLockAlerts_storable.mp ⟨stored, hstored⟩ row hmem
  obtain ⟨blockedPid, hblocked⟩ := Option.isSome_iff_exists.mp hblocked
  obtain ⟨blockingPid, hblocking⟩ := Option.isSome_iff_exists.mp hblocking
  exact ⟨blockedPid, blockingPid, lockKey_eq_pairKey.mpr ⟨hblocked, hblocking⟩⟩

theorem mem_active_of_value
    (h : snapshotTable env inst input blocking table = .ok table')
    {row : LockRow} (hmem : row ∈ (uniqueBlocking blocking).values) :
    ∃ alert ∈ activeAlerts inst.pk table', alert.alertKey = lockKey row := by
  obtain ⟨blockedPid, blockingPid, hkey⟩ := value_pair h hmem
  have hshows : Shows blocking blockedPid blockingPid := by
    rw [← pairKey_mem_seenKeys, ← hkey, ← values_lockKey]
    exact List.mem_map_of_mem hmem
  have hsightings := snapshotTable_sightings blockedPid blockingPid h
  have hopen := any_open_sightings
    (table'.history (inst.pk, pairKey blockedPid blockingPid))
  rw [hsightings, any_open_observe, decide_eq_true hshows] at hopen
  obtain ⟨alert, halert, hisOpen⟩ := List.any_eq_true.mp hopen.symm
  obtain ⟨hrow, hpair⟩ := OpenTable.mem_history.mp halert
  obtain ⟨hinstance, halertKey⟩ := Prod.mk.inj hpair
  refine ⟨alert, mem_activeAlerts.mpr ⟨hrow, hinstance, ?_⟩, ?_⟩
  · exact Option.isNone_iff_eq_none.mp hisOpen
  · rw [hkey]
    exact halertKey

theorem active_of_value
    (h : snapshotTable env inst input blocking table = .ok table')
    {row : LockRow} (hmem : row ∈ (uniqueBlocking blocking).values) :
    activeAlerts inst.pk table' ≠ [] := by
  obtain ⟨alert, halert, -⟩ := mem_active_of_value h hmem
  exact List.ne_nil_of_mem halert

theorem length_keys_le_active
    (h : snapshotTable env inst input blocking table = .ok table') :
    (uniqueBlocking blocking).keys.length ≤
      (activeAlerts inst.pk table').length := by
  rw [← List.length_map LockAlert.alertKey]
  apply List.Subperm.length_le
  apply List.subperm_of_subset (Dict.keys_nodup _)
  intro key hkey
  rw [← values_lockKey, List.mem_map] at hkey
  obtain ⟨row, hrow, rfl⟩ := hkey
  obtain ⟨alert, halert, hsame⟩ := mem_active_of_value h hrow
  exact List.mem_map.mpr ⟨alert, halert, hsame⟩

theorem values_ne_nil (h : blocking ≠ []) :
    ∃ row, row ∈ (uniqueBlocking blocking).values := by
  obtain ⟨row, hrow⟩ := List.exists_mem_of_ne_nil blocking h
  have hkey := mem_keys_uniqueBlocking.mpr ⟨row, hrow, rfl⟩
  rw [← values_lockKey, List.mem_map] at hkey
  obtain ⟨value, hvalue, -⟩ := hkey
  exact ⟨value, hvalue⟩

def WillBeEligible (instancePk threshold : Nat) (table : LockAlertTable)
    (row : LockRow) : Prop :=
  let current := table.findOpen? (instancePk, lockKey row)
  current.any (fun alert => alert.alertedAt.isSome) = true ∨
    max 0 (intOr row.waitingSeconds (current.elim 0 LockAlert.waitingSeconds)) ≥
      threshold

instance (instancePk threshold : Nat) (table : LockAlertTable) :
    DecidablePred (WillBeEligible instancePk threshold table) :=
  fun _ => inferInstanceAs (Decidable (_ ∨ _))

theorem markAlerted_alerted {threshold : Nat} {now : Time}
    {alert : LockAlert}
    (h : alert.alertedAt ≠ none ∨ alert.waitingSeconds ≥ threshold) :
    (markAlerted threshold now alert).alertedAt ≠ none := by
  rw [alertedAt_markAlerted]
  rcases h with halerted | hwait
  · simp [halerted]
  · simp [hwait]

theorem eligible_of_value
    (h : snapshotTable env inst input blocking table = .ok table')
    {row : LockRow} (hmem : row ∈ (uniqueBlocking blocking).values)
    (hwill : WillBeEligible inst.pk input.config.thresholdSeconds table row) :
    eligibleAlerts inst.pk table' ≠ [] := by
  obtain ⟨blockedPid, blockingPid, hkey⟩ := value_pair h hmem
  obtain ⟨stored, hstored, rfl⟩ := snapshotTable_stored h
  have hnodup : ((uniqueBlocking blocking).values.map lockKey).Nodup := by
    rw [values_lockKey]
    exact Dict.keys_nodup _
  have hseen : pairKey blockedPid blockingPid ∈
      (uniqueBlocking blocking).keys := by
    rw [← hkey, ← values_lockKey]
    exact List.mem_map_of_mem hmem
  obtain ⟨pk, hhistory⟩ := upsertLockAlerts_history hstored hnodup hmem hkey
  rw [← resolveStale_history_seen input.now hseen] at hhistory
  unfold WillBeEligible at hwill
  dsimp only at hwill
  rw [hkey] at hwill
  suffices heligible : ∃ alert ∈ showRow inst.pk
      input.config.thresholdSeconds input.now blockedPid blockingPid row pk
      (table.history (inst.pk, pairKey blockedPid blockingPid)),
      isOpen alert = true ∧ alert.alertedAt ≠ none by
    obtain ⟨alert, halert, hopen, halerted⟩ := heligible
    rw [← hhistory] at halert
    obtain ⟨hrow, hpair⟩ := OpenTable.mem_history.mp halert
    refine List.ne_nil_of_mem (mem_eligibleAlerts.mpr ⟨?_, halerted⟩)
    exact mem_activeAlerts.mpr ⟨hrow, (Prod.mk.inj hpair).1,
      Option.isNone_iff_eq_none.mp hopen⟩
  unfold showRow
  rw [OpenTable.any_open_history]
  cases hfind : table.findOpen?
      (inst.pk, pairKey blockedPid blockingPid) with
  | none =>
      rw [hfind] at hwill
      refine ⟨_, List.mem_append_right _ (List.mem_singleton_self _), ?_, ?_⟩
      · rw [isOpen_markAlerted]
        rfl
      · simp only [Option.any_none, Bool.false_eq_true, Option.elim_none,
          false_or] at hwill
        exact markAlerted_alerted (.inr hwill)
  | some found =>
      rw [hfind] at hwill
      obtain ⟨hfound, hopen, hpair⟩ := OpenTable.findOpen?_spec hfind
      have hold := OpenTable.mem_history.mpr ⟨hfound, hpair⟩
      refine ⟨_, List.mem_map_of_mem hold, ?_, ?_⟩
      · rw [if_pos hopen]
        rw [isOpen_markAlerted]
        exact hopen
      · rw [if_pos hopen]
        rw [Option.any_some, ← Option.ne_none_iff_isSome] at hwill
        exact markAlerted_alerted hwill

end Shown

/-! ## The storm flag -/

section Storm

variable {sha256 : String → String} {config : NotificationSettings}
  {now : Time} {summary : LockSummary} {deliver : Card → Bool}
  {state : LockNotificationState}

def IsStormCard (attempt : Attempt) : Prop :=
  attempt.1.event = .storm ∧ attempt.2 = true

theorem ordinary_stormActive :
    (sendOrdinarySummary sha256 now summary deliver state).1.stormActive =
      state.stormActive := by
  unfold sendOrdinarySummary
  dsimp only
  split
  · rfl
  · split
    · rfl
    · split <;> rfl

theorem ordinary_not_storm :
    ¬ ∃ attempt ∈ (sendOrdinarySummary sha256 now summary deliver
      state).2.toList, IsStormCard attempt := by
  rintro ⟨attempt, hmem, hstorm⟩
  rw [Option.mem_toList] at hmem
  have hevent := hstorm.1
  rw [(ordinary_attempt hmem).1] at hevent
  exact ordinaryCard_event hevent

theorem storm_stormActive (h : state.stormActive = false) :
    (sendStormSummary sha256 now summary deliver state).1.stormActive =
        true ↔
      ∃ attempt ∈ (sendStormSummary sha256 now summary deliver
        state).2.toList, IsStormCard attempt := by
  unfold sendStormSummary
  dsimp only
  split
  · exact iff_of_true rfl ⟨_, List.mem_singleton_self _, rfl, rfl⟩
  · refine iff_of_false (by simp [h]) ?_
    rintro ⟨attempt, hmem, hstorm⟩
    cases List.mem_singleton.mp hmem
    cases hstorm.2

theorem transaction_stormActive :
    (lockSummaryTransaction sha256 config now summary deliver
        state).1.stormActive = true ↔
      (∃ attempt ∈ (lockSummaryTransaction sha256 config now summary deliver
          state).2.toList, IsStormCard attempt) ∨
        (state.stormActive = true ∧
          (lockNotificationsOpen config now = false ∨
            summary.active ≠ [])) := by
  rcases lockSummaryTransaction_cases sha256 config now summary deliver
    state with ⟨hclosed, hrun⟩ | ⟨-, hactive, hstate, hrun⟩ |
      ⟨-, -, hstate, -, hrun⟩ | ⟨hopen, hquiet, hrun⟩
  · simp [hrun, hclosed]
  · simp [hrun, hactive, hstate]
  · rw [hrun, storm_stormActive hstate]
    simp [hstate]
  · rw [hrun, ordinary_stormActive]
    refine iff_of_false Bool.false_ne_true ?_
    rintro (hstorm | ⟨hstate, hwindow | hactive⟩)
    · exact ordinary_not_storm hstorm
    · rw [hopen] at hwindow
      cases hwindow
    · rcases hquiet with hnone | ⟨hnot, -⟩
      · exact hactive hnone
      · rw [hstate] at hnot
        cases hnot

theorem ordinary_silent_iff (cleared : List LockAlert) :
    (sendOrdinarySummary sha256 now summary deliver state).2 = none ↔
      (sendOrdinarySummary sha256 now { summary with cleared := cleared } deliver
        state).2 = none := by
  rw [← not_iff_not, ← ne_eq, ← ne_eq, Option.ne_none_iff_exists',
    Option.ne_none_iff_exists', ordinary_attempt_iff, ordinary_attempt_iff]

theorem transaction_withheld {cleared : List LockAlert}
    (hsilent : (lockSummaryTransaction sha256 config now summary deliver
      state).2 = none)
    (hsent : (lockSummaryTransaction sha256 config now
      { summary with cleared := cleared } deliver
      { state with stormActive := false }).2 ≠ none) :
    lockNotificationsOpen config now = true ∧
      (lockSummaryTransaction sha256 config now summary deliver
        state).1.stormActive = true := by
  rcases lockSummaryTransaction_cases sha256 config now summary deliver
    state with ⟨hclosed, -⟩ | ⟨hopen, -, hstate, hrun⟩ |
      ⟨-, -, -, -, hrun⟩ | ⟨hopen, hcalm, hrun⟩
  · refine absurd ?_ hsent
    unfold lockSummaryTransaction
    rw [hclosed]
    rfl
  · rw [hrun]
    exact ⟨hopen, hstate⟩
  · rw [hrun] at hsilent
    unfold sendStormSummary at hsilent
    dsimp only at hsilent
    split at hsilent <;> cases hsilent
  · rw [hrun] at hsilent
    refine absurd ?_ hsent
    rcases lockSummaryTransaction_cases sha256 config now
      { summary with cleared := cleared } deliver
      { state with stormActive := false } with ⟨hclosed, -⟩ | ⟨-, -, hset, -⟩ |
        ⟨-, hne, -, hstorm, -⟩ | ⟨-, -, hrun'⟩
    · rw [hopen] at hclosed
      cases hclosed
    · cases hset
    · rcases hcalm with hnone | ⟨-, hnot⟩
      · exact absurd hnone hne
      · exact absurd hstorm hnot
    · rw [hrun']
      exact (ordinary_silent_iff cleared).mp hsilent

end Storm

def StormGoingOn (history : List CycleRecord) : Prop :=
  Since (fun record => ∃ attempt ∈ record.cards, IsStormCard attempt)
    (fun record => record.active ≠ []) history

def StormSeen (inst : RDSInstance) (w : Watch) (input : CycleInput) : Prop :=
  lockNotificationsOpen input.config input.now = true ∨
    (w.state.notificationState inst.pk).stormActive = false ∨
    ∀ activity blocking, input.fetch inst = .ok (activity, blocking) →
      blocking ≠ []

theorem stormActive_step {env : MonitorEnv} {inst : RDSInstance}
    {input : CycleInput} {w w' : Watch}
    (hw : (w.state.notificationState inst.pk).stormActive = true ↔
      StormGoingOn w.history)
    (hseen : StormSeen inst w input) (hstep : Watch.Step env inst w input w') :
    (w'.state.notificationState inst.pk).stormActive = true ↔
      StormGoingOn w'.history := by
  obtain ⟨hcompleted, rfl⟩ := hstep
  obtain ⟨activity, blocking, cleared, hfetch, htable, hresult⟩ :=
    completed_cycle hcompleted
  obtain ⟨hstate, hcards⟩ := Prod.mk.inj hresult
  unfold StormGoingOn
  rw [since_snoc, ← StormGoingOn, ← hw]
  dsimp only
  rw [hstate, transaction_stormActive]
  unfold cycleRecord
  dsimp only
  rw [hcards]
  refine or_congr Iff.rfl (and_congr_right ?_)
  intro hactive
  constructor
  · rintro (hclosed | hne)
    · rcases hseen with hopen | hquiet | hshown
      · rw [hclosed] at hopen
        cases hopen
      · rw [hactive] at hquiet
        cases hquiet
      · obtain ⟨row, hrow⟩ := values_ne_nil (hshown activity blocking hfetch)
        exact active_of_value htable hrow
    · exact hne
  · exact .inr

theorem stormActive_run {env : MonitorEnv} {inst : RDSInstance}
    {inputs : List CycleInput} {start : MonitorState} {w : Watch}
    (hrun : Run (Guarded (StormSeen inst) (Watch.Step env inst)) ⟨start, []⟩
      inputs w)
    (hstart : (start.notificationState inst.pk).stormActive = false) :
    (w.state.notificationState inst.pk).stormActive = true ↔
      StormGoingOn w.history := by
  induction hrun with
  | refl =>
      refine iff_of_false ?_ not_since_nil
      dsimp only
      rw [hstart]
      exact Bool.false_ne_true
  | snoc _ hstep ih => exact stormActive_step ih hstep.1 hstep.2

/-- The cycle sends no card, and would have sent one without the flag. -/
def Withheld (env : MonitorEnv) (inst : RDSInstance) (w : Watch)
    (input : CycleInput) : Prop :=
  cycleCards env inst w.state input = [] ∧
    ∃ cleared, ((cycleSummary inst cleared
      (cycle env inst w.state input).lockAlerts).result env input
        { w.state.notificationState inst.pk with stormActive := false }).2 ≠ []

theorem withheld_stormActive {env : MonitorEnv} {inst : RDSInstance}
    {input : CycleInput} {w w' : Watch} (hstep : Watch.Step env inst w input w')
    (h : Withheld env inst w input) :
    lockNotificationsOpen input.config input.now = true ∧
      (w'.state.notificationState inst.pk).stormActive = true := by
  obtain ⟨hcompleted, rfl⟩ := hstep
  obtain ⟨activity, blocking, cleared, -, -, hresult⟩ :=
    completed_cycle hcompleted
  obtain ⟨hsilent, cleared', hsent⟩ := h
  rw [hsilent] at hresult
  obtain ⟨hstate, hcards⟩ := Prod.mk.inj hresult
  dsimp only
  rw [hstate]
  unfold LockSummary.result at hsent
  rw [ne_eq, Option.toList_eq_nil_iff] at hsent
  exact transaction_withheld (Option.toList_eq_nil_iff.mp hcards.symm) hsent

/-- In runs whose quiet cycles see the storm, the flag says what it should, and
a card is withheld for it only while the storm goes on. -/
theorem stormActive_iff {env : MonitorEnv} {inst : RDSInstance}
    {inputs : List CycleInput} {start : MonitorState} {w : Watch}
    (hrun : Run (Guarded (StormSeen inst) (Watch.Step env inst)) ⟨start, []⟩
      inputs w)
    (hstart : (start.notificationState inst.pk).stormActive = false) :
    ((w.state.notificationState inst.pk).stormActive = true ↔
      StormGoingOn w.history) ∧
    ∀ input w', Watch.Step env inst w input w' → Withheld env inst w input →
      StormGoingOn w'.history := by
  have hflag := stormActive_run hrun hstart
  refine ⟨hflag, fun input w' hstep hwithheld => ?_⟩
  obtain ⟨hopen, hactive⟩ := withheld_stormActive hstep hwithheld
  exact (stormActive_step hflag (.inl hopen) hstep).mp hactive

theorem storm_outlives_its_locks :
    let inst := sampleInstance .postgresql
    let inputs := [scheduledCycle 1 (6 * hour) [samplePair],
      scheduledCycle 1 (18 * hour) []]
    let w := watchCycles sampleEnv inst ⟨.empty, []⟩ inputs
    Run (Watch.Step sampleEnv inst) ⟨.empty, []⟩ inputs w ∧
      ¬ ((w.state.notificationState inst.pk).stormActive = true ↔
        StormGoingOn w.history) := by
  intro inst inputs w
  refine ⟨.snoc (.single ⟨rfl, rfl⟩) ⟨rfl, rfl⟩, ?_⟩
  have hflag : (w.state.notificationState inst.pk).stormActive = true := by
    decide
  have hgone : (cycleRecord sampleEnv inst
      (cycle sampleEnv inst .empty (scheduledCycle 1 (6 * hour) [samplePair]))
      (scheduledCycle 1 (18 * hour) [])).active = [] := by decide
  have hquiet : (cycleRecord sampleEnv inst
      (cycle sampleEnv inst .empty (scheduledCycle 1 (6 * hour) [samplePair]))
      (scheduledCycle 1 (18 * hour) [])).cards = [] := by decide
  intro hiff
  rcases since_snoc.mp (hiff.mp hflag) with ⟨attempt, hmem, -⟩ | ⟨-, hactive⟩
  · rw [hquiet] at hmem
    cases hmem
  · exact hactive hgone

theorem stormActive_iff_overnight :
    let inst := sampleInstance .postgresql
    let w := watchCycles sampleEnv inst ⟨.empty, []⟩
      [scheduledCycle 1 (6 * hour) [samplePair],
        scheduledCycle 1 (18 * hour) [samplePair]]
    let w' := watchCycles sampleEnv inst w
      [scheduledCycle 1 (30 * hour) [samplePair]]
    ((w.state.notificationState inst.pk).stormActive = true ↔
      StormGoingOn w.history) ∧ StormGoingOn w'.history := by
  intro inst w w'
  have hrun : Run (Guarded (StormSeen inst) (Watch.Step sampleEnv inst))
      ⟨.empty, []⟩ [scheduledCycle 1 (6 * hour) [samplePair],
        scheduledCycle 1 (18 * hour) [samplePair]] w := by
    refine .snoc (.single ⟨.inl rfl, rfl, rfl⟩) ⟨.inr (.inr ?_), rfl, rfl⟩
    intro activity blocking hfetch
    cases hfetch
    exact List.cons_ne_nil _ _
  have hstorm := stormActive_iff hrun rfl
  exact ⟨hstorm.1, hstorm.2 (scheduledCycle 1 (30 * hour) [samplePair]) w'
    ⟨rfl, rfl⟩ ⟨by decide, [], by decide⟩⟩

/-! ## Clears -/

def ClearedOrSilent (cards : List Attempt) : Prop :=
  ∀ card, lastDelivered cards = some card → card.event = .cleared

theorem clearedOrSilent_delivered {cards : List Attempt} {card : Card}
    (h : card.event = .cleared) : ClearedOrSilent (cards ++ [(card, true)]) := by
  intro last hlast
  rw [lastDelivered_delivered] at hlast
  cases hlast
  exact h

/-- The stored keys are not empty while the channel believes in locks. -/
structure Announced (sha256 : String → String) (texts : List String)
    (state : LockNotificationState) (cards : List Attempt) : Prop where
  keys : state.lastActiveKeys = [] → ClearedOrSilent cards
  fingerprint : state.lastFingerprint = "" ∨
    ∃ alerts, summaryText alerts ∈ texts ∧
      state.lastFingerprint = summaryFingerprint sha256 alerts ∧
      state.lastActiveKeys = alertKeys alerts

section Announce

variable {sha256 : String → String} {texts : List String} {now : Time}
  {config : NotificationSettings} {summary : LockSummary}
  {deliver : Card → Bool} {state : LockNotificationState}
  {cards : List Attempt}

theorem Announced.mono {texts' : List String}
    (h : Announced sha256 texts state cards) (hsub : texts ⊆ texts') :
    Announced sha256 texts' state cards := by
  refine ⟨h.keys, ?_⟩
  rcases h.fingerprint with hblank | ⟨alerts, hmem, heq⟩
  · exact .inl hblank
  · exact .inr ⟨alerts, hsub hmem, heq⟩

theorem announced_ordinary (h : Announced sha256 texts state cards)
    (hdeliver : ∀ card, deliver card = true)
    (htext : summaryText summary.eligible ∈ texts) :
    Announced sha256 texts
      (sendOrdinarySummary sha256 now summary deliver state).1
      (cards ++ (sendOrdinarySummary sha256 now summary deliver
        state).2.toList) := by
  unfold sendOrdinarySummary
  dsimp only
  split
  · simpa using h
  · split
    · rename_i hempty
      refine ⟨fun _ => ?_, .inr ⟨summary.eligible, htext, rfl, ?_⟩⟩
      · simpa using h.keys (sorted_eq_nil.mp hempty.1)
      · exact hempty.2.symm
    · rename_i hkeys
      rw [if_pos (hdeliver _)]
      refine ⟨?_, .inr ⟨summary.eligible, htext, rfl, rfl⟩⟩
      intro hnil
      refine clearedOrSilent_delivered ?_
      have hnone : summary.eligible = [] := alertKeys_eq_nil.mp hnil
      have hprevious : sorted state.lastActiveKeys ≠ [] :=
        fun heq => hkeys ⟨heq, hnil⟩
      rw [(ordinaryCard_describes hkeys).event, if_neg hprevious,
        if_pos hnone]

theorem announced_storm (hdeliver : ∀ card, deliver card = true)
    (hactive : summary.active ≠ [])
    (htext : summaryText summary.active ∈ texts) :
    Announced sha256 texts
      (sendStormSummary sha256 now summary deliver state).1
      (cards ++ (sendStormSummary sha256 now summary deliver
        state).2.toList) := by
  unfold sendStormSummary
  dsimp only
  rw [if_pos (hdeliver _)]
  refine ⟨?_, .inr ⟨summary.active, htext, rfl, rfl⟩⟩
  intro hnil
  exact absurd (alertKeys_eq_nil.mp hnil) hactive

theorem cleared_of_ordinary (h : Announced sha256 texts state cards)
    (hdeliver : ∀ card, deliver card = true) (hdigest : sha256 "" ≠ "")
    (hcollision : NoCollision sha256 ("" :: texts))
    (hnone : summary.eligible = []) :
    ClearedOrSilent (cards ++ (sendOrdinarySummary sha256 now summary deliver
      state).2.toList) := by
  have hkeys : alertKeys summary.eligible = [] := alertKeys_eq_nil.mpr hnone
  have hfingerprint : summaryFingerprint sha256 summary.eligible =
      sha256 "" := by
    rw [hnone]
    rfl
  unfold sendOrdinarySummary
  dsimp only
  split
  · rename_i hsame
    rw [hfingerprint] at hsame
    have hnil : state.lastActiveKeys = [] := by
      rcases h.fingerprint with hblank | ⟨alerts, hmem, hstored, hstoredKeys⟩
      · exact absurd (hsame.trans hblank) hdigest
      · have htext : summaryText [] = summaryText alerts :=
          hcollision _ (List.mem_cons_self ..) _ (List.mem_cons_of_mem _ hmem)
            (hsame.trans hstored)
        rw [hstoredKeys, ← summaryText_inj htext]
        rfl
    simpa using h.keys hnil
  · split
    · rename_i hempty
      simpa using h.keys (sorted_eq_nil.mp hempty.1)
    · rename_i hsome
      rw [if_pos (hdeliver _)]
      refine clearedOrSilent_delivered ?_
      have hprevious : sorted state.lastActiveKeys ≠ [] :=
        fun heq => hsome ⟨heq, hkeys⟩
      rw [(ordinaryCard_describes hsome).event, if_neg hprevious,
        if_pos hnone]

theorem announced_transaction (h : Announced sha256 texts state cards)
    (hdeliver : ∀ card, deliver card = true)
    (hquiet : lockNotificationsOpen config now = true ∨
      ClearedOrSilent cards ∨ summary.eligible ≠ [])
    (heligible : summaryText summary.eligible ∈ texts)
    (hactive : summaryText summary.active ∈ texts) :
    Announced sha256 texts
      (lockSummaryTransaction sha256 config now summary deliver state).1
      (cards ++ (lockSummaryTransaction sha256 config now summary deliver
        state).2.toList) := by
  have hreset : Announced sha256 texts
      { state with stormActive := false } cards := ⟨h.keys, h.fingerprint⟩
  rcases lockSummaryTransaction_cases sha256 config now summary deliver
    state with ⟨hclosed, hrun⟩ | ⟨-, -, -, hrun⟩ | ⟨-, hsome, -, -, hrun⟩ |
      ⟨-, -, hrun⟩
  · rw [hrun]
    refine ⟨?_, .inl rfl⟩
    intro hnil
    rcases hquiet with hwindow | hsilent | hsome
    · rw [hclosed] at hwindow
      cases hwindow
    · simpa using hsilent
    · exact absurd (alertKeys_eq_nil.mp hnil) hsome
  · rw [hrun]
    simpa using h
  · rw [hrun]
    exact announced_storm hdeliver hsome hactive
  · rw [hrun]
    exact announced_ordinary hreset hdeliver heligible

end Announce

/--
Outside the window a cycle either finds nothing announced or keeps an
incident that is eligible.
-/
def KeepsEligible (inst : RDSInstance) (w : Watch) (input : CycleInput) :
    Prop :=
  lockNotificationsOpen input.config input.now = true ∨
    ClearedOrSilent w.cards ∨
    ∀ activity blocking, input.fetch inst = .ok (activity, blocking) →
      ∃ row ∈ (uniqueBlocking blocking).values,
        WillBeEligible inst.pk input.config.thresholdSeconds w.state.lockAlerts
          row

def Watch.DeliveredStep (env : MonitorEnv) (inst : RDSInstance) (w : Watch)
    (input : CycleInput) (w' : Watch) : Prop :=
  (∀ card, input.deliver card = true) ∧ Watch.Step env inst w input w'

theorem announced_step {env : MonitorEnv} {inst : RDSInstance}
    {input : CycleInput} {w w' : Watch}
    (h : Announced env.lib.sha256 w.texts
      (w.state.notificationState inst.pk) w.cards)
    (hkeeps : KeepsEligible inst w input)
    (hstep : Watch.DeliveredStep env inst w input w') :
    Announced env.lib.sha256 w'.texts
      (w'.state.notificationState inst.pk) w'.cards := by
  obtain ⟨hdeliver, hcompleted, rfl⟩ := hstep
  obtain ⟨activity, blocking, cleared, hfetch, htable, hresult⟩ :=
    completed_cycle hcompleted
  obtain ⟨hstate, hcards⟩ := Prod.mk.inj hresult
  have hquiet : lockNotificationsOpen input.config input.now = true ∨
      ClearedOrSilent w.cards ∨
      eligibleAlerts inst.pk (cycle env inst w.state input).lockAlerts ≠ [] := by
    rcases hkeeps with hopen | hsilent | heligible
    · exact .inl hopen
    · exact .inr (.inl hsilent)
    · obtain ⟨row, hrow, hwill⟩ := heligible activity blocking hfetch
      exact .inr (.inr (eligible_of_value htable hrow hwill))
  unfold Watch.texts Watch.cards at h ⊢
  unfold cycleRecord
  simp only [List.flatMap_append, List.flatMap_singleton]
  rw [hstate, hcards]
  refine announced_transaction (h.mono (List.subset_append_left _ _)) hdeliver
    hquiet ?_ ?_
  · exact List.mem_append_right _ (by simp [cycleSummary])
  · exact List.mem_append_right _ (by simp [cycleSummary])

theorem announced_run {env : MonitorEnv} {inst : RDSInstance}
    {inputs : List CycleInput} {start : MonitorState} {w : Watch}
    (hrun : Run (Guarded (KeepsEligible inst) (Watch.DeliveredStep env inst))
      ⟨start, []⟩ inputs w)
    (hstart : start.notificationState inst.pk = .fresh) :
    Announced env.lib.sha256 w.texts (w.state.notificationState inst.pk)
      w.cards := by
  induction hrun with
  | refl =>
      constructor
      · intro _ card hcard
        cases hcard
      · rw [hstart]
        exact .inl rfl
  | snoc _ hstep ih => exact announced_step ih hstep.1 hstep.2

def ClearsAnnounced (w : Watch) : Prop :=
  ∀ record, w.history.getLast? = some record → record.windowOpen = true →
    record.active = [] → ClearedOrSilent w.cards

theorem clears_announced {env : MonitorEnv} {inst : RDSInstance}
    {inputs : List CycleInput} {start : MonitorState} {w : Watch}
    (hrun : Run (Guarded (KeepsEligible inst) (Watch.DeliveredStep env inst))
      ⟨start, []⟩ inputs w)
    (hstart : start.notificationState inst.pk = .fresh)
    (hdigest : env.lib.sha256 "" ≠ "")
    (hcollision : NoCollision env.lib.sha256 ("" :: w.texts)) :
    ClearsAnnounced w := by
  cases hrun with
  | refl =>
      intro record hlast
      cases hlast
  | @snoc t _ inputs input hfront hstep =>
      have hannounced := announced_run hfront hstart
      obtain ⟨-, hdeliver, hcompleted, rfl⟩ := hstep
      obtain ⟨activity, blocking, cleared, hfetch, htable, hresult⟩ :=
        completed_cycle hcompleted
      obtain ⟨-, hcards⟩ := Prod.mk.inj hresult
      intro record hlast hopen hactive
      rw [List.getLast?_append, List.getLast?_singleton, Option.some_or]
        at hlast
      cases hlast
      have hnone := eligibleAlerts_of_active_nil hactive
      have hold : NoCollision env.lib.sha256 ("" :: t.texts) := by
        intro text hmem text' hmem'
        refine hcollision text ?_ text' ?_
        all_goals
          unfold Watch.texts at *
          simp only [List.flatMap_append, List.mem_cons, List.mem_append] at *
          grind
      unfold Watch.cards at hannounced ⊢
      simp only [List.flatMap_append, List.flatMap_singleton]
      change ClearedOrSilent (_ ++ (cycleCards env inst t.state input).map
        Prod.snd)
      rw [hcards, lockSummaryTransaction_empty _ _ _ _ _ hopen hactive]
      exact cleared_of_ordinary
        (⟨hannounced.keys, hannounced.fingerprint⟩ :
          Announced env.lib.sha256 t.texts
            { t.state.notificationState inst.pk with stormActive := false } _)
        hdeliver hdigest hold hnone

theorem night_clear_unannounced :
    let inst := sampleInstance .postgresql
    let inputs := [scheduledCycle 0 (6 * hour) [samplePair],
      scheduledCycle 0 (18 * hour) [], scheduledCycle 0 (30 * hour) []]
    let w := watchCycles sampleEnv inst ⟨.empty, []⟩ inputs
    Run (Watch.DeliveredStep sampleEnv inst) ⟨.empty, []⟩ inputs w ∧
      ¬ ClearsAnnounced w := by
  intro inst inputs w
  refine ⟨.snoc (.snoc (.single ⟨fun _ => rfl, rfl, rfl⟩)
    ⟨fun _ => rfl, rfl, rfl⟩) ⟨fun _ => rfl, rfl, rfl⟩, ?_⟩
  intro hannounced
  have hlast : (lastDelivered w.cards).map Card.event = some .initial := by
    decide
  obtain ⟨card, hcard, hevent⟩ := Option.map_eq_some_iff.mp hlast
  have hcleared := hannounced _ rfl (by decide) (by decide) card hcard
  rw [hevent] at hcleared
  cases hcleared

theorem clears_announced_morning :
    let inst := sampleInstance .postgresql
    let w := watchCycles sampleEnv inst ⟨.empty, []⟩
      [scheduledCycle 0 (6 * hour) [samplePair],
        scheduledCycle 0 (18 * hour) [samplePair],
        scheduledCycle 0 (30 * hour) []]
    ClearsAnnounced w := by
  intro inst w
  refine clears_announced
    (.snoc (.snoc (.single ⟨.inl rfl, fun _ => rfl, rfl, rfl⟩)
      ⟨.inr (.inr ?_), fun _ => rfl, rfl, rfl⟩)
      ⟨.inl rfl, fun _ => rfl, rfl, rfl⟩) rfl (by decide) ?_
  · intro activity blocking hfetch
    cases hfetch
    exact ⟨samplePair, by decide, by decide⟩
  · unfold NoCollision
    decide

end HealthGrid.Monitor
