import HealthGrid.Monitor.IncidentHistory
import HealthGrid.Monitor.LongQueryRuns

/-!
# What the cycles of other instances leave alone

All instances share the tables of incidents and of long queries.  A cycle
reads and writes the rows of its own instance, whether it completes or not.
-/

namespace HealthGrid.Monitor

open HealthGrid.Foundation HealthGrid.Db

structure InstanceView where
  lockAlerts : List LockAlert
  notificationState : LockNotificationState
  lockCards : List Attempt
  longQueries : List LongQueryAlert
  longQueryCards : List (List LongQueryAlert × Bool)

def cardsOf {α : Type} (pk : Nat) (cards : List (Nat × α)) : List α :=
  (cards.filter fun card => card.1 == pk).map Prod.snd

theorem cardsOf_append_of_ne {α : Type} {pk pk' : Nat} (h : pk' ≠ pk)
    (cards : List (Nat × α)) (more : List α) :
    cardsOf pk (cards ++ more.map (Prod.mk pk')) = cardsOf pk cards := by
  have hnone : (more.map (Prod.mk pk')).filter (fun card => card.1 == pk) = [] := by
    simp [h]
  rw [cardsOf, List.filter_append, hnone, List.append_nil, cardsOf]

theorem cardsOf_append {α : Type} (pk : Nat) (cards : List (Nat × α))
    (more : List α) :
    cardsOf pk (cards ++ more.map (Prod.mk pk)) = cardsOf pk cards ++ more := by
  have hall : (more.map (Prod.mk pk)).filter (fun card => card.1 == pk) =
      more.map (Prod.mk pk) := by
    simp
  rw [cardsOf, List.filter_append, hall, List.map_append, List.map_map, cardsOf]
  simp [Function.comp_def]

def lockAlertsOf (pk : Nat) (table : LockAlertTable) : List LockAlert :=
  table.rows.filter fun alert => alert.instancePk == pk

def longQueriesOf (pk : Nat) (table : LongQueryTable) : List LongQueryAlert :=
  table.rows.filter fun alert => alert.instancePk == pk

def MonitorState.view (pk : Nat) (s : MonitorState) : InstanceView where
  lockAlerts := lockAlertsOf pk s.lockAlerts
  notificationState := s.notificationState pk
  lockCards := cardsOf pk s.lockCards
  longQueries := longQueriesOf pk s.longQueries.alerts
  longQueryCards := cardsOf pk s.longQueries.cards

/-! ## Incidents -/

section Locks

variable {env : MonitorEnv} {inst : RDSInstance} {input : CycleInput} {pk : Nat}

theorem resolveStale_of_ne (h : inst.pk ≠ pk) (seenKeys : List String)
    (now : Time) (table : LockAlertTable) :
    lockAlertsOf pk (resolveStale inst.pk seenKeys now table) =
      lockAlertsOf pk table := by
  unfold lockAlertsOf resolveStale
  rw [OpenTable.update_rows]
  apply filter_map_of_same
  intro alert _
  by_cases hstale : Stale inst.pk seenKeys alert
  · right
    rw [if_pos hstale]
    have hother : (alert.instancePk == pk) = false := by
      rw [hstale.1, beq_eq_false_iff_ne]
      exact h
    exact ⟨hother, hother⟩
  · exact .inl (if_neg hstale)

theorem snapshotTable_of_ne (h : inst.pk ≠ pk) {blocking : List LockRow}
    {table table' : LockAlertTable}
    (htable : snapshotTable env inst input blocking table = .ok table') :
    lockAlertsOf pk table' = lockAlertsOf pk table := by
  obtain ⟨stored, hstored, rfl⟩ := snapshotTable_stored htable
  rw [resolveStale_of_ne h]
  apply upsertLockAlerts_filter hstored
  intro alert _ hinstance _
  rw [hinstance, beq_eq_false_iff_ne]
  exact h

end Locks

/-! ## Long queries -/

section LongQueries

variable {now : Time} {instancePk pk : Nat} {s s' : LongQueryState}

theorem storeLongQuery_of_ne (app : AppDatabase) (now : Time)
    (h : instancePk ≠ pk) (alertKey : String)
    (row : ActivityRow) (s : LongQueryState) :
    longQueriesOf pk (storeLongQuery app now instancePk alertKey row s).2.alerts =
      longQueriesOf pk s.alerts := by
  have hother : (instancePk == pk) = false := beq_eq_false_iff_ne.mpr h
  unfold storeLongQuery longQueriesOf
  split
  · rename_i found hfind
    obtain ⟨hfound, -, hkey⟩ := OpenTable.findOpen?_spec hfind
    have hinstance : found.instancePk = instancePk := (Prod.mk.inj hkey).1
    split
    · rw [OpenTable.update_rows]
      apply filter_map_of_same
      intro alert hmem
      by_cases hpk : alert.pk = found.pk
      · right
        obtain rfl := OpenTable.eq_of_pk_eq hmem hfound hpk
        rw [if_pos rfl, hinstance]
        refine ⟨hother, ?_⟩
        rw [← hother, ← hinstance]
        rfl
      · exact .inl (if_neg hpk)
    · rfl
  · split
    · rfl
    · split
      · dsimp only
        rw [OpenTable.insert_rows, List.filter_append,
          List.filter_cons_of_neg, List.filter_nil, List.append_nil]
        rw [Bool.not_eq_true, ← hother]
        rfl
      · rfl

theorem storeLongQueries_of_ne (app : AppDatabase) (now : Time)
    (h : instancePk ≠ pk)
    (entries : List (String × ActivityRow)) (s : LongQueryState) :
    longQueriesOf pk (storeLongQueries app now instancePk entries s).2.alerts =
      longQueriesOf pk s.alerts := by
  induction entries generalizing s with
  | nil => rfl
  | cons entry entries ih =>
      obtain ⟨alertKey, row⟩ := entry
      have hfirst := storeLongQuery_of_ne app now h alertKey row s
      rw [storeLongQueries]
      cases hrun : storeLongQuery app now instancePk alertKey row s with
      | mk result middle =>
          rw [hrun] at hfirst
          cases result with
          | error e =>
              rw [Call.bind_error hrun]
              exact hfirst
          | ok alert =>
              rw [Call.bind_ok hrun, ← hfirst, ← ih middle]
              cases hrest : storeLongQueries app now instancePk entries
                  middle with
              | mk result last =>
                  cases result with
                  | error e => rw [Call.bind_error hrest]
                  | ok later =>
                      rw [Call.bind_ok hrest]
                      rfl

theorem resolveLongQueries_of_ne (now : Time) (h : instancePk ≠ pk)
    (seenKeys : List String)
    (s : LongQueryState) :
    longQueriesOf pk (resolveLongQueries now instancePk seenKeys s).alerts =
      longQueriesOf pk s.alerts := by
  unfold longQueriesOf resolveLongQueries
  rw [OpenTable.update_rows]
  apply filter_map_of_same
  intro alert _
  split
  · rename_i hgone
    right
    have hother : (alert.instancePk == pk) = false := by
      rw [hgone.1, beq_eq_false_iff_ne]
      exact h
    exact ⟨hother, hother⟩
  · exact .inl rfl

theorem notifyLongQueries_of_ne (h : instancePk ≠ pk)
    {newAlerts : List LongQueryAlert} {deliver : List LongQueryAlert → Bool}
    (hrows : ∀ alert ∈ newAlerts, ∃ row ∈ s.alerts.rows,
      row.pk = alert.pk ∧ row.instancePk = instancePk) :
    longQueriesOf pk (notifyLongQueries now instancePk deliver newAlerts s).alerts =
      longQueriesOf pk s.alerts := by
  unfold notifyLongQueries
  dsimp only
  split
  · unfold longQueriesOf markLongQueriesAlerted
    rw [OpenTable.update_rows]
    apply filter_map_of_same
    intro row hmem
    split
    · rename_i hpk
      obtain ⟨alert, halert, heq⟩ := List.mem_map.mp hpk
      obtain ⟨row', hrow', hpk', hinstance⟩ := hrows alert halert
      obtain rfl := OpenTable.eq_of_pk_eq hrow' hmem (hpk'.trans heq)
      have hother : (row'.instancePk == pk) = false := by
        rw [hinstance, beq_eq_false_iff_ne]
        exact h
      exact .inr ⟨hother, hother⟩
    · exact .inl rfl
  · rfl

theorem storedAll_rows {keys : List String} {newAlerts : List LongQueryAlert}
    (h : StoredAll instancePk now keys s newAlerts s') :
    ∀ alert ∈ newAlerts, ∃ row ∈ s'.alerts.rows,
      row.pk = alert.pk ∧ row.instancePk = instancePk := by
  intro alert hmem
  obtain ⟨hinstance, -, -, row, hrow, hfate⟩ := h.fresh alert hmem
  exact ⟨row, hrow, congrArg QueryFate.pk hfate,
    (congrArg QueryFate.instancePk hfate).trans hinstance⟩

theorem resolveLongQueries_rows {newAlerts : List LongQueryAlert}
    (h : ∀ alert ∈ newAlerts, ∃ row ∈ s.alerts.rows,
      row.pk = alert.pk ∧ row.instancePk = instancePk) (seenKeys : List String) :
    ∀ alert ∈ newAlerts,
      ∃ row ∈ (resolveLongQueries now instancePk seenKeys s).alerts.rows,
        row.pk = alert.pk ∧ row.instancePk = instancePk := by
  intro alert hmem
  obtain ⟨row, hrow, hpk, hinstance⟩ := h alert hmem
  refine ⟨_, List.mem_map_of_mem hrow, ?_⟩
  split
  · exact ⟨hpk, hinstance⟩
  · exact ⟨hpk, hinstance⟩

theorem processLongQueries_of_ne (lib : TextLibrary) (app : AppDatabase)
    (config : NotificationSettings) (now : Time) (h : instancePk ≠ pk)
    (activity : List ActivityRow) (deliver : List LongQueryAlert → Bool)
    (s : LongQueryState) :
    let s' := (processLongQueries lib app config now instancePk activity deliver
      s).2
    longQueriesOf pk s'.alerts = longQueriesOf pk s.alerts ∧
      cardsOf pk s'.cards = cardsOf pk s.cards := by
  unfold processLongQueries
  cases config.manualQueryAlertEnabled with
  | false => exact ⟨resolveLongQueries_of_ne now h [] s, rfl⟩
  | true =>
      have hrows := storeLongQueries_of_ne app now h
        (longQueryCandidates lib config activity).entries s
      have hcards := (storeLongQueries_continues app now instancePk
        (longQueryCandidates lib config activity).entries s).cards
      rw [if_pos rfl]
      cases hrun : storeLongQueries app now instancePk
          (longQueryCandidates lib config activity).entries s with
      | mk result middle =>
          rw [hrun] at hrows hcards
          cases result with
          | error e =>
              rw [Call.bind_error hrun]
              exact ⟨hrows, congrArg (cardsOf pk) hcards⟩
          | ok newAlerts =>
              have hstored := storeLongQueries_all (Dict.keys_nodup _) hrun
              have hresolved := resolveLongQueries_of_ne now h
                (longQueryCandidates lib config activity).keys middle
              rw [Call.bind_ok hrun, Call.bind_ok (Call.modify_run _ _)]
              split
              · refine ⟨?_, ?_⟩
                · refine (notifyLongQueries_of_ne h ?_).trans
                    (hresolved.trans hrows)
                  exact resolveLongQueries_rows (storedAll_rows hstored) _
                · rw [← hcards]
                  refine Eq.trans ?_ (cardsOf_append_of_ne h middle.cards
                    [(newAlerts, deliver newAlerts)])
                  rw [Call.modify_run]
                  unfold notifyLongQueries
                  dsimp only
                  split <;> rfl
              · exact ⟨hresolved.trans hrows, congrArg (cardsOf pk) hcards⟩

end LongQueries

/-! ## A cycle of another instance -/

section Cycle

variable {env : MonitorEnv} {inst : RDSInstance} {input : CycleInput} {pk : Nat}
  {s : MonitorState}

theorem notifyLocks_of_ne (h : inst.pk ≠ pk) (summary : LockSummary) :
    (notifyLocks env inst input summary s).view pk = s.view pk := by
  have hstate : (notifyLocks env inst input summary s).notificationState pk =
      s.notificationState pk := Function.update_of_ne h.symm ..
  have hcards := cardsOf_append_of_ne h s.lockCards
    (summary.result env input (s.notificationState inst.pk)).2
  rw [← notifyLocks_cards] at hcards
  unfold MonitorState.view
  rw [hstate, hcards]
  rfl

theorem cycle_view_of_ne (h : inst.pk ≠ pk) (env : MonitorEnv)
    (input : CycleInput) (s : MonitorState) :
    (cycle env inst s input).view pk = s.view pk := by
  have htracked : ∀ {activity table longQueries result blocking},
      snapshotTable env inst input blocking s.lockAlerts = .ok table →
      processLongQueries env.lib env.app input.config input.now inst.pk activity
        input.deliverLongQueries s.longQueries = (result, longQueries) →
      MonitorState.view pk
        { s with lockAlerts := table, longQueries := longQueries } =
          s.view pk := by
    intro activity table longQueries result blocking htable htrack
    have hlongQueries := processLongQueries_of_ne env.lib env.app input.config
      input.now h activity input.deliverLongQueries s.longQueries
    rw [htrack] at hlongQueries
    unfold MonitorState.view
    dsimp only
    rw [snapshotTable_of_ne h htable, hlongQueries.1, hlongQueries.2]
  have hend := processInstance_end env inst input s
  unfold cycle
  generalize (processInstance env inst input s).1 = result at hend
  generalize (processInstance env inst input s).2 = after at hend ⊢
  cases hend with
  | notFetched => rfl
  | notStored => rfl
  | notTracked _ htable htrack => exact htracked htable htrack
  | completed _ htable htrack =>
      rw [notifyLocks_of_ne h]
      exact htracked htable htrack

end Cycle

/-! ## Its own cycles -/

theorem activeAlerts_keys_nodup (pk : Nat) (table : LockAlertTable) :
    ((activeAlerts pk table).map LockAlert.alertKey).Nodup := by
  refine List.Nodup.map_on ?_ ?_
  · intro alert hmem other hother heq
    rw [mem_activeAlerts] at hmem hother
    refine OpenTable.eq_of_open hmem.1 hother.1
      (Option.isNone_iff_eq_none.mpr hmem.2.2)
      (Option.isNone_iff_eq_none.mpr hother.2.2) ?_
    exact Prod.ext (hmem.2.1.trans hother.2.1.symm) heq
  · refine (List.perm_insertionSort _ _).nodup_iff.mpr ?_
    exact (List.Nodup.of_map _ table.pk_nodup).filter _

theorem eligibleAlerts_keys_nodup (pk : Nat) (table : LockAlertTable) :
    ((eligibleAlerts pk table).map LockAlert.alertKey).Nodup := by
  refine List.Nodup.map_on ?_ ?_
  · intro alert hmem other hother heq
    refine List.inj_on_of_nodup_map (activeAlerts_keys_nodup pk table) ?_ ?_ heq
    · exact (mem_eligibleAlerts.mp hmem).1
    · exact (mem_eligibleAlerts.mp hother).1
  · refine (List.perm_insertionSort _ _).nodup_iff.mpr ?_
    exact (List.Nodup.of_map _ table.pk_nodup).filter _

structure Turn where
  inst : RDSInstance
  input : CycleInput

def Turn.Step (env : MonitorEnv) (s : MonitorState) (turn : Turn)
    (s' : MonitorState) : Prop :=
  cycle env turn.inst s turn.input = s'

/-- The transaction at the end of a cycle, about incidents of its instance. -/
structure Turn.Makes (turn : Turn) (t : Transaction) : Prop where
  config : t.config = turn.input.config
  now : t.now = turn.input.now
  deliver : t.deliver = turn.input.deliver
  eligible : ∀ alert ∈ t.summary.eligible, alert.instancePk = turn.inst.pk
  cleared : ∀ alert ∈ t.summary.cleared,
    alert.instancePk = turn.inst.pk ∧ alert.resolvedAt = some turn.input.now
  active : ∀ alert ∈ t.summary.active, alert.instancePk = turn.inst.pk

def MonitorState.channel (pk : Nat) (s : MonitorState) : Channel where
  state := s.notificationState pk
  sent := cardsOf pk s.lockCards

theorem cycle_channel (env : MonitorEnv) (inst : RDSInstance)
    (input : CycleInput) (s : MonitorState) :
    (cycle env inst s input).channel inst.pk = s.channel inst.pk ∨
      ∃ t, Turn.Makes ⟨inst, input⟩ t ∧
        Channel.Step env.lib.sha256 (s.channel inst.pk) t
          ((cycle env inst s input).channel inst.pk) := by
  have hend := processInstance_end env inst input s
  unfold cycle
  generalize (processInstance env inst input s).1 = result at hend
  generalize (processInstance env inst input s).2 = after at hend ⊢
  cases hend with
  | notFetched => exact .inl rfl
  | notStored => exact .inl rfl
  | notTracked => exact .inl rfl
  | @completed activity blocking table longQueries cleared _ _ _ hcleared =>
      right
      refine ⟨⟨input.config, input.now, cycleSummary inst cleared table,
        input.deliver, eligibleAlerts_keys_nodup _ _,
        activeAlerts_keys_nodup _ _⟩, ⟨rfl, rfl, rfl, ?_, ?_, ?_⟩, ?_⟩
      · intro alert hmem
        exact (mem_activeAlerts.mp (mem_eligibleAlerts.mp hmem).1).2.1
      · exact fun alert hmem => (hcleared alert hmem).2
      · intro alert hmem
        exact (mem_activeAlerts.mp hmem).2.1
      · unfold Channel.Step Channel.transact MonitorState.channel
        rw [notifyLocks_state, notifyLocks_cards, cardsOf_append]
        rfl

/-! ## What a run of all instances leaves for one -/

def Turn.observation? (env : MonitorEnv) (blockedPid blockingPid : Int)
    (turn : Turn) : Option (Time × Bool) :=
  (turn.input.snapshot env turn.inst).map fun blocking =>
    (turn.input.now, decide (Shows blocking blockedPid blockingPid))

def sightingsOf (pk : Nat) (blockedPid blockingPid : Int) (s : MonitorState) :
    List (Period Time) :=
  (s.lockAlerts.history (pk, pairKey blockedPid blockingPid)).map sighting

def RecordsTurns (env : MonitorEnv) (pk : Nat) (own : List Turn)
    (s : MonitorState) (blockedPid blockingPid : Int) : Prop :=
  let observed := own.filterMap (Turn.observation? env blockedPid blockingPid)
  let times := observed.map Prod.fst
  ∃ runs : List (Nat × Nat),
    (∀ i j, (i, j) ∈ runs ↔ IsMaximalRun (observed.map Prod.snd) i j) ∧
    (runs.map Prod.fst).Nodup ∧
    List.Forall₂
      (fun alert run =>
        times[run.1]? = some alert.firstSeenAt ∧
        times[run.2]? = some alert.lastSeenAt ∧
        times[run.2 + 1]? = alert.resolvedAt)
      (incidents pk blockedPid blockingPid s.lockAlerts) runs

section Turns

variable {env : MonitorEnv} {turns : List Turn} {s s' : MonitorState} {pk : Nat}

theorem history_lockAlertsOf (pk : Nat) (k : String) (table : LockAlertTable) :
    table.history (pk, k) =
      (lockAlertsOf pk table).filter fun alert => alert.alertKey == k := by
  unfold OpenTable.history lockAlertsOf
  rw [List.filter_filter]
  apply List.filter_congr
  intro alert _
  rw [Bool.eq_iff_iff]
  simp only [Bool.and_eq_true, beq_iff_eq]
  exact ⟨fun heq => (Prod.mk.inj heq).symm, fun h => Prod.ext h.2 h.1⟩

theorem sightingsOf_turn (blockedPid blockingPid : Int) {turn : Turn}
    (hstep : Turn.Step env s turn s') :
    sightingsOf turn.inst.pk blockedPid blockingPid s' =
      match turn.observation? env blockedPid blockingPid with
      | none => sightingsOf turn.inst.pk blockedPid blockingPid s
      | some observation =>
          observe (sightingsOf turn.inst.pk blockedPid blockingPid s)
            observation := by
  subst hstep
  have hcycle := cycle_lockAlerts env turn.inst turn.input s
  unfold Turn.observation? sightingsOf
  cases hsnapshot : turn.input.snapshot env turn.inst with
  | none =>
      rw [hsnapshot] at hcycle
      dsimp only at hcycle
      rw [hcycle, Option.map_none]
  | some blocking =>
      rw [hsnapshot] at hcycle
      exact snapshotTable_sightings _ _ hcycle

theorem sightingsOf_turns (hrun : Run (Turn.Step env) .empty turns s) (pk : Nat)
    (blockedPid blockingPid : Int) :
    sightingsOf pk blockedPid blockingPid s =
      encode ((turns.filter fun turn => turn.inst.pk == pk).filterMap
        (Turn.observation? env blockedPid blockingPid)) := by
  have hown := hrun.project
    (fun before turn after => after =
      match turn.observation? env blockedPid blockingPid with
      | none => before
      | some observation => observe before observation)
    (sightingsOf pk blockedPid blockingPid)
    (fun turn => turn.inst.pk == pk) ?_ ?_
  · generalize (turns.filter fun turn => turn.inst.pk == pk) = own at hown ⊢
    generalize sightingsOf pk blockedPid blockingPid s = last at hown ⊢
    induction hown with
    | refl => rfl
    | @snoc _ _ _ turn _ hlast ih =>
        rw [hlast, ih, List.filterMap_append, List.filterMap_cons,
          List.filterMap_nil]
        cases turn.observation? env blockedPid blockingPid with
        | none => rw [List.append_nil]
        | some observation => rw [encode_append]
  · intro s turn s' hstep hmine
    obtain rfl := beq_iff_eq.mp hmine
    exact sightingsOf_turn blockedPid blockingPid hstep
  · intro s turn s' hstep hother
    subst hstep
    unfold sightingsOf
    rw [history_lockAlertsOf, history_lockAlertsOf]
    have hview := cycle_view_of_ne (beq_eq_false_iff_ne.mp hother) env turn.input s
    rw [show lockAlertsOf pk (cycle env turn.inst s turn.input).lockAlerts = _ from
      congrArg InstanceView.lockAlerts hview]
    rfl

theorem recordsTurns (hrun : Run (Turn.Step env) .empty turns s) (pk : Nat)
    (blockedPid blockingPid : Int) :
    RecordsTurns env pk (turns.filter fun turn => turn.inst.pk == pk) s
      blockedPid blockingPid := by
  have hrecords := encode_records
    ((turns.filter fun turn => turn.inst.pk == pk).filterMap
      (Turn.observation? env blockedPid blockingPid))
  rw [← sightingsOf_turns hrun pk, sightingsOf, List.forall₂_map_left_iff]
    at hrecords
  refine ⟨_, fun i j => mem_maximalRuns, maximalRuns_starts_nodup _, ?_⟩
  rw [incidents_eq_history]
  exact hrecords.imp fun alert run h => ⟨h.first, h.last, h.stop⟩

theorem channel_turns (hrun : Run (Turn.Step env) .empty turns s) (pk : Nat) :
    ∃ taken transactions,
      taken.Sublist (turns.filter fun turn => turn.inst.pk == pk) ∧
      List.Forall₂ Turn.Makes taken transactions ∧
      Run (Channel.Step env.lib.sha256) .fresh transactions (s.channel pk) := by
  have hown := hrun.project
    (fun before turn after => after = before ∨
      ∃ t, Turn.Makes turn t ∧ Channel.Step env.lib.sha256 before t after)
    (MonitorState.channel pk) (fun turn => turn.inst.pk == pk) ?_ ?_
  · exact hown.stutter id fun _ _ _ h => h
  · intro s turn s' hstep hmine
    obtain rfl := beq_iff_eq.mp hmine
    subst hstep
    exact cycle_channel env turn.inst turn.input s
  · intro s turn s' hstep hother
    subst hstep
    have hview := cycle_view_of_ne (beq_eq_false_iff_ne.mp hother) env turn.input s
    have hstate := congrArg InstanceView.notificationState hview
    have hcards := congrArg InstanceView.lockCards hview
    unfold MonitorState.channel
    exact congrArg₂ Channel.mk hstate hcards

end Turns

end HealthGrid.Monitor
