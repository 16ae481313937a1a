import HealthGrid.Monitor.Isolation
import HealthGrid.Registry.Instances

/-!
# Monitor cycles over the whole registry

`run_monitor_cycle` visits the active instances one after another.  The
registry, the settings and what the databases answer may change from one round
to the next, and a cycle that raises does not stop the round.
-/

namespace HealthGrid.Background

open HealthGrid.Foundation HealthGrid.Db HealthGrid.Monitor HealthGrid.Registry

/-- `RDSInstance.objects.filter(is_active=True)`, by name. -/
def activeInstances (instances : InstanceTable) : List InstanceRecord :=
  (instances.rows.filter InstanceRecord.isActive).insertionSort
    fun record record' => record.name ≤ record'.name

structure MonitorRound where
  instances : InstanceTable
  input : Nat → CycleInput

def MonitorRound.turns (round : MonitorRound) : List Turn :=
  (activeInstances round.instances).map fun record =>
    ⟨record.target, round.input record.pk⟩

def runMonitorCycle (env : MonitorEnv) (s : MonitorState)
    (round : MonitorRound) : MonitorState :=
  (activeInstances round.instances).foldl
    (fun s record => cycle env record.target s (round.input record.pk)) s

def MonitorRound.turn? (pk : Nat) (round : MonitorRound) : Option Turn :=
  ((round.instances.findPk? pk).filter InstanceRecord.isActive).map
    fun record => ⟨record.target, round.input pk⟩

/-! ## A round visits every active instance once -/

theorem filter_pk_of_nodup {records : List InstanceRecord}
    (h : (records.map InstanceRecord.pk).Nodup) (pk : Nat) :
    records.filter (fun record => record.pk == pk) =
      (records.find? fun record => record.pk == pk).toList := by
  induction records with
  | nil => rfl
  | cons record records ih =>
      rw [List.map_cons, List.nodup_cons] at h
      by_cases hpk : record.pk = pk
      · have hnone : records.filter (fun other => other.pk == pk) = [] := by
          rw [List.filter_eq_nil_iff]
          intro other hmem heq
          refine h.1 (List.mem_map.mpr ⟨other, hmem, ?_⟩)
          rw [hpk]
          exact beq_iff_eq.mp heq
        rw [List.filter_cons_of_pos (by simp [hpk]), hnone,
          List.find?_cons_of_pos (by simp [hpk])]
        rfl
      · rw [List.filter_cons_of_neg (by simp [hpk]), ih h.2,
          List.find?_cons_of_neg (by simp [hpk])]

theorem find?_filter_of_nodup {records : List InstanceRecord}
    (h : (records.map InstanceRecord.pk).Nodup) (p : InstanceRecord → Bool)
    (pk : Nat) :
    (records.filter p).filter (fun record => record.pk == pk) =
      ((records.find? fun record => record.pk == pk).filter p).toList := by
  rw [List.filter_comm, filter_pk_of_nodup h]
  cases records.find? fun record => record.pk == pk with
  | none => rfl
  | some record => cases hp : p record <;> simp [Option.filter, hp]

theorem turns_filter (round : MonitorRound) (pk : Nat) :
    round.turns.filter (fun turn => turn.inst.pk == pk) =
      (round.turn? pk).toList := by
  have hnodup : (round.instances.rows.map InstanceRecord.pk).Nodup :=
    round.instances.pk_nodup
  have hactive : (activeInstances round.instances).filter
        (fun record => record.pk == pk) =
      ((round.instances.findPk? pk).filter InstanceRecord.isActive).toList := by
    have hperm := (List.perm_insertionSort
      (fun record record' : InstanceRecord => record.name ≤ record'.name)
      (round.instances.rows.filter InstanceRecord.isActive)).filter
        (fun record => record.pk == pk)
    rw [find?_filter_of_nodup hnodup] at hperm
    unfold activeInstances OpenTable.findPk?
    generalize (round.instances.rows.find? fun record =>
      record.pk == pk).filter InstanceRecord.isActive = found at hperm
    cases found with
    | none => exact hperm.eq_nil
    | some record => exact List.perm_singleton.mp hperm
  unfold MonitorRound.turns MonitorRound.turn?
  rw [List.filter_map, show ((fun turn : Turn => turn.inst.pk == pk) ∘
    fun record : InstanceRecord => ⟨record.target, round.input record.pk⟩) =
      fun record => record.pk == pk from rfl, hactive]
  cases hfind : (round.instances.findPk? pk).filter InstanceRecord.isActive with
  | none => rfl
  | some record =>
      have hpk : record.pk = pk :=
        (OpenTable.findPk?_eq_some.mp (Option.filter_eq_some_iff.mp hfind).1).2
      rw [← hpk]
      rfl

theorem runMonitorCycle_turns (env : MonitorEnv) (s : MonitorState)
    (round : MonitorRound) :
    Run (Turn.Step env) s round.turns (runMonitorCycle env s round) := by
  unfold runMonitorCycle MonitorRound.turns
  induction activeInstances round.instances generalizing s with
  | nil => exact .refl s
  | cons record records ih => exact (Run.single rfl).trans (ih _)

theorem rounds_turns (env : MonitorEnv) (rounds : List MonitorRound)
    (s : MonitorState) :
    Run (Turn.Step env) s (rounds.flatMap MonitorRound.turns)
      (rounds.foldl (runMonitorCycle env) s) := by
  induction rounds generalizing s with
  | nil => exact .refl s
  | cons round rounds ih =>
      rw [List.flatMap_cons]
      exact (runMonitorCycle_turns env s round).trans (ih _)

theorem rounds_filter (rounds : List MonitorRound) (pk : Nat) :
    (rounds.flatMap MonitorRound.turns).filter
        (fun turn => turn.inst.pk == pk) =
      rounds.filterMap (MonitorRound.turn? pk) := by
  induction rounds with
  | nil => rfl
  | cons round rounds ih =>
      rw [List.flatMap_cons, List.filter_append, turns_filter, ih,
        List.filterMap_cons]
      cases round.turn? pk <;> rfl

/-! ## One instance among the others -/

theorem runMonitorCycle_view_of_inactive (env : MonitorEnv) (s : MonitorState)
    {round : MonitorRound} {pk : Nat} (h : round.turn? pk = none) :
    (runMonitorCycle env s round).view pk = s.view pk := by
  have hnone := turns_filter round pk
  rw [h, Option.toList_none, List.filter_eq_nil_iff] at hnone
  have hothers : ∀ turn ∈ round.turns, turn.inst.pk ≠ pk :=
    fun turn hmem heq => hnone turn hmem (beq_iff_eq.mpr heq)
  have hrun := runMonitorCycle_turns env s round
  generalize round.turns = turns at hothers hrun
  generalize runMonitorCycle env s round = last at hrun ⊢
  induction hrun with
  | refl => rfl
  | @snoc _ _ _ turn _ hstep ih =>
      subst hstep
      rw [cycle_view_of_ne (hothers turn (by simp)), ih]
      exact fun other hmem => hothers other (List.mem_append_left _ hmem)

theorem made_by {taken : List Turn} {transactions : List Transaction}
    (h : List.Forall₂ Turn.Makes taken transactions) :
    ∀ t ∈ transactions, ∃ turn ∈ taken, turn.Makes t := by
  induction h with
  | nil => simp
  | @cons turn t taken transactions hturn _ ih =>
      intro t' hmem
      rcases List.mem_cons.mp hmem with rfl | hrest
      · exact ⟨turn, List.mem_cons_self .., hturn⟩
      · obtain ⟨turn', hturn', hmakes⟩ := ih t' hrest
        exact ⟨turn', List.mem_cons_of_mem _ hturn', hmakes⟩

theorem told_of_transactions {sha256 : String → String} {own taken : List Turn}
    {transactions : List Transaction} {channel : Channel}
    (hsub : taken.Sublist own) (hmakes : List.Forall₂ Turn.Makes taken transactions)
    (hrun : Run (Channel.Step sha256) .fresh transactions channel)
    (hopen : ∀ turn ∈ own,
      turn.input.config.notificationScheduleEnabled = false) :
    channel.state.lastActiveKeys = told channel.sent := by
  refine (standsFor_run hrun ?_).keys
  intro t hmem
  obtain ⟨turn, hturn, hmade⟩ := made_by hmakes t hmem
  rw [hmade.config]
  exact hopen turn (hsub.subset hturn)

/--
Over any rounds, each with its own registry, what one instance shows depends on
its own cycles: the incidents of a pair are the maximal runs of the snapshots
of this instance, its cards come from the transactions of its own cycles, and
when its schedule is off its stored keys are those of its last delivered card.
A round in which it is not active changes none of its rows and sends no card
about it.
-/
theorem monitor_cycles_isolated (env : MonitorEnv) (rounds : List MonitorRound)
    (pk : Nat) :
    let s := rounds.foldl (runMonitorCycle env) .empty
    let own := rounds.filterMap (MonitorRound.turn? pk)
    (∀ blockedPid blockingPid, RecordsTurns env pk own s blockedPid blockingPid) ∧
    (∃ taken transactions, taken.Sublist own ∧
      List.Forall₂ Turn.Makes taken transactions ∧
      Run (Channel.Step env.lib.sha256) .fresh transactions (s.channel pk)) ∧
    ((∀ turn ∈ own, turn.input.config.notificationScheduleEnabled = false) →
      (s.notificationState pk).lastActiveKeys = told (cardsOf pk s.lockCards)) ∧
    ∀ round, round.turn? pk = none →
      (runMonitorCycle env s round).view pk = s.view pk := by
  intro s own
  have hrun := rounds_turns env rounds .empty
  have hown : (rounds.flatMap MonitorRound.turns).filter
      (fun turn => turn.inst.pk == pk) = own := rounds_filter rounds pk
  have hrecords := fun blockedPid blockingPid =>
    recordsTurns hrun pk blockedPid blockingPid
  have hchannel := channel_turns hrun pk
  rw [hown] at hrecords hchannel
  refine ⟨hrecords, hchannel, ?_, fun round =>
    runMonitorCycle_view_of_inactive env s⟩
  intro hopen
  obtain ⟨taken, transactions, hsub, hmakes, htransactions⟩ := hchannel
  exact told_of_transactions hsub hmakes htransactions hopen

end HealthGrid.Background
