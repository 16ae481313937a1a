import HealthGrid.Foundation.Run
import HealthGrid.Monitor.LockAlerts
import HealthGrid.Views.Kill

/-!
# Kills and clears side by side

A kill request terminates on the monitored server and marks the incidents in
a later statement.  A cycle fetches, stores, reads what is gone and resolves
it in statements of its own.  Here these statements run in any order.
-/

namespace HealthGrid.Kill

open HealthGrid.Foundation HealthGrid.Db HealthGrid.Monitor HealthGrid.Views.Kill

/-! ## The statements -/

theorem markManualKill_lockAlerts {σ : Type} (inst : RDSInstance)
    (pids : List Int) (user : Operator) (s : KillState σ) :
    (markManualKill inst pids user s).2.lockAlerts =
      s.lockAlerts.update
        (fun alert =>
          if alert.instancePk = inst.pk ∧ alert.resolvedAt = none ∧
              involves pids alert = true then
            markManual user.username alert
          else alert)
        ((markManual_keeps user.username).ite _) := rfl

def setResolved (now : Time) (alert : LockAlert) : LockAlert :=
  { alert with resolvedAt := some now }

theorem setResolved_keeps (now : Time) : Keeps (setResolved now) :=
  ⟨fun _ => rfl, fun _ => rfl, fun _ h => by cases h⟩

def setAutoClear (alert : LockAlert) : LockAlert :=
  { alert with clearReason := "auto_clear" }

theorem setAutoClear_keeps : Keeps setAutoClear :=
  ⟨fun _ => rfl, fun _ => rfl, fun _ h => h⟩

def readClearIds (instancePk : Nat) (seenKeys : List String)
    (table : LockAlertTable) : List Nat :=
  (table.rows.filter fun alert =>
    decide (Stale instancePk seenKeys alert)).map LockAlert.pk

/-- `filter(pk__in=clear_ids).update(resolved_at=now)`. -/
def resolveIds (now : Time) (clearIds : List Nat) (table : LockAlertTable) :
    LockAlertTable :=
  table.update
    (fun alert => if alert.pk ∈ clearIds then setResolved now alert else alert)
    ((setResolved_keeps now).ite _)

/-- `filter(pk__in=clear_ids, clear_reason="").update(clear_reason=…)`. -/
def autoClearIds (clearIds : List Nat) (table : LockAlertTable) :
    LockAlertTable :=
  table.update
    (fun alert =>
      if alert.pk ∈ clearIds ∧ alert.clearReason = "" then setAutoClear alert
      else alert)
    (setAutoClear_keeps.ite _)

theorem resolveStale_statements (instancePk : Nat) (seenKeys : List String)
    (now : Time) (table : LockAlertTable) :
    autoClearIds (readClearIds instancePk seenKeys table)
        (resolveIds now (readClearIds instancePk seenKeys table) table) =
      resolveStale instancePk seenKeys now table := by
  refine OpenTable.ext_rows ?_ rfl
  unfold autoClearIds resolveIds resolveStale
  simp only [OpenTable.update_rows, List.map_map]
  apply List.map_congr_left
  intro alert hmem
  have hread : alert.pk ∈ readClearIds instancePk seenKeys table ↔
      Stale instancePk seenKeys alert := by
    unfold readClearIds
    rw [List.mem_map]
    constructor
    · rintro ⟨other, hother, hpk⟩
      rw [List.mem_filter, decide_eq_true_eq] at hother
      rw [← OpenTable.eq_of_pk_eq hother.1 hmem hpk]
      exact hother.2
    · intro hstale
      exact ⟨alert, List.mem_filter.mpr ⟨hmem, decide_eq_true hstale⟩, rfl⟩
  by_cases hstale : Stale instancePk seenKeys alert
  · by_cases hreason : alert.clearReason = "" <;>
      simp [Function.comp, hread, hstale, hreason, setResolved, setAutoClear,
        clearAlert]
  · simp [Function.comp, hread, hstale]

/-! ## Parties -/

structure Requester where
  inst : RDSInstance
  user : Operator

inductive CyclePhase where
  | idle
  | fetched (instancePk threshold : Nat) (now : Time)
      (unique : Dict String LockRow)
  | stored (instancePk : Nat) (now : Time) (seenKeys : List String)
  | read (now : Time) (clearIds : List Nat)
  | resolved (clearIds : List Nat)

/--
Requests and cycles have numbers.  `unmarked` holds the PIDs a request has
terminated and not marked yet, `killers` the requests that hit a row while it
was unresolved, the last one last.
-/
structure RaceState where
  alerts : LockAlertTable
  cycles : Nat → CyclePhase
  unmarked : Nat → List Int
  killers : Nat → List Nat

inductive RaceStatement where
  | terminate (request : Nat) (pid : Int)
  | mark (request : Nat)
  | fetch (cycle instancePk threshold : Nat) (now : Time)
      (blocking : List LockRow)
  | upsert (cycle : Nat)
  | read (cycle : Nat)
  | resolve (cycle : Nat)
  | autoClear (cycle : Nat)

def hits (inst : RDSInstance) (pids : List Int) (alert : LockAlert) : Bool :=
  alert.instancePk == inst.pk && alert.resolvedAt.isNone && involves pids alert

def RaceState.goTo (s : RaceState) (cycle : Nat) (phase : CyclePhase) :
    RaceState :=
  { s with cycles := Function.update s.cycles cycle phase }

variable (app : AppDatabase) (requesters : Nat → Requester)

def RaceState.step (s : RaceState) : RaceStatement → Option RaceState
  | .terminate request pid =>
      some { s with
        unmarked := Function.update s.unmarked request
          (s.unmarked request ++ [pid])
        killers := fun n =>
          if s.alerts.rows.any fun alert =>
              alert.pk == n && hits (requesters request).inst [pid] alert then
            s.killers n ++ [request]
          else s.killers n }
  | .mark request =>
      if s.unmarked request = [] then none
      else
        some { s with
          alerts := (markManualKill (requesters request).inst
            (s.unmarked request) (requesters request).user
            ⟨(), s.alerts, []⟩).2.lockAlerts
          unmarked := Function.update s.unmarked request [] }
  | .fetch cycle instancePk threshold now blocking =>
      match s.cycles cycle with
      | .idle => some (s.goTo cycle
          (.fetched instancePk threshold now (uniqueBlocking blocking)))
      | _ => none
  | .upsert cycle =>
      match s.cycles cycle with
      | .fetched instancePk threshold now unique =>
          match upsertLockAlerts app instancePk threshold now s.alerts
              unique.values with
          | .ok table => some ({ s with alerts := table }.goTo cycle
              (.stored instancePk now unique.keys))
          | .error _ => some (s.goTo cycle .idle)
      | _ => none
  | .read cycle =>
      match s.cycles cycle with
      | .stored instancePk now seenKeys => some (s.goTo cycle
          (.read now (readClearIds instancePk seenKeys s.alerts)))
      | _ => none
  | .resolve cycle =>
      match s.cycles cycle with
      | .read now clearIds =>
          some ({ s with alerts := resolveIds now clearIds s.alerts }.goTo cycle
            (.resolved clearIds))
      | _ => none
  | .autoClear cycle =>
      match s.cycles cycle with
      | .resolved clearIds =>
          some ({ s with alerts := autoClearIds clearIds s.alerts }.goTo cycle
            .idle)
      | _ => none

/-! ## Attribution -/

/-- For every kill that hit the row: marked by its user or a later killer. -/
def CreditsKillers (killers : List Nat) (alert : LockAlert) : Prop :=
  ∀ before request later, killers = before ++ request :: later →
    alert.clearReason = "manual_kill" ∧
      ∃ killer ∈ request :: later,
        alert.clearedBy = (requesters killer).user.username

def KillsCredited (s : RaceState) : Prop :=
  ∀ alert ∈ s.alerts.rows, alert.resolvedAt ≠ none →
    CreditsKillers requesters (s.killers alert.pk) alert

def RaceState.clearing (s : RaceState) (cycle : Nat) : List Nat :=
  match s.cycles cycle with
  | .read _ clearIds => clearIds
  | _ => []

/--
A cycle resolves an incident only when the last request that hit it has run
its marking statement, and requests that hit one incident mark it in order.
-/
def MarksInTime (s : RaceState) : RaceStatement → Prop
  | .resolve cycle => ∀ alert ∈ s.alerts.rows,
      alert.pk ∈ s.clearing cycle → alert.resolvedAt = none →
        ∀ killer ∈ (s.killers alert.pk).getLast?,
          involves (s.unmarked killer) alert = false
  | .mark request => ∀ alert ∈ s.alerts.rows,
      hits (requesters request).inst (s.unmarked request) alert = true →
        ∀ killer ∈ (s.killers alert.pk).getLast?,
          killer = request ∨ involves (s.unmarked killer) alert = true
  | _ => True

instance (s : RaceState) :
    (statement : RaceStatement) → Decidable (MarksInTime requesters s statement)
  | .resolve _ => inferInstanceAs (Decidable (∀ alert ∈ _, _ → _ → _))
  | .mark _ => inferInstanceAs (Decidable (∀ alert ∈ _, _ → _))
  | .terminate _ _ | .fetch .. | .upsert _ | .read _ | .autoClear _ =>
      inferInstanceAs (Decidable True)

/-! ## What the statements leave of an incident -/

structure Credit where
  pk : Nat
  instancePk : Nat
  blockedPid : Int
  blockingPid : Int
  resolvedAt : Option Time
  clearReason : String
  clearedBy : String

def credit (alert : LockAlert) : Credit where
  pk := alert.pk
  instancePk := alert.instancePk
  blockedPid := alert.blockedPid
  blockingPid := alert.blockingPid
  resolvedAt := alert.resolvedAt
  clearReason := alert.clearReason
  clearedBy := alert.clearedBy

/-- Every row was there with the same credit, or is newer than the table. -/
structure KeepsCredit (table table' : LockAlertTable) : Prop where
  rows : ∀ alert' ∈ table'.rows,
    (∃ alert ∈ table.rows, credit alert' = credit alert) ∨
      table.nextPk ≤ alert'.pk
  nextPk : table.nextPk ≤ table'.nextPk

section Statements

variable {table table' table'' : LockAlertTable}

theorem KeepsCredit.refl (table : LockAlertTable) : KeepsCredit table table :=
  ⟨fun alert hmem => .inl ⟨alert, hmem, rfl⟩, le_refl _⟩

theorem KeepsCredit.trans (first : KeepsCredit table table')
    (second : KeepsCredit table' table'') : KeepsCredit table table'' where
  rows alert'' hmem'' := by
    rcases second.rows alert'' hmem'' with ⟨alert', hmem', hcredit⟩ | hnew
    · rw [hcredit, show alert''.pk = alert'.pk from congrArg Credit.pk hcredit]
      exact first.rows alert' hmem'
    · exact .inr (le_trans first.nextPk hnew)
  nextPk := le_trans first.nextPk second.nextPk

theorem storeLockRow_credit (instancePk threshold : Nat) (now : Time)
    (table : LockAlertTable) (blockedPid blockingPid : Int) (row : LockRow) :
    KeepsCredit table (storeLockRow instancePk threshold now table blockedPid
      blockingPid row) := by
  have hmark : ∀ alert : LockAlert,
      credit (markAlerted threshold now alert) = credit alert := by
    intro alert
    rw [markAlerted_eq]
    rfl
  unfold storeLockRow
  split
  · constructor
    · intro alert' hmem
      rcases List.mem_append.mp hmem with hold | hnew
      · exact .inl ⟨alert', hold, rfl⟩
      · rw [List.mem_singleton.mp hnew]
        right
        rw [show (markAlerted threshold now (newLockAlert instancePk
          table.nextPk blockedPid blockingPid row now)).pk = table.nextPk from
            congrArg Credit.pk (hmark _)]
    · exact Nat.le_succ _
  · rename_i found _
    constructor
    · intro alert' hmem
      obtain ⟨alert, hold, rfl⟩ := List.mem_map.mp hmem
      refine .inl ⟨alert, hold, ?_⟩
      split
      · exact hmark _
      · rfl
    · exact le_refl _

theorem upsertLockAlerts_credit {app : AppDatabase} {instancePk threshold : Nat}
    {now : Time} {rows : List LockRow}
    (hstore : upsertLockAlerts app instancePk threshold now table rows =
      .ok table') : KeepsCredit table table' := by
  refine upsertLockAlerts_preserves ?_ hstore (.refl table)
  intro stored blockedPid blockingPid row hkeeps
  exact hkeeps.trans (storeLockRow_credit _ _ _ _ _ _ _)

end Statements

/-! ## The invariant -/

def MarkedFor (requesters : Nat → Requester) (request : Nat)
    (alert : LockAlert) : Prop :=
  alert.clearReason = "manual_kill" ∧
    alert.clearedBy = (requesters request).user.username

/-- The last request to hit a row has marked it, or will find it unresolved. -/
structure KillsCovered (requesters : Nat → Requester) (s : RaceState) :
    Prop where
  owner : ∀ alert ∈ s.alerts.rows, ∀ request ∈ s.killers alert.pk,
    alert.instancePk = (requesters request).inst.pk
  used : ∀ n, s.killers n ≠ [] → n < s.alerts.nextPk
  covered : ∀ alert ∈ s.alerts.rows, ∀ request,
    (s.killers alert.pk).getLast? = some request →
      (alert.resolvedAt = none ∧
        involves (s.unmarked request) alert = true) ∨
      MarkedFor requesters request alert

section Invariant

variable {app : AppDatabase} {requesters : Nat → Requester}
  {s s' : RaceState} {request : Nat}

theorem involves_append {pids pids' : List Int} {alert : LockAlert} :
    involves (pids ++ pids') alert =
      (involves pids alert || involves pids' alert) := by
  unfold involves
  simp only [List.contains_append]
  cases pids.contains alert.blockedPid <;>
    cases pids'.contains alert.blockedPid <;>
    cases pids.contains alert.blockingPid <;> rfl

theorem covered_of_credit (h : KillsCovered requesters s)
    {table : LockAlertTable} (hkeeps : KeepsCredit s.alerts table)
    (cycles : Nat → CyclePhase) :
    KillsCovered requesters
      { s with alerts := table, cycles := cycles } where
  owner alert hmem killer hkiller := by
    rcases hkeeps.rows alert hmem with ⟨old, hold, hcredit⟩ | hnew
    · rw [show alert.instancePk = old.instancePk from
        congrArg Credit.instancePk hcredit]
      rw [show alert.pk = old.pk from congrArg Credit.pk hcredit] at hkiller
      exact h.owner old hold killer hkiller
    · have := h.used alert.pk (List.ne_nil_of_mem hkiller)
      omega
  used n hn := lt_of_lt_of_le (h.used n hn) hkeeps.nextPk
  covered alert hmem killer hkiller := by
    rcases hkeeps.rows alert hmem with ⟨old, hold, hcredit⟩ | hnew
    · rw [show alert.pk = old.pk from congrArg Credit.pk hcredit] at hkiller
      have hold := h.covered old hold killer hkiller
      unfold MarkedFor involves at hold ⊢
      rw [show alert.resolvedAt = old.resolvedAt from
          congrArg Credit.resolvedAt hcredit,
        show alert.blockedPid = old.blockedPid from
          congrArg Credit.blockedPid hcredit,
        show alert.blockingPid = old.blockingPid from
          congrArg Credit.blockingPid hcredit,
        show alert.clearReason = old.clearReason from
          congrArg Credit.clearReason hcredit,
        show alert.clearedBy = old.clearedBy from
          congrArg Credit.clearedBy hcredit]
      exact hold
    · have hne : s.killers alert.pk ≠ [] := by
        intro hnil
        rw [hnil] at hkiller
        cases hkiller
      have := h.used alert.pk hne
      omega

theorem credits_of_covered (h : KillsCovered requesters s) :
    KillsCredited requesters s := by
  intro alert hmem hresolved before killer later hkillers
  obtain ⟨last, hlast⟩ : ∃ last, (killer :: later).getLast? = some last :=
    Option.isSome_iff_exists.mp (by simp)
  have hcovered := h.covered alert hmem last (by
    rw [hkillers, List.getLast?_append, hlast]
    rfl)
  rcases hcovered with ⟨hopen, -⟩ | hmarked
  · exact absurd hopen hresolved
  · exact ⟨hmarked.1, last, List.mem_of_getLast? hlast, hmarked.2⟩

theorem any_hits_eq {inst : RDSInstance} {pids : List Int} {alert : LockAlert}
    (hmem : alert ∈ s.alerts.rows) :
    (s.alerts.rows.any fun other =>
        other.pk == alert.pk && hits inst pids other) =
      hits inst pids alert := by
  rw [Bool.eq_iff_iff, List.any_eq_true]
  constructor
  · rintro ⟨other, hother, hboth⟩
    rw [Bool.and_eq_true, beq_iff_eq] at hboth
    rw [← OpenTable.eq_of_pk_eq hother hmem hboth.1]
    exact hboth.2
  · intro hself
    exact ⟨alert, hmem, by simp [hself]⟩

theorem involves_update_append {pids : List Int} {killer : Nat}
    {alert : LockAlert} (h : involves (s.unmarked killer) alert = true) :
    involves (Function.update s.unmarked request
      (s.unmarked request ++ pids) killer) alert = true := by
  by_cases hkiller : killer = request
  · subst hkiller
    rw [Function.update_self, involves_append, h, Bool.true_or]
  · rwa [Function.update_of_ne hkiller]

theorem covered_terminate (h : KillsCovered requesters s) (pid : Int)
    (hstep : s.step app requesters (.terminate request pid) = some s') :
    KillsCovered requesters s' := by
  cases hstep
  constructor
  · intro alert hmem killer hkiller
    dsimp only at hkiller
    rw [any_hits_eq hmem] at hkiller
    split at hkiller
    · rename_i hhits
      rcases List.mem_append.mp hkiller with hold | hnew
      · exact h.owner alert hmem killer hold
      · rw [List.mem_singleton.mp hnew]
        simp only [hits, Bool.and_eq_true, beq_iff_eq] at hhits
        exact hhits.1.1
    · exact h.owner alert hmem killer hkiller
  · intro n hn
    dsimp only at hn
    split at hn
    · rename_i hany
      obtain ⟨alert, hmem, hboth⟩ := List.any_eq_true.mp hany
      rw [Bool.and_eq_true, beq_iff_eq] at hboth
      rw [← hboth.1]
      exact s.alerts.pk_lt alert hmem
    · exact h.used n hn
  · intro alert hmem killer hkiller
    dsimp only at hkiller ⊢
    rw [any_hits_eq hmem] at hkiller
    split at hkiller
    · rename_i hhits
      rw [List.getLast?_append, List.getLast?_singleton, Option.some_or,
        Option.some.injEq] at hkiller
      subst hkiller
      simp only [hits, Bool.and_eq_true, Option.isNone_iff_eq_none] at hhits
      refine .inl ⟨hhits.1.2, ?_⟩
      rw [Function.update_self, involves_append, hhits.2, Bool.or_true]
    · exact (h.covered alert hmem killer hkiller).imp_left
        fun hopen => ⟨hopen.1, involves_update_append hopen.2⟩

theorem covered_update (h : KillsCovered requesters s)
    {change : LockAlert → LockAlert} (hkeeps : Keeps change)
    {cycles : Nat → CyclePhase} {unmarked : Nat → List Int}
    (hchange : ∀ old ∈ s.alerts.rows, ∀ killer,
      (s.killers old.pk).getLast? = some killer →
        ((change old).resolvedAt = none ∧
          involves (unmarked killer) (change old) = true) ∨
        MarkedFor requesters killer (change old)) :
    KillsCovered requesters
      { s with
        alerts := s.alerts.update change hkeeps
        cycles := cycles
        unmarked := unmarked } where
  owner alert hmem killer hkiller := by
    obtain ⟨old, hold, rfl⟩ := List.mem_map.mp hmem
    have hpk : (change old).pk = old.pk := hkeeps.pk old
    have hinstance : (change old).instancePk = old.instancePk :=
      congrArg Prod.fst (hkeeps.key old)
    rw [hpk] at hkiller
    rw [hinstance]
    exact h.owner old hold killer hkiller
  used := h.used
  covered alert hmem killer hkiller := by
    obtain ⟨old, hold, rfl⟩ := List.mem_map.mp hmem
    have hpk : (change old).pk = old.pk := hkeeps.pk old
    rw [hpk] at hkiller
    exact hchange old hold killer hkiller

theorem covered_mark (h : KillsCovered requesters s)
    (hguard : MarksInTime requesters s (.mark request))
    (hstep : s.step app requesters (.mark request) = some s') :
    KillsCovered requesters s' := by
  unfold RaceState.step at hstep
  dsimp only at hstep
  split at hstep
  · cases hstep
  · cases hstep
    refine covered_update h ((markManual_keeps _).ite _) ?_
    intro old hold killer hkiller
    by_cases hmarks : old.instancePk = (requesters request).inst.pk ∧
        old.resolvedAt = none ∧ involves (s.unmarked request) old = true
    · rw [if_pos hmarks]
      have hhits : hits (requesters request).inst (s.unmarked request) old =
          true := by
        simp [hits, hmarks.1, hmarks.2.1, hmarks.2.2]
      by_cases heq : killer = request
      · rw [heq]
        exact .inr ⟨rfl, rfl⟩
      · rcases hguard old hold hhits killer hkiller with hsame | hpending
        · exact absurd hsame heq
        · rw [Function.update_of_ne heq]
          exact .inl ⟨hmarks.2.1, hpending⟩
    · rw [if_neg hmarks]
      rcases h.covered old hold killer hkiller with ⟨hopen, hpending⟩ | hdone
      · have hne : killer ≠ request := by
          rintro rfl
          have howner := h.owner old hold killer (List.mem_of_getLast? hkiller)
          exact hmarks ⟨howner, hopen, hpending⟩
        rw [Function.update_of_ne hne]
        exact .inl ⟨hopen, hpending⟩
      · exact .inr hdone

theorem covered_resolve (h : KillsCovered requesters s) {cycle : Nat}
    (hguard : MarksInTime requesters s (.resolve cycle))
    (hstep : s.step app requesters (.resolve cycle) = some s') :
    KillsCovered requesters s' := by
  unfold RaceState.step at hstep
  dsimp only at hstep
  split at hstep
  · rename_i now clearIds hphase
    cases hstep
    refine covered_update h ((setResolved_keeps now).ite _) ?_
    intro old hold killer hkiller
    by_cases hread : old.pk ∈ clearIds
    · rw [if_pos hread]
      rcases h.covered old hold killer hkiller with ⟨hopen, hpending⟩ | hdone
      · have hclearing : s.clearing cycle = clearIds := by
          simp [RaceState.clearing, hphase]
        have hmarked := hguard old hold (by rwa [hclearing]) hopen killer
          hkiller
        rw [hpending] at hmarked
        cases hmarked
      · exact .inr hdone
    · rw [if_neg hread]
      exact h.covered old hold killer hkiller
  · cases hstep

theorem covered_autoClear (h : KillsCovered requesters s) {cycle : Nat}
    (hstep : s.step app requesters (.autoClear cycle) = some s') :
    KillsCovered requesters s' := by
  unfold RaceState.step at hstep
  dsimp only at hstep
  split at hstep
  · rename_i clearIds hphase
    cases hstep
    refine covered_update h (setAutoClear_keeps.ite _) ?_
    intro old hold killer hkiller
    by_cases hblank : old.pk ∈ clearIds ∧ old.clearReason = ""
    · rw [if_pos hblank]
      rcases h.covered old hold killer hkiller with hopen | hdone
      · exact .inl hopen
      · -- a marked row is not blank
        rw [hdone.1] at hblank
        exact absurd hblank.2 (by decide)
    · rw [if_neg hblank]
      exact h.covered old hold killer hkiller
  · cases hstep

theorem covered_step (h : KillsCovered requesters s)
    {statement : RaceStatement} (hguard : MarksInTime requesters s statement)
    (hstep : s.step app requesters statement = some s') :
    KillsCovered requesters s' := by
  cases statement with
  | terminate request pid => exact covered_terminate h pid hstep
  | mark request => exact covered_mark h hguard hstep
  | resolve cycle => exact covered_resolve h hguard hstep
  | autoClear cycle => exact covered_autoClear h hstep
  | fetch =>
      unfold RaceState.step at hstep
      dsimp only at hstep
      split at hstep
      · cases hstep
        exact covered_of_credit h (.refl _) _
      · cases hstep
  | read =>
      unfold RaceState.step at hstep
      dsimp only at hstep
      split at hstep
      · cases hstep
        exact covered_of_credit h (.refl _) _
      · cases hstep
  | upsert =>
      unfold RaceState.step at hstep
      dsimp only at hstep
      split at hstep
      · split at hstep
        · rename_i hstore
          cases hstep
          exact covered_of_credit h (upsertLockAlerts_credit hstore) _
        · cases hstep
          exact covered_of_credit h (.refl _) _
      · cases hstep

end Invariant

/--
In any interleaving in which no resolution overtakes a marking statement, all
resolved incidents are credited to the users whose kills hit them.
-/
theorem kills_credited {app : AppDatabase} {requesters : Nat → Requester}
    {start s : RaceState} {statements : List RaceStatement}
    (hrun : Run (Guarded (MarksInTime requesters)
      (Enabled (RaceState.step app requesters))) start statements s)
    (hstart : ∀ n, start.killers n = []) : KillsCredited requesters s := by
  refine credits_of_covered ?_
  induction hrun with
  | refl => exact ⟨by simp [hstart], by simp [hstart], by simp [hstart]⟩
  | snoc _ hstep ih => exact covered_step ih hstep.1 hstep.2

/-! ## A cycle between the kill and its mark -/

def sampleRequester : Requester :=
  ⟨sampleInstance .postgresql, ⟨7, "ann", true, true, true, false, true⟩⟩

def RaceState.quiet : RaceState :=
  ⟨.empty, fun _ => .idle, fun _ => [], fun _ => []⟩

def cycleStatements (now : Time) (blocking : List LockRow) :
    List RaceStatement :=
  [.fetch 0 1 120 now blocking, .upsert 0, .read 0, .resolve 0, .autoClear 0]

def sampleStep : RaceState → RaceStatement → Option RaceState :=
  RaceState.step ⟨fun _ => true, fun _ => true⟩ fun _ => sampleRequester

theorem kill_overtaken_by_cycle :
    ∃ s, Run (Enabled sampleStep) .quiet
        (cycleStatements 0 [⟨some 1, some 2, none, none, none, none, some 300⟩]
          ++ [.terminate 0 2] ++ cycleStatements 1 [] ++ [.mark 0]) s ∧
      ¬ KillsCredited (fun _ => sampleRequester) s := by
  have hsome : (execute sampleStep .quiet
      (cycleStatements 0 [⟨some 1, some 2, none, none, none, none, some 300⟩]
        ++ [.terminate 0 2] ++ cycleStatements 1 [] ++ [.mark 0])).map
          (fun s => (s.alerts.rows.map fun alert =>
            (alert.pk, alert.resolvedAt, alert.clearReason), s.killers 0)) =
      some ([(0, some 1, "auto_clear")], [0]) := by
    decide
  obtain ⟨s, hrun, hshown⟩ := Option.map_eq_some_iff.mp hsome
  obtain ⟨hrows, hkillers⟩ := Prod.mk.inj hshown
  refine ⟨s, run_of_execute hrun, ?_⟩
  intro hcredited
  obtain ⟨alert, hmem⟩ : ∃ alert, s.alerts.rows = [alert] := by
    rw [← List.length_eq_one_iff, ← List.length_map, hrows]
    rfl
  rw [hmem, List.map_singleton, List.cons.injEq, Prod.mk.injEq,
    Prod.mk.injEq] at hrows
  obtain ⟨⟨hpk, hresolved, hreason⟩, -⟩ := hrows
  have hmanual := hcredited alert (by simp [hmem]) (by simp [hresolved]) [] 0 []
    (by rw [hpk, hkillers]; rfl)
  rw [hreason] at hmanual
  exact absurd hmanual.1 (by decide)

theorem kill_marked_before_cycle :
    ∃ s, KillsCredited (fun _ => sampleRequester) s ∧
      (s.alerts.rows.map fun alert => (alert.resolvedAt, alert.clearedBy)) =
        [(some 1, "ann")] := by
  have hsome : (execute (fun s statement =>
      if MarksInTime (fun _ => sampleRequester) s statement then
        sampleStep s statement else none) .quiet
      (cycleStatements 0 [⟨some 1, some 2, none, none, none, none, some 300⟩]
        ++ [.terminate 0 2, .mark 0] ++ cycleStatements 1 [])).map
          (fun s => s.alerts.rows.map fun alert =>
            (alert.resolvedAt, alert.clearedBy)) =
      some [(some 1, "ann")] := by
    decide
  obtain ⟨s, hrun, hshown⟩ := Option.map_eq_some_iff.mp hsome
  exact ⟨s, kills_credited (run_of_execute_guarded hrun) (fun _ => rfl), hshown⟩

end HealthGrid.Kill
