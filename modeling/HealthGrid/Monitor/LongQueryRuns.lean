import HealthGrid.Foundation.Run
import HealthGrid.Monitor.LongQueries
import HealthGrid.Monitor.Snapshot
import HealthGrid.Monitor.SummaryChannel

/-!
# Runs of long-query calls

`process_long_queries` called again and again on one instance, with what each
call saw and attempted.  A call that raises has stored some of its candidates
and neither resolved nor announced anything.
-/

namespace HealthGrid.Monitor

open HealthGrid.Foundation HealthGrid.Foundation.PyText HealthGrid.Db

structure LongQueryCall where
  now : Time
  config : NotificationSettings
  activity : List ActivityRow
  deliver : List LongQueryAlert → Bool

def LongQueryCall.run (lib : TextLibrary) (app : AppDatabase)
    (instancePk : Nat) (call : LongQueryCall) : Call Exn LongQueryState Unit :=
  processLongQueries lib app call.config call.now instancePk call.activity
    call.deliver

def LongQueryCall.candidates (lib : TextLibrary) (call : LongQueryCall) :
    Dict String ActivityRow :=
  if call.config.manualQueryAlertEnabled then
    longQueryCandidates lib call.config call.activity
  else .empty

def LongQueryCall.windowOpen (call : LongQueryCall) : Bool :=
  lockNotificationsOpen call.config call.now

/-! ## Candidate keys -/

section Candidates

variable {lib : TextLibrary} {config : NotificationSettings}

private theorem mem_keys_foldl {rows : List ActivityRow}
    {dict : Dict String ActivityRow} {key : String} :
    key ∈ (rows.foldl (fun candidates row =>
        candidates.set (longQueryKey lib row) row) dict).keys ↔
      key ∈ dict.keys ∨ ∃ row ∈ rows, longQueryKey lib row = key := by
  induction rows generalizing dict with
  | nil => simp
  | cons row rows ih =>
      rw [List.foldl_cons, ih, Dict.mem_keys_set]
      simp only [List.exists_mem_cons_iff, eq_comm (a := key)]
      tauto

theorem mem_candidates {call : LongQueryCall} {key : String} :
    key ∈ (call.candidates lib).keys ↔
      call.config.manualQueryAlertEnabled = true ∧
        ∃ row ∈ call.activity, isLongQuery lib call.config row = true ∧
          longQueryKey lib row = key := by
  unfold LongQueryCall.candidates
  split
  · rename_i henabled
    unfold longQueryCandidates
    rw [mem_keys_foldl]
    simp [Dict.empty, Dict.keys, henabled, and_assoc]
  · rename_i hdisabled
    simp [Dict.empty, Dict.keys, hdisabled]

end Candidates

def longQueryValues (lib : TextLibrary) (row : ActivityRow) : List String :=
  [strPid row.pid, textOr row.usename "",
    (row.queryStart.map lib.strDatetime).getD "", textOr row.query ""]

theorem longQueryKey_eq_iff {lib : TextLibrary} {row row' : ActivityRow}
    (hcollision : NoCollision lib.sha256
      [nul.intercalate (longQueryValues lib row),
        nul.intercalate (longQueryValues lib row')])
    (hnul : ∀ value ∈ longQueryValues lib row, Char.ofNat 0 ∉ value.toList)
    (hnul' : ∀ value ∈ longQueryValues lib row',
      Char.ofNat 0 ∉ value.toList) :
    longQueryKey lib row = longQueryKey lib row' ↔
      longQueryValues lib row = longQueryValues lib row' := by
  constructor
  · intro h
    have hchars := congrArg String.toList h
    simp only [longQueryKey, String.toList_append, List.append_assoc,
      show (":" : String).toList = [':'] from rfl, List.singleton_append]
      at hchars
    have hpid : ∀ (pid : Option Int), ∀ c ∈ (strPid pid).toList, c ≠ ':' := by
      rintro pid c hmem rfl
      exact colon_not_mem_strPid pid hmem
    have hspan := span_inj (p := (· ≠ ':')) (hpid _) (hpid _) (by simp)
      (by simp) hchars
    have hdigest := String.toList_inj.mp (List.cons.inj hspan.2).2
    have htext := hcollision _ (List.mem_cons_self ..) _
      (List.mem_cons_of_mem _ (List.mem_singleton_self _)) hdigest
    exact intercalate_inj_of_ne_nil (by simp [longQueryValues])
      (by simp [longQueryValues]) hnul hnul' htext
  · intro h
    have hpid : strPid row.pid = strPid row'.pid := (List.cons.inj h).1
    calc longQueryKey lib row
        = strPid row.pid ++ ":" ++
            lib.sha256 (nul.intercalate (longQueryValues lib row)) := rfl
      _ = strPid row'.pid ++ ":" ++
            lib.sha256 (nul.intercalate (longQueryValues lib row')) := by
          rw [hpid, h]
      _ = longQueryKey lib row' := rfl

/-! ## What storing the candidates does -/

structure QueryFate where
  pk : Nat
  instancePk : Nat
  alertKey : String
  firstSeenAt : Time
  alertedAt : Option Time
  resolvedAt : Option Time
  deriving DecidableEq, Repr

def fate (alert : LongQueryAlert) : QueryFate where
  pk := alert.pk
  instancePk := alert.instancePk
  alertKey := alert.alertKey
  firstSeenAt := alert.firstSeenAt
  alertedAt := alert.alertedAt
  resolvedAt := alert.resolvedAt

def QueryFate.IsNew (instancePk : Nat) (now : Time) (keys : List String)
    (f : QueryFate) : Prop :=
  f.instancePk = instancePk ∧ f.alertKey ∈ keys ∧ f.firstSeenAt = now ∧
    f.alertedAt = none ∧ f.resolvedAt = none

structure Continues (instancePk : Nat) (now : Time) (keys : List String)
    (s s' : LongQueryState) : Prop where
  cards : s'.cards = s.cards
  kept : ∀ row ∈ s.alerts.rows, ∃ row' ∈ s'.alerts.rows, fate row' = fate row
  added : ∀ row' ∈ s'.alerts.rows,
    (∃ row ∈ s.alerts.rows, fate row' = fate row) ∨
      (fate row').IsNew instancePk now keys

section Storing

variable {app : AppDatabase} {now : Time} {instancePk : Nat}
  {alertKey : String} {row : ActivityRow} {s s' s'' : LongQueryState}
  {keys keys' : List String}

theorem Continues.refl (s : LongQueryState) :
    Continues instancePk now keys s s where
  cards := rfl
  kept row hmem := ⟨row, hmem, rfl⟩
  added row hmem := .inl ⟨row, hmem, rfl⟩

theorem Continues.trans (first : Continues instancePk now keys s s')
    (second : Continues instancePk now keys' s' s'') :
    Continues instancePk now (keys ++ keys') s s'' where
  cards := second.cards.trans first.cards
  kept row hmem := by
    obtain ⟨row', hmem', hfate⟩ := first.kept row hmem
    obtain ⟨row'', hmem'', hfate'⟩ := second.kept row' hmem'
    exact ⟨row'', hmem'', hfate'.trans hfate⟩
  added row'' hmem'' := by
    rcases second.added row'' hmem'' with ⟨row', hmem', hfate⟩ | hnew
    · rw [hfate]
      rcases first.added row' hmem' with hold | hnew
      · exact .inl hold
      · exact .inr ⟨hnew.1, List.mem_append_left _ hnew.2.1, hnew.2.2⟩
    · exact .inr ⟨hnew.1, List.mem_append_right _ hnew.2.1, hnew.2.2⟩

theorem Continues.mono (h : Continues instancePk now keys s s')
    (hsub : keys ⊆ keys') : Continues instancePk now keys' s s' where
  cards := h.cards
  kept := h.kept
  added row' hmem := (h.added row' hmem).imp_right fun hnew =>
    ⟨hnew.1, hsub hnew.2.1, hnew.2.2⟩

theorem storeLongQuery_continues (app : AppDatabase) (now : Time)
    (instancePk : Nat) (alertKey : String) (row : ActivityRow)
    (s : LongQueryState) :
    Continues instancePk now [alertKey] s
      (storeLongQuery app now instancePk alertKey row s).2 := by
  unfold storeLongQuery
  split
  · rename_i found hfind
    split
    · have hfate : ∀ alert : LongQueryAlert,
          fate (if alert.pk = found.pk then stillRunning now row alert
            else alert) = fate alert := by
        intro alert
        split <;> rfl
      constructor
      · rfl
      · intro alert hmem
        exact ⟨_, List.mem_map_of_mem hmem, hfate alert⟩
      · intro alert' hmem
        obtain ⟨alert, hold, rfl⟩ := List.mem_map.mp hmem
        exact .inl ⟨alert, hold, hfate alert⟩
    · exact .refl s
  · split
    · exact .refl s
    · split
      · constructor
        · rfl
        · intro alert hmem
          exact ⟨alert, List.mem_append_left _ hmem, rfl⟩
        · intro alert' hmem
          rcases List.mem_append.mp hmem with hold | hnew
          · exact .inl ⟨alert', hold, rfl⟩
          · rw [List.mem_singleton.mp hnew]
            exact .inr ⟨rfl, List.mem_singleton_self _, rfl, rfl, rfl⟩
      · exact .refl s

def NotYetAlerted (instancePk : Nat) (s : LongQueryState) (alertKey : String) :
    Bool :=
  (s.alerts.findOpen? (instancePk, alertKey)).all fun alert =>
    alert.alertedAt.isNone

theorem storeLongQuery_alert {alert : LongQueryAlert}
    (h : storeLongQuery app now instancePk alertKey row s = (.ok alert, s')) :
    alert ∈ s'.alerts.rows ∧ alert.instancePk = instancePk ∧
      alert.alertKey = alertKey ∧ alert.resolvedAt = none ∧
      alert.alertedAt.isNone = NotYetAlerted instancePk s alertKey := by
  unfold storeLongQuery at h
  unfold NotYetAlerted
  split at h
  · rename_i found hfind
    obtain ⟨hmem, hopen, hkey⟩ := OpenTable.findOpen?_spec hfind
    split at h
    · cases h
      refine ⟨?_, congrArg Prod.fst hkey, congrArg Prod.snd hkey, ?_, ?_⟩
      · exact List.mem_map.mpr ⟨found, hmem, if_pos rfl⟩
      · exact Option.isNone_iff_eq_none.mp hopen
      · rw [hfind]
        rfl
    · cases h
  · rename_i hfind
    split at h
    · cases h
    · split at h
      · cases h
        refine ⟨?_, rfl, rfl, rfl, ?_⟩
        · simp
        · rw [hfind]
          rfl
      · cases h

theorem Continues.notYetAlerted (h : Continues instancePk now keys s s')
    (hkey : alertKey ∉ keys) :
    NotYetAlerted instancePk s' alertKey =
      NotYetAlerted instancePk s alertKey := by
  unfold NotYetAlerted
  cases hfind : s.alerts.findOpen? (instancePk, alertKey) with
  | some found =>
      obtain ⟨hmem, hopen, hfound⟩ := OpenTable.findOpen?_spec hfind
      obtain ⟨found', hmem', hfate⟩ := h.kept found hmem
      have hfind' : s'.alerts.findOpen? (instancePk, alertKey) =
          some found' := by
        refine OpenTable.findOpen?_eq_some.mpr ⟨hmem', ?_, ?_⟩
        · exact (congrArg (fun f => f.resolvedAt.isNone) hfate).trans hopen
        · exact (congrArg (fun f => (f.instancePk, f.alertKey)) hfate).trans
            hfound
      rw [hfind']
      exact congrArg (fun f => f.alertedAt.isNone) hfate
  | none =>
      have hfind' : s'.alerts.findOpen? (instancePk, alertKey) = none := by
        refine OpenTable.findOpen?_eq_none.mpr fun row' hmem' hopen heq => ?_
        rcases h.added row' hmem' with ⟨row, hmem, hfate⟩ | hnew
        · refine OpenTable.findOpen?_eq_none.mp hfind row hmem ?_ ?_
          · exact (congrArg (fun f => f.resolvedAt.isNone) hfate).symm.trans
              hopen
          · exact (congrArg (fun f => (f.instancePk, f.alertKey))
              hfate).symm.trans heq
        · have hmemKey := hnew.2.1
          rw [show (fate row').alertKey = alertKey from
            congrArg Prod.snd heq] at hmemKey
          exact hkey hmemKey
      rw [hfind']

/-- Every key has its open row, and the unannounced ones are returned. -/
structure StoredAll (instancePk : Nat) (now : Time) (keys : List String)
    (s : LongQueryState) (newAlerts : List LongQueryAlert)
    (s' : LongQueryState) : Prop where
  continues : Continues instancePk now keys s s'
  tracked : ∀ k ∈ keys, ∃ row ∈ s'.alerts.rows, row.instancePk = instancePk ∧
    row.alertKey = k ∧ row.resolvedAt = none
  batch : newAlerts.map LongQueryAlert.alertKey =
    keys.filter (NotYetAlerted instancePk s)
  fresh : ∀ alert ∈ newAlerts, alert.instancePk = instancePk ∧
    alert.resolvedAt = none ∧ alert.alertedAt = none ∧
    ∃ row ∈ s'.alerts.rows, fate row = fate alert

theorem StoredAll.nil : StoredAll instancePk now [] s [] s where
  continues := .refl s
  tracked := by simp
  batch := rfl
  fresh := by simp

theorem StoredAll.cons {alert : LongQueryAlert} {later : List LongQueryAlert}
    (hfirst : storeLongQuery app now instancePk alertKey row s =
      (.ok alert, s'))
    (hlater : StoredAll instancePk now keys s' later s'')
    (hkey : alertKey ∉ keys) :
    StoredAll instancePk now (alertKey :: keys) s
      (if alert.alertedAt = none then alert :: later else later) s'' := by
  obtain ⟨hmem, hinstance, hkeyEq, hresolved, halerted⟩ :=
    storeLongQuery_alert hfirst
  have hcontinues : Continues instancePk now [alertKey] s s' := by
    have := storeLongQuery_continues app now instancePk alertKey row s
    rwa [hfirst] at this
  obtain ⟨row', hmem', hfate⟩ := hlater.continues.kept alert hmem
  constructor
  · exact hcontinues.trans hlater.continues
  · intro k hk
    rcases List.mem_cons.mp hk with rfl | hk
    · exact ⟨row', hmem', (congrArg QueryFate.instancePk hfate).trans hinstance,
        (congrArg QueryFate.alertKey hfate).trans hkeyEq,
        (congrArg QueryFate.resolvedAt hfate).trans hresolved⟩
    · exact hlater.tracked k hk
  · have hrest : keys.filter (NotYetAlerted instancePk s') =
        keys.filter (NotYetAlerted instancePk s) := by
      apply List.filter_congr
      intro k hk
      refine hcontinues.notYetAlerted ?_
      rw [List.mem_singleton]
      rintro rfl
      exact hkey hk
    rw [List.filter_cons, ← halerted, ← hrest, ← hlater.batch]
    cases alert.alertedAt with
    | none => simp [hkeyEq]
    | some _ => simp
  · intro other hother
    have hcases : (other = alert ∧ alert.alertedAt = none) ∨
        other ∈ later := by
      split at hother
      · rename_i hnone
        rcases List.mem_cons.mp hother with rfl | hother
        · exact .inl ⟨rfl, hnone⟩
        · exact .inr hother
      · exact .inr hother
    rcases hcases with ⟨rfl, hnone⟩ | hother
    · exact ⟨hinstance, hresolved, hnone, row', hmem', hfate⟩
    · exact hlater.fresh other hother

theorem storeLongQueries_continues (app : AppDatabase) (now : Time)
    (instancePk : Nat) (entries : List (String × ActivityRow))
    (s : LongQueryState) :
    Continues instancePk now (entries.map Prod.fst) s
      (storeLongQueries app now instancePk entries s).2 := by
  induction entries generalizing s with
  | nil => exact .refl s
  | cons entry entries ih =>
      obtain ⟨alertKey, row⟩ := entry
      have hfirst := storeLongQuery_continues app now instancePk alertKey row s
      rw [storeLongQueries]
      cases hrun : storeLongQuery app now instancePk alertKey row s with
      | mk result s' =>
          rw [hrun] at hfirst
          cases result with
          | error e =>
              rw [Call.bind_error hrun]
              exact hfirst.mono (by simp)
          | ok alert =>
              have hlater := hfirst.trans (ih s')
              rw [Call.bind_ok hrun]
              cases hrest : storeLongQueries app now instancePk entries s' with
              | mk result s'' =>
                  rw [hrest] at hlater
                  cases result with
                  | error e =>
                      rw [Call.bind_error hrest]
                      exact hlater
                  | ok later =>
                      rw [Call.bind_ok hrest]
                      exact hlater

theorem storeLongQueries_all {entries : List (String × ActivityRow)}
    {newAlerts : List LongQueryAlert} (hnodup : (entries.map Prod.fst).Nodup)
    (h : storeLongQueries app now instancePk entries s =
      (.ok newAlerts, s')) :
    StoredAll instancePk now (entries.map Prod.fst) s newAlerts s' := by
  induction entries generalizing s newAlerts with
  | nil =>
      cases h
      exact .nil
  | cons entry entries ih =>
      obtain ⟨alertKey, row⟩ := entry
      rw [List.map_cons, List.nodup_cons] at hnodup
      rw [storeLongQueries] at h
      cases hrun : storeLongQuery app now instancePk alertKey row s with
      | mk result middle =>
          cases result with
          | error e =>
              rw [Call.bind_error hrun] at h
              cases h
          | ok alert =>
              rw [Call.bind_ok hrun] at h
              cases hrest : storeLongQueries app now instancePk entries
                  middle with
              | mk result last =>
                  cases result with
                  | error e =>
                      rw [Call.bind_error hrest] at h
                      cases h
                  | ok later =>
                      rw [Call.bind_ok hrest] at h
                      cases h
                      exact .cons hrun (ih hnodup.2 hrest) hnodup.1

end Storing

/-! ## How a call ends -/

section Ends

variable {lib : TextLibrary} {app : AppDatabase} {instancePk : Nat}
  {call : LongQueryCall} {s s' middle : LongQueryState}
  {newAlerts : List LongQueryAlert}

def LongQueryCall.resolve (lib : TextLibrary) (instancePk : Nat)
    (call : LongQueryCall) (s : LongQueryState) : LongQueryState :=
  resolveLongQueries call.now instancePk (call.candidates lib).keys s

inductive LongQueryEnd (lib : TextLibrary) (instancePk : Nat)
    (call : LongQueryCall) (s : LongQueryState) :
    Except Exn Unit → LongQueryState → Prop
  | raised {e : Exn} {s' : LongQueryState}
      (hstored : Continues instancePk call.now (call.candidates lib).keys s
        s') :
      LongQueryEnd lib instancePk call s (.error e) s'
  | quiet {newAlerts : List LongQueryAlert} {middle : LongQueryState}
      (hstored : StoredAll instancePk call.now (call.candidates lib).keys s
        newAlerts middle)
      (hquiet : newAlerts = [] ∨ call.windowOpen = false) :
      LongQueryEnd lib instancePk call s (.ok ())
        (call.resolve lib instancePk middle)
  | notified {newAlerts : List LongQueryAlert} {middle : LongQueryState}
      (hstored : StoredAll instancePk call.now (call.candidates lib).keys s
        newAlerts middle)
      (hnew : newAlerts ≠ []) (hopen : call.windowOpen = true) :
      LongQueryEnd lib instancePk call s (.ok ())
        (notifyLongQueries call.now instancePk call.deliver newAlerts
          (call.resolve lib instancePk middle))

theorem longQuery_end (lib : TextLibrary) (app : AppDatabase)
    (instancePk : Nat) (call : LongQueryCall) (s : LongQueryState) :
    LongQueryEnd lib instancePk call s (call.run lib app instancePk s).1
      (call.run lib app instancePk s).2 := by
  unfold LongQueryCall.run processLongQueries
  cases henabled : call.config.manualQueryAlertEnabled with
  | false =>
      have hnone : call.candidates lib = .empty := by
        simp [LongQueryCall.candidates, henabled]
      have hstored : StoredAll instancePk call.now (call.candidates lib).keys s
          [] s := by
        rw [hnone]
        exact .nil
      have hquiet := LongQueryEnd.quiet hstored (.inl rfl)
      unfold LongQueryCall.resolve at hquiet
      rw [hnone] at hquiet
      rw [if_neg Bool.false_ne_true]
      exact hquiet
  | true =>
      have hsome : call.candidates lib =
          longQueryCandidates lib call.config call.activity := by
        simp [LongQueryCall.candidates, henabled]
      rw [if_pos rfl, ← hsome]
      cases hrun : storeLongQueries app call.now instancePk
          (call.candidates lib).entries s with
      | mk result middle =>
          cases result with
          | error e =>
              have hcontinues := storeLongQueries_continues app call.now
                instancePk (call.candidates lib).entries s
              rw [hrun] at hcontinues
              rw [Call.bind_error hrun]
              exact .raised hcontinues
          | ok newAlerts =>
              have hstored := storeLongQueries_all (Dict.keys_nodup _) hrun
              rw [Call.bind_ok hrun, Call.bind_ok (Call.modify_run _ _)]
              split
              · rename_i hsend
                rw [Bool.and_eq_true, Bool.not_eq_true',
                  List.isEmpty_eq_false_iff] at hsend
                exact .notified hstored hsend.1 hsend.2
              · rename_i hskip
                refine .quiet hstored ?_
                rw [Bool.and_eq_true, Bool.not_eq_true',
                  List.isEmpty_eq_false_iff, not_and, Bool.not_eq_true]
                  at hskip
                by_cases hnil : newAlerts = []
                · exact .inl hnil
                · exact .inr (hskip hnil)

end Ends

/-! ## Recorded calls -/

structure CallRecord where
  call : LongQueryCall
  before : LongQueryState
  returned : Bool
  after : LongQueryState

def callRecord (lib : TextLibrary) (app : AppDatabase) (instancePk : Nat)
    (s : LongQueryState) (call : LongQueryCall) : CallRecord where
  call := call
  before := s
  returned := (call.run lib app instancePk s).1.isOk
  after := (call.run lib app instancePk s).2

namespace CallRecord

variable (record : CallRecord) (lib : TextLibrary) (instancePk pk : Nat)
  (alertKey : String)

def batch : Option (List LongQueryAlert × Bool) :=
  (record.after.cards.drop record.before.cards.length).head?.map Prod.snd

def delivered : Bool := record.batch.any Prod.snd

def delivers : Bool :=
  record.batch.any fun batch =>
    batch.2 && decide (pk ∈ batch.1.map LongQueryAlert.pk)

def lacks : Bool :=
  record.returned && decide (alertKey ∉ (record.call.candidates lib).keys)

def settle (alert : LongQueryAlert) : LongQueryAlert :=
  let resolved :=
    if alert.instancePk = instancePk ∧ alert.resolvedAt = none ∧
        alert.alertKey ∉ (record.call.candidates lib).keys then
      longQueryResolved record.call.now alert
    else alert
  if record.delivers alert.pk then longQueryAlerted record.call.now resolved
  else resolved

structure Returned (newAlerts : List LongQueryAlert) (middle : LongQueryState) :
    Prop where
  stored : StoredAll instancePk record.call.now
    (record.call.candidates lib).keys record.before newAlerts middle
  batch : record.batch =
    if newAlerts ≠ [] ∧ record.call.windowOpen = true then
      some (newAlerts, record.call.deliver newAlerts)
    else none
  rows : record.after.alerts.rows =
    middle.alerts.rows.map (record.settle lib instancePk)

end CallRecord

section Records

variable {lib : TextLibrary} {app : AppDatabase} {instancePk : Nat}
  {call : LongQueryCall} {s : LongQueryState} {record : CallRecord}

theorem settle_of_not_delivers {alert : LongQueryAlert}
    (h : record.delivers alert.pk = false) :
    record.settle lib instancePk alert =
      if alert.instancePk = instancePk ∧ alert.resolvedAt = none ∧
          alert.alertKey ∉ (record.call.candidates lib).keys then
        longQueryResolved record.call.now alert
      else alert := by
  unfold CallRecord.settle
  rw [h]
  simp

theorem settle_part {α : Type} {alert : LongQueryAlert}
    (part : LongQueryAlert → α)
    (hresolve : ∀ alert,
      part (longQueryResolved record.call.now alert) = part alert)
    (halert : ∀ alert,
      part (longQueryAlerted record.call.now alert) = part alert) :
    part (record.settle lib instancePk alert) = part alert := by
  unfold CallRecord.settle
  dsimp only
  split
  · rw [halert]
    split
    · exact hresolve alert
    · rfl
  · split
    · exact hresolve alert
    · rfl

theorem settle_of_resolved {alert : LongQueryAlert}
    (h : alert.resolvedAt ≠ none) :
    (record.settle lib instancePk alert).resolvedAt = alert.resolvedAt := by
  have hclosed : ¬ (alert.instancePk = instancePk ∧ alert.resolvedAt = none ∧
      alert.alertKey ∉ (record.call.candidates lib).keys) :=
    fun hopen => h hopen.2.1
  unfold CallRecord.settle
  dsimp only
  rw [if_neg hclosed]
  split <;> rfl

theorem settle_alertedAt {alert : LongQueryAlert} :
    (record.settle lib instancePk alert).alertedAt =
      if record.delivers alert.pk then some record.call.now
      else alert.alertedAt := by
  unfold CallRecord.settle
  dsimp only
  split
  · rfl
  · split <;> rfl

theorem callRecord_raised
    (h : (callRecord lib app instancePk s call).returned = false) :
    Continues instancePk call.now (call.candidates lib).keys s
      (callRecord lib app instancePk s call).after := by
  have hend := longQuery_end lib app instancePk call s
  unfold callRecord at h ⊢
  dsimp only at h ⊢
  generalize (call.run lib app instancePk s).1 = result at h hend
  generalize (call.run lib app instancePk s).2 = after at hend ⊢
  cases hend with
  | raised hstored => exact hstored
  | quiet => cases h
  | notified => cases h

theorem batch_of_cards (h : record.after.cards = record.before.cards) :
    record.batch = none := by
  unfold CallRecord.batch
  rw [h, List.drop_length]
  rfl

theorem delivers_of_batch_none (h : record.batch = none) (n : Nat) :
    record.delivers n = false := by
  simp [CallRecord.delivers, h]

section Notified

variable {newAlerts : List LongQueryAlert} {middle : LongQueryState}

theorem notified_batch (hcards : middle.cards = s.cards) :
    CallRecord.batch ⟨call, s, true, notifyLongQueries call.now instancePk
      call.deliver newAlerts (call.resolve lib instancePk middle)⟩ =
      some (newAlerts, call.deliver newAlerts) := by
  unfold CallRecord.batch notifyLongQueries LongQueryCall.resolve
    resolveLongQueries markLongQueriesAlerted
  dsimp only
  rw [← hcards]
  split <;> simp

theorem notified_rows (hcards : middle.cards = s.cards) :
    (notifyLongQueries call.now instancePk call.deliver newAlerts
        (call.resolve lib instancePk middle)).alerts.rows =
      middle.alerts.rows.map (CallRecord.settle ⟨call, s, true,
        notifyLongQueries call.now instancePk call.deliver newAlerts
          (call.resolve lib instancePk middle)⟩ lib instancePk) := by
  have hdelivers : ∀ n, CallRecord.delivers ⟨call, s, true,
      notifyLongQueries call.now instancePk call.deliver newAlerts
        (call.resolve lib instancePk middle)⟩ n =
      (call.deliver newAlerts &&
        decide (n ∈ newAlerts.map LongQueryAlert.pk)) := by
    intro n
    unfold CallRecord.delivers
    rw [notified_batch hcards]
    rfl
  cases hdeliver : call.deliver newAlerts with
  | false =>
      have hrows : (notifyLongQueries call.now instancePk call.deliver
          newAlerts (call.resolve lib instancePk middle)).alerts.rows =
          (call.resolve lib instancePk middle).alerts.rows := by
        simp [notifyLongQueries, hdeliver]
      refine hrows.trans (List.map_congr_left fun alert _ => ?_)
      have hnot := hdelivers alert.pk
      rw [hdeliver, Bool.false_and] at hnot
      exact (settle_of_not_delivers hnot).symm
  | true =>
      have hrows : (notifyLongQueries call.now instancePk call.deliver
          newAlerts (call.resolve lib instancePk middle)).alerts.rows =
          (call.resolve lib instancePk middle).alerts.rows.map
            fun alert =>
              if alert.pk ∈ newAlerts.map LongQueryAlert.pk then
                longQueryAlerted call.now alert
              else alert := by
        simp [notifyLongQueries, hdeliver, markLongQueriesAlerted]
      refine hrows.trans ?_
      refine (List.map_map ..).trans (List.map_congr_left ?_)
      intro alert _
      unfold CallRecord.settle
      rw [hdelivers, hdeliver, Bool.true_and]
      dsimp only [Function.comp]
      have hpk : (if alert.instancePk = instancePk ∧
          alert.resolvedAt = none ∧
          alert.alertKey ∉ (call.candidates lib).keys then
            longQueryResolved call.now alert
          else alert).pk = alert.pk := by
        split <;> rfl
      rw [hpk]
      simp only [decide_eq_true_eq]

end Notified

theorem callRecord_returned
    (h : (callRecord lib app instancePk s call).returned = true) :
    ∃ newAlerts middle, (callRecord lib app instancePk s call).Returned lib
      instancePk newAlerts middle := by
  have hend := longQuery_end lib app instancePk call s
  unfold callRecord at h ⊢
  generalize hresult : (call.run lib app instancePk s).1 = result at h hend ⊢
  generalize (call.run lib app instancePk s).2 = after at h hend ⊢
  cases hend with
  | raised hstored => cases h
  | @quiet newAlerts middle hstored hquiet =>
      have hbatch : CallRecord.batch ⟨call, s, true,
          call.resolve lib instancePk middle⟩ = none :=
        batch_of_cards hstored.continues.cards
      refine ⟨newAlerts, middle, hstored, ?_, ?_⟩
      · refine hbatch.trans (if_neg ?_).symm
        rintro ⟨hnew, hopen⟩
        rcases hquiet with hnil | hclosed
        · exact hnew hnil
        · exact absurd (hopen.symm.trans hclosed) (by simp)
      · apply List.map_congr_left
        intro alert _
        exact (settle_of_not_delivers (delivers_of_batch_none hbatch _)).symm
  | @notified newAlerts middle hstored hnew hopen =>
      refine ⟨newAlerts, middle, hstored, ?_, ?_⟩
      · rw [if_pos ⟨hnew, hopen⟩]
        exact notified_batch hstored.continues.cards
      · exact notified_rows hstored.continues.cards

/-! ## What one call does to a row -/

theorem StoredAll.fresh_row {keys : List String} {now : Time}
    {newAlerts : List LongQueryAlert} {s middle : LongQueryState}
    (h : StoredAll instancePk now keys s newAlerts middle)
    {row : LongQueryAlert} (hmem : row ∈ middle.alerts.rows)
    (hpk : row.pk ∈ newAlerts.map LongQueryAlert.pk) :
    ∃ alert ∈ newAlerts, alert.instancePk = instancePk ∧
      alert.resolvedAt = none ∧ alert.alertedAt = none ∧
      fate row = fate alert := by
  obtain ⟨alert, halert, heq⟩ := List.mem_map.mp hpk
  obtain ⟨hinstance, hresolved, halerted, row', hmem', hfate⟩ :=
    h.fresh alert halert
  have hsame : row' = row := by
    refine OpenTable.eq_of_pk_eq hmem' hmem ?_
    exact (congrArg QueryFate.pk hfate).trans heq
  subst hsame
  exact ⟨alert, halert, hinstance, hresolved, halerted, hfate⟩

theorem StoredAll.notYetAlerted {keys : List String} {now : Time}
    {newAlerts : List LongQueryAlert} {s middle : LongQueryState}
    (h : StoredAll instancePk now keys s newAlerts middle)
    {row : LongQueryAlert} (hmem : row ∈ middle.alerts.rows)
    (hopen : isOpen row = true) (hkey : key row = (instancePk, row.alertKey))
    (halerted : row.alertedAt = none) :
    NotYetAlerted instancePk s row.alertKey = true := by
  unfold NotYetAlerted
  rw [Option.all_eq_true]
  intro found hfind
  obtain ⟨hfound, hfoundOpen, hfoundKey⟩ := OpenTable.findOpen?_spec hfind
  obtain ⟨row', hmem', hfate⟩ := h.continues.kept found hfound
  have hsame : row' = row := by
    refine OpenTable.eq_of_open hmem' hmem ?_ hopen ?_
    · exact (congrArg (fun f => f.resolvedAt.isNone) hfate).trans hfoundOpen
    · exact (congrArg (fun f => (f.instancePk, f.alertKey)) hfate).trans
        (hfoundKey.trans hkey.symm)
  subst hsame
  rw [← show row'.alertedAt = found.alertedAt from
    congrArg QueryFate.alertedAt hfate, halerted]
  rfl

theorem StoredAll.mem_batch_iff {keys : List String} {now : Time}
    {newAlerts : List LongQueryAlert} {s middle : LongQueryState}
    (h : StoredAll instancePk now keys s newAlerts middle)
    {row : LongQueryAlert} (hmem : row ∈ middle.alerts.rows)
    (hinstance : row.instancePk = instancePk) :
    row.pk ∈ newAlerts.map LongQueryAlert.pk ↔
      row.alertedAt = none ∧ row.resolvedAt = none ∧ row.alertKey ∈ keys := by
  constructor
  · intro hpk
    obtain ⟨alert, halert, -, hresolved, halerted, hfate⟩ :=
      h.fresh_row hmem hpk
    have hkey : alert.alertKey ∈ newAlerts.map LongQueryAlert.alertKey :=
      List.mem_map_of_mem halert
    rw [h.batch, List.mem_filter] at hkey
    refine ⟨(congrArg QueryFate.alertedAt hfate).trans halerted,
      (congrArg QueryFate.resolvedAt hfate).trans hresolved, ?_⟩
    rw [show row.alertKey = alert.alertKey from
      congrArg QueryFate.alertKey hfate]
    exact hkey.1
  · rintro ⟨halerted, hresolved, hkey⟩
    have hopen : isOpen row = true := Option.isNone_iff_eq_none.mpr hresolved
    have hrowKey : key row = (instancePk, row.alertKey) :=
      congrArg (fun n => (n, row.alertKey)) hinstance
    have hbatch : row.alertKey ∈ newAlerts.map LongQueryAlert.alertKey := by
      rw [h.batch, List.mem_filter]
      exact ⟨hkey, h.notYetAlerted hmem hopen hrowKey halerted⟩
    obtain ⟨alert, halert, heq⟩ := List.mem_map.mp hbatch
    obtain ⟨halertInstance, halertResolved, -, row', hmem', hfate⟩ :=
      h.fresh alert halert
    have hsame : row' = row := by
      refine OpenTable.eq_of_open hmem' hmem ?_ hopen ?_
      · exact Option.isNone_iff_eq_none.mpr
          ((congrArg QueryFate.resolvedAt hfate).trans halertResolved)
      · refine (congrArg (fun f => (f.instancePk, f.alertKey)) hfate).trans ?_
        rw [hrowKey]
        exact Prod.ext halertInstance heq
    subst hsame
    exact List.mem_map.mpr ⟨alert, halert, (congrArg QueryFate.pk hfate).symm⟩

structure Advances (lib : TextLibrary) (record : CallRecord)
    (f f' : QueryFate) : Prop where
  pk : f'.pk = f.pk
  alertKey : f'.alertKey = f.alertKey
  firstSeenAt : f'.firstSeenAt = f.firstSeenAt
  resolvedAt : f'.resolvedAt = f.resolvedAt.or
    (if record.lacks lib f.alertKey then some record.call.now else none)
  alertedAt : f'.alertedAt =
    if record.delivers f.pk then some record.call.now else f.alertedAt
  delivers : record.delivers f.pk = true ↔
    record.delivered = true ∧ f.alertedAt = none ∧ f'.resolvedAt = none

theorem Advances.refl {f : QueryFate} (hreturned : record.returned = false)
    (hbatch : record.batch = none) : Advances lib record f f where
  pk := rfl
  alertKey := rfl
  firstSeenAt := rfl
  resolvedAt := by simp [CallRecord.lacks, hreturned]
  alertedAt := by simp [delivers_of_batch_none hbatch]
  delivers := by simp [CallRecord.delivers, CallRecord.delivered, hbatch]

theorem CallRecord.Returned.delivers_iff {newAlerts : List LongQueryAlert}
    {middle : LongQueryState}
    (h : record.Returned lib instancePk newAlerts middle) (n : Nat) :
    record.delivers n = true ↔
      record.delivered = true ∧ n ∈ newAlerts.map LongQueryAlert.pk := by
  unfold CallRecord.delivers CallRecord.delivered
  rw [h.batch]
  split <;> simp

theorem CallRecord.Returned.batch_of_delivered {newAlerts : List LongQueryAlert}
    {middle : LongQueryState}
    (h : record.Returned lib instancePk newAlerts middle)
    (hdelivered : record.delivered = true) :
    record.batch = some (newAlerts, true) := by
  have hbatch := h.batch
  unfold CallRecord.delivered at hdelivered
  split at hbatch
  · rw [hbatch] at hdelivered ⊢
    rw [show record.call.deliver newAlerts = true from hdelivered]
  · rw [hbatch] at hdelivered
    cases hdelivered

theorem CallRecord.Returned.advances {newAlerts : List LongQueryAlert}
    {middle : LongQueryState} (hreturned : record.returned = true)
    (h : record.Returned lib instancePk newAlerts middle)
    {row : LongQueryAlert} (hmem : row ∈ middle.alerts.rows)
    (hinstance : row.instancePk = instancePk) :
    Advances lib record (fate row)
      (fate (record.settle lib instancePk row)) := by
  have hbatch := (h.delivers_iff row.pk).trans
    (and_congr_right fun _ => h.stored.mem_batch_iff hmem hinstance)
  have hlacks : record.lacks lib row.alertKey =
      decide (row.alertKey ∉ (record.call.candidates lib).keys) := by
    simp [CallRecord.lacks, hreturned]
  have hresolved : (record.settle lib instancePk row).resolvedAt =
      row.resolvedAt.or (if record.lacks lib row.alertKey then
        some record.call.now else none) := by
    rw [hlacks]
    cases hrow : row.resolvedAt with
    | none =>
        by_cases hkey : row.alertKey ∈ (record.call.candidates lib).keys
        · simp only [CallRecord.settle, hkey]
          split <;> simp [longQueryAlerted, hrow]
        · simp only [CallRecord.settle, hinstance, hrow, hkey]
          split <;> simp [longQueryAlerted, longQueryResolved]
    | some _ =>
        simp only [CallRecord.settle, hrow]
        split <;> simp [longQueryAlerted, hrow]
  refine ⟨settle_part LongQueryAlert.pk (fun _ => rfl) (fun _ => rfl),
    settle_part LongQueryAlert.alertKey (fun _ => rfl) (fun _ => rfl),
    settle_part LongQueryAlert.firstSeenAt (fun _ => rfl) (fun _ => rfl),
    hresolved, settle_alertedAt, hbatch.trans ?_⟩
  refine and_congr_right fun _ => and_congr_right fun _ => ?_
  change _ ↔ (record.settle lib instancePk row).resolvedAt = none
  rw [hresolved, hlacks, Option.or_eq_none_iff]
  simp

theorem callRecord_advances {row' : LongQueryAlert}
    (hmem : row' ∈ (callRecord lib app instancePk s call).after.alerts.rows)
    (hinstance : row'.instancePk = instancePk) :
    ∃ f : QueryFate,
      Advances lib (callRecord lib app instancePk s call) f (fate row') ∧
      ((∃ row ∈ s.alerts.rows, row.instancePk = instancePk ∧ f = fate row) ∨
        f.IsNew instancePk call.now (call.candidates lib).keys) := by
  have horigin : ∀ {keys : List String} {middle : LongQueryState}
      {row : LongQueryAlert}, Continues instancePk call.now keys s middle →
      row ∈ middle.alerts.rows → row.instancePk = instancePk →
      (∃ old ∈ s.alerts.rows, old.instancePk = instancePk ∧
        fate row = fate old) ∨
        (fate row).IsNew instancePk call.now keys := by
    intro keys middle row hcontinues hrow hrowInstance
    refine (hcontinues.added row hrow).imp_left ?_
    rintro ⟨old, hold, hfate⟩
    exact ⟨old, hold, (congrArg QueryFate.instancePk hfate).symm.trans
      hrowInstance, hfate⟩
  cases hreturned : (callRecord lib app instancePk s call).returned with
  | false =>
      have hstored := callRecord_raised hreturned
      refine ⟨fate row', .refl hreturned (batch_of_cards hstored.cards), ?_⟩
      exact horigin hstored hmem hinstance
  | true =>
      obtain ⟨newAlerts, middle, h⟩ := callRecord_returned hreturned
      rw [h.rows] at hmem
      obtain ⟨row, hrow, rfl⟩ := List.mem_map.mp hmem
      have hrowInstance : row.instancePk = instancePk :=
        (settle_part LongQueryAlert.instancePk (fun _ => rfl)
          (fun _ => rfl)).symm.trans hinstance
      exact ⟨fate row, h.advances hreturned hrow hrowInstance,
        horigin h.stored.continues hrow hrowInstance⟩

theorem callRecord_keeps (lib : TextLibrary) (app : AppDatabase)
    (instancePk : Nat) (call : LongQueryCall) {row : LongQueryAlert}
    (hmem : row ∈ s.alerts.rows) :
    ∃ row' ∈ (callRecord lib app instancePk s call).after.alerts.rows,
      row'.pk = row.pk ∧ row'.alertKey = row.alertKey ∧
      row'.instancePk = row.instancePk ∧ row'.firstSeenAt = row.firstSeenAt ∧
      (row.resolvedAt ≠ none → row'.resolvedAt = row.resolvedAt) := by
  cases hreturned : (callRecord lib app instancePk s call).returned with
  | false =>
      obtain ⟨row', hmem', hfate⟩ := (callRecord_raised hreturned).kept row hmem
      exact ⟨row', hmem', congrArg QueryFate.pk hfate,
        congrArg QueryFate.alertKey hfate, congrArg QueryFate.instancePk hfate,
        congrArg QueryFate.firstSeenAt hfate,
        fun _ => congrArg QueryFate.resolvedAt hfate⟩
  | true =>
      obtain ⟨newAlerts, middle, h⟩ := callRecord_returned hreturned
      obtain ⟨row', hmem', hfate⟩ := h.stored.continues.kept row hmem
      have hresolved : row'.resolvedAt = row.resolvedAt :=
        congrArg QueryFate.resolvedAt hfate
      rw [h.rows]
      refine ⟨_, List.mem_map_of_mem hmem', ?_, ?_, ?_, ?_, ?_⟩
      · exact (settle_part LongQueryAlert.pk (fun _ => rfl)
          (fun _ => rfl)).trans (congrArg QueryFate.pk hfate)
      · exact (settle_part LongQueryAlert.alertKey (fun _ => rfl)
          (fun _ => rfl)).trans (congrArg QueryFate.alertKey hfate)
      · exact (settle_part LongQueryAlert.instancePk (fun _ => rfl)
          (fun _ => rfl)).trans (congrArg QueryFate.instancePk hfate)
      · exact (settle_part LongQueryAlert.firstSeenAt (fun _ => rfl)
          (fun _ => rfl)).trans (congrArg QueryFate.firstSeenAt hfate)
      · intro hne
        rw [settle_of_resolved (by rwa [hresolved]), hresolved]

theorem callRecord_delivers {n : Nat}
    (h : (callRecord lib app instancePk s call).delivers n = true) :
    ∃ row' ∈ (callRecord lib app instancePk s call).after.alerts.rows,
      row'.pk = n ∧ row'.instancePk = instancePk := by
  cases hreturned : (callRecord lib app instancePk s call).returned with
  | false =>
      have hbatch := batch_of_cards (callRecord_raised hreturned).cards
      rw [delivers_of_batch_none hbatch] at h
      cases h
  | true =>
      obtain ⟨newAlerts, middle, hrecord⟩ := callRecord_returned hreturned
      obtain ⟨-, hmem⟩ := (hrecord.delivers_iff n).mp h
      obtain ⟨alert, halert, rfl⟩ := List.mem_map.mp hmem
      obtain ⟨hinstance, -, -, row, hrow, hfate⟩ :=
        hrecord.stored.fresh alert halert
      rw [hrecord.rows]
      refine ⟨_, List.mem_map_of_mem hrow, ?_, ?_⟩
      · exact (settle_part LongQueryAlert.pk (fun _ => rfl)
          (fun _ => rfl)).trans (congrArg QueryFate.pk hfate)
      · exact (settle_part LongQueryAlert.instancePk (fun _ => rfl)
          (fun _ => rfl)).trans
            ((congrArg QueryFate.instancePk hfate).trans hinstance)

end Records

/-! ## Runs -/

structure LongQueryWatch where
  state : LongQueryState
  history : List CallRecord

def LongQueryWatch.Step (lib : TextLibrary) (app : AppDatabase)
    (instancePk : Nat) (w : LongQueryWatch) (call : LongQueryCall)
    (w' : LongQueryWatch) : Prop :=
  (∀ record ∈ w.history, record.call.now < call.now) ∧
    w' = ⟨(callRecord lib app instancePk w.state call).after,
      w.history ++ [callRecord lib app instancePk w.state call]⟩

def callsSince (time : Time) (history : List CallRecord) : List CallRecord :=
  history.filter fun record => decide (time ≤ record.call.now)

def deliveries (pk : Nat) (history : List CallRecord) : List CallRecord :=
  history.filter fun record => record.delivers pk

/--
A row is resolved by the first call since its creation that lacks its key,
and delivered by the first one that delivers anything, unless resolved by then.
-/
structure AnnouncedOnce (lib : TextLibrary) (history : List CallRecord)
    (f : QueryFate) : Prop where
  resolved : f.resolvedAt =
    ((callsSince f.firstSeenAt history).find? fun record =>
      record.lacks lib f.alertKey).map (·.call.now)
  deliveries : deliveries f.pk history =
    (((callsSince f.firstSeenAt history).find? CallRecord.delivered).filter
      fun record => record.delivers f.pk).toList
  missed : ∀ record,
    (callsSince f.firstSeenAt history).find? CallRecord.delivered =
      some record → record.delivers f.pk = false →
      ∃ time, f.resolvedAt = some time ∧ time ≤ record.call.now
  alerted : f.alertedAt =
    (Monitor.deliveries f.pk history).head?.map (·.call.now)

section Runs

variable {lib : TextLibrary} {app : AppDatabase} {instancePk : Nat}
  {history : List CallRecord} {record : CallRecord} {f f' : QueryFate}

theorem callsSince_snoc {time : Time} (h : time ≤ record.call.now) :
    callsSince time (history ++ [record]) =
      callsSince time history ++ [record] := by
  simp [callsSince, List.filter_append, h]

theorem deliveries_snoc (n : Nat) :
    deliveries n (history ++ [record]) =
      deliveries n history ++ if record.delivers n then [record] else [] := by
  unfold deliveries
  rw [List.filter_append]
  congr 1
  cases h : record.delivers n <;> simp [h]

theorem AnnouncedOnce.resolved_lt (h : AnnouncedOnce lib history f)
    {time last : Time} (hclock : ∀ record ∈ history, record.call.now < last)
    (hresolved : f.resolvedAt = some time) : time < last := by
  rw [h.resolved, Option.map_eq_some_iff] at hresolved
  obtain ⟨record, hfind, rfl⟩ := hresolved
  exact hclock record
    (List.mem_of_mem_filter (List.mem_of_find?_eq_some hfind))

theorem AnnouncedOnce.alerted_eq_none (h : AnnouncedOnce lib history f) :
    f.alertedAt = none ↔ Monitor.deliveries f.pk history = [] := by
  rw [h.alerted, Option.map_eq_none_iff, List.head?_eq_none_iff]

theorem AnnouncedOnce.none_delivered (h : AnnouncedOnce lib history f)
    (hunsent : Monitor.deliveries f.pk history = [])
    (hopen : f.resolvedAt = none) :
    (callsSince f.firstSeenAt history).find? CallRecord.delivered = none := by
  rw [Option.eq_none_iff_forall_not_mem]
  intro other hother
  cases hdelivers : other.delivers f.pk with
  | true =>
      have hlist := h.deliveries
      rw [hunsent, hother] at hlist
      simp [Option.filter, hdelivers] at hlist
  | false =>
      obtain ⟨time, htime, -⟩ := h.missed other hother hdelivers
      rw [htime] at hopen
      cases hopen

theorem callsSince_advances (hadvance : Advances lib record f f')
    (hcreated : f.firstSeenAt ≤ record.call.now) :
    callsSince f'.firstSeenAt (history ++ [record]) =
      callsSince f.firstSeenAt history ++ [record] := by
  rw [hadvance.firstSeenAt, callsSince_snoc hcreated]

theorem AnnouncedOnce.resolved_snoc (h : AnnouncedOnce lib history f)
    (hadvance : Advances lib record f f')
    (hcreated : f.firstSeenAt ≤ record.call.now) :
    f'.resolvedAt =
      ((callsSince f'.firstSeenAt (history ++ [record])).find? fun other =>
        other.lacks lib f'.alertKey).map (·.call.now) := by
  rw [callsSince_advances hadvance hcreated, find?_snoc, hadvance.alertKey,
    hadvance.resolvedAt, h.resolved, Option.map_or]
  split <;> rfl

theorem AnnouncedOnce.resolved_le (h : AnnouncedOnce lib history f)
    (hadvance : Advances lib record f f')
    (hclock : ∀ other ∈ history, other.call.now < record.call.now)
    {time : Time} (htime : f'.resolvedAt = some time) :
    time ≤ record.call.now := by
  have hcases := hadvance.resolvedAt
  rw [htime] at hcases
  cases hold : f.resolvedAt with
  | none =>
      rw [hold, Option.none_or] at hcases
      split at hcases
      · cases hcases
        exact le_refl _
      · cases hcases
  | some earlier =>
      rw [hold, Option.some_or, Option.some.injEq] at hcases
      subst hcases
      exact le_of_lt (h.resolved_lt hclock hold)

theorem announcedOnce_delivered (h : AnnouncedOnce lib history f)
    (hadvance : Advances lib record f f')
    (hcreated : f.firstSeenAt ≤ record.call.now)
    (hdelivers : record.delivers f.pk = true) :
    AnnouncedOnce lib (history ++ [record]) f' := by
  obtain ⟨hdelivered, hnone, hopen⟩ := hadvance.delivers.mp hdelivers
  have hempty := h.alerted_eq_none.mp hnone
  have hfirst : (callsSince f.firstSeenAt history).find?
      CallRecord.delivered = none := by
    apply h.none_delivered hempty
    rw [hadvance.resolvedAt, Option.or_eq_none_iff] at hopen
    exact hopen.1
  have hnow : (callsSince f'.firstSeenAt (history ++ [record])).find?
      CallRecord.delivered = some record := by
    rw [callsSince_advances hadvance hcreated, find?_snoc, hfirst,
      if_pos hdelivered]
    rfl
  have hlist : deliveries f'.pk (history ++ [record]) = [record] := by
    rw [hadvance.pk, deliveries_snoc, hempty, hdelivers]
    rfl
  refine ⟨h.resolved_snoc hadvance hcreated, ?_, ?_, ?_⟩
  · rw [hlist, hnow, hadvance.pk]
    simp [Option.filter, hdelivers]
  · intro other hother hmissed
    rw [hnow, Option.some.injEq] at hother
    subst hother
    rw [hadvance.pk, hdelivers] at hmissed
    cases hmissed
  · rw [hlist, hadvance.alertedAt, hdelivers]
    rfl

theorem announcedOnce_kept (h : AnnouncedOnce lib history f)
    (hadvance : Advances lib record f f')
    (hclock : ∀ other ∈ history, other.call.now < record.call.now)
    (hcreated : f.firstSeenAt ≤ record.call.now)
    (hdelivers : record.delivers f.pk = false) :
    AnnouncedOnce lib (history ++ [record]) f' := by
  have hlist : deliveries f'.pk (history ++ [record]) =
      deliveries f.pk history := by
    rw [hadvance.pk, deliveries_snoc, hdelivers]
    simp
  have halerted : f'.alertedAt = f.alertedAt := by
    rw [hadvance.alertedAt, hdelivers]
    rfl
  have hfind : (callsSince f'.firstSeenAt (history ++ [record])).find?
      CallRecord.delivered =
        ((callsSince f.firstSeenAt history).find? CallRecord.delivered).or
          (if record.delivered then some record else none) := by
    rw [callsSince_advances hadvance hcreated, find?_snoc]
  refine ⟨h.resolved_snoc hadvance hcreated, ?_, ?_, ?_⟩
  · rw [hlist, h.deliveries, hfind, hadvance.pk]
    cases (callsSince f.firstSeenAt history).find? CallRecord.delivered with
    | some other => rfl
    | none => split <;> simp [Option.filter, hdelivers]
  · intro other hother hmissed
    rw [hfind] at hother
    rw [hadvance.pk] at hmissed
    cases hold : (callsSince f.firstSeenAt history).find?
        CallRecord.delivered with
    | some first =>
        rw [hold, Option.some_or, Option.some.injEq] at hother
        subst hother
        obtain ⟨time, htime, hle⟩ := h.missed first hold hmissed
        refine ⟨time, ?_, hle⟩
        rw [hadvance.resolvedAt, htime]
        rfl
    | none =>
        -- the call delivers and passes over an unalerted row: it is resolved
        rw [hold, Option.none_or, Option.ite_none_right_eq_some,
          Option.some.injEq] at hother
        obtain ⟨hdelivered, rfl⟩ := hother
        have hnone : f.alertedAt = none := by
          rw [h.alerted_eq_none, h.deliveries, hold]
          rfl
        cases htime : f'.resolvedAt with
        | none =>
            have hsent := hadvance.delivers.mpr ⟨hdelivered, hnone, htime⟩
            rw [hdelivers] at hsent
            cases hsent
        | some time => exact ⟨time, rfl, h.resolved_le hadvance hclock htime⟩
  · rw [hlist, halerted, h.alerted]

theorem announcedOnce_step (h : AnnouncedOnce lib history f)
    (hadvance : Advances lib record f f')
    (hclock : ∀ other ∈ history, other.call.now < record.call.now)
    (hcreated : f.firstSeenAt ≤ record.call.now) :
    AnnouncedOnce lib (history ++ [record]) f' := by
  cases hdelivers : record.delivers f.pk with
  | true => exact announcedOnce_delivered h hadvance hcreated hdelivers
  | false => exact announcedOnce_kept h hadvance hclock hcreated hdelivers

theorem announcedOnce_new {now : Time} {keys : List String}
    (hnew : f.IsNew instancePk now keys)
    (hclock : ∀ record ∈ history, record.call.now < now)
    (hsent : deliveries f.pk history = []) : AnnouncedOnce lib history f := by
  obtain ⟨-, -, hcreated, halerted, hresolved⟩ := hnew
  have hsince : callsSince f.firstSeenAt history = [] := by
    unfold callsSince
    rw [List.filter_eq_nil_iff]
    intro record hmem
    have := hclock record hmem
    simp only [hcreated, decide_eq_true_eq, not_le]
    exact this
  refine ⟨?_, ?_, ?_, ?_⟩
  · rw [hsince, hresolved]
    rfl
  · rw [hsince, hsent]
    rfl
  · rw [hsince]
    intro record hfirst
    cases hfirst
  · rw [hsent, halerted]
    rfl

structure LongQueryWatch.Inv (lib : TextLibrary) (instancePk : Nat)
    (w : LongQueryWatch) : Prop where
  announced : ∀ row ∈ w.state.alerts.rows, row.instancePk = instancePk →
    AnnouncedOnce lib w.history (fate row) ∧
      ∃ record ∈ w.history, row.firstSeenAt ≤ record.call.now
  sent : ∀ record ∈ w.history, ∀ n, record.delivers n = true →
    ∃ row ∈ w.state.alerts.rows, row.pk = n ∧
      row.firstSeenAt ≤ record.call.now

theorem inv_step {w w' : LongQueryWatch} {call : LongQueryCall}
    (h : w.Inv lib instancePk) (hstep : w.Step lib app instancePk call w') :
    w'.Inv lib instancePk := by
  obtain ⟨hclock, rfl⟩ := hstep
  have hsent : ∀ record ∈ w.history, ∀ n, record.delivers n = true →
      ∃ row ∈ (callRecord lib app instancePk w.state call).after.alerts.rows,
        row.pk = n ∧ row.firstSeenAt ≤ record.call.now := by
    intro record hmem n hn
    obtain ⟨row, hrow, rfl, hle⟩ := h.sent record hmem n hn
    obtain ⟨row', hrow', hpk, -, -, hcreated, -⟩ :=
      callRecord_keeps lib app instancePk call hrow
    exact ⟨row', hrow', hpk, hcreated.trans_le hle⟩
  have hcreated : ∀ {row' : LongQueryAlert} {f : QueryFate},
      Advances lib (callRecord lib app instancePk w.state call) f (fate row') →
      ((∃ row ∈ w.state.alerts.rows, row.instancePk = instancePk ∧
        f = fate row) ∨
        f.IsNew instancePk call.now (call.candidates lib).keys) →
      f.firstSeenAt ≤ call.now := by
    rintro row' f hadvance (⟨row, hrow, hinstance, rfl⟩ | hnew)
    · obtain ⟨record, hmem, hle⟩ := (h.announced row hrow hinstance).2
      exact le_of_lt (lt_of_le_of_lt hle (hclock record hmem))
    · exact le_of_eq hnew.2.2.1
  constructor
  · intro row' hrow' hinstance
    obtain ⟨f, hadvance, horigin⟩ := callRecord_advances hrow' hinstance
    have hle := hcreated hadvance horigin
    refine ⟨announcedOnce_step ?_ hadvance hclock hle, ?_⟩
    · rcases horigin with ⟨row, hrow, hrowInstance, rfl⟩ | hnew
      · exact (h.announced row hrow hrowInstance).1
      · refine announcedOnce_new hnew hclock ?_
        -- a row that was delivered before would keep its creation time
        rw [deliveries, List.filter_eq_nil_iff]
        intro record hmem hdelivers
        obtain ⟨row, hrow, hpk, hearly⟩ := hsent record hmem f.pk hdelivers
        have hsame : row = row' :=
          OpenTable.eq_of_pk_eq hrow hrow' (hpk.trans hadvance.pk.symm)
        have htime : row.firstSeenAt = call.now := by
          rw [hsame]
          exact hadvance.firstSeenAt.trans hnew.2.2.1
        rw [htime] at hearly
        exact absurd (hclock record hmem) (not_lt.mpr hearly)
    · exact ⟨_, List.mem_append_right _ (List.mem_singleton_self _),
        hadvance.firstSeenAt.trans_le hle⟩
  · intro record hmem n hdelivers
    rcases List.mem_append.mp hmem with hold | hlast
    · exact hsent record hold n hdelivers
    · rw [List.mem_singleton.mp hlast] at hdelivers ⊢
      obtain ⟨row', hrow', hpk, hinstance⟩ := callRecord_delivers hdelivers
      obtain ⟨f, hadvance, horigin⟩ := callRecord_advances hrow' hinstance
      exact ⟨row', hrow', hpk,
        hadvance.firstSeenAt.trans_le (hcreated hadvance horigin)⟩

end Runs

/-! ## What each call shows and sends -/

def unresolvedQueries (instancePk : Nat) (s : LongQueryState) :
    List LongQueryAlert :=
  s.alerts.rows.filter fun alert =>
    alert.instancePk == instancePk && alert.resolvedAt.isNone

theorem mem_unresolvedQueries {instancePk : Nat} {s : LongQueryState}
    {alert : LongQueryAlert} :
    alert ∈ unresolvedQueries instancePk s ↔
      alert ∈ s.alerts.rows ∧ alert.instancePk = instancePk ∧
        alert.resolvedAt = none := by
  simp [unresolvedQueries]

theorem unresolved_keys_nodup (instancePk : Nat) (s : LongQueryState) :
    ((unresolvedQueries instancePk s).map LongQueryAlert.alertKey).Nodup := by
  refine List.Nodup.map_on ?_ ?_
  · intro alert hmem other hother heq
    rw [mem_unresolvedQueries] at hmem hother
    refine OpenTable.eq_of_open hmem.1 hother.1
      (Option.isNone_iff_eq_none.mpr hmem.2.2)
      (Option.isNone_iff_eq_none.mpr hother.2.2) ?_
    exact Prod.ext (hmem.2.1.trans hother.2.1.symm) heq
  · exact (List.Nodup.of_map _ s.alerts.pk_nodup).filter _

structure CallMatches (lib : TextLibrary) (instancePk : Nat)
    (record : CallRecord) : Prop where
  one_each : ((unresolvedQueries instancePk record.after).map
    LongQueryAlert.alertKey).Nodup
  unresolved : ∀ key,
    key ∈ (unresolvedQueries instancePk record.after).map
      LongQueryAlert.alertKey ↔
      record.call.config.manualQueryAlertEnabled = true ∧
        ∃ row ∈ record.call.activity,
          isLongQuery lib record.call.config row = true ∧
            longQueryKey lib row = key
  attempted :
    let unannounced := (record.call.candidates lib).keys.filter
      (NotYetAlerted instancePk record.before)
    record.batch.map (fun batch => batch.1.map LongQueryAlert.alertKey) =
      if unannounced ≠ [] ∧ record.call.windowOpen = true then some unannounced
      else none
  tracked : ∀ batch, record.batch = some batch → ∀ alert ∈ batch.1,
    ∃ row ∈ unresolvedQueries instancePk record.after,
      row.pk = alert.pk ∧ row.alertKey = alert.alertKey

section Matches

variable {lib : TextLibrary} {app : AppDatabase} {instancePk : Nat}
  {call : LongQueryCall} {s : LongQueryState} {record : CallRecord}

theorem CallRecord.Returned.unresolved {newAlerts : List LongQueryAlert}
    {middle : LongQueryState} (hreturned : record.returned = true)
    (h : record.Returned lib instancePk newAlerts middle)
    {row : LongQueryAlert} (hmem : row ∈ middle.alerts.rows) :
    record.settle lib instancePk row ∈
        unresolvedQueries instancePk record.after ↔
      row.instancePk = instancePk ∧ row.resolvedAt = none ∧
        row.alertKey ∈ (record.call.candidates lib).keys := by
  rw [mem_unresolvedQueries, h.rows,
    settle_part LongQueryAlert.instancePk (fun _ => rfl) (fun _ => rfl),
    iff_true_intro (List.mem_map_of_mem hmem), true_and]
  refine and_congr_right fun hinstance => ?_
  have hresolved := (h.advances hreturned hmem hinstance).resolvedAt
  change (record.settle lib instancePk row).resolvedAt = _ at hresolved
  rw [hresolved, Option.or_eq_none_iff]
  refine and_congr_right fun _ => ?_
  have hlacks : record.lacks lib row.alertKey = false ↔
      row.alertKey ∈ (record.call.candidates lib).keys := by
    rw [CallRecord.lacks, hreturned, Bool.true_and, decide_eq_false_iff_not,
      not_not]
  rw [← hlacks]
  change (if record.lacks lib row.alertKey = true then
    some record.call.now else none) = none ↔ _
  cases record.lacks lib row.alertKey <;> simp

theorem callRecord_matches
    (hreturned : (callRecord lib app instancePk s call).returned = true) :
    CallMatches lib instancePk (callRecord lib app instancePk s call) := by
  obtain ⟨newAlerts, middle, h⟩ := callRecord_returned hreturned
  generalize callRecord lib app instancePk s call = record at h hreturned ⊢
  refine ⟨unresolved_keys_nodup instancePk _, ?_, ?_, ?_⟩
  · intro key
    rw [← mem_candidates, List.mem_map]
    constructor
    · rintro ⟨row', hrow', rfl⟩
      have hmem := (mem_unresolvedQueries.mp hrow').1
      rw [h.rows] at hmem
      obtain ⟨row, hrow, rfl⟩ := List.mem_map.mp hmem
      rw [settle_part LongQueryAlert.alertKey (fun _ => rfl) (fun _ => rfl)]
      exact ((h.unresolved hreturned hrow).mp hrow').2.2
    · intro hkey
      obtain ⟨row, hrow, hinstance, rfl, hopen⟩ := h.stored.tracked key hkey
      refine ⟨_, (h.unresolved hreturned hrow).mpr ⟨hinstance, hopen, hkey⟩, ?_⟩
      exact settle_part LongQueryAlert.alertKey (fun _ => rfl) (fun _ => rfl)
  · dsimp only
    rw [h.batch, ← h.stored.batch]
    simp only [ne_eq, List.map_eq_nil_iff]
    split <;> rfl
  · intro batch hbatch alert halert
    rw [h.batch, Option.ite_none_right_eq_some, Option.some.injEq] at hbatch
    obtain ⟨-, rfl⟩ := hbatch
    obtain ⟨hinstance, hresolved, -, row, hrow, hfate⟩ :=
      h.stored.fresh alert halert
    have hkey : alert.alertKey ∈ newAlerts.map LongQueryAlert.alertKey :=
      List.mem_map_of_mem halert
    rw [h.stored.batch, List.mem_filter] at hkey
    have hrowKey : row.alertKey = alert.alertKey :=
      congrArg QueryFate.alertKey hfate
    refine ⟨_, (h.unresolved hreturned hrow).mpr ⟨?_, ?_, ?_⟩, ?_, ?_⟩
    · exact (congrArg QueryFate.instancePk hfate).trans hinstance
    · exact (congrArg QueryFate.resolvedAt hfate).trans hresolved
    · rw [hrowKey]
      exact hkey.1
    · exact (settle_part LongQueryAlert.pk (fun _ => rfl)
        (fun _ => rfl)).trans (congrArg QueryFate.pk hfate)
    · exact (settle_part LongQueryAlert.alertKey (fun _ => rfl)
        (fun _ => rfl)).trans hrowKey

end Matches

def Persist (instancePk : Nat) (record : CallRecord) (s : LongQueryState) :
    Prop :=
  ∀ row ∈ record.after.alerts.rows, row.instancePk = instancePk →
    ∃ row' ∈ s.alerts.rows, row'.pk = row.pk ∧ row'.alertKey = row.alertKey ∧
      (row.resolvedAt ≠ none → row'.resolvedAt = row.resolvedAt)

theorem persist_run {lib : TextLibrary} {app : AppDatabase} {instancePk : Nat}
    {start : LongQueryState} {calls : List LongQueryCall} {w : LongQueryWatch}
    (hrun : Run (LongQueryWatch.Step lib app instancePk) ⟨start, []⟩ calls w) :
    ∀ record ∈ w.history, Persist instancePk record w.state := by
  induction hrun with
  | refl => intro record hmem; cases hmem
  | snoc _ hstep ih =>
      obtain ⟨-, rfl⟩ := hstep
      intro record hmem row hrow hinstance
      rcases List.mem_append.mp hmem with hold | hlast
      · obtain ⟨row', hrow', hpk, hkey, hkept⟩ :=
          ih record hold row hrow hinstance
        obtain ⟨row'', hrow'', hpk', hkey', -, -, hkept'⟩ :=
          callRecord_keeps lib app instancePk _ hrow'
        refine ⟨row'', hrow'', hpk'.trans hpk, hkey'.trans hkey, ?_⟩
        intro hne
        rw [← hkept hne]
        exact hkept' (by rwa [hkept hne])
      · rw [List.mem_singleton.mp hlast] at hrow
        exact ⟨row, hrow, rfl, rfl, fun _ => rfl⟩

theorem matches_run {lib : TextLibrary} {app : AppDatabase} {instancePk : Nat}
    {start : LongQueryState} {calls : List LongQueryCall} {w : LongQueryWatch}
    (hrun : Run (LongQueryWatch.Step lib app instancePk) ⟨start, []⟩ calls w) :
    ∀ record ∈ w.history,
      if record.returned then CallMatches lib instancePk record
      else record.batch = none := by
  induction hrun with
  | refl => intro record hmem; cases hmem
  | @snoc t _ calls call _ hstep ih =>
      obtain ⟨-, rfl⟩ := hstep
      intro record hmem
      rcases List.mem_append.mp hmem with hold | hlast
      · exact ih record hold
      · rw [List.mem_singleton.mp hlast]
        split
        · rename_i hreturned
          exact callRecord_matches hreturned
        · rename_i hraised
          exact batch_of_cards
            (callRecord_raised (Bool.eq_false_iff.mpr hraised)).cards

theorem inv_run {lib : TextLibrary} {app : AppDatabase} {instancePk : Nat}
    {start : LongQueryState} {calls : List LongQueryCall} {w : LongQueryWatch}
    (hrun : Run (LongQueryWatch.Step lib app instancePk) ⟨start, []⟩ calls w)
    (hstart : ∀ row ∈ start.alerts.rows, row.instancePk ≠ instancePk) :
    w.Inv lib instancePk := by
  induction hrun with
  | refl =>
      constructor
      · intro row hmem hinstance
        exact absurd hinstance (hstart row hmem)
      · intro record hmem
        cases hmem
  | snoc _ hstep ih => exact inv_step ih hstep

def longRows (lib : TextLibrary) (calls : List LongQueryCall) :
    List ActivityRow :=
  calls.flatMap fun call => call.activity.filter (isLongQuery lib call.config)

/--
Calls on an instance without rows so far, some of which may raise.  Keys tell
executions apart when no digests collide.
-/
theorem long_queries_announced_once {lib : TextLibrary} {app : AppDatabase}
    {instancePk : Nat} {start : LongQueryState} {calls : List LongQueryCall}
    {w : LongQueryWatch}
    (hrun : Run (LongQueryWatch.Step lib app instancePk) ⟨start, []⟩ calls w)
    (hstart : ∀ row ∈ start.alerts.rows, row.instancePk ≠ instancePk) :
    (∀ record ∈ w.history,
      (if record.returned then CallMatches lib instancePk record
        else record.batch = none) ∧
      Persist instancePk record w.state) ∧
    (∀ row ∈ w.state.alerts.rows, row.instancePk = instancePk →
      AnnouncedOnce lib w.history (fate row)) ∧
    (NoCollision lib.sha256 ((longRows lib calls).map fun row =>
        nul.intercalate (longQueryValues lib row)) →
      (∀ row ∈ longRows lib calls, ∀ value ∈ longQueryValues lib row,
        Char.ofNat 0 ∉ value.toList) →
      ∀ row ∈ longRows lib calls, ∀ row' ∈ longRows lib calls,
        (longQueryKey lib row = longQueryKey lib row' ↔
          longQueryValues lib row = longQueryValues lib row')) := by
  refine ⟨fun record hmem => ⟨matches_run hrun record hmem,
    persist_run hrun record hmem⟩, ?_, ?_⟩
  · intro row hrow hinstance
    exact ((inv_run hrun hstart).announced row hrow hinstance).1
  · intro hcollision hnul row hrow row' hrow'
    refine longQueryKey_eq_iff ?_ (hnul row hrow) (hnul row' hrow')
    intro text htext text' htext'
    apply hcollision
    · simp only [List.mem_cons, List.not_mem_nil, or_false] at htext
      rcases htext with rfl | rfl
      · exact List.mem_map_of_mem hrow
      · exact List.mem_map_of_mem hrow'
    · simp only [List.mem_cons, List.not_mem_nil, or_false] at htext'
      rcases htext' with rfl | rfl
      · exact List.mem_map_of_mem hrow
      · exact List.mem_map_of_mem hrow'

def sampleQuery : ActivityRow :=
  ⟨some 7, some "ann", some "psql", none, some "active", some "SELECT 1", none,
    some 300⟩

def sampleCall (now : Time) (activity : List ActivityRow) : LongQueryCall where
  now := now
  config := { NotificationSettings.defaults with manualQueryAlertEnabled := true }
  activity := activity
  deliver _ := true

theorem long_query_announced_then_resolved :
    let lib : TextLibrary := ⟨sampleDigest, String.toLower, fun _ => ""⟩
    let app : AppDatabase := ⟨fun _ => true, fun _ => true⟩
    let first := callRecord lib app 1 ⟨.empty, []⟩ (sampleCall 1 [sampleQuery])
    let last := callRecord lib app 1 first.after (sampleCall 2 [])
    ∀ row ∈ last.after.alerts.rows, row.instancePk = 1 →
      AnnouncedOnce lib [first, last] (fate row) := by
  intro lib app first last
  have hfirst : Run (LongQueryWatch.Step lib app 1) ⟨⟨.empty, []⟩, []⟩
      [sampleCall 1 [sampleQuery]] ⟨first.after, [first]⟩ :=
    .single ⟨by simp, rfl⟩
  have hlast : LongQueryWatch.Step lib app 1 ⟨first.after, [first]⟩
      (sampleCall 2 []) ⟨last.after, [first, last]⟩ := by
    refine ⟨?_, rfl⟩
    intro record hmem
    rw [List.mem_singleton.mp hmem]
    exact (by decide : (1 : Int) < 2)
  exact (long_queries_announced_once (hfirst.snoc hlast)
    (by simp [OpenTable.empty])).2.1

end HealthGrid.Monitor
