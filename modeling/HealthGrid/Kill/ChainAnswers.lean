import HealthGrid.Kill.Attribution

/-!
# What a chain answers

The loop of `kill_pids` against sessions and replication slots that change
while it runs: a terminated backend stays in `pg_stat_activity` for a while.
The answer of a PID is that of its last statement.
-/

namespace HealthGrid.Kill

open HealthGrid.Foundation HealthGrid.Db HealthGrid.Views.Kill

/--
The sessions in `pg_stat_activity`, the `active_pid` of each replication slot,
the PIDs that statements of this call terminated, and how many have run.
-/
structure GuardedServer where
  table : SessionTable
  slots : List (Option Int)
  killed : List Int
  statements : Nat

namespace GuardedServer

def start (table : SessionTable) (slots : List (Option Int)) : GuardedServer :=
  ⟨table, slots, [], 0⟩

def protects (server : GuardedServer) (pid : Int) : Bool :=
  server.slots.contains (some pid)

/-- The condition of `GUARDED_TERMINATE_QUERY`. -/
def permits (server : GuardedServer) (database : String)
    (allowReplication : Bool) (pid : Int) : Bool :=
  (allowReplication || !server.protects pid) &&
    server.table.attached pid database

def gone (vanish : Nat → Int → Bool) (server : GuardedServer) (pid : Int) :
    Bool :=
  server.killed.contains pid && vanish server.statements pid

def settle (vanish : Nat → Int → Bool) (server : GuardedServer) :
    GuardedServer where
  table :=
    { sessions := server.table.sessions.filter fun session =>
        !server.gone vanish session.pid
      pids_nodup := server.table.pids_nodup.sublist
        (List.filter_sublist.map _) }
  slots := server.slots.map fun active =>
    active.bind fun pid => if server.gone vanish pid then none else some pid
  killed := server.killed
  statements := server.statements + 1

/-- `pg_terminate_backend` -/
def signal (server : GuardedServer) (pid : Int) : GuardedServer :=
  { server with killed := server.killed ++ [pid] }

def remaining (server : GuardedServer) : List Session :=
  server.table.sessions.filter fun session =>
    !server.killed.contains session.pid

end GuardedServer

/-- `vanish n pid`: a terminated backend is gone before statement `n`. -/
def guardedServer (vanish : Nat → Int → Bool) :
    TerminationServer GuardedServer where
  countSessions database pid := fun server =>
    (.ok ((server.settle vanish).table.sessions.countP fun session =>
      session.pid == pid && session.database == database),
      server.settle vanish)
  kill pid := fun server =>
    if (server.settle vanish).table.live pid then
      (.ok (), (server.settle vanish).signal pid)
    else (.error "Unknown thread id", server.settle vanish)
  guardedTerminate database allowReplication pid := fun server =>
    if (server.settle vanish).permits database allowReplication pid then
      (.ok true, (server.settle vanish).signal pid)
    else (.ok false, server.settle vanish)

/-! ## One statement -/

section Statements

variable {vanish : Nat → Int → Bool} {server : GuardedServer}
  {database : String} {allowReplication : Bool} {pid : Int}

theorem attached_settle : (server.settle vanish).table.attached pid database =
    (!server.gone vanish pid && server.table.attached pid database) := by
  rw [Bool.eq_iff_iff]
  simp only [SessionTable.attached, GuardedServer.settle, List.any_filter,
    List.any_eq_true, Bool.and_eq_true, beq_iff_eq]
  constructor
  · rintro ⟨session, hmem, hstays, rfl, hdatabase⟩
    exact ⟨hstays, session, hmem, rfl, hdatabase⟩
  · rintro ⟨hstays, session, hmem, rfl, hdatabase⟩
    exact ⟨session, hmem, hstays, rfl, hdatabase⟩

theorem protects_settle (h : server.gone vanish pid = false) :
    (server.settle vanish).protects pid = server.protects pid := by
  rw [Bool.eq_iff_iff]
  simp only [GuardedServer.protects, GuardedServer.settle, List.contains_eq_mem,
    decide_eq_true_eq, List.mem_map]
  constructor
  · rintro ⟨active, hmem, hactive⟩
    cases active with
    | none => simp at hactive
    | some active =>
        simp only [Option.bind_some] at hactive
        split at hactive
        · cases hactive
        · cases hactive
          exact hmem
  · intro hmem
    exact ⟨some pid, hmem, by simp [h]⟩

theorem permits_settle :
    (server.settle vanish).permits database allowReplication pid =
      (!server.gone vanish pid &&
        server.permits database allowReplication pid) := by
  unfold GuardedServer.permits
  cases hgone : server.gone vanish pid with
  | true => simp [attached_settle, hgone]
  | false => simp [attached_settle, protects_settle hgone, hgone]

@[simp] theorem killed_settle :
    (server.settle vanish).killed = server.killed := rfl

@[simp] theorem statements_settle :
    (server.settle vanish).statements = server.statements + 1 := rfl

@[simp] theorem killed_signal :
    (server.signal pid).killed = server.killed ++ [pid] := rfl

@[simp] theorem statements_signal :
    (server.signal pid).statements = server.statements := rfl

end Statements

/-! ## Repeated PIDs -/

def StillThere (vanish : Nat → Int → Bool) (issued : List Int) (pid : Int) :
    Prop :=
  ∀ i j, i < j → j < issued.length → issued[i]? = some pid →
    vanish j pid = false

/-- It is gone at no time between two statements about `pid`. -/
def StaysBetween (vanish : Nat → Int → Bool) (issued : List Int) (pid : Int) :
    Prop :=
  ∀ i j k, i < j → j ≤ k → issued[i]? = some pid → issued[k]? = some pid →
    vanish j pid = false

section Repeated

variable {vanish : Nat → Int → Bool} {issued : List Int} {pid other : Int}

theorem stillThere_snoc : StillThere vanish (issued ++ [other]) pid ↔
    StillThere vanish issued pid ∧
      (pid ∈ issued → vanish issued.length pid = false) := by
  constructor
  · intro h
    refine ⟨?_, ?_⟩
    · intro i j hij hj hi
      apply h i j hij (by simp; omega)
      rw [List.getElem?_append_left (by omega)]
      exact hi
    · intro hmem
      obtain ⟨i, hi⟩ := List.mem_iff_getElem?.mp hmem
      have hlt : i < issued.length := (List.getElem?_eq_some_iff.mp hi).1
      apply h i issued.length hlt (by simp)
      rw [List.getElem?_append_left hlt]
      exact hi
  · rintro ⟨hthere, hlast⟩ i j hij hj hi
    simp only [List.length_append, List.length_singleton] at hj
    rw [List.getElem?_append_left (by omega)] at hi
    by_cases hjn : j = issued.length
    · subst hjn
      exact hlast (List.mem_iff_getElem?.mpr ⟨i, hi⟩)
    · exact hthere i j hij (by omega) hi

theorem stillThere_of_new (h : pid ∉ issued) : StillThere vanish issued pid := by
  intro i j _ _ hi
  exact absurd (List.mem_of_getElem? hi) h

theorem staysBetween_snoc_self :
    StaysBetween vanish (issued ++ [pid]) pid ↔
      StillThere vanish (issued ++ [pid]) pid := by
  constructor
  · intro h i j hij hj hi
    simp only [List.length_append, List.length_singleton] at hj
    apply h i j issued.length hij (by omega) hi
    simp
  · intro h i j k hij hjk hi hk
    have hlt := (List.getElem?_eq_some_iff.mp hk).1
    exact h i j hij (by omega) hi

theorem staysBetween_snoc_of_ne (hne : other ≠ pid) :
    StaysBetween vanish (issued ++ [other]) pid ↔
      StaysBetween vanish issued pid := by
  have hget : ∀ i : Nat, (issued ++ [other])[i]? = some pid ↔
      issued[i]? = some pid := by
    intro i
    rcases lt_trichotomy i issued.length with hlt | heq | hgt
    · rw [List.getElem?_append_left hlt]
    · subst heq
      simp [hne]
    · rw [List.getElem?_eq_none (by simp; omega),
        List.getElem?_eq_none (by omega)]
  unfold StaysBetween
  simp only [hget]

theorem staysBetween_of_nodup (h : issued.Nodup) :
    StaysBetween vanish issued pid := by
  intro i j k hij hjk hi hk
  have hlt : i < issued.length := (List.getElem?_eq_some_iff.mp hi).1
  have heq := (List.getElem?_inj hlt h).mp (hi.trans hk.symm)
  omega

end Repeated

/-! ## The loop -/

/-- Live in the database of the instance, and no protected slot backend. -/
def Terminable (table : SessionTable) (slots : List (Option Int))
    (database : String) (allowReplication : Bool) (pid : Int) : Prop :=
  (GuardedServer.start table slots).permits database allowReplication pid = true

structure LoopState (vanish : Nat → Int → Bool) (table : SessionTable)
    (slots : List (Option Int)) (database : String) (allowReplication : Bool)
    (issued : List Int) (server : GuardedServer) (results : Dict Int Bool) :
    Prop where
  statements : server.statements = issued.length
  killed : ∀ pid, pid ∈ server.killed ↔ pid ∈ issued ∧
    Terminable table slots database allowReplication pid
  permitted : ∀ pid, server.permits database allowReplication pid = true ↔
    Terminable table slots database allowReplication pid ∧
      StillThere vanish issued pid
  answered : ∀ pid, results.get? pid = some true ↔ pid ∈ issued ∧
    Terminable table slots database allowReplication pid ∧
      StaysBetween vanish issued pid
  others : ∀ session : Session, session.pid ∉ server.killed →
    (session ∈ server.table.sessions ↔ session ∈ table.sessions)

section Loop

variable {vanish : Nat → Int → Bool} {table : SessionTable}
  {slots : List (Option Int)} {database : String} {allowReplication : Bool}
  {issued : List Int} {server : GuardedServer} {results : Dict Int Bool}
  {pid : Int} {conn : ConnectArgs}

theorem loopState_start : LoopState vanish table slots database allowReplication
    [] (.start table slots) .empty where
  statements := rfl
  killed := by simp [GuardedServer.start]
  permitted := by simp [Terminable, StillThere]
  answered := by
    intro pid
    have hempty : (Dict.empty : Dict Int Bool).get? pid = none := rfl
    simp [hempty]
  others _ _ := Iff.rfl

theorem LoopState.permitted_settle (h : LoopState vanish table slots database
    allowReplication issued server results) (other pid : Int) :
    (server.settle vanish).permits database allowReplication other = true ↔
      Terminable table slots database allowReplication other ∧
        StillThere vanish (issued ++ [pid]) other := by
  rw [permits_settle, stillThere_snoc, Bool.and_eq_true, h.permitted]
  have hgone : server.gone vanish other = true ↔
      other ∈ server.killed ∧ vanish issued.length other = true := by
    simp [GuardedServer.gone, h.statements]
  constructor
  · rintro ⟨hstays, hterminable, hthere⟩
    refine ⟨hterminable, hthere, ?_⟩
    intro hmem
    by_contra hvanish
    have hkilled := (h.killed other).mpr ⟨hmem, hterminable⟩
    have : server.gone vanish other = true :=
      hgone.mpr ⟨hkilled, by simpa using hvanish⟩
    simp [this] at hstays
  · rintro ⟨hterminable, hthere, hlast⟩
    refine ⟨?_, hterminable, hthere⟩
    by_contra hstays
    obtain ⟨hkilled, hvanish⟩ := hgone.mp (by simpa using hstays)
    rw [hlast ((h.killed other).mp hkilled).1] at hvanish
    cases hvanish

def guardedStep (vanish : Nat → Int → Bool) (database : String)
    (allowReplication : Bool) (pid : Int) (server : GuardedServer) :
    Bool × GuardedServer :=
  if (server.settle vanish).permits database allowReplication pid then
    (true, (server.settle vanish).signal pid)
  else (false, server.settle vanish)

theorem killGuarded_step (hdatabase : conn.database = database) :
    killGuarded (guardedServer vanish) conn allowReplication pid server =
      (.ok (guardedStep vanish database allowReplication pid server).1,
        (guardedStep vanish database allowReplication pid server).2) := by
  unfold killGuarded runStatement guardedServer guardedStep
  rw [hdatabase]
  dsimp only
  split <;> rfl

theorem mem_sessions_settle {session : Session}
    (h : session.pid ∉ server.killed) :
    session ∈ (server.settle vanish).table.sessions ↔
      session ∈ server.table.sessions := by
  simp [GuardedServer.settle, GuardedServer.gone, h]

theorem LoopState.killed_step (h : LoopState vanish table slots database
    allowReplication issued server results) (pid other : Int) :
    other ∈ server.killed ∨ (other = pid ∧
        (server.settle vanish).permits database allowReplication pid = true) ↔
      other ∈ issued ++ [pid] ∧
        Terminable table slots database allowReplication other := by
  rw [h.killed, h.permitted_settle pid pid, List.mem_append, List.mem_singleton]
  constructor
  · rintro (⟨hmem, hterminable⟩ | ⟨rfl, hterminable, -⟩)
    · exact ⟨.inl hmem, hterminable⟩
    · exact ⟨.inr rfl, hterminable⟩
  · rintro ⟨hmem, hterminable⟩
    by_cases hnew : other ∈ issued
    · exact .inl ⟨hnew, hterminable⟩
    · have heq := hmem.resolve_left hnew
      subst heq
      refine .inr ⟨rfl, hterminable, ?_⟩
      rw [stillThere_snoc]
      exact ⟨stillThere_of_new hnew, fun hmem => absurd hmem hnew⟩

theorem LoopState.answered_step (h : LoopState vanish table slots database
    allowReplication issued server results) {pid : Int} {answer : Bool}
    (hanswer : answer = true ↔
      (server.settle vanish).permits database allowReplication pid = true)
    (other : Int) :
    (results.set pid answer).get? other = some true ↔
      other ∈ issued ++ [pid] ∧
        Terminable table slots database allowReplication other ∧
          StaysBetween vanish (issued ++ [pid]) other := by
  rw [Dict.get?_set]
  by_cases heq : other = pid
  · subst heq
    rw [if_pos rfl, Option.some.injEq, hanswer, h.permitted_settle other other,
      staysBetween_snoc_self]
    simp
  · rw [if_neg heq, h.answered, staysBetween_snoc_of_ne (Ne.symm heq)]
    simp [heq]

theorem LoopState.step (h : LoopState vanish table slots database
    allowReplication issued server results) (pid : Int) :
    LoopState vanish table slots database allowReplication (issued ++ [pid])
      (guardedStep vanish database allowReplication pid server).2
      (results.set pid
        (guardedStep vanish database allowReplication pid server).1) := by
  unfold guardedStep
  split
  · rename_i hpermitted
    refine ⟨?_, ?_, fun other => h.permitted_settle other pid,
      h.answered_step ?_, ?_⟩
    · simp [h.statements]
    · intro other
      rw [← h.killed_step pid other]
      simp [hpermitted]
    · simp [hpermitted]
    · intro session hsession
      have hold : session.pid ∉ server.killed := fun hmem =>
        hsession (List.mem_append_left _ hmem)
      exact (mem_sessions_settle hold).trans (h.others session hold)
  · rename_i hrefused
    refine ⟨?_, ?_, fun other => h.permitted_settle other pid,
      h.answered_step ?_, ?_⟩
    · simp [h.statements]
    · intro other
      rw [← h.killed_step pid other]
      simp [hrefused]
    · simp [hrefused]
    · intro session hsession
      have hold : session.pid ∉ server.killed := hsession
      exact (mem_sessions_settle hold).trans (h.others session hold)

theorem LoopState.run (pids : List Int) (hdatabase : conn.database = database)
    (h : LoopState vanish table slots database allowReplication issued server
      results) :
    ∃ results' after, killLoop (killGuarded (guardedServer vanish) conn
        allowReplication) pids results server = (.ok results', after) ∧
      LoopState vanish table slots database allowReplication (issued ++ pids)
        after results' := by
  induction pids generalizing issued server results with
  | nil => exact ⟨results, server, rfl, by simpa using h⟩
  | cons pid pids ih =>
      have hstep : killGuarded (guardedServer vanish) conn allowReplication pid
          server =
          (.ok (guardedStep vanish database allowReplication pid server).1,
            (guardedStep vanish database allowReplication pid server).2) :=
        killGuarded_step hdatabase
      obtain ⟨results', after, hrun, hstate⟩ := ih (h.step pid)
      refine ⟨results', after, ?_, by simpa using hstate⟩
      rw [killLoop, Call.bind_ok hstep]
      exact hrun

end Loop

/-! ## The answers of a chain -/

/--
The answers name what was terminated, also in the list of the view, and what
is gone are the listed sessions that may be terminated.
-/
structure CoversKills (table : SessionTable) (slots : List (Option Int))
    (database : String) (allowReplication : Bool) (pids : List Int)
    (after : GuardedServer) (results : Dict Int Bool) : Prop where
  answers : ∀ pid, results.get? pid = some true ↔ pid ∈ after.killed
  listed : ∀ pid, pid ∈ answered results true ↔ pid ∈ after.killed
  gone : ∀ session : Session, session ∈ after.remaining ↔
    session ∈ table.sessions ∧ ¬ (session.pid ∈ pids ∧
      Terminable table slots database allowReplication session.pid)

section Chains

variable {vanish : Nat → Int → Bool} {table : SessionTable}
  {slots : List (Option Int)} {database : String} {allowReplication : Bool}
  {pids : List Int} {after : GuardedServer} {results : Dict Int Bool}

theorem LoopState.gone (h : LoopState vanish table slots database
    allowReplication pids after results) (session : Session) :
    session ∈ after.remaining ↔ session ∈ table.sessions ∧
      ¬ (session.pid ∈ pids ∧
        Terminable table slots database allowReplication session.pid) := by
  simp only [GuardedServer.remaining, List.mem_filter, List.contains_eq_mem,
    Bool.not_eq_true', decide_eq_false_iff_not, ← h.killed]
  constructor
  · rintro ⟨hmem, hkept⟩
    exact ⟨(h.others session hkept).mp hmem, hkept⟩
  · rintro ⟨hmem, hkept⟩
    exact ⟨(h.others session hkept).mpr hmem, hkept⟩

theorem LoopState.coversKills_iff (h : LoopState vanish table slots database
    allowReplication pids after results) :
    CoversKills table slots database allowReplication pids after results ↔
      ∀ pid ∈ pids, Terminable table slots database allowReplication pid →
        StaysBetween vanish pids pid := by
  constructor
  · intro hcovers pid hmem hterminable
    have hkilled := (h.killed pid).mpr ⟨hmem, hterminable⟩
    exact ((h.answered pid).mp ((hcovers.answers pid).mpr hkilled)).2.2
  · intro hstays
    have hanswers : ∀ pid, results.get? pid = some true ↔ pid ∈ after.killed := by
      intro pid
      rw [h.answered, h.killed]
      constructor
      · rintro ⟨hmem, hterminable, -⟩
        exact ⟨hmem, hterminable⟩
      · rintro ⟨hmem, hterminable⟩
        exact ⟨hmem, hterminable, hstays pid hmem hterminable⟩
    refine ⟨hanswers, ?_, h.gone⟩
    intro pid
    rw [mem_answered, hanswers]

end Chains

/--
The answers cover every backend killed exactly if no backend is gone between
two of its statements; a PID that is listed once has only one.
-/
theorem chain_answers_iff {drivers : Drivers} {inst : RDSInstance}
    {conn : ConnectArgs} (hconn : getConnection drivers inst = .ok conn)
    (hengine : inst.engine = .postgresql) (vanish : Nat → Int → Bool)
    (table : SessionTable) (slots : List (Option Int)) (pids : List Int)
    (allowReplication : Bool) :
    ∃ results after, killPids (guardedServer vanish) drivers inst pids
        allowReplication (.start table slots) = (.ok results, after) ∧
      (CoversKills table slots inst.dbName allowReplication pids after results ↔
        ∀ pid ∈ pids,
          Terminable table slots inst.dbName allowReplication pid →
            StaysBetween vanish pids pid) := by
  have hstart : LoopState vanish table slots inst.dbName allowReplication []
      (.start table slots) .empty := loopState_start
  obtain ⟨results, after, hrun, hstate⟩ :=
    hstart.run pids (getConnection_database hconn)
  refine ⟨results, after, ?_, ?_⟩
  · rw [killPids_postgresql (guardedServer vanish) hconn hengine]
    exact hrun
  · rw [List.nil_append] at hstate
    exact hstate.coversKills_iff

def ordersSessions : SessionTable :=
  ⟨[⟨7, "orders"⟩, ⟨8, "orders"⟩, ⟨9, "reports"⟩], by decide⟩

def ordersConnection : ConnectArgs :=
  connectArgs (sampleInstance .postgresql) "app" "" "healthgrid-control"

/-- 8 holds a replication slot and 9 is in another database. -/
theorem covers_distinct_pids :
    ∃ results after, killPids (guardedServer fun _ _ => true) openDrivers
        (sampleInstance .postgresql) [7, 8, 9] false
        (.start ordersSessions [some 8]) = (.ok results, after) ∧
      after.killed = [7] ∧
      CoversKills ordersSessions [some 8] "orders" false [7, 8, 9] after
        results := by
  have hconn : getConnection openDrivers (sampleInstance .postgresql) =
      .ok ordersConnection := rfl
  obtain ⟨results, after, hrun, hcovers⟩ := chain_answers_iff hconn rfl
    (fun _ _ => true) ordersSessions [some 8] [7, 8, 9] false
  refine ⟨results, after, hrun, ?_, hcovers.mpr ?_⟩
  · have hkilled : (killPids (guardedServer fun _ _ => true) openDrivers
        (sampleInstance .postgresql) [7, 8, 9] false
        (.start ordersSessions [some 8])).2.killed = [7] := by decide
    rw [hrun] at hkilled
    exact hkilled
  · intro pid _ _
    exact staysBetween_of_nodup (by decide)

theorem repeated_pid_denied :
    ∃ results after, killPids (guardedServer fun _ _ => true) openDrivers
        (sampleInstance .postgresql) [7, 7] false (.start ordersSessions []) =
        (.ok results, after) ∧
      after.killed = [7] ∧ results.get? 7 = some false ∧
      answered results true = [] ∧
      ¬ CoversKills ordersSessions [] "orders" false [7, 7] after results := by
  refine ⟨_, _, rfl, by decide, by decide, by decide, ?_⟩
  intro hcovers
  have hanswer := (hcovers.answers 7).mpr (by decide)
  revert hanswer
  decide

end HealthGrid.Kill
