import HealthGrid.Access.Privileges
import HealthGrid.Db.ReplicationSlots
import HealthGrid.Foundation.Cache
import HealthGrid.Views.Downloads

/-!
# Pages from the cache

`activity_table_partial` and `replication_slots_partial` keep what they fetch
for a few seconds.  Each worker process has a cache of its own.  Requests of
many users overlap: between the miss of a request and the snapshot it stores,
others read, store and clear.
-/

namespace HealthGrid.Views.CachedPages

open HealthGrid.Foundation HealthGrid.Db HealthGrid.Access
  HealthGrid.Views.Downloads

inductive PageKind where
  | activity
  | slots
  deriving DecidableEq, Repr

inductive Snapshot where
  | activity (dashboard : Dashboard) (error : Option String)
  | slots (slots : List ReplicationSlot) (error : Option String)
  deriving DecidableEq, Repr

structure PageCalls where
  dashboard : DashboardCalls
  slots : Except String (List ReplicationSlot)

def Snapshot.failed (kind : PageKind) (message : String) : Snapshot :=
  match kind with
  | .activity => .activity ⟨[], [], none, []⟩ (some message)
  | .slots => .slots [] (some message)

def PageKind.fetch (drivers : Drivers) (calls : PageCalls) (inst : RDSInstance)
    (kind : PageKind) : Except Exn Snapshot :=
  match kind with
  | .activity => (fetchActivityWithVitals drivers calls.dashboard inst).map
      fun dashboard => .activity dashboard none
  | .slots => (fetchReplicationSlots drivers calls.slots inst).map
      fun slots => .slots slots none

def takeSnapshot (drivers : Drivers) (calls : PageCalls) (inst : RDSInstance)
    (kind : PageKind) : Except Exn Snapshot :=
  match kind.fetch drivers calls inst with
  | .error (.connectionError message) => .ok (.failed kind message)
  | result => result

def PageKind.keyHead : PageKind → String
  | .activity => "activity:"
  | .slots => "repslots:"

def cacheKey (kind : PageKind) (pk : Nat) : String :=
  kind.keyHead ++ toString pk

inductive Controls where
  | activity (canOperateInstance : Bool)
  | slots (canDropSlots canTerminateSlots : Bool)
  deriving DecidableEq, Repr

def controls (t : AccessTables) (user : Account) (inst : RDSInstance)
    (kind : PageKind) : Controls :=
  match kind with
  | .activity => .activity (canOperateInstance t user inst)
  | .slots => .slots
      (canOperateInstance t user inst && canManageReplicationSlot t user .drop)
      (canOperateInstance t user inst &&
        canManageReplicationSlot t user .terminate)

structure Page where
  user : Account
  inst : RDSInstance
  kind : PageKind
  snapshot : Snapshot
  controls : Controls
  deriving DecidableEq, Repr

/-! ## Overlapping requests -/

structure InFlight where
  worker : Nat
  user : Account
  inst : RDSInstance
  kind : PageKind
  since : Time
  deriving DecidableEq, Repr

inductive PageEntry where
  | stored (request : InFlight) (snapshot : Snapshot) (now : Time)
  | cleared (worker : Nat) (key : String)
  | shown (worker : Nat) (page : Page) (now : Time)
  deriving DecidableEq, Repr

structure PageWorld where
  clock : Time
  registry : Registry
  caches : Nat → Cache String Snapshot Time
  inFlight : List InFlight
  log : List PageEntry

def PageWorld.initial (now : Time) (r : Registry) : PageWorld :=
  ⟨now, r, fun _ => .empty, [], []⟩

/--
`fetched` is the answer of the server to the request at a place in the list.
`clear` is the last line of the kill and slot views; a full cache clears keys
on its own account.
-/
inductive PageEvent where
  | tick (now : Time)
  | change (r : Registry)
  | visit (worker : Nat) (user : Account) (kind : PageKind) (pk : Nat)
  | fetched (place : Nat) (drivers : Drivers) (calls : PageCalls)
  | clear (worker : Nat) (key : String)

def PageWorld.show (w : PageWorld) (worker : Nat) (user : Account)
    (inst : RDSInstance) (kind : PageKind) (snapshot : Snapshot) : PageWorld :=
  { w with log := w.log ++ [.shown worker ⟨user, inst, kind, snapshot,
      controls w.registry.tables user inst kind⟩ w.clock] }

def PageWorld.writeCache (w : PageWorld) (worker : Nat)
    (write : CacheWrite String Snapshot Time) (entry : PageEntry) : PageWorld :=
  { w with
    caches := Function.update w.caches worker ((w.caches worker).write write)
    log := w.log ++ [entry] }

def expiry (ttl : Nat) (now : Time) : Time := now + (ttl : Int) * 1000000

def pageEvent (ttl : Nat) (w : PageWorld) : PageEvent → Option PageWorld
  | .tick now => if now < w.clock then none else some { w with clock := now }
  | .change r => some { w with registry := r }
  | .visit worker user kind pk =>
      match viewableInstance w.registry user pk with
      | .error _ => some w
      | .ok inst =>
          match (w.caches worker).get w.clock (cacheKey kind inst.pk) with
          | some snapshot => some (w.show worker user inst kind snapshot)
          | none => some { w with
              inFlight := w.inFlight ++ [⟨worker, user, inst, kind, w.clock⟩] }
  | .fetched place drivers calls =>
      match w.inFlight[place]? with
      | none => none
      | some request =>
          let w := { w with inFlight := w.inFlight.eraseIdx place }
          match takeSnapshot drivers calls request.inst request.kind with
          | .error _ => some w
          | .ok snapshot =>
              let w := w.writeCache request.worker
                (.set (cacheKey request.kind request.inst.pk) snapshot
                  (expiry ttl w.clock))
                (.stored request snapshot w.clock)
              some (w.show request.worker request.user request.inst
                request.kind snapshot)
  | .clear worker key =>
      some (w.writeCache worker (.drop key) (.cleared worker key))

/-! ## Keys -/

def PageEntry.write? (ttl worker : Nat) :
    PageEntry → Option (CacheWrite String Snapshot Time)
  | .stored request snapshot now =>
      if request.worker = worker then
        some (.set (cacheKey request.kind request.inst.pk) snapshot
          (expiry ttl now))
      else none
  | .cleared worker' key => if worker' = worker then some (.drop key) else none
  | .shown .. => none

section Pages

variable {ttl : Nat} {start : Time} {r : Registry}

/-- The event by which the request came, from a user who could view the instance. -/
def Arrived (ttl : Nat) (start : Time) (r : Registry) (events : List PageEvent)
    (request : InFlight) : Prop :=
  ∃ front pk rest w,
    events = front ++ .visit request.worker request.user request.kind pk :: rest ∧
    Run (Enabled (pageEvent ttl)) (.initial start r) front w ∧
    viewableInstance w.registry request.user pk = .ok request.inst ∧
    request.since = w.clock

def Answered (ttl : Nat) (start : Time) (r : Registry) (events : List PageEvent)
    (request : InFlight) (snapshot : Snapshot) (now : Time) : Prop :=
  ∃ front place drivers calls rest w,
    events = front ++ .fetched place drivers calls :: rest ∧
    Run (Enabled (pageEvent ttl)) (.initial start r) front w ∧
    w.inFlight[place]? = some request ∧ w.clock = now ∧
    takeSnapshot drivers calls request.inst request.kind = .ok snapshot

theorem Arrived.snoc {events : List PageEvent} {request : InFlight}
    (h : Arrived ttl start r events request) (event : PageEvent) :
    Arrived ttl start r (events ++ [event]) request := by
  obtain ⟨front, pk, rest, w, rfl, hrun, hview, hsince⟩ := h
  exact ⟨front, pk, rest ++ [event], w, by simp, hrun, hview, hsince⟩

theorem Answered.snoc {events : List PageEvent} {request : InFlight}
    {snapshot : Snapshot} {now : Time}
    (h : Answered ttl start r events request snapshot now) (event : PageEvent) :
    Answered ttl start r (events ++ [event]) request snapshot now := by
  obtain ⟨front, place, drivers, calls, rest, w, rfl, hrun, hanswer⟩ := h
  exact ⟨front, place, drivers, calls, rest ++ [event], w, by simp, hrun,
    hanswer⟩

/--
The snapshot is what the server answered to a request of the same worker for
this kind of page of this instance, from a user who could view it when that
request came, and was stored no longer ago than its time limit.
-/
structure StoredFor (ttl : Nat) (start : Time) (r : Registry)
    (events : List PageEvent) (worker : Nat) (page : Page) (now : Time)
    (request : InFlight) (storedAt : Time) : Prop where
  worker : request.worker = worker
  kind : request.kind = page.kind
  instance_pk : request.inst.pk = page.inst.pk
  arrived : Arrived ttl start r events request
  answered : Answered ttl start r events request page.snapshot storedAt
  since : request.since ≤ storedAt
  stored : storedAt ≤ now
  live : now ≤ expiry ttl storedAt

def Untouched (ttl worker : Nat) (key : String) (entry : PageEntry) : Prop :=
  ∀ write, entry.write? ttl worker = some write → write.key ≠ key

def FreshPage (ttl : Nat) (start : Time) (r : Registry) (events : List PageEvent)
    (before : List PageEntry) (worker : Nat) (page : Page) (now : Time) : Prop :=
  (∃ since ≤ now, Arrived ttl start r events
    ⟨worker, page.user, page.inst, page.kind, since⟩) ∧
  Since
    (fun entry => ∃ request storedAt,
      entry = .stored request page.snapshot storedAt ∧
      StoredFor ttl start r events worker page now request storedAt)
    (Untouched ttl worker (cacheKey page.kind page.inst.pk)) before

theorem FreshPage.snoc {events : List PageEvent} {before : List PageEntry}
    {worker : Nat} {page : Page} {now : Time}
    (h : FreshPage ttl start r events before worker page now)
    (event : PageEvent) :
    FreshPage ttl start r (events ++ [event]) before worker page now := by
  obtain ⟨⟨since, hsince, harrived⟩, front, entry, later, hbefore, hstored,
    hlater⟩ := h
  obtain ⟨request, storedAt, hentry, hfor⟩ := hstored
  exact ⟨⟨since, hsince, harrived.snoc event⟩, front, entry, later, hbefore,
    ⟨request, storedAt, hentry,
      { hfor with
        arrived := hfor.arrived.snoc event
        answered := hfor.answered.snoc event }⟩, hlater⟩

structure PageInv (ttl : Nat) (start : Time) (r : Registry)
    (events : List PageEvent) (w : PageWorld) : Prop where
  caches : ∀ worker, w.caches worker =
    Cache.replay (w.log.filterMap (PageEntry.write? ttl worker))
  inFlight : ∀ request ∈ w.inFlight, request.since ≤ w.clock ∧
    Arrived ttl start r events request
  stored : ∀ request snapshot storedAt,
    .stored request snapshot storedAt ∈ w.log →
      request.since ≤ storedAt ∧ storedAt ≤ w.clock ∧
        Arrived ttl start r events request ∧
        Answered ttl start r events request snapshot storedAt
  pages : EachAfter (fun before entry => ∀ worker page now,
    entry = .shown worker page now →
      FreshPage ttl start r events before worker page now) w.log

section Steps

variable {events : List PageEvent} {w w' : PageWorld}

theorem PageInv.quiet {event : PageEvent} (h : PageInv ttl start r events w)
    (hclock : w.clock ≤ w'.clock) (hcaches : w'.caches = w.caches)
    (hlog : w'.log = w.log)
    (hinFlight : ∀ request ∈ w'.inFlight, request ∈ w.inFlight ∨
      request.since ≤ w'.clock ∧
        Arrived ttl start r (events ++ [event]) request) :
    PageInv ttl start r (events ++ [event]) w' where
  caches worker := by rw [hcaches, hlog, h.caches]
  inFlight request hmem := by
    rcases hinFlight request hmem with hold | hnew
    · obtain ⟨hsince, harrived⟩ := h.inFlight request hold
      exact ⟨hsince.trans hclock, harrived.snoc event⟩
    · exact hnew
  stored request snapshot storedAt hmem := by
    rw [hlog] at hmem
    obtain ⟨hsince, hstored, harrived, hanswered⟩ :=
      h.stored request snapshot storedAt hmem
    exact ⟨hsince, hstored.trans hclock, harrived.snoc event,
      hanswered.snoc event⟩
  pages := by
    rw [hlog]
    exact h.pages.imp fun before entry hpage worker page now hentry =>
      (hpage worker page now hentry).snoc event

theorem PageInv.show {worker : Nat} {user : Account} {inst : RDSInstance}
    {kind : PageKind} {snapshot : Snapshot} (h : PageInv ttl start r events w)
    (hfresh : ∀ page : Page, page.user = user → page.inst = inst →
      page.kind = kind → page.snapshot = snapshot →
        FreshPage ttl start r events w.log worker page w.clock) :
    PageInv ttl start r events (w.show worker user inst kind snapshot) where
  caches other := by
    rw [PageWorld.show, List.filterMap_append]
    exact (h.caches other).trans (congrArg _ (List.append_nil _).symm)
  inFlight := h.inFlight
  stored request snapshot storedAt hmem := by
    rw [PageWorld.show, List.mem_append, List.mem_singleton] at hmem
    rcases hmem with hold | hnew
    · exact h.stored request snapshot storedAt hold
    · cases hnew
  pages := by
    refine h.pages.snoc ?_
    rintro _ _ _ ⟨⟩
    exact hfresh _ rfl rfl rfl rfl

theorem PageInv.writeCache {worker : Nat}
    {write : CacheWrite String Snapshot Time} {entry : PageEntry}
    (h : PageInv ttl start r events w)
    (hwrite : ∀ other, entry.write? ttl other =
      if worker = other then some write else none)
    (hshown : ∀ worker page now, entry ≠ .shown worker page now)
    (hstored : ∀ request snapshot storedAt,
      entry = .stored request snapshot storedAt →
        request.since ≤ storedAt ∧ storedAt ≤ w.clock ∧
          Arrived ttl start r events request ∧
          Answered ttl start r events request snapshot storedAt) :
    PageInv ttl start r events (w.writeCache worker write entry) where
  caches other := by
    rw [PageWorld.writeCache, List.filterMap_append, List.filterMap_cons,
      List.filterMap_nil, hwrite]
    by_cases hother : worker = other
    · subst hother
      rw [if_pos rfl, Cache.replay_append, ← h.caches]
      exact Function.update_self ..
    · rw [if_neg hother]
      dsimp only
      rw [List.append_nil, ← h.caches]
      exact Function.update_of_ne (Ne.symm hother) ..
  inFlight := h.inFlight
  stored request snapshot storedAt hmem := by
    rw [PageWorld.writeCache, List.mem_append, List.mem_singleton] at hmem
    rcases hmem with hold | hnew
    · exact h.stored request snapshot storedAt hold
    · exact hstored request snapshot storedAt hnew.symm
  pages := by
    refine h.pages.snoc ?_
    intro worker page now hentry
    exact absurd hentry (hshown worker page now)

end Steps

end Pages

end HealthGrid.Views.CachedPages
