import HealthGrid.Background.Lease
import Mathlib.Logic.Function.Basic
import Mathlib.Tactic.Linarith

/-!
# The monitor loop in time

Every process passes through `monitor_loop`: it asks for the lease, works when
it gets it, and sleeps.  Processes start and crash at any time.  The lease
outlives the passes of a process that is quick enough, and what a crashed
process leaves behind runs out.
-/

namespace HealthGrid.Background

open HealthGrid.Foundation

/-- `max(5, interval)`, where a pass that raised leaves the interval at 30. -/
def sleepPeriod (interval : Option Nat) : Int :=
  max 5 (((interval.getD 30 : Nat) : Int)) * second

structure LoopWorld where
  lease : LeaseState
  wakeAt : OwnerId → Option Time

def LoopWorld.initial (now : Time) : LoopWorld := ⟨.initial now, fun _ => none⟩

/--
`duration` is the time a pass takes before it sleeps, and `loaded` the interval
it loads at its end, none when something raised.
-/
inductive LoopEvent where
  | tick (now : Time)
  | start (owner : OwnerId)
  | pass (owner : OwnerId) (intervalSeconds duration : Nat)
      (loaded : Option Nat)
  | crash (owner : OwnerId)

def sleptInterval (acquired : Except String (Bool × MonitorLease))
    (loaded : Option Nat) : Option Nat :=
  match acquired with
  | .ok _ => loaded
  | .error _ => none

def LoopWorld.at (w : LoopWorld) (now : Time) : LoopWorld :=
  { w with lease := { w.lease with clock := now } }

/-- A process draws its id once, so none starts with an id used before. -/
def loopEvent (w : LoopWorld) : LoopEvent → Option LoopWorld
  | .tick now => if now < w.lease.clock then none else some (w.at now)
  | .start owner =>
      if (w.wakeAt owner).isSome ∨
          w.lease.log.any fun record => record.owner == owner then none
      else some { w with
        wakeAt := Function.update w.wakeAt owner (some w.lease.clock) }
  | .pass owner intervalSeconds duration loaded =>
      match w.wakeAt owner with
      | none => none
      | some wake =>
          if w.lease.clock < wake then none
          else
            let slept := sleptInterval (acquireMonitorLease owner.hex
              w.lease.clock intervalSeconds w.lease.row) loaded
            (loopStep w.lease ⟨owner, .acquire intervalSeconds,
              w.lease.clock⟩).map fun lease =>
                ⟨lease, Function.update w.wakeAt owner
                  (some (w.lease.clock + duration + sleepPeriod slept))⟩
  | .crash owner =>
      some { w with wakeAt := Function.update w.wakeAt owner none }

/-- Time passes no further than `late` after the end of anybody's sleep. -/
def Timely (late : Nat) (w : LoopWorld) : LoopEvent → Prop
  | .tick now => ∀ owner wake, w.wakeAt owner = some wake → now ≤ wake + late
  | _ => True

/-! ## What an event can do -/

inductive EventEnd (w : LoopWorld) : LoopEvent → LoopWorld → Prop
  | ticked {now : Time} (hclock : w.lease.clock ≤ now) :
      EventEnd w (.tick now) (w.at now)
  | started {owner : OwnerId} (hnew : w.wakeAt owner = none)
      (hunused : ∀ record ∈ w.lease.log, record.owner ≠ owner) :
      EventEnd w (.start owner) { w with
        wakeAt := Function.update w.wakeAt owner (some w.lease.clock) }
  | passed {owner : OwnerId} {intervalSeconds duration : Nat}
      {loaded : Option Nat} {wake : Time} {lease : LeaseState}
      (hwake : w.wakeAt owner = some wake) (hslept : wake ≤ w.lease.clock)
      (hstep : loopStep w.lease ⟨owner, .acquire intervalSeconds,
        w.lease.clock⟩ = some lease) :
      EventEnd w (.pass owner intervalSeconds duration loaded)
        ⟨lease, Function.update w.wakeAt owner (some (w.lease.clock + duration +
          sleepPeriod (sleptInterval (acquireMonitorLease owner.hex
            w.lease.clock intervalSeconds w.lease.row) loaded)))⟩
  | crashed {owner : OwnerId} :
      EventEnd w (.crash owner)
        { w with wakeAt := Function.update w.wakeAt owner none }

theorem loopEvent_end {w w' : LoopWorld} {event : LoopEvent}
    (h : loopEvent w event = some w') : EventEnd w event w' := by
  cases event with
  | tick now =>
      simp only [loopEvent, Option.ite_none_left_eq_some] at h
      obtain ⟨hclock, hw⟩ := h
      cases hw
      exact .ticked (Int.not_lt.mp hclock)
  | start owner =>
      simp only [loopEvent, Option.ite_none_left_eq_some, not_or] at h
      obtain ⟨⟨hnew, hunused⟩, hw⟩ := h
      cases hw
      refine .started (by simpa using hnew) ?_
      intro record hmem heq
      exact hunused (List.any_eq_true.mpr ⟨record, hmem, beq_iff_eq.mpr heq⟩)
  | pass owner intervalSeconds duration loaded =>
      simp only [loopEvent] at h
      split at h
      · cases h
      · rename_i wake hwake
        split at h
        · cases h
        · rename_i hslept
          obtain ⟨lease, hstep, hw⟩ := Option.map_eq_some_iff.mp h
          cases hw
          exact .passed hwake (Int.not_lt.mp hslept) hstep
  | crash owner =>
      cases h
      exact .crashed

/-- How a pass asks for the lease; without a date on it, it cannot raise. -/
inductive AcquireEnd (s : LeaseState) (owner : OwnerId) (intervalSeconds : Nat) :
    LeaseState → Prop
  | acquired :
      AcquireEnd s owner intervalSeconds
        (s.record ⟨owner, .acquire intervalSeconds, s.clock⟩
          (some ⟨owner.hex, some (s.clock + leasePeriod intervalSeconds)⟩)
          (.acquired (s.clock + leasePeriod intervalSeconds)))
  | refused {ownerId : String} {leaseUntil : Time}
      (hrow : s.row = some ⟨ownerId, some leaseUntil⟩)
      (hne : ownerId ≠ owner.hex) (hlater : leaseUntil > s.clock) :
      AcquireEnd s owner intervalSeconds
        (s.record ⟨owner, .acquire intervalSeconds, s.clock⟩ s.row .refused)

theorem acquire_end {s s' : LeaseState} {owner : OwnerId}
    {intervalSeconds : Nat}
    (hdated : ∀ lease, s.row = some lease → lease.ownerId ≠ "" →
      lease.leaseUntil ≠ none)
    (h : loopStep s ⟨owner, .acquire intervalSeconds, s.clock⟩ = some s') :
    (∃ answer, acquireMonitorLease owner.hex s.clock intervalSeconds s.row =
      .ok answer) ∧ AcquireEnd s owner intervalSeconds s' := by
  unfold loopStep at h
  dsimp only at h
  rw [if_neg (Int.lt_irrefl _)] at h
  cases hacquire : acquireMonitorLease owner.hex s.clock intervalSeconds
      s.row with
  | error message =>
      unfold acquireMonitorLease at hacquire
      dsimp only at hacquire
      split at hacquire
      · rename_i hother
        split at hacquire
        · rename_i hnull
          cases hrow : s.row with
          | none =>
              rw [hrow] at hother
              exact absurd rfl hother.1
          | some lease =>
              rw [hrow] at hother hnull
              exact absurd hnull (hdated lease hrow hother.1)
        · split at hacquire <;> cases hacquire
      · cases hacquire
  | ok answer =>
      rw [hacquire] at h
      refine ⟨⟨answer, rfl⟩, ?_⟩
      unfold acquireMonitorLease at hacquire
      dsimp only at hacquire
      split at hacquire
      · rename_i hother
        split at hacquire
        · cases hacquire
        · rename_i held hheld
          cases hrow : s.row with
          | none =>
              rw [hrow] at hother
              exact absurd rfl hother.1
          | some lease =>
              rw [hrow] at hother hheld hacquire
              split at hacquire
              · rename_i hlater
                cases hacquire
                cases h
                rw [Option.getD_some, ← hrow]
                exact .refused (hrow.trans (by rw [← hheld]; rfl)) hother.2 hlater
              · cases hacquire
                cases h
                exact .acquired
      · cases hacquire
        cases h
        exact .acquired

theorem acquired_free {s : LeaseState} {input : LoopStep}
    {row : Option MonitorLease} {leaseUntil held : Time} {owner : OwnerId}
    (h : loopStep s input = some (s.record input row (.acquired leaseUntil)))
    (hheld : HeldBy s.row owner held) (hlater : input.now < held) :
    owner = input.owner := by
  obtain ⟨-, hend⟩ := loopStep_end h
  generalize hlast : s.record input row _ = last at hend
  cases hend with
  | acquired _ hfree => exact hfree owner held hheld hlater
  | refused => simp [LeaseState.record] at hlast
  | raised => simp [LeaseState.record] at hlast
  | finished => simp [LeaseState.record] at hlast

/-! ## Every state of a run -/

structure LoopInv (late : Nat) (w : LoopWorld) : Prop where
  shown : LeaseShown w.lease
  punctual : ∀ owner wake, w.wakeAt owner = some wake →
    w.lease.clock ≤ wake + late

theorem sleepPeriod_nonneg (interval : Option Nat) : 0 ≤ sleepPeriod interval := by
  unfold sleepPeriod second
  omega

theorem leasePeriod_nonneg (intervalSeconds : Nat) :
    0 ≤ leasePeriod intervalSeconds := by
  unfold leasePeriod second
  omega

theorem loopInv_initial (late : Nat) (now : Time) :
    LoopInv late (.initial now) where
  shown := leaseShown_initial now
  punctual owner wake h := by cases h

theorem punctual_update {late : Nat} {clock : Time} {owner : OwnerId}
    {wakeAt : OwnerId → Option Time} {wake? : Option Time}
    (h : ∀ owner wake, wakeAt owner = some wake → clock ≤ wake + late)
    (hwake : ∀ wake, wake? = some wake → clock ≤ wake) :
    ∀ other wake, Function.update wakeAt owner wake? other = some wake →
      clock ≤ wake + late := by
  intro other wake hupdate
  by_cases hother : other = owner
  · rw [hother, Function.update_self] at hupdate
    have := hwake wake hupdate
    linarith
  · rw [Function.update_of_ne hother] at hupdate
    exact h other wake hupdate

theorem loopInv_step {late : Nat} {w w' : LoopWorld} {event : LoopEvent}
    (h : LoopInv late w) (htimely : Timely late w event)
    (hstep : loopEvent w event = some w') : LoopInv late w' := by
  cases loopEvent_end hstep with
  | ticked hclock =>
      refine ⟨⟨h.shown.dated, ?_⟩, htimely⟩
      intro owner grant hgrant hlater
      exact h.shown.held owner grant hgrant (Int.lt_of_le_of_lt hclock hlater)
  | started =>
      refine ⟨h.shown, punctual_update h.punctual ?_⟩
      rintro wake ⟨⟩
      exact Int.le_refl _
  | @passed owner intervalSeconds duration loaded wake lease hwake _ hlease =>
      have hsleep := sleepPeriod_nonneg (sleptInterval (acquireMonitorLease
        owner.hex w.lease.clock intervalSeconds w.lease.row) loaded)
      have hclock : lease.clock = w.lease.clock := by
        cases (acquire_end h.shown.dated hlease).2 with
        | acquired => rfl
        | refused => rfl
      refine ⟨leaseShown_step h.shown hlease, ?_⟩
      rw [hclock]
      refine punctual_update h.punctual ?_
      rintro wake' ⟨⟩
      linarith
  | crashed =>
      refine ⟨h.shown, punctual_update h.punctual ?_⟩
      rintro wake ⟨⟩

/-! ## Somebody monitors -/

/-- Leases of at most `lease`, and passes of `owner` of at most `pass`. -/
def Within (lease pass : Int) (owner : OwnerId) : LoopEvent → Prop
  | .pass other intervalSeconds duration loaded =>
      leasePeriod intervalSeconds ≤ lease ∧
        (other = owner → duration + sleepPeriod loaded ≤ pass)
  | _ => True

/-- Somebody got the lease no longer than `period` before this time. -/
def GrantedWithin (period : Int) (log : List LoopRecord) (time : Time) : Prop :=
  ∃ record ∈ log, record.grant? ≠ none ∧ time ≤ record.now + period

theorem GrantedWithin.append {period : Int} {log : List LoopRecord} {time : Time}
    (h : GrantedWithin period log time) (later : List LoopRecord) :
    GrantedWithin period (log ++ later) time := by
  obtain ⟨record, hmem, hgrant, htime⟩ := h
  exact ⟨record, List.mem_append_left _ hmem, hgrant, htime⟩

theorem GrantedWithin.mono {period period' : Int} {log : List LoopRecord}
    {time time' : Time} (h : GrantedWithin period log time)
    (htime : time' - time ≤ period' - period) :
    GrantedWithin period' log time' := by
  obtain ⟨record, hmem, hgrant, hle⟩ := h
  exact ⟨record, hmem, hgrant, by linarith⟩

structure Served (lease pass : Int) (owner : OwnerId) (w : LoopWorld) : Prop where
  row : ∀ ownerId leaseUntil, w.lease.row = some ⟨ownerId, some leaseUntil⟩ →
    GrantedWithin lease w.lease.log leaseUntil
  wake : ∀ wake, w.wakeAt owner = some wake →
    (∃ record ∈ w.lease.log, record.owner = owner) →
      GrantedWithin (lease + pass) w.lease.log wake

section Served

variable {lease pass : Int} {owner : OwnerId} {late : Nat} {w w' : LoopWorld}

theorem served_initial (now : Time) : Served lease pass owner (.initial now) where
  row ownerId leaseUntil h := by cases h
  wake wake h := by cases h

theorem served_pass {other : OwnerId} {intervalSeconds duration : Nat}
    {loaded : Option Nat} {lease' : LeaseState}
    (h : Served lease pass owner w)
    (hwithin : Within lease pass owner (.pass other intervalSeconds duration
      loaded))
    (hend : AcquireEnd w.lease other intervalSeconds lease') :
    Served lease pass owner ⟨lease', Function.update w.wakeAt other
      (some (w.lease.clock + duration + sleepPeriod loaded))⟩ := by
  have hnonneg := leasePeriod_nonneg intervalSeconds
  obtain ⟨hlease, hpass⟩ := hwithin
  cases hend with
  | acquired =>
      have hgrant : ∀ period time, time ≤ w.lease.clock + period →
          GrantedWithin period (w.lease.log ++ [⟨other, w.lease.clock,
            .acquired (w.lease.clock + leasePeriod intervalSeconds)⟩]) time :=
        fun period time htime => ⟨_, List.mem_append_right _
          (List.mem_singleton_self _), Option.some_ne_none _, htime⟩
      constructor
      · rintro ownerId leaseUntil ⟨⟩
        exact hgrant _ _ (by linarith)
      · intro wake hwake hrecord
        dsimp only at hwake
        by_cases hother : owner = other
        · rw [hother, Function.update_self] at hwake
          cases hwake
          have := hpass hother.symm
          exact hgrant _ _ (by linarith)
        · rw [Function.update_of_ne hother] at hwake
          obtain ⟨record, hmem, howner⟩ := hrecord
          rcases List.mem_append.mp hmem with hold | hnew
          · exact (h.wake wake hwake ⟨record, hold, howner⟩).append _
          · rw [List.mem_singleton.mp hnew] at howner
            exact absurd howner.symm hother
  | @refused ownerId leaseUntil hrow _ hlater =>
      -- The lease that keeps the process out was granted not long ago.
      have hheld := h.row ownerId leaseUntil hrow
      constructor
      · intro ownerId leaseUntil hrow
        exact (h.row ownerId leaseUntil hrow).append _
      · intro wake hwake hrecord
        dsimp only at hwake
        by_cases hother : owner = other
        · rw [hother, Function.update_self] at hwake
          cases hwake
          have := hpass hother.symm
          exact (hheld.mono (by linarith)).append _
        · rw [Function.update_of_ne hother] at hwake
          obtain ⟨record, hmem, howner⟩ := hrecord
          rcases List.mem_append.mp hmem with hold | hnew
          · exact (h.wake wake hwake ⟨record, hold, howner⟩).append _
          · rw [List.mem_singleton.mp hnew] at howner
            exact absurd howner.symm hother

theorem served_step {event : LoopEvent} (h : Served lease pass owner w)
    (hinv : LoopInv late w) (hwithin : Within lease pass owner event)
    (hstep : loopEvent w event = some w') : Served lease pass owner w' := by
  cases loopEvent_end hstep with
  | ticked => exact ⟨h.row, h.wake⟩
  | @started other hnew hunused =>
      refine ⟨h.row, ?_⟩
      intro wake hwake hrecord
      dsimp only at hwake
      by_cases hother : owner = other
      · obtain ⟨record, hmem, howner⟩ := hrecord
        exact absurd (howner.trans hother) (hunused record hmem)
      · rw [Function.update_of_ne hother] at hwake
        exact h.wake wake hwake hrecord
  | passed _ _ hlease =>
      obtain ⟨⟨answer, hanswer⟩, hend⟩ := acquire_end hinv.shown.dated hlease
      rw [hanswer]
      exact served_pass h hwithin hend
  | @crashed other =>
      refine ⟨h.row, ?_⟩
      intro wake hwake hrecord
      dsimp only at hwake
      by_cases hother : owner = other
      · rw [hother, Function.update_self] at hwake
        cases hwake
      · rw [Function.update_of_ne hother] at hwake
        exact h.wake wake hwake hrecord

theorem served_run {start : Time} {events : List LoopEvent}
    (hrun : Run (Guarded (fun w event => Timely late w event ∧
      Within lease pass owner event) (Enabled loopEvent)) (.initial start)
      events w) :
    LoopInv late w ∧ Served lease pass owner w := by
  refine hrun.invariant
    (fun w => LoopInv late w ∧ Served lease pass owner w) ?_
    ⟨loopInv_initial late start, served_initial start⟩
  rintro w event w' ⟨hinv, hserved⟩ ⟨⟨htimely, hwithin⟩, hstep⟩
  exact ⟨loopInv_step hinv htimely hstep,
    served_step hserved hinv hwithin hstep⟩

end Served

/-! ## The holder stays the holder -/

/-- The passes of `owner` end, with its sleep, before its lease does. -/
def KeepsUp (late : Nat) (owner : OwnerId) : LoopEvent → Prop
  | .pass other intervalSeconds duration loaded =>
      other = owner →
        duration + sleepPeriod loaded + late < leasePeriod intervalSeconds
  | .crash other => other ≠ owner
  | _ => True

structure Leads (late : Nat) (owner : OwnerId) (w : LoopWorld) : Prop where
  inv : LoopInv late w
  ahead : ∃ wake leaseUntil, w.wakeAt owner = some wake ∧
    HeldBy w.lease.row owner leaseUntil ∧ wake + late < leaseUntil

section Leads

variable {late : Nat} {owner : OwnerId} {w w' : LoopWorld} {event : LoopEvent}

theorem leads_of_acquired {intervalSeconds duration : Nat} {loaded : Option Nat}
    (hinv : LoopInv late w)
    (hkeeps : KeepsUp late owner (.pass owner intervalSeconds duration loaded))
    (hstep : loopEvent w (.pass owner intervalSeconds duration loaded) = some w')
    (hgrant : Unexpired w'.lease.log owner w'.lease.clock)
    (htimely : Timely late w (.pass owner intervalSeconds duration loaded)) :
    Leads late owner w' := by
  have hinv' := loopInv_step hinv htimely hstep
  refine ⟨hinv', ?_⟩
  cases loopEvent_end hstep with
  | @passed _ _ _ _ wake lease hwake _ hlease =>
      obtain ⟨⟨answer, hanswer⟩, hend⟩ := acquire_end hinv.shown.dated hlease
      rw [hanswer]
      have hlasts := hkeeps rfl
      cases hend with
      | acquired =>
          exact ⟨w.lease.clock + duration + sleepPeriod loaded,
            w.lease.clock + leasePeriod intervalSeconds,
            Function.update_self .., rfl, by linarith⟩
      | @refused ownerId leaseUntil hrow hne _ =>
          -- An unexpired grant of the process would be on the row.
          obtain ⟨grant, hlast, hlater⟩ := hgrant
          have hheld := hinv'.shown.held owner grant hlast hlater
          rw [HeldBy] at hheld
          have hsame := hrow.symm.trans hheld
          cases hsame
          exact absurd rfl hne

theorem leads_step (h : Leads late owner w) (htimely : Timely late w event)
    (hkeeps : KeepsUp late owner event)
    (hstep : loopEvent w event = some w') :
    Leads late owner w' ∧ ∃ later, w'.lease.log = w.lease.log ++ later ∧
      ∀ record ∈ later, Undisplaced owner record := by
  have hinv' := loopInv_step h.inv htimely hstep
  obtain ⟨wake, leaseUntil, hwake, hheld, hahead⟩ := h.ahead
  cases loopEvent_end hstep with
  | ticked =>
      exact ⟨⟨hinv', wake, leaseUntil, hwake, hheld, hahead⟩, [], by simp [LoopWorld.at],
        by simp⟩
  | @started other hnew _ =>
      refine ⟨⟨hinv', wake, leaseUntil, ?_, hheld, hahead⟩, [], by simp, by simp⟩
      dsimp only
      rw [Function.update_of_ne, hwake]
      rintro rfl
      rw [hwake] at hnew
      cases hnew
  | @passed other intervalSeconds duration loaded _ lease hother _ hlease =>
      obtain ⟨⟨answer, hanswer⟩, hend⟩ := acquire_end h.inv.shown.dated hlease
      rw [hanswer] at hinv' ⊢
      have hpunctual := h.inv.punctual owner wake hwake
      cases hend with
      | acquired =>
          obtain rfl := acquired_free hlease hheld (by linarith)
          have hlasts := hkeeps rfl
          refine ⟨⟨hinv', w.lease.clock + duration + sleepPeriod loaded,
            w.lease.clock + leasePeriod intervalSeconds,
            Function.update_self .., rfl, by linarith⟩, _, rfl, ?_⟩
          simp [Undisplaced, LoopRecord.grant?]
      | @refused ownerId _ hrow hne _ =>
          have hsame := hrow.symm.trans hheld
          cases hsame
          have hother' : owner ≠ other := fun heq => hne (by rw [heq])
          refine ⟨⟨hinv', wake, leaseUntil, ?_, hheld, hahead⟩, _, rfl, ?_⟩
          · dsimp only
            rw [Function.update_of_ne hother', hwake]
          · simp [Undisplaced, LoopRecord.grant?, Ne.symm hother']
  | crashed =>
      refine ⟨⟨hinv', wake, leaseUntil, ?_, hheld, hahead⟩, [], by simp, by simp⟩
      dsimp only
      rw [Function.update_of_ne (Ne.symm hkeeps), hwake]

theorem leads_run {events : List LoopEvent}
    (hrun : Run (Guarded (fun w event => Timely late w event ∧
      KeepsUp late owner event) (Enabled loopEvent)) w events w')
    (h : Leads late owner w) :
    Leads late owner w' ∧ ∃ later, w'.lease.log = w.lease.log ++ later ∧
      ∀ record ∈ later, Undisplaced owner record := by
  induction hrun with
  | refl => exact ⟨h, [], (List.append_nil _).symm, by simp⟩
  | snoc _ hstep ih =>
      obtain ⟨hleads, later, hlog, hlater⟩ := ih
      obtain ⟨⟨htimely, hkeeps⟩, hevent⟩ := hstep
      obtain ⟨hleads', more, hlog', hmore⟩ :=
        leads_step hleads htimely hkeeps hevent
      refine ⟨hleads', later ++ more, ?_, ?_⟩
      · rw [hlog', hlog, List.append_assoc]
      · exact fun record hmem => (List.mem_append.mp hmem).elim (hlater record)
          (hmore record)

end Leads

/--
While a process that has passed once runs on, somebody gets the lease again
within the longest lease and its own longest pass, whoever crashes.  A process
whose passes and sleeps are shorter than its leases is never displaced, and
always has a lease that has not run out.
-/
theorem monitor_loop_goes_on :
    (∀ (late : Nat) (lease pass : Int) owner start events w wake,
      Run (Guarded (fun w event => Timely late w event ∧
          Within lease pass owner event) (Enabled loopEvent))
        (.initial start) events w →
      w.wakeAt owner = some wake →
      (∃ record ∈ w.lease.log, record.owner = owner) →
        GrantedWithin (lease + pass + late) w.lease.log w.lease.clock) ∧
    ∀ (late : Nat) owner start events w intervalSeconds duration loaded w'
      events' w'',
      Run (Guarded (Timely late) (Enabled loopEvent)) (.initial start) events
        w →
      loopEvent w (.pass owner intervalSeconds duration loaded) = some w' →
      Unexpired w'.lease.log owner w'.lease.clock →
      KeepsUp late owner (.pass owner intervalSeconds duration loaded) →
      Run (Guarded (fun w event => Timely late w event ∧
          KeepsUp late owner event) (Enabled loopEvent)) w' events' w'' →
        (∃ leaseUntil, HeldBy w''.lease.row owner leaseUntil ∧
          w''.lease.clock < leaseUntil) ∧
        ∃ later, w''.lease.log = w'.lease.log ++ later ∧
          ∀ record ∈ later, Undisplaced owner record := by
  constructor
  · intro late lease pass owner start events w wake hrun hwake hrecord
    obtain ⟨hinv, hserved⟩ := served_run hrun
    have hpunctual := hinv.punctual owner wake hwake
    exact (hserved.wake wake hwake hrecord).mono (by linarith)
  · intro late owner start events w intervalSeconds duration loaded w' events'
      w'' hrun hstep hgrant hkeeps hrun'
    have hinv : LoopInv late w := hrun.invariant (LoopInv late)
      (fun w event w' h hstep => loopInv_step h hstep.1 hstep.2)
      (loopInv_initial late start)
    obtain ⟨hleads, hlog⟩ := leads_run hrun'
      (leads_of_acquired hinv hkeeps hstep hgrant trivial)
    refine ⟨?_, hlog⟩
    obtain ⟨wake, leaseUntil, hwake, hheld, hahead⟩ := hleads.ahead
    have hpunctual := hleads.inv.punctual owner wake hwake
    exact ⟨leaseUntil, hheld, by linarith⟩

/-! ## Two processes -/

def halfMinutePass (digit : Char) : LoopEvent :=
  .pass (sampleOwner digit) 30 0 (some 30)

def loopAfter (events : List LoopEvent) : LoopWorld :=
  events.foldl (fun w event => (loopEvent w event).getD w) (.initial 0)

def bothStarted : List LoopEvent :=
  [.start (sampleOwner 'a'), .start (sampleOwner 'b')]

def bothAsleep : List LoopEvent :=
  bothStarted ++ [halfMinutePass 'a', halfMinutePass 'b']

theorem bothAsleep_wake (owner : OwnerId) (wake : Time)
    (h : (loopAfter bothAsleep).wakeAt owner = some wake) :
    wake = 30 * second := by
  change Function.update (Function.update (Function.update (Function.update
    (fun _ => none) (sampleOwner 'a') (some 0)) (sampleOwner 'b') (some 0))
      (sampleOwner 'a') (some (30 * second))) (sampleOwner 'b')
        (some (30 * second)) owner = some wake at h
  by_cases hsecond : owner = sampleOwner 'b'
  · rw [hsecond, Function.update_self] at h
    exact (Option.some.inj h).symm
  · rw [Function.update_of_ne hsecond] at h
    by_cases hfirst : owner = sampleOwner 'a'
    · rw [hfirst, Function.update_self] at h
      exact (Option.some.inj h).symm
    · rw [Function.update_of_ne hfirst, Function.update_of_ne hsecond,
        Function.update_of_ne hfirst] at h
      cases h

theorem halfMinutePass_within (digit digit' : Char) :
    Within (60 * second) (30 * second) (sampleOwner digit)
      (halfMinutePass digit') :=
  ⟨by decide, fun _ => by decide⟩

theorem halfMinutePass_keepsUp (digit digit' : Char) :
    KeepsUp 0 (sampleOwner digit) (halfMinutePass digit') :=
  fun _ => by decide

/-- The second process wakes after the first has crashed; or it crashes, and the
first one goes on. -/
theorem two_processes_go_on :
    let crashed := loopAfter (bothAsleep ++
      [.tick (30 * second), .crash (sampleOwner 'a')])
    let kept := loopAfter (bothAsleep ++
      [.tick (30 * second), halfMinutePass 'a', .crash (sampleOwner 'b')])
    GrantedWithin (60 * second + 30 * second + 0) crashed.lease.log
        crashed.lease.clock ∧
      ∃ leaseUntil, HeldBy kept.lease.row (sampleOwner 'a') leaseUntil ∧
        kept.lease.clock < leaseUntil := by
  intro crashed kept
  have htimely : Timely 0 (loopAfter bothAsleep) (.tick (30 * second)) := by
    intro owner wake hwake
    rw [bothAsleep_wake owner wake hwake]
    exact Int.le_refl _
  constructor
  · have hrun : Run (Guarded (fun w event => Timely 0 w event ∧
          Within (60 * second) (30 * second) (sampleOwner 'b') event)
        (Enabled loopEvent)) (.initial 0) (bothAsleep ++
          [.tick (30 * second), .crash (sampleOwner 'a')]) crashed :=
      .snoc (.snoc (.snoc (.snoc (.snoc (.single
        ⟨⟨trivial, trivial⟩, rfl⟩)
        ⟨⟨trivial, trivial⟩, rfl⟩)
        ⟨⟨trivial, halfMinutePass_within 'b' 'a'⟩, rfl⟩)
        ⟨⟨trivial, halfMinutePass_within 'b' 'b'⟩, rfl⟩)
        ⟨⟨htimely, trivial⟩, rfl⟩)
        ⟨⟨trivial, trivial⟩, rfl⟩
    exact monitor_loop_goes_on.1 0 (60 * second) (30 * second) (sampleOwner 'b') 0
      _ crashed (30 * second) hrun rfl
      ⟨_, List.mem_cons_of_mem _ List.mem_cons_self, rfl⟩
  · have hfirst : Run (Guarded (Timely 0) (Enabled loopEvent)) (.initial 0)
        [.start (sampleOwner 'a')] (loopAfter [.start (sampleOwner 'a')]) :=
      .single ⟨trivial, rfl⟩
    have hstarted : Run (Guarded (Timely 0) (Enabled loopEvent)) (.initial 0)
        bothStarted (loopAfter bothStarted) := hfirst.snoc ⟨trivial, rfl⟩
    have hrun : Run (Guarded (fun w event => Timely 0 w event ∧
          KeepsUp 0 (sampleOwner 'a') event) (Enabled loopEvent))
        (loopAfter (bothStarted ++ [halfMinutePass 'a']))
        [halfMinutePass 'b', .tick (30 * second), halfMinutePass 'a',
          .crash (sampleOwner 'b')] kept :=
      .snoc (.snoc (.snoc (.single
        ⟨⟨trivial, halfMinutePass_keepsUp 'a' 'b'⟩, rfl⟩)
        ⟨⟨htimely, trivial⟩, rfl⟩)
        ⟨⟨trivial, halfMinutePass_keepsUp 'a' 'a'⟩, rfl⟩)
        ⟨⟨trivial, (by decide : sampleOwner 'b' ≠ sampleOwner 'a')⟩, rfl⟩
    exact (monitor_loop_goes_on.2 0 (sampleOwner 'a') 0 bothStarted _ 30 0
      (some 30) _ _ kept hstarted rfl ⟨_, rfl, by decide⟩
      (halfMinutePass_keepsUp 'a' 'a') hrun).1

end HealthGrid.Background
