import HealthGrid.Foundation.Run
import HealthGrid.Models

/-!
# The monitor lease

`acquire_monitor_lease` decides which process may run the next monitor cycle.
The lease is one row; each call reads it and writes it in one transaction.
-/

namespace HealthGrid.Background

open HealthGrid.Foundation

structure MonitorLease where
  ownerId : String
  leaseUntil : Option Time
  deriving DecidableEq, Repr

def MonitorLease.fresh : MonitorLease := ⟨"", none⟩

/-- `uuid.uuid4().hex`, which every process draws once. -/
structure OwnerId where
  hex : String
  length_hex : hex.length = 32
  deriving DecidableEq

theorem OwnerId.hex_ne_empty (owner : OwnerId) : owner.hex ≠ "" := by
  intro h
  have hlength := owner.length_hex
  rw [h] at hlength
  cases hlength

theorem OwnerId.hex_inj {owner owner' : OwnerId} (h : owner.hex = owner'.hex) :
    owner = owner' := by
  cases owner
  cases owner'
  cases h
  rfl

def second : Int := 1000000

def leasePeriod (intervalSeconds : Nat) : Int :=
  max 60 ((intervalSeconds : Int) * 2) * second

/--
`row` is the row with primary key 1, if there is one.  The call returns its
answer and the row it leaves; comparing a null `lease_until` raises.
-/
def acquireMonitorLease (ownerId : String) (now : Time) (intervalSeconds : Nat)
    (row : Option MonitorLease) : Except String (Bool × MonitorLease) :=
  let lease := row.getD .fresh
  let leaseUntil := now + leasePeriod intervalSeconds
  if lease.ownerId ≠ "" ∧ lease.ownerId ≠ ownerId then
    match lease.leaseUntil with
    | none => .error "'>' not supported between instances of 'NoneType' and 'datetime'"
    | some held =>
        if held > now then .ok (false, lease)
        else .ok (true, ⟨ownerId, some leaseUntil⟩)
  else .ok (true, ⟨ownerId, some leaseUntil⟩)

/-! ## Runs of the monitor loops -/

inductive LoopAction where
  | acquire (intervalSeconds : Nat)
  | finishCycle
  deriving DecidableEq, Repr

structure LoopStep where
  owner : OwnerId
  action : LoopAction
  now : Time

inductive Outcome where
  | acquired (leaseUntil : Time)
  | refused
  | raised (message : String)
  | finished
  deriving DecidableEq, Repr

structure LoopRecord where
  owner : OwnerId
  now : Time
  outcome : Outcome

structure Grant where
  since : Time
  leaseUntil : Time

def LoopRecord.grant? (record : LoopRecord) : Option Grant :=
  match record.outcome with
  | .acquired leaseUntil => some ⟨record.now, leaseUntil⟩
  | _ => none

structure LeaseState where
  clock : Time
  row : Option MonitorLease
  log : List LoopRecord

def LeaseState.initial (now : Time) : LeaseState := ⟨now, none, []⟩

def LeaseState.record (s : LeaseState) (input : LoopStep)
    (row : Option MonitorLease) (outcome : Outcome) : LeaseState where
  clock := input.now
  row := row
  log := s.log ++ [⟨input.owner, input.now, outcome⟩]

/-- A process that calls again has finished its cycle. -/
def loopStep (s : LeaseState) (input : LoopStep) : Option LeaseState :=
  if input.now < s.clock then none
  else
    match input.action with
    | .finishCycle => some (s.record input s.row .finished)
    | .acquire intervalSeconds =>
        match acquireMonitorLease input.owner.hex input.now intervalSeconds
            s.row with
        | .ok (true, lease) =>
            some (s.record input (some lease)
              (.acquired (input.now + leasePeriod intervalSeconds)))
        | .ok (false, lease) => some (s.record input (some lease) .refused)
        | .error message => some (s.record input s.row (.raised message))

def lastGrant (log : List LoopRecord) (owner : OwnerId) : Option Grant :=
  latest (fun record => if record.owner = owner then record.grant? else none)
    log

/-- The successful call whose cycle the process is still in. -/
def runningGrant (log : List LoopRecord) (owner : OwnerId) : Option Grant :=
  (latest (fun record =>
    if record.owner = owner then some record.grant? else none) log).join

theorem lastGrant_snoc (log : List LoopRecord) (record : LoopRecord)
    (owner : OwnerId) :
    lastGrant (log ++ [record]) owner =
      if record.owner = owner then record.grant?.or (lastGrant log owner)
      else lastGrant log owner := by
  unfold lastGrant
  rw [latest_snoc]
  split <;> simp

theorem runningGrant_snoc (log : List LoopRecord) (record : LoopRecord)
    (owner : OwnerId) :
    runningGrant (log ++ [record]) owner =
      if record.owner = owner then record.grant?
      else runningGrant log owner := by
  unfold runningGrant
  rw [latest_snoc]
  split <;> simp

/-! ## What a step can do -/

def HeldBy (row : Option MonitorLease) (owner : OwnerId) (leaseUntil : Time) :
    Prop :=
  row = some ⟨owner.hex, some leaseUntil⟩

inductive StepEnd (s : LeaseState) (input : LoopStep) : LeaseState → Prop
  | acquired {intervalSeconds : Nat}
      (haction : input.action = .acquire intervalSeconds)
      (hfree : ∀ owner leaseUntil, HeldBy s.row owner leaseUntil →
        leaseUntil > input.now → owner = input.owner) :
      StepEnd s input (s.record input
        (some ⟨input.owner.hex,
          some (input.now + leasePeriod intervalSeconds)⟩)
        (.acquired (input.now + leasePeriod intervalSeconds)))
  | refused {ownerId : String}
      (hother : s.row.map MonitorLease.ownerId = some ownerId)
      (hne : ownerId ≠ input.owner.hex) :
      StepEnd s input (s.record input s.row .refused)
  | raised {ownerId message : String}
      (hnull : s.row = some ⟨ownerId, none⟩) (hne : ownerId ≠ "") :
      StepEnd s input (s.record input s.row (.raised message))
  | finished (haction : input.action = .finishCycle) :
      StepEnd s input (s.record input s.row .finished)

theorem loopStep_end {s s' : LeaseState} {input : LoopStep}
    (h : loopStep s input = some s') :
    s.clock ≤ input.now ∧ StepEnd s input s' := by
  unfold loopStep at h
  split at h
  · cases h
  · rename_i hclock
    refine ⟨Int.not_lt.mp hclock, ?_⟩
    cases haction : input.action with
    | finishCycle =>
        rw [haction] at h
        cases h
        exact .finished haction
    | acquire intervalSeconds =>
        rw [haction] at h
        unfold acquireMonitorLease at h
        dsimp only at h
        by_cases hother : (s.row.getD .fresh).ownerId ≠ "" ∧
            (s.row.getD .fresh).ownerId ≠ input.owner.hex
        · cases hrow : s.row with
          | none =>
              rw [hrow] at hother
              exact absurd rfl hother.1
          | some lease =>
              obtain ⟨ownerId, leaseUntil⟩ := lease
              rw [hrow] at hother
              rw [hrow, if_pos hother] at h
              cases leaseUntil with
              | none =>
                  cases h
                  rw [← hrow]
                  exact .raised hrow hother.1
              | some held =>
                  dsimp only [Option.getD_some] at h
                  by_cases hheld : held > input.now
                  · rw [if_pos hheld] at h
                    cases h
                    rw [← hrow]
                    exact .refused (by rw [hrow]; rfl) hother.2
                  · rw [if_neg hheld] at h
                    cases h
                    refine .acquired haction ?_
                    intro owner leaseUntil hby hlater
                    rw [HeldBy, hrow] at hby
                    cases hby
                    exact absurd hlater hheld
        · rw [if_neg hother] at h
          cases h
          refine .acquired haction ?_
          intro owner leaseUntil hby _
          rw [HeldBy] at hby
          rw [hby, Option.getD_some, not_and_not_right] at hother
          exact OwnerId.hex_inj (hother owner.hex_ne_empty)

/-! ## One holder -/

/-- The row shows every unexpired grant, and is never without a date. -/
structure LeaseShown (s : LeaseState) : Prop where
  dated : ∀ lease, s.row = some lease → lease.ownerId ≠ "" →
    lease.leaseUntil ≠ none
  held : ∀ owner grant, lastGrant s.log owner = some grant →
    grant.leaseUntil > s.clock → HeldBy s.row owner grant.leaseUntil

theorem leaseShown_initial (now : Time) : LeaseShown (.initial now) where
  dated lease h := by cases h
  held owner grant h := by cases h

theorem held_of_no_grant {s : LeaseState} {record : LoopRecord}
    (h : LeaseShown s) (hclock : s.clock ≤ record.now)
    (hnone : record.grant? = none) {owner : OwnerId} {grant : Grant}
    (hgrant : lastGrant (s.log ++ [record]) owner = some grant)
    (hlater : grant.leaseUntil > record.now) :
    HeldBy s.row owner grant.leaseUntil := by
  rw [lastGrant_snoc, hnone, Option.none_or, ite_self] at hgrant
  exact h.held owner grant hgrant (Int.lt_of_le_of_lt hclock hlater)

theorem leaseShown_step {s s' : LeaseState} {input : LoopStep}
    (h : LeaseShown s) (hstep : loopStep s input = some s') :
    LeaseShown s' := by
  obtain ⟨hclock, hend⟩ := loopStep_end hstep
  cases hend with
  | @acquired intervalSeconds haction hfree =>
      constructor
      · intro lease hlease _
        cases hlease
        exact Option.some_ne_none _
      · intro owner grant hgrant hlater
        change lastGrant (s.log ++ [_]) owner = some grant at hgrant
        rw [lastGrant_snoc] at hgrant
        by_cases howner : input.owner = owner
        · rw [if_pos howner] at hgrant
          cases hgrant
          rw [← howner]
          rfl
        · rw [if_neg howner] at hgrant
          have hheld := h.held owner grant hgrant
            (Int.lt_of_le_of_lt hclock hlater)
          exact absurd (hfree owner _ hheld hlater).symm howner
  | refused =>
      exact ⟨h.dated, fun owner grant => held_of_no_grant h hclock rfl⟩
  | raised =>
      exact ⟨h.dated, fun owner grant => held_of_no_grant h hclock rfl⟩
  | finished =>
      exact ⟨h.dated, fun owner grant => held_of_no_grant h hclock rfl⟩

theorem leaseShown_run {now : Time} {inputs : List LoopStep} {s : LeaseState}
    (run : Run (Enabled loopStep) (.initial now) inputs s) : LeaseShown s :=
  run.invariant LeaseShown (fun _ _ _ h hstep => leaseShown_step h hstep)
    (leaseShown_initial now)

def Unexpired (log : List LoopRecord) (owner : OwnerId) (now : Time) : Prop :=
  ∃ grant, lastGrant log owner = some grant ∧ grant.leaseUntil > now

theorem unexpired_unique {s : LeaseState} (h : LeaseShown s) {now : Time}
    (hnow : s.clock ≤ now) {owner owner' : OwnerId}
    (howner : Unexpired s.log owner now)
    (howner' : Unexpired s.log owner' now) : owner = owner' := by
  obtain ⟨grant, hgrant, hlater⟩ := howner
  obtain ⟨grant', hgrant', hlater'⟩ := howner'
  have hheld := h.held owner grant hgrant (Int.lt_of_le_of_lt hnow hlater)
  have hheld' := h.held owner' grant' hgrant' (Int.lt_of_le_of_lt hnow hlater')
  rw [HeldBy, hheld] at hheld'
  obtain ⟨hhex, -⟩ := MonitorLease.mk.inj (Option.some.inj hheld')
  exact OwnerId.hex_inj hhex

/-! ## A fixed interval -/

def FixedInterval (intervalSeconds : Nat) (input : LoopStep) : Prop :=
  ∀ other, input.action = .acquire other → other = intervalSeconds

/-- At its next step every process is still within the period of its cycle. -/
def CyclesInTime (intervalSeconds : Nat) (s : LeaseState) (input : LoopStep) :
    Prop :=
  FixedInterval intervalSeconds input ∧
    ∀ owner grant, runningGrant s.log owner = some grant →
      input.now < grant.since + leasePeriod intervalSeconds

def RunningShown (intervalSeconds : Nat) (s : LeaseState) : Prop :=
  ∀ owner grant, runningGrant s.log owner = some grant →
    HeldBy s.row owner (grant.since + leasePeriod intervalSeconds)

theorem running_of_no_grant {intervalSeconds : Nat} {s : LeaseState}
    {record : LoopRecord} (h : RunningShown intervalSeconds s)
    (hnone : record.grant? = none) {owner : OwnerId} {grant : Grant}
    (hgrant : runningGrant (s.log ++ [record]) owner = some grant) :
    HeldBy s.row owner (grant.since + leasePeriod intervalSeconds) := by
  rw [runningGrant_snoc, hnone] at hgrant
  split at hgrant
  · cases hgrant
  · exact h owner grant hgrant

theorem runningShown_step {intervalSeconds : Nat} {s s' : LeaseState}
    {input : LoopStep} (h : RunningShown intervalSeconds s)
    (htime : CyclesInTime intervalSeconds s input)
    (hstep : loopStep s input = some s') : RunningShown intervalSeconds s' := by
  obtain ⟨-, hend⟩ := loopStep_end hstep
  cases hend with
  | @acquired other haction hfree =>
      intro owner grant hgrant
      change runningGrant (s.log ++ [_]) owner = some grant at hgrant
      rw [runningGrant_snoc] at hgrant
      by_cases howner : input.owner = owner
      · rw [if_pos howner] at hgrant
        cases hgrant
        rw [← howner, ← htime.1 other haction]
        rfl
      · rw [if_neg howner] at hgrant
        have hheld := h owner grant hgrant
        have hintime := htime.2 owner grant hgrant
        exact absurd (hfree owner _ hheld hintime).symm howner
  | refused => exact fun owner grant => running_of_no_grant h rfl
  | raised => exact fun owner grant => running_of_no_grant h rfl
  | finished => exact fun owner grant => running_of_no_grant h rfl

theorem runningShown_run {intervalSeconds : Nat} {now : Time}
    {inputs : List LoopStep} {s : LeaseState}
    (run : Run (Guarded (CyclesInTime intervalSeconds) (Enabled loopStep))
      (.initial now) inputs s) : RunningShown intervalSeconds s := by
  refine run.invariant (RunningShown intervalSeconds) ?_ ?_
  · intro s input s' h hstep
    exact runningShown_step h hstep.1 hstep.2
  · intro owner grant hgrant
    cases hgrant

theorem running_unique {intervalSeconds : Nat} {s : LeaseState}
    (h : RunningShown intervalSeconds s) {owner owner' : OwnerId}
    (howner : runningGrant s.log owner ≠ none)
    (howner' : runningGrant s.log owner' ≠ none) : owner = owner' := by
  obtain ⟨grant, hgrant⟩ := Option.ne_none_iff_exists'.mp howner
  obtain ⟨grant', hgrant'⟩ := Option.ne_none_iff_exists'.mp howner'
  have hheld := h owner grant hgrant
  have hheld' := h owner' grant' hgrant'
  rw [HeldBy, hheld] at hheld'
  obtain ⟨hhex, -⟩ := MonitorLease.mk.inj (Option.some.inj hheld')
  exact OwnerId.hex_inj hhex

/-! ## Renewal -/

theorem grant_period {intervalSeconds : Nat} {now : Time}
    {inputs : List LoopStep} {s : LeaseState}
    (run : Run (Guarded (fun _ => FixedInterval intervalSeconds)
      (Enabled loopStep)) (.initial now) inputs s) :
    ∀ owner grant, lastGrant s.log owner = some grant →
      grant.leaseUntil = grant.since + leasePeriod intervalSeconds := by
  induction run with
  | refl =>
      intro owner grant hgrant
      cases hgrant
  | snoc _ hstep ih =>
      obtain ⟨hfixed, hloop⟩ := hstep
      obtain ⟨-, hend⟩ := loopStep_end hloop
      intro owner grant hgrant
      cases hend with
      | @acquired other haction =>
          rw [LeaseState.record, lastGrant_snoc] at hgrant
          split at hgrant
          · cases hgrant
            rw [hfixed other haction]
          · exact ih owner grant hgrant
      | refused | raised | finished =>
          rw [LeaseState.record, lastGrant_snoc] at hgrant
          refine ih owner grant ?_
          simpa [LoopRecord.grant?] using hgrant

/-- At every step the holder is still within the period of its latest call. -/
def RenewsInTime (intervalSeconds : Nat) (owner : OwnerId) (s : LeaseState)
    (input : LoopStep) : Prop :=
  FixedInterval intervalSeconds input ∧
    ∀ grant, lastGrant s.log owner = some grant →
      input.now < grant.since + leasePeriod intervalSeconds

def Holding (intervalSeconds : Nat) (owner : OwnerId) (s : LeaseState) : Prop :=
  ∃ grant, lastGrant s.log owner = some grant ∧
    HeldBy s.row owner (grant.since + leasePeriod intervalSeconds)

/-- Calls of the holder succeed, and calls of others do not. -/
def Undisplaced (owner : OwnerId) (record : LoopRecord) : Prop :=
  (record.grant? ≠ none → record.owner = owner) ∧
    (record.owner = owner →
      record.grant? ≠ none ∨ record.outcome = .finished)

theorem holding_step {intervalSeconds : Nat} {owner : OwnerId}
    {s s' : LeaseState} {input : LoopStep}
    (h : Holding intervalSeconds owner s)
    (htime : RenewsInTime intervalSeconds owner s input)
    (hstep : loopStep s input = some s') :
    Holding intervalSeconds owner s' ∧
      ∃ record, s'.log = s.log ++ [record] ∧ Undisplaced owner record := by
  obtain ⟨-, hend⟩ := loopStep_end hstep
  obtain ⟨grant, hgrant, hheld⟩ := h
  have hintime := htime.2 grant hgrant
  cases hend with
  | @acquired other haction hfree =>
      have howner := hfree owner _ hheld hintime
      refine ⟨⟨⟨input.now, input.now + leasePeriod other⟩, ?_, ?_⟩, _, rfl,
        fun _ => howner.symm, ?_⟩
      · rw [LeaseState.record, lastGrant_snoc, if_pos howner.symm]
        rfl
      · rw [howner, ← htime.1 other haction]
        rfl
      · exact fun _ => .inl (Option.some_ne_none _)
  | @refused ownerId hother hne =>
      have hwho : owner.hex = ownerId := by
        rw [hheld] at hother
        exact Option.some.inj hother
      refine ⟨⟨grant, ?_, hheld⟩, _, rfl, fun hsome => absurd rfl hsome, ?_⟩
      · rw [LeaseState.record, lastGrant_snoc]
        simpa [LoopRecord.grant?] using hgrant
      · intro howner
        rw [← hwho, ← howner] at hne
        exact absurd rfl hne
  | raised hnull =>
      rw [hheld] at hnull
      cases hnull
  | finished =>
      refine ⟨⟨grant, ?_, hheld⟩, _, rfl, fun hsome => absurd rfl hsome, ?_⟩
      · rw [LeaseState.record, lastGrant_snoc]
        simpa [LoopRecord.grant?] using hgrant
      · exact fun _ => .inr rfl

theorem holding_run {intervalSeconds : Nat} {owner : OwnerId}
    {inputs : List LoopStep} {s s' : LeaseState}
    (run : Run (Guarded (RenewsInTime intervalSeconds owner)
      (Enabled loopStep)) s inputs s')
    (h : Holding intervalSeconds owner s) :
    Holding intervalSeconds owner s' ∧
      ∃ later, s'.log = s.log ++ later ∧
        ∀ record ∈ later, Undisplaced owner record := by
  induction run with
  | refl => exact ⟨h, [], (List.append_nil _).symm, by simp⟩
  | snoc _ hstep ih =>
      obtain ⟨hholding, later, hlog, hlater⟩ := ih
      obtain ⟨hholding', record, hrecord, hkept⟩ :=
        holding_step hholding hstep.1 hstep.2
      refine ⟨hholding', later ++ [record], ?_, ?_⟩
      · rw [hrecord, hlog, List.append_assoc]
      · intro other hmem
        rw [List.mem_append, List.mem_singleton] at hmem
        rcases hmem with hmem | rfl
        · exact hlater other hmem
        · exact hkept

/-! ## Mutual exclusion -/

theorem one_monitor_at_a_time :
    (∀ start inputs s,
      Run (Enabled loopStep) (.initial start) inputs s →
        (∀ now owner owner', s.clock ≤ now → Unexpired s.log owner now →
          Unexpired s.log owner' now → owner = owner') ∧
        (∀ lease, s.row = some lease → lease.ownerId ≠ "" →
          lease.leaseUntil ≠ none)) ∧
    (∀ intervalSeconds start inputs s,
      Run (Guarded (CyclesInTime intervalSeconds) (Enabled loopStep))
          (.initial start) inputs s →
        ∀ owner owner', runningGrant s.log owner ≠ none →
          runningGrant s.log owner' ≠ none → owner = owner') ∧
    (∀ intervalSeconds owner start inputs s inputs' s',
      Run (Guarded (fun _ => FixedInterval intervalSeconds)
          (Enabled loopStep)) (.initial start) inputs s →
        Unexpired s.log owner s.clock →
        Run (Guarded (RenewsInTime intervalSeconds owner) (Enabled loopStep))
          s inputs' s' →
        ∃ later, s'.log = s.log ++ later ∧
          ∀ record ∈ later, Undisplaced owner record) := by
  refine ⟨?_, ?_, ?_⟩
  · intro start inputs s run
    have hshown := leaseShown_run run
    exact ⟨fun now owner owner' hnow => unexpired_unique hshown hnow,
      hshown.dated⟩
  · intro intervalSeconds start inputs s run owner owner'
    exact running_unique (runningShown_run run)
  · intro intervalSeconds owner start inputs s inputs' s' run hlease run'
    obtain ⟨grant, hgrant, hlater⟩ := hlease
    have hshown := leaseShown_run (run.mono fun _ _ _ h => h.2)
    have hheld := hshown.held owner grant hgrant hlater
    rw [grant_period run owner grant hgrant] at hheld
    exact (holding_run run' ⟨grant, hgrant, hheld⟩).2

def sampleOwner (digit : Char) : OwnerId :=
  ⟨String.ofList (List.replicate 32 digit), by simp⟩

def acquireAt (owner : OwnerId) (seconds : Int) : LoopStep :=
  ⟨owner, .acquire 30, seconds * second⟩

theorem one_monitor_of_two :
    let holder := sampleOwner 'a'
    let start := LeaseState.initial 0
    let s := start.record (acquireAt holder 0)
      (some ⟨holder.hex, some (60 * second)⟩) (.acquired (60 * second))
    let s' := s.record (acquireAt (sampleOwner 'b') 30) s.row .refused
    (∀ owner, Unexpired s'.log owner s'.clock →
      Unexpired s'.log holder s'.clock → owner = holder) ∧
    (∀ owner, runningGrant s'.log owner ≠ none → owner = holder) ∧
    ∃ later, s'.log = s.log ++ later ∧
      ∀ record ∈ later, Undisplaced holder record := by
  intro holder start s s'
  have hfirst : loopStep start (acquireAt holder 0) = some s := rfl
  have hsecond : loopStep s (acquireAt (sampleOwner 'b') 30) = some s' := rfl
  have hgrant : runningGrant s.log holder = some ⟨0, 60 * second⟩ := rfl
  have hfixed : ∀ owner seconds,
      FixedInterval 30 (acquireAt owner seconds) := by
    rintro owner seconds other hacquire
    cases hacquire
    rfl
  refine ⟨?_, ?_, ?_⟩
  · intro owner howner hholder
    exact (one_monitor_at_a_time.1 0 _ s'
      (.snoc (.single hfirst) hsecond)).1 s'.clock owner holder
      (Int.le_refl _) howner hholder
  · intro owner howner
    refine one_monitor_at_a_time.2.1 30 0 _ s'
      (.snoc (.single ⟨⟨hfixed _ _, nofun⟩, hfirst⟩)
        ⟨⟨hfixed _ _, ?_⟩, hsecond⟩) owner holder howner (by decide)
    intro owner grant hrunning
    change runningGrant ([] ++ [_]) owner = some grant at hrunning
    rw [runningGrant_snoc] at hrunning
    split at hrunning
    · cases hrunning
      decide
    · cases hrunning
  · refine one_monitor_at_a_time.2.2 30 holder 0 _ s _ s'
      (.single ⟨hfixed _ _, hfirst⟩) ⟨⟨0, 60 * second⟩, rfl, by decide⟩
      (.single ⟨⟨hfixed _ _, ?_⟩, hsecond⟩)
    intro grant hlast
    cases hlast
    decide

end HealthGrid.Background
