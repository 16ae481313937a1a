import HealthGrid.Foundation.Run
import HealthGrid.Mfa.Codes
import Mathlib.Data.Fintype.Basic

/-!
# Recovery codes under concurrent requests

Each request loads the profile, checks its code against the loaded list, and
saves the list one entry shorter.  The steps of different requests interleave
and nothing locks the profile.
-/

namespace HealthGrid.Mfa

open HealthGrid.Foundation

inductive Phase where
  | waiting
  | loaded (profile : UserMFA)
  | matched (profile : UserMFA) (candidate : String) (saved : UserMFA)
  | answered (verified : Bool)
  deriving DecidableEq, Repr

structure World (ρ : Type) where
  profile : UserMFA
  accepted : List String
  phase : ρ → Phase

inductive StepInput (ρ : Type) where
  | load (r : ρ)
  | check (r : ρ) (now : Time)
  | save (r : ρ)

variable {ρ : Type}

def World.start (profile : UserMFA) : World ρ :=
  ⟨profile, [], fun _ => .waiting⟩

def World.book (w : World ρ) : CodeBook String String :=
  ⟨w.profile.backupCodes, w.accepted⟩

def checkLoaded (lib : MfaLibrary) (request : VerifyRequest)
    (profile : UserMFA) (now : Time) : Phase :=
  match request.submitted profile with
  | none => .answered false
  | some code =>
      match verifyCode lib profile code true now with
      | .authenticator => .answered true
      | .recovery saved => .matched profile (recoveryCandidate lib code) saved
      | .refused => .answered false

variable [DecidableEq ρ] (lib : MfaLibrary) (requests : ρ → VerifyRequest)

def step (w : World ρ) : StepInput ρ → Option (World ρ)
  | .load r =>
      match w.phase r with
      | .waiting =>
          some { w with phase := Function.update w.phase r (.loaded w.profile) }
      | _ => none
  | .check r now =>
      match w.phase r with
      | .loaded profile =>
          some { w with
            phase := Function.update w.phase r
              (checkLoaded lib (requests r) profile now) }
      | _ => none
  | .save r =>
      match w.phase r with
      | .matched _ candidate saved =>
          -- `update_fields` writes the list and no other modelled column
          some {
            profile := { w.profile with backupCodes := saved.backupCodes }
            accepted := w.accepted ++ [candidate]
            phase := Function.update w.phase r (.answered true) }
      | _ => none

def savesFresh (w : World ρ) : StepInput ρ → Bool
  | .save r =>
      match w.phase r with
      | .matched profile _ _ => w.profile.backupCodes == profile.backupCodes
      | _ => true
  | _ => true

/-- No code is accepted twice, and none of the accepted is still stored. -/
def OneTime (w : World ρ) : Prop := w.book.OneTime lib.checkPassword

/-! ## The invariant of a run with fresh saves -/

def Current (w : World ρ) (profile : UserMFA) : Prop :=
  w.profile.backupCodes = profile.backupCodes ∨
    ∃ code ∈ w.accepted,
      profile.backupCodes.any (lib.checkPassword code) = true

def Phase.Sound (w : World ρ) : Phase → Prop
  | .loaded profile => Current lib w profile
  | .matched profile candidate saved => Current lib w profile ∧
      profile.backupCodes.any (lib.checkPassword candidate) = true ∧
      saved.backupCodes =
        profile.backupCodes.eraseP (lib.checkPassword candidate)
  | _ => True

structure Consistent (w : World ρ) : Prop where
  unambiguous : CodeBook.Unambiguous lib.checkPassword w.profile.backupCodes
  once : OneTime lib w
  phases : ∀ r, (w.phase r).Sound lib w

variable {lib requests} {w w' : World ρ}

theorem step_cases {input : StepInput ρ}
    (h : step lib requests w input = some w') :
    (∃ r, input = .load r ∧
      w' = { w with phase := Function.update w.phase r (.loaded w.profile) }) ∨
    (∃ r now profile, input = .check r now ∧ w.phase r = .loaded profile ∧
      w' = { w with
        phase := Function.update w.phase r
          (checkLoaded lib (requests r) profile now) }) ∨
    (∃ r profile candidate saved, input = .save r ∧
      w.phase r = .matched profile candidate saved ∧
      w' = {
        profile := { w.profile with backupCodes := saved.backupCodes }
        accepted := w.accepted ++ [candidate]
        phase := Function.update w.phase r (.answered true) }) := by
  cases input with
  | load r =>
      cases hphase : w.phase r with
      | waiting =>
          simp only [step, hphase, Option.some.injEq] at h
          exact .inl ⟨r, rfl, h.symm⟩
      | _ => simp [step, hphase] at h
  | check r now =>
      cases hphase : w.phase r with
      | loaded profile =>
          simp only [step, hphase, Option.some.injEq] at h
          exact .inr (.inl ⟨r, now, profile, rfl, hphase, h.symm⟩)
      | _ => simp [step, hphase] at h
  | save r =>
      cases hphase : w.phase r with
      | matched profile candidate saved =>
          simp only [step, hphase, Option.some.injEq] at h
          exact .inr (.inr ⟨r, profile, candidate, saved, rfl, hphase, h.symm⟩)
      | _ => simp [step, hphase] at h

omit [DecidableEq ρ] in
theorem Phase.Sound.mono {phase : Phase}
    (hcurrent : ∀ profile, Current lib w profile → Current lib w' profile)
    (h : phase.Sound lib w) : phase.Sound lib w' := by
  cases phase with
  | waiting => trivial
  | loaded profile => exact hcurrent profile h
  | matched profile candidate saved => exact ⟨hcurrent profile h.1, h.2⟩
  | answered verified => trivial

theorem sound_update {r : ρ} {phase : Phase} (hnew : phase.Sound lib w')
    (hold : ∀ r, (w.phase r).Sound lib w') (r' : ρ) :
    (Function.update w.phase r phase r').Sound lib w' := by
  by_cases heq : r' = r
  · subst heq
    rw [Function.update_self]
    exact hnew
  · rw [Function.update_of_ne heq]
    exact hold r'

omit [DecidableEq ρ] in
theorem sound_checkLoaded {request : VerifyRequest} {profile : UserMFA}
    {now : Time} (h : Current lib w profile) :
    (checkLoaded lib request profile now).Sound lib w := by
  unfold checkLoaded verifyCode
  cases request.submitted profile with
  | none => trivial
  | some code =>
      dsimp only
      by_cases htotp : verifyTotp lib profile code now = true
      · rw [if_pos htotp]
        trivial
      · rw [if_neg htotp, if_pos rfl]
        cases hconsume : consumeBackupCode lib profile code with
        | none => trivial
        | some saved => exact ⟨h, consumeBackupCode_eq_some hconsume⟩

omit [DecidableEq ρ] in
theorem consistent_start {profile : UserMFA}
    (hsingle : CodeBook.Unambiguous lib.checkPassword profile.backupCodes) :
    Consistent lib (World.start profile : World ρ) :=
  ⟨hsingle, CodeBook.oneTime_nil, fun _ => trivial⟩

theorem Consistent.save {r : ρ} {profile saved : UserMFA} {candidate : String}
    (hw : Consistent lib w)
    (hphase : w.phase r = .matched profile candidate saved)
    (hfresh : w.profile.backupCodes = profile.backupCodes) :
    Consistent lib {
      profile := { w.profile with backupCodes := saved.backupCodes }
      accepted := w.accepted ++ [candidate]
      phase := Function.update w.phase r (.answered true) } := by
  have hsound := hw.phases r
  rw [hphase] at hsound
  obtain ⟨-, hvalid, hsaved⟩ := hsound
  rw [← hfresh] at hvalid hsaved
  refine ⟨?_, ?_, ?_⟩
  · dsimp only
    rw [hsaved]
    exact hw.unambiguous.eraseP candidate
  · unfold OneTime World.book
    dsimp only
    rw [hsaved]
    exact hw.once.redeem hw.unambiguous hvalid
  · refine sound_update trivial ?_
    intro r'
    refine (hw.phases r').mono ?_
    rintro other (hcurrent | ⟨code, haccepted, hused⟩)
    · -- the other request loaded the same list, whose code is now used up
      rw [hcurrent] at hvalid
      exact .inr ⟨candidate, List.mem_append_right _
        (List.mem_singleton_self candidate), hvalid⟩
    · exact .inr ⟨code, List.mem_append_left _ haccepted, hused⟩

theorem Consistent.step {input : StepInput ρ} (hw : Consistent lib w)
    (hfresh : savesFresh w input = true)
    (hstep : Mfa.step lib requests w input = some w') :
    Consistent lib w' := by
  rcases step_cases hstep with ⟨r, rfl, rfl⟩ |
    ⟨r, now, profile, rfl, hphase, rfl⟩ |
      ⟨r, profile, candidate, saved, rfl, hphase, rfl⟩
  · refine ⟨hw.unambiguous, hw.once, sound_update (.inl rfl) hw.phases⟩
  · have hloaded := hw.phases r
    rw [hphase] at hloaded
    exact ⟨hw.unambiguous, hw.once,
      sound_update (sound_checkLoaded hloaded) hw.phases⟩
  · simp only [savesFresh, hphase, beq_iff_eq] at hfresh
    exact hw.save hphase hfresh

theorem Consistent.stale {input : StepInput ρ} (hw : Consistent lib w)
    (hdistinct : ∀ hashed code code', lib.checkPassword code hashed = true →
      lib.checkPassword code' hashed = true → code = code')
    (hstale : savesFresh w input = false)
    (hstep : Mfa.step lib requests w input = some w') : ¬ OneTime lib w' := by
  rcases step_cases hstep with ⟨r, rfl, rfl⟩ |
    ⟨r, now, profile, rfl, hphase, rfl⟩ |
      ⟨r, profile, candidate, saved, rfl, hphase, rfl⟩
  · cases hstale
  · cases hstale
  · simp only [savesFresh, hphase, beq_eq_false_iff_ne] at hstale
    have hsound := hw.phases r
    rw [hphase] at hsound
    obtain ⟨hcurrent, -, hsaved⟩ := hsound
    obtain ⟨code, haccepted, hused⟩ := hcurrent.resolve_left hstale
    unfold OneTime World.book
    dsimp only
    rw [hsaved]
    exact CodeBook.not_oneTime_redeem hdistinct haccepted hused

abbrev FreshRun (lib : MfaLibrary) (requests : ρ → VerifyRequest) :=
  Run (Guarded (fun w input => savesFresh w input = true)
    (Enabled (Mfa.step lib requests)))

/--
Recovery codes are one-time in every state that a run passes through exactly
when every save of the run finds the list as its request loaded it.
-/
theorem oneTime_iff {profile : UserMFA} {inputs : List (StepInput ρ)}
    (hdistinct : ∀ hashed code code', lib.checkPassword code hashed = true →
      lib.checkPassword code' hashed = true → code = code')
    (hsingle : CodeBook.Unambiguous lib.checkPassword profile.backupCodes)
    (run : Run (Enabled (Mfa.step lib requests)) (World.start profile)
      inputs w) :
    (∀ before u, before <+: inputs →
        Run (Enabled (Mfa.step lib requests)) (World.start profile) before u →
          OneTime lib u) ↔
      FreshRun lib requests (World.start profile) inputs w := by
  have hconsistent : ∀ {front : List (StepInput ρ)} {u : World ρ},
      FreshRun lib requests (World.start profile) front u →
        Consistent lib u := by
    intro front u hfront
    refine hfront.invariant (Consistent lib) ?_ (consistent_start hsingle)
    exact fun _ _ _ hv hstep => hv.step hstep.1 hstep.2
  constructor
  · intro honce
    induction run with
    | refl => exact .refl _
    | snoc hfront hlast ih =>
        rename_i t u front last
        have hfresh := ih fun before v hbefore hv =>
          honce before v (hbefore.trans (List.prefix_append _ _)) hv
        refine .snoc hfresh ⟨?_, hlast⟩
        by_contra hstale
        rw [Bool.not_eq_true] at hstale
        exact (hconsistent hfresh).stale hdistinct hstale hlast
          (honce _ _ (List.prefix_refl _) (.snoc hfront hlast))
  · rintro hfresh before u ⟨after, rfl⟩ hbefore
    obtain ⟨v, hfront, -⟩ := hfresh.append_inv
    have heq : u = v := hbefore.unique (hfront.mono fun _ _ _ h => h.2)
    rw [heq]
    exact (hconsistent hfront).once

/-! ## Two requests with one code -/

def plainLibrary : MfaLibrary where
  isDigit := Char.isDigit
  upper := id
  totpVerify _ _ _ := false
  checkPassword code hashed := code == hashed

def enrolled : UserMFA := ⟨true, "secret", ["K7QM2XW9TA"]⟩

def sameCode : Fin 2 → VerifyRequest := fun _ => .action "K7QM2XW9TA"

theorem one_code_accepted_twice :
    ¬ ∀ (inputs : List (StepInput (Fin 2))) (w : World (Fin 2)),
      Run (Enabled (Mfa.step plainLibrary sameCode)) (World.start enrolled)
        inputs w → OneTime plainLibrary w := by
  intro h
  let last := execute (Mfa.step plainLibrary sameCode) (World.start enrolled)
    [.load 0, .load 1, .check 0 0, .check 1 0, .save 0, .save 1]
  have htwice : last.map World.accepted =
      some ["K7QM2XW9TA", "K7QM2XW9TA"] := by decide
  obtain ⟨w, hw, haccepted⟩ := Option.map_eq_some_iff.mp htwice
  have honce : w.accepted.Nodup := (h _ w (run_of_execute hw)).once
  rw [haccepted] at honce
  exact absurd honce (by decide)

theorem oneTime_iff_in_turn :
    ∃ inputs w, w.accepted = ["K7QM2XW9TA"] ∧
      ((∀ before u, before <+: inputs →
          Run (Enabled (Mfa.step plainLibrary sameCode)) (World.start enrolled)
            before u → OneTime plainLibrary u) ↔
        FreshRun plainLibrary sameCode (World.start enrolled) inputs w) := by
  let inputs : List (StepInput (Fin 2)) :=
    [.load 0, .check 0 0, .save 0, .load 1, .check 1 0]
  let last := execute (Mfa.step plainLibrary sameCode) (World.start enrolled)
    inputs
  have honce : last.map World.accepted = some ["K7QM2XW9TA"] := by decide
  obtain ⟨w, hw, haccepted⟩ := Option.map_eq_some_iff.mp honce
  refine ⟨inputs, w, haccepted, ?_⟩
  refine oneTime_iff ?_ ?_ (run_of_execute hw)
  · intro hashed code code' hcode hcode'
    exact (beq_iff_eq.mp hcode).trans (beq_iff_eq.mp hcode').symm
  · intro code
    exact List.countP_le_length

end HealthGrid.Mfa
