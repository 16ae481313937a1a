import HealthGrid.Mfa.SessionHistory

/-!
# Recent codes behind the admin pages

The admin pages ask for a verification of the last five minutes.  The time in
the session names no user: that it is the time of a code of the signed-in user
is an invariant of the cookies.
-/

namespace HealthGrid.Mfa

open HealthGrid.Foundation HealthGrid.Foundation.PyText

variable {δ : Type}

def ActionVerifies (lib : MfaLibrary) (profile : MfaProfile) (now : Time)
    (mfaCode : String) : Prop :=
  ∃ code, (VerifyRequest.action mfaCode).submitted profile.toUserMFA =
      some code ∧
    verifyCode lib profile.toUserMFA code true now ≠ .refused

def SessionStep.ChecksCode (lib : MfaLibrary) (step : SessionStep)
    (user : Nat) : Prop :=
  (∃ profile, step.Verifies lib user profile) ∨
    (step.user = some user ∧ ∃ profile, step.profiles user = some profile ∧
      ∃ mfaCode, ActionVerifies lib profile step.request.now mfaCode)

/-- The time in a session is that of a code of its signed-in user. -/
def Session.Dated (lib : MfaLibrary) (session : Session) : Prop :=
  ∀ time, session.verifiedAt = some time →
    ∃ user, session.authUser = some user ∧
      ∃ step ∈ session.steps, step.request.now = time ∧
        step.ChecksCode lib user

inductive Session.Dates (lib : MfaLibrary) (step : SessionStep)
    (session : Session) : Session → Prop
  | kept {session' : Session} (hdate : session'.verifiedAt = session.verifiedAt)
      (huser : session'.authUser = session.authUser ∨ session.authUser = none)
      (hsteps : session'.steps = session.steps) : Dates lib step session session'
  | undated {session' : Session} (hdate : session'.verifiedAt = none) :
      Dates lib step session session'
  | dated {session' : Session} {user : Nat}
      (hdate : session'.verifiedAt = some step.request.now)
      (huser : session'.authUser = some user)
      (hchecks : step.ChecksCode lib user) : Dates lib step session session'

section Steps

variable {lib : AuthLibrary δ} {w : Site δ} {request : Request} {draw : Draw}
  {session session' : Session} {user : Option Nat} {step : SessionStep}

theorem Session.Dated.follow {lib : MfaLibrary} (h : session.Dated lib)
    (hdates : session.Dates lib step session') :
    ({ session' with steps := session'.steps ++ [step] } : Session).Dated
      lib := by
  intro time htime
  cases hdates with
  | kept hdate huser hsteps =>
      obtain ⟨user, hauth, old, hmem, hchecks⟩ := h time (hdate.symm.trans htime)
      refine ⟨user, ?_, old, ?_, hchecks⟩
      · rcases huser with hsame | hnone
        · exact hsame.trans hauth
        · rw [hnone] at hauth
          cases hauth
      · rw [hsteps]
        exact List.mem_append_left _ hmem
  | undated hdate =>
      rw [show session'.verifiedAt = some time from htime] at hdate
      cases hdate
  | @dated user hdate huser hchecks =>
      rw [show session'.verifiedAt = some time from htime] at hdate
      cases hdate
      exact ⟨user, huser, step, by simp, rfl, hchecks⟩

end Steps

/-! ## Whole histories -/

def Site.Dated (lib : AuthLibrary δ) (w : Site δ) : Prop :=
  ∀ session ∈ w.cookies, session.Dated lib.mfa

section Histories

variable {lib : AuthLibrary δ} {mfaRequired : Bool} {w w' : Site δ}
  {request : Request}

end Histories

end HealthGrid.Mfa
