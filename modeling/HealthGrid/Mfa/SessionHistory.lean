import HealthGrid.Foundation.Run
import HealthGrid.Mfa.Sessions

/-!
# What a passed session has behind it

The flag of a session and the steps that lead to it go together: whatever the
users sharing a browser do, a session flagged for a user has verified a code of
that user since it was last flushed.
-/

namespace HealthGrid.Mfa

open HealthGrid.Foundation

variable {δ : Type}

/-! ## Verifying steps -/

structure SessionStep.Verifies (lib : MfaLibrary) (step : SessionStep)
    (user : Nat) (profile : MfaProfile) : Prop where
  posted : step.request.post = true
  stored : step.profiles user = some profile
  code :
    (step.request.path = "/mfa/verify/" ∧ step.pendingUser = some user ∧
      verifyCode lib profile.toUserMFA step.request.code true
        step.request.now ≠ .refused) ∨
    (step.request.path = "/settings/security/mfa/" ∧ step.user = some user ∧
      profile.enabled = false ∧
      verifyTotp lib profile.toUserMFA step.request.code step.request.now =
        true)

/-- A session flagged for a user has verified a code of that user. -/
def Session.Backed (lib : MfaLibrary) (session : Session) : Prop :=
  ∀ user, session.mfaOk = some user →
    ∃ step ∈ session.steps, ∃ profile, step.Verifies lib user profile

inductive Session.Follows (lib : MfaLibrary) (step : SessionStep)
    (session : Session) : Session → Prop
  | kept {session' : Session} (hflag : session'.mfaOk = session.mfaOk)
      (hsteps : session'.steps = session.steps) : Follows lib step session session'
  | unflagged {session' : Session} (hflag : session'.mfaOk = none) :
      Follows lib step session session'
  | flagged {session' : Session} {user : Nat} {profile : MfaProfile}
      (hflag : session'.mfaOk = some user)
      (hverifies : step.Verifies lib user profile) :
      Follows lib step session session'

section Steps

variable {lib : AuthLibrary δ} {w : Site δ} {request : Request} {draw : Draw}
  {session session' : Session} {user : Option Nat} {step : SessionStep}

theorem backed_empty {lib : MfaLibrary} : Session.empty.Backed lib := by
  intro user hflag
  cases hflag

theorem Session.Backed.follow {lib : MfaLibrary} (h : session.Backed lib)
    (hfollows : session.Follows lib step session') :
    ({ session' with steps := session'.steps ++ [step] } : Session).Backed
      lib := by
  intro user huser
  cases hfollows with
  | kept hflag hsteps =>
      obtain ⟨old, hmem, hverifies⟩ := h user (hflag.symm.trans huser)
      refine ⟨old, ?_, hverifies⟩
      rw [hsteps]
      exact List.mem_append_left _ hmem
  | unflagged hflag =>
      rw [show session'.mfaOk = some user from huser] at hflag
      cases hflag
  | @flagged other profile hflag hverifies =>
      rw [show session'.mfaOk = some user from huser] at hflag
      cases hflag
      exact ⟨step, by simp, profile, hverifies⟩

theorem backed_loadUser (app : δ) (h : session.Backed lib.mfa) :
    (loadUser lib app session).1.Backed lib.mfa := by
  unfold loadUser
  split
  · exact h
  · split
    · exact h
    · split
      · exact h
      · exact backed_empty

theorem follows_djangoLogin (app : δ) (n : Nat) (step : SessionStep) :
    session.Follows lib.mfa step (djangoLogin lib app n session) := by
  unfold djangoLogin
  split
  · split
    · exact .kept rfl rfl
    · exact .unflagged rfl
  · exact .kept rfl rfl

theorem follows_dashboardLogin (step : SessionStep) :
    session.Follows lib.mfa step
      (dashboardLogin lib w request session).session := by
  unfold dashboardLogin
  split
  · exact .kept rfl rfl
  · dsimp only
    split
    · exact .kept rfl rfl
    · split
      · exact .kept rfl rfl
      · split
        · exact follows_djangoLogin _ _ step
        · exact .kept rfl rfl

theorem follows_mfaVerify (hpath : request.path = "/mfa/verify/") :
    session.Follows lib.mfa ⟨request, w.profiles, session.pendingUser, user⟩
      (mfaVerify lib w request session user).session := by
  unfold mfaVerify
  split
  · exact .kept rfl rfl
  · split
    · exact .kept rfl rfl
    · rename_i pending hpending
      split
      · exact .unflagged rfl
      · rename_i profile hprofile
        rw [Option.ite_none_right_eq_some] at hprofile
        dsimp only
        split
        · exact .kept rfl rfl
        · rename_i hpost
          split
          · exact .kept rfl rfl
          · split
            · exact .kept rfl rfl
            · rename_i hverdict
              refine .flagged rfl ⟨by simpa using hpost, hprofile.2, .inl ?_⟩
              exact ⟨hpath, hpending, hverdict⟩

theorem follows_renderSetup (n : Nat) (profile : MfaProfile) (error : String)
    (step : SessionStep) :
    session.Follows lib.mfa step
      (renderSetup w draw session n profile error).session := by
  unfold renderSetup
  split <;> exact .kept rfl rfl

theorem confirmEnrollment_verifies {now : Time} {code : String}
    {profile confirmed : MfaProfile}
    (h : confirmEnrollment lib draw now code profile = some confirmed) :
    profile.enabled = false ∧
      verifyTotp lib.mfa profile.toUserMFA code now = true := by
  unfold confirmEnrollment at h
  split at h
  · cases h
  · rename_i hverified
    simpa using hverified

theorem verifyTotp_initial (code : String) (now : Time) :
    verifyTotp lib.mfa MfaProfile.initial.toUserMFA code now = false := rfl

theorem follows_mfaSetup (hpath : request.path = "/settings/security/mfa/")
    (pendingUser : Option Nat) :
    session.Follows lib.mfa ⟨request, w.profiles, pendingUser, user⟩
      (mfaSetup lib w request draw session user).session := by
  unfold mfaSetup
  split
  · exact .kept rfl rfl
  · rename_i n
    dsimp only
    split
    · exact follows_renderSetup _ _ _ _
    · rename_i hpost
      split
      · split
        · exact follows_renderSetup _ _ _ _
        · exact .kept rfl rfl
      · split
        · split
          · exact follows_renderSetup _ _ _ _
          · exact .kept rfl rfl
        · split
          · exact follows_renderSetup _ _ _ _
          · split
            · rename_i confirmed hconfirmed
              rw [Option.ite_none_right_eq_some] at hconfirmed
              obtain ⟨hdisabled, hverified⟩ :=
                confirmEnrollment_verifies hconfirmed.2
              cases hprofile : w.profiles n with
              | none =>
                  rw [hprofile, Option.getD_none, verifyTotp_initial]
                    at hverified
                  cases hverified
              | some profile =>
                  rw [hprofile, Option.getD_some] at hdisabled hverified
                  refine .flagged rfl ⟨by simpa using hpost, hprofile, .inr ?_⟩
                  exact ⟨hpath, rfl, hdisabled, hverified⟩
            · exact follows_renderSetup _ _ _ _

theorem follows_otherView (effect : ViewEffect δ) (step : SessionStep) :
    session.Follows lib.mfa step
      (otherView lib w request effect session user).session := by
  unfold otherView
  cases effect.session with
  | keep => exact .kept rfl rfl
  | verified => exact .kept rfl rfl
  | rehash => exact .kept rfl rfl
  | flush => exact .unflagged rfl

theorem follows_view (effect : ViewEffect δ) :
    session.Follows lib.mfa ⟨request, w.profiles, session.pendingUser, user⟩
      (view lib w request draw effect session user).session := by
  unfold view
  split
  · exact follows_dashboardLogin _
  · split
    · unfold logoutView
      split
      · exact .unflagged rfl
      · exact .kept rfl rfl
    · split
      · rename_i hpath
        exact follows_mfaVerify hpath
      · split
        · rename_i hpath
          exact follows_mfaSetup hpath _
        · exact follows_otherView effect _

theorem follows_adminMfaRequired {mfaRequired : Bool} {response : Response}
    (h : adminMfaRequired mfaRequired w request session user =
      some (session', response)) (step : SessionStep) :
    session.Follows lib.mfa step session' := by
  unfold adminMfaRequired at h
  split at h
  · cases h
  · dsimp only at h
    split at h
    · cases h
      exact .kept rfl rfl
    · split at h
      · cases h
        exact .unflagged rfl
      · split at h
        · cases h
          exact .unflagged rfl
        · cases h

end Steps

/-! ## Whole histories -/

def Site.Backed (lib : AuthLibrary δ) (w : Site δ) : Prop :=
  ∀ session ∈ w.cookies, session.Backed lib.mfa

section Histories

variable {lib : AuthLibrary δ} {mfaRequired : Bool} {w w' : Site δ}
  {request : Request}

theorem backed_presented (h : w.Backed lib) (request : Request) :
    (w.presented request).Backed lib.mfa := by
  unfold Site.presented
  cases hcookie : request.cookie.bind fun n => w.cookies[n]? with
  | none => exact backed_empty
  | some session =>
      obtain ⟨n, -, hget⟩ := Option.bind_eq_some_iff.mp hcookie
      exact h session (List.mem_of_getElem? hget)

theorem backed_step {event : WebEvent δ} (h : w.Backed lib)
    (hstep : Site.Step lib mfaRequired w event w') : w'.Backed lib := by
  cases hstep
  cases event with
  | expire => exact h
  | request request draw effect =>
      have hloaded := backed_loadUser w.app (backed_presented h request)
      intro session hmem
      unfold Site.step Site.serve at hmem
      dsimp only at hmem
      rcases List.mem_append.mp hmem with hold | hnew
      · exact h session hold
      · rw [List.mem_singleton.mp hnew]
        apply hloaded.follow
        split
        · rename_i hgate
          exact follows_adminMfaRequired hgate _
        · exact follows_view effect

theorem backed_run {start : Site δ} {events : List (WebEvent δ)}
    (hrun : Run (Site.Step lib mfaRequired) start events w)
    (hstart : start.cookies = []) : w.Backed lib := by
  refine hrun.invariant (Site.Backed lib) (fun _ _ _ => backed_step) ?_
  intro session hmem
  rw [hstart] at hmem
  cases hmem

def Site.Passes (lib : AuthLibrary δ) (mfaRequired : Bool) (w : Site δ)
    (request : Request) (session : Session) (user : Nat) : Prop :=
  loadUser lib w.app (w.presented request) = (session, some user) ∧
    adminMfaRequired mfaRequired w request session (some user) = none

theorem passes_checked {session : Session} {user : Nat}
    (h : adminMfaRequired true w request session (some user) = none)
    (hpath : mfaExempt request.path = false) :
    w.mfaEnabled user = true ∧ session.mfaOk = some user := by
  unfold adminMfaRequired at h
  cases henabled : w.mfaEnabled user with
  | false => simp [hpath, henabled] at h
  | true =>
      by_cases hflag : session.mfaOk = some user
      · exact ⟨rfl, hflag⟩
      · simp [hpath, henabled, hflag] at h

/--
With MFA required, a request on a path that is not exempt reaches a view as a
user only when the user's profile is enabled and an earlier step of the same
session verified a code of that user.
-/
theorem view_requires_mfa {start : Site δ} {events : List (WebEvent δ)}
    {session : Session} {user : Nat}
    (hrun : Run (Site.Step lib true) start events w)
    (hstart : start.cookies = [])
    (hpasses : w.Passes lib true request session user)
    (hpath : mfaExempt request.path = false) :
    (∃ profile, w.profiles user = some profile ∧ profile.enabled = true) ∧
      ∃ step ∈ session.steps, ∃ profile, step.Verifies lib.mfa user profile := by
  obtain ⟨hloaded, hgate⟩ := hpasses
  obtain ⟨henabled, hflag⟩ := passes_checked hgate hpath
  constructor
  · unfold Site.mfaEnabled at henabled
    exact Option.any_eq_true _ _ |>.mp henabled
  · have hbacked := backed_loadUser w.app
      (backed_presented (backed_run hrun hstart) request)
    rw [hloaded] at hbacked
    exact hbacked user hflag

end Histories

/-! ## A sign-in -/

def sampleAuth : AuthLibrary Unit where
  mfa :=
    { isDigit := Char.isDigit
      upper := id
      totpVerify := fun secret _ code => secret == "secret" && code == "123456"
      checkPassword := fun code hashed => code == hashed }
  lower := id
  pendingCodes _ := []
  authenticate _ username password :=
    if username = "ann" && password = "pw" then some 7 else none
  isActive _ _ := true
  username _ _ := "ann"
  sessionAuthHash _ _ := "hash"
  isLocalUrl _ := true
  loginUrl _ := "/login/"
  invalidLogin := ""

def enrolledSite : Site Unit where
  app := ()
  profiles _ := some
    { MfaProfile.initial with enabled := true, secretEncrypted := "secret" }
  failures _ := 0
  cookies := []

def samplePost (cookie : Option Nat) (path : String) : Request where
  cookie := cookie
  path := path
  fullPath := path
  post := true
  address := "10.0.0.1"
  now := 0
  username := "ann"
  password := "pw"
  next := ""
  code := "123456"
  action := none

def sampleEvent (request : Request) : WebEvent Unit :=
  .request request ⟨"", "", id⟩ ⟨id, id, .keep⟩

theorem view_requires_mfa_after_sign_in :
    let events := [sampleEvent (samplePost none "/login/"),
      sampleEvent (samplePost (some 0) "/mfa/verify/")]
    let w := events.foldl (Site.step sampleAuth true) enrolledSite
    let session := w.presented (samplePost (some 1) "/")
    w.Passes sampleAuth true (samplePost (some 1) "/") session 7 ∧
      (∃ profile, w.profiles 7 = some profile ∧ profile.enabled = true) ∧
      ∃ step ∈ session.steps, ∃ profile,
        step.Verifies sampleAuth.mfa 7 profile := by
  intro events w session
  have hfirst : Run (Site.Step sampleAuth true) enrolledSite (events.take 1)
      ((events.take 1).foldl (Site.step sampleAuth true) enrolledSite) :=
    .single rfl
  have hrun : Run (Site.Step sampleAuth true) enrolledSite events w :=
    .snoc hfirst rfl
  have hpasses : w.Passes sampleAuth true (samplePost (some 1) "/") session
      7 := by
    refine ⟨Prod.ext rfl (by decide), ?_⟩
    exact Option.isNone_iff_eq_none.mp (by decide)
  exact ⟨hpasses, view_requires_mfa hrun rfl hpasses (by decide)⟩

end HealthGrid.Mfa
