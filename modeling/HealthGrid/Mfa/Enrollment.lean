import HealthGrid.Mfa.SessionHistory

/-!
# The life of a profile

A profile is enrolled, confirmed, used and reset.  What verifies a user's codes
at any time is one enrollment, confirmed with a code under its own secret, and
the recovery codes of that enrollment which have not been used.
-/

namespace HealthGrid.Mfa

open HealthGrid.Foundation

variable {δ : Type}

/-! ## Steps of one profile -/

inductive ProfileEvent where
  | enrolled (draw : Draw)
  | reset (draw : Draw) (code : String) (now : Time)
  | confirmed (draw : Draw) (code : String) (now : Time)
  | struck (code : String)

inductive ProfileStep (lib : AuthLibrary δ) (before : MfaProfile) :
    ProfileEvent → MfaProfile → Prop
  | enrolled {draw : Draw} (hdisabled : before.enabled = false) :
      ProfileStep lib before (.enrolled draw) (newEnrollment draw before)
  | reset {draw : Draw} {code : String} {now : Time}
      (henabled : before.enabled = true)
      (hverified : verifyCode lib.mfa before.toUserMFA code true now ≠ .refused) :
      ProfileStep lib before (.reset draw code now) (newEnrollment draw before)
  | confirmed {draw : Draw} {code : String} {now : Time} {after : MfaProfile}
      (hconfirmed : confirmEnrollment lib draw now code before = some after) :
      ProfileStep lib before (.confirmed draw code now) after
  | struck {code : String} {saved : UserMFA}
      (hstruck : consumeBackupCode lib.mfa before.toUserMFA code =
        some saved) :
      ProfileStep lib before (.struck code) { before with toUserMFA := saved }

def ProfileEvent.enrolls? : ProfileEvent → Option Draw
  | .enrolled draw | .reset draw _ _ => some draw
  | .confirmed .. | .struck _ => none

def pendingProfile (draw : Draw) : MfaProfile := newEnrollment draw .initial

def enrolledCodes (lib : AuthLibrary δ) (draw confirmation : Draw) :
    List String :=
  (getPendingBackupCodes lib (pendingProfile draw)).map confirmation.makePassword

structure Active (lib : AuthLibrary δ) (trail : List ProfileEvent)
    (profile : MfaProfile) (draw confirmation : Draw) (code : String)
    (now : Time) (used : List String) : Prop where
  trail : ∃ front enrollment, enrollment.enrolls? = some draw ∧
    trail = front ++ enrollment :: .confirmed confirmation code now ::
      used.map .struck
  verified : verifyTotp lib.mfa (pendingProfile draw).toUserMFA code now = true
  secret : profile.secretEncrypted = draw.secretEncrypted
  pending : profile.pendingBackupCodesEncrypted = ""
  confirmedAt : profile.confirmedAt = some now
  codes : profile.backupCodes.Sublist (enrolledCodes lib draw confirmation)
  count : profile.backupCodes.length + used.length =
    (enrolledCodes lib draw confirmation).length

inductive Stands (lib : AuthLibrary δ) (trail : List ProfileEvent)
    (profile : MfaProfile) : Prop
  | fresh (htrail : trail = []) (hprofile : profile = .initial) :
      Stands lib trail profile
  | pending {front : List ProfileEvent} {enrollment : ProfileEvent}
      {draw : Draw} (htrail : trail = front ++ [enrollment])
      (henrolls : enrollment.enrolls? = some draw)
      (hprofile : profile = pendingProfile draw) : Stands lib trail profile
  | active {draw confirmation : Draw} {code : String} {now : Time}
      {used : List String} (henabled : profile.enabled = true)
      (hactive : Active lib trail profile draw confirmation code now used) :
      Stands lib trail profile

section Profiles

variable {lib : AuthLibrary δ} {trail : List ProfileEvent}
  {before after : MfaProfile} {event : ProfileEvent}

theorem newEnrollment_eq (draw : Draw) (profile : MfaProfile) :
    newEnrollment draw profile = pendingProfile draw := rfl

theorem consumeBackupCode_ok {profile : UserMFA} {code : String}
    {saved : UserMFA}
    (h : consumeBackupCode lib.mfa profile code = some saved) :
    saved.enabled = profile.enabled ∧
      saved.secretEncrypted = profile.secretEncrypted ∧
      saved.backupCodes.Sublist profile.backupCodes ∧
      saved.backupCodes.length + 1 = profile.backupCodes.length := by
  unfold consumeBackupCode at h
  dsimp only at h
  split at h
  · cases h
  · obtain ⟨index, hindex, rfl⟩ := Option.map_eq_some_iff.mp h
    obtain ⟨hlt, -⟩ := List.findIdx?_eq_some_iff_getElem.mp hindex
    refine ⟨rfl, rfl, List.eraseIdx_sublist .., ?_⟩
    rw [List.length_eraseIdx_of_lt hlt]
    omega

theorem confirmEnrollment_ok {draw : Draw} {now : Time} {code : String}
    (h : confirmEnrollment lib draw now code before = some after) :
    before.enabled = false ∧
      verifyTotp lib.mfa before.toUserMFA code now = true ∧
      after = { before with
        backupCodes := (getPendingBackupCodes lib before).map draw.makePassword
        pendingBackupCodesEncrypted := ""
        enabled := true
        confirmedAt := some now } := by
  obtain ⟨hdisabled, hverified⟩ := confirmEnrollment_verifies h
  refine ⟨hdisabled, hverified, ?_⟩
  unfold confirmEnrollment at h
  split at h
  · cases h
  · dsimp only at h
    split at h
    · cases h
    · exact (Option.some.inj h).symm

theorem stands_enrolled {draw : Draw} (henrolls : event.enrolls? = some draw)
    (trail : List ProfileEvent) (profile : MfaProfile) :
    Stands lib (trail ++ [event]) (newEnrollment draw profile) :=
  .pending rfl henrolls rfl

theorem stands_step (h : Stands lib trail before)
    (hstep : ProfileStep lib before event after) :
    Stands lib (trail ++ [event]) after := by
  cases hstep with
  | enrolled => exact stands_enrolled rfl trail before
  | reset => exact stands_enrolled rfl trail before
  | @confirmed confirmation code now after hconfirmed =>
      obtain ⟨hdisabled, hverified, rfl⟩ := confirmEnrollment_ok hconfirmed
      cases h with
      | fresh _ hprofile =>
          rw [hprofile, verifyTotp_initial] at hverified
          cases hverified
      | @pending front enrollment draw htrail henrolls hprofile =>
          subst hprofile
          have hsplit : trail ++ [.confirmed confirmation code now] =
              front ++ enrollment :: .confirmed confirmation code now ::
                ([] : List String).map .struck := by
            rw [htrail]
            simp
          exact .active rfl ⟨⟨front, enrollment, henrolls, hsplit⟩, hverified,
            rfl, rfl, rfl, List.Sublist.refl _, rfl⟩
      | active henabled =>
          rw [hdisabled] at henabled
          cases henabled
  | @struck code saved hstruck =>
      obtain ⟨hsameEnabled, hsameSecret, hsublist, hlength⟩ :=
        consumeBackupCode_ok hstruck
      cases h with
      | fresh _ hprofile =>
          subst hprofile
          cases hlength
      | pending _ _ hprofile =>
          subst hprofile
          cases hlength
      | @active draw confirmation confirmCode now used henabled hactive =>
          obtain ⟨front, enrollment, henrolls, htrail⟩ := hactive.trail
          have hsplit : trail ++ [.struck code] =
              front ++ enrollment :: .confirmed confirmation confirmCode now ::
                (used ++ [code]).map .struck := by
            rw [htrail]
            simp
          refine .active (hsameEnabled.trans henabled) ⟨⟨front, enrollment,
            henrolls, hsplit⟩, hactive.verified, hsameSecret.trans hactive.secret,
            hactive.pending, hactive.confirmedAt, hsublist.trans hactive.codes,
            ?_⟩
          rw [← hactive.count, List.length_append, List.length_singleton]
          dsimp only
          omega

theorem stands_run (hrun : Run (ProfileStep lib) .initial trail after) :
    Stands lib trail after := by
  generalize hstart : MfaProfile.initial = start at hrun
  induction hrun with
  | refl => exact .fresh rfl hstart.symm
  | snoc _ hstep ih => exact stands_step ih hstep

end Profiles

/-! ## The profiles of the site -/

def Site.profileOf (w : Site δ) (user : Nat) : MfaProfile :=
  (w.profiles user).getD .initial

/-- Another view touches a profile only where it uses up a recovery code. -/
def StrikesOnly (lib : AuthLibrary δ) (w : Site δ) : WebEvent δ → Prop
  | .request _ _ effect => ∀ user,
      effect.profiles w.profiles user = w.profiles user ∨
        ∃ profile code saved, w.profiles user = some profile ∧
          consumeBackupCode lib.mfa profile.toUserMFA code = some saved ∧
          effect.profiles w.profiles user =
            some { profile with toUserMFA := saved }
  | .expire _ => True

def Makes : WebEvent δ → ProfileEvent → Prop
  | .request request draw _, .enrolled draw' =>
      request.path = "/settings/security/mfa/" ∧ draw' = draw
  | .request request draw _, .reset draw' code now =>
      request.path = "/settings/security/mfa/" ∧ request.post = true ∧
        request.action = some "reset" ∧ draw' = draw ∧ code = request.code ∧
        now = request.now
  | .request request draw _, .confirmed draw' code now =>
      request.path = "/settings/security/mfa/" ∧ request.post = true ∧
        draw' = draw ∧ code = request.code ∧ now = request.now
  | .request request _ _, .struck _ =>
      request.path ≠ "/settings/security/mfa/"
  | .expire _, _ => False

/-- The profile stays, or takes one step that its own user's request makes. -/
inductive ProfileEnd (lib : AuthLibrary δ) (event : WebEvent δ)
    (before : MfaProfile) (owned : Prop) : MfaProfile → Prop
  | same : ProfileEnd lib event before owned before
  | stepped {made : ProfileEvent} {after : MfaProfile}
      (hmakes : Makes event made) (hstep : ProfileStep lib before made after)
      (howned : (∃ code, made = .struck code) ∨ owned) :
      ProfileEnd lib event before owned after

section Requests

variable {lib : AuthLibrary δ} {w : Site δ} {request : Request} {draw : Draw}
  {effect : ViewEffect δ} {session : Session}

theorem profileOf_saveProfile (n user : Nat) (profile : MfaProfile) :
    (w.saveProfile n profile).profileOf user =
      if user = n then profile else w.profileOf user := by
  unfold Site.profileOf Site.saveProfile
  by_cases huser : user = n
  · subst huser
    simp
  · simp [huser]

theorem profileOf_saveProfile_same (n user : Nat) :
    (w.saveProfile n ((w.profiles n).getD .initial)).profileOf user =
      w.profileOf user := by
  rw [profileOf_saveProfile]
  split
  · rename_i huser
    rw [huser]
    rfl
  · rfl

theorem profileOf_dashboardLogin (user : Nat) :
    (dashboardLogin lib w request session).world.profileOf user =
      w.profileOf user := by
  unfold dashboardLogin
  split
  · rfl
  · dsimp only
    split
    · rfl
    · split
      · rfl
      · split <;> exact profileOf_saveProfile_same _ user

theorem verifyCode_recovery {profile saved : UserMFA} {code : String}
    {now : Time}
    (h : verifyCode lib.mfa profile code true now = .recovery saved) :
    consumeBackupCode lib.mfa profile code = some saved := by
  unfold verifyCode at h
  rw [if_pos rfl] at h
  split at h
  · cases h
  · split at h
    · rename_i hconsume
      cases h
      exact hconsume
    · cases h

theorem profileEnd_mfaVerify {asked : Option Nat} {user : Nat} {owned : Prop}
    (hpath : request.path ≠ "/settings/security/mfa/") :
    ProfileEnd lib (.request request draw effect) (w.profileOf user) owned
      ((mfaVerify lib w request session asked).world.profileOf user) := by
  unfold mfaVerify
  split
  · exact .same
  · split
    · exact .same
    · rename_i pending hpending
      split
      · exact .same
      · rename_i profile hprofile
        rw [Option.ite_none_right_eq_some] at hprofile
        dsimp only
        split
        · exact .same
        · split
          · exact .same
          · split
            · exact .same
            · change ProfileEnd _ _ _ _ ((Site.saveVerdict w pending profile
                _).profileOf user)
              generalize hverdict : verifyCode lib.mfa profile.toUserMFA
                request.code true request.now = verdict
              cases verdict with
              | recovery saved =>
                  rw [Site.saveVerdict, profileOf_saveProfile]
                  split
                  · rename_i huser
                    have hbefore : w.profileOf user = profile := by
                      rw [huser, Site.profileOf, hprofile.2, Option.getD_some]
                    have hmakes : Makes (.request request draw effect)
                        (.struck request.code) := hpath
                    rw [hbefore]
                    exact .stepped hmakes
                      (.struck (verifyCode_recovery hverdict)) (.inl ⟨_, rfl⟩)
                  · exact .same
              | _ => exact .same

theorem profileEnd_renderSetup {n user : Nat} {profile : MfaProfile}
    {error : String} (hpath : request.path = "/settings/security/mfa/")
    (hprofile : profile = w.profileOf n) :
    ProfileEnd lib (.request request draw effect) (w.profileOf user)
      (some n = some user)
      ((renderSetup w draw session n profile error).world.profileOf user) := by
  unfold renderSetup
  split
  · rename_i hmissing
    rw [profileOf_saveProfile]
    split
    · rename_i huser
      have hdisabled : (w.profileOf user).enabled = false := by
        rw [Bool.and_eq_true, Bool.not_eq_true'] at hmissing
        rw [huser, ← hprofile]
        exact hmissing.1
      have hmakes : Makes (.request request draw effect) (.enrolled draw) :=
        ⟨hpath, rfl⟩
      rw [newEnrollment_eq, ← newEnrollment_eq draw (w.profileOf user)]
      exact .stepped hmakes (.enrolled hdisabled) (.inr (congrArg some huser.symm))
    · exact .same
  · exact .same

theorem profileEnd_saved {n user : Nat} {made : ProfileEvent}
    {after : MfaProfile} (hmakes : Makes (.request request draw effect) made)
    (hstep : ProfileStep lib (w.profileOf n) made after) :
    ProfileEnd lib (.request request draw effect) (w.profileOf user)
      (some n = some user) ((w.saveProfile n after).profileOf user) := by
  rw [profileOf_saveProfile]
  split
  · rename_i huser
    subst huser
    exact .stepped hmakes hstep (.inr rfl)
  · exact .same

theorem profileEnd_mfaSetup {asked : Option Nat} {user : Nat}
    (hpath : request.path = "/settings/security/mfa/") :
    ProfileEnd lib (.request request draw effect) (w.profileOf user)
      (asked = some user)
      ((mfaSetup lib w request draw session asked).world.profileOf user) := by
  unfold mfaSetup
  split
  · exact .same
  · rename_i n
    dsimp only
    rw [← profileOf_saveProfile_same n user]
    have hprofile : (w.profiles n).getD .initial =
        (w.saveProfile n ((w.profiles n).getD .initial)).profileOf n := by
      rw [profileOf_saveProfile, if_pos rfl]
    generalize w.saveProfile n ((w.profiles n).getD .initial) = w' at hprofile ⊢
    rw [hprofile]
    split
    · exact profileEnd_renderSetup hpath rfl
    · rename_i hpost
      have hposted : request.post = true := by simpa using hpost
      split
      · split
        · exact profileEnd_renderSetup hpath rfl
        · rename_i hdisabled
          have hmakes : Makes (.request request draw effect) (.enrolled draw) :=
            ⟨hpath, rfl⟩
          exact profileEnd_saved hmakes (.enrolled (by simpa using hdisabled))
      · split
        · rename_i hreset
          rw [Bool.and_eq_true, decide_eq_true_eq] at hreset
          have haction : request.action = some "reset" := by
            cases hgiven : request.action with
            | none => simp [hgiven] at hreset
            | some action =>
                rw [hgiven, Option.getD_some] at hreset
                rw [hreset.1]
          split
          · exact profileEnd_renderSetup hpath rfl
          · rename_i hverified
            have hmakes : Makes (.request request draw effect)
                (.reset draw request.code request.now) :=
              ⟨hpath, hposted, haction, rfl, rfl, rfl⟩
            exact profileEnd_saved hmakes (.reset hreset.2 hverified)
        · split
          · exact profileEnd_renderSetup hpath rfl
          · split
            · rename_i confirmed hconfirmed
              rw [Option.ite_none_right_eq_some] at hconfirmed
              have hmakes : Makes (.request request draw effect)
                  (.confirmed draw request.code request.now) :=
                ⟨hpath, hposted, rfl, rfl, rfl⟩
              exact profileEnd_saved hmakes (.confirmed hconfirmed.2)
            · exact profileEnd_renderSetup hpath rfl

theorem profileEnd_view {asked : Option Nat} {user : Nat}
    (hstrikes : StrikesOnly lib w (.request request draw effect)) :
    ProfileEnd lib (.request request draw effect) (w.profileOf user)
      (asked = some user)
      ((view lib w request draw effect session asked).world.profileOf user) := by
  unfold view
  split
  · rw [profileOf_dashboardLogin]
    exact .same
  · split
    · unfold logoutView
      split <;> exact .same
    · split
      · rename_i hpath
        exact profileEnd_mfaVerify (by rw [hpath]; decide)
      · split
        · rename_i hpath
          exact profileEnd_mfaSetup hpath
        · rename_i hpath
          change ProfileEnd _ _ _ _
            ((effect.profiles w.profiles user).getD .initial)
          rcases hstrikes user with hsame |
            ⟨profile, code, saved, hprofile, hconsume, hsaved⟩
          · rw [hsame]
            exact .same
          · have hbefore : w.profileOf user = profile := by
              rw [Site.profileOf, hprofile, Option.getD_some]
            have hmakes : Makes (.request request draw effect)
                (.struck code) := hpath
            rw [hsaved, Option.getD_some, hbefore]
            exact .stepped hmakes (.struck hconsume) (.inl ⟨code, rfl⟩)

def Site.signedIn (lib : AuthLibrary δ) (w : Site δ) : WebEvent δ → Option Nat
  | .request request _ _ => (loadUser lib w.app (w.presented request)).2
  | .expire _ => none

theorem profileEnd_step {mfaRequired : Bool} {event : WebEvent δ} {user : Nat}
    (hstrikes : StrikesOnly lib w event) :
    ProfileEnd lib event (w.profileOf user) (w.signedIn lib event = some user)
      ((w.step lib mfaRequired event).profileOf user) := by
  cases event with
  | expire keys => exact .same
  | request request draw effect =>
      have hsigned : w.signedIn lib (.request request draw effect) =
          (loadUser lib w.app (w.presented request)).2 := rfl
      rw [hsigned]
      cases hloaded : loadUser lib w.app (w.presented request) with
      | mk session asked =>
          cases hblocked : adminMfaRequired mfaRequired w request session asked with
          | some answer =>
              have hkept : (w.step lib mfaRequired
                  (.request request draw effect)).profileOf user =
                  w.profileOf user := by
                simp only [Site.step, Site.serve, hloaded, hblocked]
                rfl
              rw [hkept]
              exact .same
          | none =>
              have hviewed : (w.step lib mfaRequired
                  (.request request draw effect)).profileOf user =
                  (view lib w request draw effect session asked).world.profileOf
                    user := by
                simp only [Site.step, Site.serve, hloaded, hblocked]
                rfl
              rw [hviewed]
              exact profileEnd_view hstrikes

end Requests

/-! ## Whole histories -/

section Histories

variable {lib : AuthLibrary δ} {mfaRequired : Bool} {start w : Site δ}
  {events : List (WebEvent δ)}

theorem profile_run
    (hrun : Run (Guarded (StrikesOnly lib) (Site.Step lib mfaRequired)) start
      events w) (user : Nat) :
    ∃ taken trail, taken.Sublist events ∧ List.Forall₂ Makes taken trail ∧
      Run (ProfileStep lib) (start.profileOf user) trail (w.profileOf user) := by
  refine hrun.stutter (fun w => w.profileOf user) ?_
  rintro w event w' ⟨hstrikes, rfl⟩
  have hend : ProfileEnd lib event (w.profileOf user)
      (w.signedIn lib event = some user)
      ((w.step lib mfaRequired event).profileOf user) :=
    profileEnd_step hstrikes
  generalize (w.step lib mfaRequired event).profileOf user = after at hend ⊢
  cases hend with
  | same => exact .inl rfl
  | stepped hmakes hstep _ => exact .inr ⟨_, hmakes, hstep⟩

/--
While other views only use up recovery codes, every user's profile is the
result of the user's own enrollments, resets behind a current code and
confirmations, and stands on one of them; and a request of anyone else does no
more to it than use up one of its recovery codes.
-/
theorem profiles_follow_enrollments
    (hrun : Run (Guarded (StrikesOnly lib) (Site.Step lib mfaRequired)) start
      events w) (hstart : ∀ user, start.profiles user = none) (user : Nat) :
    (∃ taken trail, taken.Sublist events ∧ List.Forall₂ Makes taken trail ∧
      Run (ProfileStep lib) .initial trail (w.profileOf user) ∧
      Stands lib trail (w.profileOf user)) ∧
    ∀ event, StrikesOnly lib w event → w.signedIn lib event ≠ some user →
      (w.step lib mfaRequired event).profileOf user = w.profileOf user ∨
        ∃ code, ProfileStep lib (w.profileOf user) (.struck code)
          ((w.step lib mfaRequired event).profileOf user) := by
  constructor
  · obtain ⟨taken, trail, hsublist, hmakes, hprofile⟩ := profile_run hrun user
    have hinitial : start.profileOf user = .initial := by
      rw [Site.profileOf, hstart, Option.getD_none]
    rw [hinitial] at hprofile
    exact ⟨taken, trail, hsublist, hmakes, hprofile, stands_run hprofile⟩
  · intro event hstrikes hother
    have hend : ProfileEnd lib event (w.profileOf user)
        (w.signedIn lib event = some user)
        ((w.step lib mfaRequired event).profileOf user) :=
      profileEnd_step hstrikes
    generalize (w.step lib mfaRequired event).profileOf user = after at hend ⊢
    cases hend with
    | same => exact .inl rfl
    | stepped _ hstep howned =>
        obtain ⟨code, rfl⟩ := howned.resolve_right hother
        exact .inr ⟨code, hstep⟩

end Histories

/-! ## A first sign-in -/

def newcomerAuth : AuthLibrary Unit :=
  { sampleAuth with pendingCodes := fun _ => ["K7QM2XW9TA"] }

def newcomerSite : Site Unit := { enrolledSite with profiles := fun _ => none }

def newcomerEvent (cookie : Option Nat) (path : String) (post : Bool) :
    WebEvent Unit :=
  .request { samplePost cookie path with post := post }
    ⟨"secret", "codes", id⟩ ⟨id, id, .keep⟩

def newcomerEvents : List (WebEvent Unit) :=
  [newcomerEvent none "/login/" true,
    newcomerEvent (some 0) "/settings/security/mfa/" false,
    newcomerEvent (some 1) "/settings/security/mfa/" true]

def newcomerAfter (n : Nat) : Site Unit :=
  (newcomerEvents.take n).foldl (Site.step newcomerAuth true) newcomerSite

theorem newcomer_enrolls :
    ((newcomerAfter 3).profileOf 7).enabled = true ∧
      ∃ taken trail, taken.Sublist newcomerEvents ∧
        List.Forall₂ Makes taken trail ∧
        Run (ProfileStep newcomerAuth) .initial trail
          ((newcomerAfter 3).profileOf 7) ∧
        Stands newcomerAuth trail ((newcomerAfter 3).profileOf 7) := by
  have hkeeps : ∀ (w : Site Unit) (cookie : Option Nat) (path : String)
      (post : Bool), StrikesOnly newcomerAuth w (newcomerEvent cookie path post) :=
    fun _ _ _ _ _ => .inl rfl
  have hfirst : Run (Guarded (StrikesOnly newcomerAuth)
      (Site.Step newcomerAuth true)) newcomerSite (newcomerEvents.take 1)
      (newcomerAfter 1) := .single ⟨hkeeps _ _ _ _, rfl⟩
  have hsecond : Run (Guarded (StrikesOnly newcomerAuth)
      (Site.Step newcomerAuth true)) newcomerSite (newcomerEvents.take 2)
      (newcomerAfter 2) := .snoc hfirst ⟨hkeeps _ _ _ _, rfl⟩
  have hrun : Run (Guarded (StrikesOnly newcomerAuth)
      (Site.Step newcomerAuth true)) newcomerSite newcomerEvents
      (newcomerAfter 3) := .snoc hsecond ⟨hkeeps _ _ _ _, rfl⟩
  exact ⟨by decide, (profiles_follow_enrollments hrun (fun _ => rfl) 7).1⟩

end HealthGrid.Mfa
