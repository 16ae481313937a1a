import HealthGrid.Mfa.Throttle
import HealthGrid.Mfa.SessionHistory

/-!
# Guessing the second factor

The three places that verify a code for one user: the second step of the login,
the reset of the enrollment, and the routes that ask for an action code.  Only
the first of them counts failures.  All requests share one cache, as those of
one worker process do.
-/

namespace HealthGrid.Mfa

open HealthGrid.Foundation HealthGrid.Foundation.PyText

inductive CodeRoute where
  | mfaVerify
  | resetAction
  | actionCode
  deriving DecidableEq, Repr

structure CodeRequest where
  route : CodeRoute
  address : String
  code : String
  now : Time
  deriving DecidableEq, Repr

structure CodeAttempt where
  address : String
  now : Time
  correct : Bool
  checked : Bool
  deriving DecidableEq, Repr

structure CodeWorld where
  profile : Option MfaProfile
  isActive : Bool
  cache : Cache
  clock : Time
  attempts : List CodeAttempt

section Routes

variable {δ : Type} (lib : AuthLibrary δ) (user : Nat) (w : CodeWorld)
  (request : CodeRequest)

def mfaThrottleKey (address : String) : String :=
  authThrottleKey lib address ("mfa:" ++ toString user)

/-- `verify_code` has saved the list that a recovery code was struck from. -/
def CodeWorld.saveVerdict (profile : MfaProfile) : Verdict → CodeWorld
  | .recovery saved =>
      { w with profile := some { profile with toUserMFA := saved } }
  | _ => w

def CodeRequest.attempt (correct checked : Bool) : CodeAttempt :=
  ⟨request.address, request.now, correct, checked⟩

/-- `mfa_verify` for a session whose password step is done. -/
def mfaVerifyCode : CodeWorld × Option CodeAttempt :=
  match if w.isActive then w.profile else none with
  | none => (w, none)
  | some profile =>
      let key := mfaThrottleKey lib user request.address
      let verdict :=
        verifyCode lib.mfa profile.toUserMFA request.code true request.now
      if isThrottled w.cache key request.now then
        (w, some (request.attempt (verdict ≠ .refused) false))
      else if verdict = .refused then
        ({ w with cache := recordFailure w.cache key request.now },
          some (request.attempt false true))
      else
        ({ w.saveVerdict profile verdict with
            cache := clearFailures w.cache key },
          some (request.attempt true true))

/-- The `reset` action of `mfa_setup`, which shows a new secret if need be. -/
def resetCode (draw : Draw) : CodeWorld × Option CodeAttempt :=
  let profile := w.profile.getD .initial
  if !profile.enabled then
    ({ w with
        profile := some (if profile.secretEncrypted = "" ||
            profile.pendingBackupCodesEncrypted = "" then
          newEnrollment draw profile
        else profile) }, none)
  else if verifyCode lib.mfa profile.toUserMFA request.code true request.now =
      .refused then
    (w, some (request.attempt false true))
  else
    ({ w with profile := some (newEnrollment draw profile) },
      some (request.attempt true true))

/-- `require_mfa_for_action` -/
def actionCode : CodeWorld × Option CodeAttempt :=
  match w.profile with
  | none => (w, none)
  | some profile =>
      match (VerifyRequest.action request.code).submitted
        profile.toUserMFA with
      | none => (w, none)
      | some code =>
          let verdict :=
            verifyCode lib.mfa profile.toUserMFA code true request.now
          (w.saveVerdict profile verdict,
            some (request.attempt (verdict ≠ .refused) true))

def submitCode (draw : Draw) : CodeWorld × Option CodeAttempt :=
  match request.route with
  | .mfaVerify => mfaVerifyCode lib user w request
  | .resetAction => resetCode lib w request draw
  | .actionCode => actionCode lib w request

inductive CodeEvent where
  | submit (request : CodeRequest) (draw : Draw)
  /-- anything else that changes the account or its enrollment -/
  | account (profile : Option MfaProfile) (isActive : Bool)

def codeStep (event : CodeEvent) : Option CodeWorld :=
  match event with
  | .submit request draw =>
      if w.clock ≤ request.now then
        let (w', attempt) := submitCode lib user w request draw
        some { w' with
          clock := request.now
          attempts := w.attempts ++ attempt.toList }
      else none
  | .account profile isActive =>
      some { w with profile := profile, isActive := isActive }

/-- Outside the login, the profile and the code that `verify_code` gets. -/
def examined : Option (MfaProfile × String) :=
  match request.route with
  | .mfaVerify => none
  | .resetAction =>
      let profile := w.profile.getD .initial
      if profile.enabled then some (profile, request.code) else none
  | .actionCode => do
      let profile ← w.profile
      let code ← (VerifyRequest.action request.code).submitted profile.toUserMFA
      return (profile, code)

/--
Outside the login, a wrong code is checked, or a code is checked while the
address is throttled.
-/
def UncountedCheck (address : String) (event : CodeEvent) : Prop :=
  ∃ request draw profile code, event = .submit request draw ∧
    request.address = address ∧ examined w request = some (profile, code) ∧
    (verifyCode lib.mfa profile.toUserMFA code true request.now = .refused ∨
      isThrottled w.cache (mfaThrottleKey lib user address) request.now = true)

end Routes

def codesFrom (address : String) (attempts : List CodeAttempt) :
    List CodeAttempt :=
  attempts.filter (·.address == address)

/--
From the first wrong code on: after as many as the limit with no right one in
between, no further code is checked until the time has passed.
-/
def GuessesBlocked (address : String) (attempts : List CodeAttempt) : Prop :=
  ∀ before first rest later,
    codesFrom address attempts = before ++ (first :: rest ++ later) →
    (∀ attempt ∈ before, attempt.correct = true) →
    (∀ attempt ∈ first :: rest, attempt.correct = false) →
    loginThrottleLimit ≤ (first :: rest).length →
    ∀ attempt ∈ later, attempt.now < first.now + loginThrottleSeconds →
      attempt.checked = false

/-! ## The counter of one address -/

def CodeAttempt.toAttempt (attempt : CodeAttempt) : Attempt Time :=
  ⟨attempt.now, attempt.correct, attempt.checked⟩

section Throttled

variable {δ : Type} {lib : AuthLibrary δ} {user : Nat} {w w' w₀ : CodeWorld}
  {request : CodeRequest} {draw : Draw} {event : CodeEvent}
  {events : List CodeEvent} {address : String}

theorem mfaThrottleKey_inj {address' : String} :
    mfaThrottleKey lib user address = mfaThrottleKey lib user address' ↔
      address = address' := by
  constructor
  · intro h
    unfold mfaThrottleKey authThrottleKey at h
    simpa [← String.toList_inj] using h
  · rintro rfl
    rfl

inductive CodeEnd (lib : AuthLibrary δ) (user : Nat) (w : CodeWorld)
    (request : CodeRequest) : CodeWorld × Option CodeAttempt → Prop
  | noCode {w' : CodeWorld} : w'.cache = w.cache →
      CodeEnd lib user w request (w', none)
  | counted {w' : CodeWorld} {correct checked : Bool}
      (entry : Option (Counter Time)) :
      AttemptStep loginThrottleLimit loginThrottleSeconds
        (w.cache (mfaThrottleKey lib user request.address))
        ⟨request.now, correct, checked⟩ entry →
      w'.cache = Function.update w.cache
        (mfaThrottleKey lib user request.address) entry →
      CodeEnd lib user w request (w', some (request.attempt correct checked))
  | uncounted {w' : CodeWorld} {profile : MfaProfile} {code : String} :
      examined w request = some (profile, code) → w'.cache = w.cache →
      CodeEnd lib user w request (w', some (request.attempt
        (verifyCode lib.mfa profile.toUserMFA code true request.now ≠ .refused)
        true))

@[simp] theorem saveVerdict_cache (profile : MfaProfile) (verdict : Verdict) :
    (w.saveVerdict profile verdict).cache = w.cache := by
  cases verdict <;> rfl

theorem mfaVerifyCode_end :
    CodeEnd lib user w request (mfaVerifyCode lib user w request) := by
  unfold mfaVerifyCode
  split
  · exact .noCode rfl
  · dsimp only
    split
    · rename_i hthrottled
      exact .counted _ (.refused _ (isThrottled_iff.mp hthrottled))
        (Function.update_eq_self _ _).symm
    · rename_i hopen
      have hbelow := not_isThrottled_iff.mp (Bool.eq_false_of_not_eq_true hopen)
      split
      · exact .counted _ (.failed hbelow) recordFailure_eq
      · exact .counted none (.accepted hbelow) (by simp [clearFailures])

theorem submitCode_end :
    CodeEnd lib user w request (submitCode lib user w request draw) := by
  unfold submitCode
  cases hroute : request.route with
  | mfaVerify => exact mfaVerifyCode_end
  | resetAction =>
      dsimp only [resetCode]
      split
      · exact .noCode rfl
      · rename_i henabled
        have hexamined : examined w request =
            some (w.profile.getD .initial, request.code) := by
          have henabled' : (w.profile.getD .initial).enabled = true := by
            simpa using henabled
          simp [examined, hroute, henabled']
        have hend : ∀ w' : CodeWorld, w'.cache = w.cache →
            CodeEnd lib user w request (w', some (request.attempt
              (verifyCode lib.mfa (w.profile.getD .initial).toUserMFA
                request.code true request.now ≠ .refused) true)) :=
          fun _ => .uncounted hexamined
        split
        · rename_i hwrong
          simpa [hwrong] using hend w rfl
        · rename_i hright
          simpa [hright] using hend
            { w with profile := some (newEnrollment draw _) } rfl
  | actionCode =>
      dsimp only
      unfold actionCode
      split
      · exact .noCode rfl
      · rename_i profile hprofile
        split
        · exact .noCode rfl
        · rename_i code hcode
          have hexamined : examined w request = some (profile, code) := by
            simp [examined, hroute, hprofile, hcode]
          exact .uncounted hexamined (by simp)

def codeSubject (lib : AuthLibrary δ) (user : Nat) (address : String)
    (w : CodeWorld) : Subject Time where
  entry := w.cache (mfaThrottleKey lib user address)
  attempts := (codesFrom address w.attempts).map CodeAttempt.toAttempt
  clock := w.clock

theorem codesFrom_snoc (attempts : List CodeAttempt) (attempt : CodeAttempt) :
    codesFrom address (attempts ++ [attempt]) =
      codesFrom address attempts ++
        if attempt.address = address then [attempt] else [] := by
  simp [codesFrom, List.filter_append, List.filter_singleton]

theorem codeSubject_other {attempt : Option CodeAttempt}
    (hclock : w.clock ≤ request.now)
    (hcache : w'.cache (mfaThrottleKey lib user address) =
      w.cache (mfaThrottleKey lib user address))
    (hother : ∀ other, attempt = some other → other.address ≠ address) :
    SubjectStep loginThrottleLimit loginThrottleSeconds
      (codeSubject lib user address w)
      (codeSubject lib user address { w' with
        clock := request.now
        attempts := w.attempts ++ attempt.toList }) := by
  refine .kept ?_ hcache hclock
  cases attempt with
  | none => simp [codeSubject]
  | some other => simp [codeSubject, codesFrom_snoc, hother other rfl]

theorem codeSubject_own {correct checked : Bool}
    (hclock : w.clock ≤ request.now)
    (hattempt : AttemptStep loginThrottleLimit loginThrottleSeconds
      (w.cache (mfaThrottleKey lib user request.address))
      ⟨request.now, correct, checked⟩
      (w'.cache (mfaThrottleKey lib user request.address))) :
    SubjectStep loginThrottleLimit loginThrottleSeconds
      (codeSubject lib user request.address w)
      (codeSubject lib user request.address { w' with
        clock := request.now
        attempts :=
          w.attempts ++ (some (request.attempt correct checked)).toList }) := by
  refine .attempted ⟨request.now, correct, checked⟩ ?_ hattempt hclock rfl
  simp [codeSubject, codesFrom_snoc, CodeRequest.attempt,
    CodeAttempt.toAttempt]

theorem codeSubject_step
    (hcounted : ¬ UncountedCheck lib user w address event)
    (hstep : codeStep lib user w event = some w') :
    SubjectStep loginThrottleLimit loginThrottleSeconds
      (codeSubject lib user address w) (codeSubject lib user address w') := by
  cases event with
  | account profile isActive =>
      cases hstep
      exact .kept rfl rfl (le_refl _)
  | submit request draw =>
      rw [codeStep] at hstep
      obtain ⟨hclock, hsubmit⟩ := Option.ite_none_right_eq_some.mp hstep
      have hend : CodeEnd lib user w request
        (submitCode lib user w request draw) := submitCode_end
      generalize submitCode lib user w request draw = result at hend hsubmit
      by_cases heq : request.address = address
      · subst heq
        cases hend with
        | noCode hcache =>
            cases hsubmit
            exact codeSubject_other hclock (by rw [hcache]) nofun
        | counted entry hattempt hcache =>
            cases hsubmit
            exact codeSubject_own hclock (by simpa [hcache] using hattempt)
        | @uncounted _ profile code hexamined hcache =>
            cases hsubmit
            have hgood : verifyCode lib.mfa profile.toUserMFA code true
                  request.now ≠ .refused ∧
                isThrottled w.cache (mfaThrottleKey lib user request.address)
                  request.now = false := by
              by_contra hbad
              refine hcounted ⟨request, draw, profile, code, rfl, rfl,
                hexamined, ?_⟩
              simpa [not_and_or, or_iff_not_imp_left] using hbad
            apply codeSubject_own hclock
            simpa [hcache, hgood.1] using
              AttemptStep.unnoticed (not_isThrottled_iff.mp hgood.2)
      · have hkey : mfaThrottleKey lib user address ≠
            mfaThrottleKey lib user request.address :=
          fun hsame => heq (mfaThrottleKey_inj.mp hsame).symm
        cases hend with
        | noCode hcache =>
            cases hsubmit
            exact codeSubject_other hclock (by rw [hcache]) nofun
        | counted entry _ hcache =>
            cases hsubmit
            apply codeSubject_other hclock
            · simp [hcache, Function.update_of_ne hkey]
            · rintro _ ⟨⟩
              exact heq
        | uncounted _ hcache =>
            cases hsubmit
            apply codeSubject_other hclock (by rw [hcache])
            rintro _ ⟨⟩
            exact heq

/-! ## Every run whose codes are counted -/

theorem guesses_blocked
    (hstart : Expired (w₀.cache (mfaThrottleKey lib user address)) w₀.clock)
    (hnone : w₀.attempts = [])
    (run : Run (Guarded (fun w event => ¬ UncountedCheck lib user w address event)
      (Enabled (codeStep lib user))) w₀ events w) :
    GuessesBlocked address w.attempts := by
  have hfollows := follows_run (codeSubject lib user address)
    (fun u event v h => codeSubject_step h.1 h.2)
    (by simp [codeSubject, codesFrom, hnone]) run
  intro before first rest later hsplit hbefore hbad hmany attempt hmem hnow
  have hattempts : (codeSubject lib user address w).attempts =
      before.map CodeAttempt.toAttempt ++
        (first.toAttempt :: rest.map CodeAttempt.toAttempt ++
          later.map CodeAttempt.toAttempt) := by
    simp [codeSubject, hsplit]
  have hrun := hfollows.run
  have horder := hfollows.inOrder
  rw [hattempts] at hrun horder
  refine blocked_after_failures (by decide) hstart
    (hfollows.since first.toAttempt ?_) hrun horder ?_ ?_ ?_
    (List.mem_map_of_mem hmem) hnow
  · rw [hattempts]
    simp
  · simpa [CodeAttempt.toAttempt] using hbefore
  · simpa [CodeAttempt.toAttempt] using hbad
  · simpa using hmany

end Throttled

/-! ## Eleven guesses -/

def guessedWorld : CodeWorld where
  profile := some
    { MfaProfile.initial with enabled := true, secretEncrypted := "secret" }
  isActive := true
  cache _ := none
  clock := 0
  attempts := []

def guess (route : CodeRoute) : CodeEvent :=
  .submit ⟨route, "10.0.0.7", "000000", 0⟩ ⟨"", "", id⟩

theorem action_codes_guessed_freely :
    ∃ w, Run (Enabled (codeStep sampleAuth 7)) guessedWorld
        (List.replicate 11 (guess .actionCode)) w ∧
      ¬ GuessesBlocked "10.0.0.7" w.attempts := by
  let wrong : CodeAttempt := ⟨"10.0.0.7", 0, false, true⟩
  have hattempts : (execute (codeStep sampleAuth 7) guessedWorld
      (List.replicate 11 (guess .actionCode))).map CodeWorld.attempts =
        some (List.replicate 11 wrong) := by decide +kernel
  obtain ⟨w, hw, hlog⟩ := Option.map_eq_some_iff.mp hattempts
  refine ⟨w, run_of_execute hw, fun hblocked => ?_⟩
  rw [hlog] at hblocked
  have hchecked := hblocked [] wrong (List.replicate 9 wrong) [wrong]
    (by decide) (by decide) (by decide) (by decide) wrong
    (List.mem_singleton_self _) (by decide)
  cases hchecked

theorem login_codes_blocked :
    ∃ w, Run (Enabled (codeStep sampleAuth 7)) guessedWorld
        (List.replicate 11 (guess .mfaVerify)) w ∧
      GuessesBlocked "10.0.0.7" w.attempts := by
  have hruns : (execute (codeStep sampleAuth 7) guessedWorld
      (List.replicate 11 (guess .mfaVerify))).isSome = true := by
    decide +kernel
  obtain ⟨w, hw⟩ := Option.isSome_iff_exists.mp hruns
  refine ⟨w, run_of_execute hw, guesses_blocked (expired_none _) rfl
    ((run_of_execute hw).guarded ?_)⟩
  rintro u event hmem ⟨request, draw, profile, code, hevent, -, hexamined, -⟩
  rw [List.eq_of_mem_replicate hmem] at hevent
  cases hevent
  cases hexamined

end HealthGrid.Mfa
