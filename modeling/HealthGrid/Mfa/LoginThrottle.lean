import HealthGrid.Access.Permissions
import HealthGrid.Mfa.SessionHistory
import HealthGrid.Mfa.Throttle

/-!
# Guessing a password

The throttle of the login view takes its key from the submitted username, while
the form finds the account under the normalized one.  All requests share one
cache.
-/

namespace HealthGrid.Mfa

open HealthGrid.Foundation HealthGrid.Foundation.PyText HealthGrid.Access

/--
The accounts, NFKC normalization, and which password an active account has.
-/
structure LoginSite where
  accounts : OpenTable Account
  nfkc : String → String
  accepts : Nat → String → Bool

structure LoginPost where
  address : String
  username : String
  password : String
  now : Time
  deriving DecidableEq, Repr

structure LoginAttempt where
  address : String
  account : Option Account
  now : Time
  correct : Bool
  passed : Bool
  deriving DecidableEq, Repr

structure LoginWorld where
  cache : Cache
  clock : Time
  attempts : List LoginAttempt

/-- `UsernameField`, a required field, and the lookup by natural key. -/
def LoginSite.account (site : LoginSite) (username : String) :
    Option Account :=
  let name := site.nfkc (stripText username)
  if name = "" then none else site.accounts.findOpen? name

def LoginSite.signIn (site : LoginSite) (username password : String) :
    Option Account :=
  (site.account username).filter fun account =>
    password != "" && site.accepts account.pk password

section View

variable {δ : Type} (lib : AuthLibrary δ) (site : LoginSite)

/-- `DashboardLoginView.post`, with `form_invalid` and `form_valid`. -/
def loginPost (w : LoginWorld) (post : LoginPost) : LoginWorld :=
  let key := authThrottleKey lib post.address post.username
  let user := site.signIn post.username post.password
  let passed := !isThrottled w.cache key post.now
  { cache :=
      if !passed then w.cache
      else
        match user with
        | none => recordFailure w.cache key post.now
        | some account =>
            clearFailures w.cache
              (authThrottleKey lib post.address account.username)
    clock := post.now
    attempts := w.attempts ++
      [⟨post.address, site.account post.username, post.now, user.isSome,
        passed⟩] }

def loginStep (w : LoginWorld) (post : LoginPost) : Option LoginWorld :=
  if w.clock ≤ post.now then some (loginPost lib site w post) else none

def ownKey (address : String) (account : Account) : String :=
  authThrottleKey lib address account.username

/--
A POST for the account under a key that is not its own, or another one under
the key of the account.
-/
def Misfiled (address : String) (account : Account) (post : LoginPost) : Prop :=
  if post.address = address ∧ site.account post.username = some account then
    authThrottleKey lib address post.username ≠ ownKey lib address account
  else
    authThrottleKey lib post.address post.username = ownKey lib address account ∨
      ∃ other, site.signIn post.username post.password = some other ∧
        ownKey lib post.address other = ownKey lib address account

end View

def postsFor (address : String) (account : Account)
    (attempts : List LoginAttempt) : List LoginAttempt :=
  attempts.filter fun attempt =>
    attempt.address == address && attempt.account == some account

/--
From the first wrong password on, and while none is accepted: no more than the
limit are let past before the time has passed.
-/
def GuessesBounded (address : String) (account : Account)
    (attempts : List LoginAttempt) : Prop :=
  ∀ before first rest later,
    postsFor address account attempts = before ++ (first :: rest ++ later) →
    (∀ attempt ∈ before, attempt.passed = true → attempt.correct = true) →
    first.passed = true → first.correct = false →
    (∀ attempt ∈ rest, ¬ (attempt.passed = true ∧ attempt.correct = true)) →
    (first :: rest).countP (fun attempt => attempt.passed &&
      !attempt.correct && decide (attempt.now <
        first.now + loginThrottleSeconds)) ≤ loginThrottleLimit

/-! ## The counter of one account at one address -/

def LoginAttempt.toAttempt (attempt : LoginAttempt) : Attempt Time :=
  ⟨attempt.now, attempt.correct, attempt.passed⟩

section Throttled

variable {δ : Type} {lib : AuthLibrary δ} {site : LoginSite}
  {w w' w₀ : LoginWorld} {post : LoginPost} {posts : List LoginPost}
  {address : String} {account : Account}

def loginSubject (lib : AuthLibrary δ) (address : String) (account : Account)
    (w : LoginWorld) : Subject Time where
  entry := w.cache (ownKey lib address account)
  attempts := (postsFor address account w.attempts).map LoginAttempt.toAttempt
  clock := w.clock

theorem postsFor_snoc (attempts : List LoginAttempt) (attempt : LoginAttempt) :
    postsFor address account (attempts ++ [attempt]) =
      postsFor address account attempts ++
        if attempt.address = address ∧ attempt.account = some account then
          [attempt]
        else [] := by
  simp [postsFor, List.filter_append, List.filter_singleton]

theorem signIn_account {username password : String} {user : Account}
    (h : site.signIn username password = some user) :
    site.account username = some user :=
  (Option.filter_eq_some_iff.mp h).1

theorem loginPost_own
    (hown : authThrottleKey lib post.address post.username =
      ownKey lib post.address account)
    (haccount : site.account post.username = some account) :
    AttemptStep loginThrottleLimit loginThrottleSeconds
      (w.cache (ownKey lib post.address account))
      ⟨post.now, (site.signIn post.username post.password).isSome,
        !isThrottled w.cache (ownKey lib post.address account) post.now⟩
      ((loginPost lib site w post).cache (ownKey lib post.address account)) := by
  unfold loginPost
  dsimp only
  rw [hown]
  cases hthrottled : isThrottled w.cache (ownKey lib post.address account)
      post.now with
  | true => exact .refused _ (isThrottled_iff.mp hthrottled)
  | false =>
      have hbelow := not_isThrottled_iff.mp hthrottled
      cases hsignIn : site.signIn post.username post.password with
      | none =>
          simpa [recordFailure_eq] using AttemptStep.failed hbelow
      | some user =>
          have huser : user = account := by
            rw [signIn_account hsignIn] at haccount
            exact Option.some.inj haccount
          subst huser
          simpa [clearFailures, ownKey] using AttemptStep.accepted hbelow

theorem loginPost_other
    (hkey : authThrottleKey lib post.address post.username ≠
      ownKey lib address account)
    (hcleared : ∀ other, site.signIn post.username post.password = some other →
      ownKey lib post.address other ≠ ownKey lib address account) :
    (loginPost lib site w post).cache (ownKey lib address account) =
      w.cache (ownKey lib address account) := by
  unfold loginPost
  dsimp only
  split
  · rfl
  · cases hsignIn : site.signIn post.username post.password with
    | none => simp [recordFailure_eq, Function.update_of_ne hkey.symm]
    | some other =>
        exact Function.update_of_ne (hcleared other hsignIn).symm _ _

theorem loginSubject_step (hfiled : ¬ Misfiled lib site address account post)
    (hstep : loginStep lib site w post = some w') :
    SubjectStep loginThrottleLimit loginThrottleSeconds
      (loginSubject lib address account w)
      (loginSubject lib address account w') := by
  rw [loginStep] at hstep
  obtain ⟨hclock, hpost⟩ := Option.ite_none_right_eq_some.mp hstep
  cases hpost
  unfold Misfiled at hfiled
  by_cases hown : post.address = address ∧
      site.account post.username = some account
  · obtain ⟨rfl, haccount⟩ := hown
    rw [if_pos ⟨rfl, haccount⟩, not_not] at hfiled
    refine .attempted _ ?_ (loginPost_own hfiled haccount) hclock rfl
    simp [loginSubject, loginPost, postsFor_snoc, haccount, hfiled,
      LoginAttempt.toAttempt]
  · rw [if_neg hown, not_or, not_exists] at hfiled
    refine .kept ?_ (loginPost_other hfiled.1 ?_) hclock
    · simp [loginSubject, loginPost, postsFor_snoc, hown]
    · exact fun other hother hsame => hfiled.2 other ⟨hother, hsame⟩

/-! ## Every run whose POSTs are filed right -/

theorem guesses_bounded
    (hstart : Expired (w₀.cache (ownKey lib address account)) w₀.clock)
    (hnone : w₀.attempts = [])
    (run : Run (Guarded (fun _ post => ¬ Misfiled lib site address account post)
      (Enabled (loginStep lib site))) w₀ posts w) :
    GuessesBounded address account w.attempts := by
  have hfollows := follows_run (loginSubject lib address account)
    (fun u post v h => loginSubject_step h.1 h.2)
    (by simp [loginSubject, postsFor, hnone]) run
  intro before first rest later hsplit hbefore _ hwrong hrest
  have hattempts : (loginSubject lib address account w).attempts =
      (before.map LoginAttempt.toAttempt ++
        first.toAttempt :: rest.map LoginAttempt.toAttempt) ++
          later.map LoginAttempt.toAttempt := by
    simp [loginSubject, hsplit]
  have hrun := hfollows.run
  have horder := hfollows.inOrder
  rw [hattempts] at hrun horder
  obtain ⟨entry, hfront, -⟩ := hrun.append_inv
  have hle := passed_failures_le (by decide) hstart
    (hfollows.since first.toAttempt (by rw [hattempts]; simp)) hfront
    (List.pairwise_append.mp horder).1
    (by simpa [LoginAttempt.toAttempt] using hbefore) hwrong
    (by simpa [LoginAttempt.toAttempt] using hrest)
  rw [← List.map_cons, List.countP_map] at hle
  exact hle

end Throttled

/-! ## A name in wide letters -/

def ann : Account where
  pk := 0
  username := "ann"
  isActive := true
  isStaff := false
  isSuperuser := false

def annsSite : LoginSite where
  accounts := OpenTable.empty.insert ann rfl rfl
  nfkc text := if text = "\uff41nn" then "ann" else text
  accepts _ password := password == "pw"

def noLogins : LoginWorld := ⟨fun _ => none, 0, []⟩

def wrongPassword (username : String) : LoginPost :=
  ⟨"10.0.0.7", username, "guess", 0⟩

theorem wide_name_has_own_counter :
    ∃ w, Run (Enabled (loginStep sampleAuth annsSite)) noLogins
        (List.replicate 10 (wrongPassword "ann") ++
          [wrongPassword "\uff41nn"]) w ∧
      ¬ GuessesBounded "10.0.0.7" ann w.attempts := by
  let wrong : LoginAttempt := ⟨"10.0.0.7", some ann, 0, false, true⟩
  have hattempts : (execute (loginStep sampleAuth annsSite) noLogins
      (List.replicate 10 (wrongPassword "ann") ++
        [wrongPassword "\uff41nn"])).map LoginWorld.attempts =
          some (List.replicate 11 wrong) := by decide +kernel
  obtain ⟨w, hw, hlog⟩ := Option.map_eq_some_iff.mp hattempts
  refine ⟨w, run_of_execute hw, fun hbounded => ?_⟩
  rw [hlog] at hbounded
  have hle := hbounded [] wrong (List.replicate 10 wrong) [] (by decide)
    (by decide) rfl rfl (by decide)
  revert hle
  decide

theorem one_name_is_bounded :
    ∃ w, Run (Enabled (loginStep sampleAuth annsSite)) noLogins
        (List.replicate 11 (wrongPassword "ann")) w ∧
      GuessesBounded "10.0.0.7" ann w.attempts := by
  have hruns : (execute (loginStep sampleAuth annsSite) noLogins
      (List.replicate 11 (wrongPassword "ann"))).isSome = true := by
    decide +kernel
  obtain ⟨w, hw⟩ := Option.isSome_iff_exists.mp hruns
  refine ⟨w, run_of_execute hw, guesses_bounded (expired_none _) rfl
    ((run_of_execute hw).guarded ?_)⟩
  intro u post hmem hmisfiled
  rw [List.eq_of_mem_replicate hmem, Misfiled, if_pos (by decide)] at hmisfiled
  exact hmisfiled rfl

end HealthGrid.Mfa
