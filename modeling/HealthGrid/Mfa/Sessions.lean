import HealthGrid.Mfa.Codes
import Mathlib.Logic.Function.Basic

/-!
# Browser sessions

The sign-in views, the enrollment view and the middleware, over sessions that
live in signed cookies: a request presents any cookie the server has issued,
old ones included, and the session it leaves behind is issued in turn.
-/

namespace HealthGrid.Mfa

open HealthGrid.Foundation HealthGrid.Foundation.PyText

/-! ## Profiles -/

structure MfaProfile extends UserMFA where
  pendingBackupCodesEncrypted : String
  confirmedAt : Option Time
  deriving DecidableEq, Repr

/-- What `get_or_create` creates. -/
def MfaProfile.initial : MfaProfile where
  enabled := false
  secretEncrypted := ""
  backupCodes := []
  pendingBackupCodesEncrypted := ""
  confirmedAt := none

structure Draw where
  secretEncrypted : String
  pendingBackupCodesEncrypted : String
  makePassword : String → String

/--
The code verification, the rest of the app database, which the framework
queries, and texts.  `pendingCodes` decrypts and splits into lines.
-/
structure AuthLibrary (δ : Type) where
  mfa : MfaLibrary
  lower : String → String
  pendingCodes : String → List String
  authenticate : δ → String → String → Option Nat
  isActive : δ → Nat → Bool
  username : δ → Nat → String
  sessionAuthHash : δ → Nat → String
  isLocalUrl : String → Bool
  loginUrl : String → String
  invalidLogin : String

def newEnrollment (draw : Draw) (profile : MfaProfile) : MfaProfile :=
  { profile with
    secretEncrypted := draw.secretEncrypted
    pendingBackupCodesEncrypted := draw.pendingBackupCodesEncrypted
    backupCodes := []
    enabled := false
    confirmedAt := none }

variable {δ : Type} (lib : AuthLibrary δ)

def getPendingBackupCodes (profile : MfaProfile) : List String :=
  if profile.pendingBackupCodesEncrypted = "" then []
  else lib.pendingCodes profile.pendingBackupCodesEncrypted

def confirmEnrollment (draw : Draw) (now : Time) (code : String)
    (profile : MfaProfile) : Option MfaProfile :=
  if profile.enabled || !verifyTotp lib.mfa profile.toUserMFA code now then none
  else
    let pendingCodes := getPendingBackupCodes lib profile
    if pendingCodes = [] then none
    else
      some { profile with
        backupCodes := pendingCodes.map draw.makePassword
        pendingBackupCodesEncrypted := ""
        enabled := true
        confirmedAt := some now }

/-! ## Requests and sessions -/

structure Request where
  cookie : Option Nat
  path : String
  fullPath : String
  post : Bool
  address : String
  now : Time
  username : String
  password : String
  next : String
  code : String
  action : Option String
  deriving DecidableEq, Repr

/-- A request as the session saw it, with the profiles it met. -/
structure SessionStep where
  request : Request
  profiles : Nat → Option MfaProfile
  pendingUser : Option Nat
  user : Option Nat

/-- The keys of a session, and the steps since it was last flushed. -/
structure Session where
  authUser : Option Nat
  authHash : String
  pendingUser : Option Nat
  pendingNext : String
  verifiedAt : Option Time
  mfaOk : Option Nat
  steps : List SessionStep

def Session.empty : Session where
  authUser := none
  authHash := ""
  pendingUser := none
  pendingNext := ""
  verifiedAt := none
  mfaOk := none
  steps := []

def Session.markVerified (session : Session) (now : Time) : Session :=
  { session with verifiedAt := some now }

def Session.markMfaPassed (session : Session) (user : Nat) : Session :=
  { session with mfaOk := some user }

/-- `login` of the framework: a different user's session is flushed. -/
def djangoLogin (app : δ) (user : Nat) (session : Session) : Session :=
  let kept := match session.authUser with
    | some other => if other = user then session else .empty
    | none => session
  { kept with
    authUser := some user
    authHash := lib.sessionAuthHash app user }

/-- The user of a session, which a changed password hash flushes. -/
def loadUser (app : δ) (session : Session) : Session × Option Nat :=
  match session.authUser with
  | none => (session, none)
  | some user =>
      if !lib.isActive app user then (session, none)
      else if session.authHash = lib.sessionAuthHash app user then
        (session, some user)
      else (.empty, none)

def hasRecentSessionVerification (session : Session) (now : Time) : Bool :=
  let age := now - session.verifiedAt.getD 0
  0 ≤ age && age ≤ 300 * 1000000

inductive Response where
  | redirect (url message : String)
  | page (error : String)
  | other
  deriving DecidableEq, Repr

structure Site (δ : Type) where
  app : δ
  profiles : Nat → Option MfaProfile
  failures : String → Nat
  cookies : List Session

structure Served (δ : Type) where
  world : Site δ
  session : Session
  response : Response

def Site.saveProfile (w : Site δ) (user : Nat) (profile : MfaProfile) :
    Site δ :=
  { w with profiles := Function.update w.profiles user (some profile) }

def Site.saveVerdict (w : Site δ) (user : Nat) (profile : MfaProfile) :
    Verdict → Site δ
  | .recovery saved => w.saveProfile user { profile with toUserMFA := saved }
  | _ => w

/-! ## Throttling -/

def authThrottleKey (address subject : String) : String :=
  "auth-fail:" ++ address ++ ":" ++
    String.ofList ((lib.lower (stripText subject)).toList.take 150)

def Site.isThrottled (w : Site δ) (key : String) : Bool := w.failures key ≥ 10

def Site.recordFailure (w : Site δ) (key : String) : Site δ :=
  { w with failures := Function.update w.failures key (w.failures key + 1) }

def Site.clearFailures (w : Site δ) (key : String) : Site δ :=
  { w with failures := Function.update w.failures key 0 }

/-! ## Views -/

/-- `DashboardLoginView` -/
def dashboardLogin (w : Site δ) (request : Request) (session : Session) :
    Served δ :=
  if !request.post then ⟨w, session, .page ""⟩
  else
    let key := authThrottleKey lib request.address request.username
    if w.isThrottled key then
      ⟨w, session, .page "Too many sign-in attempts. Try again in 15 minutes."⟩
    else
      match lib.authenticate w.app request.username request.password with
      | none => ⟨w.recordFailure key, session, .page lib.invalidLogin⟩
      | some user =>
          let w := w.clearFailures
            (authThrottleKey lib request.address (lib.username w.app user))
          let profile := (w.profiles user).getD .initial
          let w := w.saveProfile user profile
          if !profile.enabled then
            ⟨w, djangoLogin lib w.app user session,
              .redirect "/settings/security/mfa/" ""⟩
          else
            let next :=
              if request.next ≠ "" && !lib.isLocalUrl request.next then ""
              else request.next
            ⟨w, { session with pendingUser := some user, pendingNext := next },
              .redirect "/mfa/verify/" ""⟩

def mfaVerify (w : Site δ) (request : Request) (session : Session)
    (user : Option Nat) : Served δ :=
  if user.isSome then ⟨w, session, .redirect "/" ""⟩
  else
    match session.pendingUser with
    | none => ⟨w, session, .redirect "/login/" ""⟩
    | some pending =>
        match if lib.isActive w.app pending then w.profiles pending
          else none with
        | none => ⟨w, .empty, .redirect "/login/" ""⟩
        | some profile =>
            let key := authThrottleKey lib request.address
              ("mfa:" ++ toString pending)
            if !request.post then ⟨w, session, .page ""⟩
            else if w.isThrottled key then
              ⟨w, session, .page
                "Too many verification attempts. Try again in 15 minutes."⟩
            else
              let verdict := verifyCode lib.mfa profile.toUserMFA request.code
                true request.now
              if verdict = .refused then
                ⟨w.recordFailure key, session, .page
                  ("That authenticator or recovery code is invalid. " ++
                    "Try again.")⟩
              else
                let next :=
                  if session.pendingNext = "" then "/" else session.pendingNext
                let session := ((djangoLogin lib w.app pending
                  session).markVerified request.now).markMfaPassed pending
                ⟨(w.saveVerdict pending profile verdict).clearFailures key,
                  { session with pendingUser := none, pendingNext := "" },
                  .redirect next ""⟩

/-- The end of `mfa_setup`, where it renders its page. -/
def renderSetup (w : Site δ) (draw : Draw) (session : Session) (user : Nat)
    (profile : MfaProfile) (error : String) : Served δ :=
  if !profile.enabled && (profile.secretEncrypted = "" ||
      profile.pendingBackupCodesEncrypted = "") then
    ⟨w.saveProfile user (newEnrollment draw profile), session, .page error⟩
  else ⟨w, session, .page error⟩

def mfaSetup (w : Site δ) (request : Request) (draw : Draw)
    (session : Session) (user : Option Nat) : Served δ :=
  match user with
  | none => ⟨w, session, .redirect (lib.loginUrl request.fullPath) ""⟩
  | some user =>
      let profile := (w.profiles user).getD .initial
      let w := w.saveProfile user profile
      let action := request.action.getD "confirm"
      if !request.post then renderSetup w draw session user profile ""
      else if action = "regenerate" then
        if profile.enabled then
          renderSetup w draw session user profile
            ("MFA is already enabled. Use Reset with a current authenticator " ++
              "or recovery code to change it.")
        else
          ⟨w.saveProfile user (newEnrollment draw profile), session,
            .redirect "/settings/security/mfa/"
              ("A new authenticator setup secret was generated. The previous " ++
                "secret is no longer valid.")⟩
      else if action = "reset" && profile.enabled then
        if verifyCode lib.mfa profile.toUserMFA request.code true request.now =
            .refused then
          renderSetup w draw session user profile
            ("Enter a valid current authenticator or recovery code to reset " ++
              "MFA.")
        else
          -- the new enrollment empties the list a recovery code was struck from
          ⟨w.saveProfile user (newEnrollment draw profile), session,
            .redirect "/settings/security/mfa/"
              ("MFA was reset. Scan the new QR code and confirm it to enable " ++
                "MFA again.")⟩
      else if profile.enabled then renderSetup w draw session user profile ""
      else
        match if action = "confirm" then
            confirmEnrollment lib draw request.now request.code profile
          else none with
        | some confirmed =>
            ⟨w.saveProfile user confirmed,
              (session.markVerified request.now).markMfaPassed user,
              .redirect "/"
                "Google Authenticator MFA is enabled for your account."⟩
        | none =>
            renderSetup w draw session user profile
              ("Enter the 6-digit code shown by your authenticator app to " ++
                "confirm setup.")

def logoutView (w : Site δ) (request : Request) (session : Session) :
    Served δ :=
  if request.post then ⟨w, .empty, .redirect "/login/" ""⟩
  else ⟨w, session, .other⟩

inductive SessionEffect where
  | keep
  /-- `require_mfa_for_action` -/
  | verified
  /-- a changed password of the session's own user -/
  | rehash
  | flush

/-- What another view does; its writes to the database are not restricted. -/
structure ViewEffect (δ : Type) where
  app : δ → δ
  profiles : (Nat → Option MfaProfile) → Nat → Option MfaProfile
  session : SessionEffect

def otherView (w : Site δ) (request : Request) (effect : ViewEffect δ)
    (session : Session) (user : Option Nat) : Served δ :=
  let app := effect.app w.app
  let session := match effect.session with
    | .keep => session
    | .verified => session.markVerified request.now
    | .rehash =>
        { session with
          authHash := user.elim session.authHash (lib.sessionAuthHash app) }
    | .flush => .empty
  ⟨{ w with app := app, profiles := effect.profiles w.profiles }, session,
    .other⟩

def view (w : Site δ) (request : Request) (draw : Draw)
    (effect : ViewEffect δ) (session : Session) (user : Option Nat) :
    Served δ :=
  if request.path = "/login/" then dashboardLogin lib w request session
  else if request.path = "/logout/" then logoutView w request session
  else if request.path = "/mfa/verify/" then
    mfaVerify lib w request session user
  else if request.path = "/settings/security/mfa/" then
    mfaSetup lib w request draw session user
  else otherView lib w request effect session user

/-! ## The middleware -/

def mfaExemptPaths : List String :=
  ["/login/", "/logout/", "/mfa/verify/", "/settings/security/mfa/"]

def adminEntry (path : String) : Bool :=
  startsWith path "/admin/login" || startsWith path "/admin/logout"

def mfaExempt (path : String) : Bool :=
  mfaExemptPaths.contains path || startsWith path "/static/" || adminEntry path

def Site.mfaEnabled (w : Site δ) (user : Nat) : Bool :=
  (w.profiles user).any fun profile => profile.enabled

/-- `AdminMFARequiredMiddleware`: `none` passes the request on. -/
def adminMfaRequired (mfaRequired : Bool) (w : Site δ) (request : Request)
    (session : Session) (user : Option Nat) : Option (Session × Response) :=
  match user with
  | none => none
  | some user =>
      let next := quote "/?:=&" request.fullPath
      let checked := mfaRequired && !mfaExempt request.path
      if checked && !w.mfaEnabled user then
        some (session, .redirect ("/settings/security/mfa/?next=" ++ next) "")
      else if checked && session.mfaOk ≠ some user then
        some (.empty, .redirect ("/login/?next=" ++ next) "")
      else if startsWith request.path "/admin/" && !adminEntry request.path &&
          (!w.mfaEnabled user ||
            !hasRecentSessionVerification session request.now) then
        some (.empty,
          .redirect ("/login/?next=" ++ quote "/?=&" request.fullPath) "")
      else none

/-! ## Whole requests -/

def Site.presented (w : Site δ) (request : Request) : Session :=
  (request.cookie.bind fun n => w.cookies[n]?).getD .empty

inductive WebEvent (δ : Type) where
  | request (request : Request) (draw : Draw) (effect : ViewEffect δ)
  /-- throttle entries that time out -/
  | expire (keys : List String)

def Site.serve (mfaRequired : Bool) (w : Site δ) (request : Request)
    (draw : Draw) (effect : ViewEffect δ) : Site δ :=
  let (session, user) := loadUser lib w.app (w.presented request)
  let served : Served δ :=
    match adminMfaRequired mfaRequired w request session user with
    | some (session, response) => ⟨w, session, response⟩
    | none => view lib w request draw effect session user
  { served.world with
    cookies := w.cookies ++ [{ served.session with
      steps := served.session.steps ++
        [⟨request, w.profiles, session.pendingUser, user⟩] }] }

def Site.step (mfaRequired : Bool) (w : Site δ) : WebEvent δ → Site δ
  | .request request draw effect => w.serve lib mfaRequired request draw effect
  | .expire keys =>
      { w with failures := fun key =>
          if key ∈ keys then 0 else w.failures key }

def Site.Step (mfaRequired : Bool) (w : Site δ) (event : WebEvent δ)
    (w' : Site δ) : Prop :=
  w.step lib mfaRequired event = w'

end HealthGrid.Mfa
