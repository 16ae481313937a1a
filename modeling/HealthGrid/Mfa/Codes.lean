import HealthGrid.Foundation.CodeBook
import HealthGrid.Models

/-!
# Authenticator and recovery codes

The verification half of `monitor/mfa.py`: a submitted code is first tried as
an authenticator code, then as a recovery code, which it uses up.
-/

namespace HealthGrid.Mfa

open HealthGrid.Foundation

structure UserMFA where
  enabled : Bool
  secretEncrypted : String
  backupCodes : List String
  deriving DecidableEq, Repr

/--
Unicode tables, the authenticator check for a stored secret at a time, and the
password hasher.
-/
structure MfaLibrary where
  isDigit : Char → Bool
  upper : String → String
  totpVerify : String → Time → String → Bool
  checkPassword : String → String → Bool

variable (lib : MfaLibrary) (profile : UserMFA)

/-- `code.replace(" ", "").strip()` -/
def compact (code : String) : String :=
  PyText.stripText (String.ofList (code.toList.filter (· ≠ ' ')))

/-- `str.isdigit` -/
def isDigitText (text : String) : Bool :=
  text ≠ "" && text.toList.all lib.isDigit

def verifyTotp (code : String) (now : Time) : Bool :=
  if profile.secretEncrypted = "" then false
  else if !isDigitText lib (compact code) || (compact code).length ≠ 6 then
    false
  else lib.totpVerify profile.secretEncrypted now (compact code)

def recoveryCandidate (code : String) : String := lib.upper (compact code)

def consumeBackupCode (code : String) : Option UserMFA :=
  let candidate := recoveryCandidate lib code
  if candidate = "" || profile.backupCodes = [] then none
  else
    (profile.backupCodes.findIdx? (lib.checkPassword candidate)).map
      fun index =>
        { profile with backupCodes := profile.backupCodes.eraseIdx index }

inductive Verdict where
  | authenticator
  | recovery (saved : UserMFA)
  | refused
  deriving DecidableEq, Repr

def verifyCode (code : String) (allowBackup : Bool) (now : Time) : Verdict :=
  if verifyTotp lib profile code now then .authenticator
  else if allowBackup then
    match consumeBackupCode lib profile code with
    | some saved => .recovery saved
    | none => .refused
  else .refused

inductive VerifyRequest where
  /-- `mfa_verify`, of a user who has given the password -/
  | login (code : String)
  /-- `require_mfa_for_action` -/
  | action (code : String)
  deriving DecidableEq, Repr

def VerifyRequest.submitted (request : VerifyRequest) : Option String :=
  match request with
  | .login code => some code
  | .action code =>
      let code := PyText.stripText code
      if profile.enabled && code ≠ "" then some code else none

variable {lib profile}

theorem consumeBackupCode_eq_some {code : String} {saved : UserMFA}
    (h : consumeBackupCode lib profile code = some saved) :
    profile.backupCodes.any (lib.checkPassword (recoveryCandidate lib code)) =
        true ∧
      saved.backupCodes = profile.backupCodes.eraseP
        (lib.checkPassword (recoveryCandidate lib code)) := by
  unfold consumeBackupCode at h
  dsimp only at h
  split at h
  · cases h
  · obtain ⟨index, hindex, rfl⟩ := Option.map_eq_some_iff.mp h
    constructor
    · rw [← List.findIdx?_isSome, hindex]
      rfl
    · rw [List.eraseP_eq_eraseIdx, hindex]

end HealthGrid.Mfa
