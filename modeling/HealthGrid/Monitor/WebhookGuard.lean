import HealthGrid.Foundation.Call
import HealthGrid.Foundation.PyText

/-!
# Where a webhook payload goes

`_post_webhook` checks the URL and every address that its host name, as
`urlsplit` finds it, resolves to.  urllib then takes the name to connect to from
the URL once more, in its own way, and resolves that one.  The two names may
differ, and so may the answers for one name.  No proxy is set.
-/

namespace HealthGrid.Monitor

open HealthGrid.Foundation HealthGrid.Foundation.PyText

inductive WebhookError where
  | valueError (message : String)
  | gaiError (message : String)
  | urlError (message : String)
  | invalidUrl (message : String)
  | httpError (status : Nat)
  deriving DecidableEq, Repr

inductive WebhookResponse where
  | success (status : Nat)
  | redirect (status : Nat) (newUrl : String)
  | failure (status : Nat)
  deriving DecidableEq, Repr

/--
What the standard library and the network answer.  `acceptsNetloc` are the
checks of `urlsplit` on bracketed hosts and on normalised characters, `lower` is
`str.lower`, `decode` is `bytes.decode("utf-8", "replace")`, and `isPort` says
that `int` takes a text.  `getaddrinfo` numbers the look-ups.  An address is
reachable when a connection to it can be made on the URL's port, and `handshake`
says that TLS and the request line stand, so that the payload goes out.
-/
structure WebhookNet (Address : Type) where
  acceptsNetloc : String → Bool
  lower : String → String
  decode : List Nat → String
  isPort : String → Bool
  getaddrinfo : Nat → String → Except String (List Address)
  isPrivate : Address → Bool
  isLoopback : Address → Bool
  isLinkLocal : Address → Bool
  isReserved : Address → Bool
  isMulticast : Address → Bool
  reachable : String → Address → Bool
  handshake : String → Address → Bool
  respond : String → Address → WebhookResponse

/-! ## URLs -/

structure SplitResult where
  scheme : String
  netloc : List Char
  deriving DecidableEq, Repr

def isSchemeChar (c : Char) : Bool :=
  c.isAlphanum || c == '+' || c == '-' || c == '.'

def splitScheme (text : List Char) : String × List Char :=
  match partition ':' text with
  | (front, some rest) =>
      if front.head?.any Char.isAlpha && front.all isSchemeChar then
        (String.ofList (front.map Char.toLower), rest)
      else ("", text)
  | (_, none) => ("", text)

def splitNetloc : List Char → List Char
  | '/' :: '/' :: rest =>
      rest.takeWhile fun c => c != '/' && c != '?' && c != '#'
  | _ => []

def urlsplit (acceptsNetloc : String → Bool) (url : String) :
    Except WebhookError SplitResult :=
  let text := (url.toList.dropWhile fun c => c.toNat ≤ 32).filter fun c =>
    c != '\t' && c != '\r' && c != '\n'
  let (scheme, rest) := splitScheme text
  let netloc := splitNetloc rest
  if netloc.contains '[' != netloc.contains ']' then
    .error (.valueError "Invalid IPv6 URL")
  else if !acceptsNetloc (String.ofList netloc) then
    .error (.valueError "netloc contains invalid characters")
  else .ok ⟨scheme, netloc⟩

namespace SplitResult

variable (parts : SplitResult)

def username : List Char :=
  match (rpartition '@' parts.netloc).1 with
  | some userinfo => (partition ':' userinfo).1
  | none => []

def password : List Char :=
  match (rpartition '@' parts.netloc).1 with
  | some userinfo => (partition ':' userinfo).2.getD []
  | none => []

/-- A zone after `%` keeps its case. -/
def hostname (lower : String → String) : String :=
  let hostinfo := (rpartition '@' parts.netloc).2
  let host :=
    match partition '[' hostinfo with
    | (_, some bracketed) => (partition ']' bracketed).1
    | (_, none) => (partition ':' hostinfo).1
  match partition '%' host with
  | (host, some zone) =>
      lower (String.ofList host) ++ "%" ++ String.ofList zone
  | (host, none) => lower (String.ofList host)

end SplitResult

/-! ## The allow-list -/

/-- `item.lstrip("*.")` -/
def baseDomain (item : String) : String :=
  String.ofList (item.toList.dropWhile fun c => c == '*' || c == '.')

def hostAllowed (allowed : List String) (hostname : String) : Bool :=
  allowed.any fun item =>
    hostname == item || endsWith hostname ("." ++ baseDomain item)

def SubdomainOf (hostname item : String) : Prop :=
  ∃ front, hostname = front ++ "." ++ baseDomain item

theorem hostAllowed_iff {allowed : List String} {hostname : String} :
    hostAllowed allowed hostname = true ↔
      ∃ item ∈ allowed, hostname = item ∨ SubdomainOf hostname item := by
  simp only [hostAllowed, List.any_eq_true, Bool.or_eq_true, beq_iff_eq,
    endsWith_iff, SubdomainOf, String.append_assoc]

/-! ## The name that urllib connects to -/

def unwrap (url : List Char) : List Char :=
  let url := strip url
  let url :=
    if url.head? = some '<' ∧ url.getLast? = some '>' then
      strip (url.drop 1).dropLast
    else url
  if url.take 4 = "URL:".toList then strip (url.drop 4) else url

/-- `_splittag`, of which the text before the last `#` is kept. -/
def withoutTag (url : List Char) : List Char :=
  (rpartition '#' url).1.getD url

/-- `_splittype`, by the pattern `([^/:]+):(.*)`. -/
def splitType (url : List Char) : Option (List Char × List Char) :=
  match url.span fun c => c != '/' && c != ':' with
  | (type, ':' :: rest) => if type = [] then none else some (type, rest)
  | _ => none

def hexValue? (c : Char) : Option Nat :=
  if c.isDigit then some (c.toNat - '0'.toNat)
  else if 'a' ≤ c ∧ c ≤ 'f' then some (c.toNat - 'a'.toNat + 10)
  else if 'A' ≤ c ∧ c ≤ 'F' then some (c.toNat - 'A'.toNat + 10)
  else none

/-- Of an ASCII text; a `%` without two digits after it stands for itself. -/
def unquoteToBytes : List Char → List Nat
  | '%' :: high :: low :: rest =>
      match hexValue? high, hexValue? low with
      | some high, some low => (16 * high + low) :: unquoteToBytes rest
      | _, _ => '%'.toNat :: unquoteToBytes (high :: low :: rest)
  | c :: rest => c.toNat :: unquoteToBytes rest
  | [] => []

/-- Each run of ASCII characters is decoded by itself. -/
def unquote (decode : List Nat → String) (text : List Char) : List Char :=
  if '%' ∉ text then text
  else
    let isAscii (c : Char) : Bool := c.toNat < 128
    (text.splitBy fun c c' => isAscii c == isAscii c').flatMap fun part =>
      if part.all isAscii then (decode (unquoteToBytes part)).toList else part

/-- `_get_hostport`, of which the host is kept. -/
def hostWithoutPort (isPort : String → Bool) (host : List Char) :
    Except WebhookError (List Char) :=
  let unbracket (host : List Char) : List Char :=
    if host.head? = some '[' ∧ host.getLast? = some ']' then
      (host.drop 1).dropLast
    else host
  match rpartition ':' host with
  | (some front, port) =>
      if ']' ∈ port then .ok (unbracket host)
      else if port != [] && !isPort (String.ofList port) then
        .error (.invalidUrl s!"nonnumeric port: '{String.ofList port}'")
      else .ok (unbracket front)
  | (none, _) => .ok (unbracket host)

def validateHost (host : List Char) : Except WebhookError Unit :=
  if host.any fun c => c.toNat ≤ 32 || c.toNat == 127 then
    .error (.invalidUrl "URL can't contain control characters.")
  else .ok ()

/--
From `Request(url)` to the host of its `HTTPSConnection`.  The authority is
percent-decoded and keeps its case, a trailing dot and a user part; the text that
`urlsplit` reads the host from is not.
-/
def requestName {Address : Type} (net : WebhookNet Address) (url : String) :
    Except WebhookError String := do
  let text := unwrap url.toList
  let (type, rest) ←
    match splitType (withoutTag text) with
    | some parts => pure parts
    | none => throw (.valueError s!"unknown url type: '{String.ofList text}'")
  -- `request_host` parses the URL for the cookie policy
  let _ ← urlsplit net.acceptsNetloc (String.ofList text)
  -- a URL that `urlsplit` takes for https has no other type that is known
  if net.lower (String.ofList type) != "https" then
    throw (.urlError s!"unknown url type: {String.ofList type}")
  let host := unquote net.decode (splitNetloc rest)
  if host = [] then
    throw (.urlError "no host given")
  let host ← hostWithoutPort net.isPort host
  validateHost host
  pure (String.ofList host)

/-! ## The call -/

section Call

variable {Address : Type} (net : WebhookNet Address)

def WebhookNet.blocked (address : Address) : Bool :=
  net.isPrivate address || net.isLoopback address ||
    net.isLinkLocal address || net.isReserved address ||
    net.isMulticast address

/-- `parts.hostname.lower().rstrip(".")` -/
def lookupName (parts : SplitResult) : String :=
  String.ofList ((net.lower (parts.hostname net.lower)).toList.rdropWhile
    (· == '.'))

def webhookHost (allowed : List String) (webhookUrl : String) :
    Except WebhookError String := do
  let parts ← urlsplit net.acceptsNetloc webhookUrl
  if parts.scheme != "https" || parts.hostname net.lower == "" ||
      parts.username != [] || parts.password != [] then
    throw (.valueError
      "Webhook URL must be an HTTPS URL without embedded credentials")
  if allowed != [] && !hostAllowed allowed (lookupName net parts) then
    throw (.valueError "Webhook hostname is not in WEBHOOK_ALLOWED_HOSTS")
  pure (lookupName net parts)

structure Sent (Address : Type) where
  url : String
  address : Address
  deriving DecidableEq, Repr

def WebhookNet.connect (lookup : Nat) (url hostname : String) :
    Except WebhookError Address :=
  match net.getaddrinfo lookup hostname with
  | .error message => .error (.urlError message)
  | .ok addresses =>
      match addresses.find? (net.reachable url) with
      | none => .error (.urlError "no address could be connected to")
      | some address =>
          if net.handshake url address then .ok address
          else .error (.urlError "the TLS handshake failed")

/-- `redirect_request` of the handler that is installed. -/
def noRedirectHandler (_ : String) : Except WebhookError (Option String) :=
  .error (.valueError "Webhook redirects are not permitted")

/-- `opener.open`, which sends what the redirect handler returns again. -/
def openRequest
    (redirectRequest : String → Except WebhookError (Option String)) :
    Nat → Nat → String → List (Sent Address) × Except WebhookError Bool
  | 0, _, _ => ([], .error (.urlError "too many redirects"))
  | redirections + 1, lookup, url =>
      match requestName net url with
      | .error e => ([], .error e)
      | .ok hostname =>
          match net.connect lookup url hostname with
          | .error e => ([], .error e)
          | .ok address =>
              match net.respond url address with
              | .success status =>
                  ([⟨url, address⟩],
                    .ok (decide (200 ≤ status ∧ status < 300)))
              | .failure status =>
                  ([⟨url, address⟩], .error (.httpError status))
              | .redirect status newUrl =>
                  match redirectRequest newUrl with
                  | .error e => ([⟨url, address⟩], .error e)
                  | .ok none => ([⟨url, address⟩], .error (.httpError status))
                  | .ok (some next) =>
                      let (later, result) := openRequest redirectRequest
                        redirections (lookup + 1) next
                      (⟨url, address⟩ :: later, result)

def maxRedirections : Nat := 10

def postWebhook (allowed : List String) (webhookUrl : String) :
    List (Sent Address) × Except WebhookError Bool :=
  match webhookHost net allowed webhookUrl with
  | .error e => ([], .error e)
  | .ok hostname =>
      match net.getaddrinfo 0 hostname with
      | .error message => ([], .error (.gaiError message))
      | .ok addresses =>
          if addresses.any net.blocked then
            ([], .error (.valueError
              "Webhook destination resolves to a private or reserved address"))
          else
            openRequest net noRedirectHandler (maxRedirections + 1) 1 webhookUrl

/-! ## What is sent -/

variable {net} {allowed : List String} {webhookUrl hostname : String}

structure Guarded (net : WebhookNet Address) (allowed : List String)
    (webhookUrl : String) (sent : Sent Address) : Prop where
  parts : ∃ parts, urlsplit net.acceptsNetloc webhookUrl = .ok parts ∧
    parts.scheme = "https" ∧ parts.username = [] ∧ parts.password = [] ∧
    (allowed = [] ∨ ∃ item ∈ allowed, lookupName net parts = item ∨
      SubdomainOf (lookupName net parts) item)
  address : net.isPrivate sent.address = false ∧
    net.isLoopback sent.address = false ∧
    net.isLinkLocal sent.address = false ∧
    net.isReserved sent.address = false ∧ net.isMulticast sent.address = false
  notRedirected : sent.url = webhookUrl

def PostGuarded (net : WebhookNet Address) (allowed : List String)
    (webhookUrl : String) : Prop :=
  (postWebhook net allowed webhookUrl).1.length ≤ 1 ∧
    ∀ sent ∈ (postWebhook net allowed webhookUrl).1,
      Guarded net allowed webhookUrl sent

/--
The check finds allowed addresses only, and the connection another one: the name
that urllib connects to is not the one checked, or its addresses have changed.
-/
structure Rebinds (net : WebhookNet Address) (webhookUrl hostname : String) :
    Prop where
  checked : ∃ addresses, net.getaddrinfo 0 hostname = .ok addresses ∧
    ∀ address ∈ addresses, net.blocked address = false
  connected : ∃ name addresses address, requestName net webhookUrl = .ok name ∧
    net.getaddrinfo 1 name = .ok addresses ∧
    addresses.find? (net.reachable webhookUrl) = some address ∧
    net.handshake webhookUrl address = true ∧ net.blocked address = true

theorem webhookHost_eq_ok :
    webhookHost net allowed webhookUrl = .ok hostname ↔
      ∃ parts, urlsplit net.acceptsNetloc webhookUrl = .ok parts ∧
        parts.scheme = "https" ∧ parts.hostname net.lower ≠ "" ∧
        parts.username = [] ∧ parts.password = [] ∧
        (allowed = [] ∨ hostAllowed allowed hostname = true) ∧
        lookupName net parts = hostname := by
  unfold webhookHost
  cases urlsplit net.acceptsNetloc webhookUrl with
  | error e => simp [bind, Except.bind]
  | ok parts =>
      simp only [bind, Except.bind, Except.ok.injEq, exists_eq_left']
      split
      · rename_i hrefused
        simp only [Bool.or_eq_true, bne_iff_ne, beq_iff_eq] at hrefused
        constructor
        · nofun
        · rintro ⟨hscheme, hname, husername, hpassword, -⟩
          simp [hscheme, hname, husername, hpassword] at hrefused
      · rename_i hurl
        simp only [Bool.or_eq_true, bne_iff_ne, beq_iff_eq, not_or,
          not_not] at hurl
        obtain ⟨⟨⟨hscheme, hname⟩, husername⟩, hpassword⟩ := hurl
        split
        · rename_i hlist
          simp only [Bool.and_eq_true, bne_iff_ne, Bool.not_eq_true'] at hlist
          constructor
          · nofun
          · rintro ⟨-, -, -, -, hallowed | hallowed, rfl⟩
            · exact absurd hallowed hlist.1
            · simp [hlist.2] at hallowed
        · rename_i hlist
          simp only [Bool.and_eq_true, bne_iff_ne, Bool.not_eq_true', not_and,
            Bool.not_eq_false] at hlist
          constructor
          · intro h
            obtain rfl := Except.ok.inj h
            exact ⟨hscheme, hname, husername, hpassword,
              or_iff_not_imp_left.mpr hlist, rfl⟩
          · rintro ⟨-, -, -, -, -, rfl⟩
            rfl

theorem connect_eq_ok {lookup : Nat} {url : String} {address : Address} :
    net.connect lookup url hostname = .ok address ↔
      ∃ addresses, net.getaddrinfo lookup hostname = .ok addresses ∧
        addresses.find? (net.reachable url) = some address ∧
        net.handshake url address = true := by
  unfold WebhookNet.connect
  cases net.getaddrinfo lookup hostname with
  | error message => simp
  | ok addresses =>
      cases hfind : addresses.find? (net.reachable url) with
      | none => simp [hfind]
      | some found =>
          simp only [Except.ok.injEq, exists_eq_left', hfind,
            Option.some.injEq]
          split
          · rename_i hshake
            simp only [Except.ok.injEq]
            exact ⟨fun h => ⟨h, h ▸ hshake⟩, And.left⟩
          · rename_i hshake
            simp only [reduceCtorEq, false_iff]
            rintro ⟨rfl, h⟩
            exact hshake h

def sentTo (url : String) :
    Except WebhookError Address → List (Sent Address)
  | .error _ => []
  | .ok address => [⟨url, address⟩]

theorem openRequest_sent (redirections : Nat) :
    (openRequest net noRedirectHandler (redirections + 1) 1 webhookUrl).1 =
      sentTo webhookUrl (requestName net webhookUrl >>=
        net.connect 1 webhookUrl) := by
  unfold openRequest
  cases requestName net webhookUrl with
  | error e => rfl
  | ok name =>
      have hbind : (Except.ok name >>= net.connect 1 webhookUrl) =
          net.connect 1 webhookUrl name := rfl
      rw [hbind]
      dsimp only
      cases net.connect 1 webhookUrl name with
      | error e => rfl
      | ok address =>
          dsimp only
          cases net.respond webhookUrl address <;> rfl

theorem postWebhook_sent {addresses : List Address}
    (hhost : webhookHost net allowed webhookUrl = .ok hostname)
    (hlookup : net.getaddrinfo 0 hostname = .ok addresses)
    (hchecked : ∀ address ∈ addresses, net.blocked address = false) :
    (postWebhook net allowed webhookUrl).1 =
      sentTo webhookUrl (requestName net webhookUrl >>=
        net.connect 1 webhookUrl) := by
  have hany : addresses.any net.blocked = false := by
    simpa using hchecked
  unfold postWebhook
  rw [hhost]
  dsimp only
  rw [hlookup]
  dsimp only
  rw [hany, if_neg Bool.false_ne_true]
  exact openRequest_sent maxRedirections

theorem checked_of_sent {sent : Sent Address}
    (hsent : sent ∈ (postWebhook net allowed webhookUrl).1) :
    ∃ hostname addresses, webhookHost net allowed webhookUrl = .ok hostname ∧
      net.getaddrinfo 0 hostname = .ok addresses ∧
      ∀ address ∈ addresses, net.blocked address = false := by
  unfold postWebhook at hsent
  cases hhost : webhookHost net allowed webhookUrl with
  | error e => simp [hhost] at hsent
  | ok hostname =>
      simp only [hhost] at hsent
      cases hlookup : net.getaddrinfo 0 hostname with
      | error message => simp [hlookup] at hsent
      | ok addresses =>
          simp only [hlookup] at hsent
          split at hsent
          · simp at hsent
          · rename_i hany
            exact ⟨hostname, addresses, rfl, hlookup, by simpa using hany⟩

theorem blocked_eq_false {address : Address} :
    net.blocked address = false ↔
      net.isPrivate address = false ∧ net.isLoopback address = false ∧
        net.isLinkLocal address = false ∧ net.isReserved address = false ∧
        net.isMulticast address = false := by
  simp only [WebhookNet.blocked, Bool.or_eq_false_iff, and_assoc]

/--
A payload goes where it may, unless the name of an accepted URL has other
addresses for the check than the name that urllib takes from the URL has for the
connection.
-/
theorem webhook_guarded (net : WebhookNet Address) (allowed : List String)
    (webhookUrl : String) :
    PostGuarded net allowed webhookUrl ↔
      ¬ ∃ hostname, webhookHost net allowed webhookUrl = .ok hostname ∧
        Rebinds net webhookUrl hostname := by
  constructor
  · rintro ⟨-, hguarded⟩ ⟨hostname, hhost, hrebinds⟩
    obtain ⟨addresses, hlookup, hchecked⟩ := hrebinds.checked
    obtain ⟨name, answers, address, hname, hagain, hfind, hshake, hblocked⟩ :=
      hrebinds.connected
    have hconnect := connect_eq_ok.mpr ⟨answers, hagain, hfind, hshake⟩
    have hsent := postWebhook_sent hhost hlookup hchecked
    have hbind : (Except.ok name >>= net.connect 1 webhookUrl) =
        .ok address := hconnect
    rw [hname, hbind] at hsent
    have haddress :=
      (hguarded ⟨webhookUrl, address⟩ (by simp [hsent, sentTo])).address
    rw [blocked_eq_false.mpr haddress] at hblocked
    cases hblocked
  · intro hsteady
    have hall : ∀ sent ∈ (postWebhook net allowed webhookUrl).1,
        Guarded net allowed webhookUrl sent ∧
          (postWebhook net allowed webhookUrl).1 = [sent] := by
      intro sent hmem
      obtain ⟨hostname, addresses, hhost, hlookup, hchecked⟩ :=
        checked_of_sent hmem
      obtain ⟨parts, hparts, hscheme, -, husername, hpassword, hlist, rfl⟩ :=
        webhookHost_eq_ok.mp hhost
      have hsent := postWebhook_sent hhost hlookup hchecked
      cases hopened : requestName net webhookUrl >>=
          net.connect 1 webhookUrl with
      | error e => simp [hsent, hopened, sentTo] at hmem
      | ok address =>
          rw [hopened] at hsent
          obtain rfl : sent = ⟨webhookUrl, address⟩ := by
            simpa [hsent, sentTo] using hmem
          refine ⟨⟨⟨parts, hparts, hscheme, husername, hpassword, ?_⟩, ?_, rfl⟩,
            hsent⟩
          · exact hlist.imp_right hostAllowed_iff.mp
          · rw [← blocked_eq_false, ← Bool.not_eq_true]
            intro hblocked
            obtain ⟨name, hname, hconnect⟩ := of_bind_eq_ok hopened
            obtain ⟨answers, hagain, hfind, hshake⟩ := connect_eq_ok.mp hconnect
            exact hsteady ⟨_, hhost, ⟨addresses, hlookup, hchecked⟩,
              name, answers, address, hname, hagain, hfind, hshake, hblocked⟩
    refine ⟨?_, fun sent hmem => (hall sent hmem).1⟩
    cases hposts : (postWebhook net allowed webhookUrl).1 with
    | nil => simp
    | cons sent rest =>
        have hone := (hall sent (by simp [hposts])).2
        rw [hposts] at hone
        simp [hone]

end Call

/-! ## A name that moves to the loopback address -/

/-- The predicates are right for the two addresses that are answered. -/
def reboundNet : WebhookNet String where
  acceptsNetloc _ := true
  lower := String.toLower
  decode bytes := String.ofList (bytes.map Char.ofNat)
  isPort text := (digits? text.toList).isSome
  getaddrinfo lookup _ :=
    .ok [if lookup = 0 then "93.184.216.34" else "127.0.0.1"]
  isPrivate address := startsWith address "127." || startsWith address "10."
  isLoopback address := startsWith address "127."
  isLinkLocal address := startsWith address "169.254."
  isReserved _ := false
  isMulticast _ := false
  reachable _ _ := true
  handshake _ _ := true
  respond _ _ := .success 202

/-- The name that is checked keeps the escape, the one connected to does not. -/
example : webhookHost reboundNet [] "https://a%2eb.example.com/x" =
      .ok "a%2eb.example.com" ∧
    requestName reboundNet "https://a%2eb.example.com/x" =
      .ok "a.b.example.com" := by
  decide +kernel

theorem rebound_payload_sent :
    postWebhook reboundNet ["*.example.com"] "https://hooks.example.com/flow" =
        ([⟨"https://hooks.example.com/flow", "127.0.0.1"⟩], .ok true) ∧
      ¬ PostGuarded reboundNet ["*.example.com"]
        "https://hooks.example.com/flow" := by
  have hsent : postWebhook reboundNet ["*.example.com"]
      "https://hooks.example.com/flow" =
        ([⟨"https://hooks.example.com/flow", "127.0.0.1"⟩], .ok true) := by
    decide +kernel
  refine ⟨hsent, fun hguarded => ?_⟩
  have haddress := (hguarded.2 ⟨"https://hooks.example.com/flow", "127.0.0.1"⟩
    (by simp [hsent])).address
  exact absurd haddress.2.1 (by decide +kernel)

end HealthGrid.Monitor
