import AuthFoundation.Handlers
import AuthFoundation.Lib.Base64
import AuthFoundation.LocalState

set_option autoImplicit false

/-!
# The portal

The portal keeps login starts and local sessions in memory and asks the authentication service over
HTTP. A panic of a request answers nothing.

* `AppConfig`: a configuration that was checked.
* `parseCallbackQuery`, `fixedReferenceCookieFromHeaders`, …: what the handlers read of a request.
* `PortalOp`: clock, critical sections of the local state and the exchange request. A section that
  reads the clock under the lock is one operation with its reading.
* `login`, `callback`, `getMe`, `logout`: the handlers; `callbackRoute`: the route of callbacks.
* `portalMachine`: interleaved requests with background cleanups.
-/

namespace AuthFoundation

namespace Portal

open Text Interleave

/-! ## Configuration -/

inductive ConfigError where
  | missingEnvironment (name : String)
  | invalidEnvironment (name : String)
  deriving DecidableEq, Repr

def validateServiceId (value : String) : Except ConfigError Unit :=
  let bytes := utf8 value
  let valid := decide (1 ≤ bytes.length ∧ bytes.length ≤ 64) &&
    bytes.head?.any (fun byte => (97 ≤ byte && byte ≤ 122) || isDigit byte) &&
    bytes.all fun byte => (97 ≤ byte && byte ≤ 122) || isDigit byte || byte = 95 || byte = 45
  if valid then .ok () else .error (.invalidEnvironment "PORTAL_SERVICE_ID")

def validateServiceSecret (value : String) : Except ConfigError Unit :=
  if value ≠ "" then .ok () else .error (.invalidEnvironment "PORTAL_SERVICE_SECRET")

/-- Schemes and hosts of base URLs. -/
def IsBaseUrl (url : Url) : Prop :=
  (url.scheme = "http" ∨ url.scheme = "https") ∧ url.hostStr.isSome

instance (url : Url) : Decidable (IsBaseUrl url) := inferInstanceAs (Decidable (_ ∧ _))

def parseAuthFoundationBaseUrl [Crates] (value : String) : Except ConfigError Url :=
  match Crates.urlParse value with
  | some url => if IsBaseUrl url then .ok url
    else .error (.invalidEnvironment "PORTAL_AUTH_FOUNDATION_BASE_URL")
  | none => .error (.invalidEnvironment "PORTAL_AUTH_FOUNDATION_BASE_URL")

/-- **A configuration** whose values passed their checks. -/
structure AppConfig where
  serviceId : String
  serviceSecret : String
  authFoundationBaseUrl : Url
  loginStartCapacity : ℕ
  localSessionCapacity : ℕ
  serviceId_valid : validateServiceId serviceId = .ok ()
  serviceSecret_valid : validateServiceSecret serviceSecret = .ok ()
  baseUrl_valid : IsBaseUrl authFoundationBaseUrl
  loginStartCapacity_pos : 0 < loginStartCapacity
  localSessionCapacity_pos : 0 < localSessionCapacity

/-! ## Requests -/

def portalLoginContextCookieName : String := "__Host-portal_login_ctx"
def portalSessionCookieName : String := "__Host-portal_session"
def portalCsrfCookieName : String := "__Host-portal_csrf"

/-- The values of the `Cookie` and `X-CSRF-Token` headers, if they are visible ASCII. -/
structure HeaderMap where
  cookie : List (Option String)
  csrfToken : List (Option String)
  deriving DecidableEq

def isFixedReference (value : String) : Bool :=
  len value = 43 && (utf8 value).all fun byte =>
    isDigit byte || (65 ≤ byte && byte ≤ 90) || (97 ≤ byte && byte ≤ 122) || byte = 95 || byte = 45

/-- The loop over the cookies of one header, with the value found so far. -/
def findCookie (name : String) (value : Option String) :
    List (Except Unit (String × String)) → Except Unit (Option String)
  | [] => .ok value
  | .error () :: _ => .error ()
  | .ok cookie :: cookies =>
    if cookie.1 = name then
      if value.isSome || !isFixedReference cookie.2 then .error ()
      else findCookie name (some cookie.2) cookies
    else findCookie name value cookies

/-- `Option::ok_or`. -/
def okOr (value : Option String) : Except Unit String :=
  match value with
  | some value => .ok value
  | none => .error ()

def fixedReferenceCookieFromHeaders [Crates] (headers : HeaderMap) (name : String) :
    Except Unit String := do
  let value ← headers.cookie.foldlM (fun value header => match header with
    | none => .error ()
    | some header => findCookie name value (Crates.cookieSplitParse header)) none
  okOr value

def csrfHeaderFromHeaders (headers : HeaderMap) : Except Unit String :=
  match headers.csrfToken with
  | some value :: values =>
    if !values.isEmpty || !isFixedReference value then .error () else .ok value
  | _ => .error ()

/-- The query of a callback. -/
structure CallbackQuery where
  code : String
  state : String
  deriving DecidableEq

/-- One pair of the query, with the code and the state found so far. -/
def setParameter (query : Option String × Option String) (name value : String) :
    Except Unit (Option String × Option String) :=
  if name = "code" then
    if query.1.isSome || !isFixedReference value then .error () else .ok (some value, query.2)
  else if name = "state" then
    if query.2.isSome || !isFixedReference value then .error () else .ok (query.1, some value)
  else .error ()

def parseCallbackQuery (rawQuery : String) : Except Unit CallbackQuery := do
  let query ← (Form.parse rawQuery).foldlM (fun query pair => setParameter query pair.1 pair.2)
    (none, none)
  match query with
  | (some code, some state) => .ok ⟨code, state⟩
  | _ => .error ()

def loginContextFromCookieHeader [Crates] (cookieHeader : Option String) : Except Unit String :=
  match cookieHeader with
  | none => .error ()
  | some header => do
    let value ← findCookie portalLoginContextCookieName none (Crates.cookieSplitParse header)
    okOr value

/-! ## Responses -/

def loginContextCookie (value : String) : SetCookie :=
  ⟨portalLoginContextCookieName, value, true, none⟩

def portalSessionCookie (value : String) : SetCookie := ⟨portalSessionCookieName, value, true, none⟩

def portalCsrfCookie (value : String) : SetCookie := ⟨portalCsrfCookieName, value, false, none⟩

def deleteLoginContextCookie : SetCookie := ⟨portalLoginContextCookieName, "", true, some 0⟩

def deletePortalSessionCookie : SetCookie := ⟨portalSessionCookieName, "", true, some 0⟩

def deletePortalCsrfCookie : SetCookie := ⟨portalCsrfCookieName, "", false, some 0⟩

def appendCookie (response : HttpResponse) (cookie : SetCookie) : HttpResponse :=
  { response with setCookies := response.setCookies ++ [cookie] }

/-- Bytes that `HeaderValue::from_str` accepts. -/
def isHeaderByte (byte : UInt8) : Bool := (32 ≤ byte && byte ≠ 127) || byte = 9

/-- `none`: the location is no header value, which panics. -/
def redirectResponse (location : String) : Option HttpResponse :=
  if (utf8 location).all isHeaderByte then some (.found location) else none

/-! ## Messages to the authentication service -/

def authFoundationEndpoint (baseUrl : Url) (path : String) : Url :=
  { baseUrl with path := path, query := none, fragment := none }

/-- The redirect of a login. -/
def loginUrl (config : AppConfig) (created : CreatedLoginStart) : Url :=
  ((((authFoundationEndpoint config.authFoundationBaseUrl "/auth/login").appendPair
    "service_id" config.serviceId).appendPair
    "state" created.state).appendPair
    "code_challenge" created.codeChallenge).appendPair
    "code_challenge_method" "S256"

/-- `RequestBuilder::basic_auth`. -/
def basicAuth (username password : String) : String :=
  "Basic " ++ Base64.encode (utf8 (username ++ ":" ++ password))

/-! ## Operations -/

/-- What the handlers do with their surroundings. -/
inductive PortalOp where
  | unixEpochSeconds
  | createLoginStart (postLoginPath : String) (now : UInt64)
  | claimLoginStart (state browserContextReference : String) (now : UInt64)
  | exchange (authorization : String) (body : HandoffExchangeRequest)
  | createLocalSession (internalUserId : Int32) (authenticatedAt : UInt64)
  | getLocalSession (reference : String)
  | logoutLocked (sessionReference csrfCookie csrfHeader : String)
  deriving DecidableEq

/-- Their replies; where they read the clock, `none` stands for a time before the epoch, which
panics. An exchange returns the values of a response that is 200 and parses. -/
abbrev PortalReply : PortalOp → Type
  | .unixEpochSeconds => Option UInt64
  | .createLoginStart _ _ => Draws × Except LocalStateError CreatedLoginStart
  | .claimLoginStart _ _ _ => Except LocalStateError LoginStart
  | .exchange _ _ => Option (Int32 × UInt64)
  | .createLocalSession _ _ => Option (UInt64 × Draws × Except LocalStateError (String × String))
  | .getLocalSession _ => Option (UInt64 × Option LocalSession)
  | .logoutLocked _ _ _ => Option (UInt64 × Bool)

instance : ∀ o, DecidableEq (PortalReply o)
  | .unixEpochSeconds => inferInstanceAs (DecidableEq (Option UInt64))
  | .createLoginStart _ _ =>
    inferInstanceAs (DecidableEq (Draws × Except LocalStateError CreatedLoginStart))
  | .claimLoginStart _ _ _ => inferInstanceAs (DecidableEq (Except LocalStateError LoginStart))
  | .exchange _ _ => inferInstanceAs (DecidableEq (Option (Int32 × UInt64)))
  | .createLocalSession _ _ =>
    have : DecidableEq (Except LocalStateError (String × String)) := inferInstance
    inferInstanceAs (DecidableEq (Option (UInt64 × Draws × _)))
  | .getLocalSession _ => inferInstanceAs (DecidableEq (Option (UInt64 × Option LocalSession)))
  | .logoutLocked _ _ _ => inferInstanceAs (DecidableEq (Option (UInt64 × Bool)))

/-- Programs of the portal. -/
abbrev Handler (α : Type) := Prog PortalOp PortalReply α

/-! ## Handlers -/

section Handlers

variable [Crates] (config : AppConfig)

def login : Handler (Option HttpResponse) := do
  match ← Prog.ask PortalOp.unixEpochSeconds with
  | none => return none
  | some now =>
  match (← Prog.ask (PortalOp.createLoginStart "/" now)).2 with
  | .error .capacityReached => return some (.empty 503)
  | .error _ => return some (.empty 500)
  | .ok created =>
  match redirectResponse (Crates.urlToString (loginUrl config created)) with
  | none => return none
  | some response =>
    return some (appendCookie response (loginContextCookie created.browserContextReference))

/-- An answer that also deletes the login context. -/
def failed (status : ℕ) : HttpResponse := appendCookie (.empty status) deleteLoginContextCookie

def callback (rawQuery : String) (cookieHeader : Option String) :
    Handler (Option HttpResponse) := do
  match parseCallbackQuery rawQuery with
  | .error () => return some (.empty 400)
  | .ok query =>
  match loginContextFromCookieHeader cookieHeader with
  | .error () => return some (.empty 400)
  | .ok browserContextReference =>
  match ← Prog.ask PortalOp.unixEpochSeconds with
  | none => return none
  | some now =>
  match ← Prog.ask (PortalOp.claimLoginStart query.state browserContextReference now) with
  | .error .notFound => return some (.empty 400)
  | .error .expired => return some (.empty 400)
  | .error .browserContextMismatch => return some (.empty 400)
  | .error _ => return some (.empty 500)
  | .ok loginStart =>
  match ← Prog.ask (PortalOp.exchange (basicAuth config.serviceId config.serviceSecret)
      ⟨query.code, loginStart.codeVerifier⟩) with
  | none => return some (failed 502)
  | some (internalUserId, authenticatedAt) =>
  match ← Prog.ask (PortalOp.createLocalSession internalUserId authenticatedAt) with
  | none => return none
  | some (_, _, .error .capacityReached) => return some (failed 503)
  | some (_, _, .error _) => return some (failed 500)
  | some (_, _, .ok (sessionReference, csrfPlaintext)) =>
  match redirectResponse loginStart.postLoginPath with
  | none => return none
  | some response =>
    return some (appendCookie (appendCookie (appendCookie response
      (portalSessionCookie sessionReference)) (portalCsrfCookie csrfPlaintext))
      deleteLoginContextCookie)

def getMe (headers : HeaderMap) : Handler (Option HttpResponse) := do
  match fixedReferenceCookieFromHeaders headers portalSessionCookieName with
  | .error () => return some (.empty 401)
  | .ok reference =>
  match ← Prog.ask (PortalOp.getLocalSession reference) with
  | none => return none
  | some (_, none) => return some (.empty 401)
  | some (_, some session) => return some ⟨200, none, [], .me true session.internalUserId⟩

def logout (headers : HeaderMap) : Handler (Option HttpResponse) := do
  match fixedReferenceCookieFromHeaders headers portalSessionCookieName with
  | .error () => return some (.empty 403)
  | .ok sessionReference =>
  match fixedReferenceCookieFromHeaders headers portalCsrfCookieName with
  | .error () => return some (.empty 403)
  | .ok csrfCookie =>
  match csrfHeaderFromHeaders headers with
  | .error () => return some (.empty 403)
  | .ok csrfHeader =>
  match ← Prog.ask (PortalOp.logoutLocked sessionReference csrfCookie csrfHeader) with
  | none => return none
  | some (_, false) => return some (.empty 403)
  | some (_, true) =>
    return some (appendCookie (appendCookie (.empty 204) deletePortalSessionCookie)
      deletePortalCsrfCookie)

/-- `warp::header::optional::<String>("cookie")`: the first header of the name. -/
def HeaderMap.optionalCookie (headers : HeaderMap) : Except Unit (Option String) :=
  match headers.cookie with
  | [] => .ok none
  | none :: _ => .error ()
  | some header :: _ => .ok (some header)

/-- The route of callbacks; a rejection runs no handler. -/
def callbackRoute (rawQuery : String) (headers : HeaderMap) :
    Except Unit (Handler (Option HttpResponse)) := do
  return callback config rawQuery (← headers.optionalCookie)

end Handlers

/-- A request with its inputs. -/
inductive PortalRequest where
  | login
  | callback (rawQuery : String) (cookieHeader : Option String)
  | getMe (headers : HeaderMap)
  | logout (headers : HeaderMap)
  deriving DecidableEq

def PortalRequest.run [Crates] (config : AppConfig) : PortalRequest → Handler (Option HttpResponse)
  | login => Portal.login config
  | callback rawQuery cookieHeader => Portal.callback config rawQuery cookieHeader
  | getMe headers => Portal.getMe headers
  | logout headers => Portal.logout headers

/-! ## The machine -/

/-- What the surroundings choose when they answer. -/
inductive PortalAnswer where
  | clock (now : Option UInt64)
  | draws (draws : Draws)
  | ok
  | exchanged (values : Option (Int32 × UInt64))
  | locked (now : Option UInt64) (draws : Draws)

/-- **An operation.** A clock before the epoch panics under the lock, which changes nothing. -/
def exec [Crates] (s : PortalLocalState) (_ : ℕ) :
    (o : PortalOp) → PortalAnswer → Option (PortalReply o × PortalLocalState)
  | .unixEpochSeconds, .clock now => some (now, s)
  | .createLoginStart postLoginPath now, .draws draws =>
    (s.createLoginStart postLoginPath now draws).map fun x => ((draws, x.1), x.2)
  | .claimLoginStart state browserContextReference now, .ok =>
    some (s.claimLoginStart state browserContextReference now)
  | .exchange _ _, .exchanged values => some (values, s)
  | .createLocalSession internalUserId authenticatedAt, .locked (some now) draws =>
    (s.createLocalSession internalUserId authenticatedAt now draws).map fun x =>
      (some (now, draws, x.1), x.2)
  | .getLocalSession reference, .locked (some now) [] =>
    some ((fun x => (some (now, x.1), x.2)) (s.getLocalSession reference now))
  | .logoutLocked sessionReference csrfCookie csrfHeader, .locked (some now) [] =>
    some ((fun x => (some (now, x.1), x.2))
      (s.logoutLocked sessionReference csrfCookie csrfHeader now))
  | .createLocalSession _ _, .locked none [] => some (none, s)
  | .getLocalSession _, .locked none [] => some (none, s)
  | .logoutLocked _ _ _, .locked none [] => some (none, s)
  | _, _ => none

/-- **The local state as a machine**; on its own it cleans up. -/
def portalMachine [Crates] : Machine PortalLocalState PortalOp PortalReply PortalAnswer UInt64 where
  exec := exec
  env s now := some (s.cleanupExpired now)

end Portal

end AuthFoundation
