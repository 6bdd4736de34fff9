import AuthFoundation.Lib.Form
import AuthFoundation.Postgres
import AuthFoundation.RedisState

set_option autoImplicit false

/-!
# The handlers of the authentication service

* `HttpRequest`, `HttpResponse`: what the handlers read of a request, and what they answer.
* `login`, `googleAuthCallback`, `exchangeAuthHandoff`, `logoutGet`, `logoutPost`: the handlers.
* `Request`: a request with its parsed query, form or body; `Request.run` handles it.
-/

namespace AuthFoundation

open Text

/-! ## URLs -/

namespace Url

/-- `query_pairs_mut().append_pair(…)`; an absent query becomes an empty one first. -/
def appendPair (url : Url) (name value : String) : Url :=
  { url with query := some (Form.appendPair (url.query.getD "") name value) }

/-- `set_query(None)`. -/
def clearQuery (url : Url) : Url := { url with query := none }

/-- The decoded query. -/
def queryPairs (url : Url) : List (String × String) := Form.parse (url.query.getD "")

@[simp] theorem queryPairs_appendPair (url : Url) (name value : String) :
    (url.appendPair name value).queryPairs = url.queryPairs ++ [(name, value)] :=
  Form.parse_appendPair _ name value

end Url

def validCallbackUrl [Crates] (callbackUri : String) : Option Url := do
  let url ← Crates.urlParse callbackUri
  if (url.scheme = "http" ∨ url.scheme = "https") ∧ url.hostStr.isSome then some url else none

/-! ## Requests and responses -/

/-- The values of the `Authorization` header, if they are visible ASCII, and the cookies. -/
structure HttpRequest where
  authorization : List (Option String)
  cookies : List (String × String)
  deriving DecidableEq

def HttpRequest.cookie (request : HttpRequest) (name : String) : Option String :=
  request.cookies.lookup name

/-- A cookie for path `/` that is secure and same-site lax. -/
structure SetCookie where
  name : String
  value : String
  httpOnly : Bool
  maxAge : Option ℕ
  deriving DecidableEq

inductive Body where
  | empty
  | handoffExchangeResponse (internalUserId : Int32) (authenticatedAt : UInt64)
  | me (authenticated : Bool) (internalUserId : Int32)
  | html (text : String)
  deriving DecidableEq

structure HttpResponse where
  status : ℕ
  location : Option String
  setCookies : List SetCookie
  body : Body
  deriving DecidableEq

namespace HttpResponse

/-- A response without headers and body. -/
def empty (status : ℕ) : HttpResponse := ⟨status, none, [], .empty⟩

def found (location : String) : HttpResponse := ⟨302, some location, [], .empty⟩

end HttpResponse

def authSessionCookieName : String := "__Host-auth_session"

def buildDeletedCommonAuthCookie : SetCookie := ⟨authSessionCookieName, "", true, some 0⟩

/-- `str::strip_prefix`. -/
def stripPrefix (s p : String) : Option String :=
  if p.toList <+: s.toList then some (String.ofList (s.toList.drop p.toList.length)) else none

/-- `str::split_once`. -/
def splitOnce (s : String) (c : Char) : Option (String × String) :=
  match s.toList.span (· ≠ c) with
  | (_, []) => none
  | (left, _ :: right) => some (String.ofList left, String.ofList right)

theorem stripPrefix_append (p s : String) : stripPrefix (p ++ s) p = some s := by
  unfold stripPrefix
  rw [String.toList_append, if_pos (List.prefix_append _ _), List.drop_left,
    String.ofList_toList]

theorem splitOnce_append {a : String} (b : String) {c : Char} (h : c ∉ a.toList) :
    splitOnce (a ++ String.ofList [c] ++ b) c = some (a, b) := by
  have hs : (a ++ String.ofList [c] ++ b).toList = a.toList ++ c :: b.toList := by simp
  have ha : ∀ x ∈ a.toList, decide (x ≠ c) = true := by
    intro x hx
    rw [decide_eq_true_eq]
    rintro rfl
    exact h hx
  have hspan : (a.toList ++ c :: b.toList).span (fun x => decide (x ≠ c)) =
      (a.toList, c :: b.toList) := by
    rw [List.span_eq_takeWhile_dropWhile, List.takeWhile_append_of_pos ha,
      List.dropWhile_append_of_pos ha]
    simp
  unfold splitOnce
  rw [hs, hspan]
  simp only [String.ofList_toList]

theorem stripPrefix_eq_some {s p t : String} : stripPrefix s p = some t ↔ s = p ++ t := by
  refine ⟨fun h => ?_, fun h => h ▸ stripPrefix_append p t⟩
  unfold stripPrefix at h
  split_ifs at h with hp
  cases h
  apply String.toList_injective
  rw [String.toList_append, String.toList_ofList, ← List.prefix_iff_eq_append.mp hp]
  simp

theorem splitOnce_eq_some {s a b : String} {c : Char} : splitOnce s c = some (a, b) ↔
    s = a ++ String.ofList [c] ++ b ∧ c ∉ a.toList := by
  refine ⟨fun h => ?_, fun ⟨h, hc⟩ => h ▸ splitOnce_append b hc⟩
  unfold splitOnce at h
  rw [List.span_eq_takeWhile_dropWhile] at h
  split at h
  · cases h
  · rename_i l d r hs
    cases h
    obtain ⟨rfl, hd⟩ := Prod.mk.inj hs
    have hdc : d = c := by
      have := List.head?_dropWhile_not (fun x => decide (x ≠ c)) s.toList
      rw [hd] at this
      simpa using this
    subst hdc
    refine ⟨?_, fun hm => ?_⟩
    · apply String.toList_injective
      have := List.takeWhile_append_dropWhile (p := fun x => decide (x ≠ d)) (l := s.toList)
      rw [hd] at this
      simpa using this.symm
    · rw [String.toList_ofList] at hm
      have := List.all_takeWhile (p := fun x => decide (x ≠ d)) (l := s.toList)
      have hd := List.all_eq_true.mp this _ hm
      simp at hd

def basicCredentials [Crates] (request : HttpRequest) : Option (String × String) :=
  match request.authorization with
  | [some value] =>
    if authorizationHeaderMaxBytes < len value then none
    else do
      let encoded ← stripPrefix value "Basic "
      let decoded ← Crates.base64Decode encoded
      let decoded ← text? decoded
      let (serviceId, serviceSecret) ← splitOnce decoded ':'
      if serviceId ≠ "" then some (serviceId, serviceSecret) else none
  | _ => none

structure LoginQuery where
  serviceId : String
  state : String
  codeChallenge : String
  codeChallengeMethod : String
  deriving DecidableEq

def loginInputIsValid (query : LoginQuery) : Bool :=
  (validateServiceId query.serviceId).isOk && query.state ≠ "" &&
    (validateMaxBytes query.state serviceStateMaxBytes).isOk &&
    (validateFixedReferenceValue query.codeChallenge).isOk && query.codeChallengeMethod = "S256"

structure CallbackQuery where
  code : String
  state : String
  deriving DecidableEq

structure HandoffExchangeRequest where
  code : String
  codeVerifier : String
  deriving DecidableEq

structure LogoutForm where
  logoutReference : String
  csrfToken : String
  deriving DecidableEq

/-! ## Login -/

structure GoogleAuthorizationConfig where
  clientId : String
  redirectUri : String

section Handlers

variable [Crates] (googleConfig : GoogleAuthorizationConfig)

def startGoogleLogin (query : LoginQuery) (now : UInt64) : Service HttpResponse := do
  match ← generateReferenceValue with
  | .error _ => return .empty 503
  | .ok oauthState =>
  let authorizationUrl :=
    Crates.authorizeUrl googleConfig.clientId googleConfig.redirectUri oauthState
  match checkedExpiresAt now externalAuthTransactionTtlSeconds with
  | .error _ => return .empty 503
  | .ok expiresAt =>
  let transaction : ExternalAuthTransaction :=
    { serviceId := query.serviceId
      serviceState := query.state
      handoffCodeChallenge := query.codeChallenge
      provider := "google"
      providerVerificationData := ""
      createdAt := now
      expiresAt
      status := .waiting }
  match ← writeExternal oauthState transaction now with
  | .error _ => return .empty 503
  | .ok () => return .found authorizationUrl

def login (request : HttpRequest) (query : LoginQuery) : Service HttpResponse := do
  if !loginInputIsValid query then return .empty 400
  match ← lookupLoginCallbackUri query.serviceId with
  | .error .serviceNotFound => return .empty 403
  | .error .serviceDisabled => return .empty 403
  | .error _ => return .empty 503
  | .ok callbackUri =>
  match unixSeconds (← systemTimeNow) with
  | .error _ => return .empty 503
  | .ok now =>
  match ← getMultiplexedTokioConnection with
  | .error _ => return .empty 503
  | .ok () =>
  match request.cookie authSessionCookieName with
  | none => startGoogleLogin googleConfig query now
  | some commonSessionReference =>
  if !(validateFixedReferenceValue commonSessionReference).isOk then
    startGoogleLogin googleConfig query now
  else match validCallbackUrl callbackUri with
  | none => return .empty 503
  | some callbackUrl =>
  match ← readSession commonSessionReference now with
  | .error .notFound => startGoogleLogin googleConfig query now
  | .error .expired => startGoogleLogin googleConfig query now
  | .error _ => return .empty 503
  | .ok session =>
  match ← readInternalUserEnabled session.internalUserId with
  | .error _ => return .empty 503
  | .ok (some false) => return .empty 403
  | .ok none => return .empty 403
  | .ok (some true) =>
  match ← generateReferenceValue with
  | .error _ => return .empty 503
  | .ok handoffReference =>
  match checkedExpiresAt now authenticationHandoffTtlSeconds with
  | .error _ => return .empty 503
  | .ok expiresAt =>
  let handoff : AuthenticationHandoff :=
    { serviceId := query.serviceId
      internalUserId := session.internalUserId
      commonSessionLookup := referenceValueLookup commonSessionReference
      codeChallenge := query.codeChallenge
      authenticatedAt := session.authenticatedAt
      issuedAt := now
      expiresAt
      status := .unused }
  match ← issueSsoHandoff commonSessionReference handoffReference handoff with
  | .error .notFound => startGoogleLogin googleConfig query now
  | .error .expired => startGoogleLogin googleConfig query now
  | .error _ => return .empty 503
  | .ok () =>
  let callbackUrl :=
    (callbackUrl.appendPair "code" handoffReference).appendPair "state" query.state
  return .found (Crates.urlToString callbackUrl)

/-! ## The Google callback -/

/-- `char::is_whitespace`. -/
def isWhitespace (c : Char) : Bool :=
  (9 ≤ c.val && c.val ≤ 13) || c.val = 0x20 || c.val = 0x85 || c.val = 0xA0 || c.val = 0x1680 ||
    (0x2000 ≤ c.val && c.val ≤ 0x200A) || c.val = 0x2028 || c.val = 0x2029 || c.val = 0x202F ||
    c.val = 0x205F || c.val = 0x3000

omit [Crates] in
def normalizeGoogleUserInfo (userInfo : GoogleUserInfo) :
    Except Unit NormalizedExternalIdentity :=
  let identity : NormalizedExternalIdentity :=
    { provider := "google"
      subject := userInfo.id
      email := userInfo.email.filter (· ≠ "")
      emailVerification := match userInfo.verifiedEmail with
        | some true => .verified
        | some false => .unverified
        | none => .unknown
      displayName := userInfo.name.filter fun value => !value.toList.all isWhitespace
      pictureUrl := userInfo.picture.filter (· ≠ "") }
  match identity.validate with
  | .error _ => .error ()
  | .ok () => .ok identity

def googleAuthCallback (query : CallbackQuery) : Service HttpResponse := do
  if query.code = "" ∨ !(validateMaxBytes query.code oauthCodeMaxBytes).isOk ∨
      !(validateFixedReferenceValue query.state).isOk then return .empty 400
  match ← getMultiplexedTokioConnection with
  | .error _ => return .empty 503
  | .ok () =>
  match ← claimExternalCallback query.state with
  | .error .notFound => return .empty 400
  | .error .expired => return .empty 400
  | .error .alreadyClaimed => return .empty 400
  | .error _ => return .empty 503
  | .ok transaction =>
  match ← lookupLoginCallbackUri transaction.serviceId with
  | .error .serviceNotFound => return .empty 403
  | .error .serviceDisabled => return .empty 403
  | .error _ => return .empty 503
  | .ok callbackUri =>
  match validCallbackUrl callbackUri with
  | none => return .empty 500
  | some callbackUrl =>
  match ← Prog.ask (Op.exchangeCode query.code) with
  | .error _ => return .empty 502
  | .ok accessToken =>
  match ← Prog.ask (Op.userInfo accessToken) with
  | .error _ => return .empty 502
  | .ok none => return .empty 502
  | .ok (some userInfo) =>
  match normalizeGoogleUserInfo userInfo with
  | .error _ => return .empty 502
  | .ok identity =>
  match unixSeconds (← systemTimeNow) with
  | .error _ => return .empty 500
  | .ok now =>
  match ← resolveExternalIdentity identity.provider identity.subject with
  | .error .userDisabled => return .empty 403
  | .error .identityInconsistent => return .empty 500
  | .error _ => return .empty 503
  | .ok internalUserId =>
  match ← generateReferenceValue with
  | .error _ => return .empty 503
  | .ok commonSessionReference =>
  match ← generateReferenceValue with
  | .error _ => return .empty 503
  | .ok handoffReference =>
  match checkedExpiresAt now commonSessionTtlSeconds with
  | .error _ => return .empty 500
  | .ok sessionExpiresAt =>
  match checkedExpiresAt now authenticationHandoffTtlSeconds with
  | .error _ => return .empty 500
  | .ok handoffExpiresAt =>
  let session : CommonSession := ⟨internalUserId, now, now, sessionExpiresAt⟩
  let handoff : AuthenticationHandoff :=
    { serviceId := transaction.serviceId
      internalUserId
      commonSessionLookup := referenceValueLookup commonSessionReference
      codeChallenge := transaction.handoffCodeChallenge
      authenticatedAt := now
      issuedAt := now
      expiresAt := handoffExpiresAt
      status := .unused }
  let callbackUrl := callbackUrl.clearQuery
  let callbackUrl :=
    (callbackUrl.appendPair "code" handoffReference).appendPair "state" transaction.serviceState
  let location := Crates.urlToString callbackUrl
  match ← createSessionAndHandoff commonSessionReference session handoffReference handoff with
  | .error _ => return .empty 503
  | .ok () =>
  let cookie : SetCookie := ⟨authSessionCookieName, commonSessionReference, true, none⟩
  return ⟨302, some location, [cookie], .empty⟩

/-! ## Exchange -/

def exchangeAuthHandoff (request : HttpRequest) (body : HandoffExchangeRequest) :
    Service HttpResponse := do
  if !(validateFixedReferenceValue body.code).isOk ∨ body.codeVerifier = "" ∨
      !(pkceS256Challenge body.codeVerifier).isOk then return .empty 400
  match basicCredentials request with
  | none => return .empty 401
  | some (serviceId, serviceSecret) =>
  if !(validateServiceId serviceId).isOk then return .empty 401
  match ← authenticateService serviceId serviceSecret with
  | .error .serviceNotFound => return .empty 401
  | .error .serviceSecretMismatch => return .empty 401
  | .error .serviceDisabled => return .empty 403
  | .error _ => return .empty 503
  | .ok _ =>
  match pkceS256Challenge body.codeVerifier with
  | .error _ => return .empty 400
  | .ok challenge =>
  match ← getMultiplexedTokioConnection with
  | .error _ => return .empty 503
  | .ok () =>
  match ← exchangeHandoff body.code serviceId challenge with
  | .ok result =>
    return ⟨200, none, [],
      .handoffExchangeResponse result.internalUserId result.authenticatedAt⟩
  | .error .notFound => return .empty 400
  | .error .expired => return .empty 400
  | .error .alreadyUsed => return .empty 400
  | .error .serviceMismatch => return .empty 400
  | .error .challengeMismatch => return .empty 400
  | .error _ => return .empty 503

/-! ## Logout -/

/-- The page that asks for a confirmation. -/
def logoutPage (logoutReference csrfPlaintext : String) : String :=
  "<form method=\"post\" action=\"/auth/logout\"><input type=\"hidden\" " ++
    "name=\"logout_reference\" value=\"" ++ logoutReference ++
    "\"><input type=\"hidden\" name=\"csrf_token\" value=\"" ++ csrfPlaintext ++
    "\"><button type=\"submit\">Log out</button></form>"

def logoutGet (request : HttpRequest) (serviceId : String) : Service HttpResponse := do
  if !(validateServiceId serviceId).isOk then return .empty 400
  match ← lookupLogoutReturnUri serviceId with
  | .error .serviceNotFound => return .empty 403
  | .error .serviceDisabled => return .empty 403
  | .error _ => return .empty 503
  | .ok returnUri =>
  match validCallbackUrl returnUri with
  | none => return .empty 500
  | some _ =>
  match request.cookie authSessionCookieName with
  | none => return .found returnUri
  | some cookie =>
  if !(validateFixedReferenceValue cookie).isOk then return .found returnUri
  match ← generateReferenceValue with
  | .error _ => return .empty 503
  | .ok logoutReference =>
  match ← generateReferenceValue with
  | .error _ => return .empty 503
  | .ok csrfPlaintext =>
  match unixSeconds (← systemTimeNow) with
  | .error _ => return .empty 500
  | .ok now =>
  match checkedExpiresAt now commonLogoutTransactionTtlSeconds with
  | .error _ => return .empty 500
  | .ok expiresAt =>
  let transaction : CommonLogoutTransaction :=
    { serviceId
      logoutReturnUri := returnUri
      csrfLookup := referenceValueLookup csrfPlaintext
      createdAt := now
      expiresAt
      status := .unused }
  match ← getMultiplexedTokioConnection with
  | .error _ => return .empty 503
  | .ok () =>
  match ← writeLogout logoutReference transaction now with
  | .error _ => return .empty 503
  | .ok () => return ⟨200, none, [], .html (logoutPage logoutReference csrfPlaintext)⟩

def logoutPost (request : HttpRequest) (form : LogoutForm) : Service HttpResponse := do
  if !(validateFixedReferenceValue form.logoutReference).isOk ∨
      !(validateFixedReferenceValue form.csrfToken).isOk then return .empty 400
  match request.cookie authSessionCookieName with
  | none => return .empty 400
  | some cookie =>
  if !(validateFixedReferenceValue cookie).isOk then return .empty 400
  let csrfLookup := referenceValueLookup form.csrfToken
  match ← getMultiplexedTokioConnection with
  | .error _ => return .empty 503
  | .ok () =>
  match ← completeCommonLogout form.logoutReference cookie csrfLookup with
  | .ok returnUri => return ⟨303, some returnUri, [buildDeletedCommonAuthCookie], .empty⟩
  | .error .notFound => return .empty 400
  | .error .expired => return .empty 400
  | .error .alreadyUsed => return .empty 400
  | .error .csrfMismatch => return .empty 403
  | .error _ => return .empty 503

end Handlers

/-! ## Requests with their inputs -/

inductive Request where
  | login (request : HttpRequest) (query : LoginQuery)
  | googleAuthCallback (query : CallbackQuery)
  | exchangeAuthHandoff (request : HttpRequest) (body : HandoffExchangeRequest)
  | logoutGet (request : HttpRequest) (serviceId : String)
  | logoutPost (request : HttpRequest) (form : LogoutForm)
  deriving DecidableEq

def Request.run [Crates] (googleConfig : GoogleAuthorizationConfig) :
    Request → Service HttpResponse
  | login request query => AuthFoundation.login googleConfig request query
  | googleAuthCallback query => AuthFoundation.googleAuthCallback query
  | exchangeAuthHandoff request body => AuthFoundation.exchangeAuthHandoff request body
  | logoutGet request serviceId => AuthFoundation.logoutGet request serviceId
  | logoutPost request form => AuthFoundation.logoutPost request form

end AuthFoundation
