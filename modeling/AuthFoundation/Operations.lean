import AuthFoundation.HandlerSpec
import AuthFoundation.Lib.Ops

set_option autoImplicit false

/-!
# The operations of each function

* `OpKind`, `Op.kind`: the kinds of operations.
* `Uses`: the kinds a program is limited to, whatever the replies.
* **`Request.uses`**: the kinds of each request.
-/

namespace AuthFoundation

open Text Redis Prog

/-! ## Kinds -/

inductive OpKind where
  | clock
  | random
  | connection
  | record
  | write (family : UInt8)
  | script (script : ScriptName)
  | select
  | transaction
  | google
  | other
  deriving DecidableEq

/-- Plain commands write the records of a family, or read and drop records; the statements that do
not select belong to transactions. -/
def Op.kind : Op → OpKind
  | .systemTimeNow => .clock
  | .tryFillBytes => .random
  | .getMultiplexedTokioConnection => .connection
  | .redis (.eval script _ _) => .script script
  | .redis (.hset key _) => .write (family key)
  | .redis (.expireat key _) => .write (family key)
  | .redis _ => .record
  | .sql (.selectLoginCallbackUri _) => .select
  | .sql (.selectLogoutReturnUri _) => .select
  | .sql (.selectRegisteredService _) => .select
  | .sql (.selectInternalUser _) => .select
  | .sql (.selectExternalIdentity _ _) => .select
  | .sql _ => .transaction
  | .exchangeCode _ => .google
  | .userInfo _ => .google
  | .localState _ => .other
  | .network => .other

/-- **All operations of the program** are of these kinds. -/
abbrev Uses {α : Type} (kinds : List OpKind) (p : Service α) : Prop :=
  p.Only fun o => o.kind ∈ kinds

section Functions

variable {kinds : List OpKind} {key : String} {fields : List (String × String)}
  {expiresAt now : UInt64} {serviceId secret provider subject reference : String} {u : Int32}

theorem uses_generateReferenceValue (h : .random ∈ kinds) : Uses kinds generateReferenceValue := by
  refine .bind (only_ask h) fun r => ?_
  split <;> trivial

theorem uses_writeState {f : UInt8} (hf : family (utf8 key) = f) (h : .write f ∈ kinds) :
    Uses kinds (writeState key fields expiresAt now) := by
  subst hf
  refine .ite trivial ?_
  refine .bind (only_ask h) fun r => ?_
  split
  · trivial
  · refine .bind (only_ask h) fun r => ?_
    split <;> trivial

theorem uses_invoke {α : Type} {script : ScriptName} {keys arguments : List String}
    {reply : List Value → Except RedisStateError α} (h : .script script ∈ kinds) :
    Uses kinds (invoke script keys arguments reply) := .bind (only_ask h) fun _ => trivial

theorem uses_lookupLoginCallbackUri (h : .select ∈ kinds) :
    Uses kinds (lookupLoginCallbackUri serviceId) := by
  refine .bind (only_ask h) fun r => ?_
  split
  · trivial
  · trivial
  · exact .ite trivial trivial

theorem uses_lookupLogoutReturnUri (h : .select ∈ kinds) :
    Uses kinds (lookupLogoutReturnUri serviceId) := by
  refine .bind (only_ask h) fun r => ?_
  split
  · trivial
  · trivial
  · exact .ite trivial trivial

theorem uses_readInternalUserEnabled (h : .select ∈ kinds) :
    Uses kinds (readInternalUserEnabled u) := by
  refine .bind (only_ask h) fun r => ?_
  split <;> trivial

theorem uses_readExternalIdentityWithUser (h : .select ∈ kinds) :
    Uses kinds (readExternalIdentityWithUser provider subject) := by
  refine .bind (only_ask h) fun r => ?_
  split <;> trivial

theorem uses_createExternalIdentity (h : .select ∈ kinds) (ht : .transaction ∈ kinds) :
    Uses kinds (createExternalIdentity provider subject) := by
  refine .bind (only_ask ht) fun r => ?_
  split
  · trivial
  refine .bind (only_ask ht) fun r => ?_
  split
  · exact .bind (only_ask ht) fun _ => trivial
  refine .bind (only_ask ht) fun r => ?_
  split
  · refine .bind (only_ask ht) fun r => ?_
    split <;> trivial
  · refine .bind (only_ask ht) fun r => ?_
    split
    · trivial
    · refine .ite trivial ?_
      refine .bind (uses_readExternalIdentityWithUser h) fun r => ?_
      split <;> trivial

theorem uses_resolveExternalIdentity (h : .select ∈ kinds) (ht : .transaction ∈ kinds) :
    Uses kinds (resolveExternalIdentity provider subject) := by
  refine .bind (uses_readExternalIdentityWithUser h) fun r => ?_
  split
  · trivial
  · trivial
  · trivial
  · trivial
  · exact uses_createExternalIdentity h ht

variable [Crates]

theorem uses_authenticateService (h : .select ∈ kinds) :
    Uses kinds (authenticateService serviceId secret) := by
  refine .bind (.bind (only_ask h) fun r => ?_) fun r => ?_
  · split <;> trivial
  · split
    · trivial
    · trivial
    · refine .ite trivial ?_
      split
      · trivial
      · exact .ite trivial trivial

theorem uses_readSession (h : .record ∈ kinds) : Uses kinds (readSession reference now) := by
  refine .bind (.bind (only_ask h) fun _ => trivial) fun r => ?_
  split
  · trivial
  · split
    · trivial
    · refine .bind (.ite trivial (.bind (only_ask h) fun r => ?_)) fun r => ?_
      · split <;> trivial
      · split <;> trivial

theorem uses_exchangeHandoff {challenge : String} (h : .record ∈ kinds)
    (hs : .script .exchangeHandoff ∈ kinds) :
    Uses kinds (exchangeHandoff reference serviceId challenge) := by
  refine .bind (.bind (only_ask h) fun r => ?_) fun r => ?_
  · split
    · trivial
    · refine .ite trivial (.ite trivial ?_)
      exact .bind (only_ask h) fun _ => trivial
  · split
    · trivial
    · split
      · trivial
      · exact uses_invoke hs

end Functions

/-! ## Requests -/

/-- The kinds of operations of a request. -/
def Request.kinds : Request → List OpKind
  | login _ _ => [.select, .clock, .connection, .random, .record, .write 101,
      .script .issueSsoHandoff]
  | googleAuthCallback _ => [.connection, .script .callbackClaim, .select, .google, .clock,
      .transaction, .random, .script .createSessionAndHandoff]
  | exchangeAuthHandoff _ _ => [.select, .connection, .record, .script .exchangeHandoff]
  | logoutGet _ _ => [.select, .random, .clock, .connection, .write 108]
  | logoutPost _ _ => [.connection, .script .completeCommonLogout]

section Requests

variable [Crates] {googleConfig : GoogleAuthorizationConfig} {request : HttpRequest}
  {query : LoginQuery} {now : UInt64}

theorem uses_startGoogleLogin {kinds : List OpKind} (hr : .random ∈ kinds)
    (h : .write 101 ∈ kinds) :
    Uses kinds (startGoogleLogin googleConfig query now) := by
  refine .bind (uses_generateReferenceValue hr) fun r => ?_
  split
  · trivial
  dsimp only
  split
  · trivial
  refine .bind (uses_writeState family_external h) fun r => ?_
  split <;> trivial

theorem uses_login :
    Uses (Request.login request query).kinds (login googleConfig request query) := by
  dsimp only [Request.kinds]
  refine .ite trivial ?_
  refine .bind (uses_lookupLoginCallbackUri (by decide)) fun r => ?_
  split
  · trivial
  · trivial
  · trivial
  refine .bind (only_ask (by decide)) fun t => ?_
  split
  · trivial
  refine .bind (only_ask (by decide)) fun r => ?_
  split
  · trivial
  split
  · exact uses_startGoogleLogin (by decide) (by decide)
  refine .ite (uses_startGoogleLogin (by decide) (by decide)) ?_
  split
  · trivial
  refine .bind (uses_readSession (by decide)) fun r => ?_
  split
  · exact uses_startGoogleLogin (by decide) (by decide)
  · exact uses_startGoogleLogin (by decide) (by decide)
  · trivial
  refine .bind (uses_readInternalUserEnabled (by decide)) fun r => ?_
  split
  · trivial
  · trivial
  · trivial
  refine .bind (uses_generateReferenceValue (by decide)) fun r => ?_
  split
  · trivial
  split
  · trivial
  refine .bind (uses_invoke (by decide)) fun r => ?_
  split
  · exact uses_startGoogleLogin (by decide) (by decide)
  · exact uses_startGoogleLogin (by decide) (by decide)
  · trivial
  · trivial

theorem uses_googleAuthCallback {query : CallbackQuery} :
    Uses (Request.googleAuthCallback query).kinds (googleAuthCallback query) := by
  dsimp only [Request.kinds]
  refine .ite trivial ?_
  refine .bind (only_ask (by decide)) fun r => ?_
  split
  · trivial
  refine .bind (uses_invoke (by decide)) fun r => ?_
  split
  · trivial
  · trivial
  · trivial
  · trivial
  refine .bind (uses_lookupLoginCallbackUri (by decide)) fun r => ?_
  split
  · trivial
  · trivial
  · trivial
  split
  · trivial
  refine .bind (only_ask (show OpKind.google ∈ _ by decide)) fun r => ?_
  split
  · trivial
  refine .bind (only_ask (show OpKind.google ∈ _ by decide)) fun r => ?_
  split
  · trivial
  · trivial
  split
  · trivial
  refine .bind (only_ask (by decide)) fun t => ?_
  split
  · trivial
  refine .bind (uses_resolveExternalIdentity (by decide) (by decide)) fun r => ?_
  split
  · trivial
  · trivial
  · trivial
  refine .bind (uses_generateReferenceValue (by decide)) fun r => ?_
  split
  · trivial
  refine .bind (uses_generateReferenceValue (by decide)) fun r => ?_
  split
  · trivial
  split
  · trivial
  split
  · trivial
  refine .bind (uses_invoke (by decide)) fun r => ?_
  split <;> trivial

theorem uses_exchangeAuthHandoff {body : HandoffExchangeRequest} :
    Uses (Request.exchangeAuthHandoff request body).kinds (exchangeAuthHandoff request body) := by
  dsimp only [Request.kinds]
  refine .ite trivial ?_
  split
  · trivial
  refine .ite trivial ?_
  refine .bind (uses_authenticateService (by decide)) fun r => ?_
  split
  · trivial
  · trivial
  · trivial
  · trivial
  split
  · trivial
  refine .bind (only_ask (by decide)) fun r => ?_
  split
  · trivial
  refine .bind (uses_exchangeHandoff (by decide) (by decide)) fun r => ?_
  split <;> trivial

theorem uses_logoutGet {serviceId : String} :
    Uses (Request.logoutGet request serviceId).kinds (logoutGet request serviceId) := by
  dsimp only [Request.kinds]
  refine .ite trivial ?_
  refine .bind (uses_lookupLogoutReturnUri (by decide)) fun r => ?_
  split
  · trivial
  · trivial
  · trivial
  split
  · trivial
  split
  · trivial
  refine .ite trivial ?_
  refine .bind (uses_generateReferenceValue (by decide)) fun r => ?_
  split
  · trivial
  refine .bind (uses_generateReferenceValue (by decide)) fun r => ?_
  split
  · trivial
  refine .bind (only_ask (by decide)) fun t => ?_
  split
  · trivial
  split
  · trivial
  refine .bind (only_ask (by decide)) fun r => ?_
  split
  · trivial
  refine .bind (uses_writeState family_logout (by decide)) fun r => ?_
  split <;> trivial

theorem uses_logoutPost {form : LogoutForm} :
    Uses (Request.logoutPost request form).kinds (logoutPost request form) := by
  dsimp only [Request.kinds]
  refine .ite trivial ?_
  split
  · trivial
  refine .ite trivial ?_
  refine .bind (only_ask (by decide)) fun r => ?_
  split
  · trivial
  refine .bind (uses_invoke (by decide)) fun r => ?_
  split <;> trivial

/-- **Each request** is limited to its operations. -/
theorem Request.uses (q : Request) : Uses q.kinds (q.run googleConfig) := by
  cases q with
  | login request query => exact uses_login
  | googleAuthCallback query => exact uses_googleAuthCallback
  | exchangeAuthHandoff request body => exact uses_exchangeAuthHandoff
  | logoutGet request serviceId => exact uses_logoutGet
  | logoutPost request form => exact uses_logoutPost

omit [Crates] in
/-- Only a login writes external transactions. -/
theorem login_of_kind {q : Request} (h : .write 101 ∈ q.kinds) :
    ∃ request query, q = .login request query := by
  cases q with
  | login request query => exact ⟨request, query, rfl⟩
  | _ => simp [Request.kinds] at h

end Requests

end AuthFoundation
