import AuthFoundation.Record
import AuthFoundation.World

set_option autoImplicit false

/-!
# Records in Redis

The functions of the service that read and write its records, one Redis command or script per
operation.

* `writeExternal`, `writeLogout`: plain writes in two commands.
* `readSession`: a read that deletes an expired session.
* `claimExternalCallback`, `issueSsoHandoff`, `createSessionAndHandoff`, `exchangeHandoff`,
  `completeCommonLogout`: calls of the scripts.
* `RedisCall`: any of them with its arguments.
-/

namespace AuthFoundation

open Text Redis

def externalAuthTransactionTtlSeconds : UInt64 := 600
def commonSessionTtlSeconds : UInt64 := 28800
def authenticationHandoffTtlSeconds : UInt64 := 120
def commonLogoutTransactionTtlSeconds : UInt64 := 600

/-! ## Replies of scripts -/

def replyString : Value → Except RedisStateError String
  | .bulk value => match text? value with
    | some value => .ok value
    | none => .error .invalidStoredState
  | _ => .error .invalidStoredState

def scriptError {α : Type} : ℤ → Except RedisStateError α
  | 1 => .error .notFound
  | 2 => .error .expired
  | 3 => .error .invalidStoredState
  | 4 => .error .alreadyClaimed
  | 5 => .error .alreadyUsed
  | 6 => .error .serviceMismatch
  | 7 => .error .challengeMismatch
  | 8 => .error .csrfMismatch
  | 9 => .error .keyConflict
  | _ => .error .invalidStoredState

def claimReply : List Value → Except RedisStateError ExternalAuthTransaction
  | [.int 0, serviceId, serviceState, challenge, provider, verification, createdAt, expiresAt,
      status] => do
    let fields := Fields.empty
    let fields := fields.insert "service_id" (← replyString serviceId)
    let fields := fields.insert "service_state" (← replyString serviceState)
    let fields := fields.insert "handoff_code_challenge" (← replyString challenge)
    let fields := fields.insert "provider" (← replyString provider)
    let fields := fields.insert "provider_verification_data" (← replyString verification)
    let fields := fields.insert "created_at" (← replyString createdAt)
    let fields := fields.insert "expires_at" (← replyString expiresAt)
    let fields := fields.insert "status" (← replyString status)
    let state ← decodeExternal fields
    if state.status ≠ .processing then .error .invalidStoredState else .ok state
  | [.int code] => scriptError code
  | _ => .error .invalidStoredState

def unitReply : List Value → Except RedisStateError Unit
  | [.int 0] => .ok ()
  | [.int code] => scriptError code
  | _ => .error .invalidStoredState

def exchangeReply : List Value → Except RedisStateError HandoffExchangeResult
  | [.int 0, .int internalUserId, .int authenticatedAt] =>
    if internalUserId < -2 ^ 31 ∨ 2 ^ 31 ≤ internalUserId then .error .invalidStoredState
    else if authenticatedAt < 0 then .error .invalidStoredState
    else .ok ⟨Int32.ofInt internalUserId, UInt64.ofNat authenticatedAt.toNat⟩
  | [.int code] => scriptError code
  | _ => .error .invalidStoredState

def logoutReply : List Value → Except RedisStateError String
  | [.int 0, returnUri] => replyString returnUri
  | [.int code] => scriptError code
  | _ => .error .invalidStoredState

/-- The reply to a script; a failure of Redis is `RedisFailure`. -/
def scriptReply {α : Type} (reply : List Value → Except RedisStateError α) :
    Except Redis.Error (List Value) → Except RedisStateError α
  | .error _ => .error .redisFailure
  | .ok values => reply values

def invoke {α : Type} (script : ScriptName) (keys arguments : List String)
    (reply : List Value → Except RedisStateError α) : Service (Except RedisStateError α) := do
  return scriptReply reply (← queryAsync (.eval script (keys.map utf8) (arguments.map utf8)))

/-! ## Plain reads and writes -/

def writeState (key : String) (fields : List (String × String)) (expiresAt now : UInt64) :
    Service (Except RedisStateError Unit) := do
  if !isUnexpired now expiresAt then return .error .expired
  match ← queryAsync (.hset key (fieldBytes fields)) with
  | .error _ => return .error .redisFailure
  | .ok _ =>
  match ← queryAsync (.expireat key (utf8 (toString expiresAt))) with
  | .error _ => return .error .redisFailure
  | .ok _ => return .ok ()

/-- `HGETALL` as a map of strings; values that are not UTF-8 are a failure of Redis. -/
def fieldsReply : Except Redis.Error Hash → Except RedisStateError Fields
  | .error _ => .error .redisFailure
  | .ok hash => match Fields.ofHash? hash with
    | none => .error .redisFailure
    | some fields => if fields.len = 0 then .error .notFound else .ok fields

def readFields (key : String) : Service (Except RedisStateError Fields) := do
  return fieldsReply (← queryAsync (.hgetall key))

def expireIfNeeded (key : String) (expiresAt now : UInt64) :
    Service (Except RedisStateError Unit) := do
  if isUnexpired now expiresAt then return .ok ()
  match ← queryAsync (.del key) with
  | .error _ => return .error .redisFailure
  | .ok _ => return .error .expired

section Calls

variable [Crates]

def writeExternal (reference : String) (state : ExternalAuthTransaction) (now : UInt64) :
    Service (Except RedisStateError Unit) :=
  writeState (externalKey reference) (encodeExternal state) state.expiresAt now

def writeLogout (reference : String) (state : CommonLogoutTransaction) (now : UInt64) :
    Service (Except RedisStateError Unit) :=
  writeState (logoutKey reference) (encodeLogout state) state.expiresAt now

def readSession (reference : String) (now : UInt64) :
    Service (Except RedisStateError CommonSession) := do
  let key := sessionKey reference
  match ← readFields key with
  | .error e => return .error e
  | .ok fields =>
  match decodeSession fields with
  | .error e => return .error e
  | .ok state =>
  match ← expireIfNeeded key state.expiresAt now with
  | .error e => return .error e
  | .ok () => return .ok state

/-! ## Calls of the scripts -/

def claimExternalCallback (externalReference : String) :
    Service (Except RedisStateError ExternalAuthTransaction) :=
  invoke .callbackClaim [externalKey externalReference] [] claimReply

def issueSsoHandoff (commonSessionReference handoffReference : String)
    (handoff : AuthenticationHandoff) : Service (Except RedisStateError Unit) :=
  let sessionLookup := referenceValueLookup commonSessionReference
  invoke .issueSsoHandoff [sessionKey commonSessionReference, handoffKey handoffReference]
    [sessionLookup, handoff.serviceId, toString handoff.internalUserId,
      handoff.commonSessionLookup, handoff.codeChallenge, toString handoff.authenticatedAt,
      toString handoff.issuedAt, toString handoff.expiresAt, usageStatusValue handoff.status]
    unitReply

def createSessionAndHandoff (commonSessionReference : String) (session : CommonSession)
    (handoffReference : String) (handoff : AuthenticationHandoff) :
    Service (Except RedisStateError Unit) :=
  let sessionLookup := referenceValueLookup commonSessionReference
  invoke .createSessionAndHandoff [sessionKey commonSessionReference, handoffKey handoffReference]
    [toString session.internalUserId, toString session.authenticatedAt,
      toString session.createdAt, toString session.expiresAt, sessionLookup, handoff.serviceId,
      toString handoff.internalUserId, handoff.commonSessionLookup, handoff.codeChallenge,
      toString handoff.authenticatedAt, toString handoff.issuedAt, toString handoff.expiresAt,
      usageStatusValue handoff.status]
    unitReply

/-- A missing lookup is invalid; a value that is not UTF-8 is a failure of Redis. -/
def lookupReply : Except Redis.Error (Option Bytes) → Except RedisStateError String
  | .error _ => .error .redisFailure
  | .ok none => .error .invalidStoredState
  | .ok (some value) => match text? value with
    | none => .error .redisFailure
    | some lookup => if !isLookup lookup then .error .invalidStoredState else .ok lookup

def resolveHandoffSessionLookup (handoffReference : String) :
    Service (Except RedisStateError String) := do
  let key := handoffKey handoffReference
  match ← queryAsync (.type key) with
  | .error _ => return .error .redisFailure
  | .ok keyType =>
  if keyType = "none" then return .error .notFound
  if keyType ≠ "hash" then return .error .invalidStoredState
  return lookupReply (← queryAsync (.hget key "common_session_lookup"))

def exchangeHandoff (handoffReference serviceId candidateCodeChallenge : String) :
    Service (Except RedisStateError HandoffExchangeResult) := do
  match ← resolveHandoffSessionLookup handoffReference with
  | .error e => return .error e
  | .ok commonSessionLookup =>
  match sessionKeyFromLookup commonSessionLookup with
  | .error e => return .error e
  | .ok sessionKey =>
    invoke .exchangeHandoff [handoffKey handoffReference, sessionKey]
      [serviceId, candidateCodeChallenge, commonSessionLookup] exchangeReply

def completeCommonLogout (logoutReference commonSessionReference csrfLookup : String) :
    Service (Except RedisStateError String) :=
  invoke .completeCommonLogout [logoutKey logoutReference, sessionKey commonSessionReference]
    [csrfLookup] logoutReply

end Calls

/-! ## Calls with their arguments -/

inductive RedisCall where
  | writeExternal (reference : String) (state : ExternalAuthTransaction) (now : UInt64)
  | writeLogout (reference : String) (state : CommonLogoutTransaction) (now : UInt64)
  | readSession (reference : String) (now : UInt64)
  | claimExternalCallback (externalReference : String)
  | issueSsoHandoff (commonSessionReference handoffReference : String)
      (handoff : AuthenticationHandoff)
  | createSessionAndHandoff (commonSessionReference : String) (session : CommonSession)
      (handoffReference : String) (handoff : AuthenticationHandoff)
  | exchangeHandoff (handoffReference serviceId candidateCodeChallenge : String)
  | completeCommonLogout (logoutReference commonSessionReference csrfLookup : String)
  deriving DecidableEq

/-- The result of a call. -/
abbrev RedisCall.Result : RedisCall → Type
  | writeExternal _ _ _ => Unit
  | writeLogout _ _ _ => Unit
  | readSession _ _ => CommonSession
  | claimExternalCallback _ => ExternalAuthTransaction
  | issueSsoHandoff _ _ _ => Unit
  | createSessionAndHandoff _ _ _ _ => Unit
  | exchangeHandoff _ _ _ => HandoffExchangeResult
  | completeCommonLogout _ _ _ => String

def RedisCall.run [Crates] : (q : RedisCall) → Service (Except RedisStateError q.Result)
  | writeExternal reference state now => AuthFoundation.writeExternal reference state now
  | writeLogout reference state now => AuthFoundation.writeLogout reference state now
  | readSession reference now => AuthFoundation.readSession reference now
  | claimExternalCallback externalReference =>
    AuthFoundation.claimExternalCallback externalReference
  | issueSsoHandoff commonSessionReference handoffReference handoff =>
    AuthFoundation.issueSsoHandoff commonSessionReference handoffReference handoff
  | createSessionAndHandoff commonSessionReference session handoffReference handoff =>
    AuthFoundation.createSessionAndHandoff commonSessionReference session handoffReference handoff
  | exchangeHandoff handoffReference serviceId candidateCodeChallenge =>
    AuthFoundation.exchangeHandoff handoffReference serviceId candidateCodeChallenge
  | completeCommonLogout logoutReference commonSessionReference csrfLookup =>
    AuthFoundation.completeCommonLogout logoutReference commonSessionReference csrfLookup

end AuthFoundation
