import AuthFoundation.World

set_option autoImplicit false

/-!
# Rows in PostgreSQL

The functions of the service on its tables, one SQL statement per operation.

* `authenticateService`, `lookupLoginCallbackUri`, `lookupLogoutReturnUri`: registered services.
* `readInternalUserEnabled`, `resolveExternalIdentity`: internal users.
-/

namespace AuthFoundation

open Text

structure AuthenticatedService where
  serviceId : String
  loginCallbackUri : String
  logoutReturnUri : String
  deriving DecidableEq

inductive PostgresAuthError where
  | serviceNotFound
  | serviceDisabled
  | serviceSecretMismatch
  | userDisabled
  | databaseFailure
  | storedSecretInvalidLength
  | identityInconsistent
  deriving DecidableEq, Repr

/-! ## Registered services -/

def storedSecretDigest (storedSecret : Bytes) : Except PostgresAuthError (Vector UInt8 32) :=
  if h : storedSecret.length = 32 then .ok ⟨storedSecret.toArray, by simpa using h⟩
  else .error .storedSecretInvalidLength

def readRegisteredService (serviceId : String) :
    Service (Except PostgresAuthError (Option (String × Bool × String × String × Bytes))) := do
  match ← fetch (.selectRegisteredService serviceId) with
  | .error _ => return .error .databaseFailure
  | .ok row => return .ok row

def authenticateService [Crates] (serviceId presentedServiceSecret : String) :
    Service (Except PostgresAuthError AuthenticatedService) := do
  match ← readRegisteredService serviceId with
  | .error e => return .error e
  | .ok none => return .error .serviceNotFound
  | .ok (some (serviceId, isEnabled, loginCallbackUri, logoutReturnUri, storedSecret)) =>
  if !isEnabled then return .error .serviceDisabled
  match storedSecretDigest storedSecret with
  | .error e => return .error e
  | .ok storedDigest =>
  let presentedDigest := sha256Digest (utf8 presentedServiceSecret)
  if !sha256DigestEq storedDigest presentedDigest then return .error .serviceSecretMismatch
  return .ok ⟨serviceId, loginCallbackUri, logoutReturnUri⟩

def lookupLoginCallbackUri (serviceId : String) : Service (Except PostgresAuthError String) := do
  match ← fetch (.selectLoginCallbackUri serviceId) with
  | .error _ => return .error .databaseFailure
  | .ok none => return .error .serviceNotFound
  | .ok (some (isEnabled, loginCallbackUri)) =>
  if !isEnabled then return .error .serviceDisabled
  return .ok loginCallbackUri

def lookupLogoutReturnUri (serviceId : String) : Service (Except PostgresAuthError String) := do
  match ← fetch (.selectLogoutReturnUri serviceId) with
  | .error _ => return .error .databaseFailure
  | .ok none => return .error .serviceNotFound
  | .ok (some (isEnabled, logoutReturnUri)) =>
  if !isEnabled then return .error .serviceDisabled
  return .ok logoutReturnUri

/-! ## Internal users -/

def readInternalUserEnabled (internalUserId : Int32) :
    Service (Except PostgresAuthError (Option Bool)) := do
  match ← fetch (.selectInternalUser internalUserId) with
  | .error _ => return .error .databaseFailure
  | .ok row => return .ok row

def readExternalIdentityWithUser (provider subject : String) :
    Service (Except PostgresAuthError (Option (Int32 × Option Bool))) := do
  match ← fetch (.selectExternalIdentity provider subject) with
  | .error _ => return .error .databaseFailure
  | .ok row => return .ok row

def isExternalIdentityUniqueViolation : SqlxError → Bool
  | .database code constraint =>
    code == some "23505" && constraint == some "external_identities_pkey"
  | .other => false

def createExternalIdentity (provider subject : String) :
    Service (Except PostgresAuthError Int32) := do
  match ← fetch .begin with
  | .error _ => return .error .databaseFailure
  | .ok () =>
  match ← fetch .insertInternalUser with
  | .error _ =>
    let _ ← fetch .rollback
    return .error .databaseFailure
  | .ok internalUserId =>
  match ← fetch (.insertExternalIdentity provider subject internalUserId) with
  | .ok () =>
    match ← fetch .commit with
    | .ok () => return .ok internalUserId
    | .error _ => return .error .databaseFailure
  | .error error =>
    let isUniqueConflict := isExternalIdentityUniqueViolation error
    match ← fetch .rollback with
    | .error _ => return .error .databaseFailure
    | .ok () =>
    if !isUniqueConflict then return .error .databaseFailure
    match ← readExternalIdentityWithUser provider subject with
    | .error e => return .error e
    | .ok (some (internalUserId, some true)) => return .ok internalUserId
    | .ok (some (_, some false)) => return .error .userDisabled
    | .ok (some (_, none)) => return .error .identityInconsistent
    | .ok none => return .error .identityInconsistent

def resolveExternalIdentity (provider subject : String) :
    Service (Except PostgresAuthError Int32) := do
  match ← readExternalIdentityWithUser provider subject with
  | .error e => return .error e
  | .ok (some (internalUserId, some true)) => return .ok internalUserId
  | .ok (some (_, some false)) => return .error .userDisabled
  | .ok (some (_, none)) => return .error .identityInconsistent
  | .ok none => createExternalIdentity provider subject

end AuthFoundation
