import AuthFoundation.Lib.Lua

set_option autoImplicit false

/-!
# The Lua scripts

The five scripts the service runs in Redis, statement by statement. A field that `HGET` does not
find is `none` (`false` in Lua); `invalid` is the reply `{3}`.

* `uint`, `int`, `lookup`, `fixedWorkEqualLookup`: the local functions of the scripts.
* `callbackClaimScript`, `issueSsoHandoffScript`, `createSessionAndHandoffScript`,
  `exchangeHandoffScript`, `completeCommonLogoutScript`.
* `ScriptName.source`: the script of each name.
-/

namespace AuthFoundation

open Text Redis Lua

/-! ## Local functions -/

def invalid : List Value := [.int 3]

def uint (value : Option Bytes) : Bool :=
  match value with
  | none => false
  | some value => unsigned value && match tonumber value with
    | none => false
    | some number => 0 ≤ number && number ≤ 9007199254740991

def int (value : Option Bytes) : Bool :=
  match value with
  | none => false
  | some value => signed value && match tonumber value with
    | none => false
    | some number => -2147483648 ≤ number && number ≤ 2147483647

/-- `"^[0-9a-f][0-9a-f]*$"` and 64 bytes. -/
def lookup (value : Option Bytes) : Bool :=
  match value with
  | none => false
  | some value => value ≠ [] && value.all isHex && value.length = 64

/-- `string.byte(a, i)`, counted from 1. -/
def stringByte (a : Bytes) (i : ℕ) : ℕ := (a.getD (i - 1) 0).toNat

def fixedWorkEqualLookup (a b : Bytes) : Bool :=
  if !lookup (some a) || !lookup (some b) then false
  else
    let diff := (List.range' 1 64).foldl
      (fun diff i => diff ||| (stringByte a i ^^^ stringByte b i)) 0
    diff == 0

/-! ## The scripts -/

def callbackClaimScript (KEYS _ARGV : ℕ → Bytes) : Script (List Value) := do
  if (← EXISTS (KEYS 1)) = 0 then return [.int 1]
  if (← TYPE (KEYS 1)) ≠ "hash" then return invalid
  if (← HLEN (KEYS 1)) ≠ 8 then return invalid
  let serviceId ← HGET (KEYS 1) "service_id"
  let serviceState ← HGET (KEYS 1) "service_state"
  let challenge ← HGET (KEYS 1) "handoff_code_challenge"
  let provider ← HGET (KEYS 1) "provider"
  let verification ← HGET (KEYS 1) "provider_verification_data"
  let createdAt ← HGET (KEYS 1) "created_at"
  let expiresAt ← HGET (KEYS 1) "expires_at"
  let status ← HGET (KEYS 1) "status"
  if serviceId = none ∨ serviceState = none ∨ challenge = none ∨ provider = none ∨
      verification = none ∨ ¬uint createdAt ∨ ¬uint expiresAt ∨ status = none then return invalid
  let now ← number (tonumber (← TIME))
  let expiry ← number (expiresAt.bind tonumber)
  if expiry ≤ now then
    let _ ← DEL (KEYS 1)
    return [.int 2]
  if status = some (utf8 "processing") then return [.int 4]
  if status ≠ some (utf8 "waiting") then return invalid
  let _ ← HSET (KEYS 1) [("status", "processing")]
  return [.int 0, .ofField serviceId, .ofField serviceState, .ofField challenge,
    .ofField provider, .ofField verification, .ofField createdAt, .ofField expiresAt,
    .bulk "processing"]

def issueSsoHandoffScript (KEYS ARGV : ℕ → Bytes) : Script (List Value) := do
  if (← EXISTS (KEYS 1)) = 0 then return [.int 1]
  if (← TYPE (KEYS 1)) ≠ "hash" then return invalid
  if (← HLEN (KEYS 1)) ≠ 4 then return invalid
  let sessionUser ← HGET (KEYS 1) "internal_user_id"
  let sessionAuthenticated ← HGET (KEYS 1) "authenticated_at"
  let sessionCreated ← HGET (KEYS 1) "created_at"
  let sessionExpires ← HGET (KEYS 1) "expires_at"
  if ¬int sessionUser ∨ ¬uint sessionAuthenticated ∨ ¬uint sessionCreated ∨
      ¬uint sessionExpires then return invalid
  let now ← number (tonumber (← TIME))
  if (← number (sessionExpires.bind tonumber)) ≤ now then
    let _ ← DEL (KEYS 1)
    return [.int 2]
  if (← EXISTS (KEYS 2)) ≠ 0 then return [.int 9]
  if ¬lookup (ARGV 1) ∨ KEYS 1 ≠ utf8 "auth:session:" ++ ARGV 1 then return invalid
  if ARGV 9 ≠ utf8 "unused" ∨ ¬int (ARGV 3) ∨ ¬lookup (ARGV 4) ∨ ¬uint (ARGV 6) ∨
      ¬uint (ARGV 7) ∨ ¬uint (ARGV 8) then return invalid
  if ARGV 4 ≠ ARGV 1 ∨ tonumber (ARGV 3) ≠ sessionUser.bind tonumber ∨
      tonumber (ARGV 6) ≠ sessionAuthenticated.bind tonumber then return invalid
  if (← number (tonumber (ARGV 8))) ≤ now then return [.int 2]
  let _ ← HSET (KEYS 2) [
    ("service_id", ARGV 2), ("internal_user_id", ARGV 3), ("common_session_lookup", ARGV 4),
    ("code_challenge", ARGV 5), ("authenticated_at", ARGV 6), ("issued_at", ARGV 7),
    ("expires_at", ARGV 8), ("status", ARGV 9)]
  let _ ← EXPIREAT (KEYS 2) (ARGV 8)
  return [.int 0]

def createSessionAndHandoffScript (KEYS ARGV : ℕ → Bytes) : Script (List Value) := do
  if (← EXISTS (KEYS 1)) ≠ 0 ∨ (← EXISTS (KEYS 2)) ≠ 0 then return [.int 9]
  if ¬int (ARGV 1) ∨ ¬uint (ARGV 2) ∨ ¬uint (ARGV 3) ∨ ¬uint (ARGV 4) ∨ ¬lookup (ARGV 5) ∨
      KEYS 1 ≠ utf8 "auth:session:" ++ ARGV 5 then return invalid
  if ARGV 13 ≠ utf8 "unused" ∨ ¬int (ARGV 7) ∨ ¬lookup (ARGV 8) ∨ ¬uint (ARGV 10) ∨
      ¬uint (ARGV 11) ∨ ¬uint (ARGV 12) then return invalid
  if ARGV 8 ≠ ARGV 5 ∨ tonumber (ARGV 7) ≠ tonumber (ARGV 1) ∨
      tonumber (ARGV 10) ≠ tonumber (ARGV 2) then return invalid
  let now ← number (tonumber (← TIME))
  let sessionExpiry ← number (tonumber (ARGV 4))
  let handoffExpiry ← number (tonumber (ARGV 12))
  if sessionExpiry ≤ now ∨ handoffExpiry ≤ now then return [.int 2]
  let _ ← HSET (KEYS 1) [
    ("internal_user_id", ARGV 1), ("authenticated_at", ARGV 2), ("created_at", ARGV 3),
    ("expires_at", ARGV 4)]
  let _ ← EXPIREAT (KEYS 1) (ARGV 4)
  let _ ← HSET (KEYS 2) [
    ("service_id", ARGV 6), ("internal_user_id", ARGV 7), ("common_session_lookup", ARGV 8),
    ("code_challenge", ARGV 9), ("authenticated_at", ARGV 10), ("issued_at", ARGV 11),
    ("expires_at", ARGV 12), ("status", ARGV 13)]
  let _ ← EXPIREAT (KEYS 2) (ARGV 12)
  return [.int 0]

def exchangeHandoffScript (KEYS ARGV : ℕ → Bytes) : Script (List Value) := do
  if (← EXISTS (KEYS 1)) = 0 then return [.int 1]
  if (← TYPE (KEYS 1)) ≠ "hash" then return invalid
  if (← HLEN (KEYS 1)) ≠ 8 then return invalid
  let handoffService ← HGET (KEYS 1) "service_id"
  let handoffUser ← HGET (KEYS 1) "internal_user_id"
  let handoffLookup ← HGET (KEYS 1) "common_session_lookup"
  let handoffChallenge ← HGET (KEYS 1) "code_challenge"
  let handoffAuthenticated ← HGET (KEYS 1) "authenticated_at"
  let handoffIssued ← HGET (KEYS 1) "issued_at"
  let handoffExpires ← HGET (KEYS 1) "expires_at"
  let handoffStatus ← HGET (KEYS 1) "status"
  if handoffService = none ∨ ¬int handoffUser ∨ ¬lookup handoffLookup ∨ handoffChallenge = none ∨
      ¬uint handoffAuthenticated ∨ ¬uint handoffIssued ∨ ¬uint handoffExpires ∨
      handoffStatus = none then return invalid
  let now ← number (tonumber (← TIME))
  if (← number (handoffExpires.bind tonumber)) ≤ now then
    let _ ← DEL (KEYS 1)
    return [.int 2]
  if handoffStatus = some (utf8 "used") then return [.int 5]
  if handoffStatus ≠ some (utf8 "unused") then return invalid
  if handoffService ≠ some (ARGV 1) then return [.int 6]
  if handoffChallenge ≠ some (ARGV 2) then return [.int 7]
  if ¬lookup (ARGV 3) ∨ handoffLookup ≠ some (ARGV 3) ∨
      KEYS 2 ≠ utf8 "auth:session:" ++ ARGV 3 then return invalid
  if (← EXISTS (KEYS 2)) = 0 then return [.int 1]
  if (← TYPE (KEYS 2)) ≠ "hash" then return invalid
  if (← HLEN (KEYS 2)) ≠ 4 then return invalid
  let sessionUser ← HGET (KEYS 2) "internal_user_id"
  let sessionAuthenticated ← HGET (KEYS 2) "authenticated_at"
  let sessionCreated ← HGET (KEYS 2) "created_at"
  let sessionExpires ← HGET (KEYS 2) "expires_at"
  if ¬int sessionUser ∨ ¬uint sessionAuthenticated ∨ ¬uint sessionCreated ∨
      ¬uint sessionExpires then return invalid
  if (← number (sessionExpires.bind tonumber)) ≤ now then
    let _ ← DEL (KEYS 2)
    return [.int 2]
  if handoffUser.bind tonumber ≠ sessionUser.bind tonumber ∨
      handoffAuthenticated.bind tonumber ≠ sessionAuthenticated.bind tonumber then return invalid
  let _ ← HSET (KEYS 1) [("status", "used")]
  return [.int 0, .int (← number (handoffUser.bind tonumber)),
    .int (← number (handoffAuthenticated.bind tonumber))]

def completeCommonLogoutScript (KEYS ARGV : ℕ → Bytes) : Script (List Value) := do
  if (← EXISTS (KEYS 1)) = 0 then return [.int 1]
  if (← TYPE (KEYS 1)) ≠ "hash" then return invalid
  if (← HLEN (KEYS 1)) ≠ 6 then return invalid
  let serviceId ← HGET (KEYS 1) "service_id"
  let returnUri ← HGET (KEYS 1) "logout_return_uri"
  let csrfLookup ← HGET (KEYS 1) "csrf_lookup"
  let createdAt ← HGET (KEYS 1) "created_at"
  let expiresAt ← HGET (KEYS 1) "expires_at"
  let status ← HGET (KEYS 1) "status"
  if serviceId = none ∨ returnUri = none ∨ ¬lookup csrfLookup ∨ ¬uint createdAt ∨
      ¬uint expiresAt ∨ status = none then return invalid
  let now ← number (tonumber (← TIME))
  if (← number (expiresAt.bind tonumber)) ≤ now then
    let _ ← DEL (KEYS 1)
    return [.int 2]
  if status = some (utf8 "used") then return [.int 5]
  if status ≠ some (utf8 "unused") then return invalid
  if ¬lookup (ARGV 1) then return [.int 8]
  if ¬csrfLookup.any (fixedWorkEqualLookup · (ARGV 1)) then return [.int 8]
  let _ ← HSET (KEYS 1) [("status", "used")]
  let _ ← DEL (KEYS 2)
  return [.int 0, .ofField returnUri]

/-- The names of the scripts. -/
inductive ScriptName where
  | callbackClaim
  | issueSsoHandoff
  | createSessionAndHandoff
  | exchangeHandoff
  | completeCommonLogout
  deriving DecidableEq, Repr

def ScriptName.source : ScriptName → (ℕ → Bytes) → (ℕ → Bytes) → Script (List Value)
  | callbackClaim => callbackClaimScript
  | issueSsoHandoff => issueSsoHandoffScript
  | createSessionAndHandoff => createSessionAndHandoffScript
  | exchangeHandoff => exchangeHandoffScript
  | completeCommonLogout => completeCommonLogoutScript

end AuthFoundation
