import AuthFoundation.Lib.Text

set_option autoImplicit false

/-!
# Shared primitives of the authentication foundation

Reference values and their lookups, PKCE challenges, times and the validation of inputs.

* `Crates`: the functions of other crates the service calls.
* `referenceValueLookup`, `pkceS256Challenge`: SHA-256 as hexadecimal and as base64url.
* `checkedExpiresAt`, `isUnexpired`, `unixSeconds`: times in `u64` seconds.
* `validateServiceId`, `validateFixedReferenceValue`, …: bounds on inputs.
-/

namespace AuthFoundation

open Text

/-! ## Other crates -/

/-- A URL as the `url` crate keeps it. -/
structure Url where
  scheme : String
  username : String
  password : Option String
  hostStr : Option String
  port : Option UInt16
  path : String
  query : Option String
  fragment : Option String
  deriving DecidableEq

/-- **The functions of other crates**: the SHA-256 digest, the standard base64 decoder, parsing
and printing of URLs, the `Cookie` parser and the authorization URL of the OAuth client. -/
class Crates where
  sha256 : Bytes → Vector UInt8 32
  base64Decode : String → Option Bytes
  urlParse : String → Option Url
  urlToString : Url → String
  cookieSplitParse : String → List (Except Unit (String × String))
  authorizeUrl : (clientId redirectUri state : String) → String

/-! ## Errors and limits -/

inductive InputBoundaryError where
  | invalidLength
  | invalidAsciiFormat
  deriving DecidableEq, Repr

inductive TimeBoundaryError where
  | beforeUnixEpoch
  | overflow
  deriving DecidableEq, Repr

def serviceIdMaxBytes : ℕ := 64
def serviceStateMaxBytes : ℕ := 256
def referenceValueEncodedBytes : ℕ := 43
def oauthCodeMaxBytes : ℕ := 4096
def pkceVerifierMinBytes : ℕ := 43
def pkceVerifierMaxBytes : ℕ := 128
def providerMaxBytes : ℕ := 16
def subjectMaxBytes : ℕ := 255
def authorizationHeaderMaxBytes : ℕ := 8192

/-- `str::len`. -/
def len (value : String) : ℕ := (utf8 value).length

/-- `str::is_ascii`. -/
def isAscii (value : String) : Bool := (utf8 value).all (· < 128)

/-! ## Validation -/

def validateMaxBytes (value : String) (max : ℕ) : Except InputBoundaryError Unit :=
  if len value ≤ max then .ok () else .error .invalidLength

def validateNonemptyMaxBytes (value : String) (max : ℕ) : Except InputBoundaryError Unit :=
  if value = "" ∨ max < len value then .error .invalidLength else .ok ()

def validateAsciiByteRange (value : String) (min max : ℕ) : Except InputBoundaryError Unit :=
  if ¬(min ≤ len value ∧ len value ≤ max) then .error .invalidLength
  else if isAscii value then .ok () else .error .invalidAsciiFormat

def isBase64urlNoPadByte (byte : UInt8) : Bool :=
  (65 ≤ byte && byte ≤ 90) || (97 ≤ byte && byte ≤ 122) || isDigit byte || byte = 45 || byte = 95

def validateFixedReferenceValue (value : String) : Except InputBoundaryError Unit :=
  if len value ≠ referenceValueEncodedBytes then .error .invalidLength
  else if (utf8 value).all isBase64urlNoPadByte then .ok () else .error .invalidAsciiFormat

theorem validateFixedReferenceValue_eq_ok {v : String} : validateFixedReferenceValue v = .ok () ↔
    len v = 43 ∧ (utf8 v).all isBase64urlNoPadByte = true := by
  unfold validateFixedReferenceValue referenceValueEncodedBytes
  split_ifs with hl hb
  · exact iff_of_false nofun fun h => hl h.1
  · exact iff_of_true rfl ⟨not_not.mp hl, hb⟩
  · exact iff_of_false nofun fun h => hb h.2

def isServiceIdFirstByte (byte : UInt8) : Bool := (97 ≤ byte && byte ≤ 122) || isDigit byte

def isServiceIdRestByte (byte : UInt8) : Bool := isServiceIdFirstByte byte || byte = 95 || byte = 45

def validateServiceId (value : String) : Except InputBoundaryError Unit :=
  match utf8 value with
  | [] => .error .invalidLength
  | first :: rest =>
    if serviceIdMaxBytes < (first :: rest).length then .error .invalidLength
    else if !isServiceIdFirstByte first || !rest.all isServiceIdRestByte then
      .error .invalidAsciiFormat
    else .ok ()

/-! ## External identities -/

inductive EmailVerification where
  | verified
  | unverified
  | unknown
  deriving DecidableEq, Repr

structure NormalizedExternalIdentity where
  provider : String
  subject : String
  email : Option String
  emailVerification : EmailVerification
  displayName : Option String
  pictureUrl : Option String
  deriving DecidableEq

def NormalizedExternalIdentity.validate (identity : NormalizedExternalIdentity) :
    Except InputBoundaryError Unit := do
  validateNonemptyMaxBytes identity.provider providerMaxBytes
  validateNonemptyMaxBytes identity.subject subjectMaxBytes

/-! ## Digests -/

section Digests

variable [Crates]

def sha256Digest (value : Bytes) : Vector UInt8 32 := Crates.sha256 value

/-- Comparison of digests in constant time. -/
def sha256DigestEq (left right : Vector UInt8 32) : Bool := left == right

def referenceValueLookup (value : String) : String := hex (sha256Digest (utf8 value)).toList

/-- `URL_SAFE_NO_PAD.encode(sha256_digest(…))`. -/
def sha256Base64url (value : Bytes) : String := base64url (sha256Digest value).toList

def pkceS256Challenge (verifier : String) : Except InputBoundaryError String := do
  validateAsciiByteRange verifier pkceVerifierMinBytes pkceVerifierMaxBytes
  return sha256Base64url (utf8 verifier)

theorem pkceS256Challenge_eq_ok {verifier challenge : String} :
    pkceS256Challenge verifier = .ok challenge ↔
      (43 ≤ len verifier ∧ len verifier ≤ 128 ∧ isAscii verifier = true) ∧
        challenge = sha256Base64url (utf8 verifier) := by
  unfold pkceS256Challenge validateAsciiByteRange pkceVerifierMinBytes pkceVerifierMaxBytes
  split_ifs with hl ha
  · constructor
    · intro h
      cases h
      exact ⟨⟨hl.1, hl.2, ha⟩, rfl⟩
    · rintro ⟨-, rfl⟩
      rfl
  · exact iff_of_false nofun fun h => ha h.1.2.2
  · exact iff_of_false nofun fun h => hl ⟨h.1.1, h.1.2.1⟩

end Digests

/-- The reference value of random bytes. -/
def referenceValue (bytes : Vector UInt8 32) : String := base64url bytes.toList

theorem referenceValue_injective : Function.Injective referenceValue := fun _ _ h =>
  Vector.toList_inj.mp (base64url_injective h)

/-! ## Times -/

/-- Seconds since the epoch, for times given in seconds before or after it. -/
def unixSeconds (time : Int64) : Except TimeBoundaryError UInt64 :=
  if time < 0 then .error .beforeUnixEpoch else .ok time.toUInt64

def checkedExpiresAt (now ttlSeconds : UInt64) : Except TimeBoundaryError UInt64 :=
  if now.toNat + ttlSeconds.toNat < 2 ^ 64 then .ok (now + ttlSeconds) else .error .overflow

def isUnexpired (now expiresAt : UInt64) : Bool := now < expiresAt

theorem checkedExpiresAt_eq_ok {now ttl e : UInt64} (h : checkedExpiresAt now ttl = .ok e) :
    e.toNat = now.toNat + ttl.toNat := by
  unfold checkedExpiresAt at h
  split at h
  · cases h
    rw [UInt64.toNat_add, Nat.mod_eq_of_lt ‹_›]
  · cases h

/-! ## Sample values -/

/-- The 32 bytes of a number. -/
def bytes32 (n : ℕ) : Vector UInt8 32 := Vector.ofFn fun i => UInt8.ofNat (n / 256 ^ (31 - i.val))

/-- The digests of a few strings. -/
def sampleDigests : List (Bytes × Vector UInt8 32) := [
  (utf8 "s", bytes32 0x043a718774c572bd8a25adbeb1bfcd5c0256ae11cecf9f9c3f925d0e52beaf89),
  (utf8 "h", bytes32 0xaaa9402664f1a41f40ebbc52c9993eb66aeb366602958fdfaa283b71e64db123),
  (utf8 "l", bytes32 0xacac86c0e609ca906f632b0e2dacccb2b77d22b0621f20ebece1a4835b93f6f0),
  (utf8 (referenceValue (bytes32 1)),
    bytes32 0x1aeb305eae63ed6eac9ab26d46ef146ad48f5ae59c608cd41115ec4b19b5cd72),
  (utf8 (referenceValue (bytes32 2)),
    bytes32 0x98a99ea1ce6c337d53de5931390c0c9185896bc9d66a451c1f084b2c1fd30ee1),
  (utf8 (referenceValue (bytes32 3)),
    bytes32 0x0ea3bee6890b29258f14b9e3aac9dcd38ce39966b6c0b74afb82e8f1d948d9bb),
  (utf8 (referenceValue (bytes32 4)),
    bytes32 0x22af619d2602cd8377fc5ee2ec555d1bef68b7e92f87fde57e1462c0c9c5911c),
  (utf8 (referenceValue (bytes32 5)),
    bytes32 0x235acaa14cfea62f75869427d269d4b87a416a18dcb6b200f793ede30dad3b10),
  (utf8 (referenceValue (bytes32 6)),
    bytes32 0xa63837afe25959ba787cedd7e483f4d41cc418692499d1efd0f7d7765d0e7b9d)]

/-- The functions of other crates on the inputs of small runs. -/
@[reducible] def Crates.sample : Crates where
  sha256 value := (sampleDigests.lookup value).getD (bytes32 0)
  base64Decode _ := none
  urlParse _ := none
  urlToString _ := ""
  cookieSplitParse _ := []
  authorizeUrl _ _ _ := ""

end AuthFoundation
