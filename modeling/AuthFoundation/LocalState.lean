import AuthFoundation.Foundation

set_option autoImplicit false

/-!
# The local state of the portal

Login starts and local sessions, in memory. Each function runs under the lock, so it is one step.
Random references come from bytes that the reply names.

* `PortalLocalState`, `createLoginStart`, `claimLoginStart`, `createLocalSession`, …: the state and
  its functions.
* `LocalCall`, `PortalLocalState.exec`: any of them with its arguments.
* `lookup_retain`: cleaning up only removes records.
-/

namespace AuthFoundation

open Text

def loginStartTtlSeconds : UInt64 := 600
def localSessionTtlSeconds : UInt64 := 28800
def postLoginPathMaxBytes : ℕ := 2048

structure LoginStart where
  browserContextReference : String
  codeVerifier : String
  postLoginPath : String
  createdAt : UInt64
  expiresAt : UInt64
  deriving DecidableEq

structure CreatedLoginStart where
  state : String
  browserContextReference : String
  codeChallenge : String
  deriving DecidableEq

structure LocalSession where
  internalUserId : Int32
  authenticatedAt : UInt64
  createdAt : UInt64
  expiresAt : UInt64
  csrfLookup : Vector UInt8 32
  deriving DecidableEq

inductive LocalStateError where
  | capacityReached
  | notFound
  | expired
  | browserContextMismatch
  | invalidPostLoginPath
  | expiryOverflow
  deriving DecidableEq, Repr

/-- Maps by references. -/
abbrev Records (α : Type) := Finmap fun _ : String => α

/-- Keep the records with a property. -/
def Records.retain {α : Type} (p : α → Bool) (m : Records α) : Records α where
  entries := m.entries.filter fun x => p x.2
  nodupKeys := Multiset.nodup_keys.mp (Multiset.nodup_of_le
    (Multiset.map_le_map (Multiset.filter_le _ _)) (Multiset.nodup_keys.mpr m.nodupKeys))

theorem lookup_retain {α : Type} (p : α → Bool) (m : Records α) (k : String) :
    (m.retain p).lookup k = (m.lookup k).filter p := by
  apply Option.ext
  intro a
  rw [Option.filter_eq_some_iff, Finmap.lookup_eq_some_iff, Finmap.lookup_eq_some_iff]
  exact Multiset.mem_filter

structure PortalLocalState where
  loginStarts : Records LoginStart
  localSessions : Records LocalSession
  loginStartCapacity : ℕ
  localSessionCapacity : ℕ

/-! ## Random references -/

/-- Random bytes, as they are drawn. -/
abbrev Draws := List (Vector UInt8 32)

/-- The loop that draws references until one is no key of the map. -/
def newKey {α : Type} (m : Records α) : Draws → Option (String × Draws)
  | [] => none
  | bytes :: draws => if (m.lookup (referenceValue bytes)).isSome then newKey m draws
    else some (referenceValue bytes, draws)

theorem newKey_eq_some {α : Type} {m : Records α} {draws rest : Draws} {key : String}
    (h : newKey m draws = some (key, rest)) :
    ∃ skipped bytes, draws = skipped ++ bytes :: rest ∧ key = referenceValue bytes ∧
      m.lookup key = none := by
  induction draws with
  | nil => cases h
  | cons bytes draws ih =>
    simp only [newKey] at h
    split at h
    · obtain ⟨skipped, b, rfl, hb⟩ := ih h
      exact ⟨bytes :: skipped, b, rfl, hb⟩
    · rename_i hn
      cases h
      exact ⟨[], bytes, rfl, rfl, by simpa using hn⟩

/-! ## Functions -/

def validatePostLoginPath (value : String) : Except LocalStateError Unit :=
  -- the bytes of "/" and of the backslash
  if value = "" ∨ postLoginPathMaxBytes < len value ∨ ¬[47] <+: utf8 value ∨
    [47, 47] <+: utf8 value ∨ 92 ∈ utf8 value then .error .invalidPostLoginPath
  else .ok ()

namespace PortalLocalState

def new (loginStartCapacity localSessionCapacity : ℕ) : PortalLocalState :=
  ⟨∅, ∅, loginStartCapacity, localSessionCapacity⟩

def cleanupExpired (s : PortalLocalState) (now : UInt64) : PortalLocalState :=
  { s with
    loginStarts := s.loginStarts.retain fun record => now < record.expiresAt
    localSessions := s.localSessions.retain fun record => now < record.expiresAt }

section Functions

variable [Crates]

/-- `none`: the function would draw more or fewer bytes. -/
def createLoginStart (s : PortalLocalState) (postLoginPath : String) (now : UInt64)
    (draws : Draws) : Option (Except LocalStateError CreatedLoginStart × PortalLocalState) :=
  match validatePostLoginPath postLoginPath with
  | .error e => if draws = [] then some (.error e, s) else none
  | .ok () =>
  let s := s.cleanupExpired now
  if s.loginStartCapacity ≤ s.loginStarts.keys.card then
    if draws = [] then some (.error .capacityReached, s) else none
  else match checkedExpiresAt now loginStartTtlSeconds with
  | .error _ => if draws = [] then some (.error .expiryOverflow, s) else none
  | .ok expiresAt =>
  match newKey s.loginStarts draws with
  | some (state, [context, verifier]) =>
    let browserContextReference := referenceValue context
    let codeVerifier := referenceValue verifier
    let codeChallenge := sha256Base64url (utf8 codeVerifier)
    some (.ok ⟨state, browserContextReference, codeChallenge⟩, { s with
      loginStarts := s.loginStarts.insert state
        ⟨browserContextReference, codeVerifier, postLoginPath, now, expiresAt⟩ })
  | _ => none

omit [Crates] in
def claimLoginStart (s : PortalLocalState) (state browserContextReference : String)
    (now : UInt64) : Except LocalStateError LoginStart × PortalLocalState :=
  match s.loginStarts.lookup state with
  | none => (.error .notFound, s)
  | some record =>
  if record.expiresAt ≤ now then
    (.error .expired, { s with loginStarts := s.loginStarts.erase state })
  else if record.browserContextReference ≠ browserContextReference then
    (.error .browserContextMismatch, s)
  else (.ok record, { s with loginStarts := s.loginStarts.erase state })

def createLocalSession (s : PortalLocalState) (internalUserId : Int32)
    (authenticatedAt now : UInt64) (draws : Draws) :
    Option (Except LocalStateError (String × String) × PortalLocalState) :=
  let s := s.cleanupExpired now
  if s.localSessionCapacity ≤ s.localSessions.keys.card then
    if draws = [] then some (.error .capacityReached, s) else none
  else match checkedExpiresAt now localSessionTtlSeconds with
  | .error _ => if draws = [] then some (.error .expiryOverflow, s) else none
  | .ok expiresAt =>
  match newKey s.localSessions draws with
  | some (reference, [csrf]) =>
    let csrfPlaintext := referenceValue csrf
    some (.ok (reference, csrfPlaintext), { s with
      localSessions := s.localSessions.insert reference
        ⟨internalUserId, authenticatedAt, now, expiresAt, sha256Digest (utf8 csrfPlaintext)⟩ })
  | _ => none

omit [Crates] in
def getLocalSession (s : PortalLocalState) (reference : String) (now : UInt64) :
    Option LocalSession × PortalLocalState :=
  match s.localSessions.lookup reference with
  | none => (none, s)
  | some record =>
  if record.expiresAt ≤ now then
    (none, { s with localSessions := s.localSessions.erase reference })
  else (some record, s)

omit [Crates] in
def removeLocalSession (s : PortalLocalState) (reference : String) :
    Option LocalSession × PortalLocalState :=
  (s.localSessions.lookup reference,
    { s with localSessions := s.localSessions.erase reference })

/-- The part of `logout` under the lock: whether a session was removed. -/
def logoutLocked (s : PortalLocalState) (sessionReference csrfCookie csrfHeader : String)
    (now : UInt64) : Bool × PortalLocalState :=
  match s.getLocalSession sessionReference now with
  | (none, s) => (false, s)
  | (some session, s) =>
  if csrfCookie ≠ csrfHeader then (false, s)
  else if !sha256DigestEq (sha256Digest (utf8 csrfCookie)) session.csrfLookup then (false, s)
  else
    let removed := s.removeLocalSession sessionReference
    (removed.1.isSome, removed.2)

end Functions

end PortalLocalState

/-! ## Calls -/

inductive LocalCall where
  | createLoginStart (postLoginPath : String) (now : UInt64)
  | claimLoginStart (state browserContextReference : String) (now : UInt64)
  | createLocalSession (internalUserId : Int32) (authenticatedAt now : UInt64)
  | getLocalSession (reference : String) (now : UInt64)
  | removeLocalSession (reference : String)
  | logoutLocked (sessionReference csrfCookie csrfHeader : String) (now : UInt64)
  | cleanupExpired (now : UInt64)
  deriving DecidableEq

abbrev LocalCall.Result : LocalCall → Type
  | createLoginStart _ _ => Except LocalStateError CreatedLoginStart
  | claimLoginStart _ _ _ => Except LocalStateError LoginStart
  | createLocalSession _ _ _ => Except LocalStateError (String × String)
  | getLocalSession _ _ => Option LocalSession
  | removeLocalSession _ => Option LocalSession
  | logoutLocked _ _ _ _ => Bool
  | cleanupExpired _ => Unit

instance : ∀ c : LocalCall, DecidableEq c.Result
  | .createLoginStart _ _ => inferInstanceAs (DecidableEq (Except LocalStateError _))
  | .claimLoginStart _ _ _ => inferInstanceAs (DecidableEq (Except LocalStateError _))
  | .createLocalSession _ _ _ => inferInstanceAs (DecidableEq (Except LocalStateError _))
  | .getLocalSession _ _ => inferInstanceAs (DecidableEq (Option LocalSession))
  | .removeLocalSession _ => inferInstanceAs (DecidableEq (Option LocalSession))
  | .logoutLocked _ _ _ _ => inferInstanceAs (DecidableEq Bool)
  | .cleanupExpired _ => inferInstanceAs (DecidableEq Unit)

/-- **A call**, with the bytes it draws. -/
def PortalLocalState.exec [Crates] (s : PortalLocalState) :
    (c : LocalCall) → Draws → Option (c.Result × PortalLocalState)
  | .createLoginStart postLoginPath now, draws => s.createLoginStart postLoginPath now draws
  | .claimLoginStart state browserContextReference now, [] =>
    some (s.claimLoginStart state browserContextReference now)
  | .createLocalSession internalUserId authenticatedAt now, draws =>
    s.createLocalSession internalUserId authenticatedAt now draws
  | .getLocalSession reference now, [] => some (s.getLocalSession reference now)
  | .removeLocalSession reference, [] => some (s.removeLocalSession reference)
  | .logoutLocked sessionReference csrfCookie csrfHeader now, [] =>
    some (s.logoutLocked sessionReference csrfCookie csrfHeader now)
  | .cleanupExpired now, [] => some ((), s.cleanupExpired now)
  | _, _ => none

end AuthFoundation
