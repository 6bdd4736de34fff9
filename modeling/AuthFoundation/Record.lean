import AuthFoundation.Foundation
import AuthFoundation.Lib.Lua

set_option autoImplicit false

/-!
# The records kept in Redis

Four families of records, each stored as one hash whose fields are strings.

* `ExternalAuthTransaction`, `CommonSession`, `AuthenticationHandoff`, `CommonLogoutTransaction`.
* `encodeExternal`, …, `decodeLogout`: records as fields and back.
* `Fields`: the maps of strings the decoders read; `recordHash`: the hash of a list of fields.
* `decodeExternal_encode`, …, `decodeLogout_encode`: decoding inverts encoding.
-/

namespace AuthFoundation

open Text Redis

inductive ExternalStatus where
  | waiting
  | processing
  deriving DecidableEq, Repr

inductive UsageStatus where
  | unused
  | used
  deriving DecidableEq, Repr

@[ext]
structure ExternalAuthTransaction where
  serviceId : String
  serviceState : String
  handoffCodeChallenge : String
  provider : String
  providerVerificationData : String
  createdAt : UInt64
  expiresAt : UInt64
  status : ExternalStatus
  deriving DecidableEq

@[ext]
structure CommonSession where
  internalUserId : Int32
  authenticatedAt : UInt64
  createdAt : UInt64
  expiresAt : UInt64
  deriving DecidableEq

@[ext]
structure AuthenticationHandoff where
  serviceId : String
  internalUserId : Int32
  commonSessionLookup : String
  codeChallenge : String
  authenticatedAt : UInt64
  issuedAt : UInt64
  expiresAt : UInt64
  status : UsageStatus
  deriving DecidableEq

@[ext]
structure CommonLogoutTransaction where
  serviceId : String
  logoutReturnUri : String
  csrfLookup : String
  createdAt : UInt64
  expiresAt : UInt64
  status : UsageStatus
  deriving DecidableEq

inductive RedisStateError where
  | notFound
  | expired
  | redisFailure
  | invalidStoredState
  | alreadyClaimed
  | alreadyUsed
  | serviceMismatch
  | challengeMismatch
  | csrfMismatch
  | keyConflict
  deriving DecidableEq, Repr

structure HandoffExchangeResult where
  internalUserId : Int32
  authenticatedAt : UInt64
  deriving DecidableEq

/-! ## Keys -/

section Keys

variable [Crates]

def externalKey (reference : String) : String := "auth:external:" ++ referenceValueLookup reference

def sessionKey (reference : String) : String := "auth:session:" ++ referenceValueLookup reference

def handoffKey (reference : String) : String := "auth:handoff:" ++ referenceValueLookup reference

def logoutKey (reference : String) : String := "auth:logout:" ++ referenceValueLookup reference

end Keys

def isLookup (value : String) : Bool :=
  len value = 64 && isAscii value && (utf8 value).all isHex

def sessionKeyFromLookup (lookup : String) : Except RedisStateError String :=
  if !isLookup lookup then .error .invalidStoredState else .ok ("auth:session:" ++ lookup)

/-! ## Fields -/

/-- Maps of strings: hashes whose names and values are UTF-8. -/
structure Fields where
  hash : Hash
  valid : ∀ f ∈ hash.keys, (text? f).isSome ∧ ((hash.lookup f).bind text?).isSome

namespace Fields

def ofHash? (h : Hash) : Option Fields :=
  if hv : ∀ f ∈ h.keys, (text? f).isSome ∧ ((h.lookup f).bind text?).isSome then some ⟨h, hv⟩
  else none

def len (fields : Fields) : ℕ := hlen fields.hash

def get (fields : Fields) (name : String) : Option String :=
  (fields.hash.lookup (utf8 name)).bind text?

def containsKey (fields : Fields) (name : String) : Bool := (fields.get name).isSome

def empty : Fields := ⟨∅, by simp⟩

def insert (fields : Fields) (name value : String) : Fields where
  hash := fields.hash.insert (utf8 name) (utf8 value)
  valid f hf := by
    by_cases h : f = utf8 name
    · subst h
      simp
    · rw [keys_insert, Finset.mem_insert] at hf
      rw [Finmap.lookup_insert_of_ne _ h]
      exact fields.valid f (hf.resolve_left h)

theorem ofHash?_eq_some {h : Hash} {fields : Fields} (e : ofHash? h = some fields) :
    fields.hash = h := by
  unfold ofHash? at e
  split at e
  · cases e
    rfl
  · cases e

theorem ofHash?_hash (fields : Fields) : ofHash? fields.hash = some fields := dif_pos fields.valid

end Fields

/-- The fields and values of a record, as the bytes that are sent and stored. -/
def fieldBytes (l : List (String × String)) : List (Bytes × Bytes) :=
  l.map fun p => (utf8 p.1, utf8 p.2)

/-- The hash of a record. -/
def recordHash (l : List (String × String)) : Hash := hashOf (fieldBytes l)

section RecordHash

variable {l : List (String × String)}

theorem fieldBytes_lookup (f : String) :
    (fieldBytes l).lookup (utf8 f) = (l.lookup f).map utf8 := by
  induction l with
  | nil => rfl
  | cons p l ih =>
    rw [fieldBytes, List.map_cons, List.lookup_cons, List.lookup_cons, ← fieldBytes, ih]
    by_cases h : f = p.1
    · subst h
      simp
    · rw [beq_false_of_ne h, beq_false_of_ne fun e => h (utf8_injective e)]

theorem fieldBytes_nodup (hl : (l.map Prod.fst).Nodup) :
    ((fieldBytes l).map Prod.fst).Nodup := by
  have : (fieldBytes l).map Prod.fst = (l.map Prod.fst).map utf8 := by simp [fieldBytes]
  rw [this]
  exact hl.map utf8_injective

theorem lookup_recordHash (hl : (l.map Prod.fst).Nodup) (f : String) :
    (recordHash l).lookup (utf8 f) = (l.lookup f).map utf8 := by
  rw [recordHash, lookup_hashOf (fieldBytes_nodup hl), fieldBytes_lookup]

theorem hlen_recordHash (hl : (l.map Prod.fst).Nodup) : hlen (recordHash l) = l.length := by
  rw [recordHash, hlen_hashOf (fieldBytes_nodup hl), fieldBytes, List.length_map]

/-- Writing the fields of a record again replaces the last one. -/
theorem recordHash_insert (f v v' : String) :
    (recordHash (l ++ [(f, v)])).insert (utf8 f) (utf8 v') = recordHash (l ++ [(f, v')]) := by
  simp only [recordHash, fieldBytes, List.map_append, List.map_cons, List.map_nil, hashOf_concat,
    Finmap.insert_insert]

/-- The fields of a record are strings. -/
theorem ofHash?_recordHash (hl : (l.map Prod.fst).Nodup) :
    ∃ fields, Fields.ofHash? (recordHash l) = some fields ∧ fields.len = l.length ∧
      ∀ f, fields.get f = l.lookup f := by
  have hv : ∀ f ∈ (recordHash l).keys,
      (text? f).isSome ∧ (((recordHash l).lookup f).bind text?).isSome := by
    intro f hf
    rw [recordHash, hashOf, keys_overlay, Finmap.keys_empty, Finset.empty_union,
      List.mem_toFinset, fieldBytes, List.map_map, List.mem_map] at hf
    obtain ⟨p, hp, rfl⟩ := hf
    have hs : (l.lookup p.1).isSome := by
      rw [Option.isSome_iff_ne_none, ne_eq, List.lookup_eq_none_iff]
      exact fun h => absurd (h p hp) (by simp)
    simp only [Function.comp_apply, lookup_recordHash hl, text?_utf8, Option.isSome_some, true_and]
    obtain ⟨v, hv⟩ := Option.isSome_iff_exists.mp hs
    simp [hv]
  refine ⟨⟨_, hv⟩, dif_pos hv, hlen_recordHash hl, fun f => ?_⟩
  rw [Fields.get, lookup_recordHash hl]
  cases l.lookup f <;> simp

end RecordHash

/-! ## Encoding -/

def externalStatusValue : ExternalStatus → String
  | .waiting => "waiting"
  | .processing => "processing"

def usageStatusValue : UsageStatus → String
  | .unused => "unused"
  | .used => "used"

def encodeExternal (state : ExternalAuthTransaction) : List (String × String) := [
  ("service_id", state.serviceId),
  ("service_state", state.serviceState),
  ("handoff_code_challenge", state.handoffCodeChallenge),
  ("provider", state.provider),
  ("provider_verification_data", state.providerVerificationData),
  ("created_at", toString state.createdAt),
  ("expires_at", toString state.expiresAt),
  ("status", externalStatusValue state.status)]

def encodeSession (state : CommonSession) : List (String × String) := [
  ("internal_user_id", toString state.internalUserId),
  ("authenticated_at", toString state.authenticatedAt),
  ("created_at", toString state.createdAt),
  ("expires_at", toString state.expiresAt)]

def encodeHandoff (state : AuthenticationHandoff) : List (String × String) := [
  ("service_id", state.serviceId),
  ("internal_user_id", toString state.internalUserId),
  ("common_session_lookup", state.commonSessionLookup),
  ("code_challenge", state.codeChallenge),
  ("authenticated_at", toString state.authenticatedAt),
  ("issued_at", toString state.issuedAt),
  ("expires_at", toString state.expiresAt),
  ("status", usageStatusValue state.status)]

def encodeLogout (state : CommonLogoutTransaction) : List (String × String) := [
  ("service_id", state.serviceId),
  ("logout_return_uri", state.logoutReturnUri),
  ("csrf_lookup", state.csrfLookup),
  ("created_at", toString state.createdAt),
  ("expires_at", toString state.expiresAt),
  ("status", usageStatusValue state.status)]

/-! ## Decoding -/

def externalFields : List String :=
  ["service_id", "service_state", "handoff_code_challenge", "provider",
    "provider_verification_data", "created_at", "expires_at", "status"]

def sessionFields : List String :=
  ["internal_user_id", "authenticated_at", "created_at", "expires_at"]

def handoffFields : List String :=
  ["service_id", "internal_user_id", "common_session_lookup", "code_challenge",
    "authenticated_at", "issued_at", "expires_at", "status"]

def logoutFields : List String :=
  ["service_id", "logout_return_uri", "csrf_lookup", "created_at", "expires_at", "status"]

def validateFieldNames (fields : Fields) (expected : List String) : Except RedisStateError Unit :=
  if fields.len ≠ expected.length ∨ expected.any (fun field => !fields.containsKey field) then
    .error .invalidStoredState
  else .ok ()

def requiredString (fields : Fields) (field : String) : Except RedisStateError String :=
  match fields.get field with
  | some value => .ok value
  | none => .error .invalidStoredState

/-- `str::parse::<u64>`, on the bytes of the string. -/
def parseUInt64 : Bytes → Option UInt64
  | 43 :: d => if numeral d ∧ decimal d < 2 ^ 64 then some (UInt64.ofNat (decimal d)) else none
  | d => if numeral d ∧ decimal d < 2 ^ 64 then some (UInt64.ofNat (decimal d)) else none

/-- `str::parse::<i32>`, on the bytes of the string. -/
def parseInt32 : Bytes → Option Int32
  | 43 :: d => if numeral d ∧ decimal d < 2 ^ 31 then some (Int32.ofInt (decimal d)) else none
  | 45 :: d => if numeral d ∧ decimal d ≤ 2 ^ 31 then some (Int32.ofInt (-decimal d)) else none
  | d => if numeral d ∧ decimal d < 2 ^ 31 then some (Int32.ofInt (decimal d)) else none

def parseU64 (fields : Fields) (field : String) : Except RedisStateError UInt64 := do
  match parseUInt64 (utf8 (← requiredString fields field)) with
  | some n => .ok n
  | none => .error .invalidStoredState

def parseI32 (fields : Fields) (field : String) : Except RedisStateError Int32 := do
  match parseInt32 (utf8 (← requiredString fields field)) with
  | some n => .ok n
  | none => .error .invalidStoredState

def decodeExternalStatus : String → Except RedisStateError ExternalStatus
  | "waiting" => .ok .waiting
  | "processing" => .ok .processing
  | _ => .error .invalidStoredState

def decodeUsageStatus : String → Except RedisStateError UsageStatus
  | "unused" => .ok .unused
  | "used" => .ok .used
  | _ => .error .invalidStoredState

def decodeExternal (fields : Fields) : Except RedisStateError ExternalAuthTransaction := do
  validateFieldNames fields externalFields
  return {
    serviceId := ← requiredString fields "service_id"
    serviceState := ← requiredString fields "service_state"
    handoffCodeChallenge := ← requiredString fields "handoff_code_challenge"
    provider := ← requiredString fields "provider"
    providerVerificationData := ← requiredString fields "provider_verification_data"
    createdAt := ← parseU64 fields "created_at"
    expiresAt := ← parseU64 fields "expires_at"
    status := ← decodeExternalStatus (← requiredString fields "status") }

def decodeSession (fields : Fields) : Except RedisStateError CommonSession := do
  validateFieldNames fields sessionFields
  return {
    internalUserId := ← parseI32 fields "internal_user_id"
    authenticatedAt := ← parseU64 fields "authenticated_at"
    createdAt := ← parseU64 fields "created_at"
    expiresAt := ← parseU64 fields "expires_at" }

def decodeHandoff (fields : Fields) : Except RedisStateError AuthenticationHandoff := do
  validateFieldNames fields handoffFields
  let commonSessionLookup ← requiredString fields "common_session_lookup"
  if !isLookup commonSessionLookup then .error .invalidStoredState
  else return {
    serviceId := ← requiredString fields "service_id"
    internalUserId := ← parseI32 fields "internal_user_id"
    commonSessionLookup := commonSessionLookup
    codeChallenge := ← requiredString fields "code_challenge"
    authenticatedAt := ← parseU64 fields "authenticated_at"
    issuedAt := ← parseU64 fields "issued_at"
    expiresAt := ← parseU64 fields "expires_at"
    status := ← decodeUsageStatus (← requiredString fields "status") }

def decodeLogout (fields : Fields) : Except RedisStateError CommonLogoutTransaction := do
  validateFieldNames fields logoutFields
  let csrfLookup ← requiredString fields "csrf_lookup"
  if !isLookup csrfLookup then .error .invalidStoredState
  else return {
    serviceId := ← requiredString fields "service_id"
    logoutReturnUri := ← requiredString fields "logout_return_uri"
    csrfLookup := csrfLookup
    createdAt := ← parseU64 fields "created_at"
    expiresAt := ← parseU64 fields "expires_at"
    status := ← decodeUsageStatus (← requiredString fields "status") }

/-! ## Names and values -/

theorem encodeExternal_nodup (r : ExternalAuthTransaction) :
    ((encodeExternal r).map Prod.fst).Nodup := (by decide : externalFields.Nodup)

theorem encodeSession_nodup (r : CommonSession) : ((encodeSession r).map Prod.fst).Nodup :=
  (by decide : sessionFields.Nodup)

theorem encodeHandoff_nodup (r : AuthenticationHandoff) :
    ((encodeHandoff r).map Prod.fst).Nodup := (by decide : handoffFields.Nodup)

theorem encodeLogout_nodup (r : CommonLogoutTransaction) :
    ((encodeLogout r).map Prod.fst).Nodup := (by decide : logoutFields.Nodup)

/-! ## Decoding inverts encoding -/

theorem utf8_toString_u64 (n : UInt64) : utf8 (toString n) = digits n.toNat := rfl

/-- An `i32` is printed as its digits, with a sign if it is negative. -/
theorem utf8_toString_i32 (n : Int32) :
    (∃ m : ℕ, n.toInt = m ∧ utf8 (toString n) = digits m) ∨
      ∃ m : ℕ, n.toInt = -m ∧ utf8 (toString n) = 45 :: digits m := by
  have h : toString n = toString n.toInt := rfl
  rw [h]
  cases n.toInt with
  | ofNat m => exact .inl ⟨m, rfl, rfl⟩
  | negSucc m =>
    refine .inr ⟨m + 1, rfl, ?_⟩
    rw [toString_negSucc, utf8_append]
    rfl

@[simp] theorem parseUInt64_toString (n : UInt64) : parseUInt64 (utf8 (toString n)) = some n := by
  rw [utf8_toString_u64, parseUInt64]
  · rw [numeral_digits, decimal_digits, if_pos ⟨rfl, n.toNat_lt⟩, UInt64.ofNat_toNat]
  · exact Lua.digits_ne (by decide) _

@[simp] theorem parseInt32_toString (n : Int32) : parseInt32 (utf8 (toString n)) = some n := by
  have h₁ := n.toInt_lt
  have h₂ := n.le_toInt
  obtain ⟨m, hm, e⟩ | ⟨m, hm, e⟩ := utf8_toString_i32 n
  · rw [e, parseInt32]
    · rw [numeral_digits, decimal_digits, if_pos ⟨rfl, by omega⟩, ← hm, Int32.ofInt_toInt]
    · exact Lua.digits_ne (by decide) _
    · exact Lua.digits_ne (by decide) _
  · rw [e, parseInt32, numeral_digits, decimal_digits, if_pos ⟨rfl, by omega⟩, ← hm,
      Int32.ofInt_toInt]

section RoundTrip

variable {fields : Fields} {l : List (String × String)}

/-- A map with the fields of a list of pairs. -/
def Fields.Of (fields : Fields) (l : List (String × String)) : Prop :=
  fields.len = l.length ∧ ∀ f, fields.get f = l.lookup f

theorem Fields.Of.requiredString (h : fields.Of l) {f v : String} (hf : l.lookup f = some v) :
    requiredString fields f = .ok v := by
  rw [AuthFoundation.requiredString, h.2, hf]

theorem Fields.Of.parseU64 (h : fields.Of l) {f : String} {n : UInt64}
    (hf : l.lookup f = some (toString n)) : parseU64 fields f = .ok n := by
  rw [AuthFoundation.parseU64, h.requiredString hf]
  simp [bind, Except.bind]

theorem Fields.Of.parseI32 (h : fields.Of l) {f : String} {n : Int32}
    (hf : l.lookup f = some (toString n)) : parseI32 fields f = .ok n := by
  rw [AuthFoundation.parseI32, h.requiredString hf]
  simp [bind, Except.bind]

theorem Fields.Of.validateFieldNames (h : fields.Of l) :
    validateFieldNames fields (l.map Prod.fst) = .ok () := by
  refine if_neg (not_or.mpr ⟨fun hn => hn (by rw [h.1, List.length_map]), fun hn => ?_⟩)
  obtain ⟨f, hf, hc⟩ := List.any_eq_true.mp hn
  obtain ⟨p, hp, rfl⟩ := List.mem_map.mp hf
  rw [Fields.containsKey, h.2, Bool.not_eq_eq_eq_not, Bool.not_true, Option.isSome_eq_false_iff,
    Option.isNone_iff_eq_none, List.lookup_eq_none_iff] at hc
  exact absurd (hc p hp) (by simp)

theorem decodeExternal_encode {r : ExternalAuthTransaction} (h : fields.Of (encodeExternal r)) :
    decodeExternal fields = .ok r := by
  have hv : validateFieldNames fields externalFields = .ok () := h.validateFieldNames
  have hs : decodeExternalStatus (externalStatusValue r.status) = .ok r.status := by
    cases r.status <;> rfl
  simp only [decodeExternal, hv, h.requiredString (f := "service_id") rfl,
    h.requiredString (f := "service_state") rfl,
    h.requiredString (f := "handoff_code_challenge") rfl,
    h.requiredString (f := "provider") rfl, h.requiredString (f := "status") rfl,
    h.requiredString (f := "provider_verification_data") rfl, h.parseU64 (f := "created_at") rfl,
    h.parseU64 (f := "expires_at") rfl, bind, Except.bind, hs]
  rfl

theorem decodeSession_encode {r : CommonSession} (h : fields.Of (encodeSession r)) :
    decodeSession fields = .ok r := by
  have hv : validateFieldNames fields sessionFields = .ok () := h.validateFieldNames
  simp only [decodeSession, hv, h.parseI32 (f := "internal_user_id") rfl,
    h.parseU64 (f := "authenticated_at") rfl, h.parseU64 (f := "created_at") rfl,
    h.parseU64 (f := "expires_at") rfl, bind, Except.bind]
  rfl

theorem decodeUsageStatus_value (status : UsageStatus) :
    decodeUsageStatus (usageStatusValue status) = .ok status := by
  cases status <;> rfl

theorem decodeHandoff_encode {r : AuthenticationHandoff} (h : fields.Of (encodeHandoff r))
    (hl : isLookup r.commonSessionLookup = true) : decodeHandoff fields = .ok r := by
  have hv : validateFieldNames fields handoffFields = .ok () := h.validateFieldNames
  simp only [decodeHandoff, hv, h.requiredString (f := "service_id") rfl,
    h.requiredString (f := "common_session_lookup") rfl,
    h.requiredString (f := "code_challenge") rfl,
    h.requiredString (f := "status") rfl, h.parseI32 (f := "internal_user_id") rfl,
    h.parseU64 (f := "authenticated_at") rfl, h.parseU64 (f := "issued_at") rfl,
    h.parseU64 (f := "expires_at") rfl, decodeUsageStatus_value, hl, bind, Except.bind]
  rfl

theorem decodeLogout_encode {r : CommonLogoutTransaction} (h : fields.Of (encodeLogout r))
    (hl : isLookup r.csrfLookup = true) : decodeLogout fields = .ok r := by
  have hv : validateFieldNames fields logoutFields = .ok () := h.validateFieldNames
  simp only [decodeLogout, hv, h.requiredString (f := "service_id") rfl,
    h.requiredString (f := "logout_return_uri") rfl, h.requiredString (f := "csrf_lookup") rfl,
    h.requiredString (f := "status") rfl, h.parseU64 (f := "created_at") rfl,
    h.parseU64 (f := "expires_at") rfl, decodeUsageStatus_value, hl, bind, Except.bind]
  rfl

/-- A decoder that inverts an encoding reads the stored record back. -/
theorem decode_record {α : Type} {decode : Fields → Except RedisStateError α} {a : α}
    (hn : (l.map Prod.fst).Nodup) (hd : ∀ fields : Fields, fields.Of l → decode fields = .ok a)
    (h : Fields.ofHash? (recordHash l) = some fields) : decode fields = .ok a := by
  obtain ⟨fields', hf, hl, hget⟩ := ofHash?_recordHash hn
  cases h.symm.trans hf
  exact hd _ ⟨hl, hget⟩

/-- The stored record of a session decodes to the session. -/
theorem decodeSession_record {r : CommonSession}
    (h : Fields.ofHash? (recordHash (encodeSession r)) = some fields) :
    decodeSession fields = .ok r :=
  decode_record (encodeSession_nodup r) (fun _ => decodeSession_encode) h

theorem recordHash_encodeSession_inj {a b : CommonSession}
    (h : recordHash (encodeSession a) = recordHash (encodeSession b)) : a = b := by
  obtain ⟨fields, hf, -⟩ := ofHash?_recordHash (encodeSession_nodup a)
  have ha := decodeSession_record hf
  rw [h] at hf
  exact Except.ok.inj (ha.symm.trans (decodeSession_record hf))

end RoundTrip

end AuthFoundation
