import AuthFoundation.Decoding
import AuthFoundation.OneShot

set_option autoImplicit false

/-!
# The messages of the portal

* `LoginQuery.decode`, `toStr`: how the authentication service reads a query and a header.
* `validateFixedReferenceValue_referenceValue`, `isFixedReference_iff`, `validateServiceId_iff`: the
  validators of both sides.
* `basicCredentials_basicAuth`: credentials are read back.
* `messages_accepted`: **the service accepts what the portal sends**, unchanged.
-/

namespace AuthFoundation

open Text

/-! ## Reading messages -/

/-- The value of a field that occurs once. -/
def onlyValue (pairs : List (String × String)) (name : String) : Option String :=
  match pairs.filter fun pair => pair.1 = name with
  | [pair] => some pair.2
  | _ => none

/-- The query of a login; other fields are ignored. -/
def LoginQuery.decode (query : String) : Option LoginQuery := do
  let pairs := Form.parse query
  let serviceId ← onlyValue pairs "service_id"
  let state ← onlyValue pairs "state"
  let codeChallenge ← onlyValue pairs "code_challenge"
  let codeChallengeMethod ← onlyValue pairs "code_challenge_method"
  some ⟨serviceId, state, codeChallenge, codeChallengeMethod⟩

/-- `HeaderValue::to_str`: visible ASCII and tabs. -/
def toStr (value : String) : Option String :=
  if (utf8 value).all fun byte => (32 ≤ byte && byte < 127) || byte = 9 then some value else none

/-! ## References -/

/-- **References pass** as fixed values. -/
theorem validateFixedReferenceValue_base64url {l : Bytes} (hl : l.length = 32) :
    validateFixedReferenceValue (base64url l) = .ok () := by
  have hlen : len (base64url l) = referenceValueEncodedBytes := by
    rw [len, length_base64url, hl]
    rfl
  rw [validateFixedReferenceValue, if_neg (not_not.mpr hlen), if_pos]
  exact all_isSextet_base64url l

theorem validateFixedReferenceValue_referenceValue (b : Vector UInt8 32) :
    validateFixedReferenceValue (referenceValue b) = .ok () :=
  validateFixedReferenceValue_base64url b.size_toArray

/-- **Both sides agree on references.** -/
theorem Portal.isFixedReference_iff {v : String} :
    Portal.isFixedReference v = true ↔ validateFixedReferenceValue v = .ok () := by
  have hb : (fun byte : UInt8 => isDigit byte || (65 ≤ byte && byte ≤ 90) ||
      (97 ≤ byte && byte ≤ 122) || decide (byte = 95) || decide (byte = 45)) =
      isBase64urlNoPadByte := by
    funext byte
    unfold isBase64urlNoPadByte
    grind
  rw [validateFixedReferenceValue_eq_ok, Portal.isFixedReference, hb, Bool.and_eq_true,
    decide_eq_true_eq]

/-! ## Queries -/

/-- The values found so far are references. -/
def Portal.Fixed (query : Option String × Option String) : Prop :=
  (∀ v, query.1 = some v → Portal.isFixedReference v = true) ∧
    ∀ v, query.2 = some v → Portal.isFixedReference v = true

theorem Portal.setParameter_fixed {query query' : Option String × Option String}
    {name value : String} (h : Portal.setParameter query name value = .ok query')
    (hq : Portal.Fixed query) : Portal.Fixed query' := by
  unfold Portal.setParameter at h
  split_ifs at h with h₁ h₂ h₃ h₄
  · cases h
    simp only [Bool.or_eq_true, Bool.not_eq_true', not_or, Bool.not_eq_false] at h₂
    exact ⟨fun v e => Option.some.inj e ▸ h₂.2, hq.2⟩
  · cases h
    simp only [Bool.or_eq_true, Bool.not_eq_true', not_or, Bool.not_eq_false] at h₄
    exact ⟨hq.1, fun v e => Option.some.inj e ▸ h₄.2⟩

theorem Portal.foldlM_fixed {pairs : List (String × String)} :
    ∀ {query query' : Option String × Option String},
    pairs.foldlM (fun q p => Portal.setParameter q p.1 p.2) query = .ok query' →
    Portal.Fixed query → Portal.Fixed query' := by
  induction pairs with
  | nil =>
    intro query query' h hq
    cases h
    exact hq
  | cons pair pairs ih =>
    intro query query' h hq
    rw [List.foldlM_cons] at h
    obtain ⟨query₁, h₁, h₂⟩ := bind_eq_ok.mp h
    exact ih h₂ (Portal.setParameter_fixed h₁ hq)

/-- The code and the state of a callback are references. -/
theorem Portal.parseCallbackQuery_fixed {rawQuery : String} {query : Portal.CallbackQuery}
    (h : Portal.parseCallbackQuery rawQuery = .ok query) :
    Portal.isFixedReference query.code = true ∧ Portal.isFixedReference query.state = true := by
  obtain ⟨values, h₁, h₂⟩ := bind_eq_ok.mp h
  have hf := Portal.foldlM_fixed h₁ ⟨nofun, nofun⟩
  match values, h₂ with
  | (some code, some state), h₂ =>
    cases h₂
    exact ⟨hf.1 code rfl, hf.2 state rfl⟩

/-! ## Service ids -/

theorem validateServiceId_eq_ok {v : String} : AuthFoundation.validateServiceId v = .ok () ↔
    ∃ first rest, utf8 v = first :: rest ∧ rest.length < 64 ∧
      isServiceIdFirstByte first = true ∧ rest.all isServiceIdRestByte = true := by
  unfold AuthFoundation.validateServiceId
  cases hv : utf8 v with
  | nil => exact iff_of_false nofun fun ⟨_, _, h, _⟩ => by cases h
  | cons first rest =>
    have hlen : serviceIdMaxBytes < (first :: rest).length ↔ ¬rest.length < 64 := by
      rw [List.length_cons, serviceIdMaxBytes]
      omega
    dsimp only
    split_ifs with hl hb
    · refine iff_of_false nofun fun ⟨_, _, he, h, _⟩ => ?_
      cases he
      exact hlen.mp hl h
    · refine iff_of_false nofun fun ⟨_, _, he, _, hf, hr⟩ => ?_
      cases he
      simp [hf, hr] at hb
    · simp only [Bool.or_eq_true, Bool.not_eq_true', not_or, Bool.not_eq_false] at hb
      exact iff_of_true rfl ⟨first, rest, rfl, not_not.mp (mt hlen.mpr hl), hb.1, hb.2⟩

theorem Portal.validateServiceId_eq_ok {v : String} : Portal.validateServiceId v = .ok () ↔
    ∃ first rest, utf8 v = first :: rest ∧ rest.length < 64 ∧
      isServiceIdFirstByte first = true ∧ rest.all isServiceIdRestByte = true := by
  have hrest : (fun byte : UInt8 => (97 ≤ byte && byte ≤ 122) || isDigit byte ||
      decide (byte = 95) || decide (byte = 45)) = isServiceIdRestByte := by
    funext byte
    rfl
  have hfirst : (fun byte : UInt8 => (97 ≤ byte && byte ≤ 122) || isDigit byte) =
      isServiceIdFirstByte := by
    funext byte
    rfl
  have hof : ∀ byte, isServiceIdFirstByte byte = true → isServiceIdRestByte byte = true := by
    intro byte h
    simp [isServiceIdRestByte, h]
  unfold Portal.validateServiceId
  rw [hrest, hfirst]
  cases hv : utf8 v with
  | nil => exact iff_of_false nofun fun ⟨_, _, h, _⟩ => by cases h
  | cons first rest =>
    dsimp only
    split_ifs with h
    · simp only [List.head?_cons, Option.any_some, List.all_cons, Bool.and_eq_true,
        decide_eq_true_eq, List.length_cons] at h
      exact iff_of_true rfl ⟨first, rest, rfl, by omega, h.1.2, h.2.2⟩
    · refine iff_of_false nofun fun ⟨_, _, he, hl, hf, hr⟩ => h ?_
      cases he
      simp only [List.head?_cons, Option.any_some, List.all_cons, Bool.and_eq_true,
        decide_eq_true_eq, List.length_cons]
      exact ⟨⟨by omega, hf⟩, hof _ hf, hr⟩

/-- **Both sides agree on service ids.** -/
theorem Portal.validateServiceId_iff {v : String} :
    Portal.validateServiceId v = .ok () ↔ AuthFoundation.validateServiceId v = .ok () := by
  rw [Portal.validateServiceId_eq_ok, AuthFoundation.validateServiceId_eq_ok]

/-- A service id is a nonempty string without separators. -/
theorem not_mem_of_validateServiceId {v : String}
    (h : AuthFoundation.validateServiceId v = .ok ()) : v ≠ "" ∧ ':' ∉ v.toList := by
  obtain ⟨first, rest, hv, -, hf, hr⟩ := AuthFoundation.validateServiceId_eq_ok.mp h
  refine ⟨fun e => ?_, fun hm => ?_⟩
  · rw [e] at hv
    cases hv
  · -- the byte of the separator is none of a service id
    have hm := byte_mem_utf8 (by decide) hm
    rw [hv] at hm
    rcases List.mem_cons.mp hm with e | hm
    · rw [← e] at hf
      cases hf
    · have hb := List.all_eq_true.mp hr _ hm
      cases hb

/-! ## Credentials -/

section Credentials

variable {serviceId serviceSecret : String}

/-- The header is visible ASCII. -/
theorem toStr_basicAuth : toStr (Portal.basicAuth serviceId serviceSecret) =
    some (Portal.basicAuth serviceId serviceSecret) := by
  have hp : (utf8 "Basic ").all (fun byte => (32 ≤ byte && byte < 127) || decide (byte = 9)) =
      true := by decide
  rw [toStr, if_pos]
  rw [Portal.basicAuth, utf8_append, List.all_append, hp, Bool.true_and, List.all_eq_true]
  intro b hb
  have hv := List.all_eq_true.mp (Base64.all_isVisible_encode _) b hb
  rw [Bool.or_eq_true]
  exact .inl hv

/-- **Credentials are read back** if the header is short enough. -/
theorem basicCredentials_basicAuth [Crates]
    (hb : ∀ l, Crates.base64Decode (Base64.encode l) = some l)
    (hs : AuthFoundation.validateServiceId serviceId = .ok ()) (cookies : List (String × String)) :
    basicCredentials ⟨[toStr (Portal.basicAuth serviceId serviceSecret)], cookies⟩ =
        some (serviceId, serviceSecret) ↔
      len (Portal.basicAuth serviceId serviceSecret) ≤ 8192 := by
  obtain ⟨hne, hsep⟩ := not_mem_of_validateServiceId hs
  have hstrip : stripPrefix (Portal.basicAuth serviceId serviceSecret) "Basic " =
      some (Base64.encode (utf8 (serviceId ++ ":" ++ serviceSecret))) := stripPrefix_append _ _
  have hsplit : splitOnce (serviceId ++ ":" ++ serviceSecret) ':' =
      some (serviceId, serviceSecret) := splitOnce_append serviceSecret hsep
  rw [toStr_basicAuth]
  show (if authorizationHeaderMaxBytes < _ then none else _) = _ ↔ _
  split_ifs with hl
  · exact iff_of_false nofun (not_le.mpr hl)
  · refine iff_of_true ?_ (not_lt.mp hl)
    simp only [hstrip, hb, text?_utf8, hsplit, Option.bind_eq_bind, Option.bind_some]
    rw [if_pos hne]

end Credentials

/-! ## Both messages -/

section Messages

variable [Crates] {config : Portal.AppConfig} {s s' : PortalLocalState} {now : UInt64}
  {draws : Draws} {path : String} {created : CreatedLoginStart}

omit [Crates] in
theorem queryPairs_loginUrl (config : Portal.AppConfig) (created : CreatedLoginStart) :
    (Portal.loginUrl config created).queryPairs = [("service_id", config.serviceId),
      ("state", created.state), ("code_challenge", created.codeChallenge),
      ("code_challenge_method", "S256")] := by
  have hn : (Portal.authFoundationEndpoint config.authFoundationBaseUrl "/auth/login").queryPairs =
      [] := rfl
  simp only [Portal.loginUrl, Url.queryPairs_appendPair, hn, List.nil_append, List.cons_append]

theorem pkceS256Challenge_referenceValue (b : Vector UInt8 32) :
    pkceS256Challenge (referenceValue b) = .ok (sha256Base64url (utf8 (referenceValue b))) := by
  obtain ⟨hl, ha⟩ := validateFixedReferenceValue_eq_ok.mp
    (validateFixedReferenceValue_referenceValue b)
  have hascii : isAscii (referenceValue b) = true := by
    rw [isAscii, List.all_eq_true]
    intro x hx
    have hx := List.all_eq_true.mp ha x hx
    simp only [isBase64urlNoPadByte, isDigit, Bool.or_eq_true, Bool.and_eq_true,
      decide_eq_true_eq] at hx ⊢
    grind
  have hr : validateAsciiByteRange (referenceValue b) pkceVerifierMinBytes pkceVerifierMaxBytes =
      .ok () := by
    rw [validateAsciiByteRange, hl, if_neg (by decide), if_pos hascii]
  rw [pkceS256Challenge, hr]
  rfl

/-- **The service accepts the messages of the portal.** After any successful login, the query it
sends decodes to a valid login with the same values; any callback for it sends credentials that
are read back exactly if the header is at most 8192 bytes long, a code that passes, and a verifier
whose challenge is the one sent at login. -/
theorem messages_accepted (hb : ∀ l, Crates.base64Decode (Base64.encode l) = some l)
    (h : s.createLoginStart path now draws = some (.ok created, s')) :
    (∃ query, LoginQuery.decode ((Portal.loginUrl config created).query.getD "") = some query ∧
      loginInputIsValid query = true ∧ query.serviceId = config.serviceId ∧
      query.state = created.state ∧ query.codeChallenge = created.codeChallenge) ∧
    ∃ r, s'.loginStarts.lookup created.state = some r ∧
      ∀ rawQuery code state authorization body,
        Portal.parseCallbackQuery rawQuery = .ok ⟨code, state⟩ →
        Portal.exchangeOp config code r = .exchange authorization body →
        (∀ cookies, basicCredentials ⟨[toStr authorization], cookies⟩ =
          some (config.serviceId, config.serviceSecret) ↔ len authorization ≤ 8192) ∧
        AuthFoundation.validateServiceId config.serviceId = .ok () ∧
        body.code = code ∧ validateFixedReferenceValue body.code = .ok () ∧
        pkceS256Challenge body.codeVerifier = .ok created.codeChallenge := by
  have hs := Portal.validateServiceId_iff.mp config.serviceId_valid
  cases loginCreation h with
  | created skipped b context verifier expiresAt =>
  refine ⟨⟨⟨config.serviceId, referenceValue b, _, "S256"⟩, ?_, ?_, rfl, rfl, rfl⟩, _,
    by rw [lookup_insert_eq, if_pos rfl], ?_⟩
  · have hq := queryPairs_loginUrl config ⟨referenceValue b, referenceValue context,
      sha256Base64url (utf8 (referenceValue verifier))⟩
    rw [Url.queryPairs] at hq
    simp only [LoginQuery.decode, hq, onlyValue]
    rfl
  · have hstate : referenceValue b ≠ "" := by
      intro e
      have hl := (validateFixedReferenceValue_eq_ok.mp
        (validateFixedReferenceValue_referenceValue b)).1
      rw [e] at hl
      cases hl
    have hmax : validateMaxBytes (referenceValue b) serviceStateMaxBytes = .ok () := by
      have hl := (validateFixedReferenceValue_eq_ok.mp
        (validateFixedReferenceValue_referenceValue b)).1
      rw [validateMaxBytes, hl]
      rfl
    have hchallenge : validateFixedReferenceValue
        (sha256Base64url (utf8 (referenceValue verifier))) = .ok () :=
      validateFixedReferenceValue_base64url
        (sha256Digest (utf8 (referenceValue verifier))).size_toArray
    simp only [loginInputIsValid, hs, hmax, hchallenge, Except.isOk, Except.toBool, hstate, ne_eq,
      not_false_eq_true, decide_true, Bool.and_self]
  · intro rawQuery code state authorization body hq he
    cases he
    exact ⟨basicCredentials_basicAuth hb hs, hs, rfl,
      Portal.isFixedReference_iff.mp (Portal.parseCallbackQuery_fixed hq).1,
      pkceS256Challenge_referenceValue verifier⟩

/-- Crates with the standard decoder. -/
@[reducible] def decodingCrates : Crates := { Crates.sample with base64Decode := Base64.decode }

omit [Crates] in
theorem messages_accepted_sample : letI := decodingCrates
    ∃ created s', (PortalLocalState.new 1 1).createLoginStart "/" 0
        [bytes32 1, bytes32 2, bytes32 3] = some (.ok created, s') ∧
      (∃ query, LoginQuery.decode
          ((Portal.loginUrl Portal.AppConfig.sample created).query.getD "") =
        some query ∧ loginInputIsValid query = true) ∧
      basicCredentials ⟨[toStr (Portal.basicAuth "portal" "secret")], []⟩ =
        some ("portal", "secret") := by
  let _ := decodingCrates
  have hs : ((PortalLocalState.new 1 1).createLoginStart "/" 0
      [bytes32 1, bytes32 2, bytes32 3]).any (fun x => x.1.isOk) = true := by decide +kernel
  obtain ⟨⟨r, s'⟩, h, hr⟩ := (Option.any_eq_true _ _).mp hs
  cases r with
  | error e => cases hr
  | ok created =>
    obtain ⟨⟨query, hq, hv, -⟩, record, -, ha⟩ :=
      @messages_accepted _ Portal.AppConfig.sample _ _ _ _ _ _ Base64.decode_encode h
    have hp : Portal.parseCallbackQuery (Portal.sampleQuery (bytes32 9) (bytes32 1)) =
        .ok ⟨referenceValue (bytes32 9), referenceValue (bytes32 1)⟩ := by decide +kernel
    obtain ⟨hc, -⟩ := ha _ _ _ _ _ hp rfl
    exact ⟨created, s', h, ⟨query, hq, hv⟩, (hc []).mpr (by decide +kernel)⟩

end Messages

end AuthFoundation
