import AuthFoundation.Content

set_option autoImplicit false

/-!
# The exchange endpoint

What the endpoint answers to an undisturbed request, for any reachable content of the stores.

* `HandoffExchangeRequest.WellFormed`, `Presents`, `Authenticates`: the conditions on the body, on
  the credentials and on the registered service.
* `Exchangeable`: the handoff can be exchanged for a user and the time of an authentication.
* `ExchangeAnswer`: the answers, one case for each failing condition.
* **`exchange_endpoint`**: the endpoint answers so, and uses the handoff exactly if it answers 200.
-/

namespace AuthFoundation

open Text Redis Token Interleave

section Service

variable [Crates]

/-! ## Conditions -/

/-- The code is a reference and the verifier one of PKCE. -/
structure HandoffExchangeRequest.WellFormed (body : HandoffExchangeRequest) : Prop where
  code : len body.code = 43 ∧ (utf8 body.code).all isBase64urlNoPadByte = true
  verifier : 43 ≤ len body.codeVerifier ∧ len body.codeVerifier ≤ 128 ∧
    isAscii body.codeVerifier = true

/-- One header of at most 8192 bytes carries the id and the secret of a service. -/
structure Presents (request : HttpRequest) (serviceId serviceSecret : String) : Prop where
  header : ∃ encoded, request.authorization = [some ("Basic " ++ encoded)] ∧
    len ("Basic " ++ encoded) ≤ 8192 ∧
    Crates.base64Decode encoded = some (utf8 (serviceId ++ ":" ++ serviceSecret))
  separator : ':' ∉ serviceId.toList
  valid : validateServiceId serviceId = .ok ()

/-- The service is registered, enabled and has this secret. -/
structure Authenticates (services : String → Option RegisteredService)
    (serviceId serviceSecret : String) (row : RegisteredService) : Prop where
  registered : services serviceId = some row
  enabled : row.isEnabled = true
  digest : row.serviceSecretSha256 = (sha256Digest (utf8 serviceSecret)).toList

/-- **The handoff can be exchanged**: it is unexpired, unused and bound to the service and to the
challenge, and its session is unexpired and holds this user and this time. -/
structure Exchangeable (s : State) (lookup serviceId challenge : String)
    (record : AuthenticationHandoff) (state : CommonSession) : Prop where
  handoff : HandoffAt s lookup record
  live : s.time < record.expiresAt.toNat
  status : record.status = .unused
  service : record.serviceId = serviceId
  challenge : record.codeChallenge = challenge
  session : SessionAt s record.commonSessionLookup state
  sessionLive : s.time < state.expiresAt.toNat

omit [Crates] in
theorem validateServiceId_ne {serviceId : String} (h : validateServiceId serviceId = .ok ()) :
    serviceId ≠ "" := by
  rintro rfl
  cases h

/-- The endpoint reads exactly such credentials. -/
theorem presents_iff {request : HttpRequest} {serviceId serviceSecret : String} :
    Presents request serviceId serviceSecret ↔
      basicCredentials request = some (serviceId, serviceSecret) ∧
        validateServiceId serviceId = .ok () := by
  constructor
  · rintro ⟨⟨encoded, ha, hl, hd⟩, hsep, hv⟩
    refine ⟨?_, hv⟩
    have hsplit : splitOnce (serviceId ++ ":" ++ serviceSecret) ':' =
        some (serviceId, serviceSecret) := splitOnce_append serviceSecret hsep
    rw [basicCredentials, ha]
    simp only [authorizationHeaderMaxBytes, if_neg (not_lt.mpr hl), stripPrefix_append, hd,
      text?_utf8, hsplit, Option.bind_eq_bind, Option.bind_some,
      if_pos (validateServiceId_ne hv)]
  · rintro ⟨hb, hv⟩
    unfold basicCredentials at hb
    split at hb
    · rename_i value ha
      split_ifs at hb with hl
      simp only [Option.bind_eq_bind, Option.bind_eq_some_iff] at hb
      obtain ⟨encoded, hp, decoded, hd, text, ht, ⟨a, b⟩, hs, hid⟩ := hb
      split_ifs at hid with hne
      cases hid
      obtain rfl := stripPrefix_eq_some.mp hp
      obtain ⟨rfl, hsep⟩ := splitOnce_eq_some.mp hs
      have hd' := text?_eq_some.mp ht
      exact ⟨⟨encoded, ha, not_lt.mp hl, hd.trans (congrArg some hd'.symm)⟩, hsep, hv⟩
    · cases hb

theorem Presents.eq {request : HttpRequest} {id id' secret secret' : String}
    (h : Presents request id secret) (h' : Presents request id' secret') :
    id = id' ∧ secret = secret' := by
  have he := (presents_iff.mp h).1.symm.trans (presents_iff.mp h').1
  exact Prod.mk.inj (Option.some.inj he)

theorem wellFormed_iff {body : HandoffExchangeRequest} : body.WellFormed ↔
    validateFixedReferenceValue body.code = .ok () ∧
      pkceS256Challenge body.codeVerifier = .ok (sha256Base64url (utf8 body.codeVerifier)) := by
  rw [validateFixedReferenceValue_eq_ok, pkceS256Challenge_eq_ok]
  exact ⟨fun h => ⟨h.code, h.verifier, rfl⟩, fun h => ⟨h.1, h.2.1⟩⟩

/-- The first check of the endpoint. -/
theorem not_wellFormed_iff {body : HandoffExchangeRequest} : ¬body.WellFormed ↔
    !(validateFixedReferenceValue body.code).isOk ∨ body.codeVerifier = "" ∨
      !(pkceS256Challenge body.codeVerifier).isOk := by
  rw [wellFormed_iff]
  cases hc : validateFixedReferenceValue body.code with
  | error e => exact iff_of_true (fun h => nomatch h.1) (.inl rfl)
  | ok _ =>
    cases hp : pkceS256Challenge body.codeVerifier with
    | error e => exact iff_of_true (fun h => nomatch h.2) (.inr (.inr rfl))
    | ok challenge =>
      obtain ⟨⟨hl, -⟩, rfl⟩ := pkceS256Challenge_eq_ok.mp hp
      refine iff_of_false (fun h => h ⟨rfl, rfl⟩) ?_
      rintro (h | h | h)
      · cases h
      · rw [h] at hl
        exact absurd hl (by decide)
      · cases h

/-! ## The script on stored records -/

section Script

variable {s : State} {l serviceId challenge : String} {b : AuthenticationHandoff} {x : Option ℕ}

/-- What the script makes of the session of a handoff that it accepts. -/
def exchangeWithSession (s : State) (l : String) (b : AuthenticationHandoff) : List Value × State :=
  match s.object (Key.session b.commonSessionLookup) with
  | none => ([.int 1], s)
  | some (.other _) => (invalid, s)
  | some (.hash g) =>
    if sessionValid g = false then (invalid, s)
    else if num (hget g "expires_at") ≤ now s then
      ([.int 2], s.del (Key.session b.commonSessionLookup))
    else if b.internalUserId.toInt ≠ num (hget g "internal_user_id") ∨
      (b.authenticatedAt.toNat : ℤ) ≠ num (hget g "authenticated_at") then (invalid, s)
    else ([.int 0, .int b.internalUserId.toInt, .int b.authenticatedAt.toNat],
      setField s (Key.handoff l) "status" "used" (recordHash (encodeHandoff b)))

/-- What the script makes of a stored handoff. -/
def exchangeStored (s : State) (l serviceId challenge : String) (b : AuthenticationHandoff) :
    List Value × State :=
  if b.expiresAt.toNat ≤ s.time then ([.int 2], s.del (Key.handoff l))
  else if b.status = .used then ([.int 5], s)
  else if b.serviceId ≠ serviceId then ([.int 6], s)
  else if b.codeChallenge ≠ challenge then ([.int 7], s)
  else exchangeWithSession s l b

omit [Crates] in
/-- **The script on a stored handoff**, with the lookup of its session. -/
theorem exchangeHandoffSpec_record
    (he : s.entries (Key.handoff l) = some ⟨.hash (recordHash (encodeHandoff b)), x⟩)
    (hv : handoffValid (recordHash (encodeHandoff b)) = true) :
    exchangeHandoffSpec (args [Key.handoff l, Key.session b.commonSessionLookup])
        (args ([serviceId, challenge, b.commonSessionLookup].map utf8)) s =
      exchangeStored s l serviceId challenge b := by
  obtain ⟨hlk, ha, -, hx⟩ := (handoffValid_record b).mp hv
  have ho : s.object (args [Key.handoff l, Key.session b.commonSessionLookup] 1) =
      some (.hash (recordHash (encodeHandoff b))) := by
    show (s.entries (Key.handoff l)).map Entry.object = _
    rw [he]
    rfl
  have hservice : hget (recordHash (encodeHandoff b)) "service_id" = some (utf8 b.serviceId) :=
    handoff_field _ b
  have huser : hget (recordHash (encodeHandoff b)) "internal_user_id" =
      some (utf8 (toString b.internalUserId)) := handoff_field _ b
  have hlookup : hget (recordHash (encodeHandoff b)) "common_session_lookup" =
      some (utf8 b.commonSessionLookup) := handoff_field _ b
  have hchallenge : hget (recordHash (encodeHandoff b)) "code_challenge" =
      some (utf8 b.codeChallenge) := handoff_field _ b
  have hauth : hget (recordHash (encodeHandoff b)) "authenticated_at" =
      some (utf8 (toString b.authenticatedAt)) := handoff_field _ b
  have hexp : hget (recordHash (encodeHandoff b)) "expires_at" =
      some (utf8 (toString b.expiresAt)) := handoff_field _ b
  have hstatus : hget (recordHash (encodeHandoff b)) "status" =
      some (utf8 (usageStatusValue b.status)) := handoff_field _ b
  have h₁ : args ([serviceId, challenge, b.commonSessionLookup].map utf8) 1 = utf8 serviceId := rfl
  have h₂ : args ([serviceId, challenge, b.commonSessionLookup].map utf8) 2 = utf8 challenge := rfl
  have h₃ : args ([serviceId, challenge, b.commonSessionLookup].map utf8) 3 =
      utf8 b.commonSessionLookup := rfl
  have hk₁ : args [Key.handoff l, Key.session b.commonSessionLookup] 1 = Key.handoff l := rfl
  have hk₂ : args [Key.handoff l, Key.session b.commonSessionLookup] 2 =
      Key.session b.commonSessionLookup := rfl
  have hkey : Key.session b.commonSessionLookup =
      utf8 "auth:session:" ++ utf8 b.commonSessionLookup := utf8_append ..
  have hused : usageStatusValue b.status = "used" ↔ b.status = .used :=
    usageStatusValue_inj (b := .used)
  simp only [exchangeHandoffSpec, exchangeStored, ho]
  simp only [hv, hservice, huser, hlookup, hchallenge, hauth, hexp, hstatus, h₁, h₂, h₃, hk₁, hk₂,
    num_le_now hx, num_u64 ha, num_i32, Option.some.injEq, utf8_inj, hused, lookup_utf8, ne_eq,
    Bool.true_eq_false, if_false]
  by_cases hst : b.status = .used
  · simp only [hst, if_true]
  · have hun : usageStatusValue b.status = "unused" := by
      cases hb : b.status with
      | unused => rfl
      | used => exact absurd hb hst
    simp only [if_neg hst, hun, hlk, hkey, not_true_eq_false, or_false, if_false]
    unfold exchangeWithSession
    rewrite [hkey]
    rfl

omit [Crates] in
theorem exchangeWithSession_none (h : s.entries (Key.session b.commonSessionLookup) = none) :
    exchangeWithSession s l b = ([.int 1], s) := by
  unfold exchangeWithSession
  rw [State.object, h]
  rfl

omit [Crates] in
/-- The session of the handoff is stored, and they agree. -/
theorem exchangeWithSession_record {c : CommonSession}
    (h : s.entries (Key.session b.commonSessionLookup) =
      some ⟨.hash (recordHash (encodeSession c)), x⟩)
    (hv : sessionValid (recordHash (encodeSession c)) = true)
    (hu : b.internalUserId = c.internalUserId) (ha : b.authenticatedAt = c.authenticatedAt) :
    exchangeWithSession s l b =
      if c.expiresAt.toNat ≤ s.time then ([.int 2], s.del (Key.session b.commonSessionLookup))
      else ([.int 0, .int c.internalUserId.toInt, .int c.authenticatedAt.toNat],
        setField s (Key.handoff l) "status" "used" (recordHash (encodeHandoff b))) := by
  obtain ⟨hat, -, hx⟩ := (sessionValid_record c).mp hv
  have huser : hget (recordHash (encodeSession c)) "internal_user_id" =
      some (utf8 (toString c.internalUserId)) := session_field _ c
  have hauth : hget (recordHash (encodeSession c)) "authenticated_at" =
      some (utf8 (toString c.authenticatedAt)) := session_field _ c
  have hexp : hget (recordHash (encodeSession c)) "expires_at" =
      some (utf8 (toString c.expiresAt)) := session_field _ c
  have ho : s.object (Key.session b.commonSessionLookup) =
      some (.hash (recordHash (encodeSession c))) := by
    rw [State.object, h]
    rfl
  simp only [exchangeWithSession, ho, hv, huser, hauth, hexp, num_le_now hx, num_u64 hat, num_i32,
    hu, ha, ne_eq, not_true_eq_false, or_false, Bool.true_eq_false, if_false]

end Script

/-! ## The call -/

section Call

variable {w : World} {i : ℕ} {reference serviceId challenge : String} {b : AuthenticationHandoff}
  {x : Option ℕ}

theorem alone_redis {α : Type} {c : Command} {k : Reply (.redis c) → Service α}
    {v : c.Reply} {t : State} (h : c.script ScriptName.source w.redis = (.ok v, t)) :
    machine.alone i .ok (queryAsync c >>= k) w =
      machine.alone i .ok (k (.ok v)) { w with redis := t } := by
  refine alone_op ?_
  show some (_, _) = _
  rw [h]

theorem resolveHandoffSessionLookup_absent (h : w.redis.entries (handoffKey reference) = none) :
    machine.alone i .ok (resolveHandoffSessionLookup reference) w =
      some (.error .notFound, w) := by
  have ht : (Redis.Command.type (handoffKey reference)).script ScriptName.source w.redis =
      (.ok "none", w.redis) := by
    show TYPE _ _ = _
    unfold TYPE
    rw [h]
  exact (alone_redis ht).trans rfl

theorem resolveHandoffSessionLookup_stored (h : w.redis.entries (handoffKey reference) =
      some ⟨.hash (recordHash (encodeHandoff b)), x⟩)
    (hl : isLookup b.commonSessionLookup = true) :
    machine.alone i .ok (resolveHandoffSessionLookup reference) w =
      some (.ok b.commonSessionLookup, w) := by
  have ht : (Redis.Command.type (handoffKey reference)).script ScriptName.source w.redis =
      (.ok "hash", w.redis) := by
    show TYPE _ _ = _
    unfold TYPE
    rw [h]
  have hg : (Redis.Command.hget (handoffKey reference) "common_session_lookup").script
      ScriptName.source w.redis = (.ok (some (utf8 b.commonSessionLookup)), w.redis) := by
    have hr := hashAt_run h fun g => pure (hget g "common_session_lookup")
    rw [handoff_field] at hr
    exact hr
  have hreply : lookupReply (.ok (some (utf8 b.commonSessionLookup))) =
      .ok b.commonSessionLookup := by
    simp only [lookupReply, text?_utf8, hl]
    rfl
  refine (alone_redis ht).trans ?_
  refine (alone_redis hg).trans ?_
  rw [hreply]
  rfl

theorem exchangeHandoff_absent (h : w.redis.entries (handoffKey reference) = none) :
    machine.alone i .ok (exchangeHandoff reference serviceId challenge) w =
      some (.error .notFound, w) :=
  alone_bind (resolveHandoffSessionLookup_absent h)

/-- **The call on a stored handoff.** -/
theorem exchangeHandoff_stored (h : w.redis.entries (handoffKey reference) =
      some ⟨.hash (recordHash (encodeHandoff b)), x⟩)
    (hv : handoffValid (recordHash (encodeHandoff b)) = true) :
    machine.alone i .ok (exchangeHandoff reference serviceId challenge) w =
      some (exchangeReply (exchangeStored w.redis (referenceValueLookup reference) serviceId
          challenge b).1,
        { w with redis := (exchangeStored w.redis (referenceValueLookup reference) serviceId
          challenge b).2 }) := by
  have hl := ((handoffValid_record b).mp hv).1
  have hkey : sessionKeyFromLookup b.commonSessionLookup =
      .ok ("auth:session:" ++ b.commonSessionLookup) := if_neg (by simp [hl])
  refine (alone_bind (resolveHandoffSessionLookup_stored h hl)).trans ?_
  dsimp only
  rw [hkey]
  have hs : (Sent.exchange (referenceValueLookup reference) serviceId challenge
      b.commonSessionLookup).command.script ScriptName.source w.redis =
        returns (exchangeStored w.redis (referenceValueLookup reference) serviceId challenge
          b) := by
    rw [← exchangeHandoffSpec_record h hv]
    exact exchangeHandoff_run _ _ w.redis
  exact (alone_redis hs).trans rfl

/-- The handoff stays as it was, unless it had expired and was removed. -/
def HandoffKept (s s' : State) (lookup : String) : Prop :=
  s'.entries (Key.handoff lookup) = s.entries (Key.handoff lookup) ∨
    s'.entries (Key.handoff lookup) = none ∧
      ∃ record, HandoffAt s lookup record ∧ record.expiresAt.toNat ≤ s.time

/-- How the call ends. -/
inductive ExchangeResult (s : State) (lookup serviceId challenge : String) :
    Except RedisStateError HandoffExchangeResult → State → Prop
  | success {record : AuthenticationHandoff} {state : CommonSession} {s' : State}
      (h : Exchangeable s lookup serviceId challenge record state)
      (hs : HandoffAt s' lookup { record with status := .used }) :
    ExchangeResult s lookup serviceId challenge
      (.ok ⟨state.internalUserId, state.authenticatedAt⟩) s'
  | refused {e : RedisStateError} {s' : State}
      (he : e ∈ [.notFound, .expired, .alreadyUsed, .serviceMismatch, .challengeMismatch])
      (hx : ∀ record state, ¬Exchangeable s lookup serviceId challenge record state)
      (hs : HandoffKept s s' lookup) :
    ExchangeResult s lookup serviceId challenge (.error e) s'

omit [Crates] in
/-- A number that passed the script passes the service. -/
theorem exchangeReply_record (u : Int32) (a : UInt64) :
    exchangeReply [.int 0, .int u.toInt, .int a.toNat] = .ok ⟨u, a⟩ := by
  have h₁ := u.toInt_lt
  have h₂ := u.le_toInt
  rw [exchangeReply, if_neg (by omega), if_neg (by omega), Int32.ofInt_toInt, Int.toNat_natCast,
    UInt64.ofNat_toNat]

variable {googleConfig : GoogleAuthorizationConfig}
  {services : String → Option RegisteredService} {tr : List ServiceLabel} {s : ServicePool}

/-- **The call on any reachable content.** -/
theorem ServiceRun.exchangeHandoff_alone
    (h : ServiceRun googleConfig (World.empty services) tr s) (hfresh : FreshReferences tr) (i : ℕ)
    (reference serviceId challenge : String) :
    ∃ r t, machine.alone i .ok (exchangeHandoff reference serviceId challenge) s.world =
        some (r, { s.world with redis := t }) ∧
      ExchangeResult s.world.redis (referenceValueLookup reference) serviceId challenge r t := by
  cases hy : s.world.redis.entries (Key.handoff (referenceValueLookup reference)) with
  | none =>
    refine ⟨_, _, exchangeHandoff_absent hy, .refused (by decide) ?_ (.inl rfl)⟩
    rintro record state ⟨⟨g, x, fields, hk, -⟩, -⟩
    cases hy.symm.trans hk
  | some y =>
    obtain ⟨a, b, hst, hv, hagree⟩ := h.handoff_stored hfresh family_handoff hy
    obtain ⟨o, x⟩ := y
    obtain rfl : o = .hash (recordHash (encodeHandoff b)) := hst.object
    have hl := ((handoffValid_record b).mp hv).1
    have hat := handoffAt_record hl hy
    refine ⟨_, _, exchangeHandoff_stored hy hv, ?_⟩
    unfold exchangeStored
    split_ifs with hexp hused hservice hchallenge
    · refine .refused (e := .expired) (by decide) (fun record state hx => ?_)
        (.inr ⟨del_entries_self .., b, hat, hexp⟩)
      obtain rfl := hat.eq hx.handoff
      exact absurd hexp (not_le.mpr hx.live)
    · refine .refused (e := .alreadyUsed) (by decide) (fun record state hx => ?_) (.inl rfl)
      obtain rfl := hat.eq hx.handoff
      cases hused.symm.trans hx.status
    · refine .refused (e := .serviceMismatch) (by decide) (fun record state hx => ?_) (.inl rfl)
      obtain rfl := hat.eq hx.handoff
      exact hservice hx.service
    · refine .refused (e := .challengeMismatch) (by decide) (fun record state hx => ?_) (.inl rfl)
      obtain rfl := hat.eq hx.handoff
      exact hchallenge hx.challenge
    cases hz : s.world.redis.entries (Key.session b.commonSessionLookup) with
    | none =>
      rw [exchangeWithSession_none hz]
      refine .refused (e := .notFound) (by decide) (fun record state hx => ?_) (.inl rfl)
      obtain rfl := hat.eq hx.handoff
      obtain ⟨g, y, fields, hk, -⟩ := hx.session
      cases hz.symm.trans hk
    | some z =>
      obtain ⟨c, hst', hv'⟩ := h.session_stored hfresh family_session hz
      obtain ⟨hu, ha⟩ := hagree z c hz hst'.object
      obtain ⟨o, y⟩ := z
      obtain rfl : o = .hash (recordHash (encodeSession c)) := hst'.object
      have hsession := sessionAt_record hz
      rw [exchangeWithSession_record hz hv' hu ha]
      split_ifs with hexp'
      · refine .refused (e := .expired) (by decide) (fun record state hx => ?_)
          (.inl (del_entries_of_ne _ (ne_of_family (by simp))))
        obtain rfl := hat.eq hx.handoff
        obtain rfl := hsession.eq hx.session
        exact absurd hexp' (not_le.mpr hx.sessionLive)
      · dsimp only
        rw [exchangeReply_record, setField_eq hy]
        have hunused : b.status = .unused := by
          cases hb : b.status with
          | unused => rfl
          | used => exact absurd hb hused
        refine @ExchangeResult.success _ _ _ _ b _ _ ⟨hat, not_le.mp hexp, hunused,
          not_not.mp hservice,
          not_not.mp hchallenge, hsession, not_le.mp hexp'⟩ ?_
        refine @handoffAt_record _ x _ { b with status := .used } hl ?_
        rw [set_entries_self, handoff_mark]

end Call

/-! ## The endpoint -/

section Endpoint

variable {w : World} {i : ℕ} {request : HttpRequest} {body : HandoffExchangeRequest}
  {serviceId serviceSecret : String}

theorem authenticateService_unregistered (h : w.database.registeredWebServices serviceId = none) :
    machine.alone i .ok (authenticateService serviceId serviceSecret) w =
      some (.error .serviceNotFound, w) := by
  have he : machine.exec w i (.sql (.selectRegisteredService serviceId)) .ok =
      some (.ok none, w) := by
    show some (_, _) = _
    rw [h]
    rfl
  exact (alone_op he).trans rfl

theorem authenticateService_registered {row : RegisteredService}
    (h : w.database.registeredWebServices serviceId = some row) :
    machine.alone i .ok (authenticateService serviceId serviceSecret) w =
      some (if row.isEnabled = false then .error .serviceDisabled
        else if row.serviceSecretSha256.length ≠ 32 then .error .storedSecretInvalidLength
        else if row.serviceSecretSha256 ≠ (sha256Digest (utf8 serviceSecret)).toList then
          .error .serviceSecretMismatch
        else .ok ⟨serviceId, row.loginCallbackUri, row.logoutReturnUri⟩, w) := by
  obtain ⟨enabled, login, logout, digest⟩ := row
  have hx : machine.exec w i (.sql (.selectRegisteredService serviceId)) .ok =
      some (.ok (some (serviceId, enabled, login, logout, digest)), w) := by
    show some (_, _) = _
    rw [h]
    rfl
  refine (alone_op hx).trans ?_
  cases enabled with
  | false => rfl
  | true =>
    simp only [Prog.pure_eq, Prog.bind, Bool.not_true, Bool.false_eq_true, if_false]
    unfold storedSecretDigest
    by_cases hl : digest.length = 32
    · have hb : sha256DigestEq ⟨digest.toArray, by simpa using hl⟩
          (sha256Digest (utf8 serviceSecret)) =
            decide (digest = (sha256Digest (utf8 serviceSecret)).toList) := by
        rw [sha256DigestEq, Bool.eq_iff_iff, beq_iff_eq, decide_eq_true_eq, ← Vector.toList_inj]
        rfl
      rw [dif_pos hl]
      dsimp only
      rw [hb]
      by_cases he : digest = (sha256Digest (utf8 serviceSecret)).toList
      · simp only [he, decide_true, Bool.not_true, Bool.false_eq_true, if_false]
        rw [← he, if_neg Bool.true_eq_false.mp, if_neg (not_not.mpr hl), if_neg (not_not.mpr rfl)]
        rfl
      · simp only [he, hl, decide_false, Bool.not_false, if_true, ne_eq, not_true_eq_false,
          if_false,
          not_false_eq_true, Bool.true_eq_false]
        rfl
    · rw [dif_neg hl, if_neg (by simp), if_pos hl]
      rfl

/-- **The answers of the endpoint**, one for each failing condition. -/
inductive ExchangeAnswer (w : World) (request : HttpRequest) (body : HandoffExchangeRequest) :
    HttpResponse → Prop
  | malformed (h : ¬body.WellFormed) : ExchangeAnswer w request body (.empty 400)
  | anonymous (h : body.WellFormed) (hc : ∀ id secret, ¬Presents request id secret) :
    ExchangeAnswer w request body (.empty 401)
  | unregistered {id secret : String} (h : body.WellFormed) (hc : Presents request id secret)
      (hs : w.database.registeredWebServices id = none) : ExchangeAnswer w request body (.empty 401)
  | disabled {id secret : String} {row : RegisteredService} (h : body.WellFormed)
      (hc : Presents request id secret) (hs : w.database.registeredWebServices id = some row)
      (he : row.isEnabled = false) : ExchangeAnswer w request body (.empty 403)
  | corrupted {id secret : String} {row : RegisteredService} (h : body.WellFormed)
      (hc : Presents request id secret) (hs : w.database.registeredWebServices id = some row)
      (he : row.isEnabled = true) (hl : row.serviceSecretSha256.length ≠ 32) :
    ExchangeAnswer w request body (.empty 503)
  | mismatched {id secret : String} {row : RegisteredService} (h : body.WellFormed)
      (hc : Presents request id secret) (hs : w.database.registeredWebServices id = some row)
      (he : row.isEnabled = true) (hl : row.serviceSecretSha256.length = 32)
      (hd : row.serviceSecretSha256 ≠ (sha256Digest (utf8 secret)).toList) :
    ExchangeAnswer w request body (.empty 401)
  | refused {id secret : String} {row : RegisteredService} (h : body.WellFormed)
      (hc : Presents request id secret)
      (ha : Authenticates w.database.registeredWebServices id secret row)
      (hx : ∀ record state, ¬Exchangeable w.redis (referenceValueLookup body.code) id
        (sha256Base64url (utf8 body.codeVerifier)) record state) :
    ExchangeAnswer w request body (.empty 400)
  | success {id secret : String} {row : RegisteredService} {record : AuthenticationHandoff}
      {state : CommonSession} (h : body.WellFormed) (hc : Presents request id secret)
      (ha : Authenticates w.database.registeredWebServices id secret row)
      (hx : Exchangeable w.redis (referenceValueLookup body.code) id
        (sha256Base64url (utf8 body.codeVerifier)) record state) :
    ExchangeAnswer w request body
      ⟨200, none, [], .handoffExchangeResponse state.internalUserId state.authenticatedAt⟩

/-- The endpoint answers 200 exactly if every condition holds. -/
theorem ExchangeAnswer.ok_iff {response : HttpResponse} (h : ExchangeAnswer w request body response)
    (u : Int32) (a : UInt64) :
    response = ⟨200, none, [], .handoffExchangeResponse u a⟩ ↔ body.WellFormed ∧
      ∃ id secret row record state, Presents request id secret ∧
        Authenticates w.database.registeredWebServices id secret row ∧
        Exchangeable w.redis (referenceValueLookup body.code) id
          (sha256Base64url (utf8 body.codeVerifier)) record state ∧
        state.internalUserId = u ∧ state.authenticatedAt = a := by
  constructor
  · intro e
    cases h with
    | success h hc ha hx =>
      cases e
      exact ⟨h, _, _, _, _, _, hc, ha, hx, rfl, rfl⟩
    | _ => cases e
  · rintro ⟨hw, id, secret, row, record, state, hc, ha, hx, rfl, rfl⟩
    cases h with
    | malformed h => exact absurd hw h
    | anonymous h hc' => exact absurd hc (hc' id secret)
    | unregistered h hc' hs =>
      obtain ⟨rfl, rfl⟩ := hc.eq hc'
      cases hs.symm.trans ha.registered
    | disabled h hc' hs he =>
      obtain ⟨rfl, rfl⟩ := hc.eq hc'
      cases hs.symm.trans ha.registered
      cases he.symm.trans ha.enabled
    | corrupted h hc' hs he hl =>
      obtain ⟨rfl, rfl⟩ := hc.eq hc'
      cases hs.symm.trans ha.registered
      rw [ha.digest, Vector.length_toList] at hl
      exact absurd rfl hl
    | mismatched h hc' hs he hl hd =>
      obtain ⟨rfl, rfl⟩ := hc.eq hc'
      cases hs.symm.trans ha.registered
      exact absurd ha.digest hd
    | refused h hc' ha' hx' =>
      obtain ⟨rfl, rfl⟩ := hc.eq hc'
      exact absurd hx (hx' record state)
    | success h hc' ha' hx' =>
      obtain ⟨rfl, rfl⟩ := hc.eq hc'
      obtain rfl := hx.handoff.eq hx'.handoff
      obtain rfl := hx.session.eq hx'.session
      rfl

/-- What the endpoint did to the handoff. -/
def HandoffEffect (s s' : State) (lookup : String) (status : ℕ) : Prop :=
  if status = 200 then ∃ record, HandoffAt s lookup record ∧ record.status = .unused ∧
    HandoffAt s' lookup { record with status := .used }
  else HandoffKept s s' lookup

omit [Crates] in
theorem HandoffEffect.of_ne {s s' : State} {lookup : String} {status : ℕ} (hs : status ≠ 200)
    (hk : HandoffKept s s' lookup) : HandoffEffect s s' lookup status := by
  unfold HandoffEffect
  rwa [if_neg hs]

variable {googleConfig : GoogleAuthorizationConfig}
  {services : String → Option RegisteredService} {tr : List ServiceLabel} {s : ServicePool}

theorem ServiceRun.exchangeAuthHandoff_alone
    (h : ServiceRun googleConfig (World.empty services) tr s) (hfresh : FreshReferences tr) (i : ℕ)
    (request : HttpRequest) (body : HandoffExchangeRequest) :
    ∃ response t, machine.alone i .ok (exchangeAuthHandoff request body) s.world =
        some (response, { s.world with redis := t }) ∧
      ExchangeAnswer s.world request body response ∧
      HandoffEffect s.world.redis t (referenceValueLookup body.code) response.status := by
  show ∃ response t, machine.alone i .ok (if !(validateFixedReferenceValue body.code).isOk ∨
    body.codeVerifier = "" ∨ !(pkceS256Challenge body.codeVerifier).isOk then _ else _) _ = _ ∧ _
  by_cases hw : body.WellFormed
  case neg =>
    rw [if_pos (not_wellFormed_iff.mp hw)]
    exact ⟨_, _, rfl, .malformed hw, .of_ne (by decide) (.inl rfl)⟩
  rw [if_neg fun hn => not_wellFormed_iff.mpr hn hw]
  have hp := (wellFormed_iff.mp hw).2
  cases hb : basicCredentials request with
  | none =>
    refine ⟨_, _, rfl, .anonymous hw fun id secret hc => ?_, .of_ne (by decide) (.inl rfl)⟩
    cases hb.symm.trans (presents_iff.mp hc).1
  | some credentials =>
  obtain ⟨id, secret⟩ := credentials
  show ∃ response t, machine.alone i .ok (if !(validateServiceId id).isOk then _ else _) _ = _ ∧ _
  cases hv : validateServiceId id with
  | error e =>
    refine ⟨_, _, rfl, .anonymous hw fun id' secret' hc => ?_, .of_ne (by decide) (.inl rfl)⟩
    obtain ⟨hb', hv'⟩ := presents_iff.mp hc
    cases hb.symm.trans hb'
    cases hv.symm.trans hv'
  | ok _ =>
  have hc : Presents request id secret := presents_iff.mpr ⟨hb, hv⟩
  rw [if_neg (by exact Bool.false_ne_true)]
  cases hrow : s.world.database.registeredWebServices id with
  | none =>
    refine ⟨_, _, (alone_bind (authenticateService_unregistered hrow)).trans rfl, ?_,
      .of_ne (by decide) (.inl rfl)⟩
    exact .unregistered hw hc hrow
  | some row =>
  have hauth := @authenticateService_registered _ _ i _ secret _ hrow
  by_cases he : row.isEnabled = false
  · rw [if_pos he] at hauth
    exact ⟨_, _, (alone_bind hauth).trans rfl, .disabled hw hc hrow he,
      .of_ne (by decide) (.inl rfl)⟩
  by_cases hl : row.serviceSecretSha256.length ≠ 32
  · rw [if_neg he, if_pos hl] at hauth
    exact ⟨_, _, (alone_bind hauth).trans rfl, .corrupted hw hc hrow (by simpa using he) hl,
      .of_ne (by decide) (.inl rfl)⟩
  by_cases hd : row.serviceSecretSha256 ≠ (sha256Digest (utf8 secret)).toList
  · rw [if_neg he, if_neg hl, if_pos hd] at hauth
    exact ⟨_, _, (alone_bind hauth).trans rfl, .mismatched hw hc hrow (by simpa using he)
      (not_not.mp hl) hd, .of_ne (by decide) (.inl rfl)⟩
  rw [if_neg he, if_neg hl, if_neg hd] at hauth
  have ha : Authenticates s.world.database.registeredWebServices id secret row :=
    ⟨hrow, by simpa using he, not_not.mp hd⟩
  rw [alone_bind hauth]
  dsimp only
  rw [hp]
  obtain ⟨r, t, hx, hres⟩ := h.exchangeHandoff_alone hfresh i body.code id
    (sha256Base64url (utf8 body.codeVerifier))
  have hconn : machine.exec s.world i .getMultiplexedTokioConnection .ok =
      some (.ok (), s.world) := rfl
  dsimp only
  cases hres with
  | @success record state s' hex hs' =>
    refine ⟨_, _, (alone_op hconn).trans ((alone_bind hx).trans rfl), .success hw hc ha hex, ?_⟩
    exact ⟨record, hex.handoff, hex.status, hs'⟩
  | @refused e s' he' hno hkept =>
    refine ⟨.empty 400, t, (alone_op hconn).trans ((alone_bind hx).trans ?_),
      .refused hw hc ha hno, .of_ne (by decide) hkept⟩
    simp only [List.mem_cons, List.not_mem_nil, or_false] at he'
    obtain rfl | rfl | rfl | rfl | rfl := he' <;> rfl

/-- An undisturbed exchange is part of a run of the service. -/
theorem ServiceRun.exchange_run (h : ServiceRun googleConfig (World.empty services) tr s)
    (hi : s.threads i = none) {response : HttpResponse} {w : World}
    (hrun : machine.alone i .ok (exchangeAuthHandoff request body) s.world = some (response, w)) :
    ∃ tr₂ u, ServiceRun googleConfig (World.empty services)
        (tr ++ .start i (.exchangeAuthHandoff request body) :: tr₂) u ∧ u.world = w ∧
      u.threads i = some ⟨.exchangeAuthHandoff request body, .done response⟩ := by
  have h₁ := h.snoc (.start (.exchangeAuthHandoff request body) hi)
  obtain ⟨tr₂, u, h₂, hw, hu, -⟩ := run_of_alone (q := Request.exchangeAuthHandoff request body)
    (s := ⟨s.world, Function.update s.threads i (some ⟨_, exchangeAuthHandoff request body⟩)⟩)
    (Function.update_self ..) hrun
  refine ⟨tr₂, u, ?_, hw, hu⟩
  rw [List.append_cons]
  exact h₁.append h₂

/-- **The exchange endpoint.** On any reachable content of the stores, an undisturbed exchange gets
the answer of the first condition that fails; it is 200 exactly if all of them hold, and then, and
only then, the handoff becomes used. The run can go on like that. -/
theorem exchange_endpoint (h : ServiceRun googleConfig (World.empty services) tr s)
    (hfresh : FreshReferences tr) (i : ℕ) (request : HttpRequest) (body : HandoffExchangeRequest) :
    ∃ response t, machine.alone i .ok (exchangeAuthHandoff request body) s.world =
        some (response, { s.world with redis := t }) ∧
      ExchangeAnswer s.world request body response ∧
      (∀ u a, response = ⟨200, none, [], .handoffExchangeResponse u a⟩ ↔ body.WellFormed ∧
        ∃ id secret row record state, Presents request id secret ∧
          Authenticates s.world.database.registeredWebServices id secret row ∧
          Exchangeable s.world.redis (referenceValueLookup body.code) id
            (sha256Base64url (utf8 body.codeVerifier)) record state ∧
          state.internalUserId = u ∧ state.authenticatedAt = a) ∧
      (response.status = 200 ↔ ∃ record, HandoffAt s.world.redis (referenceValueLookup body.code)
        record ∧ record.status = .unused ∧
        HandoffAt t (referenceValueLookup body.code) { record with status := .used }) ∧
      (response.status ≠ 200 →
        HandoffKept s.world.redis t (referenceValueLookup body.code)) ∧
      (s.threads i = none → ∃ tr₂ u, ServiceRun googleConfig (World.empty services)
        (tr ++ .start i (.exchangeAuthHandoff request body) :: tr₂) u ∧
        u.world = { s.world with redis := t } ∧
        u.threads i = some ⟨.exchangeAuthHandoff request body, .done response⟩) := by
  obtain ⟨response, t, hrun, hans, heff⟩ := h.exchangeAuthHandoff_alone hfresh i request body
  refine ⟨response, t, hrun, hans, hans.ok_iff, ?_, ?_, fun hi => h.exchange_run hi hrun⟩
  · constructor
    · intro hs
      rwa [HandoffEffect, if_pos hs] at heff
    · rintro ⟨record, hat, hunused, hat'⟩
      by_contra hs
      rw [HandoffEffect, if_neg hs] at heff
      obtain hk | ⟨hk, -⟩ := heff
      · have heq := hat.eq ((hat'.congr hk.symm))
        rw [heq] at hunused
        cases hunused
      · obtain ⟨g, x, fields, hk', -⟩ := hat'
        cases hk.symm.trans hk'
  · intro hs
    rwa [HandoffEffect, if_neg hs] at heff

omit [Crates] in
theorem exchange_endpoint_sample : letI := Crates.service
    ∃ tr s, ServiceRun ⟨"", ""⟩ (World.empty sampleServices) tr s ∧
      s.threads 3 = some ⟨sampleExchange (referenceValue (bytes32 3)),
        .done ⟨200, none, [], .handoffExchangeResponse 1 100⟩⟩ ∧
      ∃ record, HandoffAt s.world.redis (referenceValueLookup (referenceValue (bytes32 3))) record ∧
        record.status = .used := by
  let _ := Crates.service
  obtain ⟨tr, s, h, hfresh, hn, ha⟩ := exists_run_of_play machine (Request.run ⟨"", ""⟩)
    (Pool.init (World.empty sampleServices)) firstLogin (fun x => FreshReferences x.1 ∧
      (x.2.threads 3).isNone = true ∧
      (machine.alone 3 .ok (exchangeAuthHandoff ⟨[some "Basic cG9ydGFsOnNlY3JldA=="], []⟩
        ⟨referenceValue (bytes32 3), sampleVerifier⟩) x.2.world).map Prod.fst =
          some ⟨200, none, [], .handoffExchangeResponse 1 100⟩) (by decide +kernel)
  obtain ⟨response, t, hrun, -, -, hused, -, hgoes⟩ := exchange_endpoint h hfresh 3
    ⟨[some "Basic cG9ydGFsOnNlY3JldA=="], []⟩ ⟨referenceValue (bytes32 3), sampleVerifier⟩
  rw [hrun] at ha
  cases ha
  obtain ⟨record, -, -, hat⟩ := hused.mp rfl
  obtain ⟨tr₂, u, h₂, hw, hu⟩ := hgoes (Option.isNone_iff_eq_none.mp hn)
  have ht : u.world.redis = t := congrArg World.redis hw
  rw [← ht] at hat
  exact ⟨_, u, h₂, hu, _, hat, rfl⟩

end Endpoint

end Service

end AuthFoundation
