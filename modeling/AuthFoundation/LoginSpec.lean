import AuthFoundation.Decoding
import AuthFoundation.Lawful

set_option autoImplicit false

/-!
# What a login does

* `Rejected`, `Clean`: operations that failed or found something wrong, and histories without them.
* `Unissued`: no handoff was created; `LoginOp`: the operations of a login.
* `Fallback`: the reasons to log in with Google; `Issued`: a handoff issued for the session of the
  cookie; `LoginOutcome`: **how a login ends**, with what was done before.
* `login_sat`: every login ends in one of its outcomes.
-/

namespace AuthFoundation

open Text Redis Prog

/-- The references a request names. -/
def Request.references : Request → List String
  | login request _ => (request.cookie authSessionCookieName).toList
  | googleAuthCallback query => [query.state]
  | exchangeAuthHandoff _ body => [body.code]
  | logoutGet _ _ => []
  | logoutPost request form =>
    form.logoutReference :: (request.cookie authSessionCookieName).toList

/-! ## Failures -/

/-- The operation failed, found a session that does not decode, a user that is missing or disabled,
or a session for which no handoff can be issued although it has not ended. -/
def Rejected (e : Σ o, Reply o) : Prop :=
  match e with
  | ⟨.getMultiplexedTokioConnection, r⟩ => r = .error ()
  | ⟨.tryFillBytes, r⟩ => r = .error ()
  | ⟨.redis _, .error _⟩ => True
  | ⟨.redis (.hgetall _), .ok hash⟩ => hash ≠ ∅ ∧ ∀ fields, Fields.ofHash? hash = some fields →
    ∀ state, decodeSession fields ≠ .ok state
  | ⟨.redis (.eval .issueSsoHandoff _ _), .ok values⟩ =>
    ∃ err, unitReply values = .error err ∧ err ≠ .notFound ∧ err ≠ .expired
  | ⟨.sql _, .error _⟩ => True
  | ⟨.sql (.selectInternalUser _), .ok row⟩ => row ≠ some true
  | _ => False

/-- Nothing failed and nothing was found wrong. -/
def Clean (H : History Reply) : Prop := ∀ e ∈ H, ¬Rejected e

theorem clean_nil : Clean [] := fun _ h => nomatch h

theorem Clean.snoc {H : History Reply} {e : Σ o, Reply o} (h : Clean H) (he : ¬Rejected e) :
    Clean (H ++ [e]) := by
  intro e' he'
  rcases List.mem_append.mp he' with he' | he'
  · exact h e' he'
  · exact List.mem_singleton.mp he' ▸ he

section Clean

variable {H : History Reply}

theorem systemTimeNow_clean (h : Clean H) :
    systemTimeNow.Sat (fun _ _ => True) (fun H' _ => Clean H') H :=
  ⟨trivial, fun _ => h.snoc id⟩

theorem getMultiplexedTokioConnection_clean (h : Clean H) :
    getMultiplexedTokioConnection.Sat (fun _ _ => True)
      (fun H' r => ∀ u, r = .ok u → Clean H') H := by
  refine ⟨trivial, fun r u hr => ?_⟩
  subst hr
  exact h.snoc nofun

theorem generateReferenceValue_clean (h : Clean H) : generateReferenceValue.Sat (fun _ _ => True)
    (fun H' r => ∀ v, r = .ok v → Clean H') H := by
  refine ⟨trivial, fun r => ?_⟩
  cases r with
  | error e => exact nofun
  | ok bytes => exact fun _ _ => h.snoc nofun

theorem lookupLoginCallbackUri_clean (h : Clean H) {serviceId : String} :
    (lookupLoginCallbackUri serviceId).Sat (fun _ _ => True)
      (fun H' r => ∀ uri, r = .ok uri → Clean H') H := by
  refine ⟨trivial, fun r => ?_⟩
  match r with
  | .error e => exact nofun
  | .ok none => exact nofun
  | .ok (some (false, uri)) => exact nofun
  | .ok (some (true, uri)) => exact fun _ _ => h.snoc id

theorem readInternalUserEnabled_clean (h : Clean H) {u : Int32} :
    (readInternalUserEnabled u).Sat (fun _ _ => True)
      (fun H' r => r = .ok (some true) → Clean H') H := by
  refine ⟨trivial, fun r => ?_⟩
  cases r with
  | error e => exact nofun
  | ok row =>
    intro hr
    cases hr
    exact h.snoc fun hne => hne rfl

theorem writeState_clean (h : Clean H) {key : String} {fields : List (String × String)}
    {expiresAt now : UInt64} : (writeState key fields expiresAt now).Sat (fun _ _ => True)
      (fun H' r => ∀ u, r = .ok u → Clean H') H := by
  simp only [writeState, queryAsync]
  split
  · intro _ h
    cases h
  · refine ⟨trivial, fun r => ?_⟩
    cases r with
    | error e =>
      intro _ h
      cases h
    | ok n =>
      refine ⟨trivial, fun r => ?_⟩
      cases r with
      | error e =>
        intro _ h
        cases h
      | ok m => exact fun _ _ => (h.snoc id).snoc id

variable [Crates]

/-- A session that is missing or has expired. -/
inductive SessionGone (H : History Reply) (lookup : String) : Prop
  | absent (h : Observed H (.redis (Sent.readSession lookup).command) (.ok (∅ : Hash)))
  | expired (state : CommonSession) (now : UInt64) (h : SessionRead H lookup state)
      (hc : Clock H now) (he : state.expiresAt ≤ now)

omit [Crates] in
theorem SessionGone.append {lookup : String} (h : SessionGone H lookup) (D : History Reply) :
    SessionGone (H ++ D) lookup := by
  cases h with
  | absent h => exact .absent (h.append D)
  | expired state now h hc he => exact .expired state now (h.append D) (hc.append D) he

omit [Crates] in
/-- A hash without fields. -/
theorem eq_empty_of_len {hash : Hash} {fields : Fields} (hf : Fields.ofHash? hash = some fields)
    (hl : fields.len = 0) : hash = ∅ := by
  rw [Fields.len, hlen, Fields.ofHash?_eq_some hf, Finset.card_eq_zero] at hl
  refine Finmap.ext_lookup fun f => ?_
  rw [Finmap.lookup_empty, Finmap.lookup_eq_none, ← Finmap.mem_keys, hl]
  exact Finset.notMem_empty f

theorem readSession_clean (h : Clean H) {reference : String} {now : UInt64} (hc : Clock H now) :
    (readSession reference now).Sat (fun _ _ => True) (fun H' r =>
      (∀ state, r = .ok state → Clean H') ∧ (r = .error .notFound ∨ r = .error .expired →
        Clean H' ∧ SessionGone H' (referenceValueLookup reference))) H := by
  refine ⟨trivial, fun r => ?_⟩
  cases r with
  | error e => exact ⟨fun _ h => (by cases h), by rintro (h | h) <;> cases h⟩
  | ok hash =>
    have ho : Observed (H ++ [⟨.redis (Sent.readSession (referenceValueLookup reference)).command,
        .ok hash⟩]) (.redis (Sent.readSession (referenceValueLookup reference)).command)
        (.ok hash) := observed_last
    dsimp only [Prog.pure_eq, Prog.bind]
    cases hf : Fields.ofHash? hash with
    | none =>
      simp only [fieldsReply, hf]
      exact ⟨fun _ h => (by cases h), by rintro (h | h) <;> cases h⟩
    | some fields =>
      simp only [fieldsReply, hf]
      split_ifs with hl
      · have he := eq_empty_of_len hf hl
        subst he
        exact ⟨fun _ hr => (by cases hr), fun _ => ⟨h.snoc fun hr => hr.1 rfl, .absent ho⟩⟩
      · dsimp only
        cases hd : decodeSession fields with
        | error e =>
          rw [decodeSession_failsWith e hd]
          exact ⟨fun _ h => (by cases h), by rintro (h | h) <;> cases h⟩
        | ok state =>
          have hH := h.snoc (e := ⟨.redis (Sent.readSession (referenceValueLookup
            reference)).command, .ok hash⟩) fun hr => hr.2 fields hf state hd
          dsimp only [expireIfNeeded]
          split_ifs with hu
          · exact ⟨fun _ _ => hH, by rintro (h | h) <;> cases h⟩
          · have hle : state.expiresAt ≤ now := by
              rw [isUnexpired, decide_eq_true_eq] at hu
              exact UInt64.not_lt.mp hu
            refine ⟨trivial, fun r => ?_⟩
            cases r with
            | error e => exact ⟨fun _ h => (by cases h), by rintro (h | h) <;> cases h⟩
            | ok n =>
              have hs : SessionRead (H ++ [⟨.redis (Sent.readSession (referenceValueLookup
                  reference)).command, .ok hash⟩]) (referenceValueLookup reference) state :=
                ⟨hash, fields, ho, hf, hd⟩
              exact ⟨fun _ hr => (by cases hr), fun _ => ⟨hH.snoc id,
                .expired state now (hs.append _) ((hc.append _).append _) hle⟩⟩

end Clean

/-! ## Operations of a login -/

/-- The script answered with code 0. -/
def Accepted (e : Σ o, Reply o) : Prop :=
  match e with
  | ⟨.redis (.eval _ _ _), v⟩ => scriptReply unitReply v = .ok ()
  | _ => False

/-- No handoff was created. -/
def Unissued (H : History Reply) : Prop := ∀ e ∈ H, e.1.creates 104 = true → ¬Accepted e

theorem Unissued.append {H D : History Reply} (h : Unissued H)
    (hD : ∀ e ∈ D, e.1.creates 104 = true → ¬Accepted e) : Unissued (H ++ D) := by
  intro e he
  rcases List.mem_append.mp he with he | he
  · exact h e he
  · exact hD e he

theorem Unissued.quiet {H D : History Reply} (h : Unissued H)
    (hD : ∀ e ∈ D, e.1.creates 104 = false) : Unissued (H ++ D) :=
  h.append fun e he hc => by cases (hD e he).symm.trans hc

theorem Fresh.unissued {H : History Reply} (h : Fresh 104 H) : Unissued H := fun e he hc => by
  cases (h e he).symm.trans hc

theorem Unissued.failed {H : History Reply} (h : Unissued H) {script : ScriptName}
    {keys arguments : List Bytes} {v : Except Redis.Error (List Value)} {e : RedisStateError}
    (hv : scriptReply unitReply v = .error e) :
    Unissued (H ++ [⟨.redis (.eval script keys arguments), v⟩]) := by
  refine h.append fun e' he' _ ha => ?_
  cases List.mem_singleton.mp he'
  cases hv.symm.trans ha

section Specs

variable [Crates] {refs : List String} {H : History Reply}

/-- **Operations of a login**: they create external transactions and handoffs only, no transaction
after a handoff was issued, and no handoff after a transaction. -/
structure LoginOp (refs : List String) (H : History Reply) (o : Op) : Prop where
  allowed : Allowed refs H o
  kinds : ∀ f, o.creates f = true → f = 101 ∨ f = 104
  external : o.creates 101 = true → Unissued H
  handoff : o.creates 104 = true → Fresh 101 H

theorem LoginOp.reads {o : Op} (h : Reads refs H o) : LoginOp refs H o := by
  have hq : ∀ {P : Prop} f, o.creates f = true → P := fun f hf => by
    rw [h.2 f] at hf
    cases hf
  exact ⟨h.1, fun f hf => hq f hf, fun hf => hq 101 hf, fun hf => hq 104 hf⟩

theorem LoginOp.write {o : Op} (h : (Allowed refs H o ∧ o.Only 101) ∧ Unissued H) :
    LoginOp refs H o := by
  refine ⟨h.1.1, fun f hf => .inl (h.1.2 f hf), fun _ => h.2, fun hf => ?_⟩
  cases h.1.2 104 hf

theorem LoginOp.issue {o : Op} (h : (Allowed refs H o ∧ o.Only 104) ∧ Fresh 101 H) :
    LoginOp refs H o := by
  refine ⟨h.1.1, fun f hf => .inr (h.1.2 f hf), fun hf => ?_, fun _ => h.2⟩
  cases h.1.2 101 hf

/-- A step of a login that only reads. -/
theorem LoginOp.seq {α β : Type} {Q Q' : History Reply → α → Prop} {R : History Reply → β → Prop}
    {p : Service α} {f : α → Service β} (h : p.Sat (Reads refs) Q H)
    (h' : p.Sat (fun _ _ => True) Q' H)
    (hf : ∀ a D, (∀ e ∈ D, e.1.Quiet) → Q (H ++ D) a → Q' (H ++ D) a →
      Sat (LoginOp refs) R (f a) (H ++ D)) : Sat (LoginOp refs) R (p >>= f) H := by
  refine Sat.seq (P := Op.Quiet) ((h.learn h').mono (fun _ _ ho => ⟨.reads ho, ho.2⟩)
    fun _ _ => id) fun a D hD hQ => hf a D hD hQ.1 hQ.2

/-! ## Outcomes of a login -/

/-- **The reasons to log in with Google.** -/
inductive Fallback (request : HttpRequest) (H : History Reply) : Prop
  | missing (h : request.cookie authSessionCookieName = none)
  | malformed (reference : String) (h : request.cookie authSessionCookieName = some reference)
      (hv : ¬(validateFixedReferenceValue reference).isOk)
  | gone (reference : String) (h : request.cookie authSessionCookieName = some reference)
      (hs : SessionGone H (referenceValueLookup reference))
  | refused (reference handoff : String) (record : AuthenticationHandoff)
      (v : Except Redis.Error (List Value))
      (h : request.cookie authSessionCookieName = some reference)
      (ho : Observed H (.redis (Sent.issue (referenceValueLookup reference) handoff record).command)
        v)
      (hv : scriptReply unitReply v = .error .notFound ∨ scriptReply unitReply v = .error .expired)

theorem Fallback.append {request : HttpRequest} (h : Fallback request H) (D : History Reply) :
    Fallback request (H ++ D) := by
  cases h with
  | missing h => exact .missing h
  | malformed reference h hv => exact .malformed reference h hv
  | gone reference h hs => exact .gone reference h (hs.append D)
  | refused reference handoff record v h ho hv =>
    exact .refused reference handoff record v h (ho.append D) hv

/-- **A handoff was issued** for the session of the cookie and for the service of the query. -/
structure Issued (request : HttpRequest) (query : LoginQuery) (H : History Reply)
    (reference : String) (state : CommonSession) (bytes : Vector UInt8 32)
    (record : AuthenticationHandoff) : Prop where
  cookie : request.cookie authSessionCookieName = some reference
  read : SessionRead H (referenceValueLookup reference) state
  drawn : Observed H .tryFillBytes (.ok bytes)
  issued : ∃ v, Observed H (.redis (Sent.issue (referenceValueLookup reference)
    (referenceValueLookup (referenceValue bytes)) record).command) v ∧
      scriptReply unitReply v = .ok ()
  service : record.serviceId = query.serviceId
  challenge : record.codeChallenge = query.codeChallenge
  user : record.internalUserId = state.internalUserId
  authenticated : record.authenticatedAt = state.authenticatedAt
  enabled : Observed H (.sql (.selectInternalUser state.internalUserId)) (.ok (some true))

/-- **How a login ends.** -/
inductive LoginOutcome (googleConfig : GoogleAuthorizationConfig) (request : HttpRequest)
    (query : LoginQuery) (H : History Reply) : HttpResponse → Prop
  | rejected {status : ℕ} (h : status ∈ [400, 403, 503]) (hu : Unissued H) :
    LoginOutcome googleConfig request query H (.empty status)
  | google {bytes : Vector UInt8 32} (hf : Fallback request H) (hc : Clean H) (hu : Unissued H)
      (hb : Observed H .tryFillBytes (.ok bytes)) :
    LoginOutcome googleConfig request query H (.found
      (Crates.authorizeUrl googleConfig.clientId googleConfig.redirectUri (referenceValue bytes)))
  | callback {reference uri : String} {url : Url} {state : CommonSession}
      {bytes : Vector UInt8 32} {record : AuthenticationHandoff}
      (hi : Issued request query H reference state bytes record)
      (huri : Observed H (.sql (.selectLoginCallbackUri query.serviceId)) (.ok (some (true, uri))))
      (hurl : validCallbackUrl uri = some url) :
    LoginOutcome googleConfig request query H (.found (Crates.urlToString
      ((url.appendPair "code" (referenceValue bytes)).appendPair "state" query.state)))

theorem Unissued.rejected {googleConfig : GoogleAuthorizationConfig} {request : HttpRequest}
    {query : LoginQuery} {status : ℕ} (hu : Unissued H)
    (h : status ∈ [400, 403, 503] := by decide) :
    LoginOutcome googleConfig request query H (.empty status) := .rejected h hu

/-- The fallback of a login. -/
theorem startGoogleLogin_sat {googleConfig : GoogleAuthorizationConfig} {request : HttpRequest}
    {query : LoginQuery} {now : UInt64} (hb : Fallback request H) (hH : Clean H) (hc : Clock H now)
    (hs : EnabledService H query.serviceId) (hf : Fresh 101 H) (hu : Unissued H) :
    (startGoogleLogin googleConfig query now).Sat (LoginOp refs)
      (LoginOutcome googleConfig request query) H := by
  refine LoginOp.seq generateReferenceValue_sat (generateReferenceValue_clean hH)
    fun r D hD hr hclean => ?_
  have hu' : Unissued (H ++ D) := hu.quiet fun e he => hD e he 104
  cases r with
  | error e => exact hu'.rejected
  | ok oauthState =>
  have ⟨bytes, hbytes, hv⟩ := hr oauthState rfl
  subst hv
  cases he : checkedExpiresAt now externalAuthTransactionTtlSeconds with
  | error e => exact hu'.rejected
  | ok expiresAt =>
  have hw := @writeExternal_sat _ refs _ (referenceValue bytes)
    ⟨query.serviceId, query.state, query.codeChallenge, "google", "", now, expiresAt, .waiting⟩ now
    ⟨⟨bytes, hbytes, rfl⟩, hc.append D, checkedExpiresAt_eq_ok he, rfl, hs.append D⟩
    (hf.append fun e he => hD e he 101)
  have hw := (hw.learn (writeState_clean (hclean _ rfl))).invariant (I := Unissued)
    (fun H o r hu ho => hu.quiet fun e he => by
      rw [List.mem_singleton.mp he]
      exact ho.2.creates_ne (by decide)) hu'
  refine Sat.seq (P := fun _ => True) (hw.mono (fun _ _ ho => ⟨.write ho, trivial⟩)
    fun _ _ => id) fun r D' _ hr' => ?_
  cases r with
  | error e => exact hr'.2.rejected
  | ok _ => exact .google ((hb.append _).append _) (hr'.1.2 _ rfl) hr'.2 (hbytes.append _)

theorem login_sat {googleConfig : GoogleAuthorizationConfig} {request : HttpRequest}
    {query : LoginQuery} :
    (login googleConfig request query).Sat (LoginOp (Request.login request query).references)
      (LoginOutcome googleConfig request query) [] := by
  show Sat _ _ (if !loginInputIsValid query then _ else _) _
  split_ifs
  · exact (fresh_nil 104).unissued.rejected
  refine LoginOp.seq lookupLoginCallbackUri_sat (lookupLoginCallbackUri_clean clean_nil)
    fun r D₁ hD₁ hr hc₁ => ?_
  have hf₁ : ∀ f, Fresh f ([] ++ D₁) := fun f => (fresh_nil f).quiet hD₁
  cases r with
  | error e => cases e <;> exact (hf₁ 104).unissued.rejected
  | ok uri =>
  have huri := hr uri rfl
  refine LoginOp.seq systemTimeNow_sat (systemTimeNow_clean (hc₁ _ rfl)) fun t D₂ hD₂ ht hc₂ => ?_
  have hf₂ : ∀ f, Fresh f ([] ++ D₁ ++ D₂) := fun f => (hf₁ f).quiet hD₂
  cases hnow : unixSeconds t with
  | error e => exact (hf₂ 104).unissued.rejected
  | ok now =>
  have hclock := ht now hnow
  refine LoginOp.seq getMultiplexedTokioConnection_sat (getMultiplexedTokioConnection_clean hc₂)
    fun r D₃ hD₃ _ hc₃ => ?_
  have hf₃ : ∀ f, Fresh f ([] ++ D₁ ++ D₂ ++ D₃) := fun f => (hf₂ f).quiet hD₃
  cases r with
  | error e => exact (hf₃ 104).unissued.rejected
  | ok _ =>
  have hs : EnabledService ([] ++ D₁ ++ D₂ ++ D₃) query.serviceId :=
    .login uri ((huri.append D₂).append D₃)
  cases hcookie : request.cookie authSessionCookieName with
  | none =>
    exact startGoogleLogin_sat (.missing hcookie) (hc₃ _ rfl) (hclock.append _) hs (hf₃ 101)
      (hf₃ 104).unissued
  | some reference =>
  have hn : Named (Request.login request query).references (referenceValueLookup reference) := by
    refine ⟨reference, ?_, rfl⟩
    rw [Request.references, hcookie]
    exact List.mem_singleton_self reference
  show Sat _ _ (if !(validateFixedReferenceValue reference).isOk then _ else _) _
  split_ifs with hvalid
  · exact startGoogleLogin_sat (.malformed reference hcookie (by simpa using hvalid)) (hc₃ _ rfl)
      (hclock.append _) hs (hf₃ 101) (hf₃ 104).unissued
  cases hurl : validCallbackUrl uri with
  | none => exact (hf₃ 104).unissued.rejected
  | some url =>
  refine LoginOp.seq (readSession_sat hn (hclock.append D₃))
    (readSession_clean (hc₃ _ rfl) (hclock.append D₃)) fun r D₄ hD₄ hread hc₄ => ?_
  have hf₄ : ∀ f, Fresh f ([] ++ D₁ ++ D₂ ++ D₃ ++ D₄) := fun f => (hf₃ f).quiet hD₄
  have hgone : r = .error .notFound ∨ r = .error .expired →
      (startGoogleLogin googleConfig query now).Sat
        (LoginOp (Request.login request query).references)
        (LoginOutcome googleConfig request query) ([] ++ D₁ ++ D₂ ++ D₃ ++ D₄) := fun h =>
    startGoogleLogin_sat (.gone reference hcookie (hc₄.2 h).2) (hc₄.2 h).1
      ((hclock.append _).append _) (hs.append _) (hf₄ 101) (hf₄ 104).unissued
  cases r with
  | error e => cases e with
    | notFound => exact hgone (.inl rfl)
    | expired => exact hgone (.inr rfl)
    | _ => exact (hf₄ 104).unissued.rejected
  | ok session =>
  have hsession := hread session rfl
  refine LoginOp.seq readInternalUserEnabled_sat (readInternalUserEnabled_clean (hc₄.1 _ rfl))
    fun r D₅ hD₅ huser hc₅ => ?_
  have hf₅ : ∀ f, Fresh f ([] ++ D₁ ++ D₂ ++ D₃ ++ D₄ ++ D₅) := fun f => (hf₄ f).quiet hD₅
  match r with
  | .error e => exact (hf₅ 104).unissued.rejected
  | .ok none => exact (hf₅ 104).unissued.rejected
  | .ok (some false) => exact (hf₅ 104).unissued.rejected
  | .ok (some true) =>
  have huser := huser rfl
  refine LoginOp.seq generateReferenceValue_sat (generateReferenceValue_clean (hc₅ rfl))
    fun r D₆ hD₆ hr hc₆ => ?_
  have hf₆ : ∀ f, Fresh f ([] ++ D₁ ++ D₂ ++ D₃ ++ D₄ ++ D₅ ++ D₆) := fun f => (hf₅ f).quiet hD₆
  cases r with
  | error e => exact (hf₆ 104).unissued.rejected
  | ok handoffReference =>
  have ⟨bytes, hb, hv⟩ := hr handoffReference rfl
  subst hv
  have hH₆ := hc₆ _ rfl
  have hclock₆ := (((hclock.append D₃).append D₄).append D₅).append D₆
  have hs₆ := ((hs.append D₄).append D₅).append D₆
  cases he : checkedExpiresAt now authenticationHandoffTtlSeconds with
  | error e => exact (hf₆ 104).unissued.rejected
  | ok expiresAt =>
  have hi := @issueSsoHandoff_sat _ (Request.login request query).references _ reference
    (referenceValue bytes)
    ⟨query.serviceId, session.internalUserId, referenceValueLookup reference,
      query.codeChallenge, session.authenticatedAt, now, expiresAt, .unused⟩
    ⟨hn, ⟨bytes, hb, rfl⟩, rfl, hclock₆, checkedExpiresAt_eq_ok he, rfl,
      ⟨session, (hsession.append _).append _, rfl, rfl⟩, (EnabledUser.row huser).append _, hs₆⟩
    (hf₆ 104)
  have hi := hi.invariant (I := Fresh 101) (fun H o r hf ho => hf.append fun e he => by
      rw [List.mem_singleton.mp he]
      exact ho.2.creates_ne (by decide)) (hf₆ 101)
  refine Sat.seq (P := fun _ => True) (hi.mono (fun _ _ ho => ⟨.issue ho, trivial⟩)
    fun _ _ => id) fun r D₇ _ hissue => ?_
  obtain ⟨⟨v, hH, rfl⟩, hf₇⟩ := hissue
  obtain rfl := List.append_cancel_left hH
  have hgone : ∀ err, scriptReply unitReply v = .error err → err = .notFound ∨ err = .expired →
      (startGoogleLogin googleConfig query now).Sat
        (LoginOp (Request.login request query).references)
        (LoginOutcome googleConfig request query)
        ([] ++ D₁ ++ D₂ ++ D₃ ++ D₄ ++ D₅ ++ D₆ ++ [_]) := fun err hv herr => by
    refine startGoogleLogin_sat (.refused reference _ _ v hcookie observed_last ?_)
      (hH₆.snoc fun hr => ?_) (hclock₆.append _) (hs₆.append _) hf₇ ((hf₆ 104).unissued.failed hv)
    · obtain rfl | rfl := herr
      · exact .inl hv
      · exact .inr hv
    · cases v with
      | error e =>
        cases hv
        obtain h | h := herr <;> cases h
      | ok values =>
        obtain ⟨err', hv', hne⟩ := hr
        cases hv.symm.trans hv'
        exact herr.elim hne.1 hne.2
  cases hv : scriptReply unitReply v with
  | ok _ =>
    exact .callback ⟨hcookie, ((hsession.append _).append _).append _, hb.append _,
      ⟨v, observed_last, hv⟩, rfl, rfl, rfl, rfl, (huser.append _).append _⟩
      ((((((huri.append D₂).append D₃).append D₄).append D₅).append D₆).append _) hurl
  | error e => cases e with
    | notFound => exact hgone _ hv (.inl rfl)
    | expired => exact hgone _ hv (.inr rfl)
    | _ => exact ((hf₆ 104).unissued.failed hv).rejected

end Specs

end AuthFoundation
