import AuthFoundation.LoginSpec

set_option autoImplicit false

/-!
# What each handler does

* `PairCreated`, `CallbackOutcome`: **how a callback ends**, with what was done before.
* `ExchangeOutcome`: how an exchange ends.
* `googleAuthCallback_sat`, `exchangeAuthHandoff_sat`, …: each handler only does what it may do and
  ends in one of its outcomes.
* `Request.Issues`, `Request.Answered`, `Request.sat`: the same for any request.
-/

namespace AuthFoundation

open Text Redis Prog

section Specs

variable [Crates] {refs : List String} {H : History Reply}

/-! ## The Google callback -/

/-- **A session and a handoff were created** for the transaction that was claimed. -/
structure PairCreated (query : CallbackQuery) (H : History Reply) (tx : ExternalAuthTransaction)
    (uri : String) (sessionBytes handoffBytes : Vector UInt8 32) (state : CommonSession)
    (record : AuthenticationHandoff) : Prop where
  claimed : Claimed H (referenceValueLookup query.state) tx
  uri : Observed H (.sql (.selectLoginCallbackUri tx.serviceId)) (.ok (some (true, uri)))
  created : ∃ v, Observed H (.redis (Sent.create
    (referenceValueLookup (referenceValue sessionBytes))
    state (referenceValueLookup (referenceValue handoffBytes)) record).command) v ∧
      scriptReply unitReply v = .ok ()
  drawn : Observed H .tryFillBytes (.ok sessionBytes)
  drawnHandoff : Observed H .tryFillBytes (.ok handoffBytes)
  service : record.serviceId = tx.serviceId
  challenge : record.codeChallenge = tx.handoffCodeChallenge
  user : record.internalUserId = state.internalUserId
  authenticated : record.authenticatedAt = state.authenticatedAt

/-- **How a callback ends.** -/
inductive CallbackOutcome (query : CallbackQuery) (H : History Reply) : HttpResponse → Prop
  | invalid (hH : H = []) : CallbackOutcome query H (.empty 400)
  | disconnected (h : Observed H .getMultiplexedTokioConnection (.error ())) (hu : Unissued H) :
    CallbackOutcome query H (.empty 503)
  | unclaimed {v : Except Redis.Error (List Value)} {e : RedisStateError}
      (hv : Observed H (.redis (Sent.claim (referenceValueLookup query.state)).command) v)
      (he : scriptReply claimReply v = .error e) (hu : Unissued H) :
    CallbackOutcome query H
      (.empty (if e = .notFound ∨ e = .expired ∨ e = .alreadyClaimed then 400 else 503))
  | failed {tx : ExternalAuthTransaction} {status : ℕ} (h : status ∈ [403, 500, 502, 503])
      (hc : Claimed H (referenceValueLookup query.state) tx) (hu : Unissued H) :
    CallbackOutcome query H (.empty status)
  | success {tx : ExternalAuthTransaction} {uri : String} {url : Url}
      {sessionBytes handoffBytes : Vector UInt8 32} {state : CommonSession}
      {record : AuthenticationHandoff}
      (h : PairCreated query H tx uri sessionBytes handoffBytes state record)
      (hurl : validCallbackUrl uri = some url) :
    CallbackOutcome query H ⟨302, some (Crates.urlToString
      ((url.clearQuery.appendPair "code" (referenceValue handoffBytes)).appendPair "state"
        tx.serviceState)), [⟨authSessionCookieName, referenceValue sessionBytes, true, none⟩],
        .empty⟩

theorem CallbackOutcome.fails {query : CallbackQuery} {tx : ExternalAuthTransaction} {status : ℕ}
    (hu : Unissued H) (hc : Claimed H (referenceValueLookup query.state) tx)
    (h : status ∈ [403, 500, 502, 503] := by decide) : CallbackOutcome query H (.empty status) :=
  .failed h hc hu

theorem googleAuthCallback_sat {query : CallbackQuery} :
    (googleAuthCallback query).Sat (Allowed (Request.googleAuthCallback query).references)
      (CallbackOutcome query) [] := by
  show Sat _ _ (if query.code = "" ∨ !(validateMaxBytes query.code oauthCodeMaxBytes).isOk ∨
    !(validateFixedReferenceValue query.state).isOk then _ else _) _
  split_ifs
  · exact .invalid rfl
  refine Sat.seq getMultiplexedTokioConnection_sat fun r D₁ hD₁ hr => ?_
  have hf₁ : ∀ f, Fresh f ([] ++ D₁) := fun f => (fresh_nil f).quiet hD₁
  cases r with
  | error e => exact .disconnected hr (hf₁ 104).unissued
  | ok _ =>
  have hn : Named (Request.googleAuthCallback query).references
      (referenceValueLookup query.state) :=
    ⟨query.state, List.mem_singleton_self _, rfl⟩
  refine Sat.seq (claimExternalCallback_sat hn) fun r D₂ hD₂ hr => ?_
  have hf₂ : ∀ f, Fresh f ([] ++ D₁ ++ D₂) := fun f => (hf₁ f).quiet hD₂
  obtain ⟨v, hH, rfl⟩ := hr
  have hv : Observed ([] ++ D₁ ++ D₂)
      (.redis (Sent.claim (referenceValueLookup query.state)).command) v := hH ▸ observed_last
  cases htx : scriptReply claimReply v with
  | error e =>
    have := CallbackOutcome.unclaimed hv htx (hf₂ 104).unissued
    cases e <;> exact this
  | ok tx =>
  have hc₂ : Claimed ([] ++ D₁ ++ D₂) (referenceValueLookup query.state) tx := by
    cases v with
    | error e => cases htx
    | ok reply => exact ⟨reply, hv, htx⟩
  refine Sat.seq lookupLoginCallbackUri_sat fun r D₃ hD₃ hr => ?_
  have hf₃ : ∀ f, Fresh f ([] ++ D₁ ++ D₂ ++ D₃) := fun f => (hf₂ f).quiet hD₃
  have hc₃ := hc₂.append D₃
  cases r with
  | error e => cases e <;> exact CallbackOutcome.fails (hf₃ 104).unissued hc₃
  | ok uri =>
  have huri := hr uri rfl
  dsimp only
  cases hurl : validCallbackUrl uri with
  | none => exact CallbackOutcome.fails (hf₃ 104).unissued hc₃
  | some url =>
  have hlaw : Lawful (Request.googleAuthCallback query).references ([] ++ D₁ ++ D₂ ++ D₃)
      (.exchangeCode query.code) := ⟨_, tx, hn, hc₃⟩
  refine Sat.seq (P := Op.Quiet) (sat_ask (Lawful.reads hlaw fun _ => rfl)) fun r D₄ hD₄ _ => ?_
  have hf₄ : ∀ f, Fresh f ([] ++ D₁ ++ D₂ ++ D₃ ++ D₄) := fun f => (hf₃ f).quiet hD₄
  have hc₄ := hc₃.append D₄
  cases r with
  | error e => exact CallbackOutcome.fails (hf₄ 104).unissued hc₄
  | ok accessToken =>
  have hlaw : Lawful (Request.googleAuthCallback query).references ([] ++ D₁ ++ D₂ ++ D₃ ++ D₄)
      (.userInfo accessToken) := ⟨_, tx, hn, hc₄⟩
  refine Sat.seq (P := Op.Quiet) (sat_ask (Lawful.reads hlaw fun _ => rfl)) fun r D₅ hD₅ _ => ?_
  have hf₅ : ∀ f, Fresh f ([] ++ D₁ ++ D₂ ++ D₃ ++ D₄ ++ D₅) := fun f => (hf₄ f).quiet hD₅
  have hc₅ := hc₄.append D₅
  match r with
  | .error e => exact CallbackOutcome.fails (hf₅ 104).unissued hc₅
  | .ok none => exact CallbackOutcome.fails (hf₅ 104).unissued hc₅
  | .ok (some userInfo) =>
  dsimp only
  cases hid : normalizeGoogleUserInfo userInfo with
  | error e => exact CallbackOutcome.fails (hf₅ 104).unissued hc₅
  | ok identity =>
  refine Sat.seq systemTimeNow_sat fun t D₆ hD₆ ht => ?_
  have hf₆ : ∀ f, Fresh f ([] ++ D₁ ++ D₂ ++ D₃ ++ D₄ ++ D₅ ++ D₆) := fun f => (hf₅ f).quiet hD₆
  have hc₆ := hc₅.append D₆
  cases hnow : unixSeconds t with
  | error e => exact CallbackOutcome.fails (hf₆ 104).unissued hc₆
  | ok now =>
  have hclock := ht now hnow
  refine Sat.seq resolveExternalIdentity_sat fun r D₇ hD₇ huser => ?_
  have hf₇ : ∀ f, Fresh f ([] ++ D₁ ++ D₂ ++ D₃ ++ D₄ ++ D₅ ++ D₆ ++ D₇) := fun f =>
    (hf₆ f).quiet hD₇
  have hc₇ := hc₆.append D₇
  cases r with
  | error e => cases e <;> exact CallbackOutcome.fails (hf₇ 104).unissued hc₇
  | ok internalUserId =>
  have huser := huser _ rfl
  refine Sat.seq generateReferenceValue_sat fun r D₈ hD₈ hr => ?_
  have hf₈ : ∀ f, Fresh f ([] ++ D₁ ++ D₂ ++ D₃ ++ D₄ ++ D₅ ++ D₆ ++ D₇ ++ D₈) := fun f =>
    (hf₇ f).quiet hD₈
  have hc₈ := hc₇.append D₈
  cases r with
  | error e => exact CallbackOutcome.fails (hf₈ 104).unissued hc₈
  | ok commonSessionReference =>
  have ⟨sessionBytes, hsb, hsv⟩ := hr _ rfl
  subst hsv
  refine Sat.seq generateReferenceValue_sat fun r D₉ hD₉ hr => ?_
  have hf₉ : ∀ f, Fresh f ([] ++ D₁ ++ D₂ ++ D₃ ++ D₄ ++ D₅ ++ D₆ ++ D₇ ++ D₈ ++ D₉) := fun f =>
    (hf₈ f).quiet hD₉
  have hc₉ := hc₈.append D₉
  cases r with
  | error e => exact CallbackOutcome.fails (hf₉ 104).unissued hc₉
  | ok handoffReference =>
  have ⟨handoffBytes, hhb, hhv⟩ := hr _ rfl
  subst hhv
  cases hse : checkedExpiresAt now commonSessionTtlSeconds with
  | error e => exact CallbackOutcome.fails (hf₉ 104).unissued hc₉
  | ok sessionExpiresAt =>
  cases hhe : checkedExpiresAt now authenticationHandoffTtlSeconds with
  | error e => exact CallbackOutcome.fails (hf₉ 104).unissued hc₉
  | ok handoffExpiresAt =>
  have hclock₉ := ((hclock.append D₇).append D₈).append D₉
  have huri₉ := ((((((huri.append D₄).append D₅).append D₆).append D₇).append D₈).append D₉)
  refine Sat.bind ((@createSessionAndHandoff_sat _ _ _ _ _
    ⟨internalUserId, now, now, sessionExpiresAt⟩
    ⟨tx.serviceId, internalUserId, referenceValueLookup (referenceValue sessionBytes),
      tx.handoffCodeChallenge, now, now, handoffExpiresAt, .unused⟩
    ⟨⟨sessionBytes, hsb.append _, rfl⟩, ⟨handoffBytes, hhb, rfl⟩, rfl, hclock₉, rfl, rfl, rfl,
      checkedExpiresAt_eq_ok hse, checkedExpiresAt_eq_ok hhe, rfl, rfl,
      ⟨_, tx, hn, hc₉, rfl, rfl⟩, (huser.append _).append _, .login uri huri₉⟩ (hf₉ 104)
    (hf₉ 115)).mono (fun _ _ => id) ?_)
  rintro H' r ⟨v, rfl, rfl⟩
  cases hok : scriptReply unitReply v with
  | error e => exact CallbackOutcome.fails ((hf₉ 104).unissued.failed hok) (hc₉.append _)
  | ok _ =>
    exact .success ⟨hc₉.append _, huri₉.append _, ⟨v, observed_last, hok⟩,
      (hsb.append _).append _, hhb.append _, rfl, rfl, rfl, rfl⟩ hurl

/-! ## Exchange -/

/-- **How an exchange ends.** -/
inductive ExchangeOutcome (request : HttpRequest) (body : HandoffExchangeRequest)
    (H : History Reply) : HttpResponse → Prop
  | refused {status : ℕ} (h : status ∈ [400, 401, 403, 503]) :
    ExchangeOutcome request body H (.empty status)
  | success {serviceId secret challenge lookup : String} {reply : List Value}
      {v : HandoffExchangeResult} (hb : basicCredentials request = some (serviceId, secret))
      (hc : pkceS256Challenge body.codeVerifier = .ok challenge)
      (hs : EnabledService H serviceId)
      (ho : Observed H (.redis (Sent.exchange (referenceValueLookup body.code) serviceId challenge
        lookup).command) (.ok reply)) (hv : exchangeReply reply = .ok v) :
    ExchangeOutcome request body H
      ⟨200, none, [], .handoffExchangeResponse v.internalUserId v.authenticatedAt⟩

theorem exchangeAuthHandoff_sat {request : HttpRequest} {body : HandoffExchangeRequest} :
    (exchangeAuthHandoff request body).Sat
      (Allowed (Request.exchangeAuthHandoff request body).references)
      (ExchangeOutcome request body) [] := by
  show Sat _ _ (if !(validateFixedReferenceValue body.code).isOk ∨ body.codeVerifier = "" ∨
    !(pkceS256Challenge body.codeVerifier).isOk then _ else _) _
  split_ifs
  · exact .refused (by decide)
  cases hb : basicCredentials request with
  | none => exact .refused (by decide)
  | some credentials =>
  obtain ⟨serviceId, secret⟩ := credentials
  show Sat _ _ (if !(validateServiceId serviceId).isOk then _ else _) _
  split_ifs
  · exact .refused (by decide)
  refine Sat.seq authenticateService_sat fun r D₁ hD₁ hs => ?_
  cases r with
  | error e => cases e <;> exact .refused (by decide)
  | ok service =>
  have hs := hs service rfl
  dsimp only
  cases hc : pkceS256Challenge body.codeVerifier with
  | error e => exact .refused (by decide)
  | ok challenge =>
  refine Sat.seq getMultiplexedTokioConnection_sat fun r D₂ hD₂ _ => ?_
  cases r with
  | error e => exact .refused (by decide)
  | ok _ =>
  have hn : Named (Request.exchangeAuthHandoff request body).references
      (referenceValueLookup body.code) := ⟨body.code, List.mem_singleton_self _, rfl⟩
  refine Sat.seq (exchangeHandoff_sat hn (hs.append D₂)) fun r D₃ hD₃ hr => ?_
  cases r with
  | error e => cases e <;> exact .refused (by decide)
  | ok v =>
    obtain ⟨lookup, reply, ho, hv⟩ := hr v rfl
    exact .success hb hc ((hs.append D₂).append D₃) ho hv

/-! ## Logout -/

theorem logoutGet_sat {request : HttpRequest} {serviceId : String} :
    (logoutGet request serviceId).Sat (Allowed (Request.logoutGet request serviceId).references)
      (fun _ _ => True) [] := by
  show Sat _ _ (if !(validateServiceId serviceId).isOk then _ else _) _
  split_ifs
  · trivial
  refine Sat.seq lookupLogoutReturnUri_sat fun r D₁ hD₁ huri => ?_
  have hf₁ : Fresh 108 ([] ++ D₁) := (fresh_nil 108).quiet hD₁
  cases r with
  | error e => cases e <;> trivial
  | ok returnUri =>
  have huri := huri _ rfl
  dsimp only
  cases hurl : validCallbackUrl returnUri with
  | none => trivial
  | some _ =>
  dsimp only
  cases hcookie : request.cookie authSessionCookieName with
  | none => trivial
  | some cookie =>
  show Sat _ _ (if !(validateFixedReferenceValue cookie).isOk then _ else _) _
  split_ifs
  · trivial
  refine Sat.seq generateReferenceValue_sat fun r D₂ hD₂ hr => ?_
  cases r with
  | error e => trivial
  | ok logoutReference =>
  have ⟨bytes, hb, hv⟩ := hr _ rfl
  subst hv
  refine Sat.seq generateReferenceValue_sat fun r D₃ hD₃ _ => ?_
  cases r with
  | error e => trivial
  | ok csrfPlaintext =>
  refine Sat.seq systemTimeNow_sat fun t D₄ hD₄ ht => ?_
  cases hnow : unixSeconds t with
  | error e => trivial
  | ok now =>
  have hclock := ht now hnow
  dsimp only
  cases he : checkedExpiresAt now commonLogoutTransactionTtlSeconds with
  | error e => trivial
  | ok expiresAt =>
  refine Sat.seq getMultiplexedTokioConnection_sat fun r D₅ hD₅ _ => ?_
  cases r with
  | error e => trivial
  | ok _ =>
  have hw := @writeLogout_sat _ (Request.logoutGet request serviceId).references _
    (referenceValue bytes)
    ⟨serviceId, returnUri, referenceValueLookup csrfPlaintext, now, expiresAt, .unused⟩ now
    ⟨⟨bytes, ((hb.append _).append _).append _, rfl⟩, hclock.append _, checkedExpiresAt_eq_ok he,
      rfl, isLookup_referenceValueLookup _,
      (((huri.append _).append _).append _).append _⟩
    ((((hf₁.quiet hD₂).quiet hD₃).quiet hD₄).quiet hD₅)
  refine Sat.bind (hw.mono (fun _ _ h => h.1) fun H' r _ => ?_)
  cases r <;> trivial

theorem logoutPost_sat {request : HttpRequest} {form : LogoutForm} :
    (logoutPost request form).Sat (Allowed (Request.logoutPost request form).references)
      (fun _ _ => True) [] := by
  show Sat _ _ (if !(validateFixedReferenceValue form.logoutReference).isOk ∨
    !(validateFixedReferenceValue form.csrfToken).isOk then _ else _) _
  split_ifs
  · trivial
  cases hcookie : request.cookie authSessionCookieName with
  | none => trivial
  | some cookie =>
  show Sat _ _ (if !(validateFixedReferenceValue cookie).isOk then _ else _) _
  split_ifs
  · trivial
  refine Sat.seq getMultiplexedTokioConnection_sat fun r D₁ hD₁ _ => ?_
  cases r with
  | error e => trivial
  | ok _ =>
  have hn : Named (Request.logoutPost request form).references
      (referenceValueLookup form.logoutReference) := ⟨_, List.mem_cons_self, rfl⟩
  have hs : Named (Request.logoutPost request form).references (referenceValueLookup cookie) := by
    refine ⟨cookie, List.mem_cons_of_mem _ ?_, rfl⟩
    rw [hcookie]
    exact List.mem_singleton_self cookie
  refine Sat.seq (completeCommonLogout_sat hn hs) fun r D₂ hD₂ _ => ?_
  cases r with
  | error e => cases e <;> trivial
  | ok _ => trivial

/-! ## Any request -/

/-- **The operations of a request.** -/
def Request.Issues : Request → History Reply → Op → Prop
  | login request query, H, o => LoginOp (login request query).references H o
  | q, H, o => Allowed q.references H o

theorem Request.Issues.allowed {q : Request} {o : Op} (h : q.Issues H o) :
    Allowed q.references H o := by
  cases q with
  | login => exact LoginOp.allowed h
  | _ => exact h

/-- **How a request ends.** -/
def Request.Answered (googleConfig : GoogleAuthorizationConfig) :
    Request → History Reply → HttpResponse → Prop
  | login request query, H, response => LoginOutcome googleConfig request query H response
  | googleAuthCallback query, H, response => CallbackOutcome query H response
  | exchangeAuthHandoff request body, H, response => ExchangeOutcome request body H response
  | _, _, _ => True

/-- **Every request** only does what it may do and ends in one of its outcomes. -/
theorem Request.sat (googleConfig : GoogleAuthorizationConfig) (q : Request) :
    (q.run googleConfig).Sat q.Issues (q.Answered googleConfig) [] := by
  cases q with
  | login request query => exact login_sat
  | googleAuthCallback query => exact googleAuthCallback_sat
  | exchangeAuthHandoff request body => exact exchangeAuthHandoff_sat
  | logoutGet request serviceId => exact logoutGet_sat
  | logoutPost request form => exact logoutPost_sat

end Specs

end AuthFoundation
