import AuthFoundation.Content
import AuthFoundation.Lib.Link
import AuthFoundation.Requests

set_option autoImplicit false

/-!
# The portal and the service together

Both run interleaved, and anyone may send either of them any request at any time. What the portal
reads of an exchange comes from the service.

* `Delivered`, `JointRun`: the answers of exchanges, and the runs of both.
* `FreshChallenges`: the verifiers of the portal have different challenges.
* `CompletesLogin`: what a local session goes back to.
* **`no_code_injection`**: a code completes the login it was issued for, and no other.
-/

namespace AuthFoundation

open Text Redis Token Interleave

/-! ## Challenges -/

namespace Portal

section Challenges

variable [Crates] {config : AppConfig} {s : PortalPool} {tr tr₁ tr₂ : List PortalLabel}
  {l l' : PortalLabel} {k k' c : String} {r r' : LoginStart}

/-- The challenges of the references that were drawn. -/
def challenges (tr : List PortalLabel) : List String :=
  (drawn (localEvents tr)).map fun b => sha256Base64url (utf8 (referenceValue b))

/-- **Fresh challenges**: different draws have different challenges. -/
abbrev FreshChallenges (tr : List PortalLabel) : Prop := (challenges tr).Nodup

theorem challenges_append (tr₁ tr₂ : List PortalLabel) :
    challenges (tr₁ ++ tr₂) = challenges tr₁ ++ challenges tr₂ := by
  rw [challenges, drawn_append, List.map_append]
  rfl

theorem FreshChallenges.references (h : FreshChallenges tr) : FreshReferences tr :=
  List.Nodup.of_map _ h

/-- A challenge belongs to one label. -/
theorem FreshChallenges.eq (h : FreshChallenges tr) (hl : l ∈ tr) (hl' : l' ∈ tr)
    (hc : c ∈ challenges [l]) (hc' : c ∈ challenges [l']) : l = l' := by
  have hcut : ∀ {tr₁ tr₂ tr₃ : List PortalLabel} {l l' : PortalLabel}, c ∈ challenges [l] →
      c ∈ challenges [l'] → ¬FreshChallenges (tr₁ ++ l :: tr₂ ++ l' :: tr₃) := by
    intro tr₁ tr₂ tr₃ l l' hc hc' hn
    rw [List.append_cons _ l', List.append_cons tr₁] at hn
    simp only [FreshChallenges, challenges_append] at hn
    have hn := (List.nodup_append.mp hn).1
    refine (List.nodup_append.mp hn).2.2 c ?_ c hc' rfl
    exact List.mem_append_left _ (List.mem_append_right _ hc)
  by_contra hne
  obtain ⟨tr₁, tr₂, tr₃, rfl | rfl⟩ := cut_two hl hl' hne
  · exact hcut hc hc' h
  · exact hcut hc' hc h

/-- A label creates one login start. -/
theorem CreatesStart.eq (h : CreatesStart k r l) (h' : CreatesStart k' r' l) :
    k = k' ∧ r.browserContextReference = r'.browserContextReference := by
  obtain ⟨i, q, path, now, draws, rfl⟩ := h
  obtain ⟨i', q', path', now', draws', e⟩ := h'
  obtain ⟨-, -, ho, hr⟩ := Label.op.inj e
  cases ho
  have hx := Except.ok.inj (Prod.mk.inj (eq_of_heq hr)).2
  exact ⟨(CreatedLoginStart.mk.inj hx).1, (CreatedLoginStart.mk.inj hx).2.1⟩

/-- The challenge of a login start is one of a reference that was drawn for it. -/
theorem PortalRun.start_challenge (h : PortalRun config tr s) (hl : l ∈ tr)
    (hc : CreatesStart k r l) : sha256Base64url (utf8 r.codeVerifier) ∈ challenges [l] := by
  obtain ⟨tr₁, tr₂, rfl⟩ := List.append_of_mem hl
  obtain ⟨i, q, path, now, draws, rfl⟩ := hc
  obtain ⟨t, t', -, hs, -⟩ := Run.split_step h
  have he := exec_login.symm.trans (Step.local hs)
  generalize t'.world = u at he
  generalize hx : (Except.ok ⟨k, r.browserContextReference,
    sha256Base64url (utf8 r.codeVerifier)⟩ : Except LocalStateError CreatedLoginStart) = x at he
  cases loginCreation he with
  | created skipped b context verifier expiresAt =>
    have hv := (CreatedLoginStart.mk.inj (Except.ok.inj hx)).2.2
    refine List.mem_map.mpr ⟨verifier, ?_, hv.symm⟩
    simp [drawn, localEvents, localEvent]
  | _ => cases hx

/-- **A challenge belongs to one login start.** -/
theorem PortalRun.start_eq (h : PortalRun config tr s) (hf : FreshChallenges tr) (hl : l ∈ tr)
    (hl' : l' ∈ tr) (hc : CreatesStart k r l) (hc' : CreatesStart k' r' l')
    (he : sha256Base64url (utf8 r.codeVerifier) = sha256Base64url (utf8 r'.codeVerifier)) :
    k = k' ∧ r.browserContextReference = r'.browserContextReference := by
  have hm := h.start_challenge hl hc
  have hm' := h.start_challenge hl' hc'
  rw [he] at hm
  obtain rfl := hf.eq hl hl' hm hm'
  exact hc.eq hc'

end Challenges

end Portal

/-! ## Answers of exchanges -/

/-- The request that the service gets for an exchange of the portal. -/
abbrev exchangeRequest (authorization : String) (body : HandoffExchangeRequest) : Request :=
  .exchangeAuthHandoff ⟨[toStr authorization], []⟩ body

section Service

variable [Crates] {googleConfig : GoogleAuthorizationConfig}
  {services : String → Option RegisteredService} {tr : List ServiceLabel} {s : ServicePool}
  {serviceId secret : String} {credentials : String × String}

/-- The credentials that the service reads are those that were sent. -/
theorem basicCredentials_sent (hb : ∀ l, Crates.base64Decode (Base64.encode l) = some l)
    (hs : AuthFoundation.validateServiceId serviceId = .ok ()) {cookies : List (String × String)}
    (h : basicCredentials ⟨[toStr (Portal.basicAuth serviceId secret)], cookies⟩ =
      some credentials) : credentials = (serviceId, secret) := by
  by_cases hl : len (Portal.basicAuth serviceId secret) ≤ 8192
  · have hc := (basicCredentials_basicAuth hb hs cookies).mpr hl
    exact Option.some.inj (h.symm.trans hc)
  · rw [toStr_basicAuth] at h
    have hn : basicCredentials ⟨[some (Portal.basicAuth serviceId secret)], cookies⟩ = none :=
      if_pos (not_le.mp hl)
    cases hn.symm.trans h

/-- **What the service answers to the portal** is what the handoff was created with, for the portal
and for the challenge of its verifier. -/
theorem ServiceRun.delivered (h : ServiceRun googleConfig (World.empty services) tr s)
    (hfresh : FreshReferences tr) (hb : ∀ l, Crates.base64Decode (Base64.encode l) = some l)
    (hs : AuthFoundation.validateServiceId serviceId = .ok ()) {k : ℕ} {code verifier : String}
    {u : Int32} {a : UInt64} (hk : s.threads k = some
      ⟨exchangeRequest (Portal.basicAuth serviceId secret) ⟨code, verifier⟩,
        .done ⟨200, none, [], .handoffExchangeResponse u a⟩⟩) :
    ∃ record : AuthenticationHandoff, (∃ e ∈ events tr,
        AuthFoundation.handoffs.Creates (Key.handoff (referenceValueLookup code)) record e) ∧
      record.serviceId = serviceId ∧ record.codeChallenge = sha256Base64url (utf8 verifier) ∧
      record.internalUserId = u ∧ record.authenticatedAt = a := by
  obtain ⟨id, sec, challenge, record, hcred, hc, hissued, hservice, hchallenge, hu, ha⟩ :=
    h.exchange_answered hfresh hk
  cases basicCredentials_sent hb hs hcred
  exact ⟨record, hissued, hservice, hchallenge.trans (pkceS256Challenge_eq_ok.mp hc).2, hu, ha⟩

end Service

/-! ## Runs of both -/

section Joint

variable [Crates] {config : Portal.AppConfig} {googleConfig : GoogleAuthorizationConfig}
  {services : String → Option RegisteredService} {p : Portal.PortalPool} {s : ServicePool}

abbrev JointLabel := Portal.PortalLabel ⊕ ServiceLabel

/-- **What the portal reads of an exchange** was answered by the service to the same request. -/
def Delivered (s : ServicePool) : Portal.PortalLabel → Prop
  | .op _ _ (.exchange authorization body) (some (u, a)) => ∃ k, s.threads k =
    some ⟨exchangeRequest authorization body, .done ⟨200, none, [], .handoffExchangeResponse u a⟩⟩
  | _ => True

/-- **Runs of the portal and the service**, from their empty states. -/
abbrev JointRun (config : Portal.AppConfig) (googleConfig : GoogleAuthorizationConfig)
    (services : String → Option RegisteredService) :
    List JointLabel → Portal.PortalPool → ServicePool → Prop :=
  LinkedRun Portal.portalMachine (Portal.PortalRequest.run config) machine
    (Request.run googleConfig) Delivered
    (Pool.init (.new config.loginStartCapacity config.localSessionCapacity))
    (Pool.init (World.empty services))

variable {tr tr₁ tr₂ : List JointLabel} {i : ℕ} {q : Portal.PortalRequest}

theorem JointRun.portal (h : JointRun config googleConfig services tr p s) :
    Portal.PortalRun config (lefts tr) p := h.left_run

theorem JointRun.service (h : JointRun config googleConfig services tr p s) :
    ServiceRun googleConfig (World.empty services) (rights tr) s := h.right_run

/-- **What a local session goes back to**: the request presents the code and the state, it claimed
the login start with its own context, and the handoff of the code was created for the portal and for
the challenge of this login start. -/
structure CompletesLogin (config : Portal.AppConfig) (tr : List JointLabel) (i : ℕ)
    (q : Portal.PortalRequest) (code state : String) (start : LoginStart)
    (record : AuthenticationHandoff) : Prop where
  presents : Portal.Presents q code state start.browserContextReference
  created : ∃ l ∈ lefts tr, Portal.CreatesStart state start l
  claimed : ∃ now, Observed (history i (lefts tr))
    (.claimLoginStart state start.browserContextReference now) (.ok start)
  issued : ∃ e ∈ events (rights tr),
    AuthFoundation.handoffs.Creates (Key.handoff (referenceValueLookup code)) record e
  service : record.serviceId = config.serviceId
  challenge : record.codeChallenge = sha256Base64url (utf8 start.codeVerifier)

theorem CompletesLogin.append {code state : String} {start : LoginStart}
    {record : AuthenticationHandoff} (h : CompletesLogin config tr₁ i q code state start record)
    (tr₂ : List JointLabel) : CompletesLogin config (tr₁ ++ tr₂) i q code state start record where
  presents := h.presents
  created := by
    obtain ⟨l, hl, hc⟩ := h.created
    exact ⟨l, by simp [hl], hc⟩
  claimed := by
    obtain ⟨now, hc⟩ := h.claimed
    refine ⟨now, ?_⟩
    rw [lefts_append, history_append]
    exact hc.append _
  issued := by
    obtain ⟨e, he, hc⟩ := h.issued
    exact ⟨e, by simp [he], hc⟩
  service := h.service
  challenge := h.challenge

/-- **Every local session completes a login.** -/
theorem JointRun.completes (h : JointRun config googleConfig services tr p s)
    (hfresh : FreshReferences (rights tr))
    (hb : ∀ l, Crates.base64Decode (Base64.encode l) = some l) {u : Int32} {a : UInt64}
    {r : Portal.PortalReply (.createLocalSession u a)}
    (e : tr = tr₁ ++ .inl (.op i q (.createLocalSession u a) r) :: tr₂) :
    ∃ code state start record, CompletesLogin config tr₁ i q code state start record ∧
      record.internalUserId = u ∧ record.authenticatedAt = a := by
  have hl : lefts tr = lefts tr₁ ++ .op i q (.createLocalSession u a) r :: lefts tr₂ := by
    simp [e]
  obtain ⟨code, state, context, now, start, hq, hH⟩ := h.portal.before_session hl
  obtain ⟨t, v, h₁, -⟩ := h.left_cut e
  -- the exchange, with what the service had done by then
  obtain ⟨ptr₁, q₁, ptr₂, hl₁, -, -⟩ := history_cut (show history i (lefts tr₁) =
    Portal.claimed state context now start ++
      ⟨Portal.exchangeOp config code start, some (u, a)⟩ :: [] from hH)
  obtain ⟨tr₃, tr₄, e₁, -, -⟩ := lefts_cut hl₁
  obtain ⟨t', v', h₃, k, hk⟩ := h₁.left_cut e₁
  have hsub : tr = tr₃ ++ (.inl (.op i q₁ (Portal.exchangeOp config code start) (some (u, a))) ::
      tr₄ ++ .inl (.op i q (.createLocalSession u a) r) :: tr₂) := by simp [e, e₁]
  have hfresh₃ : FreshReferences (rights tr₃) := by
    rw [hsub, rights_append] at hfresh
    exact hfresh.prefix
  obtain ⟨record, ⟨ev, hev, hcr⟩, hservice, hchallenge, hu, ha⟩ :=
    (JointRun.service h₃).delivered hfresh₃ hb (Portal.validateServiceId_iff.mp
      config.serviceId_valid) hk
  -- the claim
  obtain ⟨ptr₃, q₂, ptr₄, hl₂, -, -⟩ := history_cut (show history i (lefts tr₁) =
    Portal.timed now ++ ⟨.claimLoginStart state context now, .ok start⟩ ::
      [⟨Portal.exchangeOp config code start, some (u, a)⟩] from hH)
  have hportal := JointRun.portal h₁
  rw [hl₂] at hportal
  obtain ⟨w, w', hw, hs, -⟩ := Run.split_step hportal
  obtain ⟨hstart, rfl, -⟩ := claim_ok (exec_claim.mp (Portal.Step.local hs)).2
  obtain ⟨l, hl, hc⟩ := Portal.PortalRun.start_created hw hstart
  refine ⟨code, state, start, record, ⟨hq, ⟨l, ?_, hc⟩, ⟨now, ?_⟩, ⟨ev, ?_, hcr⟩, hservice,
    hchallenge⟩, hu, ha⟩
  · rw [hl₂]
    exact List.mem_append_left _ hl
  · rw [hH]
    exact List.mem_cons_of_mem _ List.mem_cons_self
  · rw [e₁, rights_append, events_append]
    exact List.mem_append_left _ hev

/-- A request presents one code, one state and one context. -/
theorem Portal.Presents.eq {code state context code' state' context' : String}
    (h : Presents q code state context) (h' : Presents q code' state' context') :
    code = code' ∧ state = state' := by
  obtain ⟨rawQuery, cookieHeader, rfl, hq, -⟩ := h
  obtain ⟨rawQuery', cookieHeader', e, hq', -⟩ := h'
  cases e
  have hx := Except.ok.inj (hq.symm.trans hq')
  exact ⟨(Portal.CallbackQuery.mk.inj hx).1, (Portal.CallbackQuery.mk.inj hx).2⟩

/-- The label creates a local session for this code. -/
def CompletesWith (code : String) (l : Portal.PortalLabel) : Prop :=
  Portal.CreatesSession l ∧ ∃ q state context, l.request = some q ∧
    Portal.Presents q code state context

/-- A local session for a code completes a login with it, and follows its start. -/
theorem JointRun.completesWith (h : JointRun config googleConfig services tr p s)
    (hs : FreshReferences (rights tr)) (hb : ∀ l, Crates.base64Decode (Base64.encode l) = some l)
    {code : String} {l : Portal.PortalLabel} (hl : l ∈ lefts tr) (hc : CompletesWith code l) :
    ∃ i q state start record, CompletesLogin config tr i q code state start record ∧
      Portal.Follows state (lefts tr) l := by
  obtain ⟨⟨i, q, u, a, now, draws, v, rfl⟩, q', state, context, hq, hpresents⟩ := hc
  cases hq
  obtain ⟨l₁, l₂, e⟩ := List.append_of_mem hl
  obtain ⟨tr₁, tr₂, rfl, -, -⟩ := lefts_cut e
  obtain ⟨code', state', start, record, hx, -⟩ := h.completes hs hb rfl
  obtain ⟨rfl, -⟩ := hpresents.eq hx.presents
  have hx := hx.append (.inl (.op i q (.createLocalSession u a) (some (now, draws, .ok v))) :: tr₂)
  obtain ⟨now, hclaim⟩ := hx.claimed
  exact ⟨i, q, state', start, record, hx, i, _, now, start, rfl, hclaim⟩

/-- The challenge of a completed login is that of its start only. -/
theorem JointRun.challenge_eq (h : JointRun config googleConfig services tr p s)
    (hp : Portal.FreshChallenges (lefts tr)) {code state state' : String}
    {start start' : LoginStart} {record : AuthenticationHandoff}
    (hx : CompletesLogin config tr i q code state start record) {l : Portal.PortalLabel}
    (hl : l ∈ lefts tr) (hc : Portal.CreatesStart state' start' l)
    (he : record.codeChallenge = sha256Base64url (utf8 start'.codeVerifier)) : state' = state := by
  obtain ⟨l', hl', hc'⟩ := hx.created
  exact (h.portal.start_eq hp hl hl' hc hc' (he.symm.trans hx.challenge)).1

/-- **No code injection.** Each local session completes a login whose start the portal created, with
a handoff that the service created for the portal, for the user and the time of the session and for
the challenge of this login start. No other login start has this challenge, and no code completes
two logins. -/
theorem no_code_injection (h : JointRun config googleConfig services tr p s)
    (hp : Portal.FreshChallenges (lefts tr)) (hs : FreshReferences (rights tr))
    (hb : ∀ l, Crates.base64Decode (Base64.encode l) = some l) :
    (∀ tr₁ i q u a r tr₂, tr = tr₁ ++ .inl (.op i q (.createLocalSession u a) r) :: tr₂ →
      ∃ code state start record, CompletesLogin config tr₁ i q code state start record ∧
        record.internalUserId = u ∧ record.authenticatedAt = a ∧
        ∀ l ∈ lefts tr, ∀ state' start', Portal.CreatesStart state' start' l →
          record.codeChallenge = sha256Base64url (utf8 start'.codeVerifier) → state' = state) ∧
    ∀ code, AtMostOne (CompletesWith code) (lefts tr) := by
  refine ⟨fun tr₁ i q u a r tr₂ e => ?_,
    fun code => atMostOne_of_cut fun l₁ x l₂ y l₃ e hx hy => ?_⟩
  · obtain ⟨code, state, start, record, hx, hu, ha⟩ := h.completes hs hb e
    refine ⟨code, state, start, record, hx, hu, ha, fun l hl state' start' hc he => ?_⟩
    have hx := hx.append (.inl (.op i q (.createLocalSession u a) r) :: tr₂)
    rw [← e] at hx
    exact h.challenge_eq hp hx hl hc he
  · obtain ⟨i, q, state, start, record, hcx, hfx⟩ := h.completesWith hs hb (by simp [e]) hx
    obtain ⟨i', q', state', start', record', hcy, hfy⟩ := h.completesWith hs hb (by simp [e]) hy
    -- both sessions are for the same handoff, so for the same login start
    obtain ⟨ev, hev, hcr⟩ := hcx.issued
    obtain ⟨ev', hev', hcr'⟩ := hcy.issued
    obtain rfl := (h.service.handoffs hs).creates_eq hev hev' hcr hcr'
    obtain ⟨l, hl, hc⟩ := hcy.created
    obtain rfl := h.challenge_eq hp hcx hl hc hcy.challenge
    have honce := h.portal.session_once hp.references state'
    rw [e] at honce hfx hfy
    exact honce.not_cut ⟨hx.1, hfx⟩ ⟨hy.1, hfy⟩

/-! ## A login through both -/

/-- The label reads no answer of an exchange. -/
def noAnswer : Portal.PortalLabel → Bool
  | .op _ _ (.exchange _ _) (some _) => false
  | _ => true

omit [Crates] in
theorem delivered_of_noAnswer {l : Portal.PortalLabel} (h : noAnswer l = true) :
    Delivered s l := by
  unfold Delivered
  split
  · cases h
  · trivial

/-- The crates of the service, with cookie headers that are split. -/
@[reducible] def Crates.joint : Crates :=
  { Crates.service with cookieSplitParse := Portal.splitCookies }

/-- The callback of the portal for the handoff of the run. -/
abbrev jointCallback : Portal.PortalRequest :=
  .callback (Portal.sampleQuery (bytes32 3) (bytes32 1))
    (some (Portal.portalLoginContextCookieName ++ "=" ++ referenceValue (bytes32 2)))

/-- The exchange of its code and verifier. -/
abbrev sampleExchangeOp : Portal.PortalOp :=
  .exchange (Portal.basicAuth "portal" "secret")
    ⟨referenceValue (bytes32 3), referenceValue (bytes32 4)⟩

/-- The request for the user of the local session. -/
abbrev sampleMe : Portal.PortalRequest :=
  .getMe ⟨[some (Portal.portalSessionCookieName ++ "=" ++ referenceValue (bytes32 3))], []⟩

/-- A login of the portal, the callback for it, and a request with its session. -/
def portalChoices : List (Choice Portal.PortalAnswer UInt64 Portal.PortalRequest) :=
  [.start 0 .login, .step 0 (.clock (some 0)), .step 0 (.draws [bytes32 1, bytes32 2, bytes32 4]),
    .start 1 jointCallback, .step 1 (.clock (some 200)), .step 1 .ok,
    .step 1 (.exchanged (some (1, 100))), .step 1 (.locked (some 200) [bytes32 3, bytes32 5]),
    .start 2 sampleMe, .step 2 (.locked (some 300) [])]

/-- The login of the service for it, and the exchange. -/
def serviceChoices : List (Choice Answer Move Request) :=
  firstLogin.set 1 (.start 0 (.login ⟨[], []⟩ ⟨"portal", referenceValue (bytes32 1),
    "Iq9hnSYCzYN3_F7i7FVdG-9ot-kvh_3lfhRiwMnFkRw", "S256"⟩)) ++
  [.start 3 (exchangeRequest (Portal.basicAuth "portal" "secret")
    ⟨referenceValue (bytes32 3), referenceValue (bytes32 4)⟩),
    .step 3 .ok, .step 3 .ok, .step 3 .ok, .step 3 .ok, .step 3 .ok]

omit [Crates] in
theorem exists_joint_run : letI := Crates.joint
    ∃ tr p s, JointRun Portal.AppConfig.sample ⟨"", ""⟩ sampleServices tr p s ∧
      Portal.FreshChallenges (lefts tr) ∧ FreshReferences (rights tr) ∧
      .op 1 jointCallback (.createLocalSession 1 100) (some (200, [bytes32 3, bytes32 5],
        .ok (referenceValue (bytes32 3), referenceValue (bytes32 5)))) ∈ lefts tr ∧
      p.threads 2 = some ⟨sampleMe, .done (some ⟨200, none, [], .me true 1⟩)⟩ := by
  let _ := Crates.joint
  obtain ⟨str, s, hservice, hfresh, hk⟩ := exists_run_of_play machine (Request.run ⟨"", ""⟩)
    (Pool.init (World.empty sampleServices)) serviceChoices (fun x => FreshReferences x.1 ∧
      x.2.result 3 (exchangeRequest (Portal.basicAuth "portal" "secret")
        ⟨referenceValue (bytes32 3), referenceValue (bytes32 4)⟩) =
        some ⟨200, none, [], .handoffExchangeResponse 1 100⟩) (by decide +kernel)
  obtain ⟨ptr, p, hportal, hchallenges, hbefore, hafter, hsession, hme⟩ := exists_run_of_play
    Portal.portalMachine (Portal.PortalRequest.run Portal.AppConfig.sample)
    (Pool.init (.new 1 1)) portalChoices (fun x => Portal.FreshChallenges x.1 ∧
      (∀ l ∈ x.1.take 6, noAnswer l = true) ∧
      (∀ l ∈ x.1.drop 6, noAnswer l = true ∨
        l = .op 1 jointCallback sampleExchangeOp (some (1, 100))) ∧
      .op 1 jointCallback (.createLocalSession 1 100) (some (200, [bytes32 3, bytes32 5],
        .ok (referenceValue (bytes32 3), referenceValue (bytes32 5)))) ∈ x.1 ∧
      x.2.result 2 sampleMe = some (some ⟨200, none, [], .me true 1⟩)) (by decide +kernel)
  have hdone := Pool.threads_of_result hk
  obtain ⟨u, h₁, h₂⟩ := hportal.split (List.take_append_drop 6 ptr).symm
  have h : JointRun Portal.AppConfig.sample ⟨"", ""⟩ sampleServices _ p s :=
    ((LinkedRun.nil.lefts_append h₁ fun l hl => delivered_of_noAnswer (hbefore l hl)).rights_append
      hservice).lefts_append h₂ fun l hl => by
        rcases hafter l hl with hn | rfl
        · exact delivered_of_noAnswer hn
        · exact ⟨3, hdone⟩
  refine ⟨_, p, s, h, ?_, ?_, ?_, Pool.threads_of_result hme⟩
  · simpa [-List.map_take, -List.map_drop] using hchallenges
  · simpa [-List.map_take, -List.map_drop] using hfresh
  · simpa [-List.map_take, -List.map_drop] using hsession

omit [Crates] in
theorem no_code_injection_sample : letI := Crates.joint
    ∃ tr p s tr₁ i q code state start record,
      JointRun Portal.AppConfig.sample ⟨"", ""⟩ sampleServices tr p s ∧
      CompletesLogin Portal.AppConfig.sample tr₁ i q code state start record ∧
      record.internalUserId = 1 ∧ record.authenticatedAt = 100 ∧
      AtMostOne (CompletesWith code) (lefts tr) := by
  let _ := Crates.joint
  obtain ⟨tr, p, s, h, hp, hs, hsession, -⟩ := exists_joint_run
  obtain ⟨hcomplete, honce⟩ := no_code_injection h hp hs Base64.decode_encode
  obtain ⟨l₁, l₂, e⟩ := List.append_of_mem hsession
  obtain ⟨tr₁, tr₂, e, -, -⟩ := lefts_cut e
  obtain ⟨code, state, start, record, hx, hu, ha, -⟩ := hcomplete _ _ _ _ _ _ _ e
  exact ⟨tr, p, s, tr₁, 1, _, code, state, start, record, h, hx, hu, ha, honce code⟩

end Joint

end AuthFoundation
