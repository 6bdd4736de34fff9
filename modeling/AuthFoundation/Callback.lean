import AuthFoundation.LoginRun
import AuthFoundation.Operations
import AuthFoundation.Refinement

set_option autoImplicit false

/-!
# Callbacks happen once

Google sends the browser back with the state of a login; it can come twice, or many times at once.

* `Claims`: the steps that claim a transaction; `Begins`: those of a login that wrote it.
* `ContactsGoogle`: the steps that ask Google.
* **`callback_claimed_once`**: one callback for each state gets past its claim.
* `CallbackResult`, **`callback_all_or_nothing`**: what it leaves in Redis.
-/

namespace AuthFoundation

open Text Redis Token Interleave

section Service

variable [Crates] {googleConfig : GoogleAuthorizationConfig} {w : World}
  {services : String → Option RegisteredService} {tr tr₁ tr₂ : List ServiceLabel}
  {s t : ServicePool} {i : ℕ} {l : ServiceLabel} {lookup : String} {reply : List Value}
  {tx : ExternalAuthTransaction} {query : CallbackQuery} {response : HttpResponse}

/-! ## Claims -/

/-- The step claimed the transaction. -/
def Claims (lookup : String) (tx : ExternalAuthTransaction) (l : ServiceLabel) : Prop :=
  ∃ i q reply, l = Label.sent i q (.claim lookup) (.ok reply) ∧ claimReply reply = .ok tx

/-- The step asked Google for a token or for the user. -/
def ContactsGoogle : ServiceLabel → Prop
  | .op _ _ (.exchangeCode _) _ => True
  | .op _ _ (.userInfo _) _ => True
  | _ => False

omit [Crates] in
theorem committed_claim (h : claimReply reply = .ok tx) :
    Committed (.command (Sent.claim lookup).command (.ok reply)) := by
  unfold claimReply at h
  split at h
  · trivial
  · rename_i code
    unfold scriptError at h
    split at h <;> cases h
  · cases h

omit [Crates] in
theorem uses_claim (h : claimReply reply = .ok tx) :
    AuthFoundation.externals.Uses (Key.external lookup)
      (.command (Sent.claim lookup).command (.ok reply)) :=
  ⟨.claim lookup, .ok reply, rfl, rfl, committed_claim h⟩

omit [Crates] in
/-- A claim that a thread has observed is one of its steps. -/
theorem Claimed.claims (h : Claimed (history i tr) lookup tx) :
    ∃ l ∈ tr, l.client = some i ∧ Claims lookup tx l := by
  obtain ⟨reply, ho, ht⟩ := h
  obtain ⟨q, hl⟩ := Interleave.mem_history.mp ho
  exact ⟨_, hl, rfl, i, q, reply, rfl, ht⟩

/-- **A transaction is claimed once.** -/
theorem ServiceRun.claims_once (h : ServiceRun googleConfig (World.empty services) tr s)
    (hfresh : FreshReferences tr) (lookup : String) :
    AtMostOne (fun l => ∃ tx, Claims lookup tx l) tr := by
  refine atMostOne_of_cut ?_
  rintro tr₁ l tr₂ l' tr₃ rfl ⟨tx, i, q, reply, rfl, ht⟩ ⟨tx', j, q', reply', rfl, ht'⟩
  have hr := Run.redis h
  have hd := h.externals hfresh (k := Key.external lookup)
  rw [events_append, events_append, events_redis, events_redis] at hr hd
  exact (externals_sound family_external).used_once hr hd (uses_claim ht) (uses_claim ht')

/-- A step of a login wrote the transaction. -/
def Begins (lookup : String) (a : ExternalAuthTransaction) (l : ServiceLabel) : Prop :=
  ∃ j request query, ∃ r : Reply (.redis (Sent.writeExternal lookup a).command),
    l = Label.sent j (.login request query) (.writeExternal lookup a) r ∧ Created 101 l

/-- **A claim returns what a login wrote**, with its status changed. -/
theorem ServiceRun.claimed (h : ServiceRun googleConfig (World.empty services) (tr₁ ++ l :: tr₂) s)
    (hfresh : FreshReferences (tr₁ ++ l :: tr₂)) (hc : Claims lookup tx l) :
    ∃ a, (∃ l' ∈ tr₁, Begins lookup a l') ∧ tx = { a with status := .processing } := by
  obtain ⟨i, q, reply, rfl, ht⟩ := hc
  obtain ⟨t, t', h₁, hs, -⟩ := h.split_step
  have hcm : Committed (.command (Sent.claim lookup).command (.ok reply)) := committed_claim ht
  obtain ⟨_, hr, g, x, hclaim⟩ := claim_committed (hcm.script (Step.redis hs)) hcm
  cases hr
  obtain ⟨p, hp⟩ := ServiceRun.knows h₁ (externals_sound family_external)
    (ServiceRun.externals h₁ hfresh.prefix (k := Key.external lookup))
  obtain ⟨a, rfl, -⟩ := hclaim.holds hp.1
  obtain ⟨⟨y, hy, -⟩, e, he, hcr⟩ := hp
  cases hclaim.entry.symm.trans hy
  obtain ⟨tr₃, tr₄, v, j, q', x', r, s', rfl, hcreation⟩ := ServiceRun.creator h₁ he hcr
  have hrecord : claimReply reply = .ok { a with status := .processing } := by
    rw [hclaim.reply]
    exact claimReply_record a
  cases x' with
  | writeExternal lookup' a' =>
    obtain ⟨hk, rfl⟩ := Prod.mk.inj (Option.some.inj hcreation.creates)
    obtain rfl := external_inj.mp hk
    have hcr : (Op.redis (Sent.writeExternal lookup' a').command).creates 101 = true := by simp
    -- the family of the key is that of a login
    have hkind := Interleave.Run.sat_op h₁ (fun q => (Request.uses q).sat []) rfl
    rw [Sent.command, Op.kind, family_external] at hkind
    obtain ⟨request, query, rfl⟩ := login_of_kind hkind
    exact ⟨a', ⟨_, by simp, j, request, query, r, rfl, hcr, hcreation.committed⟩,
      Except.ok.inj (ht.symm.trans hrecord)⟩
  | _ => cases hcreation.creates

/-! ## Creations -/

omit [Crates] in
/-- Only a creation with its handoff creates a session. -/
theorem Created.session {x : Sent} {q : Request} {r : Reply (.redis x.command)}
    (h : Created 115 (Label.sent i q x r)) :
    ∃ session state handoff record, x = .create session state handoff record := by
  cases x with
  | create session state handoff record => exact ⟨_, _, _, _, rfl⟩
  | writeExternal lookup state =>
    have hc := h.1
    rw [creates_writeExternal] at hc
    cases hc
  | writeLogout lookup state =>
    have hc := h.1
    rw [creates_writeLogout] at hc
    cases hc
  | _ => cases h.1

/-- A request that created no handoff created no session. -/
theorem ServiceRun.uncreated (h : ServiceRun googleConfig w tr s) (hu : Unissued (history i tr)) :
    ∀ l ∈ tr, l.client = some i → ¬Created 104 l ∧ ¬Created 115 l := by
  refine fun l hl hi => ⟨h.unissued hu l hl hi, fun hc => ?_⟩
  obtain ⟨q, c, r, rfl, hcr, hcm⟩ := hc.command hi
  obtain ⟨tr₁, tr₂, e⟩ := List.append_of_mem hl
  obtain ⟨x, rfl, -⟩ := h.lawful e
  obtain ⟨session, state, handoff, record, rfl⟩ := Created.session hc
  exact h.unissued hu _ hl hi ⟨rfl, hcm⟩

/-! ## One callback for each state -/

/-- A callback that claimed nothing is rejected. -/
theorem CallbackOutcome.rejected {H : History Reply} (h : CallbackOutcome query H response)
    (hn : ∀ tx, ¬Claimed H (referenceValueLookup query.state) tx) :
    (response = .empty 400 ∨ response = .empty 503) ∧ Unissued H := by
  cases h with
  | invalid hH =>
    subst hH
    exact ⟨.inl rfl, fun e he => absurd he List.not_mem_nil⟩
  | disconnected _ hu => exact ⟨.inr rfl, hu⟩
  | unclaimed _ _ hu =>
    refine ⟨?_, hu⟩
    split_ifs
    · exact .inl rfl
    · exact .inr rfl
  | failed _ hc => exact absurd hc (hn _)
  | success hx => exact absurd hx.claimed (hn _)

/-- **One callback for each state.** At most one claim of a transaction succeeds, and it returns
what a login has written before, with its status changed. A callback that did not claim its
transaction answers 400 or 503, does not ask Google and creates nothing. -/
theorem callback_claimed_once (h : ServiceRun googleConfig (World.empty services) tr s)
    (hfresh : FreshReferences tr) :
    (∀ lookup, AtMostOne (fun l => ∃ tx, Claims lookup tx l) tr) ∧
    (∀ lookup tx tr₁ l tr₂, tr = tr₁ ++ l :: tr₂ → Claims lookup tx l →
      ∃ a, (∃ l' ∈ tr₁, Begins lookup a l') ∧ tx = { a with status := .processing }) ∧
    ∀ i query response, s.threads i = some ⟨.googleAuthCallback query, .done response⟩ →
      (∀ l ∈ tr, l.client = some i → ∀ tx, ¬Claims (referenceValueLookup query.state) tx l) →
      (response = .empty 400 ∨ response = .empty 503) ∧
        ∀ l ∈ tr, l.client = some i → ¬ContactsGoogle l ∧ ¬Created 104 l ∧ ¬Created 115 l := by
  refine ⟨h.claims_once hfresh, fun lookup tx tr₁ l tr₂ e hc => ?_,
    fun i query response hi hno => ?_⟩
  · subst e
    exact ServiceRun.claimed h hfresh hc
  have hn : ∀ tx, ¬Claimed (history i tr) (referenceValueLookup query.state) tx := fun tx hc => by
    obtain ⟨l, hl, hli, hc⟩ := hc.claims
    exact hno l hl hli tx hc
  obtain ⟨hresponse, hu⟩ := CallbackOutcome.rejected (h.answered hi) hn
  refine ⟨hresponse, fun l hl hli => ⟨fun hg => ?_, h.uncreated hu l hl hli⟩⟩
  have hf := h.follows i
  rw [hi] at hf
  have hreq := hf.2.2 l hl hli
  obtain ⟨tr₁, tr₂, rfl⟩ := List.append_of_mem hl
  -- Google is asked for a transaction that was claimed
  have hclaimed : ∃ lookup tx, Named [query.state] lookup ∧ Claimed (history i tr₁) lookup tx := by
    match l, hg with
    | .op j q (.exchangeCode code) r, _ =>
      cases hli
      cases hreq
      exact (h.issues rfl).allowed.1
    | .op j q (.userInfo token) r, _ =>
      cases hli
      cases hreq
      exact (h.issues rfl).allowed.1
  obtain ⟨lookup, tx, ⟨reference, hm, rfl⟩, hc⟩ := hclaimed
  obtain rfl := List.mem_singleton.mp hm
  refine hn tx ?_
  rw [history_append]
  exact hc.append _

/-- The callback of the first login. -/
abbrev sampleCallbackRequest : Request := .googleAuthCallback ⟨"code", referenceValue (bytes32 1)⟩

omit [Crates] in
theorem callback_claimed_once_sample : letI := Crates.service
    ∃ tr s, ServiceRun ⟨"", ""⟩ (World.empty sampleServices) tr s ∧
      s.threads 2 = some ⟨sampleCallbackRequest, .done (.empty 400)⟩ ∧
      (∀ lookup, AtMostOne (fun l => ∃ tx, Claims lookup tx l) tr) ∧
      (∃ l ∈ tr, ∃ a, Begins (referenceValueLookup (referenceValue (bytes32 1))) a l) ∧
      ∀ l ∈ tr, l.client = some 2 → ¬ContactsGoogle l ∧ ¬Created 104 l ∧ ¬Created 115 l := by
  let _ := Crates.service
  obtain ⟨tr, s, h, hfresh, hsteps, hr₁, hr₂⟩ := exists_run_of_play machine (Request.run ⟨"", ""⟩)
    (Pool.init (World.empty sampleServices))
    (firstLogin ++ [.start 2 sampleCallbackRequest, .step 2 .ok, .step 2 .ok])
    (fun x => FreshReferences x.1 ∧ (∀ l ∈ x.1, l.client = some 2 →
      l = .start 2 sampleCallbackRequest ∨
      l = .op 2 sampleCallbackRequest .getMultiplexedTokioConnection (.ok ()) ∨
      l = Label.sent 2 sampleCallbackRequest
        (.claim (referenceValueLookup (referenceValue (bytes32 1)))) (.ok [.int 4])) ∧
      (x.2.result 1 sampleCallbackRequest).any (fun response => response.status = 302) = true ∧
      x.2.result 2 sampleCallbackRequest = some (.empty 400)) (by decide +kernel)
  have hi := Pool.threads_of_result hr₂
  obtain ⟨honce, hbegun, hrest⟩ := callback_claimed_once h hfresh
  refine ⟨tr, s, h, hi, honce, ?_, (hrest 2 _ _ hi ?_).2⟩
  · -- the callback that answered with a redirect claimed the transaction
    obtain ⟨response, hr₁, hstatus⟩ := (Option.any_eq_true _ _).mp hr₁
    have hout : CallbackOutcome ⟨"code", referenceValue (bytes32 1)⟩ (history 1 tr) response :=
      ServiceRun.answered h (Pool.threads_of_result hr₁)
    have hclaimed : ∃ tx, Claimed (history 1 tr)
        (referenceValueLookup (referenceValue (bytes32 1))) tx := by
      by_contra hn
      obtain ⟨rfl | rfl, -⟩ := hout.rejected (not_exists.mp hn)
      · cases hstatus
      · cases hstatus
    obtain ⟨tx, hclaimed⟩ := hclaimed
    obtain ⟨l, hl, -, hc⟩ := hclaimed.claims
    obtain ⟨tr₁, tr₂, rfl⟩ := List.append_of_mem hl
    obtain ⟨a, ⟨l', hl', hb⟩, -⟩ := hbegun _ _ _ _ _ rfl hc
    exact ⟨l', List.mem_append_left _ hl', a, hb⟩
  · rintro l hl hc tx ⟨i, q, reply, rfl, ht⟩
    rcases hsteps _ hl hc with e | e | e
    · cases e
    · cases e
    · cases e
      cases ht

/-! ## All or nothing -/

/-- **What a callback leaves**: a session and a handoff that agree with each other and with the
transaction it claimed, or nothing. -/
inductive CallbackResult (googleConfig : GoogleAuthorizationConfig) (w : World)
    (tr : List ServiceLabel) (i : ℕ) (query : CallbackQuery) : HttpResponse → Prop
  | created {l : ServiceLabel} {tx : ExternalAuthTransaction} {url : Url}
      {sessionBytes handoffBytes : Vector UInt8 32} {state : CommonSession}
      {record : AuthenticationHandoff} {r : Except Redis.Error (List Value)}
      (hl : l ∈ tr) (hi : l.client = some i)
      (hc : Claims (referenceValueLookup query.state) tx l)
      (hcm : Committed (.command (Sent.create (referenceValueLookup (referenceValue sessionBytes))
        state (referenceValueLookup (referenceValue handoffBytes)) record).command r))
      (hs : AtStep googleConfig w tr (Label.sent i (.googleAuthCallback query)
        (.create (referenceValueLookup (referenceValue sessionBytes)) state
          (referenceValueLookup (referenceValue handoffBytes)) record) r) fun _ s =>
        SessionAt s (referenceValueLookup (referenceValue sessionBytes)) state ∧
          HandoffAt s (referenceValueLookup (referenceValue handoffBytes)) record)
      (service : record.serviceId = tx.serviceId)
      (challenge : record.codeChallenge = tx.handoffCodeChallenge)
      (lookup : record.commonSessionLookup = referenceValueLookup (referenceValue sessionBytes))
      (user : record.internalUserId = state.internalUserId)
      (authenticated : record.authenticatedAt = state.authenticatedAt) :
    CallbackResult googleConfig w tr i query ⟨302, some (Crates.urlToString
      ((url.clearQuery.appendPair "code" (referenceValue handoffBytes)).appendPair "state"
        tx.serviceState)), [⟨authSessionCookieName, referenceValue sessionBytes, true, none⟩],
        .empty⟩
  | nothing {status : ℕ} (h : status ∈ [400, 403, 500, 502, 503])
      (hn : ∀ l ∈ tr, l.client = some i → ¬Created 104 l ∧ ¬Created 115 l) :
    CallbackResult googleConfig w tr i query (.empty status)

/-- **What a callback did** is what it leaves. -/
theorem ServiceRun.callback_result (h : ServiceRun googleConfig w tr s)
    (hi : s.threads i = some ⟨.googleAuthCallback query, .done response⟩) :
    CallbackResult googleConfig w tr i query response := by
  have hout : CallbackOutcome query (history i tr) response := h.answered hi
  cases hout with
  | invalid hH => exact .nothing (by decide) (h.uncreated (by rw [hH]; exact nofun))
  | disconnected _ hu => exact .nothing (by decide) (h.uncreated hu)
  | @unclaimed v e _ _ hu =>
    refine .nothing ?_ (h.uncreated hu)
    split_ifs <;> decide
  | failed hs _ hu =>
    exact .nothing (List.mem_cons_of_mem _ hs) (h.uncreated hu)
  | @success tx uri url sessionBytes handoffBytes state record hx hurl =>
    obtain ⟨l, hl, hli, hc⟩ := hx.claimed.claims
    obtain ⟨v, hv, hok⟩ := hx.created
    obtain rfl := unitReply_eq_ok hok
    have hlabel := h.mem_history hi hv
    have hcm : Committed (.command (Sent.create (referenceValueLookup (referenceValue sessionBytes))
        state (referenceValueLookup (referenceValue handoffBytes)) record).command
        (.ok [.int 0])) := trivial
    have hat := (h.atStep hlabel).mono fun u u' hu => (create_committed (hcm.script hu) hcm)
    obtain ⟨tr₁, tr₂, u, u', e, h₁, hstep, reply, -, hi'⟩ := hat
    refine .created hl hli hc hcm ⟨tr₁, tr₂, u, u', e, h₁, hstep, ?_⟩ hx.service hx.challenge
      hi'.lookup hx.user hx.authenticated
    have hne : Key.session (referenceValueLookup (referenceValue sessionBytes)) ≠
        Key.handoff (referenceValueLookup (referenceValue handoffBytes)) := ne_of_family (by simp)
    rw [hi'.store]
    refine ⟨sessionAt_record (x := some state.expiresAt.toNat) ?_,
      handoffAt_record ?_ (set_entries_self ..)⟩
    · rw [set_entries_of_ne _ _ hne]
      exact set_entries_self ..
    · rw [hi'.lookup]
      exact isLookup_referenceValueLookup _

/-- A callback creates for a transaction that it claimed before. -/
theorem ServiceRun.session_claimed (h : ServiceRun googleConfig w (tr₁ ++ l :: tr₂) s)
    (hl : Created 115 l) (hi : l.client = some i)
    (hq : l.request = some (.googleAuthCallback query)) :
    ∃ tx, Claimed (history i tr₁) (referenceValueLookup query.state) tx := by
  obtain ⟨q, c, r, rfl, -, -⟩ := hl.command hi
  cases hq
  obtain ⟨x, rfl, hlaw⟩ := h.lawful rfl
  obtain ⟨session, state, handoff, record, rfl⟩ := Created.session hl
  obtain ⟨-, -, -, -, -, -, -, -, -, -, -, ⟨lookup, tx, ⟨reference, hm, rfl⟩, hc, -⟩, -⟩ := hlaw
  obtain rfl := List.mem_singleton.mp hm
  exact ⟨tx, hc⟩

/-- A request creates one session. -/
theorem ServiceRun.session_once {l' : ServiceLabel} {tr₃ : List ServiceLabel}
    (h : ServiceRun googleConfig w (tr₁ ++ l :: tr₂ ++ l' :: tr₃) s) (hl : Created 115 l)
    (hl' : Created 115 l') (hi : l.client = some i) : l'.client ≠ some i := by
  intro hi'
  obtain ⟨q, c, r, rfl, hc, -⟩ := hl.command hi
  obtain ⟨q', c', r', rfl, hc', -⟩ := hl'.command hi'
  have hf := (h.issues rfl).allowed.2 115 hc'
  have hm : (⟨.redis c, r⟩ : Σ o, Reply o) ∈ history i (tr₁ ++ .op i q (.redis c) r :: tr₂) :=
    Interleave.mem_history.mpr ⟨q, by simp⟩
  cases hc.symm.trans (hf _ hm)

omit [Crates] in
theorem Created.client {f : UInt8} (h : Created f l) : ∃ i, l.client = some i := by
  cases l with
  | op i q o r => exact ⟨i, rfl⟩
  | start i q => cases h
  | env e => cases h

/-- **All or nothing.** The callbacks for one state create at most one session with its handoff. A
callback that answers with a redirect created both for the transaction it claimed; a callback that
answers anything else created neither. -/
theorem callback_all_or_nothing (h : ServiceRun googleConfig (World.empty services) tr s)
    (hfresh : FreshReferences tr) :
    (∀ lookup, AtMostOne (fun l => Created 115 l ∧ ∃ query, l.request =
      some (.googleAuthCallback query) ∧ referenceValueLookup query.state = lookup) tr) ∧
    ∀ i query response, s.threads i = some ⟨.googleAuthCallback query, .done response⟩ →
      CallbackResult googleConfig (World.empty services) tr i query response := by
  refine ⟨fun lookup => atMostOne_of_cut ?_, fun i query response hi => h.callback_result hi⟩
  rintro tr₁ l tr₂ l' tr₃ rfl ⟨hl, query, hq, rfl⟩ ⟨hl', query', hq', hlookup⟩
  obtain ⟨i, hi⟩ := hl.client
  obtain ⟨j, hj⟩ := hl'.client
  have e : tr₁ ++ l :: tr₂ ++ l' :: tr₃ = tr₁ ++ l :: (tr₂ ++ l' :: tr₃) := by simp
  obtain ⟨tx, hc⟩ := ServiceRun.session_claimed (e ▸ h) hl hi hq
  obtain ⟨tx', hc'⟩ := h.session_claimed hl' hj hq'
  rw [hlookup] at hc'
  obtain ⟨c, hm, hci, hcl⟩ := hc.claims
  obtain ⟨c', hm', hcj, hcl'⟩ := hc'.claims
  -- both requests claimed the transaction, so they are one request
  have hcc : c = c' := (h.claims_once hfresh _).eq (by simp [hm]) (List.mem_append_left _ hm')
    ⟨tx, hcl⟩ ⟨tx', hcl'⟩
  subst hcc
  obtain rfl := Option.some.inj (hci.symm.trans hcj)
  exact h.session_once hl hl' hi hj

omit [Crates] in
theorem callback_all_or_nothing_sample : letI := Crates.service
    ∃ tr s response, ServiceRun ⟨"", ""⟩ (World.empty sampleServices) tr s ∧
      response.status = 302 ∧ CallbackResult ⟨"", ""⟩ (World.empty sampleServices) tr 1
        ⟨"code", referenceValue (bytes32 1)⟩ response := by
  let _ := Crates.service
  obtain ⟨tr, s, h, hfresh, hr⟩ := exists_run_of_play machine (Request.run ⟨"", ""⟩)
    (Pool.init (World.empty sampleServices)) firstLogin (fun x => FreshReferences x.1 ∧
      (x.2.result 1 sampleCallbackRequest).any (fun response => response.status = 302) = true)
    (by decide +kernel)
  obtain ⟨response, hr, hstatus⟩ := (Option.any_eq_true _ _).mp hr
  exact ⟨tr, s, response, h, of_decide_eq_true hstatus,
    (callback_all_or_nothing h hfresh).2 1 _ _ (Pool.threads_of_result hr)⟩

end Service

end AuthFoundation
