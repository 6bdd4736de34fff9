import AuthFoundation.ServiceRun

set_option autoImplicit false

/-!
# Logins in a run

* `SessionOver`, `issue_refused`: why a session gets no handoff.
* `GoogleReason`, `LoginAnswer`: the answers of a login with what happened in the stores.
* **`login_never_falls_back_on_failure`**: every login, in every run, gets one of these answers
  and creates at most one record.
-/

namespace AuthFoundation

open Text Redis Interleave

/-! ## Refused handoffs -/

/-- The session is absent, or its expiry is a number that the clock of Redis has reached. -/
def SessionOver (s : State) (session : String) : Prop :=
  s.entries (Key.session session) = none ∨ ∃ h x n,
    s.entries (Key.session session) = some ⟨.hash h, x⟩ ∧
      (hget h "expires_at").bind Lua.tonumber = some n ∧ n ≤ now s

/-- A reply and what it means if it is `NotFound` or `Expired`. -/
def Explained (P : Prop) (reply : List Value) : Prop :=
  unitReply reply = .error .notFound ∨ unitReply reply = .error .expired → P

theorem explained_code {P : Prop} {code : ℤ}
    (h : (scriptError code : Except RedisStateError Unit) ≠ .error .notFound ∧
      (scriptError code : Except RedisStateError Unit) ≠ .error .expired) :
    Explained P [.int code] := by
  intro hr
  by_cases h0 : code = 0
  · subst h0
    obtain hr | hr := hr <;> cases hr
  · have he : unitReply [.int code] = scriptError code := by
      unfold unitReply
      split
      · rename_i heq
        cases heq
        exact absurd rfl h0
      · rename_i heq
        cases heq
        rfl
      · rename_i heq
        exact absurd rfl (heq code)
    rw [he] at hr
    exact (hr.elim h.1 h.2).elim

theorem explained_ite {P : Prop} {c : Prop} [Decidable c] {a b : List Value × State}
    (h₁ : c → Explained P a.1) (h₂ : ¬c → Explained P b.1) :
    Explained P (if c then a else b).1 := by
  by_cases h : c
  · rw [if_pos h]
    exact h₁ h
  · rw [if_neg h]
    exact h₂ h

/-- **A refused handoff**: the session is over, or the handoff would have expired already. -/
theorem issue_refused {s s' : State} {session handoff : String} {record : AuthenticationHandoff}
    {reply : List Value} (h : (Sent.issue session handoff record).command.script ScriptName.source s
      = (.ok reply, s')) :
    Explained (SessionOver s session ∨ record.expiresAt.toNat ≤ now s) reply := by
  have hr := (issueSsoHandoff_run _ _ s (n := record.expiresAt.toNat) rfl).symm.trans h
  cases hr
  have hi : ∀ {P : Prop}, Explained P invalid := explained_code ⟨nofun, nofun⟩
  unfold issueSsoHandoffSpec
  split
  · rename_i ho
    exact fun _ => .inl (.inl (Option.map_eq_none_iff.mp ho))
  · exact hi
  · rename_i g ho
    obtain ⟨x, he⟩ := object_eq_hash ho
    refine explained_ite (fun _ => hi) fun hv => ?_
    have hu := sessionValid_expires (by simpa using hv)
    refine explained_ite (fun hn _ => .inl (.inr ⟨g, x, _, he, tonumber_of_uint hu, hn⟩))
      fun _ => ?_
    refine explained_ite (fun _ => explained_code ⟨nofun, nofun⟩) fun _ => ?_
    refine explained_ite (fun _ => hi) fun _ => ?_
    refine explained_ite (fun _ => hi) fun ha => ?_
    refine explained_ite (fun _ => hi) fun _ => ?_
    refine explained_ite (fun hn _ => .inr ?_) fun _ => explained_code ⟨nofun, nofun⟩
    simp only [not_or, not_not] at ha
    have h8 := (uint_u64 _).mp ha.2.2.2.2.2
    rw [← num_u64 h8]
    exact hn

section Service

variable [Crates] {googleConfig : GoogleAuthorizationConfig} {w : World}
  {tr tr₁ tr₂ : List ServiceLabel} {s : ServicePool} {i : ℕ} {request : HttpRequest}
  {query : LoginQuery}

variable (googleConfig w tr i request query) in
/-- **Why a login goes to Google.** -/
inductive GoogleReason : Prop
  | missing (h : request.cookie authSessionCookieName = none)
  | malformed (reference : String) (h : request.cookie authSessionCookieName = some reference)
      (hv : ¬(validateFixedReferenceValue reference).isOk)
  | read (reference : String) (h : request.cookie authSessionCookieName = some reference)
      (hs : SessionGone (history i tr) (referenceValueLookup reference))
  | issue (reference handoff : String) (record : AuthenticationHandoff)
      (v : Except Redis.Error (List Value))
      (h : request.cookie authSessionCookieName = some reference)
      (hs : AtStep googleConfig w tr (Label.sent i (.login request query)
        (.issue (referenceValueLookup reference) handoff record) v) fun s _ =>
          SessionOver s (referenceValueLookup reference) ∨ record.expiresAt.toNat ≤ now s)

variable (googleConfig w tr i request query) in
/-- **The answers of a login**: an error, the way to Google, or the way back to the service with
a handoff that was created from the live session of the cookie. -/
inductive LoginAnswer : HttpResponse → Prop
  | rejected {status : ℕ} (h : status ∈ [400, 403, 503])
      (hn : ∀ l ∈ tr, l.client = some i → ¬Created 104 l) : LoginAnswer (.empty status)
  | google {bytes : Vector UInt8 32} (hr : GoogleReason googleConfig w tr i request query)
      (hc : Clean (history i tr)) (hn : ∀ l ∈ tr, l.client = some i → ¬Created 104 l)
      (hb : Observed (history i tr) .tryFillBytes (.ok bytes)) :
    LoginAnswer (.found
      (Crates.authorizeUrl googleConfig.clientId googleConfig.redirectUri (referenceValue bytes)))
  | callback {reference uri : String} {url : Url} {state : CommonSession}
      {bytes : Vector UInt8 32} {record : AuthenticationHandoff}
      (hi : Issued request query (history i tr) reference state bytes record)
      (hs : AtStep googleConfig w tr (Label.sent i (.login request query)
        (.issue (referenceValueLookup reference) (referenceValueLookup (referenceValue bytes))
          record) (.ok [.int 0])) fun s s' => ∃ g x, IssueCommit s (referenceValueLookup reference)
            (referenceValueLookup (referenceValue bytes)) record g x [.int 0] s')
      (huri : Observed (history i tr) (.sql (.selectLoginCallbackUri query.serviceId))
        (.ok (some (true, uri))))
      (hurl : validCallbackUrl uri = some url) :
    LoginAnswer (.found (Crates.urlToString
      ((url.appendPair "code" (referenceValue bytes)).appendPair "state" query.state)))

omit [Crates] in
theorem unitReply_eq_ok {v : Except Redis.Error (List Value)}
    (h : scriptReply unitReply v = .ok ()) :
    v = .ok [.int 0] := by
  match v, h with
  | .ok values, h =>
    change unitReply values = _ at h
    unfold unitReply at h
    split at h
    · rfl
    · unfold scriptError at h
      split at h <;> cases h
    · cases h

theorem Fallback.reason (h : ServiceRun googleConfig w tr s) {p : Service HttpResponse}
    (hi : s.threads i = some ⟨.login request query, p⟩) (hf : Fallback request (history i tr)) :
    GoogleReason googleConfig w tr i request query := by
  cases hf with
  | missing h => exact .missing h
  | malformed reference h hv => exact .malformed reference h hv
  | gone reference h hs => exact .read reference h hs
  | refused reference handoff record v hc ho hv =>
    refine .issue reference handoff record v hc ((h.atStep (h.mem_history hi ho)).mono ?_)
    intro s s' hs
    match v, hv, hs with
    | .error e, hv, hs => obtain hv | hv := hv <;> cases hv
    | .ok reply, hv, hs => exact issue_refused (Redis.Step.ok hs) hv

theorem Issued.atStep {reference : String} {state : CommonSession} {bytes : Vector UInt8 32}
    {record : AuthenticationHandoff} (h : ServiceRun googleConfig w tr s)
    {p : Service HttpResponse} (hi : s.threads i = some ⟨.login request query, p⟩)
    (hx : Issued request query (history i tr) reference state bytes record) :
    AtStep googleConfig w tr (Label.sent i (.login request query)
      (.issue (referenceValueLookup reference) (referenceValueLookup (referenceValue bytes))
        record) (.ok [.int 0])) fun s s' => ∃ g x, IssueCommit s (referenceValueLookup reference)
          (referenceValueLookup (referenceValue bytes)) record g x [.int 0] s' := by
  obtain ⟨v, ho, hv⟩ := hx.issued
  obtain rfl := unitReply_eq_ok hv
  refine (h.atStep (h.mem_history hi ho)).mono fun s s' hs => ?_
  have hcm : Committed (.command (Sent.issue (referenceValueLookup reference)
    (referenceValueLookup (referenceValue bytes)) record).command (.ok [.int 0])) := trivial
  obtain ⟨reply, he, g, x, hc⟩ := issue_committed (hcm.script hs) hcm
  cases he
  exact ⟨g, x, hc⟩

/-- A login creates a second record after no first one. -/
theorem ServiceRun.login_once (h : ServiceRun googleConfig w tr s)
    (hq : .start i (.login request query) ∈ tr) :
    (∀ l ∈ tr, l.client = some i → ∀ f, Created f l → f = 101 ∨ f = 104) ∧
      AtMostOne (fun l => l.client = some i ∧ ∃ f, Created f l) tr := by
  -- the steps of the thread are steps of the login
  have hreq : ∀ q o (r : Reply o), .op i q o r ∈ tr → q = .login request query := by
    intro q o r hl
    have hf := h.follows i
    cases ht : s.threads i with
    | none =>
      rw [ht] at hf
      exact absurd rfl (hf _ hq)
    | some th =>
      rw [ht] at hf
      exact Option.some.inj ((hf.2.2 _ hl rfl).trans (hf.2.2 _ hq rfl).symm)
  have hop : ∀ tr₁ tr₂ q c (r : Reply (.redis c)), tr = tr₁ ++ .op i q (.redis c) r :: tr₂ →
      LoginOp (Request.login request query).references (history i tr₁) (.redis c) := by
    intro tr₁ tr₂ q c r e
    obtain rfl := hreq q (.redis c) r (by simp [e])
    exact h.issues e
  refine ⟨fun l hl hi f hc => ?_, atMostOne_of_cut ?_⟩
  · obtain ⟨q, c, r, rfl, hcr, -⟩ := hc.command hi
    obtain ⟨tr₁, tr₂, e⟩ := List.append_of_mem hl
    exact (hop _ _ _ _ _ e).kinds f hcr
  · rintro tr₁ l tr₂ l' tr₃ e ⟨hi, f, hc⟩ ⟨hi', f', hc'⟩
    obtain ⟨q, c, r, rfl, hcr, hcm⟩ := hc.command hi
    obtain ⟨q', c', r', rfl, hcr', -⟩ := hc'.command hi'
    have e₁ : tr = tr₁ ++ .op i q (.redis c) r :: (tr₂ ++ .op i q' (.redis c') r' :: tr₃) := by
      simp [e]
    have hm : (⟨.redis c, r⟩ : Σ o, Reply o) ∈ history i (tr₁ ++ .op i q (.redis c) r :: tr₂) :=
      Interleave.mem_history.mpr ⟨q, by simp⟩
    have hl := hop _ _ _ _ _ e₁
    have hl' := hop _ _ _ _ _ e
    obtain rfl | rfl := hl'.kinds f' hcr'
    · obtain rfl | rfl := hl.kinds f hcr
      · cases hcr.symm.trans (hl'.allowed.2 101 hcr' _ hm)
      · obtain ⟨x, rfl, -⟩ := h.lawful e₁
        obtain ⟨_, _, t, t', -, -, -, hs⟩ := h.atStep (i := i) (q := q) (x := x) (r := r)
          (by simp [e])
        exact hl'.external hcr' _ hm hcr (accepted_of_committed hs hcr hcm)
    · obtain rfl | rfl := hl.kinds f hcr
      · cases hcr.symm.trans (hl'.handoff hcr' _ hm)
      · cases hcr.symm.trans (hl'.allowed.2 104 hcr' _ hm)

/-- **A login never falls back on a failure.** It goes to Google only without a live session, goes
back to the service only with a handoff it created from the live session of its cookie, and
creates at most one record. -/
theorem login_never_falls_back_on_failure (h : ServiceRun googleConfig w tr s)
    (hq : .start i (.login request query) ∈ tr) :
    (∀ response, s.threads i = some ⟨.login request query, .done response⟩ →
      LoginAnswer googleConfig w tr i request query response) ∧
    (∀ l ∈ tr, l.client = some i → ∀ f, Created f l → f = 101 ∨ f = 104) ∧
      AtMostOne (fun l => l.client = some i ∧ ∃ f, Created f l) tr := by
  refine ⟨fun response hi => ?_, h.login_once hq⟩
  have ha : LoginOutcome googleConfig request query (history i tr) response := h.answered hi
  cases ha with
  | rejected hs hu => exact .rejected hs (h.unissued hu)
  | google hf hc hu hb => exact .google (hf.reason h hi) hc (h.unissued hu) hb
  | callback hx huri hurl => exact .callback hx (hx.atStep h hi) huri hurl

/-! ## A login with a session -/

omit [Crates] in
theorem login_never_falls_back_on_failure_sample : letI := Crates.service
    ∃ tr s response, ServiceRun ⟨"", ""⟩ (World.empty sampleServices) tr s ∧
      s.threads 2 = some ⟨sessionLogin, .done response⟩ ∧ response.status = 302 ∧
      LoginAnswer ⟨"", ""⟩ (World.empty sampleServices) tr 2
        ⟨[], [(authSessionCookieName, referenceValue (bytes32 2))]⟩ .sample response ∧
      AtMostOne (fun l => l.client = some 2 ∧ ∃ f, Created f l) tr := by
  let _ := Crates.service
  obtain ⟨tr, s, h, hq, hi⟩ := exists_run_of_play machine (Request.run ⟨"", ""⟩)
    (Pool.init (World.empty sampleServices)) (firstLogin ++ secondLogin 150 ++ issueChoices)
    (fun x => .start 2 sessionLogin ∈ x.1 ∧ x.2.result 2 sessionLogin = some (.found
      ("https://portal.example/callback?code=" ++ referenceValue (bytes32 4) ++ "&state=state")))
    (by decide +kernel)
  have hd := Pool.threads_of_result hi
  have hl := login_never_falls_back_on_failure h hq
  exact ⟨tr, s, _, h, hd, rfl, hl.1 _ hd, hl.2.2⟩

/-- The session of the sample run. -/
def CommonSession.sample : CommonSession := ⟨1, 100, 100, 28900⟩

omit [Crates] in
/-- A login may go to Google although its session is live for both clocks: the new handoff would
have expired already when the clock of Redis is far ahead. -/
theorem login_falls_back_with_live_session : letI := Crates.service
    ∃ tr t l u tr' s record, ServiceRun ⟨"", ""⟩ (World.empty sampleServices) tr t ∧
      ServiceStep ⟨"", ""⟩ t l u ∧ Interleave.Run machine (Request.run ⟨"", ""⟩) u tr' s ∧
      l = Label.sent 2 sessionLogin (.issue (referenceValueLookup (referenceValue (bytes32 2)))
        (referenceValueLookup (referenceValue (bytes32 4))) record) (.ok [.int 2]) ∧
      .op 2 sessionLogin .systemTimeNow 100 ∈ tr ∧
      (.op 2 sessionLogin (.redis (.hgetall (sessionKey (referenceValue (bytes32 2)))))
        (.ok (recordHash (encodeSession .sample))) : ServiceLabel) ∈ tr ∧
      (validateFixedReferenceValue (referenceValue (bytes32 2))).isOk ∧
      t.world.redis.entries (sessionKey (referenceValue (bytes32 2))) =
        some ⟨.hash (recordHash (encodeSession .sample)), some 28900⟩ ∧
      t.world.redis.time < 28900 ∧ s.result 2 sessionLogin =
        some (.found (Crates.authorizeUrl "" "" (referenceValue (bytes32 5)))) := by
  let _ := Crates.service
  obtain ⟨tr, t, l, u, tr', s, h, hs, h', hP⟩ := exists_cut_of_play machine (Request.run ⟨"", ""⟩)
    (Pool.init (World.empty sampleServices))
    (firstLogin ++ [.env (.tick 1000)] ++ secondLogin 100 ++ issueChoices.take 2) (.step 2 .ok)
    [.step 2 (.bytes (bytes32 5)), .step 2 .ok, .step 2 .ok] (fun x y z =>
      y.1 = Label.sent 2 sessionLogin (.issue (referenceValueLookup (referenceValue (bytes32 2)))
        (referenceValueLookup (referenceValue (bytes32 4)))
        ⟨"portal", 1, referenceValueLookup (referenceValue (bytes32 2)), sampleChallenge, 100, 100,
          220, .unused⟩) (.ok [.int 2]) ∧
      .op 2 sessionLogin .systemTimeNow 100 ∈ x.1 ∧
      (.op 2 sessionLogin (.redis (.hgetall (sessionKey (referenceValue (bytes32 2)))))
        (.ok (recordHash (encodeSession .sample))) : ServiceLabel) ∈ x.1 ∧
      (validateFixedReferenceValue (referenceValue (bytes32 2))).isOk ∧
      x.2.world.redis.entries (sessionKey (referenceValue (bytes32 2))) =
        some ⟨.hash (recordHash (encodeSession .sample)), some 28900⟩ ∧
      x.2.world.redis.time < 28900 ∧ z.2.result 2 sessionLogin =
        some (.found (Crates.authorizeUrl "" "" (referenceValue (bytes32 5)))))
    (by decide +kernel)
  exact ⟨tr, t, l, u, tr', s, _, h, hs, h', hP⟩

end Service

end AuthFoundation
