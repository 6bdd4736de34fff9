import AuthFoundation.Requests

set_option autoImplicit false

/-!
# Logouts from the portal

* `exec_session_created`, `LocalRun.absent_session`: where local sessions come from.
* `Authorised`: what a logout must present, and what must be stored.
* `LogoutAnswer`, `logoutLocked_answer`: one logout, on any state.
* `logout_reads`, `getMe_reads`: what a request did before it answers.
* **`logout_authorised_once`**: a session is removed by an authorised logout only, and once.
-/

namespace AuthFoundation

open Text Interleave Prog

/-! ## Where local sessions come from -/

section Local

variable [Crates] {s s' : PortalLocalState} {draws : Draws} {E : List LocalEvent} {k : String}

/-- The event creates a local session. -/
def StartsSession (k : String) (e : LocalEvent) : Prop :=
  ∃ u a now draws csrf, e = ⟨.createLocalSession u a now, draws, .ok (k, csrf)⟩

/-- **A call creates at most one local session**, under a reference it draws. -/
theorem exec_session_created {c : LocalCall} {x : c.Result} (he : s.exec c draws = some (x, s'))
    {r : LocalSession} (hk : s'.localSessions.lookup k = some r) :
    s.localSessions.lookup k = some r ∨
      StartsSession k ⟨c, draws, x⟩ ∧ ∃ b ∈ draws, k = referenceValue b := by
  have hclean : ∀ {now}, (s.cleanupExpired now).localSessions.lookup k = some r →
      s.localSessions.lookup k = some r := fun {now} h => (shrinks_cleanup s now).sessions k r h
  cases c with
  | createLoginStart path now =>
    rw [exec_login] at he
    cases loginCreation he with
    | invalid _ => exact .inl hk
    | full _ _ => exact .inl (hclean hk)
    | overflow _ _ _ => exact .inl (hclean hk)
    | created _ _ _ _ _ _ _ _ _ => exact .inl (hclean hk)
  | createLocalSession u a now =>
    rw [exec_session] at he
    cases sessionCreation he with
    | full _ => exact .inl (hclean hk)
    | overflow _ _ => exact .inl (hclean hk)
    | created skipped b csrf expiresAt _ _ _ =>
      rw [lookup_insert_eq] at hk
      split_ifs at hk with hkb
      · subst hkb
        exact .inr ⟨⟨u, a, now, _, _, rfl⟩, b, by simp, rfl⟩
      · exact .inl (hclean hk)
  | claimLoginStart state context now =>
    obtain ⟨-, hx⟩ := exec_claim.mp he
    have hs := shrinks_claim s state context now
    rw [hx] at hs
    exact .inl (hs.sessions k r hk)
  | getLocalSession reference now =>
    obtain ⟨-, hx⟩ := exec_get.mp he
    have hs := shrinks_get s reference now
    rw [hx] at hs
    exact .inl (hs.sessions k r hk)
  | removeLocalSession reference =>
    obtain ⟨-, hx⟩ := exec_remove.mp he
    cases hx
    exact .inl ((shrinks_eraseSession s reference).sessions k r hk)
  | logoutLocked reference cookie header now =>
    obtain ⟨-, hx⟩ := exec_logout.mp he
    have hs := shrinks_logout s reference cookie header now
    rw [hx] at hs
    exact .inl (hs.sessions k r hk)
  | cleanupExpired now =>
    obtain ⟨-, rfl⟩ := exec_cleanup.mp he
    exact .inl (hclean hk)

theorem SessionCreation.drawn {u : Int32} {a now : UInt64} {csrf : String}
    (h : SessionCreation s u a now draws (.ok (k, csrf)) s') :
    ∃ b ∈ draws, k = referenceValue b := by
  cases h with
  | created skipped b csrf expiresAt => exact ⟨b, by simp, rfl⟩

/-- A session that is absent and not created stays absent. -/
theorem LocalRun.absent_session (h : LocalRun s E s') (hn : s.localSessions.lookup k = none)
    (hc : ∀ e ∈ E, ¬StartsSession k e) : s'.localSessions.lookup k = none := by
  induction h with
  | nil => exact hn
  | @snoc E t u c draws x h he ih =>
    have ht := ih fun e hm => hc e (List.mem_append_left _ hm)
    refine Option.eq_none_iff_forall_ne_some.mpr fun r hr => ?_
    obtain hk | ⟨hs, -⟩ := exec_session_created he hr
    · exact absurd (ht.symm.trans hk) nofun
    · exact hc _ (by simp) hs

end Local

namespace Portal

/-! ## One logout -/

section Logout

variable [Crates] {headers : HeaderMap} {s s' : PortalLocalState} {now : UInt64} {r v w : String}

/-- What a logout reads of its request: session, CSRF cookie and CSRF header. -/
structure Reads (headers : HeaderMap) (r v w : String) : Prop where
  session : OnlyCookie headers.cookies portalSessionCookieName r
  csrf : OnlyCookie headers.cookies portalCsrfCookieName v
  header : headers.csrfToken = [some w]
  reference : IsReference w

/-- **An authorised logout** of the session `r` with the CSRF value `v`. -/
structure Authorised (headers : HeaderMap) (s : PortalLocalState) (now : UInt64) (r v : String) :
    Prop where
  session : OnlyCookie headers.cookies portalSessionCookieName r
  csrf : OnlyCookie headers.cookies portalCsrfCookieName v
  header : headers.csrfToken = [some v]
  stored : ∃ record, s.localSessions.lookup r = some record ∧ now < record.expiresAt ∧
    record.csrfLookup = sha256Digest (utf8 v)

/-- **What a logout answers and does.** -/
structure LogoutAnswer (headers : HeaderMap) (s : PortalLocalState) (now : UInt64)
    (response : HttpResponse) (s' : PortalLocalState) : Prop where
  authorised : response.status = 204 ↔ ∃ r v, Authorised headers s now r v
  removed : ∀ r v, Authorised headers s now r v →
    s' = { s with localSessions := s.localSessions.erase r }
  refused : (∀ r v, ¬Authorised headers s now r v) → response = .empty 403 ∧ (s' = s ∨
    ∃ r record, OnlyCookie headers.cookies portalSessionCookieName r ∧
      s.localSessions.lookup r = some record ∧ record.expiresAt ≤ now ∧
      s' = { s with localSessions := s.localSessions.erase r })

theorem Reads.eq {r' v' w' : String} (h : Reads headers r v w) (h' : Reads headers r' v' w') :
    r = r' ∧ v = v' ∧ w = w' := by
  refine ⟨h.session.eq h'.session, h.csrf.eq h'.csrf, ?_⟩
  have hw := h.header.symm.trans h'.header
  simpa using hw

theorem Authorised.reads (h : Authorised headers s now r v) : Reads headers r v v :=
  ⟨h.session, h.csrf, h.header, h.csrf.reference⟩

/-- The answer to a logout whose locked part returned this. -/
def logoutResponse (removed : Bool) : HttpResponse :=
  if removed then
    appendCookie (appendCookie (.empty 204) deletePortalSessionCookie) deletePortalCsrfCookie
  else .empty 403

/-- **The locked part of a logout**, on any state. -/
theorem logoutLocked_answer (hr : Reads headers r v w) {removed : Bool}
    (h : s.logoutLocked r v w now = (removed, s')) :
    LogoutAnswer headers s now (logoutResponse removed) s' := by
  have hof : ∀ r' v', Authorised headers s now r' v' → r' = r ∧ v' = v ∧ v' = w :=
    fun r' v' ha => ha.reads.eq hr
  rcases logout_cases h with ⟨rfl, rfl⟩ | ⟨rfl, record, hg, rfl, hd, rfl⟩
  · have hna : ∀ r' v', ¬Authorised headers s now r' v' := by
      intro r' v' ha
      obtain ⟨rfl, rfl, rfl⟩ := hof r' v' ha
      obtain ⟨record, hk, hlive, hd⟩ := ha.stored
      have hl := h
      unfold PortalLocalState.logoutLocked at hl
      rw [get_live hk hlive] at hl
      simp [sha256DigestEq, hd, PortalLocalState.removeLocalSession, hk] at hl
    refine ⟨iff_of_false (by decide) fun ha => ?_, fun r' v' ha => absurd ha (hna r' v'),
      fun _ => ⟨rfl, ?_⟩⟩
    · obtain ⟨r', v', ha⟩ := ha
      exact hna r' v' ha
    -- reading drops an expired session and nothing else
    unfold PortalLocalState.getLocalSession
    split
    · exact .inl rfl
    · rename_i record hk
      split_ifs with hx
      · exact .inr ⟨r, record, hr.session, hk, hx, rfl⟩
      · exact .inl rfl
  · obtain ⟨-, hk, hlive⟩ := get_some hg
    have ha : Authorised headers s now r v :=
      ⟨hr.session, hr.csrf, hr.header, record, hk, hlive, hd.symm⟩
    refine ⟨iff_of_true rfl ⟨r, v, ha⟩, fun r' v' ha' => ?_, fun hn => absurd ha (hn r v)⟩
    obtain ⟨rfl, -⟩ := hof r' v' ha'
    rfl

/-- A logout that reads nothing. -/
theorem unread_answer (hn : ∀ r v w, ¬Reads headers r v w) (s : PortalLocalState) (now : UInt64) :
    LogoutAnswer headers s now (.empty 403) s where
  authorised := iff_of_false (by decide) fun ⟨r, v, ha⟩ => hn r v v ha.reads
  removed r v ha := absurd ha.reads (hn r v v)
  refused _ := ⟨rfl, .inl rfl⟩

/-! ## What a request did -/

/-- The answer to a logout, from the reply of its locked part. -/
def logoutResult : Option (UInt64 × Bool) → Option HttpResponse
  | none => none
  | some (_, removed) => some (logoutResponse removed)

/-- **A logout** reads its request, and answers with what its locked part did. -/
theorem logout_reads : (logout headers).Sat (fun _ _ => True) (fun H result =>
    (H = [] ∧ result = some (.empty 403) ∧ ∀ r v w, ¬Reads headers r v w) ∨
      ∃ r v w reply, Reads headers r v w ∧ H = [⟨.logoutLocked r v w, reply⟩] ∧
        result = logoutResult reply) [] := by
  unfold logout
  cases hr : fixedReferenceCookieFromHeaders headers portalSessionCookieName with
  | error e =>
    refine .inl ⟨rfl, rfl, fun r v w h => ?_⟩
    rw [fixedReferenceCookieFromHeaders_eq_ok.mpr h.session] at hr
    cases hr
  | ok r =>
  dsimp only
  cases hv : fixedReferenceCookieFromHeaders headers portalCsrfCookieName with
  | error e =>
    refine .inl ⟨rfl, rfl, fun r v w h => ?_⟩
    rw [fixedReferenceCookieFromHeaders_eq_ok.mpr h.csrf] at hv
    cases hv
  | ok v =>
  dsimp only
  cases hw : csrfHeaderFromHeaders headers with
  | error e =>
    refine .inl ⟨rfl, rfl, fun r v w h => ?_⟩
    rw [csrfHeaderFromHeaders_eq_ok.mpr ⟨h.header, h.reference⟩] at hw
    cases hw
  | ok w =>
    obtain ⟨hheader, href⟩ := csrfHeaderFromHeaders_eq_ok.mp hw
    have hreads : Reads headers r v w := ⟨fixedReferenceCookieFromHeaders_eq_ok.mp hr,
      fixedReferenceCookieFromHeaders_eq_ok.mp hv, hheader, href⟩
    refine ⟨trivial, fun reply => ?_⟩
    match reply with
    | none => exact .inr ⟨r, v, w, none, hreads, rfl, rfl⟩
    | some (now, false) => exact .inr ⟨r, v, w, some (now, false), hreads, rfl, rfl⟩
    | some (now, true) => exact .inr ⟨r, v, w, some (now, true), hreads, rfl, rfl⟩

/-- The answer to a request for the user, from the session that was found. -/
def meResult : Option (UInt64 × Option LocalSession) → Option HttpResponse
  | none => none
  | some (_, none) => some (.empty 401)
  | some (_, some session) => some ⟨200, none, [], .me true session.internalUserId⟩

theorem getMe_reads : (getMe headers).Sat (fun _ _ => True) (fun H result =>
    (H = [] ∧ result = some (.empty 401)) ∨
      ∃ r reply, OnlyCookie headers.cookies portalSessionCookieName r ∧
        H = [⟨.getLocalSession r, reply⟩] ∧ result = meResult reply) [] := by
  unfold getMe
  cases hr : fixedReferenceCookieFromHeaders headers portalSessionCookieName with
  | error e => exact .inl ⟨rfl, rfl⟩
  | ok r =>
    have honly := fixedReferenceCookieFromHeaders_eq_ok.mp hr
    refine ⟨trivial, fun reply => ?_⟩
    match reply with
    | none => exact .inr ⟨r, none, honly, rfl, rfl⟩
    | some (now, none) => exact .inr ⟨r, some (now, none), honly, rfl, rfl⟩
    | some (now, some session) => exact .inr ⟨r, some (now, some session), honly, rfl, rfl⟩

end Logout

/-! ## Removals and creations in a run -/

/-- The label is a logout that removed the session. -/
def LogsOut (r : String) (l : PortalLabel) : Prop :=
  ∃ i headers v w now, l = .op i (.logout headers) (.logoutLocked r v w) (some (now, true))

/-- The label is a read that found the session. -/
def Finds (r : String) (l : PortalLabel) : Prop :=
  ∃ i q now record, l = .op i q (.getLocalSession r) (some (now, some record))

/-- The label creates a session under the reference. -/
def CreatesUnder (r : String) (l : PortalLabel) : Prop :=
  ∃ i q u a now draws csrf,
    l = .op i q (.createLocalSession u a) (some (now, draws, .ok (r, csrf)))

/-- The reference was drawn again after its session was removed. -/
def Recreated (r : String) (tr : List PortalLabel) : Prop :=
  ∃ tr₁ l tr₂ m tr₃, tr = tr₁ ++ l :: tr₂ ++ m :: tr₃ ∧ LogsOut r l ∧ CreatesUnder r m

theorem createsUnder_of_localEvent {l : PortalLabel} {e : LocalEvent} {r : String}
    (h : localEvent l = some e) (he : StartsSession r e) : CreatesUnder r l := by
  obtain ⟨u, a, now, draws, csrf, rfl⟩ := he
  match l, h with
  | .op i q (.createLoginStart _ _) (_, _), h => cases h
  | .op i q (.claimLoginStart _ _ _) _, h => cases h
  | .op i q (.createLocalSession _ _) (some (_, _, _)), h =>
    cases h
    exact ⟨i, q, u, a, now, draws, csrf, rfl⟩
  | .op i q (.getLocalSession _) (some (_, _)), h => cases h
  | .op i q (.logoutLocked _ _ _) (some (_, _)), h => cases h
  | .env _, h => cases h

section Runs

variable [Crates] {config : AppConfig} {s t t' : PortalPool} {tr tr₁ tr₂ tr₃ : List PortalLabel}
  {l l' : PortalLabel} {r : String}

/-- A step that removes or finds a session found it stored. -/
theorem stored_of_step (hs : Step portalMachine (PortalRequest.run config) t l t')
    (hl : LogsOut r l ∨ Finds r l) : ∃ record, t.world.localSessions.lookup r = some record := by
  rcases hl with ⟨i, headers, v, w, now, rfl⟩ | ⟨i, q, now, record, rfl⟩
  · obtain ⟨-, hx⟩ := exec_logout.mp (Step.local hs)
    rcases logout_cases hx with ⟨h, -⟩ | ⟨-, record, hg, -⟩
    · cases h
    · exact ⟨record, (get_some hg).2.1⟩
  · obtain ⟨-, hx⟩ := exec_get.mp (Step.local hs)
    exact ⟨record, (get_some hx).2.1⟩

/-- A logout that removes a session leaves none. -/
theorem absent_of_logout (hs : Step portalMachine (PortalRequest.run config) t l t')
    (hl : LogsOut r l) : t'.world.localSessions.lookup r = none := by
  obtain ⟨i, headers, v, w, now, rfl⟩ := hl
  obtain ⟨-, hx⟩ := exec_logout.mp (Step.local hs)
  rcases logout_cases hx with ⟨h, -⟩ | ⟨-, record, -, -, -, hw⟩
  · cases h
  · rw [hw, lookup_erase_eq, if_pos rfl]

/-- **A session that was removed** is found again only after a creation. -/
theorem recreated
    (h : Run portalMachine (PortalRequest.run config) t (tr₁ ++ l :: tr₂ ++ l' :: tr₃) s)
    (hl : LogsOut r l) (hl' : LogsOut r l' ∨ Finds r l') :
    Recreated r (tr₁ ++ l :: tr₂ ++ l' :: tr₃) := by
  have hcreate : ∃ m ∈ tr₂, CreatesUnder r m := by
    obtain ⟨u, u', h₁, hs', -⟩ := h.split_step
    obtain ⟨v, v', -, hs, h₂⟩ := h₁.split_step
    by_contra hn
    have ha := (Run.local h₂).absent_session (absent_of_logout hs hl) fun e he hst => by
      obtain ⟨m, hm, hme⟩ := List.mem_filterMap.mp he
      exact hn ⟨m, hm, createsUnder_of_localEvent hme hst⟩
    obtain ⟨record, hk⟩ := stored_of_step hs' hl'
    cases ha.symm.trans hk
  obtain ⟨m, hm, hc⟩ := hcreate
  obtain ⟨a, b, rfl⟩ := List.append_of_mem hm
  exact ⟨tr₁, l, a, m, b ++ l' :: tr₃, by simp, hl, hc⟩

/-- **Fresh references are not drawn again.** -/
theorem PortalRun.not_recreated (h : PortalRun config tr s) (hf : FreshReferences tr) (r : String) :
    ¬Recreated r tr := by
  rintro ⟨tr₁, l, tr₂, m, tr₃, rfl, hl, i, q, u, a, now, draws, csrf, rfl⟩
  obtain ⟨t, t', h₁, hs, -⟩ := Run.split_step h
  obtain ⟨v, v', h₀, hs', -⟩ := h₁.split_step
  obtain ⟨record, hk⟩ := stored_of_step hs' (.inl hl)
  obtain ⟨b, hb, rfl⟩ := (Run.local h₀).invariant.sessionDrawn _ record hk
  have hstep : t.world.createLocalSession u a now draws =
      some (.ok (referenceValue b, csrf), t'.world) := exec_session.symm.trans (Step.local hs)
  obtain ⟨b', hb', e⟩ := (sessionCreation hstep).drawn
  -- the bytes of the reference were drawn before
  obtain rfl := referenceValue_injective e
  refine hf.not_mem (b := b) ?_ ?_
  · rw [drawn_append]
    exact List.mem_append_left _ hb
  · exact List.mem_append_left _ hb'

/-! ## Whole runs -/

/-- A logout that answered. -/
theorem logout_done {s₀ : PortalLocalState}
    (h : Run portalMachine (PortalRequest.run config) (Pool.init s₀) tr s) {i : ℕ}
    {headers : HeaderMap} {response : HttpResponse}
    (hi : s.threads i = some ⟨.logout headers, .done (some response)⟩) :
    (history i tr = [] ∧ ∀ u now, LogoutAnswer headers u now response u) ∧ response.status = 403 ∨
      ∃ tr₁ r v w now removed tr₂, OnlyCookie headers.cookies portalSessionCookieName r ∧
        tr = tr₁ ++ .op i (.logout headers) (.logoutLocked r v w) (some (now, removed)) :: tr₂ ∧
        history i tr = [⟨.logoutLocked r v w, some (now, removed)⟩] ∧
        Reads headers r v w ∧ response = logoutResponse removed := by
  have hf := h.follows i
  rw [hi] at hf
  obtain ⟨ht, -, hq⟩ := hf
  obtain ⟨hH, hr, hn⟩ | ⟨r, v, w, reply, hreads, hH, hr⟩ := logout_reads.trace ht
  · cases hr
    exact .inl ⟨⟨hH, fun u now => unread_answer hn u now⟩, rfl⟩
  · match reply, hr with
    | some (now, removed), hr =>
      cases hr
      have hm : (⟨.logoutLocked r v w, some (now, removed)⟩ : Σ o, PortalReply o) ∈
          history i tr := by
        have hH' : history i tr = [_] := hH
        rw [hH']
        exact List.mem_singleton_self _
      obtain ⟨q, hl⟩ := mem_history.mp hm
      cases hq _ hl rfl
      obtain ⟨tr₁, tr₂, e⟩ := List.append_of_mem hl
      exact .inr ⟨tr₁, r, v, w, now, removed, tr₂, hreads.session, e, hH, hreads, rfl⟩

/-- A logout that answered 204 removed the session it names. -/
theorem logout_removed {s₀ : PortalLocalState}
    (h : Run portalMachine (PortalRequest.run config) (Pool.init s₀) tr s) {i : ℕ}
    {headers : HeaderMap} {response : HttpResponse}
    (hi : s.threads i = some ⟨.logout headers, .done (some response)⟩)
    (h204 : response.status = 204) (hr : OnlyCookie headers.cookies portalSessionCookieName r) :
    ∃ l ∈ tr, l.client = some i ∧ LogsOut r l := by
  obtain ⟨-, h403⟩ | ⟨tr₁, r', v, w, now, removed, tr₂, hr', e, -, -, rfl⟩ := logout_done h hi
  · rw [h403] at h204
    cases h204
  · obtain rfl := hr.eq hr'
    cases removed with
    | false => cases h204
    | true => exact ⟨_, by rw [e]; simp, rfl, i, headers, v, w, now, rfl⟩

/-- **A logout is authorised, and happens once.** Every logout has one step, its locked section, or
none at all. It answers 204 exactly if it is authorised there, and then removes exactly the session
it names; otherwise it answers 403 and at most drops that session as expired. Unless the reference
of a removed session is drawn again, no other logout of it answers 204 and no later request finds
it. -/
theorem logout_authorised_once {s₀ : PortalLocalState}
    (h : Run portalMachine (PortalRequest.run config) (Pool.init s₀) tr s) :
    (∀ i headers response, s.threads i = some ⟨.logout headers, .done (some response)⟩ →
      (history i tr = [] ∧ ∀ u now, LogoutAnswer headers u now response u) ∨
        ∃ tr₁ r v w now removed tr₂ t t', tr = tr₁ ++
            .op i (.logout headers) (.logoutLocked r v w) (some (now, removed)) :: tr₂ ∧
          history i tr = [⟨.logoutLocked r v w, some (now, removed)⟩] ∧
          Run portalMachine (PortalRequest.run config) (Pool.init s₀) tr₁ t ∧
          Step portalMachine (PortalRequest.run config) t
            (.op i (.logout headers) (.logoutLocked r v w) (some (now, removed))) t' ∧
          LogoutAnswer headers t.world now response t'.world) ∧
    ∀ r, ¬Recreated r tr →
      (∀ i j headers headers' response response',
        s.threads i = some ⟨.logout headers, .done (some response)⟩ →
        s.threads j = some ⟨.logout headers', .done (some response')⟩ →
        OnlyCookie headers.cookies portalSessionCookieName r →
        OnlyCookie headers'.cookies portalSessionCookieName r →
        response.status = 204 → response'.status = 204 → i = j) ∧
      ∀ tr₁ l tr₂ j headers response, tr = tr₁ ++ l :: tr₂ → LogsOut r l →
        s.threads j = some ⟨.getMe headers, .done (some response)⟩ →
        OnlyCookie headers.cookies portalSessionCookieName r → history j tr₁ = [] →
        response = .empty 401 := by
  refine ⟨fun i headers response hi => ?_, fun r hn => ⟨?_, ?_⟩⟩
  · obtain ⟨hall, -⟩ | ⟨tr₁, r, v, w, now, removed, tr₂, -, e, hH, hreads, rfl⟩ := logout_done h hi
    · exact .inl hall
    · subst e
      obtain ⟨t, t', h₁, hs, -⟩ := h.split_step
      obtain ⟨-, hx⟩ := exec_logout.mp (Step.local hs)
      exact .inr ⟨tr₁, r, v, w, now, removed, tr₂, t, t', rfl, hH, h₁, hs,
        logoutLocked_answer hreads hx⟩
  · intro i j headers headers' response response' hi hj hr hr' h204 h204'
    obtain ⟨l, hl, hc, hout⟩ := logout_removed h hi h204 hr
    obtain ⟨l', hl', hc', hout'⟩ := logout_removed h hj h204' hr'
    by_contra hij
    have hne : l ≠ l' := by
      rintro rfl
      exact hij (Option.some.inj (hc.symm.trans hc'))
    -- one of the two removals comes after the other
    obtain ⟨tr₁, tr₂, tr₃, rfl | rfl⟩ := cut_two hl hl' hne
    · exact hn (recreated h hout (.inl hout'))
    · exact hn (recreated h hout' (.inl hout))
  · intro tr₁ l tr₂ j headers response e hout hj hr hH
    have hf := h.follows j
    rw [hj] at hf
    obtain ⟨-, hres⟩ | ⟨r', reply, hr', hH', hres⟩ := getMe_reads.trace hf.1
    · cases hres
      rfl
    · obtain rfl := hr.eq hr'
      match reply, hres with
      | some (now, none), hres =>
        cases hres
        rfl
      | some (now, some record), hres =>
        have hm : (⟨.getLocalSession r, some (now, some record)⟩ : Σ o, PortalReply o) ∈
            history j tr := by
          have hH'' : history j tr = [_] := hH'
          rw [hH'']
          exact List.mem_singleton_self _
        obtain ⟨q, hl'⟩ := mem_history.mp hm
        change .op j q (.getLocalSession r) (some (now, some record)) ∈ tr at hl'
        -- the read comes after the removal
        have hnot : .op j q (.getLocalSession r) (some (now, some record)) ∉ tr₁ := by
          intro hl'
          have hm' : (⟨.getLocalSession r, some (now, some record)⟩ : Σ o, PortalReply o) ∈
              history j tr₁ := mem_history.mpr ⟨q, hl'⟩
          rw [hH] at hm'
          cases hm'
        have hne : .op j q (.getLocalSession r) (some (now, some record)) ≠ l := by
          rintro rfl
          obtain ⟨_, _, _, _, _, hlab⟩ := hout
          cases hlab
        subst e
        have hl₂ := (List.mem_cons.mp ((List.mem_append.mp hl').resolve_left hnot)).resolve_left hne
        obtain ⟨a, b, rfl⟩ := List.append_of_mem hl₂
        rw [← List.cons_append, ← List.append_assoc] at h hn
        exact absurd (recreated h hout (.inr ⟨j, q, now, record, rfl⟩)) hn

/-- The references of the sessions a run created. -/
def createdReferences (tr : List PortalLabel) : List String :=
  tr.filterMap fun
    | .op _ _ (.createLocalSession _ _) (some (_, _, .ok (r, _))) => some r
    | _ => none

omit [Crates] in
theorem not_recreated_of_nil {tr : List PortalLabel} (h : createdReferences tr = []) (r : String) :
    ¬Recreated r tr := by
  rintro ⟨tr₁, l, tr₂, m, tr₃, rfl, -, hm⟩
  have hmem : m ∈ tr₁ ++ l :: tr₂ ++ m :: tr₃ := by simp
  have hn := List.filterMap_eq_nil_iff.mp h m hmem
  obtain ⟨i, q, u, a, now, draws, csrf, rfl⟩ := hm
  cases hn

/-- The headers of a logout. -/
def logoutHeaders (r v : String) : HeaderMap :=
  ⟨[some (portalSessionCookieName ++ "=" ++ r ++ "; " ++ portalCsrfCookieName ++ "=" ++ v)],
    [some v]⟩

/-- The digest of the CSRF value of the session. -/
def logoutDigest : Vector UInt8 32 :=
  bytes32 0x98a99ea1ce6c337d53de5931390c0c9185896bc9d66a451c1f084b2c1fd30ee1

omit [Crates] in
/-- Two logouts of one session. -/
theorem logout_authorised_once_sample : letI := cookieCrates
    ∃ tr s, Run portalMachine (PortalRequest.run AppConfig.sample)
        (Pool.init ⟨∅, (∅ : Records LocalSession).insert (referenceValue (bytes32 1))
          ⟨7, 100, 0, 28800, logoutDigest⟩, 1, 1⟩) tr s ∧
      s.threads 0 = some ⟨.logout (logoutHeaders (referenceValue (bytes32 1))
        (referenceValue (bytes32 2))), .done (some (logoutResponse true))⟩ ∧
      s.threads 1 = some ⟨.logout (logoutHeaders (referenceValue (bytes32 1))
        (referenceValue (bytes32 2))), .done (some (logoutResponse false))⟩ ∧
      ∀ j headers response, s.threads j = some ⟨.logout headers, .done (some response)⟩ →
        OnlyCookie headers.cookies portalSessionCookieName (referenceValue (bytes32 1)) →
        response.status = 204 → j = 0 := by
  let _ := cookieCrates
  let q : PortalRequest := .logout (logoutHeaders (referenceValue (bytes32 1))
    (referenceValue (bytes32 2)))
  obtain ⟨tr, s, h, hc, h₀, h₁, hr⟩ := exists_run_of_play portalMachine
    (PortalRequest.run AppConfig.sample)
    (Pool.init ⟨∅, (∅ : Records LocalSession).insert (referenceValue (bytes32 1))
      ⟨7, 100, 0, 28800, logoutDigest⟩, 1, 1⟩)
    [.start 0 q, .start 1 q, .step 0 (.locked (some 5) []), .step 1 (.locked (some 5) [])]
    (fun x => createdReferences x.1 = [] ∧ x.2.result 0 q = some (some (logoutResponse true)) ∧
      x.2.result 1 q = some (some (logoutResponse false)) ∧
      fixedReferenceCookieFromHeaders (logoutHeaders (referenceValue (bytes32 1))
        (referenceValue (bytes32 2))) portalSessionCookieName = .ok (referenceValue (bytes32 1)))
    (by decide +kernel)
  have hi := Pool.threads_of_result h₀
  have hsession := fixedReferenceCookieFromHeaders_eq_ok.mp hr
  refine ⟨tr, s, h, hi, Pool.threads_of_result h₁, fun j headers response hj ho h204 => ?_⟩
  exact ((logout_authorised_once h).2 _ (not_recreated_of_nil hc _)).1 j 0 _ _ _ _ hj hi ho
    hsession h204 rfl

end Runs

end Portal

end AuthFoundation
