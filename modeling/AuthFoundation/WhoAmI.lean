import AuthFoundation.Joint
import AuthFoundation.Origin
import AuthFoundation.PortalLogout

set_option autoImplicit false

/-!
# Who the portal says you are

What `getMe` answers, followed back through both components: to the local session, the callback of
the portal, the handoff, the callback of the service, and the identity that Google named.

* `CreatesAs`, `PortalRun.session_created`: the step that created a local session.
* `PortalRun.me_found`: what a request for the user has read.
* **`me_authentic`**: the user that the portal names.
-/

namespace AuthFoundation

open Text Redis Token Interleave

/-! ## Local sessions -/

section Local

variable [Crates] {s s' : PortalLocalState} {draws : Draws} {E : List LocalEvent} {k : String}
  {record : LocalSession}

/-- The event creates this local session. -/
def StartsAs (k : String) (record : LocalSession) (e : LocalEvent) : Prop :=
  ∃ draws csrf, e = ⟨.createLocalSession record.internalUserId record.authenticatedAt
    record.createdAt, draws, .ok (k, csrf)⟩ ∧ record.csrfLookup = sha256Digest (utf8 csrf)

/-- A call creates the record that it returns a reference for. -/
theorem exec_session_startsAs {c : LocalCall} {x : c.Result}
    (he : s.exec c draws = some (x, s')) (hk : s'.localSessions.lookup k = some record) :
    s.localSessions.lookup k = some record ∨ StartsAs k record ⟨c, draws, x⟩ := by
  obtain hk' | ⟨⟨u, a, now, draws', csrf, e⟩, -⟩ := exec_session_created he hk
  · exact .inl hk'
  · cases e
    refine .inr ?_
    have hcreation := sessionCreation (exec_session.symm.trans he)
    generalize hx : (Except.ok (k, csrf) : Except LocalStateError (String × String)) = x
      at hcreation
    cases hcreation with
    | created skipped b csrf' expiresAt =>
      obtain ⟨rfl, rfl⟩ := Prod.mk.inj (Except.ok.inj hx)
      rw [lookup_insert_eq, if_pos rfl] at hk
      cases hk
      exact ⟨_, _, rfl, rfl⟩
    | _ => cases hx

/-- **Every local session was created.** -/
theorem LocalRun.session_started {c₁ c₂ : ℕ} (h : LocalRun (.new c₁ c₂) E s)
    (hk : s.localSessions.lookup k = some record) : ∃ e ∈ E, StartsAs k record e := by
  induction h with
  | nil =>
    have hn : (∅ : Records LocalSession).lookup k = none := Finmap.lookup_empty k
    exact absurd (hn.symm.trans hk) nofun
  | snoc h he ih =>
    obtain hk | hs := exec_session_startsAs he hk
    · obtain ⟨e, hm, hs⟩ := ih hk
      exact ⟨e, List.mem_append_left _ hm, hs⟩
    · exact ⟨_, by simp, hs⟩

end Local

namespace Portal

section Runs

variable [Crates] {config : AppConfig} {s : PortalPool} {tr tr₁ tr₂ tr₃ : List PortalLabel}
  {l : PortalLabel} {r : String} {record : LocalSession}

/-- The label creates this local session, for callback `j`. -/
def CreatesAs (j : ℕ) (q : PortalRequest) (r : String) (record : LocalSession) (l : PortalLabel) :
    Prop :=
  ∃ draws csrf, l = .op j q (.createLocalSession record.internalUserId record.authenticatedAt)
    (some (record.createdAt, draws, .ok (r, csrf))) ∧
      record.csrfLookup = sha256Digest (utf8 csrf)

theorem createsAs_of_localEvent {e : LocalEvent} (h : localEvent l = some e)
    (he : StartsAs r record e) : ∃ j q, CreatesAs j q r record l := by
  obtain ⟨draws, csrf, rfl, hc⟩ := he
  obtain ⟨j, q, u, a, now, draws', csrf', rfl⟩ := createsUnder_of_localEvent h ⟨_, _, _, _, _, rfl⟩
  cases h
  exact ⟨j, q, draws, csrf, rfl, hc⟩

/-- A stored local session has a step that created it. -/
theorem PortalRun.session_created (h : PortalRun config tr s)
    (hk : s.world.localSessions.lookup r = some record) :
    ∃ l ∈ tr, ∃ j q, CreatesAs j q r record l := by
  obtain ⟨e, he, hs⟩ := (Run.local h).session_started hk
  obtain ⟨l, hl, hle⟩ := List.mem_filterMap.mp he
  exact ⟨l, hl, createsAs_of_localEvent hle hs⟩

/-- **A request for the user that answers 200** has found a local session of this user. -/
theorem PortalRun.me_found (h : PortalRun config tr s) {i : ℕ} {headers : HeaderMap} {u : Int32}
    (hi : s.threads i = some ⟨.getMe headers, .done (some ⟨200, none, [], .me true u⟩)⟩) :
    ∃ r now record tr₁ tr₂, OnlyCookie headers.cookies portalSessionCookieName r ∧
      record.internalUserId = u ∧
      tr = tr₁ ++ .op i (.getMe headers) (.getLocalSession r) (some (now, some record)) :: tr₂ := by
  have hf := Run.follows h i
  rw [hi] at hf
  obtain ⟨ht, -, hq⟩ := hf
  obtain ⟨-, hres⟩ | ⟨r, reply, honly, hH, hres⟩ := getMe_reads.trace ht
  · cases hres
  · match reply, hres with
    | some (now, some record), hres =>
      have hm : (⟨.getLocalSession r, some (now, some record)⟩ : Σ o, PortalReply o) ∈
          history i tr := by
        have hH' : history i tr = [_] := hH
        rw [hH']
        exact List.mem_singleton_self _
      obtain ⟨q, hl⟩ := mem_history.mp hm
      cases hq _ hl rfl
      obtain ⟨tr₁, tr₂, e⟩ := List.append_of_mem hl
      cases hres
      exact ⟨r, now, record, tr₁, tr₂, honly, rfl, e⟩

/-- **A session that is found** was created before, has not expired and was not logged out. -/
theorem PortalRun.found (h : PortalRun config tr s) (hf : FreshReferences tr) {i : ℕ}
    {q : PortalRequest} {now : UInt64}
    (e : tr = tr₁ ++ .op i q (.getLocalSession r) (some (now, some record)) :: tr₂) :
    now.toNat < record.createdAt.toNat + 28800 ∧ (∀ l ∈ tr₁, ¬LogsOut r l) ∧
      ∃ l ∈ tr₁, ∃ j q, CreatesAs j q r record l := by
  subst e
  obtain ⟨t, t', h₁, hs, -⟩ := Run.split_step h
  obtain ⟨-, hx⟩ := exec_get.mp (Step.local hs)
  obtain ⟨-, hk, hnow⟩ := get_some hx
  refine ⟨?_, fun l hl hout => ?_, PortalRun.session_created h₁ hk⟩
  · rw [← (Run.local h₁).invariant.sessionTtl _ _ hk]
    exact UInt64.lt_iff_toNat_lt.mp hnow
  · obtain ⟨a, b, rfl⟩ := List.append_of_mem hl
    exact PortalRun.not_recreated h hf r (recreated h hout (.inr ⟨i, q, now, record, rfl⟩))

end Runs

end Portal

/-! ## Both components -/

section Joint

variable [Crates] {config : Portal.AppConfig} {googleConfig : GoogleAuthorizationConfig}
  {services : String → Option RegisteredService} {p : Portal.PortalPool} {s : ServicePool}
  {tr tr₁ tr₂ : List JointLabel} {i : ℕ}

/-- **A completed login names a user of Google.** -/
theorem JointRun.login_owner (h : JointRun config googleConfig services tr p s)
    (hs : FreshReferences (rights tr)) {q : Portal.PortalRequest} {code state : String}
    {start : LoginStart} {record : AuthenticationHandoff}
    (hx : CompletesLogin config tr i q code state start record) :
    ∃ identity, BelongsTo (rights tr) s.world.database record.internalUserId identity := by
  obtain ⟨e, he, hc⟩ := hx.issued
  exact h.service.handoff_owner hs he hc

/-- **The portal names the user that Google named.** A request for the user that answers 200 read
the session of its only session cookie. A callback of the portal created this session less than
eight hours before, and nobody logged it out. The callback completed a login with a handoff for this
user and this time, and the user belongs to one identity, which Google named to a callback of the
service. -/
theorem me_authentic (h : JointRun config googleConfig services tr p s)
    (hp : Portal.FreshChallenges (lefts tr)) (hs : FreshReferences (rights tr))
    (hb : ∀ l, Crates.base64Decode (Base64.encode l) = some l) {headers : Portal.HeaderMap}
    {u : Int32} (hi : p.threads i =
      some ⟨.getMe headers, .done (some ⟨200, none, [], .me true u⟩)⟩) :
    ∃ r record now tr₁ l tr₂ tr₃ j q code state start handoff identity,
      Portal.OnlyCookie headers.cookies Portal.portalSessionCookieName r ∧
      tr = tr₁ ++ .inl l :: tr₂ ++
        .inl (.op i (.getMe headers) (.getLocalSession r) (some (now, some record))) :: tr₃ ∧
      Portal.CreatesAs j q r record l ∧ now.toNat < record.createdAt.toNat + 28800 ∧
      (∀ l' ∈ lefts (tr₁ ++ .inl l :: tr₂), ¬Portal.LogsOut r l') ∧
      CompletesLogin config tr₁ j q code state start handoff ∧
      record.internalUserId = u ∧ handoff.internalUserId = u ∧
      handoff.authenticatedAt = record.authenticatedAt ∧
      BelongsTo (rights tr) s.world.database u identity := by
  obtain ⟨r, now, record, ptr₁, ptr₂, honly, rfl, e⟩ := h.portal.me_found hi
  obtain ⟨hnow, hout, l, hl, j, q, hc⟩ := h.portal.found hp.references e
  obtain ⟨ptr₃, ptr₄, rfl⟩ := List.append_of_mem hl
  -- the same steps in the run of both
  obtain ⟨trr, tr₃, rfl, hleft, -⟩ := lefts_cut e
  obtain ⟨tr₁, tr₂, rfl, -, -⟩ := lefts_cut hleft
  obtain ⟨draws, csrf, rfl, hcsrf⟩ := hc
  rw [List.append_assoc, List.cons_append] at h hs
  obtain ⟨code, state, start, handoff, hx, hu, ha⟩ := JointRun.completes h hs hb rfl
  obtain ⟨identity, hid⟩ := JointRun.login_owner h hs (hx.append _)
  rw [hu] at hid
  rw [← List.cons_append, ← List.append_assoc] at hid
  refine ⟨r, record, now, tr₁, _, tr₂, tr₃, j, q, code, state, start, handoff, identity, honly, rfl,
    ⟨draws, csrf, rfl, hcsrf⟩, hnow, ?_, hx, rfl, hu, ha, hid⟩
  rw [hleft]
  exact hout

omit [Crates] in
theorem me_authentic_sample : letI := Crates.joint
    ∃ tr p s, ∃ record : LocalSession, ∃ handoff identity tr₁ j q code state start,
      JointRun Portal.AppConfig.sample ⟨"", ""⟩ sampleServices tr p s ∧
      p.threads 2 = some ⟨sampleMe, .done (some ⟨200, none, [], .me true 1⟩)⟩ ∧
      CompletesLogin Portal.AppConfig.sample tr₁ j q code state start handoff ∧
      record.internalUserId = 1 ∧ handoff.authenticatedAt = record.authenticatedAt ∧
      BelongsTo (rights tr) s.world.database 1 identity := by
  let _ := Crates.joint
  obtain ⟨tr, p, s, h, hp, hs, -, hi⟩ := exists_joint_run
  obtain ⟨r, record, now, tr₁, l, tr₂, tr₃, j, q, code, state, start, handoff, identity, -, -, -, -,
    -, hx, hu, -, ha, hid⟩ := me_authentic h hp hs Base64.decode_encode hi
  exact ⟨tr, p, s, record, handoff, identity, tr₁, j, q, code, state, start, h, hi, hx, hu, ha, hid⟩

end Joint

end AuthFoundation
