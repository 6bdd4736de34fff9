import AuthFoundation.Content
import AuthFoundation.LoginRun

set_option autoImplicit false

/-!
# Expiry in runs of the service

Requests read the clock of the application, scripts the clock of Redis. An `EXPIREAT` without an
effect is one that fails.

* `Family.Unexpired`, `Sent.Relies`: the records a script relies on have not expired.
* **`freshness_bounded`**: no script that commits relies on an expired record, and an exchange
  never answers with an authentication older than a session may be.
* `StoredSession`, `ReadsExpired`: stored sessions, and runs whose reads find none expired too
  early.
* **`live_session_kept`**: in such runs only a logout removes a live session.
-/

namespace AuthFoundation

open Text Redis Token Interleave

/-! ## Created records -/

section Family

variable {α : Type} {F : Family α} {k : Bytes} {E : List Event} {e e' : Event} {a a' : α}

/-- **The record created at the key has not expired.** -/
def Family.Unexpired (F : Family α) (k : Bytes) (E : List Event) (time : ℕ) : Prop :=
  ∃ a, (∃ e ∈ E, F.Creates k a e) ∧ (∀ e ∈ E, ∀ a', F.Creates k a' e → a' = a) ∧
    time < (F.expiresAt a).toNat

theorem Family.Creates.unexpired {time : ℕ} (hc : F.Creates k a e) (he : e ∈ E)
    (hd : F.Disciplined k E) (ht : time < (F.expiresAt a).toNat) : F.Unexpired k E time :=
  ⟨a, ⟨e, he, hc⟩, fun _ he' _ hc' => hd.creates_eq he' he hc' hc, ht⟩

end Family

/-! ## Scripts rely on unexpired records -/

/-- The records a script relies on have not expired. -/
def Sent.Relies (E : List Event) (time : ℕ) : Sent → Prop
  | claim lookup => externals.Unexpired (Key.external lookup) E time
  | issue session _ _ => sessions.Unexpired (Key.session session) E time
  | exchange handoff _ _ session => handoffs.Unexpired (Key.handoff handoff) E time ∧
      sessions.Unexpired (Key.session session) E time
  | logout lookup _ _ => logouts.Unexpired (Key.logout lookup) E time
  | _ => True

section Service

variable [Crates] {googleConfig : GoogleAuthorizationConfig}
  {services : String → Option RegisteredService} {tr : List ServiceLabel} {s t : ServicePool}
  {i : ℕ} {q : Request}

/-- A session lives eight hours from its authentication. -/
theorem ServiceRun.session_times {w : World} (h : ServiceRun googleConfig w tr s) {k : Bytes}
    {a : CommonSession} {e : Event} (he : e ∈ events tr)
    (hc : AuthFoundation.sessions.Creates k a e) :
    a.expiresAt.toNat = a.authenticatedAt.toNat + commonSessionTtlSeconds.toNat := by
  obtain ⟨tr₁, tr₂, t, i, q, x, r, s', -, hcr⟩ := h.creator he hc
  cases x with
  | create session state handoff record =>
    cases hcr.creates
    obtain ⟨-, -, -, -, ha, -, -, he, -⟩ := hcr.lawful
    rw [he, ha]
    rfl
  | _ => cases hcr.creates

/-- **Scripts that commit** rely on unexpired records. -/
theorem ServiceRun.relies (h : ServiceRun googleConfig (World.empty services) tr s)
    (hfresh : FreshReferences tr) {x : Sent} {r : Reply (.redis x.command)} {s' : State}
    (hs : RedisStep s.world.redis (.command x.command r) s')
    (hc : Committed (.command x.command r)) : x.Relies (events tr) s.world.redis.time := by
  have hh := hc.script hs
  cases x with
  | claim lookup =>
    obtain ⟨reply, -, g, y, hcm⟩ := claim_committed hh hc
    have hd := h.externals hfresh (k := Key.external lookup)
    obtain ⟨p, hp⟩ := h.knows (externals_sound family_external) hd
    obtain ⟨a, rfl, -⟩ := hcm.holds hp.1
    obtain ⟨⟨z, hz, -⟩, e, he, hcr⟩ := hp
    cases hcm.entry.symm.trans hz
    exact hcr.unexpired he hd hcm.unexpired
  | issue session handoff record =>
    obtain ⟨reply, -, g, y, hcm⟩ := issue_committed hh hc
    have hd := h.sessions hfresh (k := Key.session session)
    obtain ⟨a, hst, -⟩ := h.session_stored hfresh family_session hcm.entry
    cases hst.object
    obtain ⟨e, he, hcr⟩ := hst.created
    exact hcr.unexpired he hd hcm.unexpired
  | exchange handoff serviceId challenge session =>
    obtain ⟨reply, -, g, y, g', y', hcm⟩ := exchange_committed hh hc
    have hd := h.handoffs hfresh (k := Key.handoff handoff)
    have hd' := h.sessions hfresh (k := Key.session session)
    obtain ⟨p, hp⟩ := h.knows (handoffs_sound family_handoff) hd
    obtain ⟨a, rfl, -⟩ := hcm.holds hp.1
    obtain ⟨⟨z, hz, -⟩, e, he, hcr⟩ := hp
    cases hcm.entry.symm.trans hz
    obtain ⟨a', hst, -⟩ := h.session_stored hfresh family_session hcm.session
    cases hst.object
    obtain ⟨e', he', hcr'⟩ := hst.created
    obtain ⟨-, -, -, -, -, -, hlive, hslive, -⟩ := hcm.records
    exact ⟨hcr.unexpired he hd hlive, hcr'.unexpired he' hd' hslive⟩
  | logout lookup session csrfLookup =>
    obtain ⟨reply, -, g, y, hcm⟩ := logout_committed hh hc
    have hd := h.logouts hfresh (k := Key.logout lookup)
    obtain ⟨p, hp⟩ := h.knows (logouts_sound family_logout) hd
    obtain ⟨a, rfl, -⟩ := hcm.holds hp.1
    obtain ⟨⟨z, hz, -⟩, e, he, hcr⟩ := hp
    cases hcm.entry.symm.trans hz
    exact hcr.unexpired he hd hcm.unexpired
  | _ => trivial

/-- What an exchange answers is what it compared with the record of its session. -/
theorem ServiceRun.exchange_fresh (h : ServiceRun googleConfig (World.empty services) tr s)
    (hfresh : FreshReferences tr) {handoff serviceId challenge session : String}
    {reply : List Value} {v : HandoffExchangeResult} {s' : State}
    (hs : RedisStep s.world.redis (.command (Sent.exchange handoff serviceId challenge
      session).command (.ok reply)) s') (hv : exchangeReply reply = .ok v) :
    s.world.redis.time < v.authenticatedAt.toNat + commonSessionTtlSeconds.toNat := by
  have hc : Committed (.command (Sent.exchange handoff serviceId challenge session).command
      (.ok reply)) := by
    obtain ⟨u, a, rfl, -⟩ := exchangeReply_ok hv
    trivial
  obtain ⟨_, hr, g, y, g', y', hcm⟩ := exchange_committed (hc.script hs) hc
  cases hr
  obtain ⟨p, hp⟩ := h.knows (handoffs_sound family_handoff)
    (h.handoffs hfresh (k := Key.handoff handoff))
  obtain ⟨a, rfl, -⟩ := hcm.holds hp.1
  obtain ⟨⟨z, hz, -⟩, -⟩ := hp
  cases hcm.entry.symm.trans hz
  obtain ⟨a', hst, -⟩ := h.session_stored hfresh family_session hcm.session
  cases hst.object
  obtain ⟨e', he', hcr'⟩ := hst.created
  obtain ⟨-, -, -, -, -, hauth, -, hslive, rfl⟩ := hcm.records
  obtain ⟨u, n, hreply, rfl⟩ := exchangeReply_ok hv
  simp only [List.cons.injEq, Value.int.injEq, true_and, and_true] at hreply
  obtain ⟨-, rfl⟩ := hreply
  have ht := h.session_times he' hcr'
  rw [ht, ← hauth] at hslive
  simpa using hslive

/-- **Freshness.** In every run from the empty stores, no script that commits relies on a record
that has expired by the clock of Redis, and an exchange only answers with an authentication that is
younger than the lifetime of a session. -/
theorem freshness_bounded (h : ServiceRun googleConfig (World.empty services) tr s)
    (hfresh : FreshReferences tr) :
    (∀ i q handoff serviceId challenge session reply v t,
      ServiceStep googleConfig s (Label.sent i q (.exchange handoff serviceId challenge session)
        (.ok reply)) t → exchangeReply reply = .ok v →
      s.world.redis.time < v.authenticatedAt.toNat + commonSessionTtlSeconds.toNat) ∧
    ∀ i q x r t, ServiceStep googleConfig s (Label.sent i q x r) t →
      Committed (.command x.command r) → x.Relies (events tr) s.world.redis.time := by
  refine ⟨fun i q handoff serviceId challenge session reply v t hs hv => ?_,
    fun i q x r t hs hc => h.relies hfresh (Step.redis hs) hc⟩
  exact h.exchange_fresh hfresh (Step.redis hs) hv

/-- The exchange of the handoff of a second login. -/
abbrev sampleExchangeLabel : ServiceLabel :=
  letI := Crates.service
  Label.sent 3 (sampleExchange (referenceValue (bytes32 4)))
    (.exchange (referenceValueLookup (referenceValue (bytes32 4))) "portal" sampleChallenge
      (referenceValueLookup (referenceValue (bytes32 2)))) (.ok [.int 0, .int 1, .int 100])

omit [Crates] in
theorem freshness_bounded_sample : letI := Crates.service
    ∃ tr s t, ServiceRun ⟨"", ""⟩ (World.empty sampleServices) tr s ∧
      ServiceStep ⟨"", ""⟩ s sampleExchangeLabel t ∧ s.world.redis.time < 100 + 28800 ∧
      (Sent.exchange (referenceValueLookup (referenceValue (bytes32 4))) "portal" sampleChallenge
        (referenceValueLookup (referenceValue (bytes32 2)))).Relies (events tr)
          s.world.redis.time := by
  let _ := Crates.service
  obtain ⟨tr, s, l, t, h, hs, hfresh, rfl⟩ := exists_step_of_play machine (Request.run ⟨"", ""⟩)
    (Pool.init (World.empty sampleServices)) (firstLogin ++ secondLogin 150 ++ issueChoices ++
      (exchangeEndpointChoices (referenceValue (bytes32 4))).take 5) (.step 3 .ok)
    (fun x y => FreshReferences x.1 ∧ y.1 = sampleExchangeLabel) (by decide +kernel)
  have hf := freshness_bounded h hfresh
  exact ⟨tr, s, t, h, hs, hf.1 _ _ _ _ _ _ _ ⟨1, 100⟩ _ hs rfl, hf.2 _ _ _ _ _ hs trivial⟩

/-! ## Live sessions stay -/

/-- What is known about a stored session. -/
structure StoredSession (tr : List ServiceLabel) (s : State) (lookup : String)
    (a : CommonSession) : Prop where
  entry : ∃ x, s.entries (Key.session lookup) =
    some ⟨.hash (recordHash (encodeSession a)), x⟩ ∧ (x = none ∨ x = some a.expiresAt.toNat)
  created : ∃ e ∈ events tr, AuthFoundation.sessions.Creates (Key.session lookup) a e
  fits : a.expiresAt.toNat < 2 ^ 53

theorem ServiceRun.stored (h : ServiceRun googleConfig (World.empty services) tr s)
    (hfresh : FreshReferences tr) {lookup : String} {y : Entry}
    (hy : s.world.redis.entries (Key.session lookup) = some y) :
    ∃ a, StoredSession tr s.world.redis lookup a := by
  obtain ⟨a, hst, hv⟩ := h.session_stored hfresh family_session hy
  have hg : y.object = .hash (recordHash (encodeSession a)) := hst.object
  have hb := (sessionValid_record a).mp hv
  exact ⟨a, ⟨y.expireAt, by rw [← hg, hy], hst.expireAt⟩, hst.created, hb.2.2⟩

theorem ServiceRun.sessionAt (h : ServiceRun googleConfig (World.empty services) tr s)
    (hfresh : FreshReferences tr) {lookup : String} {state : CommonSession}
    (ha : SessionAt s.world.redis lookup state) :
    StoredSession tr s.world.redis lookup state := by
  obtain ⟨g, x, fields, he, -⟩ := id ha
  obtain ⟨a, hst⟩ := h.stored hfresh he
  obtain ⟨y, hy, -⟩ := hst.entry
  obtain rfl := ha.eq (sessionAt_record hy)
  exact hst

/-- **A session that was read** is the one that is stored later. -/
theorem ServiceRun.read (h : ServiceRun googleConfig (World.empty services) tr s)
    (hfresh : FreshReferences tr) {lookup : String} {state a : CommonSession}
    (hread : SessionRead (history i tr) lookup state)
    (ha : StoredSession tr s.world.redis lookup a) : state = a := by
  obtain ⟨hash, fields, ho, hf, hd⟩ := hread
  obtain ⟨q, hl⟩ := Interleave.mem_history.mp ho
  obtain ⟨tr₁, tr₂, rfl⟩ := List.append_of_mem hl
  obtain ⟨u, u', h₁, hs, -⟩ := h.split_step
  have hg : (hashAt (Key.session lookup) u.world.redis).1 = .ok hash :=
    congrArg Prod.fst (Redis.Step.ok (Step.redis hs))
  cases hu : u.world.redis.entries (Key.session lookup) with
  | none =>
    rw [hashAt, hu] at hg
    cases hg
    obtain ⟨hlen, -⟩ := decodeSession_eq_ok.mp hd
    rw [Fields.len, Fields.ofHash?_eq_some hf] at hlen
    cases hlen
  | some y =>
    obtain ⟨b, ⟨x, hx, -⟩, ⟨e, he, hcr⟩, -⟩ := ServiceRun.stored h₁ hfresh.prefix hu
    rw [hashAt, hx] at hg
    cases hg
    cases hd.symm.trans (decodeSession_record hf)
    obtain ⟨e', he', hcr'⟩ := ha.created
    refine (h.sessions hfresh).creates_eq ?_ he' hcr hcr'
    rw [events_append]
    exact List.mem_append_left _ he

/-- The step completes a logout of the session. -/
def LogsOut (lookup : String) (l : ServiceLabel) : Prop :=
  ∃ i q reference csrfLookup, ∃ values : List Value,
    l = Label.sent i q (.logout reference lookup csrfLookup) (.ok (.int 0 :: values))

/-- The event deletes the session after a read. -/
def Drops (lookup : String) (e : Event) : Prop :=
  ∃ r, e = .command (Sent.dropSession lookup).command r

omit [Crates] in
theorem Outcome.kept {s s' : State} {lookup : String} {a : CommonSession} {x : Option ℕ}
    {keys : List Bytes} {Commit : List Value → State → Prop} {reply : List Value} {Q : Prop}
    (ho : Outcome s keys Commit reply s')
    (he : s.entries (Key.session lookup) = some ⟨.hash (recordHash (encodeSession a)), x⟩)
    (hb : a.expiresAt.toNat < 2 ^ 53) (hlive : s.time < a.expiresAt.toNat)
    (hc : ∀ values, reply = .int 0 :: values → Commit reply s' →
      s'.entries (Key.session lookup) = s.entries (Key.session lookup) ∨ Q) :
    s'.entries (Key.session lookup) = s.entries (Key.session lookup) ∨ Q := by
  cases ho with
  | refused => exact .inl rfl
  | @expired k g y hm hk hu hn =>
    refine .inl (del_entries_of_ne s fun heq => ?_)
    subst heq
    cases he.symm.trans hk
    rw [session_field, show ((encodeSession a).lookup "expires_at").map utf8 =
      some (utf8 (toString a.expiresAt)) from rfl, num_u64 hb,
      now_eq (hlive.trans hb)] at hn
    omega
  | committed ho => exact hc _ rfl ho

omit [Crates] in
/-- **One event** removes a live session only after a read, or if it is a logout that commits. -/
theorem session_kept {s s' : State} {e : Event} {lookup : String} {a : CommonSession}
    {x : Option ℕ} (hs : RedisStep s e s') (ht : Typed e)
    (he : s.entries (Key.session lookup) = some ⟨.hash (recordHash (encodeSession a)), x⟩)
    (hx : x = none ∨ x = some a.expiresAt.toNat) (hb : a.expiresAt.toNat < 2 ^ 53)
    (hlive : s.time < a.expiresAt.toNat) (hdrop : ¬Drops lookup e) :
    s'.entries (Key.session lookup) = s.entries (Key.session lookup) ∨
      ∃ reference csrfLookup, ∃ values : List Value,
        e = .command (Sent.logout reference lookup csrfLookup).command
          (.ok (.int 0 :: values)) := by
  cases hs with
  | fail => exact .inl rfl
  | tick n => exact .inl rfl
  | @expire k y t hy hyt hle =>
    refine .inl (del_entries_of_ne s fun heq => ?_)
    subst heq
    cases he.symm.trans hy
    obtain rfl | rfl := hx
    · cases hyt
    · cases hyt
      omega
  | command h =>
    rename_i c r
    obtain ⟨y, rfl⟩ := ht _ _ rfl
    by_cases htouch : Key.session lookup ∉ y.touched
    · exact .inl (Sent.frame h htouch)
    cases y with
    | dropSession l =>
      obtain rfl : lookup = l := by simpa [Sent.touched] using htouch
      exact absurd ⟨r, rfl⟩ hdrop
    | issue session handoff record =>
      obtain ⟨reply, t, hrun, ho⟩ := issue_outcome s session handoff record
      cases hrun.symm.trans h
      refine ho.kept he hb hlive fun values _ hc => .inl ?_
      obtain ⟨g, y, hc⟩ := hc
      rw [hc.store, set_entries_of_ne _ _ (ne_of_family (by simp))]
    | create session state handoff record =>
      obtain ⟨reply, t, hrun, ho⟩ := create_outcome s session state handoff record
      cases hrun.symm.trans h
      refine ho.kept he hb hlive fun values _ hc => .inl ?_
      have hne : Key.session lookup ≠ Key.session session := fun heq => by
        rw [heq, hc.absent] at he
        cases he
      rw [hc.store, set_entries_of_ne _ _ (ne_of_family (by simp)), set_entries_of_ne _ _ hne]
    | exchange handoff serviceId challenge session =>
      obtain ⟨reply, t, hrun, ho⟩ := exchange_outcome s handoff serviceId challenge session
      cases hrun.symm.trans h
      refine ho.kept he hb hlive fun values _ hc => .inl ?_
      obtain ⟨g, y, g', y', hc⟩ := hc
      rw [hc.store, set_entries_of_ne _ _ (ne_of_family (by simp))]
    | logout reference session csrfLookup =>
      obtain ⟨reply, t, hrun, ho⟩ := logout_outcome s reference session csrfLookup
      cases hrun.symm.trans h
      refine ho.kept he hb hlive fun values hr hc => ?_
      obtain ⟨g, y, hc⟩ := hc
      subst hr
      by_cases hk : lookup = session
      · subst hk
        exact .inr ⟨reference, csrfLookup, values, rfl⟩
      · refine .inl ?_
        rw [hc.store, del_entries_of_ne _ fun heq => hk (session_inj.mp heq),
          set_entries_of_ne _ _ (ne_of_family (by simp))]
    | _ => exact absurd (Sent.untouched (by simp [Sent.touched])) htouch

/-- **Reads find no session expired too early**: a session that a request reads has expired by the
clock of Redis if it has expired by the clock that the request reads. -/
def ReadsExpired (googleConfig : GoogleAuthorizationConfig)
    (services : String → Option RegisteredService) (tr : List ServiceLabel) : Prop :=
  ∀ tr₁ tr₂ i q lookup hash fields state now t,
    tr = tr₁ ++ Label.sent i q (.readSession lookup) (.ok hash) :: tr₂ →
    ServiceRun googleConfig (World.empty services) tr₁ t →
    Fields.ofHash? hash = some fields → decodeSession fields = .ok state →
    Clock (history i tr) now → state.expiresAt ≤ now →
    state.expiresAt.toNat ≤ t.world.redis.time

theorem ReadsExpired.prefix {tr₁ tr₂ : List ServiceLabel}
    (h : ReadsExpired googleConfig services (tr₁ ++ tr₂)) :
    ReadsExpired googleConfig services tr₁ := by
  intro tr₃ tr₄ i q lookup hash fields state now t e h₃ hf hd hclock
  refine h tr₃ (tr₄ ++ tr₂) i q lookup hash fields state now t (by simp [e]) h₃ hf hd ?_
  rw [history_append]
  exact hclock.append _

/-- The commands of a run have the forms of the service. -/
theorem ServiceRun.typed {w : World} (h : ServiceRun googleConfig w tr s) {l : ServiceLabel}
    (hs : ServiceStep googleConfig s l t) {e : Event} (he : redisEvent l = some e) : Typed e := by
  intro c r hc
  subst hc
  obtain ⟨i, q, rfl⟩ := redisEvent_command he
  obtain ⟨y, hy, -⟩ := ServiceRun.lawful (h.snoc hs) rfl
  exact ⟨y, hy⟩

theorem ServiceRun.time_le {w : World} (h : ServiceRun googleConfig w tr s) {l : ServiceLabel}
    (hs : ServiceStep googleConfig s l t) : s.world.redis.time ≤ t.world.redis.time := by
  have hl := Step.redis hs
  cases hev : redisEvent l with
  | none =>
    rw [hev] at hl
    rw [hl]
  | some e =>
    rw [hev] at hl
    exact AuthFoundation.time_le hl (h.typed hs hev)

theorem ServiceRun.run_time_le {tr₂ : List ServiceLabel}
    (h : ServiceRun googleConfig (World.empty services) tr t)
    (h₂ : Interleave.Run machine (Request.run googleConfig) t tr₂ s) :
    t.world.redis.time ≤ s.world.redis.time := by
  induction h₂ with
  | nil => exact le_rfl
  | snoc hr hs ih => exact ih.trans (ServiceRun.time_le (h.append hr) hs)

/-- A session that a request found expired has expired by the clock of Redis. -/
theorem ServiceRun.read_expired (h : ServiceRun googleConfig (World.empty services) tr s)
    (hcond : ReadsExpired googleConfig services tr) {lookup : String} {state : CommonSession}
    {now : UInt64} (hread : SessionRead (history i tr) lookup state)
    (hclock : Clock (history i tr) now) (hle : state.expiresAt ≤ now) :
    state.expiresAt.toNat ≤ s.world.redis.time := by
  obtain ⟨hash, fields, ho, hf, hd⟩ := hread
  obtain ⟨q, hl⟩ := Interleave.mem_history.mp ho
  obtain ⟨tr₁, tr₂, rfl⟩ := List.append_of_mem hl
  obtain ⟨u, u', h₁, hs, h₂⟩ := h.split_step
  calc state.expiresAt.toNat ≤ u.world.redis.time :=
        hcond tr₁ tr₂ i q lookup hash fields state now u rfl h₁ hf hd hclock hle
    _ ≤ u'.world.redis.time := ServiceRun.time_le h₁ hs
    _ ≤ s.world.redis.time := ServiceRun.run_time_le (h₁.snoc hs) h₂

/-- One step of such a run removes a live session only if it completes its logout. -/
theorem ServiceRun.session_kept (h : ServiceRun googleConfig (World.empty services) tr s)
    {l : ServiceLabel} (hs : ServiceStep googleConfig s l t) (hfresh : FreshReferences tr)
    (hcond : ReadsExpired googleConfig services tr)
    {lookup : String} {state : CommonSession} (ha : SessionAt s.world.redis lookup state)
    (hlive : s.world.redis.time < state.expiresAt.toNat) :
    t.world.redis.entries (Key.session lookup) = s.world.redis.entries (Key.session lookup) ∨
      LogsOut lookup l := by
  have hst := h.sessionAt hfresh ha
  obtain ⟨x, he, hx⟩ := hst.entry
  have hl := Step.redis hs
  cases hev : redisEvent l with
  | none =>
    rw [hev] at hl
    exact .inl (by rw [hl])
  | some e =>
    rw [hev] at hl
    have h' := h.snoc hs
    have hdrop : ¬Drops lookup e := by
      rintro ⟨r, rfl⟩
      obtain ⟨i, q, rfl⟩ := redisEvent_command hev
      obtain ⟨-, state', now, hread, hclock, hle⟩ := ServiceRun.sent h' rfl
      obtain rfl := h.read hfresh hread hst
      have := h.read_expired hcond hread hclock hle
      omega
    obtain hk | ⟨reference, csrfLookup, values, rfl⟩ :=
      AuthFoundation.session_kept hl (h.typed hs hev) he hx hst.fits hlive hdrop
    · exact .inl hk
    · obtain ⟨i, q, rfl⟩ := redisEvent_command hev
      exact .inr ⟨i, q, reference, csrfLookup, values, rfl⟩

/-- **Live sessions stay.** In every run whose reads find no session expired too early, a session
that is live by the clock of Redis is still stored, unless its logout was completed. -/
theorem live_session_kept {tr₁ tr₂ : List ServiceLabel}
    (h₁ : ServiceRun googleConfig (World.empty services) tr₁ t)
    (h₂ : Interleave.Run machine (Request.run googleConfig) t tr₂ s)
    (hfresh : FreshReferences (tr₁ ++ tr₂))
    (hcond : ReadsExpired googleConfig services (tr₁ ++ tr₂)) {lookup : String}
    {state : CommonSession} (ha : SessionAt t.world.redis lookup state)
    (hlive : s.world.redis.time < state.expiresAt.toNat) :
    SessionAt s.world.redis lookup state ∨ ∃ l ∈ tr₂, LogsOut lookup l := by
  induction h₂ with
  | nil => exact .inl ha
  | @snoc tr u v l hr hs ih =>
    have hu := h₁.append hr
    rw [← List.append_assoc] at hfresh hcond
    have hle := ServiceRun.time_le hu hs
    obtain hu' | ⟨l', hl', hout⟩ := ih hfresh.prefix hcond.prefix (hle.trans_lt hlive)
    · obtain hk | hout := ServiceRun.session_kept hu hs hfresh.prefix hcond.prefix hu'
        (hle.trans_lt hlive)
      · exact .inl (hu'.congr hk)
      · exact .inr ⟨l, by simp, hout⟩
    · exact .inr ⟨l', List.mem_append_left _ hl', hout⟩

/-- The clock showed at most this second, and sessions that were read expire later. -/
def readsEarly (n : UInt64) : ServiceLabel → Bool
  | .op _ _ .systemTimeNow t => match unixSeconds t with
    | .ok now => now ≤ n
    | .error _ => true
  | .op _ _ (.redis (.hgetall _)) (.ok hash) => match (Fields.ofHash? hash).map decodeSession with
    | some (.ok state) => n < state.expiresAt
    | _ => true
  | _ => true

theorem readsExpired_of_early {n : UInt64} (h : ∀ l ∈ tr, readsEarly n l = true) :
    ReadsExpired googleConfig services tr := by
  rintro tr₁ tr₂ i q lookup hash fields state now t rfl - hf hd ⟨time, ht, hnow⟩ hle
  have hstate : n < state.expiresAt := by
    have hx := h (Label.sent i q (.readSession lookup) (.ok hash)) (by simp)
    change (match (Fields.ofHash? hash).map decodeSession with
      | some (.ok state) => decide (n < state.expiresAt)
      | _ => true) = true at hx
    simpa [hf, hd] using hx
  obtain ⟨q', hl⟩ := Interleave.mem_history.mp ht
  have hn : now ≤ n := by
    have hx := h _ hl
    simpa [readsEarly, hnow] using hx
  exact absurd (UInt64.le_trans hle hn) (UInt64.not_le.mpr hstate)

omit [Crates] in
/-- A login at 20100 with a session of 100, whose clock agrees with the clock of Redis. -/
theorem live_session_kept_sample : letI := Crates.service
    ∃ tr₁ t tr₂ s, ServiceRun ⟨"", ""⟩ (World.empty sampleServices) tr₁ t ∧
      Interleave.Run machine (Request.run ⟨"", ""⟩) t tr₂ s ∧ s.world.redis.time = 20100 ∧
      (SessionAt s.world.redis (referenceValueLookup (referenceValue (bytes32 2))) .sample ∨
        ∃ l ∈ tr₂, LogsOut (referenceValueLookup (referenceValue (bytes32 2))) l) := by
  let _ := Crates.service
  obtain ⟨tr, t, l, u, tr₂, s, h, hs, h₂, hfresh, hearly, he, htime⟩ := exists_cut_of_play machine
    (Request.run ⟨"", ""⟩) (Pool.init (World.empty sampleServices)) firstLogin
    (.env (.tick 20000)) (secondLogin 20100 ++ issueChoices) (fun x y z =>
      FreshReferences (x.1 ++ [y.1] ++ z.1) ∧
      (∀ l ∈ x.1 ++ [y.1] ++ z.1, readsEarly 20100 l = true) ∧
      y.2.world.redis.entries (sessionKey (referenceValue (bytes32 2))) =
        some ⟨.hash (recordHash (encodeSession .sample)), some 28900⟩ ∧
      z.2.world.redis.time = 20100) (by decide +kernel)
  refine ⟨_, u, tr₂, s, h.snoc hs, h₂, htime, ?_⟩
  refine live_session_kept (h.snoc hs) h₂ hfresh (readsExpired_of_early hearly)
    (sessionAt_record he) ?_
  rw [htime]
  decide

omit [Crates] in
/-- A login whose clock is ahead of the clock of Redis deletes a live session. -/
theorem read_deletes_live_session : letI := Crates.service
    ∃ tr t l u, ServiceRun ⟨"", ""⟩ (World.empty sampleServices) tr t ∧
      ServiceStep ⟨"", ""⟩ t l u ∧ FreshReferences tr ∧
      l = Label.sent 2 sessionLogin (.dropSession (referenceValueLookup (referenceValue
        (bytes32 2)))) (.ok (1 : ℕ)) ∧
      SessionAt t.world.redis (referenceValueLookup (referenceValue (bytes32 2))) .sample ∧
      t.world.redis.time < CommonSession.sample.expiresAt.toNat ∧
      u.world.redis.entries (sessionKey (referenceValue (bytes32 2))) = none := by
  let _ := Crates.service
  obtain ⟨tr, t, l, u, h, hs, hfresh, hl, he, htime, hu⟩ := exists_step_of_play machine
    (Request.run ⟨"", ""⟩) (Pool.init (World.empty sampleServices))
    (firstLogin ++ secondLogin 30000) (.step 2 .ok) (fun x y => FreshReferences x.1 ∧
      y.1 = Label.sent 2 sessionLogin (.dropSession (referenceValueLookup (referenceValue
        (bytes32 2)))) (.ok (1 : ℕ)) ∧
      x.2.world.redis.entries (sessionKey (referenceValue (bytes32 2))) =
        some ⟨.hash (recordHash (encodeSession .sample)), some 28900⟩ ∧
      x.2.world.redis.time < CommonSession.sample.expiresAt.toNat ∧
      y.2.world.redis.entries (sessionKey (referenceValue (bytes32 2))) = none)
    (by decide +kernel)
  exact ⟨tr, t, l, u, h, hs, hfresh, hl, sessionAt_record he, htime, hu⟩

end Service

end AuthFoundation
