import AuthFoundation.VaultRun

set_option autoImplicit false

/-!
# Exchanges are atomic

The endpoint asks Redis three times for an exchange, and other requests run in between.

* `ChangesOnly`: the steps of a thread that may change what Redis holds.
* `AtomicExchange`: how an exchange ends.
* **`exchange_atomic`**: an answered exchange was one exchange of the vault, or changed nothing.
-/

namespace AuthFoundation

open Text Redis Token Interleave

section Service

variable [Crates] {googleConfig : GoogleAuthorizationConfig} {w : World}
  {services : String → Option RegisteredService} {tr tr₁ tr₂ : List ServiceLabel}
  {s t : ServicePool} {i : ℕ} {q : Request} {x : Sent} {r : Reply (.redis x.command)}
  {request : HttpRequest} {body : HandoffExchangeRequest} {response : HttpResponse}

/-! ## Failed commands -/

omit [Crates] in
theorem reads_unavailable (x : Sent) : x.reads (.error .unavailable) = .error .redisFailure := by
  cases x <;> rfl

/-- A command that failed changed nothing. -/
theorem ServiceRun.vault_fail (h : ServiceRun googleConfig (World.empty services) tr s)
    (hs : ServiceStep googleConfig s (Label.sent i q x (.error .unavailable)) t)
    (hfresh : FreshReferences (tr ++ [Label.sent i q x (.error .unavailable)]))
    (hb : ClocksBounded (tr ++ [Label.sent i q x (.error .unavailable)])) :
    vaultOf t.world.redis = vaultOf s.world.redis := by
  have hx := h.ready hs hfresh hb
  have hstep : RedisStep s.world.redis (.command x.command (.error .unavailable)) t.world.redis :=
    Step.redis hs
  generalize t.world.redis = s' at hstep
  cases hstep with
  | command hc =>
    have he := (h.wellStored hfresh.prefix hb.prefix).exec hx hc
    rw [reads_unavailable] at he
    exact absurd rfl (Vault.exec_error (congrArg Prod.fst he)).1
  | fail => rfl

/-! ## The steps that change what Redis holds -/

/-- The steps of thread `i` that change what Redis holds come after such labels. -/
def ChangesOnly (googleConfig : GoogleAuthorizationConfig) (w : World) (tr : List ServiceLabel)
    (i : ℕ) (P : List ServiceLabel → Prop) : Prop :=
  ∀ tr₁ l tr₂ u u', tr = tr₁ ++ l :: tr₂ → l.client = some i → ServiceRun googleConfig w tr₁ u →
    ServiceStep googleConfig u l u' → vaultOf u'.world.redis ≠ vaultOf u.world.redis → P tr₁

/-- Only answered commands change what Redis holds, and they change it as the vault. -/
theorem changesOnly_of_exec {P : List ServiceLabel → Prop} (hfresh : FreshReferences tr)
    (hb : ClocksBounded tr) (hP : ∀ tr₁ q x r tr₂ u, tr = tr₁ ++ Label.sent i q x r :: tr₂ →
      r ≠ .error .unavailable → ((vaultOf u).exec x).2 ≠ vaultOf u → P tr₁) :
    ChangesOnly googleConfig (World.empty services) tr i P := by
  rintro tr₁ l tr₂ u u' rfl hl h₁ hs hne
  rw [List.append_cons] at hfresh hb
  have hstep := Step.redis hs
  cases he : redisEvent l with
  | none =>
    rw [he] at hstep
    exact absurd (congrArg vaultOf hstep) hne
  | some e =>
    cases l with
    | start j q => cases he
    | env e => cases hl
    | op j q o r =>
    cases hl
    cases o with
    | redis c =>
      obtain ⟨x, rfl, -⟩ := ServiceRun.lawful (h₁.snoc hs) rfl
      by_cases hr : r = .error .unavailable
      · subst hr
        exact absurd (ServiceRun.vault_fail h₁ hs hfresh.prefix hb.prefix) hne
      · refine hP tr₁ q x r tr₂ u.world.redis rfl hr ?_
        rw [ServiceRun.vault_exec h₁ hs hfresh.prefix hb.prefix hr]
        exact hne
    | _ => cases he

/-! ## One exchange -/

/-- **How an exchange ends**: rejected before Redis is asked, with a command that failed, with a
handoff whose time came between two commands, or as one exchange of the vault at one of its own
commands that Redis answered. -/
inductive AtomicExchange (googleConfig : GoogleAuthorizationConfig) (w : World)
    (tr : List ServiceLabel) (i : ℕ) (request : HttpRequest) (body : HandoffExchangeRequest) :
    HttpResponse → Prop
  | rejected {status : ℕ} (h : status ∈ [400, 401, 403, 503]) (hu : Unasked (history i tr))
      (hc : ChangesOnly googleConfig w tr i fun _ => False) :
    AtomicExchange googleConfig w tr i request body (.empty status)
  | failed {c : Command} (h : Observed (history i tr) (.redis c) (.error .unavailable))
      (hc : ChangesOnly googleConfig w tr i fun _ => False) :
    AtomicExchange googleConfig w tr i request body (.empty 503)
  | vanished {tr₁ tr₂ tr₃ : List ServiceLabel} {u u' : ServicePool} {q q' : Request}
      {r : Reply (.redis (Sent.typeHandoff (referenceValueLookup body.code)).command)}
      {v : Reply (.redis (Sent.readHandoffLookup (referenceValueLookup body.code)).command)}
      {b : AuthenticationHandoff}
      (e : tr = tr₁ ++ Label.sent i q (.typeHandoff _) r ::
        (tr₂ ++ Label.sent i q' (.readHandoffLookup _) v :: tr₃))
      (hr : typeReply r = .ok ()) (hv : v ≠ .error .unavailable)
      (h₁ : ServiceRun googleConfig w (tr₁ ++ [Label.sent i q (.typeHandoff _) r]) u)
      (h₂ : ServiceRun googleConfig w (tr₁ ++ [Label.sent i q (.typeHandoff _) r] ++ tr₂) u')
      (hb : recordOf u.world.redis .handoff (referenceValueLookup body.code) = some b)
      (hn : recordOf u'.world.redis .handoff (referenceValueLookup body.code) = none)
      (hx : b.expiresAt.toNat ≤ u'.world.redis.time)
      (hc : ChangesOnly googleConfig w tr i fun _ => False) :
    AtomicExchange googleConfig w tr i request body (.empty 503)
  | exchanged {tr₁ tr₂ : List ServiceLabel} {u u' : ServicePool} {q : Request} {x : Sent}
      {r : Reply (.redis x.command)} {serviceId secret challenge : String}
      {result : Except RedisStateError HandoffExchangeResult}
      (hs : basicCredentials request = some (serviceId, secret))
      (hp : pkceS256Challenge body.codeVerifier = .ok challenge)
      (e : tr = tr₁ ++ Label.sent i q x r :: tr₂)
      (hx : x = .typeHandoff (referenceValueLookup body.code) ∨
        ∃ session, x = .exchange (referenceValueLookup body.code) serviceId challenge session)
      (hr : r ≠ .error .unavailable) (h₁ : ServiceRun googleConfig w tr₁ u)
      (h₂ : ServiceStep googleConfig u (Label.sent i q x r) u')
      (hv : (vaultOf u.world.redis).exchange (referenceValueLookup body.code) serviceId challenge =
        (result, vaultOf u'.world.redis))
      (hc : ChangesOnly googleConfig w tr i fun tr' => tr' = tr₁) :
    AtomicExchange googleConfig w tr i request body (exchangeResponse result)

section Calls

variable {H₁ D : History Reply} {serviceId secret challenge lookup : String}
  {result : Except RedisStateError HandoffExchangeResult}

omit [Crates] in
theorem sent_history (hl : Label.sent i q x r ∈ tr) :
    (⟨.redis x.command, r⟩ : Σ o, Reply o) ∈ history i tr :=
  Interleave.mem_history.mpr ⟨q, hl⟩

omit [Crates] in
/-- What was sent by a thread that asked Redis for one exchange only. -/
theorem sent_mem (hu : Unasked H₁) (hH : history i tr = H₁ ++ D) (hl : Label.sent i q x r ∈ tr) :
    (⟨.redis x.command, r⟩ : Σ o, Reply o) ∈ D := by
  have hm := sent_history hl
  rw [hH] at hm
  rcases List.mem_append.mp hm with hm | hm
  · cases hu _ hm
  · exact hm

omit [Crates] in
theorem sent_eq {y : Sent} {r' : Reply (.redis y.command)}
    (h : (⟨.redis x.command, r⟩ : Σ o, Reply o) = ⟨.redis y.command, r'⟩) : x = y :=
  Sent.command_injective (Op.redis.inj (Sigma.mk.inj h).1)

omit [Crates] in
/-- Reading a handoff leaves the vault. -/
theorem exec_handoff_read {a : Reply (.redis (Sent.typeHandoff lookup).command)}
    {b : Reply (.redis (Sent.readHandoffLookup lookup).command)}
    (h : (⟨.redis x.command, r⟩ : Σ o, Reply o) ∈
      [(⟨_, a⟩ : Σ o, Reply o), ⟨_, b⟩]) (v : Vault) : (v.exec x).2 = v := by
  rcases List.mem_pair.mp h with h | h
  · rw [sent_eq h]
    rfl
  · rw [sent_eq h]
    rfl

/-- A thread that only read the handoff changed nothing. -/
theorem changesOnly_read (hfresh : FreshReferences tr) (hb : ClocksBounded tr) (hu : Unasked H₁)
    (hH : history i tr = H₁ ++ D) {a : Reply (.redis (Sent.typeHandoff lookup).command)}
    {b : Reply (.redis (Sent.readHandoffLookup lookup).command)}
    (hD : D ⊆ [(⟨_, a⟩ : Σ o, Reply o), ⟨_, b⟩]) (P : List ServiceLabel → Prop) :
    ChangesOnly googleConfig (World.empty services) tr i P := by
  refine changesOnly_of_exec hfresh hb fun tr₁ q x r tr₂ u e hr hne => absurd ?_ hne
  have hl : Label.sent i q x r ∈ tr := by simp [e]
  exact exec_handoff_read (hD (sent_mem hu hH hl)) _

/-- A thread that ran the script changed nothing before. -/
theorem changesOnly_script (hfresh : FreshReferences tr) (hb : ClocksBounded tr) (hu : Unasked H₁)
    {a : Reply (.redis (Sent.typeHandoff lookup).command)}
    {b : Reply (.redis (Sent.readHandoffLookup lookup).command)} {session : String}
    {c : Reply (.redis (Sent.exchange lookup serviceId challenge session).command)}
    (hH : history i tr = H₁ ++ [⟨_, a⟩, ⟨_, b⟩, ⟨_, c⟩]) {P : List ServiceLabel → Prop}
    (hP : ∀ tr₁ q tr₂, tr = tr₁ ++ Label.sent i q
      (.exchange lookup serviceId challenge session) c :: tr₂ → c ≠ .error .unavailable → P tr₁) :
    ChangesOnly googleConfig (World.empty services) tr i P := by
  refine changesOnly_of_exec hfresh hb fun tr₁ q x r tr₂ u e hr hne => ?_
  have hm : _ ∈ ([⟨_, a⟩, ⟨_, b⟩] ++ [⟨_, c⟩] : List (Σ o, Reply o)) :=
    sent_mem hu hH (show Label.sent i q x r ∈ tr by simp [e])
  rcases List.mem_append.mp hm with hm | hm
  · exact absurd (exec_handoff_read hm _) hne
  · have hx := List.mem_singleton.mp hm
    obtain rfl := sent_eq hx
    obtain rfl := eq_of_heq (Sigma.mk.inj hx).2
    exact hP tr₁ q tr₂ e hr

end Calls

end Service

namespace Vault

variable {v : Vault} {lookup serviceId challenge : String} {e : RedisStateError}

theorem exchange_absent (h : v.records .handoff lookup = none) :
    v.exchange lookup serviceId challenge = (.error .notFound, v) := by
  rw [exchange, unexpired, h]

theorem typeHandoff_ok (h : (v.exec (.typeHandoff lookup)).1 = .ok ()) :
    ∃ b, v.records .handoff lookup = some b := by
  cases hr : v.records .handoff lookup with
  | none =>
    rw [exec, hr] at h
    cases h
  | some b => exact ⟨b, rfl⟩

theorem typeHandoff_error (h : (v.exec (.typeHandoff lookup)).1 = .error e) :
    e = .notFound ∧ v.records .handoff lookup = none := by
  cases hr : v.records .handoff lookup with
  | none =>
    rw [exec, hr] at h
    exact ⟨(Except.error.inj h).symm, rfl⟩
  | some b =>
    rw [exec, hr] at h
    cases h

theorem readHandoffLookup_error (h : (v.exec (.readHandoffLookup lookup)).1 = .error e) :
    e = .invalidStoredState ∧ v.records .handoff lookup = none := by
  cases hr : v.records .handoff lookup with
  | none =>
    rw [exec, hr] at h
    exact ⟨(Except.error.inj h).symm, rfl⟩
  | some b =>
    rw [exec, hr] at h
    cases h

end Vault

section Atomic

variable [Crates] {googleConfig : GoogleAuthorizationConfig}
  {services : String → Option RegisteredService} {tr tr₁ tr₂ tr₃ : List ServiceLabel}
  {s t : ServicePool} {i : ℕ} {q q' : Request} {request : HttpRequest}
  {body : HandoffExchangeRequest} {response : HttpResponse} {H₁ D : History Reply}
  {serviceId secret challenge session lookup : String} {e : RedisStateError}
  {result : Except RedisStateError HandoffExchangeResult}
  {r : Reply (.redis (Sent.typeHandoff lookup).command)}
  {v : Reply (.redis (Sent.readHandoffLookup lookup).command)}
  {x : Reply (.redis (Sent.exchange lookup serviceId challenge session).command)}

/-! ## The cases -/

/-- A handoff that was not found. -/
theorem atomic_type (serviceId challenge : String)
    (h : ServiceRun googleConfig (World.empty services)
      (tr₁ ++ Label.sent i q (.typeHandoff lookup) r :: tr₂) s)
    (hfresh : FreshReferences (tr₁ ++ Label.sent i q (.typeHandoff lookup) r :: tr₂))
    (hb : ClocksBounded (tr₁ ++ Label.sent i q (.typeHandoff lookup) r :: tr₂))
    (hr : r ≠ .error .unavailable) (he : typeReply r = .error e) :
    ∃ u u', ServiceRun googleConfig (World.empty services) tr₁ u ∧
      ServiceStep googleConfig u (Label.sent i q (.typeHandoff lookup) r) u' ∧
      (vaultOf u.world.redis).exchange lookup serviceId challenge =
        (.error e, vaultOf u'.world.redis) := by
  obtain ⟨u, u', h₁, hs, -⟩ := h.split_step
  rw [List.append_cons] at hfresh hb
  have hexec := ServiceRun.vault_exec h₁ hs hfresh.prefix hb.prefix hr
  have hfst : ((vaultOf u.world.redis).exec (.typeHandoff lookup)).1 = .error e := by
    rw [hexec]
    exact he
  obtain ⟨rfl, hn⟩ := Vault.typeHandoff_error hfst
  refine ⟨u, u', h₁, hs, ?_⟩
  rw [Vault.exchange_absent hn]
  exact congrArg _ (congrArg Prod.snd hexec)

/-- A handoff that was there, and then it was gone: its time has come. -/
theorem atomic_lookup
    (h : ServiceRun googleConfig (World.empty services)
      (tr₁ ++ Label.sent i q (.typeHandoff lookup) r ::
        (tr₂ ++ Label.sent i q' (.readHandoffLookup lookup) v :: tr₃)) s)
    (hfresh : FreshReferences (tr₁ ++ Label.sent i q (.typeHandoff lookup) r ::
      (tr₂ ++ Label.sent i q' (.readHandoffLookup lookup) v :: tr₃)))
    (hb : ClocksBounded (tr₁ ++ Label.sent i q (.typeHandoff lookup) r ::
      (tr₂ ++ Label.sent i q' (.readHandoffLookup lookup) v :: tr₃)))
    (hr : typeReply r = .ok ()) (hv : v ≠ .error .unavailable) (he : lookupReply v = .error e) :
    e = .invalidStoredState ∧ ∃ u u' b,
      ServiceRun googleConfig (World.empty services)
        (tr₁ ++ [Label.sent i q (.typeHandoff lookup) r]) u ∧
      ServiceRun googleConfig (World.empty services)
        (tr₁ ++ [Label.sent i q (.typeHandoff lookup) r] ++ tr₂) u' ∧
      recordOf u.world.redis .handoff lookup = some b ∧
      recordOf u'.world.redis .handoff lookup = none ∧
      b.expiresAt.toNat ≤ u'.world.redis.time := by
  have hr' : r ≠ .error .unavailable := by
    rintro rfl
    cases hr
  obtain ⟨u, u', h₁, hs, h₂⟩ := h.split_step
  obtain ⟨t, t', h₃, hs', -⟩ := Interleave.Run.split_step h₂
  rw [List.append_cons, List.append_cons _ _ tr₃, ← List.append_assoc, ← List.append_assoc]
    at hfresh hb
  have hu₁ := h₁.snoc hs
  have hu₂ := hu₁.append h₃
  have hexec := ServiceRun.vault_exec h₁ hs hfresh.prefix.prefix.prefix hb.prefix.prefix.prefix hr'
  have hexec' := ServiceRun.vault_exec hu₂ hs' hfresh.prefix hb.prefix hv
  have hok : ((vaultOf u.world.redis).exec (.typeHandoff lookup)).1 = .ok () := by
    rw [hexec]
    exact hr
  have herr : ((vaultOf t.world.redis).exec (.readHandoffLookup lookup)).1 = .error e := by
    rw [hexec']
    exact he
  obtain ⟨b, hrec⟩ := Vault.typeHandoff_ok hok
  obtain ⟨rfl, hrec'⟩ := Vault.readHandoffLookup_error herr
  have hsame : vaultOf u.world.redis = vaultOf u'.world.redis := congrArg Prod.snd hexec
  rw [hsame] at hrec
  refine ⟨rfl, u', t, b, hu₁, hu₂, hrec, hrec', ?_⟩
  have hrun := ServiceRun.vault_run hu₁ h₃ hfresh.prefix.prefix hb.prefix.prefix
  obtain ⟨b', hb', -⟩ | hx := hrun.stays (fun _ _ => Vault.not_displaces_handoff)
    (.inl ⟨b, hrec, rfl⟩)
  · cases hrec'.symm.trans hb'
  · exact hx

/-- **The exchanges of a run are atomic**, whatever runs between their commands. -/
theorem ServiceRun.atomic (h : ServiceRun googleConfig (World.empty services) tr s)
    (hfresh : FreshReferences tr) (hb : ClocksBounded tr)
    (hs : basicCredentials request = some (serviceId, secret))
    (hp : pkceS256Challenge body.codeVerifier = .ok challenge) (hH : history i tr = H₁ ++ D)
    (hu : Unasked H₁)
    (hD : ExchangeCalls (referenceValueLookup body.code) serviceId challenge D result) :
    AtomicExchange googleConfig (World.empty services) tr i request body
      (exchangeResponse result) := by
  cases hD with
  | @type r e hD he =>
    subst hD
    have hread : ∀ P, ChangesOnly googleConfig (World.empty services) tr i P :=
      changesOnly_read (a := r) (b := .error .unavailable) hfresh hb hu hH (by simp)
    obtain ⟨tr₁, q, tr₂, rfl, -, -⟩ := history_cut hH
    by_cases hr : r = .error .unavailable
    · subst hr
      cases he
      exact .failed (c := (Sent.typeHandoff (referenceValueLookup body.code)).command)
        (Interleave.mem_history.mpr ⟨q, by simp⟩) (hread _)
    · obtain ⟨u, u', h₁, hstep, hx⟩ := atomic_type serviceId challenge h hfresh hb hr he
      exact .exchanged hs hp rfl (.inl rfl) hr h₁ hstep hx (hread _)
  | @lookup r v e hD hr he =>
    subst hD
    have hread : ∀ P, ChangesOnly googleConfig (World.empty services) tr i P :=
      changesOnly_read hfresh hb hu hH (List.Subset.refl _)
    obtain ⟨tr₁, q, tr₂, rfl, -, hH₂⟩ := history_cut hH
    obtain ⟨tr₃, q', tr₄, rfl, -, -⟩ :=
      history_cut (show history i tr₂ = [] ++ ⟨_, v⟩ :: [] from hH₂)
    by_cases hv : v = .error .unavailable
    · subst hv
      cases he
      exact .failed (c := (Sent.readHandoffLookup (referenceValueLookup body.code)).command)
        (Interleave.mem_history.mpr ⟨q', by simp⟩) (hread _)
    · obtain ⟨rfl, u, u', b, h₁, h₂, hrec, hrec', hx⟩ := atomic_lookup h hfresh hb hr hv he
      exact .vanished rfl hr hv h₁ h₂ hrec hrec' hx (hread _)
  | @script r v session x hD hr hv =>
    subst hD
    obtain ⟨tr₁, q, tr₂, rfl, hH₁, hH₂⟩ := history_cut (show history i tr =
      (H₁ ++ [⟨_, r⟩, ⟨_, v⟩]) ++ ⟨_, x⟩ :: [] by rw [hH, List.append_assoc]; rfl)
    by_cases hx : x = .error .unavailable
    · subst hx
      exact .failed (c := (Sent.exchange (referenceValueLookup body.code) serviceId challenge
          session).command) (Interleave.mem_history.mpr ⟨q, by simp⟩)
        (changesOnly_script hfresh hb hu hH fun _ _ _ _ hne => hne rfl)
    -- the script ran once
    have honce : ChangesOnly googleConfig (World.empty services) (tr₁ ++ Label.sent i q
        (.exchange (referenceValueLookup body.code) serviceId challenge session) x :: tr₂) i
        fun tr' => tr' = tr₁ := by
      refine changesOnly_script hfresh hb hu hH fun tr' q' tr'' e _ => ?_
      rcases cut_cases e with he | hl | hl
      · exact he
      · have hm := sent_history hl
        rw [hH₁] at hm
        rcases List.mem_append.mp hm with hm | hm
        · cases hu _ hm
        · rcases List.mem_pair.mp hm with hm | hm
          · cases sent_eq hm
          · cases sent_eq hm
      · have hm := sent_history hl
        rw [hH₂] at hm
        cases hm
    obtain ⟨u, u', h₁, hstep, -⟩ := h.split_step
    rw [List.append_cons] at hfresh hb
    exact .exchanged hs hp rfl (.inr ⟨session, rfl⟩) hx h₁ hstep
      (ServiceRun.vault_exec h₁ hstep hfresh.prefix hb.prefix hx) honce

/-- A thread that did not ask Redis changed nothing. -/
theorem changesOnly_unasked (hfresh : FreshReferences tr) (hb : ClocksBounded tr)
    (hu : Unasked (history i tr)) (P : List ServiceLabel → Prop) :
    ChangesOnly googleConfig (World.empty services) tr i P := by
  refine changesOnly_of_exec hfresh hb fun tr₁ q x r tr₂ u e _ _ => ?_
  have hl : Label.sent i q x r ∈ tr := by simp [e]
  cases hu _ (sent_history hl)

/-- **Exchanges are atomic**: an answered exchange was rejected before Redis was asked, or failed
with a command, or found that the time of its handoff had come between two commands, and then it
changed nothing; or its answer is that of one exchange of the vault at one of its steps, and no
other step of it changed anything. -/
theorem exchange_atomic (h : ServiceRun googleConfig (World.empty services) tr s)
    (hfresh : FreshReferences tr) (hb : ClocksBounded tr)
    (hi : s.threads i = some ⟨.exchangeAuthHandoff request body, .done response⟩) :
    AtomicExchange googleConfig (World.empty services) tr i request body response := by
  have hdone := h.sat_done (Request.preRead googleConfig) hi request body rfl
  cases hdone with
  | rejected hs hu => exact .rejected hs hu (changesOnly_unasked hfresh hb hu _)
  | exchanged hs hc hH hu hD => exact h.atomic hfresh hb hs hc hH hu hD

omit [Crates] in
theorem exchange_atomic_sample : letI := Crates.service
    ∃ tr s, ServiceRun ⟨"", ""⟩ (World.empty sampleServices) tr s ∧
      AtomicExchange ⟨"", ""⟩ (World.empty sampleServices) tr 3
        ⟨[some "Basic cG9ydGFsOnNlY3JldA=="], []⟩ ⟨referenceValue (bytes32 4), sampleVerifier⟩
        ⟨200, none, [], .handoffExchangeResponse 1 100⟩ := by
  let _ := Crates.service
  obtain ⟨tr, s, h, hfresh, hclocks, hi⟩ := exists_run_of_play machine (Request.run ⟨"", ""⟩)
    (Pool.init (World.empty sampleServices)) (firstLogin ++ secondLogin 150 ++ issueChoices ++
      exchangeEndpointChoices (referenceValue (bytes32 4)))
    (fun x => FreshReferences x.1 ∧ (∀ l ∈ x.1, clockFits l = true) ∧
      x.2.result 3 (sampleExchange (referenceValue (bytes32 4))) =
        some ⟨200, none, [], .handoffExchangeResponse 1 100⟩) (by decide +kernel)
  exact ⟨tr, s, h, exchange_atomic h hfresh (clocksBounded_of_fits hclocks)
    (Pool.threads_of_result hi)⟩

end Atomic

end AuthFoundation
