import AuthFoundation.ServiceRun
import AuthFoundation.Stored

set_option autoImplicit false

/-!
# What the store holds

In every state of a run from the empty stores, what a key of a family holds was created there by one
step, and its status may have changed since.

* `Family.Stored`: a stored record with the record that was created.
* `RecordAt`, `SessionAt`, `HandoffAt`: the store holds a hash that decodes to a record.
* `Creation`, `ServiceRun.creator`: the step that created a record, and what it knew.
* `ServiceRun.session_stored`, `ServiceRun.handoff_stored`: **stored sessions and handoffs pass the
  checks of the scripts, and a handoff agrees with its session**.
-/

namespace AuthFoundation

open Text Redis Token Interleave

/-! ## One family -/

section Family

variable {α : Type} {F : Family α} {k : Bytes} {E : List Event} {e e' : Event} {a a' : α}

/-- A disciplined run creates one record at a key. -/
theorem Family.Disciplined.creates_eq (h : F.Disciplined k E) (he : e ∈ E) (he' : e' ∈ E)
    (hc : F.Creates k a e) (hc' : F.Creates k a' e') : a = a' := by
  by_cases heq : e = e'
  · subst heq
    obtain ⟨x, r, rfl, hx, -⟩ := hc
    obtain ⟨y, r', hy, hx', -⟩ := hc'
    obtain rfl := Sent.command_injective (Redis.Event.command.inj hy).1
    cases hx.symm.trans hx'
    rfl
  · obtain ⟨E₁, E₂, E₃, rfl | rfl⟩ := cut_two he he' heq
    · exact absurd hc'.attempt (h.once _ _ _ _ _ rfl hc.attempt)
    · exact absurd hc.attempt (h.once _ _ _ _ _ rfl hc'.attempt)

/-- **A stored record** `b` with the record `a` that was created at its key. -/
structure Family.Stored (F : Family α) (k : Bytes) (E : List Event) (y : Entry) (a b : α) :
    Prop where
  created : ∃ e ∈ E, F.Creates k a e
  object : y.object = .hash (recordHash (F.encode b))
  marked : b = a ∨ b = F.mark a
  expireAt : y.expireAt = none ∨ y.expireAt = some (F.expiresAt a).toNat

theorem Family.Knows.stored {s : State} {p : Phase α} {y : Entry} (h : F.Knows k E s p)
    (hy : s.entries k = some y) : ∃ a b, F.Stored k E y a b := by
  obtain ⟨a, ⟨rfl, hg⟩ | ⟨rfl, hg⟩, hx⟩ := h.1.stored hy
  · exact ⟨a, a, h.2, hg, .inl rfl, hx⟩
  · exact ⟨a, F.mark a, h.2, hg, .inr rfl, hx⟩

end Family

/-! ## Decoded records -/

section Decoded

variable {α : Type} {decode : Fields → Except RedisStateError α} {s : State} {k : Bytes} {a b : α}
  {l : List (String × String)} {x : Option ℕ}

/-- **The store holds a hash that decodes to the record.** -/
def RecordAt (decode : Fields → Except RedisStateError α) (s : State) (k : Bytes) (a : α) : Prop :=
  ∃ g x fields, s.entries k = some ⟨.hash g, x⟩ ∧ Fields.ofHash? g = some fields ∧
    decode fields = .ok a

theorem recordAt_of (hn : (l.map Prod.fst).Nodup)
    (hd : ∀ fields : Fields, fields.Of l → decode fields = .ok a)
    (hk : s.entries k = some ⟨.hash (recordHash l), x⟩) : RecordAt decode s k a := by
  obtain ⟨fields, hf, -⟩ := ofHash?_recordHash hn
  exact ⟨_, x, fields, hk, hf, decode_record hn hd hf⟩

theorem RecordAt.eq (h : RecordAt decode s k a) (h' : RecordAt decode s k b) : a = b := by
  obtain ⟨g, x, fields, hk, hf, hd⟩ := h
  obtain ⟨g', x', fields', hk', hf', hd'⟩ := h'
  cases hk.symm.trans hk'
  cases hf.symm.trans hf'
  exact Except.ok.inj (hd.symm.trans hd')

theorem RecordAt.congr {s' : State} (h : RecordAt decode s k a) (hs : s'.entries k = s.entries k) :
    RecordAt decode s' k a := by
  obtain ⟨g, x, fields, hk, hf, hd⟩ := h
  exact ⟨g, x, fields, hs.trans hk, hf, hd⟩

/-- The store holds the session. -/
abbrev SessionAt (s : State) (lookup : String) (state : CommonSession) : Prop :=
  RecordAt decodeSession s (Key.session lookup) state

/-- The store holds the handoff. -/
abbrev HandoffAt (s : State) (lookup : String) (record : AuthenticationHandoff) : Prop :=
  RecordAt decodeHandoff s (Key.handoff lookup) record

/-- The store holds the external transaction. -/
abbrev ExternalAt (s : State) (lookup : String) (tx : ExternalAuthTransaction) : Prop :=
  RecordAt decodeExternal s (Key.external lookup) tx

/-- The store holds the logout transaction. -/
abbrev LogoutAt (s : State) (lookup : String) (tx : CommonLogoutTransaction) : Prop :=
  RecordAt decodeLogout s (Key.logout lookup) tx

theorem sessionAt_record {lookup : String} {state : CommonSession}
    (h : s.entries (Key.session lookup) = some ⟨.hash (recordHash (encodeSession state)), x⟩) :
    SessionAt s lookup state :=
  recordAt_of (encodeSession_nodup state) (fun _ => decodeSession_encode) h

theorem handoffAt_record {lookup : String} {record : AuthenticationHandoff}
    (hl : isLookup record.commonSessionLookup = true)
    (h : s.entries (Key.handoff lookup) = some ⟨.hash (recordHash (encodeHandoff record)), x⟩) :
    HandoffAt s lookup record :=
  recordAt_of (encodeHandoff_nodup record) (fun _ hf => decodeHandoff_encode hf hl) h

theorem logoutAt_record {lookup : String} {tx : CommonLogoutTransaction}
    (hl : isLookup tx.csrfLookup = true)
    (h : s.entries (Key.logout lookup) = some ⟨.hash (recordHash (encodeLogout tx)), x⟩) :
    LogoutAt s lookup tx :=
  recordAt_of (encodeLogout_nodup tx) (fun _ hf => decodeLogout_encode hf hl) h

end Decoded

section Service

variable [Crates] {googleConfig : GoogleAuthorizationConfig} {w : World}
  {services : String → Option RegisteredService} {tr : List ServiceLabel} {s : ServicePool}
  {α : Type} {F : Family α} {k : Bytes} {a : α} {e : Event}

/-! ## Creations -/

/-- The step that created a record, and the run before it. -/
structure Creation (googleConfig : GoogleAuthorizationConfig) (w : World) (F : Family α) (k : Bytes)
    (a : α) (tr₁ : List ServiceLabel) (t : ServicePool) (i : ℕ) (q : Request) (x : Sent)
    (r : Reply (.redis x.command)) (s' : State) : Prop where
  run : ServiceRun googleConfig w tr₁ t
  creates : F.creates x = some (k, a)
  lawful : x.Lawful q.references (history i tr₁)
  committed : Committed (.command x.command r)
  step : RedisStep t.world.redis (.command x.command r) s'

theorem ServiceRun.creator (h : ServiceRun googleConfig w tr s) (he : e ∈ events tr)
    (hc : F.Creates k a e) : ∃ tr₁ tr₂ t i q x r s', tr = tr₁ ++ Label.sent i q x r :: tr₂ ∧
      Creation googleConfig w F k a tr₁ t i q x r s' := by
  obtain ⟨x, r, rfl, hx, hcm⟩ := hc
  obtain ⟨l, hl, hle⟩ := List.mem_filterMap.mp he
  obtain ⟨i, q, rfl⟩ := redisEvent_command hle
  obtain ⟨tr₁, tr₂, t, t', e, h₁, -, hs⟩ := h.atStep hl
  exact ⟨tr₁, tr₂, t, i, q, x, r, t'.world.redis, e, h₁, hx, h.sent e, hcm, hs⟩

theorem Creation.script {tr₁ : List ServiceLabel} {t : ServicePool} {i : ℕ} {q : Request} {x : Sent}
    {r : Reply (.redis x.command)} {s' : State}
    (h : Creation googleConfig w F k a tr₁ t i q x r s') :
    x.command.script ScriptName.source t.world.redis = (r, s') :=
  h.committed.script h.step

/-- The event of a creation. -/
theorem Creation.mem {tr₁ tr₂ : List ServiceLabel} {t : ServicePool} {i : ℕ} {q : Request}
    {x : Sent} {r : Reply (.redis x.command)} {s' : State}
    (h : Creation googleConfig w F k a tr₁ t i q x r s') {β : Type} {G : Family β} {k' : Bytes}
    {b : β} (hb : G.creates x = some (k', b)) :
    ∃ e ∈ events (tr₁ ++ Label.sent i q x r :: tr₂), G.Creates k' b e :=
  ⟨.command x.command r, mem_events (i := i) (q := q) (by simp), x, r, rfl, hb, h.committed⟩

/-- What is known about a key in a run from the empty stores. -/
theorem ServiceRun.knows (h : ServiceRun googleConfig (World.empty services) tr s)
    (hF : F.Sound k) (hd : F.Disciplined k (events tr)) :
    ∃ p, F.Knows k (events tr) s.world.redis p :=
  hF.run_empty (Run.redis h) hd

/-! ## Sessions -/

/-- A session that was created fits in the numbers of the scripts. -/
theorem ServiceRun.session_created (h : ServiceRun googleConfig w tr s) {a : CommonSession}
    (he : e ∈ events tr) (hc : AuthFoundation.sessions.Creates k a e) :
    sessionValid (recordHash (encodeSession a)) = true := by
  obtain ⟨tr₁, tr₂, t, i, q, x, r, s', -, hcr⟩ := h.creator he hc
  cases x with
  | create session state handoff record =>
    cases hcr.creates
    obtain ⟨reply, -, hi⟩ := create_committed hcr.script hcr.committed
    have ht := hi.times
    rw [sessionValid_record, ← hi.authenticated]
    exact ⟨ht.1, ht.2.2.2⟩
  | _ => cases hcr.creates

/-- **What a key of the sessions holds.** -/
theorem ServiceRun.session_stored (h : ServiceRun googleConfig (World.empty services) tr s)
    (hfresh : FreshReferences tr) (hk : family k = 115) {y : Entry}
    (hy : s.world.redis.entries k = some y) :
    ∃ a, AuthFoundation.sessions.Stored k (events tr) y a a ∧
      sessionValid (recordHash (encodeSession a)) = true := by
  obtain ⟨p, hp⟩ := h.knows (sessions_sound hk) (h.sessions hfresh)
  obtain ⟨a, b, hst⟩ := hp.stored hy
  obtain rfl : b = a := hst.marked.elim id id
  obtain ⟨e, he, hc⟩ := hst.created
  exact ⟨b, hst, h.session_created he hc⟩

/-! ## Handoffs -/

/-- **A handoff that was created** fits in the numbers of the scripts, and carries the user and the
time of the session it was created from. -/
theorem ServiceRun.handoff_created (h : ServiceRun googleConfig (World.empty services) tr s)
    (hfresh : FreshReferences tr) {a : AuthenticationHandoff} (he : e ∈ events tr)
    (hc : AuthFoundation.handoffs.Creates k a e) :
    handoffValid (recordHash (encodeHandoff a)) = true ∧ a.status = .unused ∧
      ∃ b, (∃ e' ∈ events tr,
          AuthFoundation.sessions.Creates (Key.session a.commonSessionLookup) b e') ∧
        a.internalUserId = b.internalUserId ∧ a.authenticatedAt = b.authenticatedAt := by
  obtain ⟨tr₁, tr₂, t, i, q, x, r, s', rfl, hcr⟩ := h.creator he hc
  have hl := hcr.lawful
  cases x with
  | create session state handoff record =>
    cases hcr.creates
    obtain ⟨reply, -, hi⟩ := create_committed hcr.script hcr.committed
    have ht := hi.times
    refine ⟨?_, hi.status, state, ?_, hi.user, hi.authenticated⟩
    · obtain ⟨⟨bytes, -, hd⟩, -⟩ := hl
      rw [handoffValid_record, hi.lookup, hd]
      exact ⟨isLookup_referenceValueLookup _, ht.1, ht.2.1, ht.2.2.1⟩
    · rw [hi.lookup]
      exact hcr.mem rfl
  | issue session handoff record =>
    cases hcr.creates
    obtain ⟨reply, -, g, y, hi⟩ := issue_committed hcr.script hcr.committed
    obtain ⟨b, hst, hv⟩ := hcr.run.session_stored hfresh.prefix family_session hi.entry
    cases hst.object
    have hu : num (hget (recordHash (encodeSession b)) "internal_user_id") = _ := hi.user
    have ha : num (hget (recordHash (encodeSession b)) "authenticated_at") = _ := hi.authenticated
    rw [session_field] at hu ha
    have hb := (sessionValid_record b).mp hv
    refine ⟨?_, hi.status, b, ?_, ?_, ?_⟩
    · obtain ⟨⟨reference, -, hd⟩, -⟩ := hl
      rw [handoffValid_record, hi.lookup, hd]
      exact ⟨isLookup_referenceValueLookup _, hi.times⟩
    · obtain ⟨e', he', hc'⟩ := hst.created
      rw [hi.lookup, events_append]
      exact ⟨e', List.mem_append_left _ he', hc'⟩
    · exact Int32.toInt_inj.mp (hu.symm.trans (num_i32 _))
    · have := ha.symm.trans (num_u64 hb.1)
      exact UInt64.toNat_inj.mp (Int.ofNat_inj.mp this)
  | _ => cases hcr.creates

omit [Crates] in
/-- Only the status of a stored handoff changes. -/
theorem handoff_marked {y : Entry} {E : List Event} {a b : AuthenticationHandoff}
    (h : AuthFoundation.handoffs.Stored k E y a b) : { b with status := a.status } = a := by
  obtain rfl | rfl := h.marked
  · rfl
  · rfl

/-- **What a key of the handoffs holds**, and how it agrees with its session. -/
theorem ServiceRun.handoff_stored (h : ServiceRun googleConfig (World.empty services) tr s)
    (hfresh : FreshReferences tr) (hk : family k = 104) {y : Entry}
    (hy : s.world.redis.entries k = some y) :
    ∃ a b, AuthFoundation.handoffs.Stored k (events tr) y a b ∧
      handoffValid (recordHash (encodeHandoff b)) = true ∧
      ∀ z c, s.world.redis.entries (Key.session b.commonSessionLookup) = some z →
        z.object = .hash (recordHash (encodeSession c)) →
        b.internalUserId = c.internalUserId ∧ b.authenticatedAt = c.authenticatedAt := by
  obtain ⟨p, hp⟩ := h.knows (handoffs_sound hk) (h.handoffs hfresh)
  obtain ⟨a, b, hst⟩ := hp.stored hy
  obtain ⟨e, he, hc⟩ := hst.created
  obtain ⟨hv, -, c, ⟨e₁, he₁, hc₁⟩, hu, ha⟩ := h.handoff_created hfresh he hc
  have hab := handoff_marked hst
  rw [← hab] at hv hu ha hc₁
  have hv := (handoffValid_record _).mp hv
  refine ⟨a, b, hst, (handoffValid_record b).mpr hv, fun z c' hz hzc => ?_⟩
  obtain ⟨c'', hst', -⟩ := h.session_stored hfresh family_session hz
  obtain ⟨e₂, he₂, hc₂⟩ := hst'.created
  obtain rfl := (h.sessions hfresh).creates_eq he₂ he₁ hc₂ hc₁
  obtain rfl := recordHash_encodeSession_inj (Object.hash.inj (hzc.symm.trans hst'.object))
  exact ⟨hu, ha⟩

/-- **What an exchange answers** is what its handoff was created with. -/
theorem ServiceRun.exchanged (h : ServiceRun googleConfig (World.empty services) tr s)
    (hfresh : FreshReferences tr) {handoff serviceId challenge session : String}
    {reply : List Value} {v : HandoffExchangeResult} {s' : State}
    (hs : RedisStep s.world.redis (.command (Sent.exchange handoff serviceId challenge
      session).command (.ok reply)) s') (hv : exchangeReply reply = .ok v) :
    ∃ a : AuthenticationHandoff,
      (∃ e ∈ events tr, AuthFoundation.handoffs.Creates (Key.handoff handoff) a e) ∧
      a.serviceId = serviceId ∧ a.codeChallenge = challenge ∧
      a.internalUserId = v.internalUserId ∧ a.authenticatedAt = v.authenticatedAt := by
  obtain ⟨u, n, rfl, rfl⟩ := exchangeReply_ok hv
  have hc : Committed (.command (Sent.exchange handoff serviceId challenge session).command
      (.ok [.int 0, .int u, .int n])) := trivial
  obtain ⟨_, hr, g, y, g', y', hcm⟩ := exchange_committed (hc.script hs) hc
  cases hr
  obtain ⟨p, hp⟩ := h.knows (handoffs_sound family_handoff)
    (h.handoffs hfresh (k := Key.handoff handoff))
  obtain ⟨a, rfl, -⟩ := hcm.holds hp.1
  obtain ⟨⟨z, hz, -⟩, hcreated⟩ := hp
  cases hcm.entry.symm.trans hz
  obtain ⟨a', hst, -⟩ := h.session_stored hfresh family_session hcm.session
  cases hst.object
  obtain ⟨-, hservice, hchallenge, -, -, -, -, -, hreply⟩ := hcm.records
  simp only [List.cons.injEq, Value.int.injEq, true_and, and_true] at hreply
  obtain ⟨rfl, rfl⟩ := hreply
  exact ⟨a, hcreated, hservice, hchallenge, by simp, by simp⟩

/-- **An exchange that answers 200** is one of a handoff that was created for its service, with the
challenge of its verifier, and with what it answers. -/
theorem ServiceRun.exchange_answered (h : ServiceRun googleConfig (World.empty services) tr s)
    (hfresh : FreshReferences tr) {i : ℕ} {request : HttpRequest} {body : HandoffExchangeRequest}
    {u : Int32} {n : UInt64} (hi : s.threads i = some ⟨.exchangeAuthHandoff request body,
      .done ⟨200, none, [], .handoffExchangeResponse u n⟩⟩) :
    ∃ serviceId secret challenge, ∃ a : AuthenticationHandoff,
      basicCredentials request = some (serviceId, secret) ∧
      pkceS256Challenge body.codeVerifier = .ok challenge ∧
      (∃ e ∈ events tr,
        AuthFoundation.handoffs.Creates (Key.handoff (referenceValueLookup body.code)) a e) ∧
      a.serviceId = serviceId ∧ a.codeChallenge = challenge ∧ a.internalUserId = u ∧
      a.authenticatedAt = n := by
  have hans := h.answered hi
  generalize hr : (⟨200, none, [], .handoffExchangeResponse u n⟩ : HttpResponse) = response at hans
  cases hans with
  | refused => cases hr
  | @success serviceId secret challenge lookup reply v hb hc _ ho hv =>
    cases hr
    obtain ⟨q, hl⟩ := Interleave.mem_history.mp ho
    obtain ⟨tr₁, tr₂, t, t', rfl, h₁, -, hstep⟩ := h.atStep hl
    obtain ⟨a, ⟨e, he, hcr⟩, hservice, hchallenge, hu, ha⟩ :=
      ServiceRun.exchanged h₁ hfresh.prefix hstep hv
    refine ⟨serviceId, secret, challenge, a, hb, hc, ⟨e, ?_, hcr⟩, hservice, hchallenge, hu, ha⟩
    rw [events_append]
    exact List.mem_append_left _ he

end Service

end AuthFoundation
