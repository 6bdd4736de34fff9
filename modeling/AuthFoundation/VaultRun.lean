import AuthFoundation.ExchangeCalls
import AuthFoundation.Expiry
import AuthFoundation.Refinement

set_option autoImplicit false

/-!
# Runs of the service as runs of a vault

* `ClocksBounded`: the times of a run fit in the numbers of the scripts.
* `ServiceRun.wellStored`, `ServiceRun.ready`: what Redis holds in a run, and what each command
  finds.
-/

namespace AuthFoundation

open Text Redis Token Interleave

/-! ## Keys -/

/-- The keys a command may change belong to records. -/
theorem Sent.touched_key {x : Sent} {k : Bytes} (h : k ∈ x.touched) :
    ∃ (f : RecordKind) (l : String), k = f.key l := by
  have hmem : ∀ {l : List Bytes}, (∀ k' ∈ l, ∃ (f : RecordKind) (l : String), k' = f.key l) →
      k ∈ l → ∃ (f : RecordKind) (l : String), k = f.key l := fun hl hk => hl k hk
  revert h
  refine hmem ?_
  cases x <;> simp only [touched, List.forall_mem_cons, List.not_mem_nil, false_imp_iff,
    implies_true, and_true]
  case writeExternal l _ => exact ⟨.external, l, rfl⟩
  case expireExternal l _ => exact ⟨.external, l, rfl⟩
  case writeLogout l _ => exact ⟨.logout, l, rfl⟩
  case expireLogout l _ => exact ⟨.logout, l, rfl⟩
  case dropSession l => exact ⟨.session, l, rfl⟩
  case claim l => exact ⟨.external, l, rfl⟩
  case issue l l' _ => exact ⟨⟨.session, l, rfl⟩, .handoff, l', rfl⟩
  case create l _ l' _ => exact ⟨⟨.session, l, rfl⟩, .handoff, l', rfl⟩
  case exchange l _ _ l' => exact ⟨⟨.handoff, l, rfl⟩, .session, l', rfl⟩
  case logout l l' _ => exact ⟨⟨.logout, l, rfl⟩, .session, l', rfl⟩

/-- One event stores nothing at other keys. -/
theorem keys_step {s s' : State} {e : Event} {k : Bytes} {y : Entry} (hs : RedisStep s e s')
    (ht : Typed e) (hy : s'.entries k = some y) :
    (∃ y', s.entries k = some y') ∨ ∃ (f : RecordKind) (l : String), k = f.key l := by
  cases hs with
  | command hr =>
    obtain ⟨x, rfl⟩ := ht _ _ rfl
    by_cases hk : k ∈ x.touched
    · exact .inr (Sent.touched_key hk)
    · exact .inl ⟨y, (Sent.frame hr hk).symm.trans hy⟩
  | fail => exact .inl ⟨y, hy⟩
  | tick => exact .inl ⟨y, hy⟩
  | @expire k' y' t he ht' hle =>
    by_cases hk : k = k'
    · subst hk
      rw [del_entries_self] at hy
      cases hy
    · exact .inl ⟨y, (del_entries_of_ne _ hk).symm.trans hy⟩

theorem keys_run {E : List Event} {s : State} (hr : RedisRun .empty E s) (ht : ∀ e ∈ E, Typed e) :
    ∀ k y, s.entries k = some y → ∃ (f : RecordKind) (l : String), k = f.key l := by
  induction hr with
  | nil =>
    intro k y hy
    cases hy
  | @snoc E t u e hr hs ih =>
    intro k y hy
    obtain ⟨y', hy'⟩ | hk := keys_step hs (ht e (by simp)) hy
    · exact ih (fun e he => ht e (List.mem_append_left _ he)) k y' hy'
    · exact hk

/-! ## Bounded clocks -/

/-- **Bounded clocks**: what the service reads on its clock, and the expiries it computes, fit in
the numbers of the scripts. -/
def ClocksBounded (tr : List ServiceLabel) : Prop :=
  ∀ i now, Clock (history i tr) now → now.toNat + 28800 < 2 ^ 53

theorem ClocksBounded.prefix {tr₁ tr₂ : List ServiceLabel} (h : ClocksBounded (tr₁ ++ tr₂)) :
    ClocksBounded tr₁ := fun i now hn => h i now (by
  rw [history_append]
  exact hn.append _)

/-- What the service reads in the step fits. -/
def clockFits : ServiceLabel → Bool
  | .op _ _ .systemTimeNow t => (unixSeconds t).toOption.all fun now => now.toNat + 28800 < 2 ^ 53
  | _ => true

theorem clocksBounded_of_fits {tr : List ServiceLabel} (h : ∀ l ∈ tr, clockFits l = true) :
    ClocksBounded tr := by
  rintro i now ⟨t, ho, ht⟩
  obtain ⟨q, hl⟩ := Interleave.mem_history.mp ho
  have hf : (unixSeconds t).toOption.all (fun now => now.toNat + 28800 < 2 ^ 53) = true := h _ hl
  rw [ht, Except.toOption, Option.all_some] at hf
  exact of_decide_eq_true hf

section Service

variable [Crates] {googleConfig : GoogleAuthorizationConfig} {w : World}
  {services : String → Option RegisteredService} {tr tr₁ tr₂ : List ServiceLabel}
  {s t : ServicePool} {i : ℕ} {q : Request} {α : Type} {F : Family α} {k : Bytes} {l : String}

/-! ## What Redis holds -/

theorem ServiceRun.events_typed {w : World} (h : ServiceRun googleConfig w tr s) :
    ∀ e ∈ events tr, Typed e := by
  intro e he c r hc
  subst hc
  obtain ⟨lb, hl, hle⟩ := List.mem_filterMap.mp he
  obtain ⟨i, q, rfl⟩ := redisEvent_command hle
  obtain ⟨tr₁, tr₂, e⟩ := List.append_of_mem hl
  obtain ⟨x, hx, -⟩ := h.lawful e
  exact ⟨x, hx⟩

omit [Crates] in
theorem entry_of {f : RecordKind} {s : State} {y : Entry} {b : f.Record}
    (hy : s.entries (f.key l) = some y) (ho : y.object = .hash (recordHash (f.encode b))) :
    s.entries (f.key l) = some ⟨.hash (recordHash (f.encode b)), y.expireAt⟩ := by
  rw [hy, ← ho]

omit [Crates] in
theorem slot_of {f : RecordKind} {s : State} {y : Entry} {b : f.Record}
    (hy : s.entries (f.key l) = some y) (ho : y.object = .hash (recordHash (f.encode b)))
    (ha : f.Accepted b) (hx : y.expireAt = none ∨ y.expireAt = some (f.expiresAt b).toNat) :
    Slot s f l := .stored b y.expireAt (entry_of hy ho) ha hx

/-- **What a key of the external transactions holds.** -/
theorem ServiceRun.external_stored (h : ServiceRun googleConfig (World.empty services) tr s)
    (hfresh : FreshReferences tr) (hb : ClocksBounded tr) (hk : family k = 101) {y : Entry}
    (hy : s.world.redis.entries k = some y) :
    ∃ a b, AuthFoundation.externals.Stored k (events tr) y a b ∧
      externalValid (recordHash (encodeExternal b)) = true := by
  obtain ⟨p, hp⟩ := h.knows (externals_sound hk) (h.externals hfresh)
  obtain ⟨a, b, hst⟩ := hp.stored hy
  obtain ⟨e, he, hc⟩ := hst.created
  obtain ⟨tr₁, tr₂, t, i, q, x, r, s', rfl, hcr⟩ := h.creator he hc
  have hl := hcr.lawful
  cases x with
  | writeExternal l' tx =>
    obtain ⟨-, rfl⟩ := Prod.mk.inj (Option.some.inj hcr.creates)
    obtain ⟨-, hclock, hx, -⟩ := hl
    have hn := hb.prefix i _ hclock
    have hacc : externalValid (recordHash (encodeExternal tx)) = true :=
      (externalValid_record tx).mpr ⟨by omega, by omega⟩
    refine ⟨tx, b, hst, ?_⟩
    obtain rfl | rfl := hst.marked
    · exact hacc
    · exact (externalValid_record _).mpr ((externalValid_record tx).mp hacc)
  | _ => cases hcr.creates

/-- **What a key of the logout transactions holds.** -/
theorem ServiceRun.logout_stored (h : ServiceRun googleConfig (World.empty services) tr s)
    (hfresh : FreshReferences tr) (hb : ClocksBounded tr) (hk : family k = 108) {y : Entry}
    (hy : s.world.redis.entries k = some y) :
    ∃ a b, AuthFoundation.logouts.Stored k (events tr) y a b ∧
      logoutValid (recordHash (encodeLogout b)) = true := by
  obtain ⟨p, hp⟩ := h.knows (logouts_sound hk) (h.logouts hfresh)
  obtain ⟨a, b, hst⟩ := hp.stored hy
  obtain ⟨e, he, hc⟩ := hst.created
  obtain ⟨tr₁, tr₂, t, i, q, x, r, s', rfl, hcr⟩ := h.creator he hc
  have hl := hcr.lawful
  cases x with
  | writeLogout l' tx =>
    obtain ⟨-, rfl⟩ := Prod.mk.inj (Option.some.inj hcr.creates)
    obtain ⟨-, hclock, hx, -, hlookup, -⟩ := hl
    have hn := hb.prefix i _ hclock
    have hacc : logoutValid (recordHash (encodeLogout tx)) = true :=
      (logoutValid_record tx).mpr ⟨hlookup, by omega, by omega⟩
    refine ⟨tx, b, hst, ?_⟩
    obtain rfl | rfl := hst.marked
    · exact hacc
    · exact (logoutValid_record _).mpr ((logoutValid_record tx).mp hacc)
  | _ => cases hcr.creates

/-- The slot of a key, with the record that was created there. -/
theorem ServiceRun.slot (h : ServiceRun googleConfig (World.empty services) tr s)
    (hfresh : FreshReferences tr) (hb : ClocksBounded tr) (f : RecordKind) (l : String) :
    Slot s.world.redis f l := by
  cases hy : s.world.redis.entries (f.key l) with
  | none => exact .absent hy
  | some y =>
    cases f with
    | external =>
      obtain ⟨a, b, hst, hv⟩ := h.external_stored hfresh hb family_external hy
      obtain rfl | rfl := hst.marked
      · exact slot_of hy hst.object hv hst.expireAt
      · exact slot_of hy hst.object hv hst.expireAt
    | session =>
      obtain ⟨a, hst, hv⟩ := h.session_stored hfresh family_session hy
      exact slot_of hy hst.object hv hst.expireAt
    | handoff =>
      obtain ⟨a, b, hst, hv, -⟩ := h.handoff_stored hfresh family_handoff hy
      obtain rfl | rfl := hst.marked
      · exact slot_of hy hst.object hv hst.expireAt
      · exact slot_of hy hst.object hv hst.expireAt
    | logout =>
      obtain ⟨a, b, hst, hv⟩ := h.logout_stored hfresh hb family_logout hy
      obtain rfl | rfl := hst.marked
      · exact slot_of hy hst.object hv hst.expireAt
      · exact slot_of hy hst.object hv hst.expireAt

/-- **Redis holds well-formed records only**, in every run. -/
theorem ServiceRun.wellStored (h : ServiceRun googleConfig (World.empty services) tr s)
    (hfresh : FreshReferences tr) (hb : ClocksBounded tr) : WellStored s.world.redis where
  family := keys_run (Run.redis h) h.events_typed
  slot := h.slot hfresh hb
  agree l b c hbl hcl := by
    cases hy : s.world.redis.entries (Key.handoff l) with
    | none => cases hbl.symm.trans (recordOf_none (f := .handoff) hy)
    | some y =>
    cases hz : s.world.redis.entries (Key.session b.commonSessionLookup) with
    | none => cases hcl.symm.trans (recordOf_none (f := .session) hz)
    | some z =>
    obtain ⟨a, b', hst, hv, hagree⟩ := h.handoff_stored hfresh family_handoff hy
    obtain ⟨c', hst', hv'⟩ := h.session_stored hfresh family_session hz
    have hb' : recordOf s.world.redis .handoff l = some b' :=
      recordOf_stored (RecordKind.Accepted.named (f := .handoff) hv) (entry_of hy hst.object)
    have hc' : recordOf s.world.redis .session b.commonSessionLookup = some c' :=
      recordOf_stored rfl (entry_of hz hst'.object)
    obtain rfl := Option.some.inj (hbl.symm.trans hb')
    obtain rfl := Option.some.inj (hcl.symm.trans hc')
    exact hagree z c hz hst'.object

/-! ## What a command finds -/

section Next

variable {x : Sent} {r : Reply (.redis x.command)}

/-- A key that is about to be created is absent. -/
theorem ServiceRun.absent (h : ServiceRun googleConfig (World.empty services) tr s)
    (hF : F.Sound k) (hd : F.Disciplined k (events (tr ++ [Label.sent i q x r]))) {a : α}
    (hx : F.creates x = some (k, a)) : s.world.redis.entries k = none := by
  rw [events_append] at hd
  obtain ⟨p, hp⟩ := h.knows hF hd.prefix
  by_cases hu : p = .unborn
  · subst hu
    exact hp.1
  · obtain ⟨e, he, hatt⟩ := hp.attempt hu
    obtain ⟨E₁, E₂, hE⟩ := List.append_of_mem he
    rw [hE] at hd
    exact absurd ⟨x, r, a, rfl, hx⟩ (hd.once E₁ e E₂ _ [] rfl hatt)

omit [Crates] in
/-- An expiry that is about to be set is the one of the record. -/
theorem expiry_linked (hd : F.Disciplined k (events (tr ++ [Label.sent i q x r]))) {n : UInt64}
    (hx : F.expires x = some (k, n)) {y : Entry} {a b : α} (hst : F.Stored k (events tr) y a b) :
    n = F.expiresAt a := by
  rw [events_append] at hd
  obtain ⟨e, he, hc⟩ := hst.created
  exact hd.linked (events tr) _ [] rfl e he a hc x r n rfl hx

/-- A command of a thread was justified when it was sent. -/
theorem ServiceRun.observed_sent (h : ServiceRun googleConfig w tr s) {y : Sent}
    {v : Reply (.redis y.command)} (ho : Observed (history i tr) (.redis y.command) v) :
    ∃ tr₁ tr₂ q, tr = tr₁ ++ Label.sent i q y v :: tr₂ ∧ y.Lawful q.references (history i tr₁) := by
  obtain ⟨q, hl⟩ := Interleave.mem_history.mp ho
  obtain ⟨tr₁, tr₂, e⟩ := List.append_of_mem hl
  exact ⟨tr₁, tr₂, q, e, h.sent e⟩

/-- A handoff keeps the lookup it was created with. -/
theorem ServiceRun.handoff_lookup (h : ServiceRun googleConfig (World.empty services) tr s)
    (hfresh : FreshReferences tr) {record : AuthenticationHandoff}
    (hr : recordOf s.world.redis .handoff l = some record) :
    ∃ a, (∃ e ∈ events tr, AuthFoundation.handoffs.Creates (Key.handoff l) a e) ∧
      record.commonSessionLookup = a.commonSessionLookup := by
  cases hy : s.world.redis.entries (Key.handoff l) with
  | none => cases hr.symm.trans (recordOf_none (f := .handoff) hy)
  | some y =>
    obtain ⟨a, b, hst, hv, -⟩ := h.handoff_stored hfresh family_handoff hy
    obtain rfl := Option.some.inj (hr.symm.trans
      (recordOf_stored (RecordKind.Accepted.named (f := .handoff) hv) (entry_of hy hst.object)))
    refine ⟨a, hst.created, ?_⟩
    obtain rfl | rfl := hst.marked <;> rfl

omit [Crates] in
/-- A lookup that was read is the one in the handoff. -/
theorem lookup_read {handoff session : String} {s s' : State}
    {v : Reply (.redis (Sent.readHandoffLookup handoff).command)} (h : Slot s .handoff handoff)
    (hs : RedisStep s (.command (Sent.readHandoffLookup handoff).command v) s')
    (hv : lookupReply v = .ok session) :
    ∃ b, recordOf s .handoff handoff = some b ∧ b.commonSessionLookup = session := by
  cases hs with
  | fail => cases hv
  | command hr =>
    obtain ⟨hreply, -⟩ := readHandoffLookup_run h hr
    rw [hv] at hreply
    cases hb : recordOf s .handoff handoff with
    | none =>
      rw [show (vaultOf s).records .handoff handoff = none from hb] at hreply
      cases hreply
    | some b =>
      rw [show (vaultOf s).records .handoff handoff = some b from hb] at hreply
      exact ⟨b, rfl, Except.ok.inj hreply⟩

/-- The lookup an exchange names is the one in the stored handoff. -/
theorem ServiceRun.exchange_ready {handoff serviceId challenge session : String}
    {r : Reply (.redis (Sent.exchange handoff serviceId challenge session).command)}
    (h : ServiceRun googleConfig (World.empty services) tr s)
    (hs : ServiceStep googleConfig s
      (Label.sent i q (.exchange handoff serviceId challenge session) r) t)
    (hfresh : FreshReferences tr) (hb : ClocksBounded tr) :
    Ready s.world.redis (.exchange handoff serviceId challenge session) := by
  intro b hbl
  obtain ⟨v, ho, hv⟩ := (h.snoc hs).sat_op (Request.preRead googleConfig) rfl handoff serviceId
    challenge session rfl
  obtain ⟨q', hl⟩ := Interleave.mem_history.mp ho
  obtain ⟨tr₁, tr₂, rfl⟩ := List.append_of_mem hl
  obtain ⟨u, u', h₁, hs', -⟩ := h.split_step
  obtain ⟨b₀, hb₀, rfl⟩ := lookup_read (ServiceRun.slot h₁ hfresh.prefix hb.prefix .handoff handoff)
    (Step.redis hs') hv
  -- the handoff that was read is the one that is stored now
  obtain ⟨a₀, ⟨e₀, he₀, hc₀⟩, h₀⟩ := ServiceRun.handoff_lookup h₁ hfresh.prefix hb₀
  obtain ⟨a, ⟨e, he, hc⟩, h₁⟩ := h.handoff_lookup hfresh hbl
  have he₀' : e₀ ∈ events (tr₁ ++ Label.sent i q' (.readHandoffLookup handoff) v :: tr₂) := by
    rw [events_append]
    exact List.mem_append_left _ he₀
  rw [h₀, h₁, (h.handoffs hfresh).creates_eq he₀' he hc₀ hc]

/-- **What the next command of a run finds.** -/
theorem ServiceRun.ready (h : ServiceRun googleConfig (World.empty services) tr s)
    (hs : ServiceStep googleConfig s (Label.sent i q x r) t)
    (hfresh : FreshReferences (tr ++ [Label.sent i q x r]))
    (hb : ClocksBounded (tr ++ [Label.sent i q x r])) : Ready s.world.redis x := by
  have h' := h.snoc hs
  have hf := hfresh.prefix
  have hl := ServiceRun.sent h' rfl
  cases x with
  | writeExternal l tx =>
    obtain ⟨-, hclock, hx, -⟩ := hl
    have hn := hb.prefix i _ hclock
    refine ⟨h.absent (externals_sound family_external) (ServiceRun.externals h' hfresh) rfl, ?_⟩
    exact (externalValid_record tx).mpr ⟨by omega, by omega⟩
  | writeLogout l tx =>
    obtain ⟨-, hclock, hx, -, hlookup, -⟩ := hl
    have hn := hb.prefix i _ hclock
    refine ⟨h.absent (logouts_sound family_logout) (ServiceRun.logouts h' hfresh) rfl, ?_⟩
    exact (logoutValid_record tx).mpr ⟨hlookup, by omega, by omega⟩
  | expireExternal l n =>
    refine ⟨?_, fun tx htx => ?_⟩
    · obtain ⟨tx, v, ho, rfl⟩ := hl
      obtain ⟨tr₁, tr₂, q', rfl, -, hclock, hx, -⟩ := h.observed_sent ho
      have hn := hb.prefix.prefix i _ hclock
      omega
    · cases hy : s.world.redis.entries (Key.external l) with
      | none => cases htx.symm.trans (recordOf_none (f := .external) hy)
      | some y =>
        obtain ⟨a, b, hst, hv⟩ := h.external_stored hf hb.prefix family_external hy
        obtain rfl := Option.some.inj (htx.symm.trans (recordOf_stored
          (RecordKind.Accepted.named (f := .external) hv) (entry_of hy hst.object)))
        rw [expiry_linked (ServiceRun.externals h' hfresh) rfl hst]
        obtain rfl | rfl := hst.marked <;> rfl
  | expireLogout l n =>
    refine ⟨?_, fun tx htx => ?_⟩
    · obtain ⟨tx, v, ho, rfl⟩ := hl
      obtain ⟨tr₁, tr₂, q', rfl, -, hclock, hx, -⟩ := h.observed_sent ho
      have hn := hb.prefix.prefix i _ hclock
      omega
    · cases hy : s.world.redis.entries (Key.logout l) with
      | none => cases htx.symm.trans (recordOf_none (f := .logout) hy)
      | some y =>
        obtain ⟨a, b, hst, hv⟩ := h.logout_stored hf hb.prefix family_logout hy
        obtain rfl := Option.some.inj (htx.symm.trans
          (recordOf_stored (RecordKind.Accepted.named (f := .logout) hv) (entry_of hy hst.object)))
        rw [expiry_linked (ServiceRun.logouts h' hfresh) rfl hst]
        obtain rfl | rfl := hst.marked <;> rfl
  | issue session handoff record =>
    obtain ⟨⟨reference, -, hname⟩, -, hlookup, hclock, hx, hst, ⟨state, hread, hu, ha⟩, -⟩ := hl
    refine ⟨h.absent (handoffs_sound family_handoff) (ServiceRun.handoffs h' hfresh) rfl, hlookup,
      hst, fun c hc => ?_⟩
    cases h.slot hf hb.prefix .session session with
    | absent he => cases hc.symm.trans (recordOf_none he)
    | stored c' z he hacc hz =>
      obtain rfl := Option.some.inj (hc.symm.trans (recordOf_stored hacc.named he))
      obtain rfl := h.read hf hread (h.sessionAt hf (sessionAt_record he))
      have hn := hb.prefix i _ hclock
      refine ⟨(handoffValid_record record).mpr ⟨?_, ?_, by omega, by omega⟩, hu, ha⟩
      · rw [hlookup, hname]
        exact isLookup_referenceValueLookup _
      · rw [ha]
        exact ((sessionValid_record state).mp hacc).1
  | create session state handoff record =>
    obtain ⟨⟨bytes, -, hname⟩, -, hlookup, hclock, hsa, hra, hri, hsx, hrx, hst, hu, -⟩ := hl
    have hn := hb.prefix i _ hclock
    refine ⟨h.absent (sessions_sound family_session) (ServiceRun.sessions h' hfresh) rfl,
      h.absent (handoffs_sound family_handoff) (ServiceRun.handoffs h' hfresh) rfl,
      (sessionValid_record state).mpr ⟨?_, by omega, by omega⟩,
      (handoffValid_record record).mpr ⟨?_, ?_, ?_, ?_⟩, hlookup, hst, hu, hra.trans hsa.symm⟩
    · rw [hsa]
      omega
    · rw [hlookup, hname]
      exact isLookup_referenceValueLookup _
    · rw [hra]
      omega
    · rw [hri]
      omega
    · rw [hri] at hrx
      omega
  | exchange handoff serviceId challenge session => exact h.exchange_ready hs hf hb.prefix
  | _ => trivial

end Next

/-! ## The refinement -/

section Refinement

variable {lb : ServiceLabel} {x : Sent} {r : Reply (.redis x.command)}

/-- An answered command of a run is the same command on the vault. -/
theorem ServiceRun.vault_exec (h : ServiceRun googleConfig (World.empty services) tr s)
    (hs : ServiceStep googleConfig s (Label.sent i q x r) t)
    (hfresh : FreshReferences (tr ++ [Label.sent i q x r]))
    (hb : ClocksBounded (tr ++ [Label.sent i q x r])) (hr : r ≠ .error .unavailable) :
    (vaultOf s.world.redis).exec x = (x.reads r, vaultOf t.world.redis) := by
  have hx := h.ready hs hfresh hb
  have hstep : RedisStep s.world.redis (.command x.command r) t.world.redis := Step.redis hs
  generalize t.world.redis = s' at hstep
  cases hstep with
  | command hc => exact (h.wellStored hfresh.prefix hb.prefix).exec hx hc
  | fail => exact absurd rfl hr

/-- A step of the service is a step of the vault, or leaves it. -/
theorem ServiceRun.vault_step (h : ServiceRun googleConfig (World.empty services) tr s)
    (hs : ServiceStep googleConfig s lb t) (hfresh : FreshReferences (tr ++ [lb]))
    (hb : ClocksBounded (tr ++ [lb])) {e : Event} (he : redisEvent lb = some e) :
    Vault.Step (vaultOf s.world.redis) e (vaultOf t.world.redis) := by
  have hstep := Step.redis hs
  rw [he] at hstep
  refine (h.wellStored hfresh.prefix hb.prefix).step hstep (ServiceRun.typed h hs he) ?_
  rintro x r rfl
  obtain ⟨i, q, rfl⟩ := redisEvent_command he
  exact h.ready hs hfresh hb

/-- A part of a run of the service is a run of the vault. -/
theorem ServiceRun.vault_run (h : ServiceRun googleConfig (World.empty services) tr s)
    (h₂ : Interleave.Run machine (Request.run googleConfig) s tr₂ t)
    (hfresh : FreshReferences (tr ++ tr₂)) (hb : ClocksBounded (tr ++ tr₂)) :
    Vault.Run (vaultOf s.world.redis) (events tr₂) (vaultOf t.world.redis) := by
  induction h₂ with
  | nil => exact .nil
  | @snoc tr₂ t u l hr hs ih =>
    rw [← List.append_assoc] at hfresh hb
    have hrun := ih hfresh.prefix hb.prefix
    rw [events_append]
    cases he : redisEvent l with
    | none =>
      have hl := Step.redis hs
      rw [he] at hl
      have hn : events [l] = [] := List.filterMap_cons_none he
      rw [hn, List.append_nil, hl]
      exact hrun
    | some e =>
      have hn : events [l] = [e] := List.filterMap_cons_some he
      rw [hn]
      exact hrun.snoc (ServiceRun.vault_step (h.append hr) hs hfresh hb he)

/-- **The service is a vault**: in every interleaving of requests, failures, ticks and physical
expiries, Redis holds the records of a vault, and every answered command returns what the vault
returns. No answered command finds a key in use or a record it cannot read, except for the lookup
of a handoff that is gone. -/
theorem vault_refinement (h : ServiceRun googleConfig (World.empty services) tr s)
    (hfresh : FreshReferences tr) (hb : ClocksBounded tr) :
    WellStored s.world.redis ∧ Vault.Run .empty (events tr) (vaultOf s.world.redis) ∧
      ∀ i q x (r : Reply (.redis x.command)), Label.sent i q x r ∈ tr → r ≠ .error .unavailable →
        AtStep googleConfig (World.empty services) tr (Label.sent i q x r) fun u u' =>
          (vaultOf u).exec x = (x.reads r, vaultOf u') ∧ ∀ e, x.reads r = .error e →
            e ≠ .redisFailure ∧ e ≠ .keyConflict ∧ (e = .invalidStoredState →
              ∃ handoff, x = .readHandoffLookup handoff ∧ recordOf u .handoff handoff = none) := by
  refine ⟨h.wellStored hfresh hb, ServiceRun.vault_run .nil h hfresh hb, fun i q x r hl hr => ?_⟩
  obtain ⟨tr₁, tr₂, rfl⟩ := List.append_of_mem hl
  obtain ⟨u, u', h₁, hs, -⟩ := h.split_step
  rw [List.append_cons] at hfresh hb
  have hexec := ServiceRun.vault_exec h₁ hs hfresh.prefix hb.prefix hr
  refine ⟨tr₁, tr₂, u, u', rfl, h₁, hs, hexec, fun e he => ?_⟩
  have hfst : ((vaultOf u.world.redis).exec x).1 = .error e := by rw [hexec, he]
  obtain ⟨hf, hk, hi⟩ := Vault.exec_error hfst
  exact ⟨hf, fun hc => (ServiceRun.ready h₁ hs hfresh.prefix hb.prefix).not_conflict (hk hc), hi⟩

omit [Crates] in
theorem vault_refinement_sample : letI := Crates.service
    ∃ tr s, ServiceRun ⟨"", ""⟩ (World.empty sampleServices) tr s ∧
      Vault.Run .empty (events tr) (vaultOf s.world.redis) ∧
      AtStep ⟨"", ""⟩ (World.empty sampleServices) tr sampleExchangeLabel fun u u' =>
        (vaultOf u).exec (.exchange (referenceValueLookup (referenceValue (bytes32 4))) "portal"
          sampleChallenge (referenceValueLookup (referenceValue (bytes32 2)))) =
            (.ok ⟨1, 100⟩, vaultOf u') := by
  let _ := Crates.service
  obtain ⟨tr, s, h, hfresh, hclocks, hl⟩ := exists_run_of_play machine (Request.run ⟨"", ""⟩)
    (Pool.init (World.empty sampleServices)) (firstLogin ++ secondLogin 150 ++ issueChoices ++
      exchangeEndpointChoices (referenceValue (bytes32 4)))
    (fun x => FreshReferences x.1 ∧ (∀ l ∈ x.1, clockFits l = true) ∧ sampleExchangeLabel ∈ x.1)
    (by decide +kernel)
  obtain ⟨-, hrun, hexec⟩ := vault_refinement h hfresh (clocksBounded_of_fits hclocks)
  exact ⟨tr, s, h, hrun, (hexec _ _ _ _ hl (by decide)).mono fun u u' hu => hu.1⟩

end Refinement

end Service

end AuthFoundation
