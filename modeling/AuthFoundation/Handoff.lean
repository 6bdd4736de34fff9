import AuthFoundation.Journal
import AuthFoundation.Stored

set_option autoImplicit false

/-!
# Calls of the record functions

Any number of calls of the functions on records run interleaved, one Redis command or script at a
time, from an empty store.

* `CallRun`, `CollisionFree`, `CreatedOnce`: the runs, and what is assumed of their references.
* **`handoff_single_use`**: a handoff is exchanged at most once, and stays used.
* **`exchange_provenance`**: an exchange answers with what the creation of the handoff recorded,
  while its session lives.
* **`logout_revokes`**: a logout ends its session and every handoff bound to it.
-/

namespace AuthFoundation

open Text Redis Token Interleave

/-- The references a call names. -/
def RedisCall.references : RedisCall → List String
  | writeExternal reference _ _ => [reference]
  | writeLogout reference _ _ => [reference]
  | readSession reference _ => [reference]
  | claimExternalCallback reference => [reference]
  | issueSsoHandoff session handoff _ => [session, handoff]
  | createSessionAndHandoff session _ handoff _ => [session, handoff]
  | exchangeHandoff handoff _ _ => [handoff]
  | completeCommonLogout reference session _ => [reference, session]

/-- The handoff a call creates, with its reference. -/
def RedisCall.handoff : RedisCall → Option (String × AuthenticationHandoff)
  | issueSsoHandoff _ handoff record => some (handoff, record)
  | createSessionAndHandoff _ _ handoff record => some (handoff, record)
  | _ => none

/-- The session a call creates, with its reference. -/
def RedisCall.session : RedisCall → Option (String × CommonSession)
  | createSessionAndHandoff session state _ _ => some (session, state)
  | _ => none

theorem RedisCall.handoff_mem {q : RedisCall} {r : String} {a : AuthenticationHandoff}
    (h : q.handoff = some (r, a)) : r ∈ q.references := by
  cases q with
  | issueSsoHandoff =>
    cases h
    simp [references]
  | createSessionAndHandoff =>
    cases h
    simp [references]
  | _ => cases h

section Calls

variable [Crates]

abbrev CallLabel := Label Reply Move RedisCall

abbrev CallPool := Pool World Reply fun q : RedisCall => Except RedisStateError q.Result

/-- **Interleaved calls** on an empty store. -/
abbrev CallRun (services : String → Option RegisteredService) : List CallLabel → CallPool → Prop :=
  Interleave.Run machine RedisCall.run (Pool.init (World.empty services))

/-- Distinct references in a run have distinct lookups. -/
abbrev CollisionFree (tr : List CallLabel) : Prop :=
  ∀ x ∈ starts tr, ∀ y ∈ starts tr, ∀ r ∈ x.2.references, ∀ r' ∈ y.2.references,
    referenceValueLookup r = referenceValueLookup r' → r = r'

/-- Each reference is passed at most once to a call that creates its record. -/
abbrev CreatedOnce {α : Type} (created : RedisCall → Option (String × α)) (tr : List CallLabel) :
    Prop :=
  ∀ x ∈ starts tr, ∀ y ∈ starts tr, ∀ c ∈ created x.2, ∀ c' ∈ created y.2, c.1 = c'.1 → x.1 = y.1

variable {services : String → Option RegisteredService} {tr tr₁ tr₂ tr₃ : List CallLabel}
  {s t : CallPool}

theorem CollisionFree.mono (hc : CollisionFree tr) (hs : tr₁ ⊆ tr) : CollisionFree tr₁ :=
  fun x hx y hy => hc x (starts_mono hs hx) y (starts_mono hs hy)

omit [Crates] in
theorem CreatedOnce.mono {α : Type} {created : RedisCall → Option (String × α)}
    (ho : CreatedOnce created tr) (hs : tr₁ ⊆ tr) : CreatedOnce created tr₁ :=
  fun x hx y hy => ho x (starts_mono hs hx) y (starts_mono hs hy)

/-- The command behind an operation of a run. -/
theorem CallRun.next (h : CallRun services tr s) {i : ℕ} {q : RedisCall} {o : Op} {r : Reply o}
    (e : tr = tr₁ ++ .op i q o r :: tr₂) :
    ∃ x : Sent, o = .redis x.command ∧ q.Next (history i tr₁) x :=
  h.sat_op RedisCall.sat e

/-- The call behind an operation of a run was started. -/
theorem CallRun.started (h : CallRun services tr s) {i : ℕ} {q : RedisCall} {o : Op} {r : Reply o}
    (hl : .op i q o r ∈ tr) : (i, q) ∈ starts tr := by
  have hf := h.follows i
  cases ht : s.threads i with
  | none =>
    rw [ht] at hf
    exact absurd rfl (hf _ hl)
  | some th =>
    rw [ht] at hf
    obtain ⟨-, hs, hq⟩ := hf
    cases hq _ hl rfl
    exact mem_starts.mpr hs

theorem CallRun.request_unique (h : CallRun services tr s) {i : ℕ} {q q' : RedisCall}
    (hq : (i, q) ∈ starts tr) (hq' : (i, q') ∈ starts tr) : q = q' := by
  rw [mem_starts] at hq hq'
  have hf := h.follows i
  cases ht : s.threads i with
  | none =>
    rw [ht] at hf
    exact absurd rfl (hf _ hq)
  | some th =>
    rw [ht] at hf
    exact Option.some.inj ((hf.2.2 _ hq rfl).trans (hf.2.2 _ hq' rfl).symm)

/-- The discipline of a family whose records are created by the first command of a call, which may
set their expiry later. -/
theorem CallRun.disciplined (h : CallRun services tr s) (hc : CollisionFree tr) {α : Type}
    {F : Family α} {k : Bytes} {created : RedisCall → Option (String × α)} (key : String → Bytes)
    (ho : CreatedOnce created tr) (hkey : Function.Injective key)
    (hexp : ∀ q H x t, RedisCall.Next H x q → F.expires x = some (k, t) →
      ∃ r ∈ q.references, ∃ a, created q = some (r, a) ∧ k = key (referenceValueLookup r) ∧
        t = F.expiresAt a)
    (hcr : ∀ q H x a, RedisCall.Next H x q → F.creates x = some (k, a) →
      H = [] ∧ ∃ r ∈ q.references, created q = some (r, a) ∧ k = key (referenceValueLookup r)) :
    F.Disciplined k (events tr) := by
  refine Family.disciplined (fun i q c r hl => ?_) ?_ ?_
  · obtain ⟨tr₁, tr₂, e⟩ := List.append_of_mem hl
    obtain ⟨x, hx, -⟩ := h.next e
    cases hx
    exact ⟨x, rfl⟩
  · intro tr₁ tr₂ tr₃ i q x r j q' x' r' a a' e hx hx'
    have e₁ : tr = tr₁ ++ Label.sent i q x r :: (tr₂ ++ Label.sent j q' x' r' :: tr₃) := by
      rw [e, List.append_assoc, List.cons_append]
    obtain ⟨y, hy, hn⟩ := h.next e₁
    obtain ⟨y', hy', hn'⟩ := h.next e
    obtain rfl : x = y := Sent.command_injective (Op.redis.inj hy)
    obtain rfl : x' = y' := Sent.command_injective (Op.redis.inj hy')
    obtain ⟨-, ref, hr, hq, hk⟩ := hcr _ _ _ _ hn hx
    obtain ⟨hH, ref', hr', hq', hk'⟩ := hcr _ _ _ _ hn' hx'
    have hi := h.started (i := i) (q := q) (o := .redis x.command) (r := r) (by simp [e])
    have hj := h.started (i := j) (q := q') (o := .redis x'.command) (r := r') (by simp [e])
    obtain rfl := hc _ hi _ hj ref hr ref' hr' (hkey (hk.symm.trans hk'))
    obtain rfl : i = j := ho _ hi _ hj _ hq _ hq' rfl
    -- the second command is not the first operation of its call
    have hm : (⟨.redis x.command, r⟩ : Σ o, Reply o) ∈
        history i (tr₁ ++ Label.sent i q x r :: tr₂) :=
      mem_history.mpr ⟨q, by simp⟩
    rw [hH] at hm
    cases hm
  · intro tr₁ tr₂ i q x r t e hx j q' x' r' a hl hx'
    obtain ⟨y, hy, hn⟩ := h.next e
    obtain rfl : x = y := Sent.command_injective (Op.redis.inj hy)
    obtain ⟨ref, hr, b, hq, hk, rfl⟩ := hexp _ _ _ _ hn hx
    obtain ⟨tr₃, tr₄, rfl⟩ := List.append_of_mem hl
    have e₁ : tr = tr₃ ++ Label.sent j q' x' r' :: (tr₄ ++ Label.sent i q x r :: tr₂) := by
      rw [e, List.append_assoc, List.cons_append]
    obtain ⟨y', hy', hn'⟩ := h.next e₁
    obtain rfl : x' = y' := Sent.command_injective (Op.redis.inj hy')
    obtain ⟨-, ref', hr', hq', hk'⟩ := hcr _ _ _ _ hn' hx'
    have hi := h.started (i := i) (q := q) (o := .redis x.command) (r := r) (by simp [e])
    have hj := h.started (i := j) (q := q') (o := .redis x'.command) (r := r') (by simp [e])
    -- both commands are of the one call that creates the record
    obtain rfl := hc _ hi _ hj ref hr ref' hr' (hkey (hk.symm.trans hk'))
    obtain rfl : i = j := ho _ hi _ hj _ hq _ hq' rfl
    obtain rfl := h.request_unique hi hj
    cases hq.symm.trans hq'
    rfl

theorem CallRun.handoffs (h : CallRun services tr s) (hc : CollisionFree tr)
    (ho : CreatedOnce RedisCall.handoff tr) (k : Bytes) :
    AuthFoundation.handoffs.Disciplined k (events tr) := by
  refine h.disciplined hc Key.handoff ho (fun _ _ => handoff_inj.mp) nofun ?_
  intro q H x a hn hx
  cases x with
  | issue session handoff record =>
    cases hx
    cases q with
    | issueSsoHandoff session handoff record =>
      obtain ⟨hH, ⟨⟩⟩ := hn
      exact ⟨hH, handoff, by simp [RedisCall.references], rfl, rfl⟩
    | _ => simp [RedisCall.Next] at hn
  | create session state handoff record =>
    cases hx
    cases q with
    | createSessionAndHandoff session state handoff record =>
      obtain ⟨hH, ⟨⟩⟩ := hn
      exact ⟨hH, handoff, by simp [RedisCall.references], rfl, rfl⟩
    | _ => simp [RedisCall.Next] at hn
  | _ => cases hx

theorem CallRun.sessions (h : CallRun services tr s) (hc : CollisionFree tr)
    (ho : CreatedOnce RedisCall.session tr) (k : Bytes) :
    AuthFoundation.sessions.Disciplined k (events tr) := by
  refine h.disciplined hc Key.session ho (fun _ _ => session_inj.mp) nofun ?_
  intro q H x a hn hx
  cases x with
  | create session state handoff record =>
    cases hx
    cases q with
    | createSessionAndHandoff session state handoff record =>
      obtain ⟨hH, ⟨⟩⟩ := hn
      exact ⟨hH, session, by simp [RedisCall.references], rfl, rfl⟩
    | _ => simp [RedisCall.Next] at hn
  | _ => cases hx

/-! ## Single use -/

/-- A stored field of a handoff. -/
def handoffField (s : State) (reference field : String) : Option Bytes :=
  match s.entries (handoffKey reference) with
  | some ⟨.hash h, _⟩ => hget h field
  | _ => none

/-- A call of `exchangeHandoff` that returned successfully ran its script with code 0. -/
theorem CallRun.exchanged (h : CallRun services tr s) {i : ℕ}
    {reference serviceId challenge : String} {v : HandoffExchangeResult}
    (hi : s.threads i = some ⟨.exchangeHandoff reference serviceId challenge, .done (.ok v)⟩) :
    ∃ lookup, ∃ u a : ℤ, v = ⟨Int32.ofInt u, UInt64.ofNat a.toNat⟩ ∧
      Label.sent i (.exchangeHandoff reference serviceId challenge)
        (.exchange (referenceValueLookup reference) serviceId challenge lookup)
        (.ok [.int 0, .int u, .int a]) ∈ tr := by
  obtain ⟨lookup, reply, hm, hv⟩ := h.sat_done RedisCall.sat hi v rfl
  obtain ⟨u, a, rfl, rfl⟩ := exchangeReply_ok hv
  obtain ⟨q, hl⟩ := mem_history.mp hm
  have hf := h.follows i
  rw [hi] at hf
  cases hf.2.2 _ hl rfl
  exact ⟨lookup, u, a, rfl, hl⟩

omit [Crates] in
theorem handoff_created {k : Bytes} {a : AuthenticationHandoff} {e : Event} {s s' : State}
    (hc : handoffs.Creates k a e) (hs : RedisStep s e s') :
    (∃ session handoff r reply g x, e = .command (Sent.issue session handoff a).command r ∧
      k = Key.handoff handoff ∧ r = .ok reply ∧ IssueCommit s session handoff a g x reply s') ∨
    ∃ session state handoff r reply,
      e = .command (Sent.create session state handoff a).command r ∧
      k = Key.handoff handoff ∧ r = .ok reply ∧
        CreateCommit s session state handoff a reply s' := by
  obtain ⟨x, r, rfl, hx, hcm⟩ := hc
  cases x with
  | issue session handoff record =>
    cases hx
    obtain ⟨reply, hr, g, x, h⟩ := issue_committed (hcm.script hs) hcm
    exact .inl ⟨session, handoff, r, reply, g, x, rfl, rfl, hr, h⟩
  | create session state handoff record =>
    cases hx
    obtain ⟨reply, hr, h⟩ := create_committed (hcm.script hs) hcm
    exact .inr ⟨session, state, handoff, r, reply, rfl, rfl, hr, h⟩
  | _ => cases hx

omit [Crates] in
/-- A handoff is created unused. -/
theorem handoff_unused {k : Bytes} {a : AuthenticationHandoff} {E : List Event} {s : State}
    (hr : RedisRun .empty E s) {e : Event} (he : e ∈ E) (hc : handoffs.Creates k a e) :
    a.status = .unused := by
  obtain ⟨E₁, E₂, rfl⟩ := List.append_of_mem he
  obtain ⟨t, t', -, hs, -⟩ := hr.split_step
  obtain ⟨_, _, _, _, _, _, -, -, -, h⟩ | ⟨_, _, _, _, _, -, -, -, h⟩ := handoff_created hc hs
  · exact h.status
  · exact h.status

theorem handoffField_of_entry {s : State} {reference : String} {g : Hash} {x : Option ℕ}
    (h : s.entries (handoffKey reference) = some ⟨.hash g, x⟩) (field : String) :
    handoffField s reference field = hget g field := by
  rw [handoffField, h]

theorem handoffField_of_none {s : State} {reference : String}
    (h : s.entries (handoffKey reference) = none) (field : String) :
    handoffField s reference field = none := by
  rw [handoffField, h]

/-- A stored status that is used stays used. -/
theorem CallRun.used (h₁ : CallRun services tr₁ t)
    (h₂ : Interleave.Run machine RedisCall.run t tr₂ s) (hc : CollisionFree (tr₁ ++ tr₂))
    (ho : CreatedOnce RedisCall.handoff (tr₁ ++ tr₂)) {reference : String}
    (hu : handoffField t.world.redis reference "status" = some (utf8 "used")) :
    handoffField s.world.redis reference "status" = some (utf8 "used") ∨
      s.world.redis.entries (handoffKey reference) = none := by
  have hd := CallRun.handoffs (h₁.append h₂) hc ho (handoffKey reference)
  rw [events_append] at hd
  have hF : AuthFoundation.handoffs.Sound (handoffKey reference) := handoffs_sound family_handoff
  obtain ⟨p, hp⟩ := hF.run_empty (Run.redis h₁) hd.prefix
  cases p with
  | unborn =>
    rw [handoffField_of_none hp.1] at hu
    cases hu
  | gone =>
    rw [handoffField_of_none hp.1] at hu
    cases hu
  | live a =>
    obtain ⟨⟨x, hx, -⟩, e, he, hcr⟩ := hp
    rw [handoffField_of_entry hx] at hu
    have ha := utf8_injective (Option.some.inj ((handoff_status a).symm.trans hu))
    rw [handoff_unused (Run.redis h₁) he hcr] at ha
    exact absurd ha (by decide)
  | used a =>
    obtain ⟨q, hq, hk⟩ := hF.run (Run.redis h₂) hd hp
    obtain rfl | rfl := reaches_used hq
    · obtain ⟨⟨x, hx, -⟩, -⟩ := hk
      rw [handoffField_of_entry hx]
      exact .inl (handoff_status _)
    · exact .inr hk.1

/-- **Single use.** At most one exchange of a handoff succeeds, and a stored status that is used
stays used as long as the handoff is stored. -/
theorem handoff_single_use (h : CallRun services tr s) (hc : CollisionFree tr)
    (ho : CreatedOnce RedisCall.handoff tr) (reference : String) :
    (∀ i j serviceId serviceId' challenge challenge' v v',
      s.threads i = some ⟨.exchangeHandoff reference serviceId challenge, .done (.ok v)⟩ →
      s.threads j = some ⟨.exchangeHandoff reference serviceId' challenge', .done (.ok v')⟩ →
      i = j) ∧
    ∀ tr₁ tr₂ t, tr = tr₁ ++ tr₂ → CallRun services tr₁ t →
      Interleave.Run machine RedisCall.run t tr₂ s →
      handoffField t.world.redis reference "status" = some (utf8 "used") →
      handoffField s.world.redis reference "status" = some (utf8 "used") ∨
        s.world.redis.entries (handoffKey reference) = none := by
  refine ⟨fun i j serviceId serviceId' challenge challenge' v v' hi hj => ?_, ?_⟩
  · obtain ⟨lookup, u, a, -, hl⟩ := h.exchanged hi
    obtain ⟨lookup', u', a', -, hl'⟩ := h.exchanged hj
    have hF := handoffs_sound (family_handoff (l := referenceValueLookup reference))
    exact hF.one_user (Run.redis h) (h.handoffs hc ho _) hl hl' ⟨_, _, rfl, rfl, trivial⟩
      ⟨_, _, rfl, rfl, trivial⟩
  · intro tr₁ tr₂ t e h₁ h₂ hu
    subst e
    exact h₁.used h₂ hc ho hu

/-- Two exchanges of one handoff, after its creation. -/
def exchangeChoices : List (Choice Answer Move RedisCall) :=
  [.start 0 .sample, .start 1 (.exchangeHandoff "h" "portal" "challenge"), .step 0 .ok,
    .step 1 .ok, .step 1 .ok, .start 2 (.exchangeHandoff "h" "portal" "challenge"), .step 2 .ok,
    .step 2 .ok, .step 1 .ok, .step 2 .ok]

omit [Crates] in
theorem handoff_single_use_sample : letI := Crates.sample
    ∃ tr s, CallRun (fun _ => none) tr s ∧
      s.result 2 (.exchangeHandoff "h" "portal" "challenge") = some (.error .alreadyUsed) ∧
      ∀ i v, s.threads i = some ⟨.exchangeHandoff "h" "portal" "challenge", .done (.ok v)⟩ →
        i = 1 := by
  let _ := Crates.sample
  obtain ⟨tr, s, h, hc, ho, h₁, h₂⟩ := exists_run_of_play machine RedisCall.run
    (Pool.init (World.empty fun _ => none)) exchangeChoices
    (fun x => CollisionFree x.1 ∧ CreatedOnce RedisCall.handoff x.1 ∧
      x.2.result 1 (.exchangeHandoff "h" "portal" "challenge") = some (.ok ⟨7, 100⟩) ∧
      x.2.result 2 (.exchangeHandoff "h" "portal" "challenge") = some (.error .alreadyUsed))
    (by decide +kernel)
  exact ⟨tr, s, h, h₂, fun i v hi => (handoff_single_use h hc ho "h").1 i 1 _ _ _ _ _ _ hi
    (Pool.threads_of_result h₁)⟩

/-! ## Provenance -/

/-- The script of the call returned code 0 and nothing else. -/
def Succeeded (tr : List CallLabel) (i : ℕ) (q : RedisCall) : Prop :=
  ∃ script keys arguments, .op i q (.redis (.eval script keys arguments)) (.ok [.int 0]) ∈ tr

/-- What a successful exchange rests on: the creation of the handoff before, and the session at the
instant `t` the script ran. -/
structure Provenance (tr tr₁ : List CallLabel) (t : State) (reference serviceId challenge : String)
    (v : HandoffExchangeResult) (record : AuthenticationHandoff) (state : CommonSession) :
    Prop where
  created : ∃ i q, q.handoff = some (reference, record) ∧ Succeeded tr₁ i q ∧
    ∀ j q' record', q'.handoff = some (reference, record') → Succeeded tr j q' → j = i ∧ q' = q
  service : record.serviceId = serviceId
  challenge : record.codeChallenge = challenge
  user : record.internalUserId = v.internalUserId
  authenticated : record.authenticatedAt = v.authenticatedAt
  session : ∃ x, t.entries (utf8 ("auth:session:" ++ record.commonSessionLookup)) =
    some ⟨.hash (recordHash (encodeSession state)), x⟩
  sessionUser : state.internalUserId = v.internalUserId
  sessionAuthenticated : state.authenticatedAt = v.authenticatedAt
  live : t.time < record.expiresAt.toNat ∧ t.time < state.expiresAt.toNat

/-- The call behind an event that creates a handoff. -/
theorem CallRun.creator (h : CallRun services tr s) {k : Bytes} {a : AuthenticationHandoff}
    {e : Event} (he : e ∈ events tr) (hc : AuthFoundation.handoffs.Creates k a e) :
    ∃ i q reference, q.handoff = some (reference, a) ∧ k = handoffKey reference ∧
      Succeeded tr i q := by
  obtain ⟨l, hl, hle⟩ := List.mem_filterMap.mp he
  obtain ⟨tr₁, tr₂, rfl⟩ := List.append_of_mem hl
  obtain ⟨t, t', -, hs, -⟩ := h.split_step
  have hstep := Step.redis hs
  rw [hle] at hstep
  obtain ⟨session, handoff, r, reply, g, x, rfl, rfl, rfl, hi⟩ |
    ⟨session, state, handoff, r, reply, rfl, rfl, rfl, hi⟩ := handoff_created hc hstep
  · obtain ⟨i, q, rfl⟩ := redisEvent_command hle
    obtain ⟨y, hy, hn⟩ := h.next rfl
    obtain rfl := Sent.command_injective (Op.redis.inj hy)
    cases q with
    | issueSsoHandoff session handoff record =>
      obtain ⟨-, ⟨⟩⟩ := hn
      obtain rfl := hi.reply
      exact ⟨i, _, handoff, rfl, rfl, _, _, _, hl⟩
    | _ => simp [RedisCall.Next] at hn
  · obtain ⟨i, q, rfl⟩ := redisEvent_command hle
    obtain ⟨y, hy, hn⟩ := h.next rfl
    obtain rfl := Sent.command_injective (Op.redis.inj hy)
    cases q with
    | createSessionAndHandoff session state handoff record =>
      obtain ⟨-, ⟨⟩⟩ := hn
      obtain rfl := hi.reply
      exact ⟨i, _, handoff, rfl, rfl, _, _, _, hl⟩
    | _ => simp [RedisCall.Next] at hn

theorem Succeeded.started {i : ℕ} {q : RedisCall} (hs : Succeeded tr i q)
    (h : CallRun services tr s) : (i, q) ∈ starts tr := by
  obtain ⟨_, _, _, hl⟩ := hs
  exact h.started hl

/-- **Provenance.** An exchange that succeeds answers with the user and the time recorded by the one
call that created the handoff, for the same service and challenge, while the session lives. -/
theorem exchange_provenance (h : CallRun services tr s) (hc : CollisionFree tr)
    (ho : CreatedOnce RedisCall.handoff tr) (hos : CreatedOnce RedisCall.session tr) {i : ℕ}
    {reference serviceId challenge : String} {v : HandoffExchangeResult}
    (hi : s.threads i = some ⟨.exchangeHandoff reference serviceId challenge, .done (.ok v)⟩) :
    ∃ tr₁ tr₂ lookup reply t record state,
      tr = tr₁ ++ Label.sent i (.exchangeHandoff reference serviceId challenge)
        (.exchange (referenceValueLookup reference) serviceId challenge lookup) (.ok reply) :: tr₂ ∧
      CallRun services tr₁ t ∧
      Provenance tr tr₁ t.world.redis reference serviceId challenge v record state := by
  obtain ⟨lookup, u, a, rfl, hl⟩ := h.exchanged hi
  obtain ⟨tr₁, tr₂, e⟩ := List.append_of_mem hl
  have hr := h
  rw [e] at hr
  obtain ⟨t, t', h₁, hs, -⟩ := hr.split_step
  have hcm : Committed (.command (Sent.exchange (referenceValueLookup reference) serviceId challenge
      lookup).command (.ok [.int 0, .int u, .int a])) := trivial
  obtain ⟨reply, hreply, g, x, g', y, hx⟩ := exchange_committed (hcm.script (Step.redis hs)) hcm
  cases hreply
  -- the records behind the two hashes
  have hd := h.handoffs hc ho (handoffKey reference)
  have hds := h.sessions hc hos (Key.session lookup)
  rw [e, events_append] at hd hds
  obtain ⟨p, hp⟩ := (handoffs_sound family_handoff).run_empty (Run.redis h₁) hd.prefix
  obtain ⟨p', hp'⟩ := (sessions_sound family_session).run_empty (Run.redis h₁) hds.prefix
  obtain ⟨record, rfl, -⟩ := hx.holds hp.1
  obtain ⟨⟨z, hz, -⟩, e₀, he₀, hcr⟩ := hp
  cases hx.entry.symm.trans hz
  obtain ⟨state, rfl⟩ : ∃ state, g' = recordHash (encodeSession state) := by
    obtain ⟨state, ⟨-, hs⟩ | ⟨-, hs⟩, -⟩ := hp'.1.stored hx.session
    · exact ⟨state, Object.hash.inj hs⟩
    · exact ⟨state, Object.hash.inj hs⟩
  obtain ⟨-, hservice, hchallenge, rfl, huser, hauthenticated, hlive, hslive, hre⟩ := hx.records
  simp only [List.cons.injEq, Value.int.injEq, true_and, and_true] at hre
  obtain ⟨rfl, rfl⟩ := hre
  -- the call that created the handoff
  obtain ⟨j, q, reference', hq, hk, hsucc⟩ := CallRun.creator h₁ he₀ hcr
  have hj : (j, q) ∈ starts tr :=
    starts_mono (e ▸ List.subset_append_left ..) (hsucc.started h₁)
  obtain rfl : reference = reference' :=
    hc _ (h.started hl) _ hj _ (List.mem_singleton_self _) _ (RedisCall.handoff_mem hq)
      (handoff_inj.mp hk)
  have hu : record.internalUserId = Int32.ofInt record.internalUserId.toInt := by
    rw [Int32.ofInt_toInt]
  have ha : record.authenticatedAt = UInt64.ofNat (record.authenticatedAt.toNat : ℤ).toNat := by
    rw [Int.toNat_natCast, UInt64.ofNat_toNat]
  refine ⟨tr₁, tr₂, _, _, t, record, state, e, h₁, ⟨j, q, hq, hsucc, fun j' q' a' hq' hs' => ?_⟩,
    hservice, hchallenge, hu, ha, ⟨y, hx.session⟩, huser ▸ hu, hauthenticated ▸ ha, hlive, hslive⟩
  obtain rfl : j' = j := ho _ (hs'.started h) _ hj _ hq' _ hq rfl
  exact ⟨rfl, h.request_unique (hs'.started h) hj⟩

omit [Crates] in
theorem exchange_provenance_sample : letI := Crates.sample
    ∃ tr tr₁ t record state,
      Provenance tr tr₁ t "h" "portal" "challenge" ⟨7, 100⟩ record state := by
  let _ := Crates.sample
  obtain ⟨tr, s, h, hc, ho, hos, h₁⟩ := exists_run_of_play machine RedisCall.run
    (Pool.init (World.empty fun _ => none)) exchangeChoices
    (fun x => CollisionFree x.1 ∧ CreatedOnce RedisCall.handoff x.1 ∧
      CreatedOnce RedisCall.session x.1 ∧
      x.2.result 1 (.exchangeHandoff "h" "portal" "challenge") = some (.ok ⟨7, 100⟩))
    (by decide +kernel)
  obtain ⟨tr₁, -, -, -, t, record, state, -, -, hp⟩ :=
    exchange_provenance h hc ho hos (Pool.threads_of_result h₁)
  exact ⟨tr, tr₁, t.world.redis, record, state, hp⟩

/-! ## Revocation -/

/-- The command of a logout call. -/
abbrev logoutLabel (i : ℕ) (reference session csrfLookup : String) (values : List Value) :
    CallLabel :=
  Label.sent i (.completeCommonLogout reference session csrfLookup)
    (.logout (referenceValueLookup reference) (referenceValueLookup session) csrfLookup)
    (.ok (.int 0 :: values))

/-- The session of a logout is gone for good. -/
theorem CallRun.revoked {i j : ℕ} {reference session csrfLookup : String} {values : List Value}
    {q : RedisCall} {state : CommonSession}
    (h : CallRun services (tr₁ ++ logoutLabel i reference session csrfLookup values :: tr₂) s)
    (hc : CollisionFree (tr₁ ++ logoutLabel i reference session csrfLookup values :: tr₂))
    (hos : CreatedOnce RedisCall.session
      (tr₁ ++ logoutLabel i reference session csrfLookup values :: tr₂))
    (hq : q.session = some (session, state)) (hcr : Succeeded tr₁ j q) :
    s.world.redis.entries (sessionKey session) = none := by
  have hd := h.sessions hc hos (sessionKey session)
  obtain ⟨t, t', h₁, hs, h₂⟩ := h.split_step
  have hcm : Committed (.command (Sent.logout (referenceValueLookup reference)
      (referenceValueLookup session) csrfLookup).command (.ok (.int 0 :: values))) := trivial
  obtain ⟨_, -, g, x, hx⟩ := logout_committed (hcm.script (Step.redis hs)) hcm
  obtain ⟨script, keys, arguments, hl⟩ := hcr
  obtain ⟨tr₃, tr₄, rfl⟩ := List.append_of_mem hl
  obtain ⟨x, hy, hn⟩ := CallRun.next h₁ rfl
  cases q with
  | createSessionAndHandoff session state handoff record =>
    cases hq
    obtain ⟨-, rfl⟩ := hn
    cases hy
    rw [events_append, events_redis, List.append_cons] at hd
    refine (sessions_sound family_session).absent (Run.redis h₂) hd
      (List.mem_append_left _ (mem_events hl)) ⟨.create _ state _ record, _, state, rfl, rfl⟩ ?_
    rw [hx.store]
    exact del_entries_self ..
  | _ => cases hq

/-- **Revocation.** After a logout of a session that was created, no handoff is issued for the
session or exchanged on it, and reading it finds nothing. -/
theorem logout_revokes (h : CallRun services tr s) (hc : CollisionFree tr)
    (hos : CreatedOnce RedisCall.session tr) {i j : ℕ} {reference session csrfLookup : String}
    {q : RedisCall} {state : CommonSession} {values : List Value}
    (e : tr = tr₁ ++ logoutLabel i reference session csrfLookup values :: tr₂)
    (hq : q.session = some (session, state)) (hcr : Succeeded tr₁ j q) :
    (∀ i' handoff record values',
      Label.sent i' (.issueSsoHandoff session handoff record)
        (.issue (referenceValueLookup session) (referenceValueLookup handoff) record)
        (.ok (.int 0 :: values')) ∉ tr₂) ∧
    (∀ tr₃ tr₄ t t' i' handoff serviceId challenge lookup values',
      tr₂ = tr₃ ++ Label.sent i' (.exchangeHandoff handoff serviceId challenge)
        (.exchange (referenceValueLookup handoff) serviceId challenge lookup)
        (.ok (.int 0 :: values')) :: tr₄ →
      CallRun services (tr₁ ++ logoutLabel i reference session csrfLookup values :: tr₃) t →
      Interleave.Step machine RedisCall.run t
        (Label.sent i' (.exchangeHandoff handoff serviceId challenge)
          (.exchange (referenceValueLookup handoff) serviceId challenge lookup)
          (.ok (.int 0 :: values'))) t' →
      handoffField t.world.redis handoff "common_session_lookup" ≠
        some (utf8 (referenceValueLookup session))) ∧
    ∀ i' now result hash, s.threads i' = some ⟨.readSession session now, .done result⟩ →
      .op i' (.readSession session now) (.redis (.hgetall (sessionKey session))) (.ok hash) ∈ tr₂ →
      result = .error .notFound := by
  subst e
  refine ⟨fun i' handoff record values' hl => ?_, ?_, ?_⟩
  · obtain ⟨tr₃, tr₄, rfl⟩ := List.append_of_mem hl
    rw [← List.cons_append, ← List.append_assoc] at h hc hos
    obtain ⟨t, t', h₁, hs, -⟩ := h.split_step
    have hn := CallRun.revoked h₁ (hc.mono (List.subset_append_left ..))
      (hos.mono (List.subset_append_left ..)) hq hcr
    have hcm : Committed (.command (Sent.issue (referenceValueLookup session)
      (referenceValueLookup handoff) record).command (.ok (.int 0 :: values'))) := trivial
    obtain ⟨_, -, g, x, hx⟩ := issue_committed (hcm.script (Step.redis hs)) hcm
    cases hn.symm.trans hx.entry
  · intro tr₃ tr₄ t t' i' handoff serviceId challenge lookup values' e h₁ hs hl
    subst e
    rw [← List.cons_append, ← List.append_assoc] at hc hos
    have hn := CallRun.revoked h₁ (hc.mono (List.subset_append_left ..))
      (hos.mono (List.subset_append_left ..)) hq hcr
    have hcm : Committed (.command (Sent.exchange (referenceValueLookup handoff) serviceId challenge
      lookup).command (.ok (.int 0 :: values'))) := trivial
    obtain ⟨_, -, g, x, g', y, hx⟩ := exchange_committed (hcm.script (Step.redis hs)) hcm
    rw [handoffField_of_entry hx.entry, hx.lookup, Option.some.injEq, utf8_inj] at hl
    subst hl
    cases hn.symm.trans hx.session
  · intro i' now result hash hi hl
    obtain ⟨tr₃, tr₄, rfl⟩ := List.append_of_mem hl
    rw [← List.cons_append, ← List.append_assoc] at h hc hos
    obtain ⟨t, t', h₁, hs, -⟩ := h.split_step
    have hn := CallRun.revoked h₁ (hc.mono (List.subset_append_left ..))
      (hos.mono (List.subset_append_left ..)) hq hcr
    obtain rfl : hash = ∅ := by
      have hg : hashAt (sessionKey session) t.world.redis = (.ok ∅, t.world.redis) := by
        rw [hashAt, hn]
      exact (Except.ok.inj (congrArg Prod.fst (hg.symm.trans (Step.redis hs).ok))).symm
    obtain ⟨x, hx, hnext⟩ := h.next rfl
    have hH : history i' (tr₁ ++ logoutLabel i reference session csrfLookup values :: tr₃) =
        [] := by
      obtain ⟨hH, -⟩ | ⟨-, rfl⟩ := hnext
      · exact hH
      · cases hx
    have hret := h.sat_done RedisCall.sat hi
    rw [history_append, hH, List.nil_append, ← List.singleton_append, history_append,
      history_op] at hret
    exact hret rfl

/-- A session, its logout and a read of it. -/
def logoutChoices : List (Choice Answer Move RedisCall) :=
  [.start 0 .sample, .step 0 .ok,
    .start 1 (.writeLogout "l" ⟨"portal", "https://portal.example/",
      "aaa9402664f1a41f40ebbc52c9993eb66aeb366602958fdfaa283b71e64db123", 150, 750, .unused⟩ 150),
    .step 1 .ok, .step 1 .ok,
    .start 2 (.completeCommonLogout "l" "s"
      "aaa9402664f1a41f40ebbc52c9993eb66aeb366602958fdfaa283b71e64db123"), .step 2 .ok,
    .start 3 (.readSession "s" 160), .step 3 .ok]

omit [Crates] in
theorem logout_revokes_sample : letI := Crates.sample
    ∃ tr₁ tr₂ s, CallRun (fun _ => none) (tr₁ ++ logoutLabel 2 "l" "s"
        "aaa9402664f1a41f40ebbc52c9993eb66aeb366602958fdfaa283b71e64db123"
        [.bulk "https://portal.example/"] :: tr₂) s ∧
      .op 3 (.readSession "s" 160) (.redis (.hgetall (sessionKey "s"))) (.ok (∅ : Hash)) ∈ tr₂ ∧
      ∀ now result, s.threads 3 = some ⟨.readSession "s" now, .done result⟩ →
        .op 3 (.readSession "s" now) (.redis (.hgetall (sessionKey "s"))) (.ok (∅ : Hash)) ∈ tr₂ →
        result = .error .notFound := by
  let _ := Crates.sample
  obtain ⟨tr, s, h, hc, hos, e, hl, hr⟩ := exists_run_of_play machine RedisCall.run
    (Pool.init (World.empty fun _ => none)) logoutChoices
    (fun x => CollisionFree x.1 ∧ CreatedOnce RedisCall.session x.1 ∧
      x.1 = x.1.take 6 ++ logoutLabel 2 "l" "s"
        "aaa9402664f1a41f40ebbc52c9993eb66aeb366602958fdfaa283b71e64db123"
        [.bulk "https://portal.example/"] :: x.1.drop 7 ∧
      .op 0 .sample (.redis (.eval .createSessionAndHandoff
          ([sessionKey "s", handoffKey "h"].map utf8)
          (["7", "100", "100", "28900", referenceValueLookup "s", "portal", "7",
            referenceValueLookup "s", "challenge", "100", "100", "220", "unused"].map utf8)))
        (.ok [.int 0]) ∈ x.1.take 6 ∧
      .op 3 (.readSession "s" 160) (.redis (.hgetall (sessionKey "s"))) (.ok (∅ : Hash)) ∈
        x.1.drop 7)
    (by decide +kernel)
  refine ⟨tr.take 6, tr.drop 7, s, by rw [← e]; exact h, hr, fun now result hi hm => ?_⟩
  exact (logout_revokes h hc hos e (q := .sample) rfl ⟨_, _, _, hl⟩).2.2 3 now result ∅ hi hm

end Calls

end AuthFoundation
