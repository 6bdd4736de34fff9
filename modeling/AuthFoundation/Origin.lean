import AuthFoundation.Disabled
import AuthFoundation.Lib.Guard
import AuthFoundation.Operations

set_option autoImplicit false

/-!
# Whose sessions these are

A session is created for the user of the identity that Google named to its callback. The tables stay
consistent while all requests race with each other.

* `Asserted`, `CreatesFor`: what Google named, and what a creation may be for.
* `TablesObey`: programs that keep the tables consistent; `Request.obeys`: every request does.
* `BelongsTo`: the identity of a user, and a callback that Google named it to.
* **`sessions_belong`**: sessions, handoffs and exchanges are for users whom Google named.
-/

namespace AuthFoundation

open Text Redis Token Interleave Prog Database

/-! ## Programs and tables -/

/-- Google named the identity. -/
def Asserted (H : History Reply) (identity : NormalizedExternalIdentity) : Prop :=
  ∃ token info, Observed H (.userInfo token) (.ok (some info)) ∧
    normalizeGoogleUserInfo info = .ok identity

theorem Asserted.append {H : History Reply} {identity : NormalizedExternalIdentity}
    (h : Asserted H identity) (D : History Reply) : Asserted (H ++ D) identity := by
  obtain ⟨token, info, ho, hn⟩ := h
  exact ⟨token, info, ho.append D, hn⟩

/-- The identity belongs to the user. -/
def Database.Owns (db : Database) (identity : NormalizedExternalIdentity) (u : Int32) : Prop :=
  db.externalIdentities (identity.provider, identity.subject) = some u

/-- Identities stay. -/
def Database.Extends (db db' : Database) : Prop :=
  ∀ key u, db.externalIdentities key = some u → db'.externalIdentities key = some u

theorem Database.Extends.owns {db db' : Database} {identity : NormalizedExternalIdentity}
    {u : Int32} (h : db.Extends db') (ho : db.Owns identity u) : db'.Owns identity u := h _ _ ho

/-- **A session is created** for the user of an identity that Google named. -/
def CreatesFor (H : History Reply) (o : Op) (w : World) : Prop :=
  ∀ session state handoff record,
    o = .redis (Sent.create session state handoff record).command →
    ∃ identity, Asserted H identity ∧ w.database.Owns identity state.internalUserId

section Programs

variable [Crates] {i : ℕ} {o : Op} {a : Answer} {r : Reply o} {w w' : World} {H : History Reply}
  {α β : Type} {kinds : List OpKind} {Q : History Reply → α → World → Prop}

/-- Only statements of transactions change the tables. -/
theorem exec_database (ho : o.kind ≠ .transaction) (he : machine.exec w i o a = some (r, w')) :
    w'.database = w.database := by
  cases o with
  | sql q =>
    cases a with
    | ok =>
      obtain ⟨x, hx, e⟩ := Option.map_eq_some_iff.mp he
      cases e
      cases q <;> first | exact absurd rfl ho | (cases hx; rfl)
    | fail =>
      cases he
      cases q <;> first | exact absurd rfl ho | rfl
    | _ => cases he
  | localState c =>
    cases a with
    | draws draws =>
      obtain ⟨x, -, e⟩ := Option.map_eq_some_iff.mp he
      cases e
      rfl
    | _ => cases he
  | _ => cases a <;> cases he <;> rfl

/-- **A program obeys the tables**, whatever the others do. -/
abbrev TablesObey (i : ℕ) (Q : History Reply → α → World → Prop) (p : Service α)
    (H : History Reply) (w : World) : Prop :=
  Obeys machine (fun w => Consistent w.database) (fun w w' => Rely i w.database w'.database)
    (fun w w' => Guarantee i w.database w'.database) i CreatesFor Q p H w

/-- One operation outside transactions. -/
theorem obeys_op {k : Reply o → Service α} (ht : o.kind ≠ .transaction)
    (ho : ∀ w', w.database.Extends w'.database → CreatesFor H o w')
    (hk : ∀ r w', TablesObey i Q (k r) (H ++ [⟨o, r⟩]) w') : TablesObey i Q (.op o k) H w := by
  intro w₁ hr hI
  refine ⟨ho w₁ hr.2, fun a r w₂ he => ?_⟩
  have hsame : w₂.database = w₁.database := exec_database ht he
  refine ⟨?_, ?_, hk r w₂⟩
  · show Consistent w₂.database
    rwa [hsame]
  · show Guarantee i w₁.database w₂.database
    rw [hsame]
    exact ⟨fun _ _ => rfl, fun _ _ => id⟩

/-- Programs without transactions leave the tables alone; identities stay meanwhile. -/
theorem Uses.holds {p : Service α} {db : Database} (h : Uses kinds p) (ht : .transaction ∉ kinds)
    (hdb : db.Extends w.database) :
    Holds machine (fun w => Consistent w.database) (fun w w' => Rely i w.database w'.database)
      (fun w w' => Guarantee i w.database w'.database) i
      (fun _ w' => db.Extends w'.database) p w := by
  induction p generalizing w with
  | done a => exact hdb
  | op o k ih =>
    intro w₁ hr hI a r w₂ he
    have hsame : w₂.database = w₁.database := exec_database (fun e => ht (e ▸ h.1)) he
    have hg : Guarantee i w₁.database w₂.database := by
      rw [hsame]
      exact ⟨fun _ _ => rfl, fun _ _ => id⟩
    refine ⟨?_, hg, ih r (h.2 r) fun key u hu => hg.2 key u (hr.2 key u (hdb key u hu))⟩
    show Consistent w₂.database
    rwa [hsame]

omit [Crates] in
theorem createsFor_of_kind (h : o.kind ≠ .script .createSessionAndHandoff) : CreatesFor H o w := by
  rintro session state handoff record rfl
  exact absurd rfl h

/-- **Sequencing** after a program that neither runs transactions nor creates sessions. -/
theorem Uses.seq {p : Service α} {f : α → Service β} {Q : History Reply → β → World → Prop}
    (h : Uses kinds p) (ht : .transaction ∉ kinds)
    (hc : .script .createSessionAndHandoff ∉ kinds)
    (hf : ∀ a D w', w.database.Extends w'.database → TablesObey i Q (f a) (H ++ D) w') :
    TablesObey i Q (p >>= f) H w :=
  Holds.seq (h.holds ht fun _ _ => id) h
    (fun _ _ _ ho => createsFor_of_kind fun e => hc (e ▸ ho)) hf

/-- A program that neither runs transactions nor creates sessions. -/
theorem Uses.obeys {p : Service α} (h : Uses kinds p) (ht : .transaction ∉ kinds)
    (hc : .script .createSessionAndHandoff ∉ kinds) :
    TablesObey i (fun _ _ _ => True) p H w :=
  ((h.holds ht fun _ _ => id).obeys h).mono
    (fun _ _ _ ho => createsFor_of_kind fun e => hc (e ▸ ho)) fun _ _ _ _ => trivial

/-! ## Requests -/

/-- The creation of a session for the user of an identity that Google named. -/
theorem createSessionAndHandoff_obeys {identity : NormalizedExternalIdentity} {session : String}
    {state : CommonSession} {handoff : String} {record : AuthenticationHandoff}
    (ha : Asserted H identity) (ho : w.database.Owns identity state.internalUserId) :
    TablesObey i (fun _ _ _ => True) (createSessionAndHandoff session state handoff record) H
      w := by
  refine obeys_op nofun (fun w' hw' session' state' handoff' record' he => ?_) fun _ _ => trivial
  have hx : Sent.create (referenceValueLookup session) state (referenceValueLookup handoff)
      record = .create session' state' handoff' record' :=
    Sent.command_injective (Op.redis.inj he)
  cases hx
  exact ⟨identity, ha, hw'.owns ho⟩

theorem googleAuthCallback_obeys {query : CallbackQuery} :
    TablesObey i (fun _ _ _ => True) (googleAuthCallback query) H w := by
  have hc : Uses [.connection] getMultiplexedTokioConnection := only_ask (by decide)
  have ht : Uses [.clock] systemTimeNow := only_ask (by decide)
  have hr : Uses [.random] generateReferenceValue := uses_generateReferenceValue (by decide)
  have hclaim : Uses [.script .callbackClaim] (claimExternalCallback query.state) :=
    uses_invoke (by decide)
  have hcode : Uses [.google] (Prog.ask (Op.exchangeCode query.code)) :=
    only_ask (show OpKind.google ∈ _ by decide)
  unfold googleAuthCallback
  split_ifs
  · trivial
  refine hc.seq (by decide) (by decide) fun r D₁ w₁ _ => ?_
  split
  · trivial
  refine hclaim.seq (by decide) (by decide) fun r D₂ w₂ _ => ?_
  split
  · trivial
  · trivial
  · trivial
  · trivial
  rename_i tx
  have huri : Uses [.select] (lookupLoginCallbackUri tx.serviceId) :=
    uses_lookupLoginCallbackUri (by decide)
  refine huri.seq (by decide) (by decide) fun r D₃ w₃ _ => ?_
  split
  · trivial
  · trivial
  · trivial
  split
  · trivial
  refine hcode.seq (by decide) (by decide) fun r D₄ w₄ _ => ?_
  split
  · trivial
  rename_i accessToken
  refine obeys_op nofun (fun _ _ => createsFor_of_kind nofun) fun r w₅ => ?_
  dsimp only [Prog.bind]
  split
  · trivial
  · trivial
  rename_i userInfo
  cases hid : normalizeGoogleUserInfo userInfo with
  | error e => trivial
  | ok identity =>
  have ha := Asserted.append (H := H ++ D₁ ++ D₂ ++ D₃ ++ D₄ ++
    [⟨.userInfo accessToken, .ok (some userInfo)⟩]) ⟨accessToken, userInfo, observed_last, hid⟩
  refine ht.seq (by decide) (by decide) fun t D₅ w₆ _ => ?_
  split
  · trivial
  have hresolve : Uses [.select, .transaction]
      (resolveExternalIdentity identity.provider identity.subject) :=
    uses_resolveExternalIdentity (by decide) (by decide)
  have hkeeps := @resolveExternalIdentity_keeps _ i ⟨identity.provider, identity.subject⟩ w₆
  refine hkeeps.seq hresolve (fun _ _ _ ho => createsFor_of_kind fun e => by simp [e] at ho)
    fun r D₆ w₇ howns => ?_
  split
  · trivial
  · trivial
  · trivial
  rename_i internalUserId
  have howns : w₇.database.Owns identity internalUserId := howns
  refine hr.seq (by decide) (by decide) fun r D₇ w₈ h₈ => ?_
  split
  · trivial
  refine hr.seq (by decide) (by decide) fun r D₈ w₉ h₉ => ?_
  split
  · trivial
  split
  · trivial
  split
  · trivial
  refine Obeys.bind ((createSessionAndHandoff_obeys ((((ha _).append _).append _).append _)
    (h₉.owns (h₈.owns howns))).mono (fun _ _ _ => id) fun H' r w' _ => ?_)
  split <;> trivial

/-- **Every request obeys the tables.** -/
theorem Request.obeys (googleConfig : GoogleAuthorizationConfig) (q : Request) :
    TablesObey i (fun _ _ _ => True) (q.run googleConfig) H w := by
  cases q with
  | login request query =>
    exact uses_login.obeys (by simp [Request.kinds]) (by simp [Request.kinds])
  | googleAuthCallback query => exact googleAuthCallback_obeys
  | exchangeAuthHandoff request body =>
    exact uses_exchangeAuthHandoff.obeys (by simp [Request.kinds]) (by simp [Request.kinds])
  | logoutGet request serviceId =>
    exact uses_logoutGet.obeys (by simp [Request.kinds]) (by simp [Request.kinds])
  | logoutPost request form =>
    exact uses_logoutPost.obeys (by simp [Request.kinds]) (by simp [Request.kinds])

end Programs

/-! ## Runs -/

section Service

variable [Crates] {googleConfig : GoogleAuthorizationConfig}
  {services : String → Option RegisteredService} {tr tr₁ tr₂ : List ServiceLabel}
  {s t : ServicePool} {i : ℕ} {q : Request}

/-- What happens without the service keeps the tables consistent. -/
theorem env_tables {w w' : World} {m : Move} (hI : Consistent w.database)
    (hm : machine.env w m = some w') :
    Consistent w'.database ∧ ∀ i, Rely i w.database w'.database := by
  cases m with
  | tick n =>
    cases hm
    exact ⟨hI, fun _ => .refl⟩
  | expire k =>
    simp only [machine, World.move] at hm
    split at hm
    · split_ifs at hm
      cases hm
      exact ⟨hI, fun _ => .refl⟩
    · cases hm
  | database m =>
    obtain ⟨db, hdb, rfl⟩ := Option.map_eq_some_iff.mp hm
    exact ⟨hI.move hdb, hI.rely_move hdb⟩

/-- **The tables stay consistent**, and sessions are created for users whom Google named. -/
theorem ServiceRun.creates_for (h : ServiceRun googleConfig (World.empty services) tr s) :
    Consistent s.world.database ∧ ∀ tr₁ i q o r tr₂, tr = tr₁ ++ .op i q o r :: tr₂ →
      ∃ t t', ServiceRun googleConfig (World.empty services) tr₁ t ∧
        ServiceStep googleConfig t (.op i q o r) t' ∧
        Interleave.Run machine (Request.run googleConfig) t' tr₂ s ∧
        CreatesFor (history i tr₁) o t.world := by
  have htrans : ∀ (i : ℕ) (w w' w'' : World), Rely i w.database w'.database →
      Rely i w'.database w''.database → Rely i w.database w''.database := fun _ _ _ _ => .trans
  have hGR : ∀ i j, i ≠ j → ∀ w w' : World, Guarantee i w.database w'.database →
      Rely j w.database w'.database := fun i j hij w w' hg => ⟨.inl (hg.1 j hij.symm), hg.2⟩
  have hprog : ∀ i (q : Request) (w : World), Consistent w.database →
      TablesObey i (fun _ _ _ => True) (q.run googleConfig) [] w :=
    fun i q w _ => q.obeys googleConfig
  constructor
  · exact (Run.obeys htrans (fun _ _ _ _ _ _ _ _ => trivial) hGR (fun _ _ _ => env_tables) hprog
      (fun _ _ => Rely.refl) (.empty services) h).1
  · intro tr₁ i q o r tr₂ e
    exact Run.obeys_op htrans (fun _ _ _ _ _ _ _ _ => trivial) hGR (fun _ _ _ => env_tables) hprog
      (fun _ _ => Rely.refl) (.empty services) h e

/-- Identities stay, in whole runs. -/
theorem ServiceRun.extends (h₁ : ServiceRun googleConfig (World.empty services) tr₁ t)
    (h₂ : Interleave.Run machine (Request.run googleConfig) t tr₂ s) :
    t.world.database.Extends s.world.database := by
  induction h₂ with
  | nil => exact fun _ _ => id
  | snoc h₂ hs ih =>
    have hc := (ServiceRun.creates_for (h₁.append h₂)).1
    obtain ⟨j, he⟩ | ⟨m, -, hm⟩ := Step.database hs
    · exact fun key u hu => hc.identities_mono he (ih key u hu)
    · exact fun key u hu => (hc.rely_move hm 0).2 key u (ih key u hu)

/-! ## Owners -/

/-- **The identity of a user**, which Google named to a callback of the run. -/
structure BelongsTo (tr : List ServiceLabel) (db : Database) (u : Int32)
    (identity : NormalizedExternalIdentity) : Prop where
  owns : db.Owns identity u
  unique : ∀ identity', db.Owns identity' u →
    identity'.provider = identity.provider ∧ identity'.subject = identity.subject
  named : ∃ i query, .start i (.googleAuthCallback query) ∈ tr ∧ Asserted (history i tr) identity

omit [Crates] in
theorem callback_of_kind (h : .script .createSessionAndHandoff ∈ q.kinds) :
    ∃ query, q = .googleAuthCallback query := by
  cases q with
  | googleAuthCallback query => exact ⟨query, rfl⟩
  | _ => simp [Request.kinds] at h

/-- **The owner of a session that is created**: Google named the identity to this callback. -/
theorem ServiceRun.create_owner (h : ServiceRun googleConfig (World.empty services) tr s)
    {session handoff : String} {state : CommonSession} {record : AuthenticationHandoff}
    {r : Reply (.redis (Sent.create session state handoff record).command)}
    (hl : Label.sent i q (.create session state handoff record) r ∈ tr) :
    ∃ identity, BelongsTo tr s.world.database state.internalUserId identity ∧
      Asserted (history i tr) identity := by
  obtain ⟨tr₁, tr₂, e⟩ := List.append_of_mem hl
  obtain ⟨hc, hcreates⟩ := h.creates_for
  obtain ⟨t, t', h₁, hs, h₂, hfor⟩ := hcreates _ _ _ _ _ _ e
  obtain ⟨identity, ha, ho⟩ := hfor _ _ _ _ rfl
  have ho : s.world.database.Owns identity state.internalUserId :=
    (ServiceRun.extends h₁ ((Interleave.Run.nil.snoc hs).append h₂)).owns ho
  have ha : Asserted (history i tr) identity := by
    rw [e, history_append]
    exact ha.append _
  have hkind := Interleave.Run.sat_op h (fun q => (Request.uses q).sat []) e
  obtain ⟨query, rfl⟩ := callback_of_kind hkind
  have hstart : .start i (.googleAuthCallback query) ∈ tr := by
    have hf := Interleave.Run.follows h i
    cases hi : s.threads i with
    | none =>
      rw [hi] at hf
      exact absurd rfl (hf _ hl)
    | some th =>
      obtain ⟨q, p⟩ := th
      rw [hi] at hf
      obtain rfl := Option.some.inj (hf.2.2 _ hl rfl)
      exact hf.2.1
  refine ⟨identity, ⟨ho, fun identity' ho' => ?_, i, query, hstart, ha⟩, ha⟩
  exact Prod.mk.inj (hc.injective _ _ _ ho' ho)

/-- The owner of a handoff is the one of its session. -/
theorem ServiceRun.handoff_owner (h : ServiceRun googleConfig (World.empty services) tr s)
    (hfresh : FreshReferences tr) {k : Bytes} {a : AuthenticationHandoff} {e : Event}
    (he : e ∈ events tr) (hc : AuthFoundation.handoffs.Creates k a e) :
    ∃ identity, BelongsTo tr s.world.database a.internalUserId identity := by
  obtain ⟨-, -, b, ⟨e', he', hb⟩, hu, -⟩ := h.handoff_created hfresh he hc
  obtain ⟨tr₁, tr₂, t, j, q, x, r, s', rfl, hcreation⟩ := h.creator he' hb
  cases x with
  | create session state handoff record =>
    obtain ⟨-, rfl⟩ := Prod.mk.inj (Option.some.inj hcreation.creates)
    obtain ⟨identity, hbelongs, -⟩ := h.create_owner
      (show Label.sent j q (.create session state handoff record) r ∈ _ by simp)
    rw [hu]
    exact ⟨identity, hbelongs⟩
  | _ => cases hcreation.creates

/-- **Whose sessions these are**: each session that a callback creates is for the user of the one
identity that Google named to this callback. Each handoff, and each user that an exchange answers
with, goes back to an identity that Google named. -/
theorem sessions_belong (h : ServiceRun googleConfig (World.empty services) tr s)
    (hfresh : FreshReferences tr) :
    (∀ i q session state handoff record r,
      Label.sent i q (.create session state handoff record) r ∈ tr →
      ∃ identity, BelongsTo tr s.world.database state.internalUserId identity ∧
        Asserted (history i tr) identity) ∧
    (∀ k a, ∀ e ∈ events tr, AuthFoundation.handoffs.Creates k a e →
      ∃ identity, BelongsTo tr s.world.database a.internalUserId identity) ∧
    ∀ i request body u n, s.threads i = some ⟨.exchangeAuthHandoff request body,
        .done ⟨200, none, [], .handoffExchangeResponse u n⟩⟩ →
      ∃ identity, BelongsTo tr s.world.database u identity := by
  refine ⟨fun i q session state handoff record r hl => h.create_owner hl,
    fun k a e he hc => h.handoff_owner hfresh he hc, fun i request body u n hi => ?_⟩
  obtain ⟨-, -, -, a, -, -, ⟨e, he, hc⟩, -, -, hu, -⟩ := h.exchange_answered hfresh hi
  rw [← hu]
  exact h.handoff_owner hfresh he hc

omit [Crates] in
theorem sessions_belong_sample : letI := Crates.service
    ∃ tr s, ServiceRun ⟨"", ""⟩ (World.empty sampleServices) tr s ∧
      s.threads 3 = some ⟨sampleExchange (referenceValue (bytes32 4)),
        .done ⟨200, none, [], .handoffExchangeResponse 1 100⟩⟩ ∧
      ∃ identity, BelongsTo tr s.world.database 1 identity := by
  let _ := Crates.service
  obtain ⟨tr, s, h, hfresh, hi⟩ := exists_run_of_play machine (Request.run ⟨"", ""⟩)
    (Pool.init (World.empty sampleServices)) (firstLogin ++ secondLogin 150 ++ issueChoices ++
      exchangeEndpointChoices (referenceValue (bytes32 4)))
    (fun x => FreshReferences x.1 ∧ x.2.result 3 (sampleExchange (referenceValue (bytes32 4))) =
      some ⟨200, none, [], .handoffExchangeResponse 1 100⟩) (by decide +kernel)
  have hdone := Pool.threads_of_result hi
  exact ⟨tr, s, h, hdone, (sessions_belong h hfresh).2.2 3 _ _ 1 100 hdone⟩

end Service

end AuthFoundation
