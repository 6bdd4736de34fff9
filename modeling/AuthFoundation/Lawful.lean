import AuthFoundation.Calls
import AuthFoundation.Handlers

set_option autoImplicit false

/-!
# What the handlers may do

Each operation of a handler is justified by the replies it got before.

* `Draw`, `Clock`, `SessionRead`, `EnabledUser`, `EnabledService`, `Claimed`: facts a handler has
  learned from its replies.
* `Sent.Lawful`, `Lawful`: which commands, and which operations, such facts justify.
* `Op.creates`: the operations that create records.
* `lookupLoginCallbackUri_sat`, …: what the functions called by the handlers do and learn.
-/

namespace AuthFoundation

open Text Redis

/-- The last of the commands of the service, or an earlier one. -/
theorem observed_sent {H : History Reply} {x y : Sent} {v : Reply (.redis x.command)}
    {w : Reply (.redis y.command)}
    (h : Observed (H ++ [⟨.redis y.command, w⟩]) (.redis x.command) v) :
    Observed H (.redis x.command) v ∨ ∃ e : x = y, e ▸ v = w := by
  rcases List.mem_append.mp h with h | h
  · exact .inl h
  · have he := List.mem_singleton.mp h
    have hxy : x = y := Sent.command_injective (Op.redis.inj (congrArg Sigma.fst he))
    subst hxy
    exact .inr ⟨rfl, eq_of_heq (Sigma.mk.inj he).2⟩

section Facts

variable [Crates] (H : History Reply)

/-- The lookup belongs to a reference that was drawn. -/
def Draw (lookup : String) : Prop :=
  ∃ bytes, Observed H .tryFillBytes (.ok bytes) ∧
    lookup = referenceValueLookup (referenceValue bytes)

/-- The clock showed this time. -/
def Clock (now : UInt64) : Prop :=
  ∃ t, Observed H .systemTimeNow t ∧ unixSeconds t = .ok now

/-- The session was read. -/
def SessionRead (lookup : String) (state : CommonSession) : Prop :=
  ∃ hash fields, Observed H (.redis (Sent.readSession lookup).command) (.ok hash) ∧
    Fields.ofHash? hash = some fields ∧ decodeSession fields = .ok state

/-- The user was found enabled, or is new. -/
inductive EnabledUser (u : Int32) : Prop
  | row (h : Observed H (.sql (.selectInternalUser u)) (.ok (some true)))
  | identity (provider subject : String)
      (h : Observed H (.sql (.selectExternalIdentity provider subject)) (.ok (some (u, some true))))
  | new (h : Observed H (.sql .insertInternalUser) (.ok u))

/-- The service was found enabled. -/
inductive EnabledService (serviceId : String) : Prop
  | login (uri : String)
      (h : Observed H (.sql (.selectLoginCallbackUri serviceId)) (.ok (some (true, uri))))
  | logout (uri : String)
      (h : Observed H (.sql (.selectLogoutReturnUri serviceId)) (.ok (some (true, uri))))
  | secret (id login logout : String) (digest : Bytes)
      (h : Observed H (.sql (.selectRegisteredService serviceId))
        (.ok (some (id, true, login, logout, digest))))

/-- The external transaction was claimed. -/
def Claimed (lookup : String) (tx : ExternalAuthTransaction) : Prop :=
  ∃ reply : List Value, Observed H (.redis (Sent.claim lookup).command) (.ok reply) ∧
    claimReply reply = .ok tx

variable {H}

theorem Draw.append {lookup : String} (h : Draw H lookup) (D : History Reply) :
    Draw (H ++ D) lookup := by
  obtain ⟨bytes, hb, hl⟩ := h
  exact ⟨bytes, hb.append D, hl⟩

omit [Crates] in
theorem Clock.append {now : UInt64} (h : Clock H now) (D : History Reply) : Clock (H ++ D) now := by
  obtain ⟨t, ht, hn⟩ := h
  exact ⟨t, ht.append D, hn⟩

omit [Crates] in
theorem SessionRead.append {lookup : String} {state : CommonSession}
    (h : SessionRead H lookup state) (D : History Reply) : SessionRead (H ++ D) lookup state := by
  obtain ⟨hash, fields, hh, hf⟩ := h
  exact ⟨hash, fields, hh.append D, hf⟩

omit [Crates] in
theorem EnabledUser.append {u : Int32} (h : EnabledUser H u) (D : History Reply) :
    EnabledUser (H ++ D) u := by
  cases h with
  | row h => exact .row (h.append D)
  | identity provider subject h => exact .identity provider subject (h.append D)
  | new h => exact .new (h.append D)

omit [Crates] in
theorem EnabledService.append {serviceId : String} (h : EnabledService H serviceId)
    (D : History Reply) :
    EnabledService (H ++ D) serviceId := by
  cases h with
  | login uri h => exact .login uri (h.append D)
  | logout uri h => exact .logout uri (h.append D)
  | secret id login logout digest h => exact .secret id login logout digest (h.append D)

omit [Crates] in
theorem Claimed.append {lookup : String} {tx : ExternalAuthTransaction} (h : Claimed H lookup tx)
    (D : History Reply) :
    Claimed (H ++ D) lookup tx := by
  obtain ⟨reply, hr, ht⟩ := h
  exact ⟨reply, hr.append D, ht⟩

end Facts

/-! ## Lawful operations -/

section Lawful

variable [Crates] (refs : List String) (H : History Reply)

/-- The lookup belongs to a reference of the request. -/
def Named (lookup : String) : Prop := ∃ r ∈ refs, lookup = referenceValueLookup r

/-- **Commands that are justified** by the references of the request and the replies so far. -/
def Sent.Lawful : Sent → Prop
  | writeExternal lookup state => Draw H lookup ∧ Clock H state.createdAt ∧
      state.expiresAt.toNat = state.createdAt.toNat + 600 ∧ state.status = .waiting ∧
      EnabledService H state.serviceId
  | expireExternal lookup expiresAt => ∃ state r,
      Observed H (.redis (Sent.writeExternal lookup state).command) r ∧
        expiresAt = state.expiresAt
  | writeLogout lookup state => Draw H lookup ∧ Clock H state.createdAt ∧
      state.expiresAt.toNat = state.createdAt.toNat + 600 ∧ state.status = .unused ∧
      isLookup state.csrfLookup = true ∧
      Observed H (.sql (.selectLogoutReturnUri state.serviceId))
        (.ok (some (true, state.logoutReturnUri)))
  | expireLogout lookup expiresAt => ∃ state r,
      Observed H (.redis (Sent.writeLogout lookup state).command) r ∧ expiresAt = state.expiresAt
  | readSession lookup => Named refs lookup
  | dropSession lookup => Named refs lookup ∧ ∃ state now, SessionRead H lookup state ∧
      Clock H now ∧ state.expiresAt ≤ now
  | claim lookup => Named refs lookup
  | issue session handoff record => Named refs session ∧ Draw H handoff ∧
      record.commonSessionLookup = session ∧ Clock H record.issuedAt ∧
      record.expiresAt.toNat = record.issuedAt.toNat + 120 ∧ record.status = .unused ∧
      (∃ state, SessionRead H session state ∧ record.internalUserId = state.internalUserId ∧
        record.authenticatedAt = state.authenticatedAt) ∧
      EnabledUser H record.internalUserId ∧ EnabledService H record.serviceId
  | create session state handoff record => Draw H session ∧ Draw H handoff ∧
      record.commonSessionLookup = session ∧ Clock H state.createdAt ∧
      state.authenticatedAt = state.createdAt ∧ record.authenticatedAt = state.createdAt ∧
      record.issuedAt = state.createdAt ∧
      state.expiresAt.toNat = state.createdAt.toNat + 28800 ∧
      record.expiresAt.toNat = record.issuedAt.toNat + 120 ∧ record.status = .unused ∧
      record.internalUserId = state.internalUserId ∧
      (∃ lookup tx, Named refs lookup ∧ Claimed H lookup tx ∧ record.serviceId = tx.serviceId ∧
        record.codeChallenge = tx.handoffCodeChallenge) ∧
      EnabledUser H record.internalUserId ∧ EnabledService H record.serviceId
  | typeHandoff handoff => Named refs handoff
  | readHandoffLookup handoff => Named refs handoff
  | exchange handoff serviceId _ session => Named refs handoff ∧ isLookup session = true ∧
      EnabledService H serviceId
  | logout lookup session _ => Named refs lookup ∧ Named refs session

/-- **Operations that are justified**; Google is contacted for a claimed transaction only. -/
def Lawful : Op → Prop
  | .redis c => ∃ x : Sent, c = x.command ∧ x.Lawful refs H
  | .exchangeCode _ => ∃ lookup tx, Named refs lookup ∧ Claimed H lookup tx
  | .userInfo _ => ∃ lookup tx, Named refs lookup ∧ Claimed H lookup tx
  | _ => True

end Lawful

/-! ## Creations -/

/-- The operation tries to create a record of the family. -/
def Op.creates (f : UInt8) : Op → Bool
  | .redis (.hset k _) => family k = f
  | .redis (.eval .issueSsoHandoff _ _) => f = 104
  | .redis (.eval .createSessionAndHandoff _ _) => f = 104 || f = 115
  | _ => false

@[simp] theorem creates_writeExternal {lookup : String} {state : ExternalAuthTransaction}
    {f : UInt8} :
    (Op.redis (Sent.writeExternal lookup state).command).creates f = decide (101 = f) := by
  rw [Sent.command, Op.creates, family_external]

@[simp] theorem creates_writeLogout {lookup : String} {state : CommonLogoutTransaction}
    {f : UInt8} :
    (Op.redis (Sent.writeLogout lookup state).command).creates f = decide (108 = f) := by
  rw [Sent.command, Op.creates, family_logout]

/-- The operation creates no record. -/
def Op.Quiet (o : Op) : Prop := ∀ f, o.creates f = false

/-- The operation creates records of no other family. -/
def Op.Only (f : UInt8) (o : Op) : Prop := ∀ f', o.creates f' = true → f' = f

theorem Op.Quiet.only {o : Op} (h : o.Quiet) (f : UInt8) : o.Only f := fun f' hc => by
  rw [h f'] at hc
  cases hc

theorem Op.Only.creates_ne {o : Op} {f f' : UInt8} (h : o.Only f) (hne : f' ≠ f) :
    o.creates f' = false := by
  by_contra hc
  exact hne (h f' (by simpa using hc))

/-- No record of the family was created. -/
def Fresh (f : UInt8) (H : History Reply) : Prop := ∀ e ∈ H, e.1.creates f = false

/-- **Operations of a handler**: they are justified, and create at most one record of a family. -/
def Allowed [Crates] (refs : List String) (H : History Reply) (o : Op) : Prop :=
  Lawful refs H o ∧ ∀ f, o.creates f = true → Fresh f H

/-- Operations of a handler that create no record. -/
abbrev Reads [Crates] (refs : List String) (H : History Reply) (o : Op) : Prop :=
  Allowed refs H o ∧ o.Quiet

theorem fresh_nil (f : UInt8) : Fresh f [] := by simp [Fresh]

theorem Fresh.append {f : UInt8} {H D : History Reply} (h : Fresh f H)
    (hD : ∀ e ∈ D, e.1.creates f = false) : Fresh f (H ++ D) := by
  intro e he
  rcases List.mem_append.mp he with he | he
  · exact h e he
  · exact hD e he

theorem Fresh.quiet {f : UInt8} {H D : History Reply} (h : Fresh f H)
    (hD : ∀ e ∈ D, e.1.Quiet) : Fresh f (H ++ D) := h.append fun e he => hD e he f

theorem Lawful.reads [Crates] {refs : List String} {H : History Reply} {o : Op}
    (h : Lawful refs H o) (hq : o.Quiet) : Reads refs H o :=
  ⟨⟨h, fun f hf => by rw [hq f] at hf; cases hf⟩, hq⟩

/-! ## Functions -/

section Functions

variable [Crates] {refs : List String} {H : History Reply} {f : UInt8}

open Prog

theorem systemTimeNow_sat : systemTimeNow.Sat (Reads refs)
    (fun H' t => ∀ now, unixSeconds t = .ok now → Clock H' now) H :=
  (sat_ask (Φ := Reads refs) (o := .systemTimeNow) (Lawful.reads trivial fun _ => rfl)).mono
    (fun _ _ => id) fun _ t ht _ hn => ⟨t, ht, hn⟩

theorem getMultiplexedTokioConnection_sat : getMultiplexedTokioConnection.Sat (Reads refs)
    (fun H' r => Observed H' .getMultiplexedTokioConnection r) H :=
  sat_ask (Φ := Reads refs) (Lawful.reads trivial fun _ => rfl)

theorem generateReferenceValue_sat : generateReferenceValue.Sat (Reads refs)
    (fun H' r => ∀ v, r = .ok v → ∃ bytes, Observed H' .tryFillBytes (.ok bytes) ∧
      v = referenceValue bytes) H := by
  refine ⟨Lawful.reads trivial fun _ => rfl, fun r => ?_⟩
  cases r with
  | error e => exact nofun
  | ok bytes =>
    intro v hv
    cases hv
    exact ⟨bytes, observed_last, rfl⟩

theorem lookupLoginCallbackUri_sat {serviceId : String} :
    (lookupLoginCallbackUri serviceId).Sat (Reads refs) (fun H' r => ∀ uri, r = .ok uri →
      Observed H' (.sql (.selectLoginCallbackUri serviceId)) (.ok (some (true, uri)))) H := by
  refine ⟨Lawful.reads trivial fun _ => rfl, fun r => ?_⟩
  match r with
  | .error e => exact nofun
  | .ok none => exact nofun
  | .ok (some (false, uri)) => exact nofun
  | .ok (some (true, uri)) =>
    intro v hv
    cases hv
    exact observed_last

theorem lookupLogoutReturnUri_sat {serviceId : String} :
    (lookupLogoutReturnUri serviceId).Sat (Reads refs) (fun H' r => ∀ uri, r = .ok uri →
      Observed H' (.sql (.selectLogoutReturnUri serviceId)) (.ok (some (true, uri)))) H := by
  refine ⟨Lawful.reads trivial fun _ => rfl, fun r => ?_⟩
  match r with
  | .error e => exact nofun
  | .ok none => exact nofun
  | .ok (some (false, uri)) => exact nofun
  | .ok (some (true, uri)) =>
    intro v hv
    cases hv
    exact observed_last

theorem readInternalUserEnabled_sat {u : Int32} :
    (readInternalUserEnabled u).Sat (Reads refs) (fun H' r => r = .ok (some true) →
      Observed H' (.sql (.selectInternalUser u)) (.ok (some true))) H := by
  refine ⟨Lawful.reads trivial fun _ => rfl, fun r => ?_⟩
  cases r with
  | error e => exact nofun
  | ok row =>
    intro hv
    cases hv
    exact observed_last

theorem authenticateService_sat {serviceId secret : String} :
    (authenticateService serviceId secret).Sat (Reads refs)
      (fun H' r => ∀ v, r = .ok v → EnabledService H' serviceId) H := by
  refine ⟨Lawful.reads trivial fun _ => rfl, fun r => ?_⟩
  cases r with
  | error e =>
    intro _ h
    cases h
  | ok row =>
  cases row with
  | none =>
    intro _ h
    cases h
  | some row =>
  obtain ⟨id, enabled, login, logout, digest⟩ := row
  cases enabled with
  | false =>
    intro _ h
    cases h
  | true =>
    simp only [Prog.pure_eq, Prog.bind, Bool.not_true, Bool.false_eq_true, if_false]
    split
    · intro _ h
      cases h
    · split_ifs
      · intro _ h
        cases h
      · exact fun _ _ => .secret id login logout digest observed_last

theorem readExternalIdentityWithUser_sat {provider subject : String} :
    (readExternalIdentityWithUser provider subject).Sat (Reads refs) (fun H' r => ∀ u,
      r = .ok (some (u, some true)) → EnabledUser H' u) H := by
  refine ⟨Lawful.reads trivial fun _ => rfl, fun r => ?_⟩
  cases r with
  | error e => exact nofun
  | ok row =>
    intro u hu
    cases hu
    exact .identity provider subject observed_last

theorem createExternalIdentity_sat {provider subject : String} :
    (createExternalIdentity provider subject).Sat (Reads refs)
      (fun H' r => ∀ u, r = .ok u → EnabledUser H' u) H := by
  refine ⟨Lawful.reads trivial fun _ => rfl, fun r => ?_⟩
  cases r with
  | error e => exact nofun
  | ok _ =>
  refine ⟨Lawful.reads trivial fun _ => rfl, fun r => ?_⟩
  cases r with
  | error e => exact ⟨Lawful.reads trivial fun _ => rfl, fun r => nofun⟩
  | ok u =>
  have hu : EnabledUser (H ++ [⟨.sql .begin, .ok ()⟩] ++ [⟨.sql .insertInternalUser, .ok u⟩]) u :=
    .new observed_last
  refine ⟨Lawful.reads trivial fun _ => rfl, fun r => ?_⟩
  cases r with
  | ok _ =>
    refine ⟨Lawful.reads trivial fun _ => rfl, fun r => ?_⟩
    cases r with
    | error e => exact nofun
    | ok _ =>
      intro v hv
      cases hv
      exact (hu.append _).append _
  | error e =>
    refine ⟨Lawful.reads trivial fun _ => rfl, fun r => ?_⟩
    cases r with
    | error e => exact nofun
    | ok _ =>
      show Sat _ _ (if !isExternalIdentityUniqueViolation e then _ else _) _
      split_ifs
      · exact nofun
      · refine Sat.bind
          (readExternalIdentityWithUser_sat.mono (fun _ _ => id) fun H' row hrow => ?_)
        match row with
        | .error e => exact nofun
        | .ok none => exact nofun
        | .ok (some (v, none)) => exact nofun
        | .ok (some (v, some false)) => exact nofun
        | .ok (some (v, some true)) =>
          intro w hw
          cases hw
          exact hrow v rfl

theorem resolveExternalIdentity_sat {provider subject : String} :
    (resolveExternalIdentity provider subject).Sat (Reads refs)
      (fun H' r => ∀ u, r = .ok u → EnabledUser H' u) H := by
  refine Sat.bind (readExternalIdentityWithUser_sat.mono (fun _ _ => id) fun H' row hrow => ?_)
  match row with
  | .error e => exact nofun
  | .ok none => exact createExternalIdentity_sat
  | .ok (some (v, none)) => exact nofun
  | .ok (some (v, some false)) => exact nofun
  | .ok (some (v, some true)) =>
    intro w hw
    cases hw
    exact hrow v rfl

/-! ## Calls on records -/

/-- A write of a new record, and its expiry. -/
theorem writeState_sat {key : String} {fields : List (String × String)} {expiresAt now : UInt64}
    {x y : Sent} (hx : x.command = .hset key (fieldBytes fields))
    (hy : y.command = .expireat key (utf8 (toString expiresAt))) (hl : x.Lawful refs H)
    (hf : Fresh (family key) H)
    (hnext : ∀ n, y.Lawful refs (H ++ [⟨.redis (.hset key (fieldBytes fields)), .ok n⟩])) :
    (writeState key fields expiresAt now).Sat
      (fun H o => Allowed refs H o ∧ o.Only (family (utf8 key))) (fun _ _ => True) H := by
  simp only [writeState, queryAsync]
  split
  · trivial
  · have hfam : ∀ f, (Op.redis (.hset key (fieldBytes fields))).creates f = true →
        f = family (utf8 key) := by
      intro f hc
      simpa [Op.creates, eq_comm] using hc
    refine ⟨⟨⟨⟨x, hx.symm, hl⟩, fun f hc => hfam f hc ▸ hf⟩, hfam⟩, fun r => ?_⟩
    cases r with
    | error e => trivial
    | ok n =>
      refine ⟨⟨⟨⟨y, hy.symm, hnext n⟩, fun f hc => by cases hc⟩, fun f hc => by cases hc⟩,
        fun r => ?_⟩
      cases r <;> trivial

theorem writeExternal_sat {reference : String} {state : ExternalAuthTransaction} {now : UInt64}
    (hl : (Sent.writeExternal (referenceValueLookup reference) state).Lawful refs H)
    (hf : Fresh 101 H) :
    (writeExternal reference state now).Sat (fun H o => Allowed refs H o ∧ o.Only 101)
      (fun _ _ => True) H := by
  have hk : family (utf8 (externalKey reference)) = 101 := family_external
  have hw : (writeExternal reference state now).Sat (fun H o => Allowed refs H o ∧
      o.Only (family (utf8 (externalKey reference)))) (fun _ _ => True) H :=
    writeState_sat (x := .writeExternal _ state) (y := .expireExternal _ state.expiresAt) rfl rfl hl
      (hk.symm ▸ hf) fun n => ⟨state, _, observed_last, rfl⟩
  rwa [hk] at hw

theorem writeLogout_sat {reference : String} {state : CommonLogoutTransaction} {now : UInt64}
    (hl : (Sent.writeLogout (referenceValueLookup reference) state).Lawful refs H)
    (hf : Fresh 108 H) :
    (writeLogout reference state now).Sat (fun H o => Allowed refs H o ∧ o.Only 108)
      (fun _ _ => True) H := by
  have hk : family (utf8 (logoutKey reference)) = 108 := family_logout
  have hw : (writeLogout reference state now).Sat (fun H o => Allowed refs H o ∧
      o.Only (family (utf8 (logoutKey reference)))) (fun _ _ => True) H :=
    writeState_sat (x := .writeLogout _ state) (y := .expireLogout _ state.expiresAt) rfl rfl hl
      (hk.symm ▸ hf) fun n => ⟨state, _, observed_last, rfl⟩
  rwa [hk] at hw

theorem Lawful.reads_sent {x : Sent} (h : x.Lawful refs H) (hq : (Op.redis x.command).Quiet) :
    Reads refs H (.redis x.command) :=
  Lawful.reads ⟨x, rfl, h⟩ hq

theorem readSession_sat {reference : String} {now : UInt64}
    (hn : Named refs (referenceValueLookup reference)) (hc : Clock H now) :
    (readSession reference now).Sat (Reads refs) (fun H' r => ∀ state, r = .ok state →
      SessionRead H' (referenceValueLookup reference) state) H := by
  refine ⟨Lawful.reads_sent (x := .readSession _) hn fun _ => rfl, fun r => ?_⟩
  cases r with
  | error e =>
    intro _ h
    cases h
  | ok hash =>
    dsimp only [Prog.pure_eq, Prog.bind]
    cases hf : fieldsReply (.ok hash) with
    | error e =>
      intro _ h
      cases h
    | ok fields =>
      have hf' : Fields.ofHash? hash = some fields := by
        simp only [fieldsReply] at hf
        split at hf
        · cases hf
        · split_ifs at hf
          cases hf
          assumption
      dsimp only
      cases hd : decodeSession fields with
      | error e =>
        intro _ h
        cases h
      | ok state =>
        have hr : SessionRead (H ++ [⟨.redis (Sent.readSession (referenceValueLookup
            reference)).command, .ok hash⟩]) (referenceValueLookup reference) state :=
          ⟨hash, fields, observed_last, hf', hd⟩
        dsimp only [expireIfNeeded]
        split_ifs with hu
        · intro v hv
          cases hv
          exact hr
        · have hle : state.expiresAt ≤ now := by
            rw [isUnexpired, decide_eq_true_eq] at hu
            exact UInt64.not_lt.mp hu
          refine ⟨Lawful.reads_sent (x := .dropSession _) ⟨hn, state, now, hr, hc.append _, hle⟩
            fun _ => rfl, fun r => ?_⟩
          cases r <;> (intro _ h; cases h)

theorem claimExternalCallback_sat {reference : String}
    (hn : Named refs (referenceValueLookup reference)) :
    (claimExternalCallback reference).Sat (Reads refs) (fun H' r =>
      ∃ v : Except Redis.Error (List Value),
        H' = H ++ [⟨.redis (Sent.claim (referenceValueLookup reference)).command, v⟩] ∧
          r = scriptReply claimReply v) H :=
  invoke_sat (Lawful.reads_sent (x := .claim _) hn fun _ => rfl)

theorem issueSsoHandoff_sat {session handoff : String} {record : AuthenticationHandoff}
    (hl : (Sent.issue (referenceValueLookup session) (referenceValueLookup handoff) record).Lawful
      refs H) (hf : Fresh 104 H) :
    (issueSsoHandoff session handoff record).Sat (fun H o => Allowed refs H o ∧ o.Only 104)
      (fun H' r => ∃ v : Except Redis.Error (List Value),
        H' = H ++ [⟨.redis (Sent.issue (referenceValueLookup session)
          (referenceValueLookup handoff) record).command, v⟩] ∧ r = scriptReply unitReply v) H := by
  have hc : ∀ f, (Op.redis (Sent.issue (referenceValueLookup session)
      (referenceValueLookup handoff) record).command).creates f = true → f = 104 := by
    intro f hc
    simpa [Sent.command, Op.creates] using hc
  exact invoke_sat (Φ := fun H o => Allowed refs H o ∧ o.Only 104)
    ⟨⟨⟨.issue _ _ record, rfl, hl⟩, fun f h => hc f h ▸ hf⟩, hc⟩

theorem createSessionAndHandoff_sat {session handoff : String} {state : CommonSession}
    {record : AuthenticationHandoff}
    (hl : (Sent.create (referenceValueLookup session) state (referenceValueLookup handoff)
      record).Lawful refs H) (hf : Fresh 104 H) (hf' : Fresh 115 H) :
    (createSessionAndHandoff session state handoff record).Sat (Allowed refs) (fun H' r =>
      ∃ v : Except Redis.Error (List Value),
        H' = H ++ [⟨.redis (Sent.create (referenceValueLookup session) state
          (referenceValueLookup handoff) record).command, v⟩] ∧ r = scriptReply unitReply v) H := by
  refine invoke_sat (Φ := Allowed refs) ⟨⟨.create _ state _ record, rfl, hl⟩, fun f hc => ?_⟩
  obtain rfl | rfl : f = 104 ∨ f = 115 := by simpa [Op.creates] using hc
  · exact hf
  · exact hf'

theorem exchangeHandoff_sat {handoff serviceId challenge : String}
    (hn : Named refs (referenceValueLookup handoff)) (hs : EnabledService H serviceId) :
    (exchangeHandoff handoff serviceId challenge).Sat (Reads refs) (fun H' r =>
      ∀ v, r = .ok v → ∃ lookup, ∃ reply : List Value,
        Observed H' (.redis (Sent.exchange (referenceValueLookup handoff) serviceId challenge
          lookup).command) (.ok reply) ∧ exchangeReply reply = .ok v) H := by
  refine ⟨Lawful.reads_sent (x := .typeHandoff _) hn fun _ => rfl, fun r => ?_⟩
  cases r with
  | error e =>
    intro _ h
    cases h
  | ok keyType =>
  change Prog.Sat _ _ ((if keyType = "none" then _ else _) >>= fun _ => _) _
  split_ifs
  · intro _ h
    cases h
  · intro _ h
    cases h
  refine ⟨Lawful.reads_sent (x := .readHandoffLookup _) hn fun _ => rfl, fun r => ?_⟩
  dsimp only [Prog.pure_eq, Prog.bind]
  cases hl : lookupReply r with
  | error e =>
    intro _ h
    cases h
  | ok lookup =>
    have hlookup := isLookup_of_lookupReply hl
    have hkey : sessionKeyFromLookup lookup = .ok ("auth:session:" ++ lookup) :=
      if_neg (by rw [hlookup]; exact Bool.false_ne_true)
    dsimp only
    rw [hkey]
    refine (invoke_sat (Lawful.reads_sent (x := .exchange _ serviceId challenge lookup)
      ⟨hn, hlookup, (hs.append _).append _⟩ fun _ => rfl)).mono (fun _ _ => id) ?_
    rintro H' r' ⟨v, rfl, rfl⟩ w hw
    cases v with
    | error e => cases hw
    | ok reply => exact ⟨lookup, reply, observed_last, hw⟩

theorem completeCommonLogout_sat {reference session csrfLookup : String}
    (hn : Named refs (referenceValueLookup reference))
    (hs : Named refs (referenceValueLookup session)) :
    (completeCommonLogout reference session csrfLookup).Sat (Reads refs) (fun H' r =>
      ∃ v : Except Redis.Error (List Value),
        H' = H ++ [⟨.redis (Sent.logout (referenceValueLookup reference)
          (referenceValueLookup session) csrfLookup).command, v⟩] ∧
          r = scriptReply logoutReply v) H :=
  invoke_sat (Lawful.reads_sent (x := .logout _ _ csrfLookup) ⟨hn, hs⟩ fun _ => rfl)

end Functions

end AuthFoundation
