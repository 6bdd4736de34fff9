import AuthFoundation.RedisState

set_option autoImplicit false

/-!
# The commands of the service

Every Redis command of the service is one of a few forms.

* `Key.external`, …, `family`: the keys of the four families.
* `Sent`, `Sent.command`: the forms with their arguments; a command determines its form
  (`Sent.command_injective`).
* `RedisCall.sat`: the commands of each call, in order, and where its results come from.
-/

namespace AuthFoundation

open Text Redis

/-! ## Keys -/

namespace Key

def external (lookup : String) : Bytes := utf8 ("auth:external:" ++ lookup)

def session (lookup : String) : Bytes := utf8 ("auth:session:" ++ lookup)

def handoff (lookup : String) : Bytes := utf8 ("auth:handoff:" ++ lookup)

def logout (lookup : String) : Bytes := utf8 ("auth:logout:" ++ lookup)

end Key

/-- The byte that tells the families of keys apart. -/
def family (k : Bytes) : UInt8 := k.getD 5 0

section Keys

variable {l l' : String}

theorem ne_of_family {k k' : Bytes} (h : family k ≠ family k') : k ≠ k' :=
  fun e => h (congrArg family e)

@[simp] theorem family_external : family (Key.external l) = 101 := by
  rw [Key.external, utf8_append]
  rfl

@[simp] theorem family_session : family (Key.session l) = 115 := by
  rw [Key.session, utf8_append]
  rfl

@[simp] theorem family_handoff : family (Key.handoff l) = 104 := by
  rw [Key.handoff, utf8_append]
  rfl

@[simp] theorem family_logout : family (Key.logout l) = 108 := by
  rw [Key.logout, utf8_append]
  rfl

theorem append_left_inj {p a b : String} : utf8 (p ++ a) = utf8 (p ++ b) ↔ a = b := by
  rw [utf8_append, utf8_append, List.append_cancel_left_eq, utf8_inj]

@[simp] theorem external_inj : Key.external l = Key.external l' ↔ l = l' := append_left_inj

@[simp] theorem session_inj : Key.session l = Key.session l' ↔ l = l' := append_left_inj

@[simp] theorem handoff_inj : Key.handoff l = Key.handoff l' ↔ l = l' := append_left_inj

@[simp] theorem logout_inj : Key.logout l = Key.logout l' ↔ l = l' := append_left_inj

end Keys

/-! ## Commands -/

/-- The commands of the service; records are named by the lookups of their references. -/
inductive Sent where
  | writeExternal (lookup : String) (state : ExternalAuthTransaction)
  | expireExternal (lookup : String) (expiresAt : UInt64)
  | writeLogout (lookup : String) (state : CommonLogoutTransaction)
  | expireLogout (lookup : String) (expiresAt : UInt64)
  | readSession (lookup : String)
  | dropSession (lookup : String)
  | claim (lookup : String)
  | issue (session handoff : String) (record : AuthenticationHandoff)
  | create (session : String) (state : CommonSession) (handoff : String)
      (record : AuthenticationHandoff)
  | typeHandoff (handoff : String)
  | readHandoffLookup (handoff : String)
  | exchange (handoff serviceId challenge session : String)
  | logout (lookup session csrfLookup : String)

def Sent.command : Sent → Command
  | writeExternal lookup state => .hset (Key.external lookup) (fieldBytes (encodeExternal state))
  | expireExternal lookup expiresAt =>
    .expireat (Key.external lookup) (utf8 (toString expiresAt))
  | writeLogout lookup state => .hset (Key.logout lookup) (fieldBytes (encodeLogout state))
  | expireLogout lookup expiresAt => .expireat (Key.logout lookup) (utf8 (toString expiresAt))
  | readSession lookup => .hgetall (Key.session lookup)
  | dropSession lookup => .del (Key.session lookup)
  | claim lookup => .eval .callbackClaim [Key.external lookup] []
  | issue session handoff record => .eval .issueSsoHandoff
      [Key.session session, Key.handoff handoff]
      ([session, record.serviceId, toString record.internalUserId, record.commonSessionLookup,
        record.codeChallenge, toString record.authenticatedAt, toString record.issuedAt,
        toString record.expiresAt, usageStatusValue record.status].map utf8)
  | create session state handoff record => .eval .createSessionAndHandoff
      [Key.session session, Key.handoff handoff]
      ([toString state.internalUserId, toString state.authenticatedAt, toString state.createdAt,
        toString state.expiresAt, session, record.serviceId, toString record.internalUserId,
        record.commonSessionLookup, record.codeChallenge, toString record.authenticatedAt,
        toString record.issuedAt, toString record.expiresAt,
        usageStatusValue record.status].map utf8)
  | typeHandoff handoff => .type (Key.handoff handoff)
  | readHandoffLookup handoff => .hget (Key.handoff handoff) "common_session_lookup"
  | exchange handoff serviceId challenge session => .eval .exchangeHandoff
      [Key.handoff handoff, Key.session session] ([serviceId, challenge, session].map utf8)
  | logout lookup session csrfLookup => .eval .completeCommonLogout
      [Key.logout lookup, Key.session session] ([csrfLookup].map utf8)

section Injective

@[simp] theorem toString_u64_inj {n m : UInt64} : toString n = toString m ↔ n = m := by
  refine ⟨fun h => ?_, congrArg _⟩
  have := congrArg (fun s => parseUInt64 (utf8 s)) h
  simpa using this

@[simp] theorem toString_i32_inj {n m : Int32} : toString n = toString m ↔ n = m := by
  refine ⟨fun h => ?_, congrArg _⟩
  have := congrArg (fun s => parseInt32 (utf8 s)) h
  simpa using this

@[simp] theorem usageStatusValue_inj {a b : UsageStatus} :
    usageStatusValue a = usageStatusValue b ↔ a = b := by
  cases a <;> cases b <;> simp [usageStatusValue]

@[simp] theorem externalStatusValue_inj {a b : ExternalStatus} :
    externalStatusValue a = externalStatusValue b ↔ a = b := by
  cases a <;> cases b <;> simp [externalStatusValue]

@[simp] theorem external_ne_logout {l l' : String} : Key.external l ≠ Key.logout l' :=
  ne_of_family (by simp)

/-- **A command determines its form** with all arguments. -/
theorem Sent.command_injective : Function.Injective Sent.command := by
  intro x y h
  cases x <;> cases y <;>
    simp_all [Sent.command, fieldBytes, encodeExternal, encodeLogout, external_ne_logout.symm,
      ExternalAuthTransaction.ext_iff, CommonLogoutTransaction.ext_iff,
      AuthenticationHandoff.ext_iff, CommonSession.ext_iff]

end Injective

section Calls

variable [Crates]

theorem isLookup_referenceValueLookup (r : String) : isLookup (referenceValueLookup r) = true := by
  have hh := all_isHex_hex (sha256Digest (utf8 r)).toList
  have hl := length_hex (sha256Digest (utf8 r)).toList
  rw [Vector.length_toList] at hl
  simp only [isLookup, referenceValueLookup, len, hl, isAscii, hh, Bool.and_true,
    decide_true, Bool.true_and]
  rw [List.all_eq_true] at hh ⊢
  exact fun b hb => decide_eq_true (lt_of_isHex (hh b hb))

/-! ## The commands of each call -/

/-- The command a call issues after the operations `H`. -/
def RedisCall.Next (H : History Reply) (x : Sent) : RedisCall → Prop
  | writeExternal reference state _ =>
    (H = [] ∧ x = .writeExternal (referenceValueLookup reference) state) ∨
      (H.length = 1 ∧ x = .expireExternal (referenceValueLookup reference) state.expiresAt)
  | writeLogout reference state _ =>
    (H = [] ∧ x = .writeLogout (referenceValueLookup reference) state) ∨
      (H.length = 1 ∧ x = .expireLogout (referenceValueLookup reference) state.expiresAt)
  | readSession reference _ =>
    (H = [] ∧ x = .readSession (referenceValueLookup reference)) ∨
      (H.length = 1 ∧ x = .dropSession (referenceValueLookup reference))
  | claimExternalCallback reference => H = [] ∧ x = .claim (referenceValueLookup reference)
  | issueSsoHandoff session handoff record =>
    H = [] ∧ x = .issue (referenceValueLookup session) (referenceValueLookup handoff) record
  | createSessionAndHandoff session state handoff record =>
    H = [] ∧
      x = .create (referenceValueLookup session) state (referenceValueLookup handoff) record
  | exchangeHandoff handoff serviceId challenge =>
    (H = [] ∧ x = .typeHandoff (referenceValueLookup handoff)) ∨
      (H.length = 1 ∧ x = .readHandoffLookup (referenceValueLookup handoff)) ∨
      ∃ lookup, H.length = 2 ∧ isLookup lookup = true ∧
        x = .exchange (referenceValueLookup handoff) serviceId challenge lookup
  | completeCommonLogout reference session csrfLookup =>
    H = [] ∧
      x = .logout (referenceValueLookup reference) (referenceValueLookup session) csrfLookup

/-- Where the result of a call comes from. -/
def RedisCall.Returned (H : History Reply) :
    (q : RedisCall) → Except RedisStateError q.Result → Prop
  | readSession reference _, result =>
    H.head? = some ⟨.redis (.hgetall (sessionKey reference)), .ok (∅ : Hash)⟩ →
      result = .error .notFound
  | claimExternalCallback reference, result => ∀ tx, result = .ok tx → ∃ reply : List Value,
    ⟨.redis (Sent.claim (referenceValueLookup reference)).command, .ok reply⟩ ∈ H ∧
      claimReply reply = .ok tx
  | exchangeHandoff handoff serviceId challenge, result => ∀ v, result = .ok v →
    ∃ lookup, ∃ reply : List Value,
      ⟨.redis (Sent.exchange (referenceValueLookup handoff) serviceId challenge lookup).command,
        .ok reply⟩ ∈ H ∧ exchangeReply reply = .ok v
  | _, _ => True

omit [Crates] in
theorem isLookup_of_lookupReply {r : Except Redis.Error (Option Bytes)} {lookup : String}
    (h : lookupReply r = .ok lookup) : isLookup lookup = true := by
  unfold lookupReply at h
  split at h
  · cases h
  · cases h
  · split at h
    · cases h
    · split at h
      · cases h
      · rename_i hl
        cases h
        simpa using hl

/-- The operations a call may issue. -/
def RedisCall.Issues (q : RedisCall) (H : History Reply) (o : Op) : Prop :=
  ∃ x : Sent, o = .redis x.command ∧ q.Next H x

theorem RedisCall.sat (q : RedisCall) :
    q.run.Sat q.Issues (fun H r => q.Returned H r) [] := by
  cases q with
  | writeExternal reference state now =>
    simp only [run, AuthFoundation.writeExternal, writeState, queryAsync]
    split
    · trivial
    · refine ⟨⟨.writeExternal _ state, rfl, .inl ⟨rfl, rfl⟩⟩, fun r => ?_⟩
      cases r with
      | error e => trivial
      | ok n =>
        refine ⟨⟨.expireExternal _ state.expiresAt, rfl, .inr ⟨rfl, rfl⟩⟩, fun r => ?_⟩
        cases r <;> trivial
  | writeLogout reference state now =>
    simp only [run, AuthFoundation.writeLogout, writeState, queryAsync]
    split
    · trivial
    · refine ⟨⟨.writeLogout _ state, rfl, .inl ⟨rfl, rfl⟩⟩, fun r => ?_⟩
      cases r with
      | error e => trivial
      | ok n =>
        refine ⟨⟨.expireLogout _ state.expiresAt, rfl, .inr ⟨rfl, rfl⟩⟩, fun r => ?_⟩
        cases r <;> trivial
  | readSession reference now =>
    refine ⟨⟨.readSession _, rfl, .inl ⟨rfl, rfl⟩⟩, fun r => ?_⟩
    have hr : ∀ {H result}, (r = .ok (∅ : Hash) → result = .error .notFound) →
        Returned ([⟨.redis (.hgetall (sessionKey reference)), r⟩] ++ H)
          (readSession reference now) result := by
      intro H result h hm
      rw [List.cons_append, List.head?_cons, Option.some.injEq, Sigma.mk.injEq] at hm
      exact h (eq_of_heq hm.2)
    dsimp only [Prog.bind]
    cases hf : fieldsReply r with
    | error e =>
      refine hr (H := []) fun h => ?_
      subst h
      cases hf
      rfl
    | ok fields =>
      have hne : r ≠ .ok (∅ : Hash) := by
        rintro rfl
        cases hf
      dsimp only [Prog.pure_eq, Prog.bind]
      cases hd : decodeSession fields with
      | error e => exact hr (H := []) fun h => absurd h hne
      | ok state =>
        dsimp only [expireIfNeeded]
        split_ifs
        · exact hr (H := []) fun h => absurd h hne
        · refine ⟨⟨.dropSession _, rfl, .inr ⟨rfl, rfl⟩⟩, fun r' => ?_⟩
          cases r' with
          | error e => exact hr fun h => absurd h hne
          | ok n => exact hr fun h => absurd h hne
  | claimExternalCallback reference =>
    refine ⟨⟨.claim _, rfl, rfl, rfl⟩, fun r => ?_⟩
    cases r with
    | error e =>
      intro _ h
      cases h
    | ok reply => exact fun tx h => ⟨reply, List.mem_singleton_self _, h⟩
  | issueSsoHandoff session handoff record =>
    refine ⟨⟨.issue _ _ record, rfl, rfl, rfl⟩, fun r => ?_⟩
    cases r <;> trivial
  | createSessionAndHandoff session state handoff record =>
    refine ⟨⟨.create _ state _ record, rfl, rfl, rfl⟩, fun r => ?_⟩
    cases r <;> trivial
  | exchangeHandoff handoff serviceId challenge =>
    refine ⟨⟨.typeHandoff _, rfl, .inl ⟨rfl, rfl⟩⟩, fun r => ?_⟩
    cases r with
    | error e =>
      intro _ h
      cases h
    | ok keyType =>
      change Prog.Sat _ _ ((if keyType = "none" then _ else _) >>= fun _ => _) _
      split_ifs
      · intro _ h
        cases h
      · intro _ h
        cases h
      · refine ⟨⟨.readHandoffLookup _, rfl, .inr (.inl ⟨rfl, rfl⟩)⟩, fun r => ?_⟩
        dsimp only [Prog.bind]
        cases hl : lookupReply r with
        | error e =>
          intro _ h
          cases h
        | ok lookup =>
          have hlookup := isLookup_of_lookupReply hl
          have hkey : sessionKeyFromLookup lookup = .ok ("auth:session:" ++ lookup) :=
            if_neg (by rw [hlookup]; exact Bool.false_ne_true)
          dsimp only [Prog.pure_eq, Prog.bind]
          rw [hkey]
          refine ⟨⟨.exchange _ serviceId challenge lookup, rfl,
            .inr (.inr ⟨lookup, rfl, hlookup, rfl⟩)⟩, fun r' => ?_⟩
          cases r' with
          | error e =>
            intro _ h
            cases h
          | ok reply =>
            intro v hv
            refine ⟨lookup, reply, ?_, hv⟩
            exact List.mem_append_right _ (List.mem_singleton_self _)
  | completeCommonLogout reference session csrfLookup =>
    refine ⟨⟨.logout _ _ csrfLookup, rfl, rfl, rfl⟩, fun r => ?_⟩
    cases r <;> trivial

omit [Crates] in
/-- A call of a script answers with what it makes of the reply. -/
theorem invoke_sat {α : Type} {H : History Reply} {Φ : History Reply → Op → Prop}
    {script : ScriptName}
    {keys arguments : List String} {reply : List Value → Except RedisStateError α}
    (hl : Φ H (.redis (.eval script (keys.map utf8) (arguments.map utf8)))) :
    (invoke script keys arguments reply).Sat Φ (fun H' r =>
      ∃ v : Except Redis.Error (List Value),
        H' = H ++ [⟨.redis (.eval script (keys.map utf8) (arguments.map utf8)), v⟩] ∧
          r = scriptReply reply v) H :=
  ⟨hl, fun v => ⟨v, rfl, rfl⟩⟩

end Calls

end AuthFoundation
