import AuthFoundation.Exchange
import AuthFoundation.Logout
import AuthFoundation.Reporting
import AuthFoundation.Vault

set_option autoImplicit false

/-!
# Redis as a vault

A store that holds only well-formed records answers every command as the vault of its records does.

* `recordOf`, `vaultOf`: the records in a store.
* `RecordKind.Accepted`, `WellStored`: records the scripts accept, each at a key of its kind.
* `Ready`: what a command may assume about the store.
* `WellStored.exec`: **a command on the store is the same command on the vault**.
-/

namespace AuthFoundation

open Text Redis

/-! ## The vault in a store -/

/-- The record at a key. -/
def recordOf (s : State) (f : RecordKind) (l : String) : Option f.Record :=
  match s.object (f.key l) with
  | some (.hash g) => (Fields.ofHash? g).bind fun fields => (f.decode fields).toOption
  | _ => none

/-- **The vault in a store.** -/
def vaultOf (s : State) : Vault := ⟨s.time, recordOf s⟩

/-- The scripts accept the record. -/
def RecordKind.Accepted : (f : RecordKind) → f.Record → Prop
  | external, a => externalValid (recordHash (encodeExternal a)) = true
  | session, a => sessionValid (recordHash (encodeSession a)) = true
  | handoff, a => handoffValid (recordHash (encodeHandoff a)) = true
  | logout, a => logoutValid (recordHash (encodeLogout a)) = true

section Kinds

variable {f g : RecordKind} {a b : f.Record} {s s' : State} {k : Bytes} {l : String} {x : Option ℕ}

theorem RecordKind.Accepted.named (h : f.Accepted a) : f.named a = true := by
  cases f with
  | external => rfl
  | session => rfl
  | handoff => exact ((handoffValid_record a).mp h).1
  | logout => exact ((logoutValid_record a).mp h).1

theorem recordOf_none (h : s.entries (f.key l) = none) : recordOf s f l = none := by
  rw [recordOf, State.object, h]
  rfl

theorem recordOf_stored (hn : f.named a = true)
    (h : s.entries (f.key l) = some ⟨.hash (recordHash (f.encode a)), x⟩) :
    recordOf s f l = some a := by
  have ho : s.object (f.key l) = some (.hash (recordHash (f.encode a))) := by
    rw [State.object, h]
    rfl
  obtain ⟨fields, hf, -⟩ := ofHash?_recordHash (f.encode_nodup a)
  have hd : f.decode fields = .ok a :=
    decode_record (f.encode_nodup a) (fun _ => f.decode_encode hn) hf
  rw [recordOf, ho]
  dsimp only
  rw [hf, Option.bind_some, hd]
  rfl

theorem recordOf_congr (h : s'.object (f.key l) = s.object (f.key l)) :
    recordOf s' f l = recordOf s f l := by
  rw [recordOf, recordOf, h]

/-! ## Changes of the store -/

/-- A store that differs at one key. -/
theorem vaultOf_set_eq {r : Option f.Record} (ht : s'.time = s.time)
    (hne : ∀ k, k ≠ f.key l → s'.entries k = s.entries k) (hr : recordOf s' f l = r) :
    vaultOf s' = (vaultOf s).set f l r := by
  refine Vault.ext ht (funext fun g => funext fun l' => ?_)
  have hkept : f.key l ≠ g.key l' → recordOf s' g l' = recordOf s g l' := fun hk =>
    recordOf_congr (by rw [State.object, State.object, hne _ hk.symm])
  by_cases hg : g = f
  · subst hg
    by_cases hl : l' = l
    · subst hl
      rw [Vault.set_self]
      exact hr
    · rw [Vault.set_of_ne_lookup hl]
      exact hkept fun e => hl (g.key_inj.mp e).symm
  · rw [Vault.set_of_ne_kind hg]
    exact hkept (RecordKind.key_ne (Ne.symm hg))

theorem vaultOf_put (hn : f.named a = true) :
    vaultOf (s.set (f.key l) ⟨.hash (recordHash (f.encode a)), x⟩) = (vaultOf s).put f l a :=
  vaultOf_set_eq rfl (fun _ hk => set_entries_of_ne s _ hk)
    (recordOf_stored hn (set_entries_self ..))

theorem vaultOf_drop : vaultOf (s.del (f.key l)) = (vaultOf s).drop f l :=
  vaultOf_set_eq rfl (fun _ hk => del_entries_of_ne s hk) (recordOf_none (del_entries_self ..))

/-- Setting an expiry changes no record. -/
theorem vaultOf_expireAt {y : Entry} (h : s.entries k = some y) (n : Option ℕ) :
    vaultOf (s.set k { y with expireAt := n }) = vaultOf s := by
  refine Vault.ext rfl (funext fun g => funext fun l' => recordOf_congr ?_)
  by_cases hk : g.key l' = k
  · subst hk
    rw [State.object, State.object, set_entries_self, h]
    rfl
  · rw [State.object, State.object, set_entries_of_ne _ _ hk]

/-! ## Well-stored records -/

/-- What is at a key: nothing, or a record that the scripts accept. -/
inductive Slot (s : State) (f : RecordKind) (l : String) : Prop
  | absent (he : s.entries (f.key l) = none)
  | stored (a : f.Record) (x : Option ℕ)
      (he : s.entries (f.key l) = some ⟨.hash (recordHash (f.encode a)), x⟩) (ha : f.Accepted a)
      (hx : x = none ∨ x = some (f.expiresAt a).toNat)

/-- **The store holds well-formed records only**, each at a key of its kind, and handoffs agree
with their sessions. -/
structure WellStored (s : State) : Prop where
  family : ∀ k y, s.entries k = some y → ∃ (f : RecordKind) (l : String), k = f.key l
  slot : ∀ f l, Slot s f l
  agree : ∀ l (b : AuthenticationHandoff) (c : CommonSession),
    recordOf s .handoff l = some b → recordOf s .session b.commonSessionLookup = some c →
    b.internalUserId = c.internalUserId ∧ b.authenticatedAt = c.authenticatedAt

/-- The record of a slot. -/
theorem Slot.recordOf_eq (h : Slot s f l) : (s.entries (f.key l) = none ∧ recordOf s f l = none) ∨
    ∃ a x, s.entries (f.key l) = some ⟨.hash (recordHash (f.encode a)), x⟩ ∧ f.Accepted a ∧
      recordOf s f l = some a := by
  cases h with
  | absent he => exact .inl ⟨he, recordOf_none he⟩
  | stored a x he ha => exact .inr ⟨a, x, he, ha, recordOf_stored ha.named he⟩

/-- What commands may assume about the store. -/
def Ready (s : State) : Sent → Prop
  | .writeExternal l tx => s.entries (Key.external l) = none ∧ RecordKind.external.Accepted tx
  | .expireExternal l t => t.toNat < 2 ^ 53 ∧
      ∀ tx, recordOf s .external l = some tx → t = tx.expiresAt
  | .writeLogout l tx => s.entries (Key.logout l) = none ∧ RecordKind.logout.Accepted tx
  | .expireLogout l t => t.toNat < 2 ^ 53 ∧ ∀ tx, recordOf s .logout l = some tx → t = tx.expiresAt
  | .issue session handoff record => s.entries (Key.handoff handoff) = none ∧
      record.commonSessionLookup = session ∧ record.status = .unused ∧
      ∀ c, recordOf s .session session = some c → RecordKind.handoff.Accepted record ∧
        record.internalUserId = c.internalUserId ∧ record.authenticatedAt = c.authenticatedAt
  | .create session state handoff record => s.entries (Key.session session) = none ∧
      s.entries (Key.handoff handoff) = none ∧ RecordKind.session.Accepted state ∧
      RecordKind.handoff.Accepted record ∧ record.commonSessionLookup = session ∧
      record.status = .unused ∧ record.internalUserId = state.internalUserId ∧
      record.authenticatedAt = state.authenticatedAt
  | .exchange handoff _ _ session => ∀ b, recordOf s .handoff handoff = some b →
      session = b.commonSessionLookup
  | _ => True

end Kinds

/-! ## Plain commands -/

section Plain

variable {f : RecordKind} {a : f.Record} {s s' : State} {l : String}

/-- A record is written. -/
theorem write_run {r : Except Redis.Error ℕ} (he : s.entries (f.key l) = none) (ha : f.Accepted a)
    (hr : HSET (f.key l) (fieldBytes (f.encode a)) s = (r, s')) :
    writeReply r = .ok () ∧ vaultOf s' = (vaultOf s).put f l a := by
  obtain ⟨p, m, hm⟩ := List.exists_cons_of_ne_nil (f.encode_ne_nil a)
  rw [hm] at hr
  cases (HSET_new he _ _).symm.trans hr
  refine ⟨rfl, ?_⟩
  have hh : recordHash (f.encode a) = hashOf ((utf8 p.1, utf8 p.2) :: m.map fun p =>
      (utf8 p.1, utf8 p.2)) := by rw [recordHash, hm]; rfl
  rw [← vaultOf_put ha.named, hh]

/-- The expiry of a record is set. -/
theorem expire_run {r : Except Redis.Error ℕ} {t : UInt64} (h : Slot s f l)
    (ht : t.toNat < 2 ^ 53) (hl : ∀ a, recordOf s f l = some a → t = f.expiresAt a)
    (hr : EXPIREAT (f.key l) (utf8 (toString t)) s = (r, s')) :
    writeReply r = .ok () ∧ vaultOf s' = (vaultOf s).expire f l := by
  rw [utf8_toString_u64, EXPIREAT, integer?_digits, if_pos (by omega)] at hr
  dsimp only at hr
  rw [if_neg (by omega)] at hr
  cases h with
  | absent he =>
    rw [he] at hr
    cases hr
    have hv : (vaultOf s).records f l = none := recordOf_none he
    rw [Vault.expire, hv]
    exact ⟨rfl, rfl⟩
  | stored a x he ha hx =>
    have hv : (vaultOf s).records f l = some a := recordOf_stored ha.named he
    obtain rfl := hl a hv
    rw [he] at hr
    dsimp only at hr
    rw [Vault.expire, hv]
    dsimp only
    by_cases hn : (f.expiresAt a).toNat ≤ s.time
    · rw [if_pos (by exact_mod_cast hn)] at hr
      cases hr
      rw [if_pos (show (vaultOf s).Expired a from hn)]
      exact ⟨rfl, vaultOf_drop⟩
    · rw [if_neg (by exact_mod_cast hn)] at hr
      cases hr
      rw [if_neg (show ¬(vaultOf s).Expired a from hn)]
      exact ⟨rfl, vaultOf_expireAt he _⟩

/-- A session is read. -/
theorem readSession_run {r : Except Redis.Error Hash} (h : Slot s .session l)
    (hr : hashAt (Key.session l) s = (r, s')) :
    ((vaultOf s).records .session l).elim (.error .notFound) .ok = sessionReply r ∧ s' = s := by
  cases h with
  | absent he =>
    have hk : s.entries (Key.session l) = none := he
    rw [hashAt, hk] at hr
    cases hr
    have hv : (vaultOf s).records .session l = none := recordOf_none he
    have hf : fieldsReply (.ok ∅) = .error .notFound := by
      have ho : Fields.ofHash? ∅ = some Fields.empty := Fields.ofHash?_hash Fields.empty
      rw [fieldsReply, ho]
      rfl
    rw [hv, sessionReply, hf]
    exact ⟨rfl, rfl⟩
  | stored a x he ha hx =>
    have hk : s.entries (Key.session l) = some ⟨.hash (recordHash (encodeSession a)), x⟩ := he
    rw [hashAt, hk] at hr
    cases hr
    have hv : (vaultOf s).records .session l = some a := recordOf_stored ha.named he
    obtain ⟨fields, hf, hlen, -⟩ := ofHash?_recordHash (encodeSession_nodup a)
    have hr : fieldsReply (.ok (recordHash (encodeSession a))) = .ok fields := by
      rw [fieldsReply, hf]
      dsimp only
      have hne : ¬fields.len = 0 := by
        rw [hlen]
        exact Nat.succ_ne_zero 3
      rw [if_neg hne]
    rw [hv, sessionReply, hr]
    exact ⟨(decodeSession_record hf).symm, rfl⟩

/-- The type of a key of a handoff is read. -/
theorem typeHandoff_run {r : Except Redis.Error String} (h : Slot s .handoff l)
    (hr : TYPE (Key.handoff l) s = (r, s')) :
    ((vaultOf s).records .handoff l).elim (.error .notFound) (fun _ => .ok ()) = typeReply r ∧
      s' = s := by
  cases h with
  | absent he =>
    have hk : s.entries (Key.handoff l) = none := he
    rw [TYPE, hk] at hr
    cases hr
    have hv : (vaultOf s).records .handoff l = none := recordOf_none he
    rw [hv]
    exact ⟨rfl, rfl⟩
  | stored a x he ha hx =>
    have hk : s.entries (Key.handoff l) = some ⟨.hash (recordHash (encodeHandoff a)), x⟩ := he
    rw [TYPE, hk] at hr
    cases hr
    have hv : (vaultOf s).records .handoff l = some a := recordOf_stored ha.named he
    rw [hv]
    exact ⟨rfl, rfl⟩

/-- The lookup in a handoff is read. -/
theorem readHandoffLookup_run {r : Except Redis.Error (Option Bytes)} (h : Slot s .handoff l)
    (hr : HGET (Key.handoff l) "common_session_lookup" s = (r, s')) :
    ((vaultOf s).records .handoff l).elim (.error .invalidStoredState)
      (fun record => .ok record.commonSessionLookup) = lookupReply r ∧ s' = s := by
  cases h with
  | absent he =>
    have hk : s.entries (Key.handoff l) = none := he
    have hh : hashAt (Key.handoff l) s = (.ok ∅, s) := by rw [hashAt, hk]
    rw [HGET, Script.bind_run hh] at hr
    cases hr
    have hv : (vaultOf s).records .handoff l = none := recordOf_none he
    rw [hv]
    exact ⟨rfl, rfl⟩
  | stored a x he ha hx =>
    have hr' := hashAt_run he fun g => pure (hget g "common_session_lookup")
    cases hr'.symm.trans hr
    have hv : (vaultOf s).records .handoff l = some a := recordOf_stored ha.named he
    have hg : hget (recordHash (RecordKind.handoff.encode a)) "common_session_lookup" =
        some (utf8 a.commonSessionLookup) := handoff_field _ a
    rw [hv, hg, lookupReply, text?_utf8]
    dsimp only
    have hl : ¬(!isLookup a.commonSessionLookup) = true := by
      rw [show isLookup a.commonSessionLookup = true from ha.named]
      exact Bool.false_ne_true
    rw [if_neg hl]
    exact ⟨rfl, rfl⟩

end Plain

/-! ## Scripts -/

section Scripts

variable {α : Type} {s s' : State} {l : String} {r : Except Redis.Error (List Value)}
  {reply : List Value → Except RedisStateError α}

/-- What a script replies and does is what the vault answers and does. -/
def Answers (reply : List Value → Except RedisStateError α) (p : List Value × State)
    (v : Except RedisStateError α × Vault) : Prop := v = (reply p.1, vaultOf p.2)

/-- A branch of a script and of the vault. -/
theorem Answers.ite {c : Prop} [Decidable c] {p q : List Value × State}
    {u v : Except RedisStateError α × Vault} (h₁ : c → Answers reply p u)
    (h₂ : ¬c → Answers reply q v) :
    Answers reply (if c then p else q) (if c then u else v) := by
  by_cases h : c
  · rw [if_pos h, if_pos h]
    exact h₁ h
  · rw [if_neg h, if_neg h]
    exact h₂ h

theorem Answers.run {p : List Value × State} {v : Except RedisStateError α × Vault}
    {script : Script (List Value)} (h : Answers reply p v) (hs : script s = returns p)
    (hr : script s = (r, s')) : v = (scriptReply reply r, vaultOf s') := by
  cases hs.symm.trans hr
  exact h

section Unexpired

variable {f : RecordKind} {use : f.Record → Except RedisStateError α × Vault}

theorem unexpired_absent (h : s.entries (f.key l) = none) :
    (vaultOf s).unexpired f l use = (.error .notFound, vaultOf s) := by
  have hv : (vaultOf s).records f l = none := recordOf_none h
  rw [Vault.unexpired, hv]

theorem unexpired_stored {a : f.Record} {x : Option ℕ}
    (h : s.entries (f.key l) = some ⟨.hash (recordHash (f.encode a)), x⟩) (ha : f.Accepted a) :
    (vaultOf s).unexpired f l use = if (f.expiresAt a).toNat ≤ s.time then
      (.error .expired, vaultOf (s.del (f.key l))) else use a := by
  have hv : (vaultOf s).records f l = some a := recordOf_stored ha.named h
  rw [Vault.unexpired, hv, vaultOf_drop]
  rfl

/-- The record at the first key of a script is missing. -/
theorem object_args {k : Bytes} {ks : List Bytes} (h : s.entries k = none) :
    s.object (args (k :: ks) 1) = none := by
  show (s.entries k).map Entry.object = none
  rw [h]
  rfl

end Unexpired

/-- The service reads the transaction in the reply to a claim. -/
theorem claimReply_record (a : ExternalAuthTransaction) :
    claimReply (claimValues (recordHash (encodeExternal a))) =
      .ok { a with status := .processing } := by
  have hstatus : replyString (.bulk "processing") = .ok "processing" := by decide
  have hfield : ∀ f v, (encodeExternal a).lookup f = some v →
      replyString (.ofField (hget (recordHash (encodeExternal a)) (utf8 f))) = .ok v := by
    intro f v hv
    rw [replyString_ofField, external_field, hv]
    exact text?_utf8 v
  simp only [claimReply, claimValues, bind_eq_ok]
  refine ⟨_, hfield "service_id" _ rfl, _, hfield "service_state" _ rfl,
    _, hfield "handoff_code_challenge" _ rfl, _, hfield "provider" _ rfl,
    _, hfield "provider_verification_data" _ rfl, _, hfield "created_at" _ rfl,
    _, hfield "expires_at" _ rfl, _, hstatus, { a with status := .processing },
    decodeExternal_eq_ok.mpr ⟨?_, ?_, ?_, ?_, ?_, ?_, ⟨_, ?_, parseUInt64_toString a.createdAt⟩,
      ⟨_, ?_, parseUInt64_toString a.expiresAt⟩, ?_⟩, rfl⟩
  all_goals simp [len_insert, get_insert, len_empty, get_empty, externalStatusValue]

/-- **A claim** of a stored transaction. -/
theorem callbackClaimSpec_record {a : ExternalAuthTransaction} {x : Option ℕ}
    (he : s.entries (Key.external l) = some ⟨.hash (recordHash (encodeExternal a)), x⟩)
    (hv : externalValid (recordHash (encodeExternal a)) = true) :
    callbackClaimSpec (args [Key.external l]) s =
      if a.expiresAt.toNat ≤ s.time then ([.int 2], s.del (Key.external l))
      else if a.status = .processing then ([.int 4], s)
      else (claimValues (recordHash (encodeExternal a)), s.set (Key.external l)
        ⟨.hash (recordHash (encodeExternal { a with status := .processing })), x⟩) := by
  have ho : s.object (args [Key.external l] 1) = some (.hash (recordHash (encodeExternal a))) := by
    show (s.entries (Key.external l)).map Entry.object = _
    rw [he]
    rfl
  have hexp : hget (recordHash (encodeExternal a)) "expires_at" =
      some (utf8 (toString a.expiresAt)) := external_field _ a
  have hx := ((externalValid_record a).mp hv).2
  have hprocessing : externalStatusValue a.status = "processing" ↔ a.status = .processing :=
    externalStatusValue_inj (b := .processing)
  have hk : args [Key.external l] 1 = Key.external l := rfl
  simp only [callbackClaimSpec, ho]
  simp only [claimValues, hk, hv, hexp, external_status, num_le_now hx, Option.some.injEq, utf8_inj,
    hprocessing, ne_eq, Bool.true_eq_false, if_false]
  by_cases hst : a.status = .processing
  · simp only [hst, if_true]
  · have hw : externalStatusValue a.status = "waiting" := by
      cases ha : a.status with
      | waiting => rfl
      | processing => exact absurd ha hst
    have hmark : (recordHash (encodeExternal a)).insert (utf8 "status") (utf8 "processing") =
        recordHash (encodeExternal { a with status := .processing }) :=
      recordHash_insert (l := (encodeExternal a).take 7) "status" _ "processing"
    simp only [if_neg hst, hw, not_true_eq_false, if_false]
    rw [setField_eq he, hmark]

/-- **A claim** answers as the vault. -/
theorem claim_answers (h : Slot s .external l) :
    Answers claimReply (callbackClaimSpec (args [Key.external l]) s) ((vaultOf s).claim l) := by
  cases h with
  | absent he =>
    have he₀ : s.entries (Key.external l) = none := he
    rw [Vault.claim, unexpired_absent he, callbackClaimSpec, object_args he₀]
    rfl
  | stored a x he ha =>
    rw [Vault.claim, unexpired_stored he ha, callbackClaimSpec_record he ha]
    refine .ite (fun _ => rfl) fun _ => ?_
    refine .ite (fun _ => rfl) fun _ => ?_
    refine Prod.ext (claimReply_record a).symm ?_
    exact (vaultOf_put (f := .external) (a := { a with status := .processing }) rfl).symm

/-- The arguments of an issue. -/
def issueArguments (record : AuthenticationHandoff) : List String :=
  [record.commonSessionLookup, record.serviceId, toString record.internalUserId,
    record.commonSessionLookup,
    record.codeChallenge, toString record.authenticatedAt, toString record.issuedAt,
    toString record.expiresAt, usageStatusValue record.status]

/-- **An issue** for a stored session that the handoff agrees with. -/
theorem issueSsoHandoffSpec_record {a : CommonSession} {x : Option ℕ} {handoff : String}
    {record : AuthenticationHandoff}
    (he : s.entries (Key.session record.commonSessionLookup) =
      some ⟨.hash (recordHash (encodeSession a)), x⟩)
    (ha : sessionValid (recordHash (encodeSession a)) = true)
    (hnew : s.entries (Key.handoff handoff) = none)
    (hv : handoffValid (recordHash (encodeHandoff record)) = true)
    (hst : record.status = .unused)
    (hu : record.internalUserId = a.internalUserId)
    (hat : record.authenticatedAt = a.authenticatedAt) :
    issueSsoHandoffSpec (args [Key.session record.commonSessionLookup, Key.handoff handoff])
        (args ((issueArguments record).map utf8)) s =
      if a.expiresAt.toNat ≤ s.time then
        ([.int 2], s.del (Key.session record.commonSessionLookup))
      else if record.expiresAt.toNat ≤ s.time then ([.int 2], s)
      else ([.int 0], s.set (Key.handoff handoff)
        ⟨.hash (recordHash (encodeHandoff record)), some record.expiresAt.toNat⟩) := by
  obtain ⟨hat', -, hx⟩ := (sessionValid_record a).mp ha
  obtain ⟨hlk, hra, hri, hrx⟩ := (handoffValid_record record).mp hv
  have ho : s.object (args [Key.session record.commonSessionLookup, Key.handoff handoff] 1) =
      some (.hash (recordHash (encodeSession a))) := by
    show (s.entries (Key.session record.commonSessionLookup)).map Entry.object = _
    rw [he]
    rfl
  have hk₁ : args [Key.session record.commonSessionLookup, Key.handoff handoff] 1 =
      Key.session record.commonSessionLookup := rfl
  have hk₂ : args [Key.session record.commonSessionLookup, Key.handoff handoff] 2 =
      Key.handoff handoff := rfl
  have h₁ : args ((issueArguments record).map utf8) 1 = utf8 record.commonSessionLookup := rfl
  have h₂ : args ((issueArguments record).map utf8) 2 = utf8 record.serviceId := rfl
  have h₃ : args ((issueArguments record).map utf8) 3 =
      utf8 (toString record.internalUserId) := rfl
  have h₄ : args ((issueArguments record).map utf8) 4 = utf8 record.commonSessionLookup := rfl
  have h₅ : args ((issueArguments record).map utf8) 5 = utf8 record.codeChallenge := rfl
  have h₆ : args ((issueArguments record).map utf8) 6 =
      utf8 (toString record.authenticatedAt) := rfl
  have h₇ : args ((issueArguments record).map utf8) 7 = utf8 (toString record.issuedAt) := rfl
  have h₈ : args ((issueArguments record).map utf8) 8 = utf8 (toString record.expiresAt) := rfl
  have h₉ : args ((issueArguments record).map utf8) 9 =
      utf8 (usageStatusValue record.status) := rfl
  have hkey : Key.session record.commonSessionLookup =
      utf8 "auth:session:" ++ utf8 record.commonSessionLookup := utf8_append ..
  have hdec : decimal (utf8 (toString record.expiresAt)) = record.expiresAt.toNat :=
    decimal_digits _
  have huser : num (hget (recordHash (encodeSession a)) "internal_user_id") =
      a.internalUserId.toInt := by
    rw [session_field]
    exact num_i32 _
  have hauth : num (hget (recordHash (encodeSession a)) "authenticated_at") =
      a.authenticatedAt.toNat := by
    rw [session_field]
    exact num_u64 hat'
  have hexp : hget (recordHash (encodeSession a)) "expires_at" =
      some (utf8 (toString a.expiresAt)) := session_field _ a
  have hunused : usageStatusValue record.status = "unused" := by
    rw [hst]
    rfl
  have hrec : hashOf [(utf8 "service_id", utf8 record.serviceId),
      (utf8 "internal_user_id", utf8 (toString record.internalUserId)),
      (utf8 "common_session_lookup", utf8 record.commonSessionLookup),
      (utf8 "code_challenge", utf8 record.codeChallenge),
      (utf8 "authenticated_at", utf8 (toString record.authenticatedAt)),
      (utf8 "issued_at", utf8 (toString record.issuedAt)),
      (utf8 "expires_at", utf8 (toString record.expiresAt)),
      (utf8 "status", utf8 (usageStatusValue record.status))] =
      recordHash (encodeHandoff record) := rfl
  simp only [issueSsoHandoffSpec, ho]
  simp only [hk₁, hk₂, h₁, h₂, h₃, h₄, h₅, h₆, h₇, h₈, h₉, hrec, ha, hnew, hexp, hdec,
    num_le_now hx, num_le_now hrx, lookup_utf8, hlk, (uint_u64 _).mpr hra, (uint_u64 _).mpr hri,
    (uint_u64 _).mpr hrx, int_i32, huser, hauth, tonumber_i32, tonumber_u64 hra]
  simp only [hunused, hkey, hu, hat, ne_eq, not_true_eq_false, Bool.true_eq_false, or_false,
    if_false]

/-- **An issue** answers as the vault. -/
theorem issue_answers {handoff : String} {record : AuthenticationHandoff}
    (h : Slot s .session record.commonSessionLookup)
    (hx : Ready s (.issue record.commonSessionLookup handoff record)) :
    Answers unitReply (issueSsoHandoffSpec
        (args [Key.session record.commonSessionLookup, Key.handoff handoff])
        (args ((issueArguments record).map utf8)) s)
      ((vaultOf s).issue record.commonSessionLookup handoff record) := by
  obtain ⟨hnew, -, hst, hc⟩ := hx
  cases h with
  | absent he =>
    have he₀ : s.entries (Key.session record.commonSessionLookup) = none := he
    rw [Vault.issue, unexpired_absent he, issueSsoHandoffSpec, object_args he₀]
    rfl
  | stored a x he ha =>
    obtain ⟨hacc, hu, hat⟩ := hc a (recordOf_stored ha.named he)
    have hn : (vaultOf s).records .handoff handoff = none := recordOf_none (f := .handoff) hnew
    have hfree : ¬((vaultOf s).records .handoff handoff).isSome = true := by
      rw [hn]
      exact Bool.false_ne_true
    rw [Vault.issue, unexpired_stored he ha,
      issueSsoHandoffSpec_record he ha hnew hacc hst hu hat, if_neg hfree]
    refine .ite (fun _ => rfl) fun _ => ?_
    refine .ite (fun _ => rfl) fun _ => ?_
    exact congrArg _ (vaultOf_put (f := .handoff) hacc.named).symm

/-- The arguments of a creation. -/
def createArguments (state : CommonSession) (record : AuthenticationHandoff) : List String :=
  [toString state.internalUserId, toString state.authenticatedAt, toString state.createdAt,
    toString state.expiresAt, record.commonSessionLookup, record.serviceId,
    toString record.internalUserId, record.commonSessionLookup, record.codeChallenge,
    toString record.authenticatedAt, toString record.issuedAt, toString record.expiresAt,
    usageStatusValue record.status]

/-- **A creation** of a session and a handoff that agrees with it. -/
theorem createSessionAndHandoffSpec_record {state : CommonSession} {handoff : String}
    {record : AuthenticationHandoff}
    (hnew : s.entries (Key.session record.commonSessionLookup) = none)
    (hnew' : s.entries (Key.handoff handoff) = none)
    (ha : sessionValid (recordHash (encodeSession state)) = true)
    (hv : handoffValid (recordHash (encodeHandoff record)) = true)
    (hst : record.status = .unused) (hu : record.internalUserId = state.internalUserId)
    (hat : record.authenticatedAt = state.authenticatedAt) :
    createSessionAndHandoffSpec (args [Key.session record.commonSessionLookup, Key.handoff handoff])
        (args ((createArguments state record).map utf8)) s =
      if state.expiresAt.toNat ≤ s.time ∨ record.expiresAt.toNat ≤ s.time then ([.int 2], s)
      else ([.int 0], (s.set (Key.session record.commonSessionLookup)
          ⟨.hash (recordHash (encodeSession state)), some state.expiresAt.toNat⟩).set
        (Key.handoff handoff)
          ⟨.hash (recordHash (encodeHandoff record)), some record.expiresAt.toNat⟩) := by
  obtain ⟨hsa, hsc, hsx⟩ := (sessionValid_record state).mp ha
  obtain ⟨hlk, hra, hri, hrx⟩ := (handoffValid_record record).mp hv
  have hk₁ : args [Key.session record.commonSessionLookup, Key.handoff handoff] 1 =
      Key.session record.commonSessionLookup := rfl
  have hk₂ : args [Key.session record.commonSessionLookup, Key.handoff handoff] 2 =
      Key.handoff handoff := rfl
  have h₁ : args ((createArguments state record).map utf8) 1 =
      utf8 (toString state.internalUserId) := rfl
  have h₂ : args ((createArguments state record).map utf8) 2 =
      utf8 (toString state.authenticatedAt) := rfl
  have h₃ : args ((createArguments state record).map utf8) 3 =
      utf8 (toString state.createdAt) := rfl
  have h₄ : args ((createArguments state record).map utf8) 4 =
      utf8 (toString state.expiresAt) := rfl
  have h₅ : args ((createArguments state record).map utf8) 5 =
      utf8 record.commonSessionLookup := rfl
  have h₆ : args ((createArguments state record).map utf8) 6 = utf8 record.serviceId := rfl
  have h₇ : args ((createArguments state record).map utf8) 7 =
      utf8 (toString record.internalUserId) := rfl
  have h₈ : args ((createArguments state record).map utf8) 8 =
      utf8 record.commonSessionLookup := rfl
  have h₉ : args ((createArguments state record).map utf8) 9 = utf8 record.codeChallenge := rfl
  have h₁₀ : args ((createArguments state record).map utf8) 10 =
      utf8 (toString record.authenticatedAt) := rfl
  have h₁₁ : args ((createArguments state record).map utf8) 11 =
      utf8 (toString record.issuedAt) := rfl
  have h₁₂ : args ((createArguments state record).map utf8) 12 =
      utf8 (toString record.expiresAt) := rfl
  have h₁₃ : args ((createArguments state record).map utf8) 13 =
      utf8 (usageStatusValue record.status) := rfl
  have hkey : Key.session record.commonSessionLookup =
      utf8 "auth:session:" ++ utf8 record.commonSessionLookup := utf8_append ..
  have hdec : ∀ n : UInt64, decimal (utf8 (toString n)) = n.toNat := fun n => decimal_digits _
  have hunused : usageStatusValue record.status = "unused" := by
    rw [hst]
    rfl
  have hses : hashOf [(utf8 "internal_user_id", utf8 (toString state.internalUserId)),
      (utf8 "authenticated_at", utf8 (toString state.authenticatedAt)),
      (utf8 "created_at", utf8 (toString state.createdAt)),
      (utf8 "expires_at", utf8 (toString state.expiresAt))] =
      recordHash (encodeSession state) := rfl
  have hrec : hashOf [(utf8 "service_id", utf8 record.serviceId),
      (utf8 "internal_user_id", utf8 (toString record.internalUserId)),
      (utf8 "common_session_lookup", utf8 record.commonSessionLookup),
      (utf8 "code_challenge", utf8 record.codeChallenge),
      (utf8 "authenticated_at", utf8 (toString record.authenticatedAt)),
      (utf8 "issued_at", utf8 (toString record.issuedAt)),
      (utf8 "expires_at", utf8 (toString record.expiresAt)),
      (utf8 "status", utf8 (usageStatusValue record.status))] =
      recordHash (encodeHandoff record) := rfl
  rw [createSessionAndHandoffSpec]
  simp only [hk₁, hk₂, h₁, h₂, h₃, h₄, h₅, h₆, h₇, h₈, h₉, h₁₀, h₁₁, h₁₂, h₁₃, hses, hrec, hnew,
    hnew', hdec, num_le_now hsx, num_le_now hrx, lookup_utf8, hlk, (uint_u64 _).mpr hsa,
    (uint_u64 _).mpr hsc, (uint_u64 _).mpr hsx, (uint_u64 _).mpr hra, (uint_u64 _).mpr hri,
    (uint_u64 _).mpr hrx, int_i32]
  simp only [hunused, hkey, hu, hat, ne_eq, not_true_eq_false, or_false, if_false]

/-- **A creation** answers as the vault. -/
theorem create_answers {handoff : String} {state : CommonSession} {record : AuthenticationHandoff}
    (hx : Ready s (.create record.commonSessionLookup state handoff record)) :
    Answers unitReply (createSessionAndHandoffSpec
        (args [Key.session record.commonSessionLookup, Key.handoff handoff])
        (args ((createArguments state record).map utf8)) s)
      ((vaultOf s).create record.commonSessionLookup state handoff record) := by
  obtain ⟨hnew, hnew', hacc, hacc', -, hst, hu, hat⟩ := hx
  have hs : (vaultOf s).records .session record.commonSessionLookup = none :=
    recordOf_none (f := .session) hnew
  have hn : (vaultOf s).records .handoff handoff = none := recordOf_none (f := .handoff) hnew'
  rw [Vault.create, hs, hn, if_neg (by simp),
    createSessionAndHandoffSpec_record hnew hnew' hacc hacc' hst hu hat]
  refine .ite (fun _ => rfl) fun _ => congrArg _ ?_
  rw [← vaultOf_put (f := .session) (x := some state.expiresAt.toNat) hacc.named]
  exact (vaultOf_put (f := .handoff) hacc'.named).symm

/-- **An exchange** with the lookup in the handoff answers as the vault. -/
theorem exchange_answers {handoff serviceId challenge session : String} (h : WellStored s)
    (hx : Ready s (.exchange handoff serviceId challenge session)) :
    Answers exchangeReply (exchangeHandoffSpec (args [Key.handoff handoff, Key.session session])
        (args ([serviceId, challenge, session].map utf8)) s)
      ((vaultOf s).exchange handoff serviceId challenge) := by
  cases h.slot .handoff handoff with
  | absent he =>
    have he₀ : s.entries (Key.handoff handoff) = none := he
    rw [Vault.exchange, unexpired_absent he, exchangeHandoffSpec, object_args he₀]
    rfl
  | stored b x he hb =>
    have hv : recordOf s .handoff handoff = some b := recordOf_stored hb.named he
    have he₀ : s.entries (Key.handoff handoff) =
        some ⟨.hash (recordHash (encodeHandoff b)), x⟩ := he
    obtain rfl := hx b hv
    rw [Vault.exchange, unexpired_stored he hb, exchangeHandoffSpec_record he hb, exchangeStored]
    refine .ite (fun _ => rfl) fun _ => ?_
    refine .ite (fun _ => rfl) fun _ => ?_
    refine .ite (fun _ => rfl) fun _ => ?_
    refine .ite (fun _ => rfl) fun _ => ?_
    cases h.slot .session b.commonSessionLookup with
    | absent he' =>
      rw [unexpired_absent he', exchangeWithSession_none he']
      rfl
    | stored c y he' hc =>
      obtain ⟨hu, hat⟩ := h.agree handoff b c hv (recordOf_stored hc.named he')
      rw [unexpired_stored he' hc, exchangeWithSession_record he' hc hu hat, ← hu, ← hat]
      refine .ite (fun _ => rfl) fun _ => ?_
      rw [setField_eq he₀, handoff_mark]
      refine Prod.ext (exchangeReply_record _ _).symm ?_
      exact (vaultOf_put (f := .handoff) (a := { b with status := .used }) hb.named).symm

/-- **A completion of a logout** answers as the vault. -/
theorem logout_answers {session csrfLookup : String} (h : Slot s .logout l) :
    Answers logoutReply (completeCommonLogoutSpec (args [Key.logout l, Key.session session])
        (args [utf8 csrfLookup]) s)
      ((vaultOf s).completeLogout l session csrfLookup) := by
  cases h with
  | absent he =>
    have he₀ : s.entries (Key.logout l) = none := he
    rw [Vault.completeLogout, unexpired_absent he, completeCommonLogoutSpec, object_args he₀]
    rfl
  | stored b x he hb =>
    have hv : logoutValid (recordHash (encodeLogout b)) = true := hb
    have he₀ : s.entries (Key.logout l) = some ⟨.hash (recordHash (encodeLogout b)), x⟩ := he
    rw [Vault.completeLogout, unexpired_stored he hb, completeCommonLogoutSpec_record he,
      logoutStored, hv, if_neg (by decide)]
    refine .ite (fun _ => rfl) fun _ => ?_
    refine .ite (fun _ => rfl) fun _ => ?_
    refine .ite (fun _ => rfl) fun _ => ?_
    rw [setField_eq he₀, logout_mark]
    refine Prod.ext (logoutReply_record _).symm ?_
    rw [← vaultOf_put (f := .logout) (a := { b with status := .used }) hb.named]
    exact (vaultOf_drop (f := .session)).symm

end Scripts

/-! ## Commands -/

section Commands

variable {s s' : State} {x : Sent} {r : Except Redis.Error x.command.Reply} {e : Event}

/-- **A command on the store is the same command on the vault**: the service reads the same answer,
and afterwards the store holds the records of the vault. -/
theorem WellStored.exec (h : WellStored s) (hx : Ready s x)
    (hr : x.command.script ScriptName.source s = (r, s')) :
    (vaultOf s).exec x = (x.reads r, vaultOf s') := by
  cases x with
  | writeExternal l tx =>
    obtain ⟨hreply, hv⟩ := write_run (f := .external) hx.1 hx.2 hr
    exact Prod.ext hreply.symm hv.symm
  | expireExternal l t =>
    obtain ⟨hreply, hv⟩ := expire_run (h.slot .external l) hx.1 hx.2 hr
    exact Prod.ext hreply.symm hv.symm
  | writeLogout l tx =>
    obtain ⟨hreply, hv⟩ := write_run (f := .logout) hx.1 hx.2 hr
    exact Prod.ext hreply.symm hv.symm
  | expireLogout l t =>
    obtain ⟨hreply, hv⟩ := expire_run (h.slot .logout l) hx.1 hx.2 hr
    exact Prod.ext hreply.symm hv.symm
  | readSession l =>
    obtain ⟨hreply, rfl⟩ := readSession_run (h.slot .session l) hr
    exact Prod.ext hreply rfl
  | dropSession l =>
    cases hr
    exact congrArg _ (vaultOf_drop (f := .session)).symm
  | claim l =>
    exact (claim_answers (h.slot .external l)).run (callbackClaim_run _ (args []) s) hr
  | issue session handoff record =>
    obtain rfl := hx.2.1
    exact (issue_answers (h.slot .session _) hx).run
      (issueSsoHandoff_run _ _ s (n := record.expiresAt.toNat) rfl) hr
  | create session state handoff record =>
    obtain rfl := hx.2.2.2.2.1
    have hne : Key.session record.commonSessionLookup ≠ Key.handoff handoff :=
      ne_of_family (by simp)
    exact (create_answers hx).run (createSessionAndHandoff_run _ _ s
      (m := state.expiresAt.toNat) (n := record.expiresAt.toNat) rfl rfl hne) hr
  | typeHandoff handoff =>
    obtain ⟨hreply, rfl⟩ := typeHandoff_run (h.slot .handoff handoff) hr
    exact Prod.ext hreply rfl
  | readHandoffLookup handoff =>
    obtain ⟨hreply, rfl⟩ := readHandoffLookup_run (h.slot .handoff handoff) hr
    exact Prod.ext hreply rfl
  | exchange handoff serviceId challenge session =>
    exact (exchange_answers h hx).run (exchangeHandoff_run _ _ s) hr
  | logout l session csrfLookup =>
    exact (logout_answers (h.slot .logout l)).run (completeCommonLogout_run _ _ s) hr

/-- A ready command conflicts with no key. -/
theorem Ready.not_conflict (h : Ready s x) : ¬(vaultOf s).Conflict x := by
  have hn : ∀ {f : RecordKind} {l : String}, s.entries (f.key l) = none →
      ¬((vaultOf s).records f l).isSome := fun he => by
    rw [show (vaultOf s).records _ _ = none from recordOf_none he]
    exact Bool.false_ne_true
  cases x with
  | issue session handoff record => exact hn (f := .handoff) h.1
  | create session state handoff record =>
    exact not_or.mpr ⟨hn (f := .session) h.1, hn (f := .handoff) h.2.1⟩
  | _ => exact id

/-- **One event of the store is one step of the vault**, if its command is ready. -/
theorem WellStored.step (h : WellStored s) (hs : RedisStep s e s') (ht : Typed e)
    (hx : ∀ x r, e = .command (Sent.command x) r → Ready s x) :
    Vault.Step (vaultOf s) e (vaultOf s') := by
  cases hs with
  | command hr =>
    obtain ⟨x, rfl⟩ := ht _ _ rfl
    exact .exec (h.exec (hx x _ rfl) hr)
  | fail c => exact .fail c
  | tick n => exact .tick n
  | @expire k y t hy hyt hle =>
    obtain ⟨f, l, rfl⟩ := h.family _ _ hy
    cases h.slot f l with
    | absent he => cases hy.symm.trans he
    | stored a z he ha hz =>
      cases hy.symm.trans he
      have hn : (f.expiresAt a).toNat ≤ s.time := by
        obtain rfl | rfl := hz
        · cases hyt
        · cases hyt
          exact hle
      rw [vaultOf_drop]
      exact .expire (recordOf_stored ha.named he) hn

end Commands

end AuthFoundation
