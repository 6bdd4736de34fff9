import AuthFoundation.Calls

set_option autoImplicit false

/-!
# A vault of records

What the service keeps in Redis, without its representation: typed records of four kinds with a
clock. Every operation is one step.

* `RecordKind`: the kinds of records with their keys, their fields and when they expire.
* `Vault`, `Vault.put`, `Vault.drop`, `Vault.unexpired`: records by kind and lookup.
* `Vault.claim`, …, `Vault.completeLogout`, `Vault.exec`: the operations and their results.
* `Sent.reads`: what the service reads in the reply to a command.
* `Vault.Step`: a vault answers the commands of the service, ticks, and drops expired records.
-/

namespace AuthFoundation

open Text Redis

/-! ## Kinds of records -/

inductive RecordKind where
  | external
  | session
  | handoff
  | logout
  deriving DecidableEq

namespace RecordKind

abbrev Record : RecordKind → Type
  | external => ExternalAuthTransaction
  | session => CommonSession
  | handoff => AuthenticationHandoff
  | logout => CommonLogoutTransaction

def key : RecordKind → String → Bytes
  | external => Key.external
  | session => Key.session
  | handoff => Key.handoff
  | logout => Key.logout

def encode : (f : RecordKind) → f.Record → List (String × String)
  | external => encodeExternal
  | session => encodeSession
  | handoff => encodeHandoff
  | logout => encodeLogout

def decode : (f : RecordKind) → Fields → Except RedisStateError f.Record
  | external => decodeExternal
  | session => decodeSession
  | handoff => decodeHandoff
  | logout => decodeLogout

def expiresAt : (f : RecordKind) → f.Record → UInt64
  | external => ExternalAuthTransaction.expiresAt
  | session => CommonSession.expiresAt
  | handoff => AuthenticationHandoff.expiresAt
  | logout => CommonLogoutTransaction.expiresAt

/-- The lookup in the record is one. -/
def named : (f : RecordKind) → f.Record → Bool
  | handoff, record => isLookup record.commonSessionLookup
  | logout, tx => isLookup tx.csrfLookup
  | _, _ => true

/-- The byte of the family. -/
def byte : RecordKind → UInt8
  | external => 101
  | session => 115
  | handoff => 104
  | logout => 108

variable {f g : RecordKind} {l l' : String}

theorem family_key : family (f.key l) = f.byte := by
  cases f with
  | external => exact family_external
  | session => exact family_session
  | handoff => exact family_handoff
  | logout => exact family_logout

theorem byte_inj : f.byte = g.byte ↔ f = g := by
  cases f <;> cases g <;> decide

theorem key_inj : f.key l = f.key l' ↔ l = l' := by
  cases f with
  | external => exact external_inj
  | session => exact session_inj
  | handoff => exact handoff_inj
  | logout => exact logout_inj

theorem key_ne (h : f ≠ g) : f.key l ≠ g.key l' :=
  ne_of_family fun he => h (byte_inj.mp (family_key.symm.trans (he.trans family_key)))

theorem encode_nodup (a : f.Record) : ((f.encode a).map Prod.fst).Nodup := by
  cases f with
  | external => exact encodeExternal_nodup a
  | session => exact encodeSession_nodup a
  | handoff => exact encodeHandoff_nodup a
  | logout => exact encodeLogout_nodup a

theorem encode_ne_nil (a : f.Record) : f.encode a ≠ [] := by
  cases f <;> exact List.cons_ne_nil _ _

theorem decode_encode {a : f.Record} (h : f.named a = true) {fields : Fields}
    (hf : fields.Of (f.encode a)) : f.decode fields = .ok a := by
  cases f with
  | external => exact decodeExternal_encode hf
  | session => exact decodeSession_encode hf
  | handoff => exact decodeHandoff_encode hf h
  | logout => exact decodeLogout_encode hf h

end RecordKind

/-! ## Vaults -/

/-- A clock and the records of each kind, by their lookups. -/
@[ext]
structure Vault where
  time : ℕ
  records : (f : RecordKind) → String → Option f.Record

namespace Vault

def empty : Vault := ⟨0, fun _ _ => none⟩

/-- Change what is stored for one lookup. -/
def set (v : Vault) (f : RecordKind) (l : String) (a : Option f.Record) : Vault :=
  { v with records := Function.update v.records f (Function.update (v.records f) l a) }

def put (v : Vault) (f : RecordKind) (l : String) (a : f.Record) : Vault := v.set f l (some a)

def drop (v : Vault) (f : RecordKind) (l : String) : Vault := v.set f l none

/-- The time of the record has come. -/
def Expired (v : Vault) {f : RecordKind} (a : f.Record) : Prop := (f.expiresAt a).toNat ≤ v.time

instance (v : Vault) {f : RecordKind} (a : f.Record) : Decidable (v.Expired a) :=
  inferInstanceAs (Decidable (_ ≤ _))

/-- Drop a record whose time has come. -/
def expire (v : Vault) (f : RecordKind) (l : String) : Vault :=
  match v.records f l with
  | some a => if v.Expired a then v.drop f l else v
  | none => v

/-- Use a record that has not expired; one that has is dropped. -/
def unexpired (v : Vault) (f : RecordKind) (l : String) {α : Type}
    (use : f.Record → Except RedisStateError α × Vault) : Except RedisStateError α × Vault :=
  match v.records f l with
  | none => (.error .notFound, v)
  | some a => if v.Expired a then (.error .expired, v.drop f l) else use a

/-! ## Operations -/

/-- A transaction is claimed once. -/
def claim (v : Vault) (l : String) : Except RedisStateError ExternalAuthTransaction × Vault :=
  v.unexpired .external l fun tx =>
    if tx.status = .processing then (.error .alreadyClaimed, v)
    else
      let claimed : ExternalAuthTransaction := { tx with status := .processing }
      (.ok claimed, v.put .external l claimed)

/-- A handoff is issued for a session. -/
def issue (v : Vault) (session handoff : String) (record : AuthenticationHandoff) :
    Except RedisStateError Unit × Vault :=
  v.unexpired .session session fun _ =>
    if (v.records .handoff handoff).isSome then (.error .keyConflict, v)
    else if record.expiresAt.toNat ≤ v.time then (.error .expired, v)
    else (.ok (), v.put .handoff handoff record)

/-- A session is created with its first handoff. -/
def create (v : Vault) (session : String) (state : CommonSession) (handoff : String)
    (record : AuthenticationHandoff) : Except RedisStateError Unit × Vault :=
  if (v.records .session session).isSome ∨ (v.records .handoff handoff).isSome then
    (.error .keyConflict, v)
  else if state.expiresAt.toNat ≤ v.time ∨ record.expiresAt.toNat ≤ v.time then
    (.error .expired, v)
  else (.ok (), (v.put .session session state).put .handoff handoff record)

/-- **A handoff is exchanged** once, by its service, with its challenge and while its session
lasts. -/
def exchange (v : Vault) (handoff serviceId challenge : String) :
    Except RedisStateError HandoffExchangeResult × Vault :=
  v.unexpired .handoff handoff fun record =>
    if record.status = .used then (.error .alreadyUsed, v)
    else if record.serviceId ≠ serviceId then (.error .serviceMismatch, v)
    else if record.codeChallenge ≠ challenge then (.error .challengeMismatch, v)
    else v.unexpired .session record.commonSessionLookup fun _ =>
      (.ok ⟨record.internalUserId, record.authenticatedAt⟩,
        v.put .handoff handoff { record with status := .used })

/-- A logout is completed once, with its CSRF lookup, and drops the session. -/
def completeLogout (v : Vault) (l session csrfLookup : String) :
    Except RedisStateError String × Vault :=
  v.unexpired .logout l fun tx =>
    if tx.status = .used then (.error .alreadyUsed, v)
    else if tx.csrfLookup ≠ csrfLookup then (.error .csrfMismatch, v)
    else (.ok tx.logoutReturnUri,
      (v.put .logout l { tx with status := .used }).drop .session session)

end Vault

/-! ## The commands of the service -/

/-- What the service reads in the reply to a command. -/
abbrev Sent.Result : Sent → Type
  | readSession _ => CommonSession
  | claim _ => ExternalAuthTransaction
  | readHandoffLookup _ => String
  | exchange _ _ _ _ => HandoffExchangeResult
  | logout _ _ _ => String
  | _ => Unit

/-- The reply to a plain write. -/
def writeReply : Except Redis.Error ℕ → Except RedisStateError Unit
  | .error _ => .error .redisFailure
  | .ok _ => .ok ()

/-- The reply to `TYPE`. -/
def typeReply : Except Redis.Error String → Except RedisStateError Unit
  | .error _ => .error .redisFailure
  | .ok keyType =>
    if keyType = "none" then .error .notFound
    else if keyType ≠ "hash" then .error .invalidStoredState
    else .ok ()

/-- The reply to `HGETALL`. -/
def sessionReply (reply : Except Redis.Error Hash) : Except RedisStateError CommonSession := do
  decodeSession (← fieldsReply reply)

def Sent.reads : (x : Sent) → Reply (.redis x.command) → Except RedisStateError x.Result
  | writeExternal _ _ => writeReply
  | expireExternal _ _ => writeReply
  | writeLogout _ _ => writeReply
  | expireLogout _ _ => writeReply
  | readSession _ => sessionReply
  | dropSession _ => writeReply
  | claim _ => scriptReply claimReply
  | issue _ _ _ => scriptReply unitReply
  | create _ _ _ _ => scriptReply unitReply
  | typeHandoff _ => typeReply
  | readHandoffLookup _ => lookupReply
  | exchange _ _ _ _ => scriptReply exchangeReply
  | logout _ _ _ => scriptReply logoutReply

namespace Vault

/-- **What a command does to a vault.** An exchange finds the session by itself; the lookup of a
handoff that is gone is invalid. -/
def exec (v : Vault) : (x : Sent) → Except RedisStateError x.Result × Vault
  | .writeExternal l tx => (.ok (), v.put .external l tx)
  | .expireExternal l _ => (.ok (), v.expire .external l)
  | .writeLogout l tx => (.ok (), v.put .logout l tx)
  | .expireLogout l _ => (.ok (), v.expire .logout l)
  | .readSession l => ((v.records .session l).elim (.error .notFound) .ok, v)
  | .dropSession l => (.ok (), v.drop .session l)
  | .claim l => v.claim l
  | .issue session handoff record => v.issue session handoff record
  | .create session state handoff record => v.create session state handoff record
  | .typeHandoff handoff =>
    ((v.records .handoff handoff).elim (.error .notFound) fun _ => .ok (), v)
  | .readHandoffLookup handoff =>
    ((v.records .handoff handoff).elim (.error .invalidStoredState) fun record =>
      .ok record.commonSessionLookup, v)
  | .exchange handoff serviceId challenge _ => v.exchange handoff serviceId challenge
  | .logout l session csrfLookup => v.completeLogout l session csrfLookup

/-- **One step of a vault**, with the same events as a step of Redis. -/
inductive Step : Vault → Redis.Event ScriptName → Vault → Prop
  | exec {v v' : Vault} {x : Sent} {r : Except Redis.Error x.command.Reply}
      (h : v.exec x = (x.reads r, v')) : Step v (.command x.command r) v'
  | fail {v : Vault} (c : Command) : Step v (.command c (.error .unavailable)) v
  | tick {v : Vault} (n : ℕ) : Step v (.tick n) { v with time := v.time + n }
  | expire {v : Vault} {f : RecordKind} {l : String} {a : f.Record}
      (h : v.records f l = some a) (hx : v.Expired a) : Step v (.expire (f.key l)) (v.drop f l)

/-- Runs of a vault, with their events. -/
inductive Run (v : Vault) : List (Redis.Event ScriptName) → Vault → Prop
  | nil : Run v [] v
  | snoc {E : List (Redis.Event ScriptName)} {u w : Vault} {e : Redis.Event ScriptName}
      (h : Run v E u) (hs : Step u e w) : Run v (E ++ [e]) w

/-! ## Reading and changing records -/

section Records

variable {v : Vault} {f g : RecordKind} {l l' : String} {a : Option f.Record}

@[simp] theorem set_time : (v.set f l a).time = v.time := rfl

@[simp] theorem set_self : (v.set f l a).records f l = a := by
  show Function.update v.records f (Function.update (v.records f) l a) f l = a
  rw [Function.update_self, Function.update_self]

theorem set_of_ne_lookup (h : l' ≠ l) : (v.set f l a).records f l' = v.records f l' := by
  show Function.update v.records f (Function.update (v.records f) l a) f l' = _
  rw [Function.update_self, Function.update_of_ne h]

theorem set_of_ne_kind (h : g ≠ f) : (v.set f l a).records g = v.records g :=
  Function.update_of_ne h ..

end Records

/-! ## Errors -/

section Errors

variable {v : Vault} {f : RecordKind} {l : String} {α : Type} {e : RedisStateError}

/-- A refused use found no record or an expired one, or refused for its own reasons. -/
theorem unexpired_error {use : f.Record → Except RedisStateError α × Vault}
    (h : (v.unexpired f l use).1 = .error e) :
    e = .notFound ∨ e = .expired ∨ ∃ a, v.records f l = some a ∧ (use a).1 = .error e := by
  unfold unexpired at h
  split at h
  · exact .inl (Except.error.inj h).symm
  · rename_i a ha
    split_ifs at h
    · exact .inr (.inl (Except.error.inj h).symm)
    · exact .inr (.inr ⟨a, ha, h⟩)

/-- A key that the command creates is in use. -/
def Conflict (v : Vault) : Sent → Prop
  | .issue _ handoff _ => (v.records .handoff handoff).isSome
  | .create session _ handoff _ =>
    (v.records .session session).isSome ∨ (v.records .handoff handoff).isSome
  | _ => False

/-- **A vault reports no failures**, conflicts only for keys in use, and only one read as invalid:
the lookup of a handoff that is gone. -/
theorem exec_error {x : Sent} (h : (v.exec x).1 = .error e) :
    e ≠ .redisFailure ∧ (e = .keyConflict → v.Conflict x) ∧ (e = .invalidStoredState →
      ∃ handoff, x = .readHandoffLookup handoff ∧ v.records .handoff handoff = none) := by
  cases x with
  | readSession l =>
    cases hr : v.records .session l with
    | none =>
      rw [exec, hr] at h
      cases h
      simp
    | some a =>
      rw [exec, hr] at h
      cases h
  | claim l =>
    obtain rfl | rfl | ⟨tx, -, hu⟩ := unexpired_error h
    · simp
    · simp
    · split_ifs at hu
      cases hu
      simp
  | issue session handoff record =>
    obtain rfl | rfl | ⟨state, -, hu⟩ := unexpired_error h
    · simp
    · simp
    · split_ifs at hu with hc
      · cases hu
        exact ⟨by simp, fun _ => hc, by simp⟩
      · cases hu
        simp
  | create session state handoff record =>
    simp only [exec, create] at h
    split_ifs at h with hc
    · cases h
      exact ⟨by simp, fun _ => hc, by simp⟩
    · cases h
      simp
  | typeHandoff handoff =>
    cases hr : v.records .handoff handoff with
    | none =>
      rw [exec, hr] at h
      cases h
      simp
    | some a =>
      rw [exec, hr] at h
      cases h
  | readHandoffLookup handoff =>
    cases hr : v.records .handoff handoff with
    | none =>
      rw [exec, hr] at h
      cases h
      exact ⟨by simp, by simp, fun _ => ⟨handoff, rfl, hr⟩⟩
    | some a =>
      rw [exec, hr] at h
      cases h
  | exchange handoff serviceId challenge session =>
    obtain rfl | rfl | ⟨record, -, hu⟩ := unexpired_error h
    · simp
    · simp
    · split_ifs at hu
      · cases hu
        simp
      · cases hu
        simp
      · cases hu
        simp
      · obtain rfl | rfl | ⟨state, -, hs⟩ := unexpired_error hu
        · simp
        · simp
        · cases hs
  | logout l session csrfLookup =>
    obtain rfl | rfl | ⟨tx, -, hu⟩ := unexpired_error h
    · simp
    · simp
    · split_ifs at hu
      · cases hu
        simp
      · cases hu
        simp
  | _ => cases h

end Errors

/-! ## Records stay until they expire -/

section Stays

variable {v v' : Vault} {f g : RecordKind} {l m : String} {α : Type} {n : UInt64}
  {e : Redis.Event ScriptName} {E : List (Redis.Event ScriptName)}

/-- **The command displaced a record** before its time: by a plain write or a deletion, or by a
logout that succeeded. -/
def Displaced (f : RecordKind) (l : String) : (x : Sent) → Except RedisStateError x.Result → Prop
  | .writeExternal m _, .ok _ => f = .external ∧ m = l
  | .writeLogout m _, .ok _ => f = .logout ∧ m = l
  | .dropSession m, .ok _ => f = .session ∧ m = l
  | .logout _ session _, .ok _ => f = .session ∧ session = l
  | _, _ => False

/-- The event displaced a record. -/
def Displaces (f : RecordKind) (l : String) (e : Redis.Event ScriptName) : Prop :=
  ∃ (x : Sent) (r : Except Redis.Error x.command.Reply),
    e = .command x.command r ∧ Displaced f l x (x.reads r)

/-- Handoffs are never displaced. -/
theorem not_displaces_handoff : ¬Displaces .handoff l e := by
  rintro ⟨x, r, -, h⟩
  generalize x.reads r = result at h
  cases x <;> cases result <;> first | exact h | cases h.1

/-- The record is stored with the same expiry, or its time has come. -/
def Stays (v : Vault) (f : RecordKind) (l : String) (expiresAt : UInt64) : Prop :=
  (∃ b, v.records f l = some b ∧ f.expiresAt b = expiresAt) ∨ expiresAt.toNat ≤ v.time

theorem Stays.set_other {a : Option g.Record} (hv : v.Stays f l n) (h : ¬(f = g ∧ m = l)) :
    (v.set g m a).Stays f l n := by
  obtain ⟨c, hc, hx⟩ | ht := hv
  · refine .inl ⟨c, ?_, hx⟩
    by_cases hf : f = g
    · subst hf
      rw [set_of_ne_lookup fun e => h ⟨rfl, e.symm⟩]
      exact hc
    · rw [set_of_ne_kind hf]
      exact hc
  · exact .inr ht

/-- A record with another expiry is put where none is stored, or where it is the same. -/
theorem Stays.put {a : g.Record} (hv : v.Stays f l n)
    (ha : ∀ c, v.records g m = some c → g.expiresAt a = g.expiresAt c) :
    (v.put g m a).Stays f l n := by
  by_cases h : f = g ∧ m = l
  · obtain ⟨rfl, rfl⟩ := h
    obtain ⟨c, hc, hx⟩ | ht := hv
    · exact .inl ⟨a, set_self, (ha c hc).trans hx⟩
    · exact .inr ht
  · exact hv.set_other h

theorem Stays.drop (hv : v.Stays f l n) (hm : ∀ c, v.records g m = some c → v.Expired c) :
    (v.drop g m).Stays f l n := by
  by_cases h : f = g ∧ m = l
  · obtain ⟨rfl, rfl⟩ := h
    obtain ⟨c, hc, hx⟩ | ht := hv
    · exact .inr (hx ▸ hm c hc)
    · exact .inr ht
  · exact hv.set_other h

theorem Stays.unexpired {use : g.Record → Except RedisStateError α × Vault} (hv : v.Stays f l n)
    (hu : ∀ a, v.records g m = some a → ¬v.Expired a → (use a).2.Stays f l n) :
    (v.unexpired g m use).2.Stays f l n := by
  unfold Vault.unexpired
  split
  · exact hv
  · rename_i a ha
    split_ifs with hx
    · exact hv.drop fun c hc => Option.some.inj (ha.symm.trans hc) ▸ hx
    · exact hu a ha hx

theorem Stays.expire (hv : v.Stays f l n) : (v.expire g m).Stays f l n := by
  unfold Vault.expire
  split
  · rename_i a ha
    split_ifs with hx
    · exact hv.drop fun c hc => Option.some.inj (ha.symm.trans hc) ▸ hx
    · exact hv
  · exact hv

/-- A logout that does not succeed drops no session. -/
theorem Stays.completeLogout {session csrfLookup : String} (hv : v.Stays f l n)
    (hd : ∀ uri, (v.completeLogout m session csrfLookup).1 = .ok uri →
      ¬(f = .session ∧ session = l)) : (v.completeLogout m session csrfLookup).2.Stays f l n := by
  refine hv.unexpired fun tx htx hx => ?_
  split_ifs with hu hc
  · exact hv
  · exact hv
  · refine (hv.put fun c hc => ?_).set_other (hd tx.logoutReturnUri ?_)
    · cases htx.symm.trans hc
      rfl
    · simp only [Vault.completeLogout, Vault.unexpired, htx, if_neg hx, if_neg hu, if_neg hc]

theorem Stays.exec {x : Sent} (hv : v.Stays f l n) (hd : ¬Displaced f l x (v.exec x).1) :
    (v.exec x).2.Stays f l n := by
  cases x with
  | writeExternal m tx => exact hv.set_other hd
  | writeLogout m tx => exact hv.set_other hd
  | expireExternal m t => exact hv.expire
  | expireLogout m t => exact hv.expire
  | dropSession m => exact hv.set_other hd
  | claim m =>
    refine hv.unexpired fun tx ht _ => ?_
    split_ifs
    · exact hv
    · refine hv.put fun c hc => ?_
      cases ht.symm.trans hc
      rfl
  | issue session handoff record =>
    refine hv.unexpired fun state _ _ => ?_
    split_ifs with hc
    · exact hv
    · exact hv
    · exact hv.put fun c hc' => absurd (Option.isSome_of_eq_some hc') hc
  | create session state handoff record =>
    simp only [Vault.exec, Vault.create]
    split_ifs with hc
    · exact hv
    · exact hv
    · refine (hv.put fun c hc' => absurd (.inl (Option.isSome_of_eq_some hc')) hc).put
        fun c hc' => ?_
      rw [Vault.put, set_of_ne_kind (by decide)] at hc'
      exact absurd (.inr (Option.isSome_of_eq_some hc')) hc
  | exchange handoff serviceId challenge session =>
    refine hv.unexpired fun record hr _ => ?_
    split_ifs
    · exact hv
    · exact hv
    · exact hv
    · refine hv.unexpired fun state _ _ => ?_
      refine hv.put fun c hc => ?_
      cases hr.symm.trans hc
      rfl
  | logout m session csrfLookup =>
    refine hv.completeLogout fun uri hok hs => hd ?_
    rw [show (v.exec (.logout m session csrfLookup)).1 = .ok uri from hok]
    exact hs
  | _ => exact hv

/-- **A stored record stays until its time has come**, unless it is displaced. -/
theorem Step.stays (hs : Step v e v') (hd : ¬Displaces f l e) (hv : v.Stays f l n) :
    v'.Stays f l n := by
  cases hs with
  | @exec _ x r h =>
    have hx := hv.exec (x := x) fun hx => hd ⟨x, r, rfl, by rwa [h] at hx⟩
    rwa [h] at hx
  | fail => exact hv
  | tick =>
    obtain hc | ht := hv
    · exact .inl hc
    · exact .inr (ht.trans (Nat.le_add_right ..))
  | expire ha hx => exact hv.drop fun c hc => Option.some.inj (ha.symm.trans hc) ▸ hx

theorem Run.stays (h : Run v E v') (hd : ∀ e ∈ E, ¬Displaces f l e) (hv : v.Stays f l n) :
    v'.Stays f l n := by
  induction h with
  | nil => exact hv
  | snoc _ hs ih =>
    exact hs.stays (hd _ (by simp)) (ih fun e he => hd e (List.mem_append_left _ he))

end Stays

end Vault

end AuthFoundation
