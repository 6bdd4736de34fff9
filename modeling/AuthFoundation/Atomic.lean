import AuthFoundation.Calls
import AuthFoundation.ScriptSpec

set_option autoImplicit false

/-!
# Scripts are atomic

A script that refuses leaves the store as it was, or deletes the one record it found expired. A
script that commits makes all of its writes. No script stops with an error.

* `Outcome`: refused, expired or committed; `ClaimCommit`, …, `LogoutCommit`: what a script knows
  and does when it commits.
* `claim_outcome`, …, `logout_outcome`: the outcomes of each script on any store.
* **`script_atomic`**: the outcomes of every script of every call.
-/

namespace AuthFoundation

open Text Redis

/-! ## Outcomes -/

/-- The outcomes of a script on a store. -/
inductive Outcome (s : State) (keys : List Bytes) (Commit : List Value → State → Prop) :
    List Value → State → Prop
  | refused {code : ℤ} (h : code ≠ 0) : Outcome s keys Commit [.int code] s
  | expired {k : Bytes} {h : Hash} {x : Option ℕ} (hk : k ∈ keys)
      (he : s.entries k = some ⟨.hash h, x⟩) (hu : uint (hget h "expires_at") = true)
      (hn : num (hget h "expires_at") ≤ now s) :
      Outcome s keys Commit [.int 2] (s.del k)
  | committed {values : List Value} {s' : State} (h : Commit (.int 0 :: values) s') :
      Outcome s keys Commit (.int 0 :: values) s'

/-- A branch of a script. -/
theorem Outcome.ite {s : State} {keys : List Bytes} {Commit : List Value → State → Prop} {c : Prop}
    [Decidable c] {a b : List Value × State} (h₁ : c → Outcome s keys Commit a.1 a.2)
    (h₂ : ¬c → Outcome s keys Commit b.1 b.2) :
    Outcome s keys Commit (if c then a else b).1 (if c then a else b).2 := by
  by_cases h : c
  · rw [if_pos h]
    exact h₁ h
  · rw [if_neg h]
    exact h₂ h

theorem object_eq_hash {s : State} {k : Bytes} {h : Hash} (e : s.object k = some (.hash h)) :
    ∃ x, s.entries k = some ⟨.hash h, x⟩ := by
  obtain ⟨⟨o, x⟩, he, rfl⟩ := Option.map_eq_some_iff.mp e
  exact ⟨x, he⟩

/-! The expiry of a checked hash is a number. -/

theorem externalValid_expires {h : Hash} (hv : externalValid h = true) :
    uint (hget h "expires_at") = true := by
  simp only [externalValid, decide_eq_true_eq, not_or, not_not] at hv
  tauto

theorem sessionValid_expires {h : Hash} (hv : sessionValid h = true) :
    uint (hget h "expires_at") = true := by
  simp only [sessionValid, decide_eq_true_eq, not_or, not_not] at hv
  tauto

theorem handoffValid_expires {h : Hash} (hv : handoffValid h = true) :
    uint (hget h "expires_at") = true := by
  simp only [handoffValid, decide_eq_true_eq, not_or, not_not] at hv
  tauto

theorem logoutValid_expires {h : Hash} (hv : logoutValid h = true) :
    uint (hget h "expires_at") = true := by
  simp only [logoutValid, decide_eq_true_eq, not_or, not_not] at hv
  tauto

theorem setField_eq {s : State} {k : Bytes} {h : Hash} {x : Option ℕ}
    (he : s.entries k = some ⟨.hash h, x⟩) (f v : Bytes) :
    setField s k f v h = s.set k ⟨.hash (h.insert f v), x⟩ := by
  rw [setField, he]
  rfl

section Scripts

variable (s : State)

/-! ## The claim of a callback -/

structure ClaimCommit (k : Bytes) (h : Hash) (x : Option ℕ) (reply : List Value) (s' : State) :
    Prop where
  entry : s.entries k = some ⟨.hash h, x⟩
  valid : externalValid h = true
  live : now s < num (hget h "expires_at")
  status : hget h "status" = some (utf8 "waiting")
  reply : reply = [.int 0, .ofField (hget h "service_id"), .ofField (hget h "service_state"),
    .ofField (hget h "handoff_code_challenge"), .ofField (hget h "provider"),
    .ofField (hget h "provider_verification_data"), .ofField (hget h "created_at"),
    .ofField (hget h "expires_at"), .bulk "processing"]
  store : s' = s.set k ⟨.hash (h.insert "status" "processing"), x⟩

theorem claim_outcome (lookup : String) : ∃ reply s',
    (Sent.claim lookup).command.script ScriptName.source s = (.ok reply, s') ∧
      Outcome s [Key.external lookup]
        (fun r s' => ∃ h x, ClaimCommit s (Key.external lookup) h x r s') reply s' := by
  refine ⟨_, _, callbackClaim_run _ (args []) s, ?_⟩
  unfold callbackClaimSpec
  split
  · exact .refused (by decide)
  · exact .refused (by decide)
  · rename_i h ho
    obtain ⟨x, he⟩ := object_eq_hash ho
    refine .ite (fun _ => .refused (by decide)) fun hv => ?_
    have hv : externalValid h = true := by simpa using hv
    refine .ite (fun hn => .expired (List.mem_singleton_self _) he (externalValid_expires hv) hn)
      fun hn => ?_
    refine .ite (fun _ => .refused (by decide)) fun _ => ?_
    refine .ite (fun _ => .refused (by decide)) fun hw => ?_
    exact .committed ⟨h, x, he, hv, not_le.mp hn, not_not.mp hw, rfl,
      setField_eq he _ _⟩

/-! ## The issue of a handoff -/

structure IssueCommit (session handoff : String) (record : AuthenticationHandoff) (h : Hash)
    (x : Option ℕ) (reply : List Value) (s' : State) : Prop where
  entry : s.entries (Key.session session) = some ⟨.hash h, x⟩
  valid : sessionValid h = true
  live : now s < num (hget h "expires_at")
  absent : s.entries (Key.handoff handoff) = none
  status : record.status = .unused
  lookup : record.commonSessionLookup = session
  user : num (hget h "internal_user_id") = record.internalUserId.toInt
  authenticated : num (hget h "authenticated_at") = record.authenticatedAt.toNat
  times : record.authenticatedAt.toNat < 2 ^ 53 ∧ record.issuedAt.toNat < 2 ^ 53 ∧
    record.expiresAt.toNat < 2 ^ 53
  fresh : now s < record.expiresAt.toNat
  reply : reply = [.int 0]
  store : s' = s.set (Key.handoff handoff)
    ⟨.hash (recordHash (encodeHandoff record)), some record.expiresAt.toNat⟩

theorem status_of_unused {status : UsageStatus}
    (h : utf8 (usageStatusValue status) = utf8 "unused") : status = .unused := by
  cases status with
  | unused => rfl
  | used => exact absurd (utf8_injective h) (by decide)

theorem tonumber_u64 {n : UInt64} (h : n.toNat < 2 ^ 53) :
    Lua.tonumber (utf8 (toString n)) = some (n.toNat : ℤ) := by
  rw [utf8_toString_u64, Lua.tonumber_digits, Lua.double_of_lt h]

theorem issue_outcome (session handoff : String) (record : AuthenticationHandoff) :
    ∃ reply s', (Sent.issue session handoff record).command.script ScriptName.source s =
        (.ok reply, s') ∧
      Outcome s [Key.session session, Key.handoff handoff]
        (fun r s' => ∃ h x, IssueCommit s session handoff record h x r s') reply s' := by
  refine ⟨_, _, issueSsoHandoff_run _ _ s (n := record.expiresAt.toNat) rfl, ?_⟩
  unfold issueSsoHandoffSpec
  split
  · exact .refused (by decide)
  · exact .refused (by decide)
  · rename_i h ho
    obtain ⟨x, he⟩ := object_eq_hash ho
    refine .ite (fun _ => .refused (by decide)) fun hv => ?_
    have hv : sessionValid h = true := by simpa using hv
    refine .ite (fun hn => .expired List.mem_cons_self he (sessionValid_expires hv) hn)
      fun hn => ?_
    refine .ite (fun _ => .refused (by decide)) fun hp => ?_
    refine .ite (fun _ => .refused (by decide)) fun _ => ?_
    refine .ite (fun _ => .refused (by decide)) fun ha => ?_
    refine .ite (fun _ => .refused (by decide)) fun hb => ?_
    refine .ite (fun _ => .refused (by decide)) fun hx => ?_
    simp only [not_or, not_not] at ha hb hp
    obtain ⟨hs, -, -, h6, h7, h8⟩ := ha
    obtain ⟨hl, hu, hat⟩ := hb
    have h6 := (uint_u64 _).mp h6
    have h8 := (uint_u64 _).mp h8
    refine .committed ⟨h, x, he, hv, not_le.mp hn, hp, status_of_unused hs,
      utf8_injective hl, ?_, ?_, ⟨h6, (uint_u64 _).mp h7, h8⟩, ?_, rfl, ?_⟩
    · exact (Option.some.inj ((tonumber_i32 _).symm.trans hu)).symm
    · exact (Option.some.inj ((tonumber_u64 h6).symm.trans hat)).symm
    · rw [← num_u64 h8]
      exact not_le.mp hx
    · have hd : decimal (utf8 (toString record.expiresAt)) = record.expiresAt.toNat :=
        decimal_digits _
      rw [← hd]
      rfl

/-! ## The creation of a session with its handoff -/

structure CreateCommit (session : String) (state : CommonSession) (handoff : String)
    (record : AuthenticationHandoff) (reply : List Value) (s' : State) : Prop where
  absent : s.entries (Key.session session) = none
  handoffAbsent : s.entries (Key.handoff handoff) = none
  status : record.status = .unused
  lookup : record.commonSessionLookup = session
  user : record.internalUserId = state.internalUserId
  authenticated : record.authenticatedAt = state.authenticatedAt
  times : record.authenticatedAt.toNat < 2 ^ 53 ∧ record.issuedAt.toNat < 2 ^ 53 ∧
    record.expiresAt.toNat < 2 ^ 53 ∧ state.createdAt.toNat < 2 ^ 53 ∧
    state.expiresAt.toNat < 2 ^ 53
  fresh : now s < state.expiresAt.toNat ∧ now s < record.expiresAt.toNat
  reply : reply = [.int 0]
  store : s' = (s.set (Key.session session)
      ⟨.hash (recordHash (encodeSession state)), some state.expiresAt.toNat⟩).set
    (Key.handoff handoff)
      ⟨.hash (recordHash (encodeHandoff record)), some record.expiresAt.toNat⟩

theorem create_outcome (session : String) (state : CommonSession) (handoff : String)
    (record : AuthenticationHandoff) :
    ∃ reply s', (Sent.create session state handoff record).command.script ScriptName.source s =
        (.ok reply, s') ∧
      Outcome s [Key.session session, Key.handoff handoff]
        (CreateCommit s session state handoff record) reply s' := by
  refine ⟨_, _, createSessionAndHandoff_run _ _ s (m := state.expiresAt.toNat)
    (n := record.expiresAt.toNat) rfl rfl ?_, ?_⟩
  · exact show Key.session session ≠ Key.handoff handoff from ne_of_family (by simp)
  unfold createSessionAndHandoffSpec
  refine .ite (fun _ => .refused (by decide)) fun hp => ?_
  refine .ite (fun _ => .refused (by decide)) fun ha => ?_
  refine .ite (fun _ => .refused (by decide)) fun hb => ?_
  refine .ite (fun _ => .refused (by decide)) fun hc => ?_
  refine .ite (fun _ => .refused (by decide)) fun hx => ?_
  simp only [not_or, not_not] at hp ha hb hc hx
  obtain ⟨-, h2, h3, h4, -, -⟩ := ha
  obtain ⟨hs, -, -, h10, h11, h12⟩ := hb
  obtain ⟨hl, hu, hat⟩ := hc
  have h2 := (uint_u64 _).mp h2
  have h4 := (uint_u64 _).mp h4
  have h10 := (uint_u64 _).mp h10
  have h12 := (uint_u64 _).mp h12
  refine .committed ⟨hp.1, hp.2, status_of_unused hs, utf8_injective hl, ?_, ?_,
    ⟨h10, (uint_u64 _).mp h11, h12, (uint_u64 _).mp h3, h4⟩, ⟨?_, ?_⟩, rfl, ?_⟩
  · have := (tonumber_i32 _).symm.trans (hu.trans (tonumber_i32 _))
    exact Int32.toInt_inj.mp (Option.some.inj this)
  · have := (tonumber_u64 h10).symm.trans (hat.trans (tonumber_u64 h2))
    exact UInt64.toNat_inj.mp (Int.ofNat_inj.mp (Option.some.inj this))
  · rw [← num_u64 h4]
    exact not_le.mp hx.1
  · rw [← num_u64 h12]
    exact not_le.mp hx.2
  · have hd : ∀ n : UInt64, decimal (utf8 (toString n)) = n.toNat := fun n => decimal_digits _
    rw [← hd, ← hd]
    rfl

/-! ## The exchange of a handoff -/

structure ExchangeCommit (handoff serviceId codeChallenge sessionLookup : String) (h : Hash)
    (x : Option ℕ) (g : Hash) (y : Option ℕ) (reply : List Value) (s' : State) : Prop where
  entry : s.entries (Key.handoff handoff) = some ⟨.hash h, x⟩
  valid : handoffValid h = true
  live : now s < num (hget h "expires_at")
  status : hget h "status" = some (utf8 "unused")
  service : hget h "service_id" = some (utf8 serviceId)
  challenge : hget h "code_challenge" = some (utf8 codeChallenge)
  lookup : hget h "common_session_lookup" = some (utf8 sessionLookup)
  session : s.entries (Key.session sessionLookup) = some ⟨.hash g, y⟩
  sessionValid : sessionValid g = true
  sessionLive : now s < num (hget g "expires_at")
  user : num (hget h "internal_user_id") = num (hget g "internal_user_id")
  authenticated : num (hget h "authenticated_at") = num (hget g "authenticated_at")
  reply : reply =
    [.int 0, .int (num (hget h "internal_user_id")), .int (num (hget h "authenticated_at"))]
  store : s' = s.set (Key.handoff handoff) ⟨.hash (h.insert "status" "used"), x⟩

theorem exchange_outcome (handoff serviceId challenge session : String) :
    ∃ reply s', (Sent.exchange handoff serviceId challenge session).command.script
        ScriptName.source s = (.ok reply, s') ∧
      Outcome s [Key.handoff handoff, Key.session session]
        (fun r s' => ∃ h x g y,
          ExchangeCommit s handoff serviceId challenge session h x g y r s') reply s' := by
  refine ⟨_, _, exchangeHandoff_run _ _ s, ?_⟩
  unfold exchangeHandoffSpec
  split
  · exact .refused (by decide)
  · exact .refused (by decide)
  · rename_i h ho
    obtain ⟨x, he⟩ := object_eq_hash ho
    refine .ite (fun _ => .refused (by decide)) fun hv => ?_
    have hv : handoffValid h = true := by simpa using hv
    refine .ite (fun hn => .expired List.mem_cons_self he (handoffValid_expires hv) hn)
      fun hn => ?_
    refine .ite (fun _ => .refused (by decide)) fun _ => ?_
    refine .ite (fun _ => .refused (by decide)) fun hw => ?_
    refine .ite (fun _ => .refused (by decide)) fun hs => ?_
    refine .ite (fun _ => .refused (by decide)) fun hc => ?_
    refine .ite (fun _ => .refused (by decide)) fun hl => ?_
    split
    · exact .refused (by decide)
    · exact .refused (by decide)
    · rename_i g hg
      obtain ⟨y, hg⟩ := object_eq_hash hg
      refine .ite (fun _ => .refused (by decide)) fun hgv => ?_
      have hgv : sessionValid g = true := by simpa using hgv
      refine .ite (fun hgn => .expired (List.mem_cons_of_mem _ (List.mem_singleton_self _)) hg
        (sessionValid_expires hgv) hgn) fun hgn => ?_
      refine .ite (fun _ => .refused (by decide)) fun hgu => ?_
      simp only [not_or, not_not] at hgu hl
      exact .committed ⟨h, x, g, y, he, hv, not_le.mp hn, not_not.mp hw,
        not_not.mp hs, not_not.mp hc, hl.2.1, hg, hgv, not_le.mp hgn, hgu.1,
        hgu.2, rfl, setField_eq he _ _⟩

/-! ## The completion of a logout -/

structure LogoutCommit (lookup session csrfLookup : String) (h : Hash) (x : Option ℕ)
    (reply : List Value) (s' : State) : Prop where
  entry : s.entries (Key.logout lookup) = some ⟨.hash h, x⟩
  valid : logoutValid h = true
  live : now s < num (hget h "expires_at")
  status : hget h "status" = some (utf8 "unused")
  csrf : hget h "csrf_lookup" = some (utf8 csrfLookup)
  reply : reply = [.int 0, .ofField (hget h "logout_return_uri")]
  store : s' = (s.set (Key.logout lookup) ⟨.hash (h.insert "status" "used"), x⟩).del
    (Key.session session)

theorem logout_outcome (lookup session csrfLookup : String) :
    ∃ reply s', (Sent.logout lookup session csrfLookup).command.script ScriptName.source s =
        (.ok reply, s') ∧
      Outcome s [Key.logout lookup, Key.session session]
        (fun r s' => ∃ h x, LogoutCommit s lookup session csrfLookup h x r s') reply s' := by
  refine ⟨_, _, completeCommonLogout_run _ _ s, ?_⟩
  unfold completeCommonLogoutSpec
  split
  · exact .refused (by decide)
  · exact .refused (by decide)
  · rename_i h ho
    obtain ⟨x, he⟩ := object_eq_hash ho
    refine .ite (fun _ => .refused (by decide)) fun hv => ?_
    have hv : logoutValid h = true := by simpa using hv
    refine .ite (fun hn => .expired List.mem_cons_self he (logoutValid_expires hv) hn)
      fun hn => ?_
    refine .ite (fun _ => .refused (by decide)) fun _ => ?_
    refine .ite (fun _ => .refused (by decide)) fun hw => ?_
    refine .ite (fun _ => .refused (by decide)) fun _ => ?_
    refine .ite (fun _ => .refused (by decide)) fun hc => ?_
    refine .committed ⟨h, x, he, hv, not_le.mp hn, not_not.mp hw, not_not.mp hc,
      rfl, ?_⟩
    rw [setField_eq he]
    rfl

/-! ## Every script of every call -/

/-- The record at the key goes from one status to another, and nothing else changes. -/
def StatusSet (k : Bytes) (old new : String) (t : State) : Prop :=
  ∃ h x, s.entries k = some ⟨.hash h, x⟩ ∧ hget h "status" = some (utf8 old) ∧
    t = s.set k ⟨.hash (h.insert "status" new), x⟩

/-- A record whose expiry is a number that the clock of the store has reached. -/
def FoundExpired (k : Bytes) : Prop :=
  ∃ h x, ∃ n : ℕ, s.entries k = some ⟨.hash h, x⟩ ∧ uint (hget h "expires_at") = true ∧
    (hget h "expires_at").bind Lua.tonumber = some (n : ℤ) ∧ n ≤ s.time

/-- **The writes of a call**, all of them and no others. -/
def RedisCall.Writes [Crates] : RedisCall → State → Prop
  | claimExternalCallback reference, t =>
    StatusSet s (externalKey reference) "waiting" "processing" t
  | issueSsoHandoff _ handoff record, t => s.entries (handoffKey handoff) = none ∧
      t = s.set (handoffKey handoff)
        ⟨.hash (recordHash (encodeHandoff record)), some record.expiresAt.toNat⟩
  | createSessionAndHandoff session state handoff record, t =>
    s.entries (sessionKey session) = none ∧ s.entries (handoffKey handoff) = none ∧
      t = (s.set (sessionKey session)
          ⟨.hash (recordHash (encodeSession state)), some state.expiresAt.toNat⟩).set
        (handoffKey handoff)
          ⟨.hash (recordHash (encodeHandoff record)), some record.expiresAt.toNat⟩
  | exchangeHandoff handoff _ _, t => StatusSet s (handoffKey handoff) "unused" "used" t
  | completeCommonLogout reference session _, t =>
    ∃ u, StatusSet s (logoutKey reference) "unused" "used" u ∧ t = u.del (sessionKey session)
  | _, _ => False

end Scripts

/-- **What a script may do**: not to fail; if its code is not 0, to leave the store unchanged or,
with code 2, to delete one record that has expired; if its code is 0, to make all its writes. -/
def Atomic (s : State) (keys : List Bytes) (Writes : State → Prop)
    (out : Except Error (List Value) × State) : Prop :=
  ∃ code values, out.1 = .ok (.int code :: values) ∧
    (code ≠ 0 → out.2 = s ∨ code = 2 ∧ ∃ k ∈ keys, FoundExpired s k ∧ out.2 = s.del k) ∧
    (code = 0 → Writes out.2)

section Atomicity

variable {s s' : State} {keys : List Bytes} {Commit : List Value → State → Prop}
  {Writes : State → Prop} {reply : List Value}

theorem FoundExpired.of_num {k : Bytes} {h : Hash} {x : Option ℕ} (ht : s.time < 2 ^ 53)
    (he : s.entries k = some ⟨.hash h, x⟩) (hu : uint (hget h "expires_at") = true)
    (hn : num (hget h "expires_at") ≤ now s) : FoundExpired s k := by
  rw [now_eq ht] at hn
  have h0 := num_nonneg hu
  refine ⟨h, x, (num (hget h "expires_at")).toNat, he, hu, ?_, by omega⟩
  rw [tonumber_of_uint hu, Int.toNat_of_nonneg h0]

/-- An outcome of a script whose commits make the writes. -/
theorem Outcome.atomic (h : Outcome s keys Commit reply s') (ht : s.time < 2 ^ 53)
    (hc : ∀ r s', Commit r s' → Writes s') {out : Except Error (List Value) × State}
    (he : out = (.ok reply, s')) : Atomic s keys Writes out := by
  subst he
  cases h with
  | refused h => exact ⟨_, _, rfl, fun _ => .inl rfl, fun h0 => absurd h0 h⟩
  | expired hk he hu hn =>
    exact ⟨_, _, rfl, fun _ => .inr ⟨rfl, _, hk, .of_num ht he hu hn, rfl⟩, fun h0 => by cases h0⟩
  | committed h => exact ⟨_, _, rfl, fun h0 => absurd rfl h0, fun _ => hc _ _ h⟩

/-- **Scripts are atomic**, whatever the store holds, for every script of every call. -/
theorem script_atomic [Crates] (q : RedisCall) {H : History Reply} {script : ScriptName}
    {arguments : List Bytes}
    {k : Reply (.redis (.eval script keys arguments)) → Service (Except RedisStateError q.Result)}
    (h : q.run.Trace H (.op (.redis (.eval script keys arguments)) k)) (ht : s.time < 2 ^ 53) :
    Atomic s keys (q.Writes s)
      ((Command.eval script keys arguments).script ScriptName.source s) := by
  obtain ⟨x, hx, hn⟩ := (q.sat.trace h).1
  cases q with
  | writeExternal reference state now =>
    obtain ⟨-, rfl⟩ | ⟨-, rfl⟩ := hn <;> cases hx
  | writeLogout reference state now =>
    obtain ⟨-, rfl⟩ | ⟨-, rfl⟩ := hn <;> cases hx
  | readSession reference now =>
    obtain ⟨-, rfl⟩ | ⟨-, rfl⟩ := hn <;> cases hx
  | claimExternalCallback reference =>
    obtain ⟨-, rfl⟩ := hn
    cases hx
    obtain ⟨reply, s', he, ho⟩ := claim_outcome s (referenceValueLookup reference)
    refine ho.atomic ht ?_ he
    rintro r s' ⟨h, x, hc⟩
    exact ⟨h, x, hc.entry, hc.status, hc.store⟩
  | issueSsoHandoff session handoff record =>
    obtain ⟨-, rfl⟩ := hn
    cases hx
    obtain ⟨reply, s', he, ho⟩ := issue_outcome s (referenceValueLookup session)
      (referenceValueLookup handoff) record
    exact ho.atomic ht (fun _ _ ⟨_, _, hc⟩ => ⟨hc.absent, hc.store⟩) he
  | createSessionAndHandoff session state handoff record =>
    obtain ⟨-, rfl⟩ := hn
    cases hx
    obtain ⟨reply, s', he, ho⟩ := create_outcome s (referenceValueLookup session) state
      (referenceValueLookup handoff) record
    exact ho.atomic ht (fun _ _ hc => ⟨hc.absent, hc.handoffAbsent, hc.store⟩) he
  | exchangeHandoff handoff serviceId challenge =>
    obtain ⟨-, rfl⟩ | ⟨-, rfl⟩ | ⟨lookup, -, -, rfl⟩ := hn
    · cases hx
    · cases hx
    · cases hx
      obtain ⟨reply, s', he, ho⟩ := exchange_outcome s (referenceValueLookup handoff)
        serviceId challenge lookup
      refine ho.atomic ht ?_ he
      rintro r s' ⟨h, x, g, y, hc⟩
      exact ⟨h, x, hc.entry, hc.status, hc.store⟩
  | completeCommonLogout reference session csrfLookup =>
    obtain ⟨-, rfl⟩ := hn
    cases hx
    obtain ⟨reply, s', he, ho⟩ := logout_outcome s (referenceValueLookup reference)
      (referenceValueLookup session) csrfLookup
    refine ho.atomic ht ?_ he
    rintro r s' ⟨h, x, hc⟩
    exact ⟨_, ⟨h, x, hc.entry, hc.status, rfl⟩, hc.store⟩

/-- A call that creates a session and a handoff. -/
def RedisCall.sample : RedisCall :=
  .createSessionAndHandoff "s" ⟨7, 100, 100, 28900⟩ "h"
    ⟨"portal", 7, "043a718774c572bd8a25adbeb1bfcd5c0256ae11cecf9f9c3f925d0e52beaf89", "challenge",
      100, 100, 220, .unused⟩

/-- A store with a transaction that expires at 700. -/
def transactionStore [Crates] (time : ℕ) : State := { State.empty with time := time }.set
  (externalKey "l") ⟨.hash (recordHash (encodeExternal
    ⟨"portal", "state", "challenge", "google", "", 100, 700, .waiting⟩)), some 700⟩

/-- A claim before the expiry of its transaction, and one at it. -/
theorem script_atomic_sample : letI := Crates.sample
    ∃ keys arguments,
      Atomic (transactionStore 699) keys
        ((RedisCall.claimExternalCallback "l").Writes (transactionStore 699))
        ((Command.eval .callbackClaim keys arguments).script ScriptName.source
          (transactionStore 699)) ∧
      ((Command.eval .callbackClaim keys arguments).script ScriptName.source
        (transactionStore 699)).1 = .ok ([.int 0] ++ (["portal", "state", "challenge", "google", "",
          "100", "700", "processing"].map fun v => .bulk (utf8 v))) ∧
      Atomic (transactionStore 700) keys
        ((RedisCall.claimExternalCallback "l").Writes (transactionStore 700))
        ((Command.eval .callbackClaim keys arguments).script ScriptName.source
          (transactionStore 700)) ∧
      ((Command.eval .callbackClaim keys arguments).script ScriptName.source
        (transactionStore 700)).1 = .ok [.int 2] :=
  letI := Crates.sample
  ⟨_, _, script_atomic (.claimExternalCallback "l") .nil (by decide), by decide +kernel,
    script_atomic (.claimExternalCallback "l") .nil (by decide), by decide +kernel⟩

end Atomicity

end AuthFoundation
