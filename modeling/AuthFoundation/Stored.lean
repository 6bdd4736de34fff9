import AuthFoundation.Ledger

set_option autoImplicit false

/-!
# Stored records as the scripts see them

The scripts read the fields of a record as bytes and numbers. For a record the service wrote, these
are the fields of the record.

* `externalValid_record`, …, `logoutValid_record`: which records pass the checks of the scripts.
* `handoff_field`, `num_u64`, …: the fields as the scripts read them.
* `ClaimCommit.unexpired`, …, `ExchangeCommit.records`: what a script that commits found.
-/

namespace AuthFoundation

open Text Redis Lua

/-- The scripts and the service accept the same lookups. -/
theorem lookup_utf8 (l : String) : lookup (some (utf8 l)) = isLookup l := by
  have hl : lookup (some (utf8 l)) = true ↔
      (utf8 l ≠ [] ∧ ∀ b ∈ utf8 l, isHex b = true) ∧ (utf8 l).length = 64 := by
    simp [lookup]
  have hr : isLookup l = true ↔
      (len l = 64 ∧ ∀ b ∈ utf8 l, b < 128) ∧ ∀ b ∈ utf8 l, isHex b = true := by
    simp [isLookup, isAscii]
  rw [Bool.eq_iff_iff, hl, hr, len]
  constructor
  · rintro ⟨⟨-, hx⟩, hn⟩
    exact ⟨⟨hn, fun b hb => lt_of_isHex (hx b hb)⟩, hx⟩
  · rintro ⟨⟨hn, -⟩, hx⟩
    refine ⟨⟨fun h => ?_, hx⟩, hn⟩
    rw [h] at hn
    cases hn

section Fields

variable (f : String)

theorem external_field (a : ExternalAuthTransaction) :
    hget (recordHash (encodeExternal a)) f = ((encodeExternal a).lookup f).map utf8 :=
  lookup_recordHash (encodeExternal_nodup a) f

theorem session_field (a : CommonSession) :
    hget (recordHash (encodeSession a)) f = ((encodeSession a).lookup f).map utf8 :=
  lookup_recordHash (encodeSession_nodup a) f

theorem handoff_field (a : AuthenticationHandoff) :
    hget (recordHash (encodeHandoff a)) f = ((encodeHandoff a).lookup f).map utf8 :=
  lookup_recordHash (encodeHandoff_nodup a) f

theorem logout_field (a : CommonLogoutTransaction) :
    hget (recordHash (encodeLogout a)) f = ((encodeLogout a).lookup f).map utf8 :=
  lookup_recordHash (encodeLogout_nodup a) f

end Fields

theorem externalValid_record (a : ExternalAuthTransaction) :
    externalValid (recordHash (encodeExternal a)) = true ↔
      a.createdAt.toNat < 2 ^ 53 ∧ a.expiresAt.toNat < 2 ^ 53 := by
  rw [externalValid, hlen_recordHash (encodeExternal_nodup a)]
  simp only [external_field, ← uint_u64]
  simp [encodeExternal, List.lookup]

theorem sessionValid_record (a : CommonSession) :
    sessionValid (recordHash (encodeSession a)) = true ↔ a.authenticatedAt.toNat < 2 ^ 53 ∧
      a.createdAt.toNat < 2 ^ 53 ∧ a.expiresAt.toNat < 2 ^ 53 := by
  rw [sessionValid, hlen_recordHash (encodeSession_nodup a)]
  simp only [session_field, ← uint_u64]
  simp [encodeSession, List.lookup, int_i32]

theorem handoffValid_record (a : AuthenticationHandoff) :
    handoffValid (recordHash (encodeHandoff a)) = true ↔ isLookup a.commonSessionLookup = true ∧
      a.authenticatedAt.toNat < 2 ^ 53 ∧ a.issuedAt.toNat < 2 ^ 53 ∧
      a.expiresAt.toNat < 2 ^ 53 := by
  rw [handoffValid, hlen_recordHash (encodeHandoff_nodup a)]
  simp only [handoff_field, ← uint_u64, ← lookup_utf8]
  simp [encodeHandoff, List.lookup, int_i32]

theorem logoutValid_record (a : CommonLogoutTransaction) :
    logoutValid (recordHash (encodeLogout a)) = true ↔ isLookup a.csrfLookup = true ∧
      a.createdAt.toNat < 2 ^ 53 ∧ a.expiresAt.toNat < 2 ^ 53 := by
  rw [logoutValid, hlen_recordHash (encodeLogout_nodup a)]
  simp only [logout_field, ← uint_u64, ← lookup_utf8]
  simp [encodeLogout, List.lookup]

/-! ## What an exchange saw -/

/-- **The scripts compare with the clock of the store.** -/
theorem num_le_now {s : State} {n : UInt64} (hn : n.toNat < 2 ^ 53) :
    num (some (utf8 (toString n))) ≤ now s ↔ n.toNat ≤ s.time := by
  rw [num_u64 hn]
  constructor
  · intro h
    by_contra hlt
    rw [now_eq (by omega)] at h
    omega
  · intro h
    exact le_now hn h

/-- A number the scripts accept has come when the clock of the store says so. -/
theorem lt_of_now {s : State} {n : UInt64} (hn : n.toNat < 2 ^ 53)
    (h : now s < num (some (utf8 (toString n)))) : s.time < n.toNat :=
  not_le.mp fun hle => not_le.mpr h ((num_le_now hn).mpr hle)

/-- A claim that commits found its transaction unexpired. -/
theorem ClaimCommit.unexpired {s s' : State} {k : Bytes} {a : ExternalAuthTransaction}
    {x : Option ℕ} {reply : List Value}
    (h : ClaimCommit s k (recordHash (encodeExternal a)) x reply s') :
    s.time < a.expiresAt.toNat := by
  have hn := ((externalValid_record a).mp h.valid).2
  have hl := h.live
  rw [external_field] at hl
  exact lt_of_now hn hl

/-- An issue that commits found its session unexpired. -/
theorem IssueCommit.unexpired {s s' : State} {session handoff : String}
    {record : AuthenticationHandoff} {a : CommonSession} {x : Option ℕ} {reply : List Value}
    (h : IssueCommit s session handoff record (recordHash (encodeSession a)) x reply s') :
    s.time < a.expiresAt.toNat := by
  have hn := ((sessionValid_record a).mp h.valid).2.2
  have hl := h.live
  rw [session_field] at hl
  exact lt_of_now hn hl

/-- A logout that commits found its transaction unexpired. -/
theorem LogoutCommit.unexpired {s s' : State} {lookup session csrfLookup : String}
    {a : CommonLogoutTransaction} {x : Option ℕ} {reply : List Value}
    (h : LogoutCommit s lookup session csrfLookup (recordHash (encodeLogout a)) x reply s') :
    s.time < a.expiresAt.toNat := by
  have hn := ((logoutValid_record a).mp h.valid).2.2
  have hl := h.live
  rw [logout_field] at hl
  exact lt_of_now hn hl

theorem exchangeReply_ok {reply : List Value} {v : HandoffExchangeResult}
    (h : exchangeReply reply = .ok v) : ∃ u a : ℤ, reply = [.int 0, .int u, .int a] ∧
      v = ⟨Int32.ofInt u, UInt64.ofNat a.toNat⟩ := by
  unfold exchangeReply at h
  split at h
  · split_ifs at h
    cases h
    exact ⟨_, _, rfl, rfl⟩
  · rename_i code
    unfold scriptError at h
    split at h <;> cases h
  · cases h

/-- **An exchange that commits** compared the record of the handoff with the record of its
session. -/
theorem ExchangeCommit.records {s s' : State} {handoff serviceId challenge session : String}
    {record : AuthenticationHandoff} {state : CommonSession} {x y : Option ℕ} {reply : List Value}
    (h : ExchangeCommit s handoff serviceId challenge session (recordHash (encodeHandoff record)) x
      (recordHash (encodeSession state)) y reply s') :
    record.status = .unused ∧ record.serviceId = serviceId ∧ record.codeChallenge = challenge ∧
      record.commonSessionLookup = session ∧ record.internalUserId = state.internalUserId ∧
      record.authenticatedAt = state.authenticatedAt ∧ s.time < record.expiresAt.toNat ∧
      s.time < state.expiresAt.toNat ∧
      reply = [.int 0, .int record.internalUserId.toInt, .int record.authenticatedAt.toNat] := by
  obtain ⟨-, ha, -, he⟩ := (handoffValid_record record).mp h.valid
  obtain ⟨hsa, -, hse⟩ := (sessionValid_record state).mp h.sessionValid
  obtain ⟨-, -, hlive, hstatus, hservice, hchallenge, hlookup, -, -, hsessionLive, huser,
    hauthenticated, hreply, -⟩ := h
  simp only [handoff_field, session_field] at *
  simp [encodeHandoff, encodeSession, List.lookup, num_i32, num_u64 ha, num_u64 hsa] at *
  exact ⟨(usageStatusValue_inj (b := .unused)).mp hstatus, hservice, hchallenge, hlookup,
    Int32.toInt_inj.mp huser, UInt64.toNat_inj.mp hauthenticated, lt_of_now he hlive,
    lt_of_now hse hsessionLive, hreply⟩

end AuthFoundation
