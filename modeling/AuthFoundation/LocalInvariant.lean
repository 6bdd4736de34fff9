import AuthFoundation.LocalState

set_option autoImplicit false

/-!
# The local state over any sequence of calls

* `LocalRun`: sequences of calls from the empty state, with their draws and results.
* `unexpired`: the references of the records that have not expired.
* `LocalInvariant`: capacities, times to live, and where references come from.
* `exec_login`, `exec_session`: what one call does to one record.
* `local_state_sound`: **the local state keeps its records** until they are used, removed or
  expired.
-/

namespace AuthFoundation

open Text

/-! ## Records -/

section Records

variable {α : Type} {m : Records α} {k k' : String} {a : α}

/-- The references of the records with a property. -/
def Records.having (m : Records α) (p : α → Bool) : Finset String :=
  m.keys.filter fun k => (m.lookup k).any p

theorem mem_keys_iff : k ∈ m.keys ↔ ∃ a, m.lookup k = some a := by
  rw [Finmap.mem_keys, ← Finmap.lookup_isSome, Option.isSome_iff_exists]

theorem keys_retain (p : α → Bool) : (m.retain p).keys = m.having p := by
  ext k
  rw [mem_keys_iff, Records.having, Finset.mem_filter, mem_keys_iff]
  simp only [lookup_retain, Option.filter_eq_some_iff]
  constructor
  · rintro ⟨a, ha, hp⟩
    exact ⟨⟨a, ha⟩, by simp [ha, hp]⟩
  · rintro ⟨⟨a, ha⟩, hp⟩
    exact ⟨a, ha, by simpa [ha] using hp⟩

theorem card_insert_le : (m.insert k a).keys.card ≤ m.keys.card + 1 := by
  have h : (m.insert k a).keys = insert k m.keys := by
    ext k'
    rw [Finmap.mem_keys, Finmap.mem_insert, Finset.mem_insert, Finmap.mem_keys]
  rw [h]
  exact Finset.card_insert_le _ _

theorem lookup_erase_eq : (m.erase k).lookup k' = if k' = k then none else m.lookup k' := by
  by_cases h : k' = k
  · subst h
    rw [Finmap.lookup_erase, if_pos rfl]
  · rw [Finmap.lookup_erase_ne h, if_neg h]

theorem lookup_insert_eq :
    (m.insert k a).lookup k' = if k' = k then some a else m.lookup k' := by
  by_cases h : k' = k
  · subst h
    rw [Finmap.lookup_insert, if_pos rfl]
  · rw [Finmap.lookup_insert_of_ne _ h, if_neg h]

end Records

/-! ## What each function does -/

section Functions

variable [Crates] {s s' : PortalLocalState} {now : UInt64} {draws : Draws}

/-- The login starts that have not expired. -/
abbrev PortalLocalState.liveStarts (s : PortalLocalState) (now : UInt64) : Finset String :=
  s.loginStarts.having fun record => now < record.expiresAt

/-- The local sessions that have not expired. -/
abbrev PortalLocalState.liveSessions (s : PortalLocalState) (now : UInt64) : Finset String :=
  s.localSessions.having fun record => now < record.expiresAt

section Cleanup

variable (s : PortalLocalState) (now : UInt64) (k : String)

omit [Crates]

@[simp] theorem cleanup_startCapacity :
    (s.cleanupExpired now).loginStartCapacity = s.loginStartCapacity := rfl

@[simp] theorem cleanup_sessionCapacity :
    (s.cleanupExpired now).localSessionCapacity = s.localSessionCapacity := rfl

theorem cleanup_starts : (s.cleanupExpired now).loginStarts.lookup k =
    (s.loginStarts.lookup k).filter fun record => now < record.expiresAt := lookup_retain _ _ k

theorem cleanup_sessions : (s.cleanupExpired now).localSessions.lookup k =
    (s.localSessions.lookup k).filter fun record => now < record.expiresAt := lookup_retain _ _ k

theorem cleanup_startCard :
    (s.cleanupExpired now).loginStarts.keys.card = (s.liveStarts now).card :=
  congrArg Finset.card (keys_retain _)

theorem cleanup_sessionCard :
    (s.cleanupExpired now).localSessions.keys.card = (s.liveSessions now).card :=
  congrArg Finset.card (keys_retain _)

end Cleanup

/-- **What `createLoginStart` does**. -/
inductive LoginCreation (s : PortalLocalState) (path : String) (now : UInt64) :
    Draws → Except LocalStateError CreatedLoginStart → PortalLocalState → Prop
  | invalid (hv : validatePostLoginPath path ≠ .ok ()) :
      LoginCreation s path now [] (.error .invalidPostLoginPath) s
  | full (hv : validatePostLoginPath path = .ok ())
      (hc : s.loginStartCapacity ≤ (s.liveStarts now).card) :
      LoginCreation s path now [] (.error .capacityReached) (s.cleanupExpired now)
  | overflow (hv : validatePostLoginPath path = .ok ())
      (hc : (s.liveStarts now).card < s.loginStartCapacity) (ho : 2 ^ 64 ≤ now.toNat + 600) :
      LoginCreation s path now [] (.error .expiryOverflow) (s.cleanupExpired now)
  | created (skipped : Draws) (bytes context verifier : Vector UInt8 32) (expiresAt : UInt64)
      (hv : validatePostLoginPath path = .ok ())
      (hc : (s.liveStarts now).card < s.loginStartCapacity)
      (he : expiresAt.toNat = now.toNat + 600)
      (hn : (s.cleanupExpired now).loginStarts.lookup (referenceValue bytes) = none) :
      LoginCreation s path now (skipped ++ [bytes, context, verifier])
        (.ok ⟨referenceValue bytes, referenceValue context,
          sha256Base64url (utf8 (referenceValue verifier))⟩)
        { s.cleanupExpired now with
          loginStarts := (s.cleanupExpired now).loginStarts.insert (referenceValue bytes)
            ⟨referenceValue context, referenceValue verifier, path, now, expiresAt⟩ }

omit [Crates] in
theorem checkedExpiresAt_eq_error {now ttl : UInt64} {e : TimeBoundaryError}
    (h : checkedExpiresAt now ttl = .error e) : 2 ^ 64 ≤ now.toNat + ttl.toNat := by
  unfold checkedExpiresAt at h
  split at h
  · cases h
  · omega

omit [Crates] in
theorem validatePostLoginPath_eq_error {path : String} {e : LocalStateError}
    (h : validatePostLoginPath path = .error e) : e = .invalidPostLoginPath := by
  unfold validatePostLoginPath at h
  split at h
  · cases h
    rfl
  · cases h

theorem loginCreation {path : String} {r : Except LocalStateError CreatedLoginStart}
    (h : s.createLoginStart path now draws = some (r, s')) :
    LoginCreation s path now draws r s' := by
  unfold PortalLocalState.createLoginStart at h
  cases hv : validatePostLoginPath path with
  | error e =>
    simp only [hv] at h
    split_ifs at h with hd
    cases h
    subst hd
    obtain rfl := validatePostLoginPath_eq_error hv
    exact .invalid (by rw [hv]; exact nofun)
  | ok _ =>
    simp only [hv, cleanup_startCapacity, cleanup_startCard] at h
    by_cases hc : s.loginStartCapacity ≤ (s.liveStarts now).card
    · rw [if_pos hc] at h
      split_ifs at h with hd
      cases h
      subst hd
      exact .full hv hc
    · rw [if_neg hc] at h
      rw [not_le] at hc
      cases he : checkedExpiresAt now loginStartTtlSeconds with
      | error e =>
        simp only [he] at h
        split_ifs at h with hd
        cases h
        subst hd
        exact .overflow hv hc (checkedExpiresAt_eq_error he)
      | ok expiresAt =>
        simp only [he] at h
        split at h
        · rename_i state context verifier hk
          cases h
          obtain ⟨skipped, bytes, rfl, rfl, hn⟩ := newKey_eq_some hk
          exact .created skipped bytes context verifier expiresAt hv hc
            (checkedExpiresAt_eq_ok he) hn
        · cases h

/-- **What `createLocalSession` does**. -/
inductive SessionCreation (s : PortalLocalState) (internalUserId : Int32)
    (authenticatedAt now : UInt64) :
    Draws → Except LocalStateError (String × String) → PortalLocalState → Prop
  | full (hc : s.localSessionCapacity ≤ (s.liveSessions now).card) :
      SessionCreation s internalUserId authenticatedAt now [] (.error .capacityReached)
        (s.cleanupExpired now)
  | overflow (hc : (s.liveSessions now).card < s.localSessionCapacity)
      (ho : 2 ^ 64 ≤ now.toNat + 28800) :
      SessionCreation s internalUserId authenticatedAt now [] (.error .expiryOverflow)
        (s.cleanupExpired now)
  | created (skipped : Draws) (bytes csrf : Vector UInt8 32) (expiresAt : UInt64)
      (hc : (s.liveSessions now).card < s.localSessionCapacity)
      (he : expiresAt.toNat = now.toNat + 28800)
      (hn : (s.cleanupExpired now).localSessions.lookup (referenceValue bytes) = none) :
      SessionCreation s internalUserId authenticatedAt now (skipped ++ [bytes, csrf])
        (.ok (referenceValue bytes, referenceValue csrf))
        { s.cleanupExpired now with
          localSessions := (s.cleanupExpired now).localSessions.insert (referenceValue bytes)
            ⟨internalUserId, authenticatedAt, now, expiresAt,
              sha256Digest (utf8 (referenceValue csrf))⟩ }

theorem sessionCreation {internalUserId : Int32} {authenticatedAt : UInt64}
    {r : Except LocalStateError (String × String)}
    (h : s.createLocalSession internalUserId authenticatedAt now draws = some (r, s')) :
    SessionCreation s internalUserId authenticatedAt now draws r s' := by
  unfold PortalLocalState.createLocalSession at h
  simp only [cleanup_sessionCapacity, cleanup_sessionCard] at h
  by_cases hc : s.localSessionCapacity ≤ (s.liveSessions now).card
  · rw [if_pos hc] at h
    split_ifs at h with hd
    cases h
    subst hd
    exact .full hc
  · rw [if_neg hc] at h
    rw [not_le] at hc
    cases he : checkedExpiresAt now localSessionTtlSeconds with
    | error e =>
      simp only [he] at h
      split_ifs at h with hd
      cases h
      subst hd
      exact .overflow hc (checkedExpiresAt_eq_error he)
    | ok expiresAt =>
      simp only [he] at h
      split at h
      · rename_i reference csrf hk
        cases h
        obtain ⟨skipped, bytes, rfl, rfl, hn⟩ := newKey_eq_some hk
        exact .created skipped bytes csrf expiresAt hc (checkedExpiresAt_eq_ok he) hn
      · cases h

/-! ## Runs -/

/-- A call with its draws and its result. -/
abbrev LocalEvent := Σ c : LocalCall, Draws × c.Result

/-- **Sequences of calls**. -/
inductive LocalRun (s : PortalLocalState) : List LocalEvent → PortalLocalState → Prop
  | nil : LocalRun s [] s
  | snoc {E : List LocalEvent} {t u : PortalLocalState} {c : LocalCall} {draws : Draws}
      {r : c.Result} (h : LocalRun s E t) (he : t.exec c draws = some (r, u)) :
      LocalRun s (E ++ [⟨c, draws, r⟩]) u

/-- The bytes drawn by the calls. -/
def drawn (E : List LocalEvent) : Draws := E.flatMap fun e => e.2.1

/-- The invariant of the local state. -/
structure LocalInvariant (c₁ c₂ : ℕ) (bytes : Draws) (s : PortalLocalState) : Prop where
  startCapacity : s.loginStartCapacity = c₁
  sessionCapacity : s.localSessionCapacity = c₂
  starts_le : s.loginStarts.keys.card ≤ c₁
  sessions_le : s.localSessions.keys.card ≤ c₂
  startTtl : ∀ k r, s.loginStarts.lookup k = some r → r.expiresAt.toNat = r.createdAt.toNat + 600
  sessionTtl : ∀ k r, s.localSessions.lookup k = some r →
    r.expiresAt.toNat = r.createdAt.toNat + 28800
  startDrawn : ∀ k r, s.loginStarts.lookup k = some r → ∃ b ∈ bytes, k = referenceValue b
  sessionDrawn : ∀ k r, s.localSessions.lookup k = some r → ∃ b ∈ bytes, k = referenceValue b

end Functions

section Calls

variable {s s' : PortalLocalState} {now : UInt64} {draws : Draws}

/-- A state with some of the records of another. -/
structure Shrinks (s s' : PortalLocalState) : Prop where
  startCapacity : s'.loginStartCapacity = s.loginStartCapacity
  sessionCapacity : s'.localSessionCapacity = s.localSessionCapacity
  starts : ∀ k r, s'.loginStarts.lookup k = some r → s.loginStarts.lookup k = some r
  sessions : ∀ k r, s'.localSessions.lookup k = some r → s.localSessions.lookup k = some r

theorem Shrinks.refl (s : PortalLocalState) : Shrinks s s :=
  ⟨rfl, rfl, fun _ _ => id, fun _ _ => id⟩

theorem shrinks_cleanup (s : PortalLocalState) (now : UInt64) :
    Shrinks s (s.cleanupExpired now) := by
  refine ⟨rfl, rfl, fun k r h => ?_, fun k r h => ?_⟩
  · rw [cleanup_starts] at h
    exact (Option.filter_eq_some_iff.mp h).1
  · rw [cleanup_sessions] at h
    exact (Option.filter_eq_some_iff.mp h).1

theorem shrinks_eraseStart (s : PortalLocalState) (k : String) :
    Shrinks s { s with loginStarts := s.loginStarts.erase k } := by
  refine ⟨rfl, rfl, fun k' r h => ?_, fun _ _ => id⟩
  rw [lookup_erase_eq] at h
  split_ifs at h
  exact h

theorem shrinks_eraseSession (s : PortalLocalState) (k : String) :
    Shrinks s { s with localSessions := s.localSessions.erase k } := by
  refine ⟨rfl, rfl, fun _ _ => id, fun k' r h => ?_⟩
  rw [lookup_erase_eq] at h
  split_ifs at h
  exact h

theorem card_le_of_lookup {α : Type} {m m' : Records α}
    (h : ∀ k r, m'.lookup k = some r → m.lookup k = some r) : m'.keys.card ≤ m.keys.card := by
  refine Finset.card_le_card fun k hk => ?_
  obtain ⟨a, ha⟩ := mem_keys_iff.mp hk
  exact mem_keys_iff.mpr ⟨a, h k a ha⟩

namespace LocalInvariant

variable {c₁ c₂ : ℕ} {bytes : Draws}

theorem new : LocalInvariant c₁ c₂ [] (.new c₁ c₂) := by
  have hn : ∀ {α : Type} (k : String) (r : α), (∅ : Records α).lookup k ≠ some r := by
    intro α k r
    rw [Finmap.lookup_empty]
    exact nofun
  have hc : ∀ {α : Type}, (∅ : Records α).keys.card = 0 := by
    intro α
    rw [Finmap.keys_empty, Finset.card_empty]
  refine ⟨rfl, rfl, ?_, ?_, fun k r h => absurd h (hn k r), fun k r h => absurd h (hn k r),
    fun k r h => absurd h (hn k r), fun k r h => absurd h (hn k r)⟩
  · exact hc.le.trans (Nat.zero_le _)
  · exact hc.le.trans (Nat.zero_le _)

theorem shrinks (h : LocalInvariant c₁ c₂ bytes s) (hs : Shrinks s s') :
    LocalInvariant c₁ c₂ bytes s' where
  startCapacity := hs.startCapacity.trans h.startCapacity
  sessionCapacity := hs.sessionCapacity.trans h.sessionCapacity
  starts_le := (card_le_of_lookup hs.starts).trans h.starts_le
  sessions_le := (card_le_of_lookup hs.sessions).trans h.sessions_le
  startTtl k r hk := h.startTtl k r (hs.starts k r hk)
  sessionTtl k r hk := h.sessionTtl k r (hs.sessions k r hk)
  startDrawn k r hk := h.startDrawn k r (hs.starts k r hk)
  sessionDrawn k r hk := h.sessionDrawn k r (hs.sessions k r hk)

theorem mono (h : LocalInvariant c₁ c₂ bytes s) (D : Draws) :
    LocalInvariant c₁ c₂ (bytes ++ D) s where
  __ := h
  startDrawn k r hk := (h.startDrawn k r hk).imp fun _ hb => ⟨List.mem_append_left _ hb.1, hb.2⟩
  sessionDrawn k r hk := (h.sessionDrawn k r hk).imp fun _ hb => ⟨List.mem_append_left _ hb.1, hb.2⟩

theorem insertStart (h : LocalInvariant c₁ c₂ bytes s) {b : Vector UInt8 32} {r : LoginStart}
    (hc : s.loginStarts.keys.card < c₁) (hb : b ∈ bytes)
    (hr : r.expiresAt.toNat = r.createdAt.toNat + 600) : LocalInvariant c₁ c₂ bytes
      { s with loginStarts := s.loginStarts.insert (referenceValue b) r } where
  __ := h
  starts_le := card_insert_le.trans hc
  startTtl k r' hk := by
    rw [lookup_insert_eq] at hk
    split_ifs at hk with hkb
    · cases hk
      exact hr
    · exact h.startTtl k r' hk
  startDrawn k r' hk := by
    rw [lookup_insert_eq] at hk
    split_ifs at hk with hkb
    · exact ⟨b, hb, hkb⟩
    · exact h.startDrawn k r' hk

theorem insertSession (h : LocalInvariant c₁ c₂ bytes s) {b : Vector UInt8 32} {r : LocalSession}
    (hc : s.localSessions.keys.card < c₂) (hb : b ∈ bytes)
    (hr : r.expiresAt.toNat = r.createdAt.toNat + 28800) : LocalInvariant c₁ c₂ bytes
      { s with localSessions := s.localSessions.insert (referenceValue b) r } where
  __ := h
  sessions_le := card_insert_le.trans hc
  sessionTtl k r' hk := by
    rw [lookup_insert_eq] at hk
    split_ifs at hk with hkb
    · cases hk
      exact hr
    · exact h.sessionTtl k r' hk
  sessionDrawn k r' hk := by
    rw [lookup_insert_eq] at hk
    split_ifs at hk with hkb
    · exact ⟨b, hb, hkb⟩
    · exact h.sessionDrawn k r' hk

end LocalInvariant

/-! ## Every call -/

theorem Shrinks.trans {t : PortalLocalState} (h₁ : Shrinks s t) (h₂ : Shrinks t s') :
    Shrinks s s' :=
  ⟨h₂.startCapacity.trans h₁.startCapacity, h₂.sessionCapacity.trans h₁.sessionCapacity,
    fun k r h => h₁.starts k r (h₂.starts k r h), fun k r h => h₁.sessions k r (h₂.sessions k r h)⟩

theorem shrinks_claim (s : PortalLocalState) (state context : String) (now : UInt64) :
    Shrinks s (s.claimLoginStart state context now).2 := by
  unfold PortalLocalState.claimLoginStart
  split
  · exact .refl s
  · split_ifs
    · exact shrinks_eraseStart s state
    · exact .refl s
    · exact shrinks_eraseStart s state

theorem shrinks_get (s : PortalLocalState) (reference : String) (now : UInt64) :
    Shrinks s (s.getLocalSession reference now).2 := by
  unfold PortalLocalState.getLocalSession
  split
  · exact .refl s
  · split_ifs
    · exact shrinks_eraseSession s reference
    · exact .refl s

theorem shrinks_logout [Crates] (s : PortalLocalState) (reference cookie header : String)
    (now : UInt64) : Shrinks s (s.logoutLocked reference cookie header now).2 := by
  have hget := shrinks_get s reference now
  unfold PortalLocalState.logoutLocked
  split
  · rename_i t ht
    rw [ht] at hget
    exact hget
  · rename_i session t ht
    rw [ht] at hget
    split_ifs
    · exact hget
    · exact hget
    · exact hget.trans (shrinks_eraseSession t reference)

section Exec

variable [Crates] {p : PortalLocalState}

theorem exec_login {path : String} : p.exec (.createLoginStart path now) draws =
    p.createLoginStart path now draws := rfl

theorem exec_session {u : Int32} {a : UInt64} : p.exec (.createLocalSession u a now) draws =
    p.createLocalSession u a now draws := rfl

/-- Calls that draw nothing. -/
theorem exec_claim {state context : String} {r : Except LocalStateError LoginStart} :
    p.exec (.claimLoginStart state context now) draws = some (r, s') ↔
      draws = [] ∧ p.claimLoginStart state context now = (r, s') := by
  cases draws <;> simp [PortalLocalState.exec]

theorem exec_get {reference : String} {r : Option LocalSession} :
    p.exec (.getLocalSession reference now) draws = some (r, s') ↔
      draws = [] ∧ p.getLocalSession reference now = (r, s') := by
  cases draws <;> simp [PortalLocalState.exec]

theorem exec_remove {reference : String} {r : Option LocalSession} :
    p.exec (.removeLocalSession reference) draws = some (r, s') ↔
      draws = [] ∧ p.removeLocalSession reference = (r, s') := by
  cases draws <;> simp [PortalLocalState.exec]

theorem exec_logout {reference cookie header : String} {r : Bool} :
    p.exec (.logoutLocked reference cookie header now) draws = some (r, s') ↔
      draws = [] ∧ p.logoutLocked reference cookie header now = (r, s') := by
  cases draws <;> simp [PortalLocalState.exec]

theorem exec_cleanup {r : Unit} : p.exec (.cleanupExpired now) draws = some (r, s') ↔
    draws = [] ∧ p.cleanupExpired now = s' := by
  cases draws <;> simp [PortalLocalState.exec]

end Exec

/-- A call keeps the invariant. -/
theorem LocalInvariant.exec [Crates] {c₁ c₂ : ℕ} {bytes : Draws}
    (h : LocalInvariant c₁ c₂ bytes s) {c : LocalCall} {r : c.Result}
    (he : s.exec c draws = some (r, s')) : LocalInvariant c₁ c₂ (bytes ++ draws) s' := by
  have hn := h.mono draws
  cases c with
  | createLoginStart path now =>
    have hclean := hn.shrinks (shrinks_cleanup s now)
    rw [exec_login] at he
    cases loginCreation he with
    | invalid _ => exact hn
    | full _ _ => exact hclean
    | overflow _ _ _ => exact hclean
    | created skipped b context verifier expiresAt hv hc hx _ =>
      have hcard : (s.cleanupExpired now).loginStarts.keys.card < c₁ := by
        rw [cleanup_startCard, ← h.startCapacity]
        exact hc
      have hb : b ∈ bytes ++ (skipped ++ [b, context, verifier]) :=
        List.mem_append_right _ (List.mem_append_right _ List.mem_cons_self)
      exact hclean.insertStart
        (r := ⟨referenceValue context, referenceValue verifier, path, now, expiresAt⟩) hcard hb hx
  | createLocalSession u a now =>
    have hclean := hn.shrinks (shrinks_cleanup s now)
    rw [exec_session] at he
    cases sessionCreation he with
    | full _ => exact hclean
    | overflow _ _ => exact hclean
    | created skipped b csrf expiresAt hc hx _ =>
      have hcard : (s.cleanupExpired now).localSessions.keys.card < c₂ := by
        rw [cleanup_sessionCard, ← h.sessionCapacity]
        exact hc
      have hb : b ∈ bytes ++ (skipped ++ [b, csrf]) :=
        List.mem_append_right _ (List.mem_append_right _ List.mem_cons_self)
      exact hclean.insertSession
        (r := ⟨u, a, now, expiresAt, sha256Digest (utf8 (referenceValue csrf))⟩) hcard hb hx
  | claimLoginStart state context now =>
    obtain ⟨-, hr⟩ := exec_claim.mp he
    have hs := shrinks_claim s state context now
    rw [hr] at hs
    exact hn.shrinks hs
  | getLocalSession reference now =>
    obtain ⟨-, hr⟩ := exec_get.mp he
    have hs := shrinks_get s reference now
    rw [hr] at hs
    exact hn.shrinks hs
  | removeLocalSession reference =>
    obtain ⟨-, hr⟩ := exec_remove.mp he
    cases hr
    exact hn.shrinks (shrinks_eraseSession s reference)
  | logoutLocked reference cookie header now =>
    obtain ⟨-, hr⟩ := exec_logout.mp he
    have hs := shrinks_logout s reference cookie header now
    rw [hr] at hs
    exact hn.shrinks hs
  | cleanupExpired now =>
    obtain ⟨-, rfl⟩ := exec_cleanup.mp he
    exact hn.shrinks (shrinks_cleanup s now)

theorem LocalRun.invariant [Crates] {c₁ c₂ : ℕ} {E : List LocalEvent}
    (h : LocalRun (.new c₁ c₂) E s) : LocalInvariant c₁ c₂ (drawn E) s := by
  induction h with
  | nil => exact .new
  | snoc h he ih =>
    rw [drawn, List.flatMap_append, List.flatMap_singleton]
    exact ih.exec he

/-! ## What a call does to one record -/

/-- The time of a call. -/
def LocalCall.time : LocalCall → Option UInt64
  | createLoginStart _ now => some now
  | claimLoginStart _ _ now => some now
  | createLocalSession _ _ now => some now
  | getLocalSession _ now => some now
  | removeLocalSession _ => none
  | logoutLocked _ _ _ now => some now
  | cleanupExpired now => some now

theorem cleanup_keeps_start {k : String} {r : LoginStart} (hk : s.loginStarts.lookup k = some r)
    (hr : now < r.expiresAt) : (s.cleanupExpired now).loginStarts.lookup k = some r := by
  rw [cleanup_starts, hk]
  simp [hr]

theorem cleanup_keeps_session {k : String} {r : LocalSession}
    (hk : s.localSessions.lookup k = some r) (hr : now < r.expiresAt) :
    (s.cleanupExpired now).localSessions.lookup k = some r := by
  rw [cleanup_sessions, hk]
  simp [hr]

theorem insert_keeps {α : Type} {m : Records α} {k k' : String} {a a' : α}
    (hk : m.lookup k = some a) (hn : m.lookup k' = none) : (m.insert k' a').lookup k = some a := by
  rw [lookup_insert_eq, if_neg, hk]
  rintro rfl
  rw [hn] at hk
  cases hk

theorem get_starts {reference : String} :
    (s.getLocalSession reference now).2.loginStarts = s.loginStarts := by
  unfold PortalLocalState.getLocalSession
  split
  · rfl
  · split_ifs <;> rfl

/-- Reading a session that has not expired changes nothing. -/
theorem get_live {k : String} {r : LocalSession} (hk : s.localSessions.lookup k = some r)
    (hr : now < r.expiresAt) : s.getLocalSession k now = (some r, s) := by
  simp only [PortalLocalState.getLocalSession, hk]
  rw [if_neg (UInt64.not_le.mpr hr)]

/-- Reading a session keeps the others. -/
theorem get_keeps {k reference : String} {r : LocalSession}
    (hk : s.localSessions.lookup k = some r) (hr : now < r.expiresAt) :
    (s.getLocalSession reference now).2.localSessions.lookup k = some r := by
  by_cases hkr : k = reference
  · subst hkr
    rw [get_live hk hr, hk]
  · unfold PortalLocalState.getLocalSession
    split
    · exact hk
    · split_ifs
      · rw [lookup_erase_eq, if_neg hkr, hk]
      · exact hk

theorem get_some {t : PortalLocalState} {k : String} {r : LocalSession}
    (h : s.getLocalSession k now = (some r, t)) :
    t = s ∧ s.localSessions.lookup k = some r ∧ now < r.expiresAt := by
  unfold PortalLocalState.getLocalSession at h
  split at h
  · cases h
  · rename_i record hk
    split_ifs at h with hx
    · cases h
    · cases h
      exact ⟨rfl, hk, UInt64.not_le.mp hx⟩

variable [Crates]

/-- The locked part of a logout removes a session, or only reads it. -/
theorem logout_cases {reference cookie header : String} {x : Bool}
    (h : s.logoutLocked reference cookie header now = (x, s')) :
    (x = false ∧ s' = (s.getLocalSession reference now).2) ∨
      (x = true ∧ ∃ r, s.getLocalSession reference now = (some r, s) ∧ cookie = header ∧
        sha256Digest (utf8 cookie) = r.csrfLookup ∧
        s' = { s with localSessions := s.localSessions.erase reference }) := by
  unfold PortalLocalState.logoutLocked at h
  split at h
  · rename_i t ht
    cases h
    exact .inl ⟨rfl, by rw [ht]⟩
  · rename_i r t ht
    obtain ⟨rfl, hk, -⟩ := get_some ht
    split_ifs at h with hc hd
    · cases h
      exact .inl ⟨rfl, by rw [ht]⟩
    · cases h
      exact .inl ⟨rfl, by rw [ht]⟩
    · have hx : x = true := by
        have hp : (t.localSessions.lookup reference).isSome = x := congrArg Prod.fst h
        rw [← hp, hk, Option.isSome_some]
      have hs : s' = { t with localSessions := t.localSessions.erase reference } :=
        (congrArg Prod.snd h).symm
      simp only [sha256DigestEq, Bool.not_eq_true', beq_eq_false_iff_ne, ne_eq, not_not] at hc hd
      exact .inr ⟨hx, r, ht, hc, hd, hs⟩

/-- **A login start that has not expired** stays until it is claimed. -/
theorem exec_starts {c : LocalCall} {x : c.Result} (he : s.exec c draws = some (x, s')) {k : String}
    {r : LoginStart} (hk : s.loginStarts.lookup k = some r)
    (hr : ∀ now, c.time = some now → now < r.expiresAt) : s'.loginStarts.lookup k = some r ∨
      ∃ context now,
        (⟨c, draws, x⟩ : LocalEvent) = ⟨.claimLoginStart k context now, [], .ok r⟩ := by
  cases c with
  | createLoginStart path now =>
    have hclean := cleanup_keeps_start hk (hr now rfl)
    rw [exec_login] at he
    cases loginCreation he with
    | invalid _ => exact .inl hk
    | full _ _ => exact .inl hclean
    | overflow _ _ _ => exact .inl hclean
    | created _ b _ _ _ _ _ _ hn => exact .inl (insert_keeps hclean hn)
  | createLocalSession u a now =>
    have hclean := cleanup_keeps_start hk (hr now rfl)
    rw [exec_session] at he
    cases sessionCreation he with
    | full _ => exact .inl hclean
    | overflow _ _ => exact .inl hclean
    | created _ _ _ _ _ _ _ => exact .inl hclean
  | claimLoginStart state context now =>
    obtain ⟨rfl, hx⟩ := exec_claim.mp he
    unfold PortalLocalState.claimLoginStart at hx
    by_cases hks : k = state
    · subst hks
      have hlive := UInt64.not_le.mpr (hr now rfl)
      simp only [hk, if_neg hlive] at hx
      split_ifs at hx
      · cases hx
        exact .inl hk
      · cases hx
        exact .inr ⟨context, now, rfl⟩
    · split at hx
      · cases hx
        exact .inl hk
      · split_ifs at hx
        · cases hx
          exact .inl (by rw [lookup_erase_eq, if_neg hks, hk])
        · cases hx
          exact .inl hk
        · cases hx
          exact .inl (by rw [lookup_erase_eq, if_neg hks, hk])
  | getLocalSession reference now =>
    obtain ⟨-, hx⟩ := exec_get.mp he
    have hs := @get_starts s now reference
    rw [hx] at hs
    exact .inl (hs ▸ hk)
  | removeLocalSession reference =>
    obtain ⟨-, hx⟩ := exec_remove.mp he
    cases hx
    exact .inl hk
  | logoutLocked reference cookie header now =>
    obtain ⟨-, hx⟩ := exec_logout.mp he
    rcases logout_cases hx with ⟨-, rfl⟩ | ⟨-, _, -, -, -, rfl⟩
    · exact .inl (by rw [get_starts, hk])
    · exact .inl hk
  | cleanupExpired now =>
    obtain ⟨-, rfl⟩ := exec_cleanup.mp he
    exact .inl (cleanup_keeps_start hk (hr now rfl))

/-- **A session that has not expired** stays until it is removed. -/
theorem exec_sessions {c : LocalCall} {x : c.Result} (he : s.exec c draws = some (x, s'))
    {k : String} {r : LocalSession} (hk : s.localSessions.lookup k = some r)
    (hr : ∀ now, c.time = some now → now < r.expiresAt) : s'.localSessions.lookup k = some r ∨
      (⟨c, draws, x⟩ : LocalEvent) = ⟨.removeLocalSession k, [], some r⟩ ∨
      ∃ cookie header now,
        (⟨c, draws, x⟩ : LocalEvent) = ⟨.logoutLocked k cookie header now, [], true⟩ := by
  cases c with
  | createLoginStart path now =>
    have hclean := cleanup_keeps_session hk (hr now rfl)
    rw [exec_login] at he
    cases loginCreation he with
    | invalid _ => exact .inl hk
    | full _ _ => exact .inl hclean
    | overflow _ _ _ => exact .inl hclean
    | created _ _ _ _ _ _ _ _ _ => exact .inl hclean
  | createLocalSession u a now =>
    have hclean := cleanup_keeps_session hk (hr now rfl)
    rw [exec_session] at he
    cases sessionCreation he with
    | full _ => exact .inl hclean
    | overflow _ _ => exact .inl hclean
    | created _ b _ _ _ _ hn => exact .inl (insert_keeps hclean hn)
  | claimLoginStart state context now =>
    obtain ⟨-, hx⟩ := exec_claim.mp he
    unfold PortalLocalState.claimLoginStart at hx
    split at hx
    · cases hx
      exact .inl hk
    · split_ifs at hx <;> (cases hx; exact .inl hk)
  | getLocalSession reference now =>
    obtain ⟨-, hx⟩ := exec_get.mp he
    have hs := @get_keeps _ _ _ reference _ hk (hr now rfl)
    rw [hx] at hs
    exact .inl hs
  | removeLocalSession reference =>
    obtain ⟨rfl, hx⟩ := exec_remove.mp he
    cases hx
    by_cases hkr : k = reference
    · subst hkr
      rw [hk]
      exact .inr (.inl rfl)
    · exact .inl (by rw [lookup_erase_eq, if_neg hkr, hk])
  | logoutLocked reference cookie header now =>
    obtain ⟨rfl, hx⟩ := exec_logout.mp he
    rcases logout_cases hx with ⟨-, rfl⟩ | ⟨rfl, _, -, -, -, rfl⟩
    · exact .inl (get_keeps hk (hr now rfl))
    · by_cases hkr : k = reference
      · subst hkr
        exact .inr (.inr ⟨cookie, header, now, rfl⟩)
      · exact .inl (by rw [lookup_erase_eq, if_neg hkr, hk])
  | cleanupExpired now =>
    obtain ⟨-, rfl⟩ := exec_cleanup.mp he
    exact .inl (cleanup_keeps_session hk (hr now rfl))

/-! ## Creations -/

/-- The records that have not expired are the same. -/
def SameLive (s s' : PortalLocalState) (now : UInt64) : Prop :=
  (∀ k, ((s'.loginStarts.lookup k).filter fun r => now < r.expiresAt) =
    (s.loginStarts.lookup k).filter fun r => now < r.expiresAt) ∧
  ∀ k, ((s'.localSessions.lookup k).filter fun r => now < r.expiresAt) =
    (s.localSessions.lookup k).filter fun r => now < r.expiresAt

omit [Crates] in
theorem SameLive.refl (s : PortalLocalState) (now : UInt64) : SameLive s s now :=
  ⟨fun _ => rfl, fun _ => rfl⟩

omit [Crates] in
theorem sameLive_cleanup (s : PortalLocalState) (now : UInt64) :
    SameLive s (s.cleanupExpired now) now := by
  refine ⟨fun k => ?_, fun k => ?_⟩
  · rw [cleanup_starts, Option.filter_filter]
    simp
  · rw [cleanup_sessions, Option.filter_filter]
    simp

theorem login_succeeds {path : String} {r : Except LocalStateError CreatedLoginStart}
    (h : s.createLoginStart path now draws = some (r, s')) : (∃ v, r = .ok v) ↔
      validatePostLoginPath path = .ok () ∧ (s.liveStarts now).card < s.loginStartCapacity ∧
        now.toNat + 600 < 2 ^ 64 := by
  cases loginCreation h with
  | invalid hv => exact iff_of_false nofun fun hc => hv hc.1
  | full _ hc => exact iff_of_false nofun fun h => absurd h.2.1 (not_lt.mpr hc)
  | overflow _ _ ho => exact iff_of_false nofun fun h => absurd h.2.2 (not_lt.mpr ho)
  | created _ _ _ _ expiresAt hv hc he _ =>
    exact iff_of_true ⟨_, rfl⟩ ⟨hv, hc, he ▸ expiresAt.toNat_lt⟩

theorem session_succeeds {u : Int32} {a : UInt64} {r : Except LocalStateError (String × String)}
    (h : s.createLocalSession u a now draws = some (r, s')) : (∃ v, r = .ok v) ↔
      (s.liveSessions now).card < s.localSessionCapacity ∧ now.toNat + 28800 < 2 ^ 64 := by
  cases sessionCreation h with
  | full hc => exact iff_of_false nofun fun h => absurd h.1 (not_lt.mpr hc)
  | overflow _ ho => exact iff_of_false nofun fun h => absurd h.2 (not_lt.mpr ho)
  | created _ _ _ expiresAt hc he _ =>
    exact iff_of_true ⟨_, rfl⟩ ⟨hc, he ▸ expiresAt.toNat_lt⟩

theorem login_fails {path : String} {e : LocalStateError}
    (h : s.createLoginStart path now draws = some (.error e, s')) : SameLive s s' now := by
  cases loginCreation h with
  | invalid _ => exact .refl s now
  | full _ _ => exact sameLive_cleanup s now
  | overflow _ _ _ => exact sameLive_cleanup s now

theorem session_fails {u : Int32} {a : UInt64} {e : LocalStateError}
    (h : s.createLocalSession u a now draws = some (.error e, s')) : SameLive s s' now := by
  cases sessionCreation h with
  | full _ => exact sameLive_cleanup s now
  | overflow _ _ => exact sameLive_cleanup s now

/-- With references that are new, the draws of a login start suffice. -/
theorem login_returns {path : String} {b₁ b₂ b₃ : Vector UInt8 32}
    (hb : s.loginStarts.lookup (referenceValue b₁) = none) : ∃ draws r s',
      (draws = [] ∨ draws = [b₁, b₂, b₃]) ∧ s.createLoginStart path now draws = some (r, s') := by
  have hn : (s.cleanupExpired now).loginStarts.lookup (referenceValue b₁) = none := by
    rw [cleanup_starts, hb, Option.filter_none]
  cases hv : validatePostLoginPath path with
  | error e =>
    refine ⟨[], .error e, s, .inl rfl, ?_⟩
    simp only [PortalLocalState.createLoginStart, hv, if_true]
  | ok _ =>
    by_cases hc : s.loginStartCapacity ≤ (s.liveStarts now).card
    · refine ⟨[], .error .capacityReached, s.cleanupExpired now, .inl rfl, ?_⟩
      simp only [PortalLocalState.createLoginStart, hv, cleanup_startCapacity,
        cleanup_startCard, hc, if_true]
    · cases he : checkedExpiresAt now loginStartTtlSeconds with
      | error e =>
        refine ⟨[], .error .expiryOverflow, s.cleanupExpired now, .inl rfl, ?_⟩
        simp only [PortalLocalState.createLoginStart, hv, cleanup_startCapacity,
          cleanup_startCard, hc, he, if_true, if_false]
      | ok expiresAt =>
        refine ⟨[b₁, b₂, b₃], ?_, ?_, .inr rfl, ?_⟩
        rotate_left 2
        · simp only [PortalLocalState.createLoginStart, hv, cleanup_startCapacity,
            cleanup_startCard, hc, he, newKey, hn, Option.isSome_none, if_false,
            Bool.false_eq_true]
          rfl

theorem session_returns {u : Int32} {a : UInt64} {b₁ b₂ : Vector UInt8 32}
    (hb : s.localSessions.lookup (referenceValue b₁) = none) : ∃ draws r s',
      (draws = [] ∨ draws = [b₁, b₂]) ∧ s.createLocalSession u a now draws = some (r, s') := by
  have hn : (s.cleanupExpired now).localSessions.lookup (referenceValue b₁) = none := by
    rw [cleanup_sessions, hb, Option.filter_none]
  by_cases hc : s.localSessionCapacity ≤ (s.liveSessions now).card
  · refine ⟨[], .error .capacityReached, s.cleanupExpired now, .inl rfl, ?_⟩
    simp only [PortalLocalState.createLocalSession, cleanup_sessionCapacity,
      cleanup_sessionCard, hc, if_true]
  · cases he : checkedExpiresAt now localSessionTtlSeconds with
    | error e =>
      refine ⟨[], .error .expiryOverflow, s.cleanupExpired now, .inl rfl, ?_⟩
      simp only [PortalLocalState.createLocalSession, cleanup_sessionCapacity,
        cleanup_sessionCard, hc, he, if_true, if_false]
    | ok expiresAt =>
      refine ⟨[b₁, b₂], ?_, ?_, .inr rfl, ?_⟩
      rotate_left 2
      · simp only [PortalLocalState.createLocalSession, cleanup_sessionCapacity,
          cleanup_sessionCard, hc, he, newKey, hn, Option.isSome_none, if_false,
          Bool.false_eq_true]
        rfl

/-- What the local state promises of a call. -/
structure CallSound (c₁ c₂ : ℕ) (s s' : PortalLocalState) (e : LocalEvent) : Prop where
  starts : ∀ k r, s.loginStarts.lookup k = some r →
    (∀ now, e.1.time = some now → now < r.expiresAt) → s'.loginStarts.lookup k = some r ∨
      ∃ context now, e = ⟨.claimLoginStart k context now, [], .ok r⟩
  sessions : ∀ k r, s.localSessions.lookup k = some r →
    (∀ now, e.1.time = some now → now < r.expiresAt) → s'.localSessions.lookup k = some r ∨
      e = ⟨.removeLocalSession k, [], some r⟩ ∨
      ∃ cookie header now, e = ⟨.logoutLocked k cookie header now, [], true⟩
  login : ∀ path now draws r, e = ⟨.createLoginStart path now, draws, r⟩ →
    ((∃ v, r = .ok v) ↔ validatePostLoginPath path = .ok () ∧ (s.liveStarts now).card < c₁ ∧
      now.toNat + 600 < 2 ^ 64)
  session : ∀ u a now draws r, e = ⟨.createLocalSession u a now, draws, r⟩ →
    ((∃ v, r = .ok v) ↔ (s.liveSessions now).card < c₂ ∧ now.toNat + 28800 < 2 ^ 64)
  loginFails : ∀ path now draws err, e = ⟨.createLoginStart path now, draws, .error err⟩ →
    SameLive s s' now
  sessionFails : ∀ u a now draws err, e = ⟨.createLocalSession u a now, draws, .error err⟩ →
    SameLive s s' now

/-- **The local state** never holds more records than its capacities, each record lasts for its
time to live, no call drops or changes a record that has not expired except a successful claim or
a removal of it, and creations fail only for their stated reasons. -/
theorem local_state_sound {c₁ c₂ : ℕ} {E : List LocalEvent} (h : LocalRun (.new c₁ c₂) E s) :
    s.loginStarts.keys.card ≤ c₁ ∧ s.localSessions.keys.card ≤ c₂ ∧
    (∀ k r, s.loginStarts.lookup k = some r → r.expiresAt.toNat = r.createdAt.toNat + 600) ∧
    (∀ k r, s.localSessions.lookup k = some r → r.expiresAt.toNat = r.createdAt.toNat + 28800) ∧
    (∀ c draws r s', s.exec c draws = some (r, s') → CallSound c₁ c₂ s s' ⟨c, draws, r⟩) ∧
    (∀ path now b₁ b₂ b₃, b₁ ∉ drawn E → ∃ draws r s', (draws = [] ∨ draws = [b₁, b₂, b₃]) ∧
      s.exec (.createLoginStart path now) draws = some (r, s')) ∧
    ∀ u a now b₁ b₂, b₁ ∉ drawn E → ∃ draws r s', (draws = [] ∨ draws = [b₁, b₂]) ∧
      s.exec (.createLocalSession u a now) draws = some (r, s') := by
  have hi := h.invariant
  refine ⟨hi.starts_le, hi.sessions_le, hi.startTtl, hi.sessionTtl, fun c draws r s' he => ?_,
    fun path now b₁ b₂ b₃ hb => ?_, fun u a now b₁ b₂ hb => ?_⟩
  · refine ⟨fun k rec => exec_starts he, fun k rec => exec_sessions he, ?_, ?_, ?_, ?_⟩
    · intro path now draws' r' heq
      cases heq
      rw [← hi.startCapacity]
      exact login_succeeds (exec_login.symm.trans he)
    · intro u a now draws' r' heq
      cases heq
      rw [← hi.sessionCapacity]
      exact session_succeeds (exec_session.symm.trans he)
    · intro path now draws' err heq
      cases heq
      exact login_fails (exec_login.symm.trans he)
    · intro u a now draws' err heq
      cases heq
      exact session_fails (exec_session.symm.trans he)
  · have hn : s.loginStarts.lookup (referenceValue b₁) = none := by
      refine Option.eq_none_iff_forall_ne_some.mpr fun r hr => ?_
      obtain ⟨b, hb', e⟩ := hi.startDrawn _ r hr
      exact hb (referenceValue_injective e ▸ hb')
    obtain ⟨draws, r, s', hd, hs⟩ := login_returns hn
    exact ⟨draws, r, s', hd, exec_login.trans hs⟩
  · have hn : s.localSessions.lookup (referenceValue b₁) = none := by
      refine Option.eq_none_iff_forall_ne_some.mpr fun r hr => ?_
      obtain ⟨b, hb', e⟩ := hi.sessionDrawn _ r hr
      exact hb (referenceValue_injective e ▸ hb')
    obtain ⟨draws, r, s', hd, hs⟩ := session_returns hn
    exact ⟨draws, r, s', hd, exec_session.trans hs⟩

/-- The calls of a list, after some events. -/
def runCalls : List (LocalCall × Draws) → List LocalEvent × PortalLocalState →
    Option (List LocalEvent × PortalLocalState)
  | [], x => some x
  | (c, draws) :: l, x =>
    (x.2.exec c draws).bind fun r => runCalls l (x.1 ++ [⟨c, draws, r.1⟩], r.2)

theorem LocalRun.runCalls {l : List (LocalCall × Draws)} {x y : List LocalEvent × PortalLocalState}
    (h : LocalRun s x.1 x.2) (hl : AuthFoundation.runCalls l x = some y) : LocalRun s y.1 y.2 := by
  induction l generalizing x with
  | nil =>
    cases hl
    exact h
  | cons a l ih =>
    obtain ⟨r, he, hr⟩ := Option.bind_eq_some_iff.mp hl
    exact ih (h.snoc he) hr

/-- A login start that is claimed and one that expires, a session, and refusals for capacity. -/
def sampleEvents : List LocalEvent := [
  ⟨.createLoginStart "/" 100, [bytes32 1, bytes32 2, bytes32 3], .ok ⟨referenceValue (bytes32 1),
    referenceValue (bytes32 2), "DqO-5okLKSWPFLnjqsnc04zjmWa2wLdK-4Lo8dlI2bs"⟩⟩,
  ⟨.createLoginStart "/" 100, [], .error .capacityReached⟩,
  ⟨.claimLoginStart (referenceValue (bytes32 1)) (referenceValue (bytes32 2)) 200, [],
    .ok ⟨referenceValue (bytes32 2), referenceValue (bytes32 3), "/", 100, 700⟩⟩,
  ⟨.createLocalSession 7 150 200, [bytes32 3, bytes32 4],
    .ok (referenceValue (bytes32 3), referenceValue (bytes32 4))⟩,
  ⟨.createLocalSession 8 150 200, [], .error .capacityReached⟩,
  ⟨.createLoginStart "/" 300, [bytes32 4, bytes32 5, bytes32 6], .ok ⟨referenceValue (bytes32 4),
    referenceValue (bytes32 5), "pjg3r-JZWbp4fO3X5IP01BzEGGkkmdHv0PfXdl0Oe50"⟩⟩,
  ⟨.claimLoginStart (referenceValue (bytes32 4)) (referenceValue (bytes32 5)) 900, [],
    .error .expired⟩]

omit [Crates] in
theorem local_state_sound_sample : letI := Crates.sample
    ∃ s, LocalRun (.new 1 1) sampleEvents s ∧ s.loginStarts.keys.card ≤ 1 ∧
      s.localSessions.keys.card ≤ 1 ∧
      ∀ s', s.exec (.cleanupExpired 28999) [] = some ((), s') →
        s'.localSessions.lookup (referenceValue (bytes32 3)) = some ⟨7, 150, 200, 29000,
          bytes32 0x22af619d2602cd8377fc5ee2ec555d1bef68b7e92f87fde57e1462c0c9c5911c⟩ := by
  let _ := Crates.sample
  have hs : (runCalls (sampleEvents.map fun e => (e.1, e.2.1)) ([], .new 1 1)).any (fun x =>
      decide (x.1 = sampleEvents ∧ x.2.localSessions.lookup (referenceValue (bytes32 3)) =
        some ⟨7, 150, 200, 29000,
          bytes32 0x22af619d2602cd8377fc5ee2ec555d1bef68b7e92f87fde57e1462c0c9c5911c⟩)) = true := by
    decide +kernel
  obtain ⟨⟨E, s⟩, he, hx⟩ := (Option.any_eq_true _ _).mp hs
  obtain ⟨rfl, hk⟩ := of_decide_eq_true hx
  have hrun : LocalRun (.new 1 1) sampleEvents s := LocalRun.nil.runCalls he
  obtain ⟨hstarts, hsessions, -, -, hcall, -⟩ := local_state_sound hrun
  refine ⟨s, hrun, hstarts, hsessions, fun s' hs' => ?_⟩
  have hlive : ∀ now, (LocalCall.cleanupExpired 28999).time = some now → now < 29000 := by
    rintro now ⟨⟩
    decide
  obtain hk' | h | ⟨_, _, _, h⟩ := (hcall _ _ _ _ hs').sessions _ _ hk hlive
  · exact hk'
  · cases h
  · cases h

end Calls

end AuthFoundation
