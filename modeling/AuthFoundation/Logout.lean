import AuthFoundation.Content
import AuthFoundation.Decoding
import AuthFoundation.Handoff

set_option autoImplicit false

/-!
# Logouts in runs of calls

* `fixedWorkEqualLookup_iff`: the comparison in the script, on any two strings of bytes.
* `LogoutReady`: a logout transaction that a call can complete.
* `logoutStored`: the script as a function of the stored transaction.
* `LogoutStep`: what the script of a call did, and what the call answered.
* **`logout_at_most_once`**: a logout is completed at most once, with the stored CSRF lookup only.
-/

namespace AuthFoundation

open Text Redis Token Interleave

/-! ## The comparison -/

theorem lookup_iff {a : Bytes} :
    lookup (some a) = true ↔ a.length = 64 ∧ ∀ b ∈ a, isHex b = true := by
  have hl : lookup (some a) = true ↔ (a ≠ [] ∧ ∀ b ∈ a, isHex b = true) ∧ a.length = 64 := by
    simp [lookup]
  rw [hl]
  constructor
  · rintro ⟨⟨-, hx⟩, hn⟩
    exact ⟨hn, hx⟩
  · rintro ⟨hn, hx⟩
    refine ⟨⟨?_, hx⟩, hn⟩
    rintro rfl
    cases hn

/-- **The comparison** accepts identical lookups only. -/
theorem fixedWorkEqualLookup_iff {a b : Bytes} : fixedWorkEqualLookup a b = true ↔
    a = b ∧ a.length = 64 ∧ ∀ x ∈ a, isHex x = true := by
  rw [← lookup_iff]
  by_cases ha : lookup (some a) = true
  · by_cases hb : lookup (some b) = true
    · rw [fixedWorkEqualLookup_eq ha hb, and_iff_left ha]
    · refine iff_of_false (fun h => ?_) fun h => hb (h.1 ▸ ha)
      simp [fixedWorkEqualLookup, hb] at h
  · refine iff_of_false (fun h => ?_) fun h => ha h.2
    simp [fixedWorkEqualLookup, ha] at h

/-! ## The script on stored records -/

section Script

variable {s : State} {l session csrfLookup : String} {b : CommonLogoutTransaction} {x : Option ℕ}

/-- **A logout transaction that a call can complete**: it is well-formed, unexpired and unused, and
the call presents its CSRF lookup. -/
structure LogoutReady (s : State) (l csrfLookup : String) (tx : CommonLogoutTransaction) :
    Prop where
  stored : LogoutAt s l tx
  times : tx.createdAt.toNat < 2 ^ 53 ∧ tx.expiresAt.toNat < 2 ^ 53
  live : s.time < tx.expiresAt.toNat
  status : tx.status = .unused
  csrf : tx.csrfLookup = csrfLookup

/-- What the script makes of a stored transaction. -/
def logoutStored (s : State) (l session csrfLookup : String) (b : CommonLogoutTransaction) :
    List Value × State :=
  if logoutValid (recordHash (encodeLogout b)) = false then (invalid, s)
  else if b.expiresAt.toNat ≤ s.time then ([.int 2], s.del (Key.logout l))
  else if b.status = .used then ([.int 5], s)
  else if b.csrfLookup ≠ csrfLookup then ([.int 8], s)
  else ([.int 0, .bulk (utf8 b.logoutReturnUri)],
    (setField s (Key.logout l) "status" "used" (recordHash (encodeLogout b))).del
      (Key.session session))

theorem completeCommonLogoutSpec_record
    (he : s.entries (Key.logout l) = some ⟨.hash (recordHash (encodeLogout b)), x⟩) :
    completeCommonLogoutSpec (args [Key.logout l, Key.session session]) (args [utf8 csrfLookup]) s =
      logoutStored s l session csrfLookup b := by
  have ho : s.object (args [Key.logout l, Key.session session] 1) =
      some (.hash (recordHash (encodeLogout b))) := by
    show (s.entries (Key.logout l)).map Entry.object = _
    rw [he]
    rfl
  have huri : hget (recordHash (encodeLogout b)) "logout_return_uri" =
      some (utf8 b.logoutReturnUri) := logout_field _ b
  have hcsrf : hget (recordHash (encodeLogout b)) "csrf_lookup" = some (utf8 b.csrfLookup) :=
    logout_field _ b
  have hexp : hget (recordHash (encodeLogout b)) "expires_at" =
      some (utf8 (toString b.expiresAt)) := logout_field _ b
  have hstatus : hget (recordHash (encodeLogout b)) "status" =
      some (utf8 (usageStatusValue b.status)) := logout_field _ b
  have h₁ : args [utf8 csrfLookup] 1 = utf8 csrfLookup := rfl
  have hk₁ : args [Key.logout l, Key.session session] 1 = Key.logout l := rfl
  have hk₂ : args [Key.logout l, Key.session session] 2 = Key.session session := rfl
  have hused : usageStatusValue b.status = "used" ↔ b.status = .used :=
    usageStatusValue_inj (b := .used)
  simp only [completeCommonLogoutSpec, logoutStored, ho]
  cases hv : logoutValid (recordHash (encodeLogout b)) with
  | false => rfl
  | true =>
    obtain ⟨hl, -, hx⟩ := (logoutValid_record b).mp hv
    simp only [huri, hcsrf, hexp, hstatus, h₁, hk₁, hk₂, num_le_now hx, Option.some.injEq, utf8_inj,
      hused, lookup_utf8, ne_eq, Bool.true_eq_false, if_false]
    by_cases hst : b.status = .used
    · simp only [hst, if_true]
    · have hun : usageStatusValue b.status = "unused" := by
        cases hb : b.status with
        | unused => rfl
        | used => exact absurd hb hst
      simp only [if_neg hst, hun, not_true_eq_false, if_false]
      by_cases hc : b.csrfLookup = csrfLookup
      · rw [← hc, hl]
        simp only [not_true_eq_false, if_false]
        rfl
      · simp only [hc, not_false_eq_true, if_true, ite_self]

theorem logoutReply_record (uri : String) :
    logoutReply [.int 0, .bulk (utf8 uri)] = .ok uri := by
  rw [logoutReply, replyString, text?_utf8]

/-- **What the script does to a stored transaction**, and what the call makes of its reply. -/
theorem logoutStored_spec
    (he : s.entries (Key.logout l) = some ⟨.hash (recordHash (encodeLogout b)), x⟩) :
    (∃ s', logoutStored s l session csrfLookup b =
        ([.int 0, .bulk (utf8 b.logoutReturnUri)], s') ∧ LogoutReady s l csrfLookup b ∧
        LogoutAt s' l { b with status := .used } ∧ s'.entries (Key.session session) = none) ∨
    (∃ code, code ∈ [2, 3, 5, 8] ∧ (logoutStored s l session csrfLookup b).1 = [.int code] ∧
      (∀ tx, ¬LogoutReady s l csrfLookup tx) ∧
      ((logoutStored s l session csrfLookup b).2 = s ∨
        (logoutStored s l session csrfLookup b).2 = s.del (Key.logout l) ∧
          b.expiresAt.toNat ≤ s.time ∧ LogoutAt s l b)) := by
  unfold logoutStored
  cases hv : logoutValid (recordHash (encodeLogout b)) with
  | false =>
    refine .inr ⟨3, by decide, rfl, fun tx htx => ?_, .inl rfl⟩
    -- a transaction with a malformed lookup does not decode, one with large times is not ready
    obtain ⟨g, y, fields, hk, hf, hd⟩ := htx.stored
    cases he.symm.trans hk
    obtain ⟨fields', hf', hof⟩ := ofHash?_recordHash (encodeLogout_nodup b)
    cases hf.symm.trans hf'
    rw [decodeLogout_of hof] at hd
    split_ifs at hd with hlk
    cases hd
    rw [(logoutValid_record b).mpr ⟨hlk, htx.times⟩] at hv
    cases hv
  | true =>
    obtain ⟨hl, ht⟩ := (logoutValid_record b).mp hv
    have hat : LogoutAt s l b := logoutAt_record hl he
    simp only [Bool.true_eq_false, if_false]
    split_ifs with hx hu hc
    · refine .inr ⟨2, by decide, rfl, fun tx htx => ?_, .inr ⟨rfl, hx, hat⟩⟩
      obtain rfl := hat.eq htx.stored
      exact absurd hx (not_le.mpr htx.live)
    · refine .inr ⟨5, by decide, rfl, fun tx htx => ?_, .inl rfl⟩
      obtain rfl := hat.eq htx.stored
      cases hu.symm.trans htx.status
    · refine .inr ⟨8, by decide, rfl, fun tx htx => ?_, .inl rfl⟩
      obtain rfl := hat.eq htx.stored
      exact hc htx.csrf
    · have hunused : b.status = .unused := by
        cases hb : b.status with
        | unused => rfl
        | used => exact absurd hb hu
      refine .inl ⟨_, rfl, ⟨hat, ht, not_le.mp hx, hunused, not_not.mp hc⟩, ?_, ?_⟩
      · refine @logoutAt_record _ x _ { b with status := .used } hl ?_
        rw [del_entries_of_ne _ (ne_of_family (by simp)), setField_eq he, set_entries_self,
          logout_mark]
      · exact del_entries_self ..

end Script

/-! ## Calls -/

/-- The logout transaction a call creates, with its reference. -/
def RedisCall.logoutTransaction : RedisCall → Option (String × CommonLogoutTransaction)
  | writeLogout reference state _ => some (reference, state)
  | _ => none

section Calls

variable [Crates] {services : String → Option RegisteredService} {tr tr₁ : List CallLabel}
  {s t : CallPool} {i : ℕ} {reference session csrfLookup : String}

theorem CallRun.logouts (h : CallRun services tr s) (hc : CollisionFree tr)
    (ho : CreatedOnce RedisCall.logoutTransaction tr) (k : Bytes) :
    AuthFoundation.logouts.Disciplined k (events tr) := by
  refine h.disciplined hc Key.logout ho (fun _ _ => logout_inj.mp) ?_ ?_
  · intro q H x t hn hx
    cases x with
    | expireLogout lookup expiresAt =>
      cases hx
      cases q with
      | writeLogout reference state now =>
        obtain ⟨-, ⟨⟩⟩ | ⟨-, ⟨⟩⟩ := hn
        exact ⟨reference, by simp [RedisCall.references], state, rfl, rfl, rfl⟩
      | _ => simp [RedisCall.Next] at hn
    | _ => cases hx
  · intro q H x a hn hx
    cases x with
    | writeLogout lookup state =>
      cases hx
      cases q with
      | writeLogout reference state now =>
        obtain ⟨hH, ⟨⟩⟩ | ⟨-, ⟨⟩⟩ := hn
        exact ⟨hH, reference, by simp [RedisCall.references], rfl, rfl⟩
      | _ => simp [RedisCall.Next] at hn
    | _ => cases hx

/-- **What a key of the logouts holds** was stored there by a call, up to its status. -/
theorem CallRun.logout_stored (h : CallRun services tr s) (hc : CollisionFree tr)
    (ho : CreatedOnce RedisCall.logoutTransaction tr) {l : String} {y : Entry}
    (hy : s.world.redis.entries (Key.logout l) = some y) :
    ∃ j reference state now b, (j, .writeLogout reference state now) ∈ starts tr ∧
      l = referenceValueLookup reference ∧ y.object = .hash (recordHash (encodeLogout b)) ∧
      b.logoutReturnUri = state.logoutReturnUri := by
  obtain ⟨p, hp⟩ := (logouts_sound family_logout).run_empty (Run.redis h) (h.logouts hc ho _)
  obtain ⟨a, b, hst⟩ := hp.stored hy
  obtain ⟨e, he, x, r, rfl, hx, -⟩ := hst.created
  obtain ⟨lb, hl, hle⟩ := List.mem_filterMap.mp he
  obtain ⟨j, q, rfl⟩ := redisEvent_command hle
  obtain ⟨tr₁, tr₂, e⟩ := List.append_of_mem hl
  obtain ⟨x', hx', hn⟩ := h.next e
  obtain rfl : x = x' := Sent.command_injective (Op.redis.inj hx')
  have huri : b.logoutReturnUri = a.logoutReturnUri := by
    obtain rfl | rfl := hst.marked <;> rfl
  cases x with
  | writeLogout lookup state =>
    obtain ⟨hk, rfl⟩ := Prod.mk.inj (Option.some.inj hx)
    obtain rfl := logout_inj.mp hk
    cases q with
    | writeLogout reference state' now =>
      obtain ⟨-, ⟨⟩⟩ | ⟨-, ⟨⟩⟩ := hn
      exact ⟨j, reference, state, now, b, h.started hl, rfl, hst.object, huri⟩
    | _ => simp [RedisCall.Next] at hn
  | _ => cases hx

/-- A call that completed sent its script and nothing else, and answers with what it makes of the
reply. -/
theorem CallRun.logout_done (h : CallRun services tr s) {result : Except RedisStateError String}
    (hi : s.threads i = some ⟨.completeCommonLogout reference session csrfLookup, .done result⟩) :
    ∃ tr₁ tr₂ v, tr = tr₁ ++ Label.sent i (.completeCommonLogout reference session csrfLookup)
        (.logout (referenceValueLookup reference) (referenceValueLookup session) csrfLookup) v ::
          tr₂ ∧
      history i tr = [⟨.redis (Sent.logout (referenceValueLookup reference)
        (referenceValueLookup session) csrfLookup).command, v⟩] ∧
      result = scriptReply logoutReply v := by
  have hf := h.follows i
  rw [hi] at hf
  obtain ⟨ht, -, hq⟩ := hf
  have hsat := @invoke_sat _ [] (fun _ _ => True) .completeCommonLogout
    [logoutKey reference, sessionKey session] [csrfLookup] logoutReply trivial
  obtain ⟨v, hH, rfl⟩ := hsat.trace ht
  have hH' : history i tr = [⟨.redis (Sent.logout (referenceValueLookup reference)
      (referenceValueLookup session) csrfLookup).command, v⟩] := hH
  have hm : (⟨.redis (Sent.logout (referenceValueLookup reference) (referenceValueLookup session)
      csrfLookup).command, v⟩ : Σ o, Reply o) ∈ history i tr := by
    rw [hH']
    exact List.mem_singleton_self _
  obtain ⟨q, hl⟩ := mem_history.mp hm
  cases hq _ hl rfl
  obtain ⟨tr₁, tr₂, e⟩ := List.append_of_mem hl
  exact ⟨tr₁, tr₂, v, e, hH', rfl⟩

/-! ## Steps -/

/-- **What the script of a call did**, with the reply `v`, and what the call answered. -/
structure LogoutStep (tr₁ : List CallLabel) (s s' : State) (reference session csrfLookup : String)
    (v : Except Redis.Error (List Value)) (result : Except RedisStateError String) : Prop where
  failed : ∀ e, v = .error e → result = .error .redisFailure ∧ s' = s
  answer : ∀ values, v = .ok values → ∀ uri, result = .ok uri ↔
    ∃ tx, LogoutReady s (referenceValueLookup reference) csrfLookup tx ∧ tx.logoutReturnUri = uri
  completed : ∀ uri, result = .ok uri →
    (∃ tx, LogoutAt s (referenceValueLookup reference) tx ∧
      LogoutAt s' (referenceValueLookup reference) { tx with status := .used }) ∧
    s'.entries (sessionKey session) = none ∧
    ∃ j state now, (j, .writeLogout reference state now) ∈ starts tr₁ ∧
      state.logoutReturnUri = uri
  refused : (∀ uri, result ≠ .ok uri) →
    s'.entries (sessionKey session) = s.entries (sessionKey session) ∧
    ∀ l tx, LogoutAt s l tx → s.time < tx.expiresAt.toNat →
      s'.entries (Key.logout l) = s.entries (Key.logout l)

omit [Crates] in
theorem logoutReply_code {code : ℤ} (h : code ∈ ([1, 2, 3, 5, 8] : List ℤ)) (uri : String) :
    logoutReply [.int code] ≠ .ok uri := by
  simp only [List.mem_cons, List.not_mem_nil, or_false] at h
  obtain rfl | rfl | rfl | rfl | rfl := h <;> exact nofun

section Step

variable {s s' : State}

/-- A script that refuses deletes nothing but an expired transaction. -/
theorem LogoutStep.refuse {code : ℤ} (hcode : code ∈ ([1, 2, 3, 5, 8] : List ℤ))
    (hx : ∀ tx, ¬LogoutReady s (referenceValueLookup reference) csrfLookup tx)
    (hs : s' = s ∨ s' = s.del (logoutKey reference) ∧
      ∃ b, LogoutAt s (referenceValueLookup reference) b ∧ b.expiresAt.toNat ≤ s.time) :
    LogoutStep tr s s' reference session csrfLookup (.ok [.int code])
      (scriptReply logoutReply (.ok [.int code])) where
  failed _ h := nomatch h
  answer values _ uri :=
    iff_of_false (logoutReply_code hcode uri) fun ⟨tx, htx, _⟩ => hx tx htx
  completed uri h := absurd h (logoutReply_code hcode uri)
  refused _ := by
    obtain rfl | ⟨rfl, b, hb, hexp⟩ := hs
    · exact ⟨rfl, fun _ _ _ _ => rfl⟩
    · have hne : Key.session (referenceValueLookup session) ≠
          Key.logout (referenceValueLookup reference) := ne_of_family (by simp)
      refine ⟨del_entries_of_ne _ hne, fun l tx htx hlive => ?_⟩
      refine del_entries_of_ne _ fun hk => ?_
      obtain rfl := logout_inj.mp hk
      obtain rfl := hb.eq htx
      exact absurd hexp (not_le.mpr hlive)

/-- A script that completes a logout marks the transaction and removes the session. -/
theorem LogoutStep.complete {b : CommonLogoutTransaction}
    (hr : LogoutReady s (referenceValueLookup reference) csrfLookup b)
    (hused : LogoutAt s' (referenceValueLookup reference) { b with status := .used })
    (hs : s'.entries (sessionKey session) = none)
    (hj : ∃ j state now, (j, .writeLogout reference state now) ∈ starts tr ∧
      b.logoutReturnUri = state.logoutReturnUri) :
    LogoutStep tr s s' reference session csrfLookup (.ok [.int 0, .bulk (utf8 b.logoutReturnUri)])
      (scriptReply logoutReply (.ok [.int 0, .bulk (utf8 b.logoutReturnUri)])) where
  failed _ h := nomatch h
  answer values _ uri := by
    rw [scriptReply, logoutReply_record, Except.ok.injEq]
    constructor
    · exact fun h => ⟨b, hr, h⟩
    · rintro ⟨tx, htx, h⟩
      rw [hr.stored.eq htx.stored]
      exact h
  completed uri h := by
    rw [scriptReply, logoutReply_record, Except.ok.injEq] at h
    obtain ⟨j, state, now, hj, huri⟩ := hj
    exact ⟨⟨b, hr.stored, hused⟩, hs, j, state, now, hj, huri.symm.trans h⟩
  refused h := absurd (logoutReply_record _) (h _)

end Step

/-- **The script of a call**, on any reachable content. -/
theorem CallRun.logout_step (h : CallRun services tr s) (hc : CollisionFree tr)
    (ho : CreatedOnce RedisCall.logoutTransaction tr)
    (hi : .start i (.completeCommonLogout reference session csrfLookup) ∈ tr)
    {v : Except Redis.Error (List Value)} {s' : State}
    (hs : RedisStep s.world.redis (.command (Sent.logout (referenceValueLookup reference)
      (referenceValueLookup session) csrfLookup).command v) s') :
    LogoutStep tr s.world.redis s' reference session csrfLookup v (scriptReply logoutReply v) := by
  cases hs with
  | fail =>
    exact ⟨fun _ _ => ⟨rfl, rfl⟩, fun _ h => (by cases h), fun _ h => (by cases h),
      fun _ => ⟨rfl, fun _ _ _ _ => rfl⟩⟩
  | command hv =>
    have hrun := hv.symm.trans (completeCommonLogout_run _ _ s.world.redis)
    cases hy : s.world.redis.entries (logoutKey reference) with
    | none =>
      have hspec : completeCommonLogoutSpec (args [logoutKey reference, sessionKey session])
          (args [utf8 csrfLookup]) s.world.redis = ([.int 1], s.world.redis) := by
        have ho : s.world.redis.object (args [logoutKey reference, sessionKey session] 1) =
            none := by
          show (s.world.redis.entries (logoutKey reference)).map Entry.object = none
          rw [hy]
          rfl
        simp only [completeCommonLogoutSpec, ho]
      cases hrun.trans (congrArg returns hspec)
      refine .refuse (by decide) (fun tx htx => ?_) (.inl rfl)
      obtain ⟨g, x, fields, hk, -⟩ := htx.stored
      cases hy.symm.trans hk
    | some y =>
      obtain ⟨j, reference', state, now, b, hj, hl, hobj, huri⟩ := h.logout_stored hc ho hy
      obtain rfl : reference = reference' :=
        hc _ (mem_starts.mpr hi) _ hj _ (by simp [RedisCall.references]) _
          (by simp [RedisCall.references]) hl
      obtain ⟨o, x⟩ := y
      obtain rfl : o = .hash (recordHash (encodeLogout b)) := hobj
      have hspec := @completeCommonLogoutSpec_record _ _ (referenceValueLookup session)
        csrfLookup _ _ hy
      have hrun' := hrun.trans (congrArg returns hspec)
      obtain ⟨s'', hst, hr, hused, hnone⟩ | ⟨code, hcode, hreply, hx, hst⟩ :=
        @logoutStored_spec _ _ (referenceValueLookup session) csrfLookup _ _ hy
      · rw [hst] at hrun'
        cases hrun'
        exact .complete hr hused hnone ⟨j, state, now, hj, huri⟩
      · obtain ⟨rfl, rfl⟩ := Prod.mk.inj hrun'
        rw [hreply]
        refine .refuse (List.mem_cons_of_mem _ hcode) hx (hst.imp id ?_)
        rintro ⟨hd, hexp, hat⟩
        exact ⟨hd, b, hat, hexp⟩

/-! ## Runs -/

omit [Crates] in
theorem logoutReply_ok {reply : List Value} {uri : String} (h : logoutReply reply = .ok uri) :
    ∃ returnUri, reply = [.int 0, returnUri] := by
  unfold logoutReply at h
  split at h
  · exact ⟨_, rfl⟩
  · unfold scriptError at h
    split at h <;> cases h
  · cases h

/-- A call that answers successfully used its transaction. -/
theorem CallRun.logout_used (h : CallRun services tr s) {uri : String}
    (hi : s.threads i =
      some ⟨.completeCommonLogout reference session csrfLookup, .done (.ok uri)⟩) :
    ∃ values, logoutLabel i reference session csrfLookup values ∈ tr := by
  obtain ⟨tr₁, tr₂, v, e, -, hv⟩ := h.logout_done hi
  cases v with
  | error e => cases hv
  | ok reply =>
    obtain ⟨returnUri, rfl⟩ := logoutReply_ok hv.symm
    exact ⟨[returnUri], by simp [e]⟩

/-- **A logout is completed at most once**, by a call that presents the stored CSRF lookup while the
transaction is unexpired and unused. This call marks the transaction, removes its session and
answers with the URI that was stored; any other call changes neither sessions nor unexpired
transactions. The script is the only step of a call. -/
theorem logout_at_most_once (h : CallRun services tr s) (hc : CollisionFree tr)
    (ho : CreatedOnce RedisCall.logoutTransaction tr) :
    (∀ a b : Bytes, fixedWorkEqualLookup a b = true ↔
      a = b ∧ a.length = 64 ∧ ∀ x ∈ a, isHex x = true) ∧
    (∀ i j reference session session' csrfLookup csrfLookup' uri uri',
      s.threads i = some ⟨.completeCommonLogout reference session csrfLookup, .done (.ok uri)⟩ →
      s.threads j = some ⟨.completeCommonLogout reference session' csrfLookup', .done (.ok uri')⟩ →
      i = j) ∧
    ∀ i reference session csrfLookup result,
      s.threads i = some ⟨.completeCommonLogout reference session csrfLookup, .done result⟩ →
      ∃ tr₁ tr₂ v t t', tr = tr₁ ++ Label.sent i
          (.completeCommonLogout reference session csrfLookup)
          (.logout (referenceValueLookup reference) (referenceValueLookup session) csrfLookup) v ::
            tr₂ ∧
        history i tr = [⟨.redis (Sent.logout (referenceValueLookup reference)
          (referenceValueLookup session) csrfLookup).command, v⟩] ∧
        CallRun services tr₁ t ∧
        Interleave.Step machine RedisCall.run t (Label.sent i
          (.completeCommonLogout reference session csrfLookup)
          (.logout (referenceValueLookup reference) (referenceValueLookup session) csrfLookup) v)
          t' ∧
        LogoutStep tr₁ t.world.redis t'.world.redis reference session csrfLookup v result := by
  refine ⟨fun _ _ => fixedWorkEqualLookup_iff, ?_, ?_⟩
  · intro i j reference session session' csrfLookup csrfLookup' uri uri' hi hj
    obtain ⟨values, hl⟩ := h.logout_used hi
    obtain ⟨values', hl'⟩ := h.logout_used hj
    have hF := logouts_sound (family_logout (l := referenceValueLookup reference))
    exact hF.one_user (Run.redis h) (h.logouts hc ho _) hl hl' ⟨_, _, rfl, rfl, trivial⟩
      ⟨_, _, rfl, rfl, trivial⟩
  · intro i reference session csrfLookup result hi
    obtain ⟨tr₁, tr₂, v, e, hH, rfl⟩ := h.logout_done hi
    subst e
    obtain ⟨t, t', h₁, hs, -⟩ := h.split_step
    have hstart : .start i (.completeCommonLogout reference session csrfLookup) ∈ tr₁ := by
      cases hs with
      | op hj _ =>
        have hf := h₁.follows i
        rw [hj] at hf
        exact hf.2.1
    have hsub := List.subset_append_left tr₁ (Label.sent i
      (.completeCommonLogout reference session csrfLookup)
      (.logout (referenceValueLookup reference) (referenceValueLookup session) csrfLookup) v :: tr₂)
    exact ⟨tr₁, tr₂, v, t, t', rfl, hH, h₁, hs,
      CallRun.logout_step h₁ (hc.mono hsub) (ho.mono hsub) hstart (Step.redis hs)⟩

/-- A logout as the portal would send it. -/
abbrev sampleLogout : RedisCall :=
  .completeCommonLogout "l" "s" "aaa9402664f1a41f40ebbc52c9993eb66aeb366602958fdfaa283b71e64db123"

omit [Crates] in
/-- A logout, and a second one with the same transaction. -/
theorem logout_at_most_once_sample : letI := Crates.sample
    ∃ tr s, CallRun (fun _ => none) tr s ∧
      s.threads 4 = some ⟨sampleLogout, .done (.error .alreadyUsed)⟩ ∧
      (∀ j session csrfLookup uri,
        s.threads j = some ⟨.completeCommonLogout "l" session csrfLookup, .done (.ok uri)⟩ →
        j = 2) ∧
      ∃ tr₁ v, ∃ t t' : CallPool, LogoutStep tr₁ t.world.redis t'.world.redis "l" "s"
        "aaa9402664f1a41f40ebbc52c9993eb66aeb366602958fdfaa283b71e64db123" v
        (.ok "https://portal.example/") := by
  let _ := Crates.sample
  obtain ⟨tr, s, h, hc, ho, hr, hr'⟩ := exists_run_of_play machine RedisCall.run
    (Pool.init (World.empty fun _ => none)) (logoutChoices ++ [.start 4 sampleLogout, .step 4 .ok])
    (fun x => CollisionFree x.1 ∧ CreatedOnce RedisCall.logoutTransaction x.1 ∧
      x.2.result 2 sampleLogout = some (.ok "https://portal.example/") ∧
      x.2.result 4 sampleLogout = some (.error .alreadyUsed)) (by decide +kernel)
  have hi := Pool.threads_of_result hr
  obtain ⟨-, honce, hstep⟩ := logout_at_most_once h hc ho
  obtain ⟨tr₁, -, v, t, t', -, -, -, -, hx⟩ := hstep 2 _ _ _ _ hi
  exact ⟨tr, s, h, Pool.threads_of_result hr',
    fun j session csrfLookup uri hj => honce j 2 _ _ _ _ _ _ _ hj hi, tr₁, v, t, t', hx⟩

end Calls

end AuthFoundation
