import AuthFoundation.Agreement

set_option autoImplicit false

/-!
# What a call reports of its script

A script writes before the service reads its reply. A call reports what its script did as long as
it can read the strings in the reply.

* `claimReply_isOk`, …: when the service makes a result of the reply of a script that committed.
* `ClaimReadable`, `LogoutReadable`: the strings a commit returns are UTF-8.
* `Reports`: a call returns `Ok` exactly if its script returned code 0.
* `commit_reported`: **which calls report**, whatever the store holds.
-/

namespace AuthFoundation

open Text Redis Lua Prog

/-! ## Replies -/

section Replies

variable {α : Type}

/-- A call succeeds. -/
def Succeeds (r : Except RedisStateError α) : Prop := ∃ a, r = .ok a

theorem not_succeeds_error (e : RedisStateError) :
    ¬Succeeds (.error e : Except RedisStateError α) :=
  nofun

theorem not_succeeds_scriptError (code : ℤ) :
    ¬Succeeds (scriptError code : Except RedisStateError α) := by
  unfold scriptError
  split <;> exact not_succeeds_error _

theorem replyString_ofField {v : Option Bytes} {t : String} :
    replyString (.ofField v) = .ok t ↔ v.bind text? = some t := by
  cases v with
  | none => simp [Value.ofField, replyString]
  | some b =>
    simp only [Value.ofField, replyString, Option.bind_some]
    cases text? b <;> simp

end Replies

/-! ## Fields put together -/

section Insert

variable {fields : Fields} {name value : String}

theorem get_empty (f : String) : Fields.empty.get f = none := by
  simp [Fields.get, Fields.empty]

theorem len_empty : Fields.empty.len = 0 := rfl

theorem get_insert (f : String) :
    (fields.insert name value).get f = if f = name then some value else fields.get f := by
  by_cases h : f = name
  · subst h
    simp [Fields.get, Fields.insert]
  · have hne : utf8 f ≠ utf8 name := fun e => h (utf8_injective e)
    simp [Fields.get, Fields.insert, Finmap.lookup_insert_of_ne _ hne, h]

theorem len_insert (h : fields.get name = none) :
    (fields.insert name value).len = fields.len + 1 := by
  have hk : utf8 name ∉ fields.hash.keys := by
    intro hk
    have hs := (fields.valid _ hk).2
    rw [Fields.get] at h
    rw [h] at hs
    cases hs
  rw [Fields.len, Fields.len, hlen, hlen, Fields.insert, keys_insert,
    Finset.card_insert_of_notMem hk]

end Insert

/-! ## Replies of commits -/

theorem numeral_ascii {v : Bytes} (h : numeral v = true) : ∀ b ∈ v, b < 128 := by
  intro b hb
  simp only [numeral, Bool.and_eq_true, List.all_eq_true] at h
  have hd := h.2 b hb
  simp only [isDigit, Bool.and_eq_true, decide_eq_true_eq, UInt8.le_iff_toNat_le] at hd
  rw [UInt8.lt_iff_toNat_lt]
  exact lt_of_le_of_lt hd.2 (by decide)

theorem unsigned_ascii {v : Bytes} (h : unsigned v = true) : ∀ b ∈ v, b < 128 := by
  unfold unsigned at h
  split at h
  · intro b hb
    rcases List.mem_cons.mp hb with rfl | hb
    · decide
    · exact numeral_ascii h b hb
  · exact numeral_ascii h

/-- A number a script accepts reaches the service as a number. -/
theorem uint_text {v : Option Bytes} (h : uint v = true) :
    ∃ t n, v.bind text? = some t ∧ parseUInt64 (utf8 t) = some n := by
  cases v with
  | none => cases h
  | some b =>
    obtain ⟨n, hn, -⟩ := uint_iff.mp h
    obtain ⟨t, ht⟩ := text?_ascii (unsigned_ascii (unsigned_of_parse hn))
    have hb := text?_eq_some.mp ht
    exact ⟨t, n, ht, by rw [hb]; exact hn⟩

/-- The strings that a claim returns. -/
def claimStrings : List String :=
  ["service_id", "service_state", "handoff_code_challenge", "provider",
    "provider_verification_data"]

/-- A field of the hash is a UTF-8 string. -/
def Readable (h : Hash) (f : String) : Prop := ∃ t, (hget h f).bind text? = some t

/-- The reply of a claim that commits. -/
def claimValues (h : Hash) : List Value :=
  [.int 0, .ofField (hget h "service_id"), .ofField (hget h "service_state"),
    .ofField (hget h "handoff_code_challenge"), .ofField (hget h "provider"),
    .ofField (hget h "provider_verification_data"), .ofField (hget h "created_at"),
    .ofField (hget h "expires_at"), .bulk "processing"]

theorem claimReply_succeeds {h : Hash} (hv : externalValid h = true) :
    Succeeds (claimReply (claimValues h)) ↔ ∀ f ∈ claimStrings, Readable h f := by
  simp only [claimStrings, List.forall_mem_cons, List.not_mem_nil, false_imp_iff, implies_true,
    and_true]
  have hstatus : replyString (.bulk "processing") = .ok "processing" := by decide
  constructor
  · rintro ⟨tx, htx⟩
    simp only [claimReply, claimValues, bind_eq_ok, replyString_ofField] at htx
    obtain ⟨v₁, h₁, v₂, h₂, v₃, h₃, v₄, h₄, v₅, h₅, -⟩ := htx
    exact ⟨⟨v₁, h₁⟩, ⟨v₂, h₂⟩, ⟨v₃, h₃⟩, ⟨v₄, h₄⟩, ⟨v₅, h₅⟩⟩
  · rintro ⟨⟨v₁, h₁⟩, ⟨v₂, h₂⟩, ⟨v₃, h₃⟩, ⟨v₄, h₄⟩, ⟨v₅, h₅⟩⟩
    simp only [externalValid, decide_eq_true_eq, not_or, not_not] at hv
    obtain ⟨-, -, -, -, -, -, hc, he, -⟩ := hv
    obtain ⟨t₁, n₁, h₆, hn₁⟩ := uint_text hc
    obtain ⟨t₂, n₂, h₇, hn₂⟩ := uint_text he
    let tx : ExternalAuthTransaction := ⟨v₁, v₂, v₃, v₄, v₅, n₁, n₂, .processing⟩
    refine ⟨tx, ?_⟩
    simp only [claimReply, claimValues, bind_eq_ok, replyString_ofField]
    refine ⟨_, h₁, _, h₂, _, h₃, _, h₄, _, h₅, _, h₆, _, h₇, _, hstatus, tx,
      decodeExternal_eq_ok.mpr ⟨?_, ?_, ?_, ?_, ?_, ?_, ⟨t₁, ?_, hn₁⟩, ⟨t₂, ?_, hn₂⟩, ?_⟩, rfl⟩
    all_goals simp [len_insert, get_insert, len_empty, get_empty, externalStatusValue, tx]

theorem int_bounds {v : Option Bytes} (h : int v = true) : -2 ^ 31 ≤ num v ∧ num v < 2 ^ 31 := by
  have hn := tonumber_of_int h
  cases v with
  | none => cases h
  | some b =>
    rw [Option.bind_some] at hn
    simp only [int, hn, Bool.and_eq_true, decide_eq_true_eq] at h
    omega

theorem uint_bounds {v : Option Bytes} (h : uint v = true) : 0 ≤ num v := by
  have hn := tonumber_of_uint h
  cases v with
  | none => cases h
  | some b =>
    rw [Option.bind_some] at hn
    simp only [uint, hn, Bool.and_eq_true, decide_eq_true_eq] at h
    omega

theorem exchangeReply_succeeds {h : Hash} (hv : handoffValid h = true) :
    Succeeds (exchangeReply [.int 0, .int (num (hget h "internal_user_id")),
      .int (num (hget h "authenticated_at"))]) := by
  simp only [handoffValid, decide_eq_true_eq, not_or, not_not] at hv
  have hu := int_bounds hv.2.2.1
  have ha := uint_bounds hv.2.2.2.2.2.1
  rw [exchangeReply, if_neg (by omega), if_neg (by omega)]
  exact ⟨_, rfl⟩

theorem logoutReply_succeeds {h : Hash} :
    Succeeds (logoutReply [.int 0, .ofField (hget h "logout_return_uri")]) ↔
      Readable h "logout_return_uri" :=
  exists_congr fun _ => replyString_ofField

/-! ## Calls -/

section Calls

variable {α : Type} {s : State} {H : History Reply} {r : Except RedisStateError α}

/-- No script was called. -/
def NoScript (H : History Reply) : Prop :=
  ∀ script keys arguments v, ¬Observed H (.redis (.eval script keys arguments)) v

/-- The script of a call returned code 0. -/
def CodeZero (H : History Reply) : Prop := ∃ script keys arguments, ∃ values : List Value,
  Observed H (.redis (.eval script keys arguments)) (.ok (.int 0 :: values))

/-- The script of a call ran on this store, and its reply reached the call. -/
def RanOn (s : State) (H : History Reply) : Prop := ∀ script keys arguments v,
  Observed H (.redis (.eval script keys arguments)) v →
    v = ((Command.eval script keys arguments).script ScriptName.source s).1

/-- **A call reports its script**: it returns `Ok` exactly if the script returned code 0. -/
def Reports (p : Service (Except RedisStateError α)) (s : State) : Prop :=
  ∀ H r, p.Trace H (.done r) → RanOn s H → (Succeeds r ↔ CodeZero H)

/-- The call ended with its script. -/
def Invoked (script : ScriptName) (keys arguments : List Bytes)
    (reply : List Value → Except RedisStateError α) (H : History Reply)
    (r : Except RedisStateError α) : Prop :=
  ∃ H' v, NoScript H' ∧ H = H' ++ [⟨.redis (.eval script keys arguments), v⟩] ∧
    r = scriptReply reply v

theorem NoScript.not_codeZero (h : NoScript H) : ¬CodeZero H := by
  rintro ⟨script, keys, arguments, values, hv⟩
  exact h _ _ _ _ hv

theorem Invoked.reports_iff {script : ScriptName} {keys arguments : List Bytes}
    {reply : List Value → Except RedisStateError α} {values : List Value} {s' : State}
    (h : Invoked script keys arguments reply H r) (hs : RanOn s H)
    (he : (Command.eval script keys arguments).script ScriptName.source s = (.ok values, s')) :
    (Succeeds r ↔ CodeZero H) ↔ (Succeeds (reply values) ↔ ∃ tail, values = .int 0 :: tail) := by
  obtain ⟨H', v, hn, rfl, rfl⟩ := h
  obtain rfl : v = .ok values := (hs _ _ _ v observed_last).trans (congrArg Prod.fst he)
  refine iff_congr Iff.rfl ⟨?_, ?_⟩
  · rintro ⟨script', keys', arguments', tail, hv⟩
    rcases List.mem_append.mp hv with hv | hv
    · exact absurd hv (hn _ _ _ _)
    · cases List.mem_singleton.mp hv
      exact ⟨tail, rfl⟩
  · rintro ⟨tail, rfl⟩
    exact ⟨_, _, _, tail, observed_last⟩

/-- A script that commits is reported if the service can read its reply. -/
theorem outcome_reported {values : List Value} {s' : State} {keys : List Bytes}
    {Commit : List Value → State → Prop} {reply : List Value → Except RedisStateError α}
    (ho : Outcome s keys Commit values s')
    (hr : ∀ code : ℤ, code ≠ 0 → reply [.int code] = scriptError code) :
    (Succeeds (reply values) ↔ ∃ tail, values = .int 0 :: tail) ↔
      (Commit values s' → (∃ tail, values = .int 0 :: tail) → Succeeds (reply values)) := by
  cases ho with
  | @refused code h =>
    rw [hr code h]
    refine iff_of_true (iff_of_false (not_succeeds_scriptError code) ?_) ?_
    · rintro ⟨tail, ht⟩
      cases ht
      exact h rfl
    · rintro - ⟨tail, ht⟩
      cases ht
      exact absurd rfl h
  | expired hk he hn =>
    rw [hr 2 (by decide)]
    refine iff_of_true (iff_of_false (not_succeeds_scriptError 2) ?_) ?_
    · rintro ⟨tail, ht⟩
      cases ht
    · rintro - ⟨tail, ht⟩
      cases ht
  | committed h =>
    constructor
    · intro hiff _ ht
      exact hiff.mpr ht
    · intro himp
      exact ⟨fun _ => ⟨_, rfl⟩, himp h⟩

/-! ## Which calls report -/

/-- The external transaction a claim would move to `processing`, if there is one, is readable. -/
def ClaimReadable (s : State) (k : Bytes) : Prop :=
  ∀ h, s.object k = some (.hash h) → externalValid h = true →
    now s < num (hget h "expires_at") → hget h "status" = some (utf8 "waiting") →
    ∀ f ∈ claimStrings, Readable h f

/-- The logout transaction a completion would move to `used`, if there is one, is readable. -/
def LogoutReadable (s : State) (k : Bytes) (csrfLookup : String) : Prop :=
  ∀ h, s.object k = some (.hash h) → logoutValid h = true →
    now s < num (hget h "expires_at") → hget h "status" = some (utf8 "unused") →
    hget h "csrf_lookup" = some (utf8 csrfLookup) → Readable h "logout_return_uri"

theorem invoke_invoked {script : ScriptName} {keys arguments : List String}
    {reply : List Value → Except RedisStateError α} :
    (invoke script keys arguments reply).Sat (fun _ _ => True)
      (Invoked script (keys.map utf8) (arguments.map utf8) reply) [] := by
  refine (invoke_sat trivial).mono (fun _ _ => id) ?_
  rintro H r ⟨v, rfl, rfl⟩
  exact ⟨[], v, fun _ _ _ _ => List.not_mem_nil, rfl, rfl⟩

/-- A call that is its script reports it if the service can read the reply of a commit. -/
theorem reports_invoke {script : ScriptName} {keys arguments : List String}
    {reply : List Value → Except RedisStateError α} {K : List Bytes}
    {Commit : List Value → State → Prop} {values : List Value} {s' : State}
    (hr : ∀ code : ℤ, code ≠ 0 → reply [.int code] = scriptError code)
    (he : (Command.eval script (keys.map utf8) (arguments.map utf8)).script ScriptName.source s =
      (.ok values, s')) (ho : Outcome s K Commit values s') :
    Reports (invoke script keys arguments reply) s ↔
      (Commit values s' → (∃ tail, values = .int 0 :: tail) → Succeeds (reply values)) := by
  rw [← outcome_reported ho hr]
  constructor
  · intro h
    have ht : (invoke script keys arguments reply).Trace
        [⟨.redis (.eval script (keys.map utf8) (arguments.map utf8)), .ok values⟩]
        (.done (reply values)) :=
      @Trace.snoc Op Reply _ (invoke script keys arguments reply) []
        (.redis (.eval script (keys.map utf8) (arguments.map utf8)))
        (fun v => done (scriptReply reply v)) (Except.ok values) Trace.nil
    have hs : RanOn s
        [⟨.redis (.eval script (keys.map utf8) (arguments.map utf8)), .ok values⟩] := by
      intro script' keys' arguments' v hv
      cases List.mem_singleton.mp hv
      exact (congrArg Prod.fst he).symm
    exact ((invoke_invoked.trace ht).reports_iff hs he).mp (h _ _ ht hs)
  · intro hc H r ht hs
    exact ((invoke_invoked.trace ht).reports_iff hs he).mpr hc

variable [Crates]

omit [Crates] in
theorem setField_object {k f v : Bytes} {h : Hash} :
    (setField s k f v h).object k = some (.hash (h.insert f v)) := by
  rw [State.object, setField, set_entries_self, Option.map_some]

omit [Crates] in
theorem claim_commits {lookup : String} {h : Hash}
    (ho : s.object (Key.external lookup) = some (.hash h))
    (hv : externalValid h = true) (hl : now s < num (hget h "expires_at"))
    (hw : hget h "status" = some (utf8 "waiting")) :
    (Sent.claim lookup).command.script ScriptName.source s =
      (.ok (claimValues h), setField s (Key.external lookup) "status" "processing" h) := by
  have ho : s.object (args [Key.external lookup] 1) = some (.hash h) := ho
  refine (callbackClaim_run (args [Key.external lookup]) (args []) s).trans ?_
  have hne : ¬hget h "status" = some (utf8 "processing") := by
    rw [hw]
    decide
  simp only [callbackClaimSpec, ho, hv, Bool.true_eq_false, if_false, if_neg (not_le.mpr hl),
    if_neg hne, if_neg (not_not.mpr hw)]
  rfl

theorem claim_reports {reference : String} :
    Reports (claimExternalCallback reference) s ↔
      ClaimReadable s (utf8 (externalKey reference)) := by
  obtain ⟨values, s', he, ho⟩ := claim_outcome s (referenceValueLookup reference)
  refine (@reports_invoke _ _ _ [externalKey reference] [] _ _ _ _ _
    (fun code hc => by simp [claimReply]) he ho).trans ?_
  constructor
  · intro hr h hh hv hl hw
    have hvalues := claim_commits hh hv hl hw
    rw [he] at hvalues
    obtain rfl : values = claimValues h := Except.ok.inj (congrArg Prod.fst hvalues)
    rw [← claimReply_succeeds hv]
    generalize hg : claimValues h = values at ho hr
    cases ho with
    | refused _ => cases hg
    | expired _ _ _ => cases hg
    | committed hc => exact hr hc ⟨_, rfl⟩
  · rintro hr ⟨h, x, hc⟩ -
    rw [hc.reply]
    refine (claimReply_succeeds hc.valid).mpr (hr h ?_ hc.valid hc.live hc.status)
    exact congrArg (Option.map Entry.object) hc.entry

omit [Crates] in
theorem logout_commits {lookup session csrfLookup : String} {h : Hash}
    (ho : s.object (Key.logout lookup) = some (.hash h)) (hv : logoutValid h = true)
    (hl : now s < num (hget h "expires_at")) (hw : hget h "status" = some (utf8 "unused"))
    (hc : hget h "csrf_lookup" = some (utf8 csrfLookup)) :
    ((Sent.logout lookup session csrfLookup).command.script ScriptName.source s).1 =
      .ok [.int 0, .ofField (hget h "logout_return_uri")] := by
  have ho : s.object (args [Key.logout lookup, Key.session session] 1) = some (.hash h) := ho
  have hrun := congrArg Prod.fst (completeCommonLogout_run
    (args [Key.logout lookup, Key.session session]) (args ([csrfLookup].map utf8)) s)
  refine hrun.trans (congrArg Except.ok ?_)
  have hne : ¬hget h "status" = some (utf8 "used") := by
    rw [hw]
    decide
  have ha : AuthFoundation.lookup (args ([csrfLookup].map utf8) 1) = true := by
    have hv' := hv
    simp only [logoutValid, decide_eq_true_eq, not_or, not_not] at hv'
    exact hc ▸ hv'.2.2.2.1
  have hc : hget h "csrf_lookup" = some (args ([csrfLookup].map utf8) 1) := hc
  simp only [completeCommonLogoutSpec, ho, hv, Bool.true_eq_false, if_false,
    if_neg (not_le.mpr hl), if_neg hne, if_neg (not_not.mpr hw), if_neg (not_not.mpr ha),
    if_neg (not_not.mpr hc)]

theorem logout_reports {reference session csrfLookup : String} :
    Reports (completeCommonLogout reference session csrfLookup) s ↔
      LogoutReadable s (utf8 (logoutKey reference)) csrfLookup := by
  obtain ⟨values, s', he, ho⟩ := logout_outcome s (referenceValueLookup reference)
    (referenceValueLookup session) csrfLookup
  refine (@reports_invoke _ _ _ [logoutKey reference, sessionKey session] [csrfLookup] _ _ _ _ _
    (fun code hc => by simp [logoutReply]) he ho).trans ?_
  constructor
  · intro hr h hh hv hl hw hcsrf
    have hvalues := @logout_commits _ _ (referenceValueLookup session) _ _ hh hv hl hw hcsrf
    rw [he] at hvalues
    obtain rfl : values = [.int 0, .ofField (hget h "logout_return_uri")] :=
      Except.ok.inj hvalues
    rw [← logoutReply_succeeds]
    generalize hg : [Value.int 0, .ofField (hget h "logout_return_uri")] = values at ho hr
    cases ho with
    | refused _ => cases hg
    | expired _ _ _ => cases hg
    | committed hc => exact hr hc ⟨_, rfl⟩
  · rintro hr ⟨h, x, hc⟩ -
    rw [hc.reply]
    refine logoutReply_succeeds.mpr (hr h ?_ hc.valid hc.live hc.status hc.csrf)
    exact congrArg (Option.map Entry.object) hc.entry

omit [Crates] in
theorem unitReply_code {code : ℤ} (hc : code ≠ 0) : unitReply [.int code] = scriptError code := by
  unfold unitReply
  split
  · rename_i h
    cases h
    exact absurd rfl hc
  · rename_i h
    cases h
    rfl
  · rename_i h
    exact absurd rfl (h code)

theorem issue_reports {session handoff : String} {record : AuthenticationHandoff} :
    Reports (issueSsoHandoff session handoff record) s := by
  obtain ⟨values, s', he, ho⟩ := issue_outcome s (referenceValueLookup session)
    (referenceValueLookup handoff) record
  refine (@reports_invoke _ _ _ [sessionKey session, handoffKey handoff] _ _ _ _ _ _
    (fun code => unitReply_code) he ho).mpr ?_
  rintro ⟨h, x, hc⟩ -
  rw [hc.reply]
  exact ⟨(), rfl⟩

theorem create_reports {session handoff : String} {state : CommonSession}
    {record : AuthenticationHandoff} :
    Reports (createSessionAndHandoff session state handoff record) s := by
  obtain ⟨values, s', he, ho⟩ := create_outcome s (referenceValueLookup session) state
    (referenceValueLookup handoff) record
  refine (@reports_invoke _ _ _ [sessionKey session, handoffKey handoff] _ _ _ _ _ _
    (fun code => unitReply_code) he ho).mpr ?_
  rintro hc -
  rw [hc.reply]
  exact ⟨(), rfl⟩

/-- An exchange fails before its script, or ends with it. -/
theorem exchange_invoked {handoff serviceId challenge : String} :
    (exchangeHandoff handoff serviceId challenge).Sat (fun _ _ => True) (fun H r =>
      (NoScript H ∧ ¬Succeeds r) ∨ ∃ lookup, Invoked .exchangeHandoff
        [Key.handoff (referenceValueLookup handoff), Key.session lookup]
        ([serviceId, challenge, lookup].map utf8) exchangeReply H r) [] := by
  refine ⟨trivial, fun r => ?_⟩
  have hn : ∀ r', NoScript [⟨.redis (.type (handoffKey handoff)), r'⟩] := by
    intro r' script keys arguments v hv
    cases List.mem_singleton.mp hv
  cases r with
  | error e => exact .inl ⟨hn _, not_succeeds_error _⟩
  | ok keyType =>
  change Prog.Sat _ _ ((if keyType = "none" then _ else _) >>= fun _ => _) _
  split_ifs
  · exact .inl ⟨hn _, not_succeeds_error _⟩
  · exact .inl ⟨hn _, not_succeeds_error _⟩
  refine ⟨trivial, fun r => ?_⟩
  have hn' : NoScript ([⟨.redis (.type (handoffKey handoff)), .ok keyType⟩] ++
      [⟨.redis (.hget (handoffKey handoff) "common_session_lookup"), r⟩]) := by
    intro script keys arguments v hv
    rcases List.mem_append.mp hv with hv | hv
    · exact hn _ _ _ _ _ hv
    · cases List.mem_singleton.mp hv
  dsimp only [Prog.pure_eq, Prog.bind]
  cases hl : lookupReply r with
  | error e => exact .inl ⟨hn', not_succeeds_error _⟩
  | ok lookup =>
    have hkey : sessionKeyFromLookup lookup = .ok ("auth:session:" ++ lookup) :=
      if_neg (by rw [isLookup_of_lookupReply hl]; exact Bool.false_ne_true)
    dsimp only
    rw [hkey]
    refine (invoke_sat trivial).mono (fun _ _ => id) ?_
    rintro H r' ⟨v, rfl, rfl⟩
    exact .inr ⟨lookup, _, v, hn', rfl, rfl⟩

theorem exchange_reports {handoff serviceId challenge : String} :
    Reports (exchangeHandoff handoff serviceId challenge) s := by
  intro H r ht hs
  rcases exchange_invoked.trace ht with ⟨hn, hr⟩ | ⟨lookup, hi⟩
  · exact iff_of_false hr (NoScript.not_codeZero hn)
  · obtain ⟨values, s', he, ho⟩ := exchange_outcome s (referenceValueLookup handoff) serviceId
      challenge lookup
    refine (hi.reports_iff hs he).mpr ((outcome_reported ho ?_).mpr ?_)
    · intro code hc
      simp [exchangeReply]
    · rintro ⟨h, x, g, y, hc⟩ -
      rw [hc.reply]
      exact exchangeReply_succeeds hc.valid

/-- **A call reports its script**, whatever the store holds: a claim and the completion of a logout
exactly if the strings they return are UTF-8, the others always. -/
theorem commit_reported (s : State) :
    (∀ reference, Reports (claimExternalCallback reference) s ↔
      ClaimReadable s (utf8 (externalKey reference))) ∧
    (∀ session handoff record, Reports (issueSsoHandoff session handoff record) s) ∧
    (∀ session state handoff record,
      Reports (createSessionAndHandoff session state handoff record) s) ∧
    (∀ handoff serviceId challenge, Reports (exchangeHandoff handoff serviceId challenge) s) ∧
    (∀ reference session csrfLookup,
      Reports (completeCommonLogout reference session csrfLookup) s ↔
        LogoutReadable s (utf8 (logoutKey reference)) csrfLookup) :=
  ⟨fun _ => claim_reports, fun _ _ _ => issue_reports, fun _ _ _ _ => create_reports,
    fun _ _ _ => exchange_reports, fun _ _ _ => logout_reports⟩

/-- A waiting transaction whose state is a byte that is not UTF-8. -/
def unreadableHash : Hash := hashOf [
  ("service_id", "portal"), ("service_state", [255]), ("handoff_code_challenge", "challenge"),
  ("provider", "google"), ("provider_verification_data", ""), ("created_at", "0"),
  ("expires_at", "600"), ("status", "waiting")]

def unreadableStore (reference : String) : State :=
  State.empty.set (utf8 (externalKey reference)) ⟨.hash unreadableHash, some 600⟩

omit [Crates] in
/-- The claim of such a transaction moves it to `processing` and fails. -/
theorem claim_not_reported : letI := Crates.sample
    ¬Reports (claimExternalCallback "s") (unreadableStore "s") ∧
      ∃ H, (claimExternalCallback "s").Trace H (.done (.error .invalidStoredState)) ∧
        RanOn (unreadableStore "s") H ∧ ((Command.eval .callbackClaim [utf8 (externalKey "s")]
          []).script ScriptName.source (unreadableStore "s")).2.object (utf8 (externalKey "s")) =
            some (.hash (unreadableHash.insert "status" "processing")) := by
  let _ := Crates.sample
  have ho : (unreadableStore "s").object (utf8 (externalKey "s")) = some (.hash unreadableHash) :=
    by rw [State.object, unreadableStore, set_entries_self, Option.map_some]
  have hv : externalValid unreadableHash = true := by decide +kernel
  have hl : now (unreadableStore "s") < num (hget unreadableHash "expires_at") := by decide +kernel
  have hw : hget unreadableHash "status" = some (utf8 "waiting") := by decide +kernel
  refine ⟨fun h => ?_, ?_⟩
  · obtain ⟨t, ht⟩ := claim_reports.mp h unreadableHash ho hv hl hw "service_state" (by decide)
    have hn : (hget unreadableHash "service_state").bind text? = none := by decide +kernel
    rw [hn] at ht
    cases ht
  · have hrun := @claim_commits _ (referenceValueLookup "s") _ ho hv hl hw
    have hreply : scriptReply claimReply (.ok (claimValues unreadableHash)) =
        .error .invalidStoredState := by decide +kernel
    refine ⟨[⟨.redis (.eval .callbackClaim [utf8 (externalKey "s")] []),
      .ok (claimValues unreadableHash)⟩], ?_, ?_, ?_⟩
    · rw [← hreply]
      exact @Trace.snoc Op Reply _ (claimExternalCallback "s") []
        (.redis (.eval .callbackClaim [utf8 (externalKey "s")] []))
        (fun v => done (scriptReply claimReply v)) (Except.ok (claimValues unreadableHash))
        Trace.nil
    · intro script keys arguments v hv
      cases List.mem_singleton.mp hv
      exact (congrArg Prod.fst hrun).symm
    · exact (congrArg (fun out => State.object out.2 _) hrun).trans setField_object

end Calls

end AuthFoundation
