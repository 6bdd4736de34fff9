import AuthFoundation.LocalInvariant
import AuthFoundation.Portal

set_option autoImplicit false

/-!
# Login starts are used once

* `exec_start`, `LocalRun.created`: where login starts come from.
* `PortalRun`: interleaved requests of the portal; `Run.local`: their calls of the local state.
* `Next`, `run_sat`: what a request has done before each of its operations.
* `login_one_shot`: **a login start is claimed once**, and leads to one exchange and one session.
-/

namespace AuthFoundation

open Text Interleave Prog

/-! ## Where login starts come from -/

section Local

variable [Crates] {s s' : PortalLocalState} {draws : Draws} {E : List LocalEvent} {k : String}

/-- The event creates the login start. -/
def Starts (k : String) (r : LoginStart) (e : LocalEvent) : Prop :=
  ∃ path now draws, e = ⟨.createLoginStart path now, draws,
    .ok ⟨k, r.browserContextReference, sha256Base64url (utf8 r.codeVerifier)⟩⟩

/-- **A call creates at most one login start**, under a reference it draws. -/
theorem exec_start {c : LocalCall} {x : c.Result} (he : s.exec c draws = some (x, s'))
    {r : LoginStart} (hk : s'.loginStarts.lookup k = some r) : s.loginStarts.lookup k = some r ∨
      Starts k r ⟨c, draws, x⟩ ∧ ∃ b ∈ draws, k = referenceValue b := by
  have hclean : ∀ {now}, (s.cleanupExpired now).loginStarts.lookup k = some r →
      s.loginStarts.lookup k = some r := fun {now} h => (shrinks_cleanup s now).starts k r h
  cases c with
  | createLoginStart path now =>
    rw [exec_login] at he
    cases loginCreation he with
    | invalid _ => exact .inl hk
    | full _ _ => exact .inl (hclean hk)
    | overflow _ _ _ => exact .inl (hclean hk)
    | created skipped b context verifier expiresAt _ _ _ _ =>
      rw [lookup_insert_eq] at hk
      split_ifs at hk with hkb
      · cases hk
        subst hkb
        exact .inr ⟨⟨path, now, _, rfl⟩, b, by simp, rfl⟩
      · exact .inl (hclean hk)
  | createLocalSession u a now =>
    rw [exec_session] at he
    cases sessionCreation he with
    | full _ => exact .inl (hclean hk)
    | overflow _ _ => exact .inl (hclean hk)
    | created _ _ _ _ _ _ _ => exact .inl (hclean hk)
  | claimLoginStart state context now =>
    obtain ⟨-, hx⟩ := exec_claim.mp he
    have hs := shrinks_claim s state context now
    rw [hx] at hs
    exact .inl (hs.starts k r hk)
  | getLocalSession reference now =>
    obtain ⟨-, hx⟩ := exec_get.mp he
    have hs := shrinks_get s reference now
    rw [hx] at hs
    exact .inl (hs.starts k r hk)
  | removeLocalSession reference =>
    obtain ⟨-, hx⟩ := exec_remove.mp he
    cases hx
    exact .inl hk
  | logoutLocked reference cookie header now =>
    obtain ⟨-, hx⟩ := exec_logout.mp he
    have hs := shrinks_logout s reference cookie header now
    rw [hx] at hs
    exact .inl (hs.starts k r hk)
  | cleanupExpired now =>
    obtain ⟨-, rfl⟩ := exec_cleanup.mp he
    exact .inl (hclean hk)

/-- Every login start was created. -/
theorem LocalRun.created {c₁ c₂ : ℕ} (h : LocalRun (.new c₁ c₂) E s) {r : LoginStart}
    (hk : s.loginStarts.lookup k = some r) : ∃ e ∈ E, Starts k r e := by
  induction h with
  | nil =>
    have hn : (∅ : Records LoginStart).lookup k = none := Finmap.lookup_empty k
    exact absurd (hn.symm.trans hk) nofun
  | snoc h he ih =>
    obtain hk | ⟨hs, -⟩ := exec_start he hk
    · obtain ⟨e, hm, hs⟩ := ih hk
      exact ⟨e, List.mem_append_left _ hm, hs⟩
    · exact ⟨_, by simp, hs⟩

/-- A reference that is absent and never drawn again stays absent. -/
theorem LocalRun.absent (h : LocalRun s E s') (hn : s.loginStarts.lookup k = none)
    (hb : ∀ b ∈ drawn E, k ≠ referenceValue b) : s'.loginStarts.lookup k = none := by
  induction h with
  | nil => exact hn
  | @snoc E t u c draws x h he ih =>
    have hd : drawn (E ++ [⟨c, draws, x⟩]) = drawn E ++ draws := by simp [drawn]
    have ht := ih fun b hm => hb b (by rw [hd]; exact List.mem_append_left _ hm)
    refine Option.eq_none_iff_forall_ne_some.mpr fun r hr => ?_
    obtain hk | ⟨-, b, hm, hk⟩ := exec_start he hr
    · cases ht.symm.trans hk
    · exact hb b (by rw [hd]; exact List.mem_append_right _ hm) hk

omit [Crates] in
/-- A successful claim takes the login start away. -/
theorem claim_ok {context : String} {now : UInt64} {r : LoginStart}
    (h : s.claimLoginStart k context now = (.ok r, s')) : s.loginStarts.lookup k = some r ∧
      context = r.browserContextReference ∧ now < r.expiresAt ∧
      s' = { s with loginStarts := s.loginStarts.erase k } := by
  unfold PortalLocalState.claimLoginStart at h
  split at h
  · cases h
  · rename_i record hk
    split_ifs at h with hx hc
    · cases h
    · cases h
    · cases h
      exact ⟨hk, (not_not.mp hc).symm, UInt64.not_le.mp hx, rfl⟩

omit [Crates] in
/-- A claim with another context leaves a login start that has not expired. -/
theorem claim_mismatch {context : String} {now : UInt64} {r : LoginStart}
    (hk : s.loginStarts.lookup k = some r) (hc : context ≠ r.browserContextReference)
    (hr : now < r.expiresAt) :
    s.claimLoginStart k context now = (.error .browserContextMismatch, s) := by
  have hle := UInt64.not_le.mpr hr
  simp only [PortalLocalState.claimLoginStart, hk, if_neg hle, if_pos hc.symm]

omit [Crates] in
/-- A claim takes an expired login start away, whatever its context. -/
theorem claim_expired {context : String} {now : UInt64} {r : LoginStart}
    (hk : s.loginStarts.lookup k = some r) (hr : r.expiresAt ≤ now) :
    s.claimLoginStart k context now =
      (.error .expired, { s with loginStarts := s.loginStarts.erase k }) := by
  simp only [PortalLocalState.claimLoginStart, hk, if_pos hr]

end Local

namespace Portal

/-! ## Runs -/

abbrev PortalLabel := Label PortalReply UInt64 PortalRequest

abbrev PortalPool := Pool PortalLocalState PortalReply fun _ : PortalRequest => Option HttpResponse

/-- The call of the local state behind a label. -/
def localEvent : PortalLabel → Option LocalEvent
  | .op _ _ (.createLoginStart path now) (draws, r) => some ⟨.createLoginStart path now, draws, r⟩
  | .op _ _ (.claimLoginStart state context now) r =>
    some ⟨.claimLoginStart state context now, [], r⟩
  | .op _ _ (.createLocalSession u a) (some (now, draws, r)) =>
    some ⟨.createLocalSession u a now, draws, r⟩
  | .op _ _ (.getLocalSession reference) (some (now, r)) =>
    some ⟨.getLocalSession reference now, [], r⟩
  | .op _ _ (.logoutLocked reference cookie header) (some (now, r)) =>
    some ⟨.logoutLocked reference cookie header now, [], r⟩
  | .env now => some ⟨.cleanupExpired now, [], ()⟩
  | _ => none

def localEvents (tr : List PortalLabel) : List LocalEvent := tr.filterMap localEvent

/-- The bytes that were drawn are all different. -/
def FreshReferences (tr : List PortalLabel) : Prop := (drawn (localEvents tr)).Nodup

instance (tr : List PortalLabel) : Decidable (FreshReferences tr) :=
  inferInstanceAs (Decidable (List.Nodup _))

theorem drawn_append (tr₁ tr₂ : List PortalLabel) : drawn (localEvents (tr₁ ++ tr₂)) =
    drawn (localEvents tr₁) ++ drawn (localEvents tr₂) := by
  rw [localEvents, List.filterMap_append, drawn, List.flatMap_append]
  rfl

theorem FreshReferences.prefix {tr₁ tr₂ : List PortalLabel} (h : FreshReferences (tr₁ ++ tr₂)) :
    FreshReferences tr₁ := by
  rw [FreshReferences, drawn_append] at h
  exact (List.nodup_append.mp h).1

theorem FreshReferences.not_mem {tr₁ tr₂ : List PortalLabel} (h : FreshReferences (tr₁ ++ tr₂))
    {b : Vector UInt8 32} (hb : b ∈ drawn (localEvents tr₁)) : b ∉ drawn (localEvents tr₂) := by
  rw [FreshReferences, drawn_append] at h
  exact fun hb' => (List.nodup_append.mp h).2.2 b hb b hb' rfl

section Runs

variable [Crates] {config : AppConfig} {s t t' : PortalPool} {tr tr₁ tr₂ : List PortalLabel}
  {l : PortalLabel}

/-- A step of the portal as a call of the local state. -/
theorem Step.local (h : Step portalMachine (PortalRequest.run config) t l t') :
    match localEvent l with
    | some e => t.world.exec e.1 e.2.1 = some (e.2.2, t'.world)
    | none => t'.world = t.world := by
  cases h with
  | start q hq => rfl
  | env he =>
    cases he
    rfl
  | @op i q o k a r w hi he =>
    match o, a with
    | .unixEpochSeconds, .clock now =>
      cases he
      rfl
    | .createLoginStart path now, .draws draws =>
      obtain ⟨x, hx, hr⟩ := Option.map_eq_some_iff.mp he
      cases hr
      exact exec_login.trans hx
    | .claimLoginStart state context now, .ok => exact he
    | .exchange _ _, .exchanged values =>
      cases he
      rfl
    | .createLocalSession u a, .locked (some now) draws =>
      obtain ⟨x, hx, hr⟩ := Option.map_eq_some_iff.mp he
      cases hr
      exact exec_session.trans hx
    | .getLocalSession reference, .locked (some now) [] =>
      cases he
      rfl
    | .logoutLocked reference cookie header, .locked (some now) [] =>
      cases he
      rfl
    | .createLocalSession _ _, .locked none [] =>
      cases he
      rfl
    | .getLocalSession _, .locked none [] =>
      cases he
      rfl
    | .logoutLocked _ _ _, .locked none [] =>
      cases he
      rfl

/-- **A run of the portal as a run of the local state.** -/
theorem Run.local (h : Run portalMachine (PortalRequest.run config) t tr s) :
    LocalRun t.world (localEvents tr) s.world := by
  induction h with
  | nil => exact .nil
  | @snoc tr v u l hr hs ih =>
    have hl := Step.local hs
    rw [localEvents, List.filterMap_append]
    cases he : localEvent l with
    | none =>
      rw [he] at hl
      rw [List.filterMap_cons_none he, List.filterMap_nil, List.append_nil, hl]
      exact ih
    | some e =>
      rw [he] at hl
      rw [List.filterMap_cons_some he, List.filterMap_nil]
      exact ih.snoc hl

/-- **Runs of the portal** from its empty state. -/
abbrev PortalRun (config : AppConfig) (tr : List PortalLabel) (s : PortalPool) : Prop :=
  Run portalMachine (PortalRequest.run config)
    (Pool.init (.new config.loginStartCapacity config.localSessionCapacity)) tr s

end Runs

/-! ## What a request does -/

section Threads

variable [Crates] (config : AppConfig)

/-- The request is a callback with this code, state and login context. -/
def Presents (q : PortalRequest) (code state context : String) : Prop :=
  ∃ rawQuery cookieHeader, q = .callback rawQuery cookieHeader ∧
    parseCallbackQuery rawQuery = .ok ⟨code, state⟩ ∧
    loginContextFromCookieHeader cookieHeader = .ok context

/-- The history of a callback that read the clock. -/
abbrev timed (now : UInt64) : History PortalReply := [⟨.unixEpochSeconds, some now⟩]

/-- The history of a callback that claimed a login start. -/
abbrev claimed (state context : String) (now : UInt64) (r : LoginStart) : History PortalReply :=
  [⟨.unixEpochSeconds, some now⟩, ⟨.claimLoginStart state context now, .ok r⟩]

/-- The request it sends to the authentication service. -/
abbrev exchangeOp (code : String) (r : LoginStart) : PortalOp :=
  .exchange (basicAuth config.serviceId config.serviceSecret) ⟨code, r.codeVerifier⟩

/-- The history of a callback that exchanged its code. -/
abbrev exchanged (code state context : String) (now : UInt64) (r : LoginStart)
    (values : Int32 × UInt64) : History PortalReply :=
  [⟨.unixEpochSeconds, some now⟩, ⟨.claimLoginStart state context now, .ok r⟩,
    ⟨exchangeOp config code r, some values⟩]

/-- **What a request did before** it claims, exchanges or creates a session. -/
def Next (q : PortalRequest) (H : History PortalReply) : PortalOp → Prop
  | .claimLoginStart state context now =>
    ∃ code, Presents q code state context ∧ H = timed now
  | .exchange authorization body => ∃ code state context now r, Presents q code state context ∧
      (.exchange authorization body : PortalOp) = exchangeOp config code r ∧
      H = claimed state context now r
  | .createLocalSession u a => ∃ code state context now r, Presents q code state context ∧
      H = exchanged config code state context now r (u, a)
  | _ => True

variable {config}

theorem login_sat : (login config).Sat (Next config .login) (fun _ _ => True) [] := by
  refine ⟨trivial, fun now => ?_⟩
  cases now with
  | none => trivial
  | some now =>
  refine ⟨trivial, fun created => ?_⟩
  obtain ⟨draws, created⟩ := created
  cases created with
  | error e => cases e <;> trivial
  | ok created =>
    dsimp only [Prog.bind]
    split <;> trivial

theorem callback_sat {rawQuery : String} {cookieHeader : Option String} :
    (callback config rawQuery cookieHeader).Sat
      (Next config (.callback rawQuery cookieHeader)) (fun _ _ => True) [] := by
  unfold callback
  cases hq : parseCallbackQuery rawQuery with
  | error e => trivial
  | ok query =>
  dsimp only
  cases hc : loginContextFromCookieHeader cookieHeader with
  | error e => trivial
  | ok context =>
  have hp : Presents (.callback rawQuery cookieHeader) query.code query.state context :=
    ⟨rawQuery, cookieHeader, rfl, hq, hc⟩
  refine ⟨trivial, fun now => ?_⟩
  cases now with
  | none => trivial
  | some now =>
  refine ⟨⟨query.code, hp, rfl⟩, fun start => ?_⟩
  cases start with
  | error e => cases e <;> trivial
  | ok start =>
  refine ⟨⟨query.code, query.state, context, now, start, hp, rfl, rfl⟩, fun values => ?_⟩
  cases values with
  | none => trivial
  | some values =>
  obtain ⟨u, a⟩ := values
  refine ⟨⟨query.code, query.state, context, now, start, hp, rfl⟩, fun session => ?_⟩
  match session with
  | none => trivial
  | some (_, _, .error e) => cases e <;> trivial
  | some (_, _, .ok (reference, csrf)) =>
    dsimp only [Prog.bind]
    split <;> trivial

theorem getMe_sat {headers : HeaderMap} :
    (getMe headers).Sat (Next config (.getMe headers)) (fun _ _ => True) [] := by
  unfold getMe
  split
  · trivial
  · refine ⟨trivial, fun session => ?_⟩
    match session with
    | none => trivial
    | some (_, none) => trivial
    | some (_, some _) => trivial

theorem logout_sat {headers : HeaderMap} :
    (logout headers).Sat (Next config (.logout headers)) (fun _ _ => True) [] := by
  unfold logout
  split
  · trivial
  split
  · trivial
  split
  · trivial
  refine ⟨trivial, fun removed => ?_⟩
  match removed with
  | none => trivial
  | some (_, false) => trivial
  | some (_, true) => trivial

theorem run_sat (q : PortalRequest) :
    (q.run config).Sat (Next config q) (fun _ _ => True) [] := by
  cases q with
  | login => exact login_sat
  | callback _ _ => exact callback_sat
  | getMe _ => exact getMe_sat
  | logout _ => exact logout_sat

end Threads

/-! ## One claim, one exchange, one session -/

/-- The label is a successful claim of the login start. -/
def Claims (k : String) (l : PortalLabel) : Prop :=
  ∃ i q context now r, l = .op i q (.claimLoginStart k context now) (.ok r)

def Exchanges (l : PortalLabel) : Prop :=
  ∃ i q authorization body r, l = .op i q (.exchange authorization body) r

/-- The label creates a local session. -/
def CreatesSession (l : PortalLabel) : Prop :=
  ∃ i q u a now draws v, l = .op i q (.createLocalSession u a) (some (now, draws, .ok v))

/-- The request of the label has claimed the login start. -/
def Follows (k : String) (tr : List PortalLabel) (l : PortalLabel) : Prop :=
  ∃ i context now r, l.client = some i ∧
    Observed (history i tr) (.claimLoginStart k context now) (.ok r)

section Claims

variable [Crates] {config : AppConfig} {s t t' : PortalPool} {tr tr₁ tr₂ tr₃ : List PortalLabel}
  {l l' : PortalLabel} {k : String}

/-- **A claimed login start is gone.** -/
theorem PortalRun.claimed (h : PortalRun config (tr₁ ++ l :: tr₂) s)
    (hf : FreshReferences (tr₁ ++ l :: tr₂)) (hl : Claims k l) :
    s.world.loginStarts.lookup k = none := by
  obtain ⟨i, q, context, now, r, rfl⟩ := hl
  obtain ⟨t, t', h₁, hs, h₂⟩ := h.split_step
  obtain ⟨hk, -, -, hw⟩ := claim_ok (exec_claim.mp (Step.local hs)).2
  obtain ⟨b, hb, rfl⟩ := (Run.local h₁).invariant.startDrawn k r hk
  refine (Run.local h₂).absent ?_ fun b' hb' e => ?_
  · rw [hw, Finmap.lookup_erase]
  · -- the bytes of the reference were drawn before
    obtain rfl := referenceValue_injective e
    rw [List.append_cons] at hf
    refine hf.not_mem ?_ hb'
    rw [drawn_append]
    exact List.mem_append_left _ hb

theorem PortalRun.claim_once (h : PortalRun config tr s) (hf : FreshReferences tr) :
    AtMostOne (Claims k) tr := by
  refine atMostOne_of_cut fun tr₁ l tr₂ l' tr₃ e hl hl' => ?_
  subst e
  obtain ⟨t, t', h₁, hs, -⟩ := Run.split_step h
  have hn := PortalRun.claimed h₁ hf.prefix hl
  obtain ⟨i, q, context, now, r, rfl⟩ := hl'
  obtain ⟨hk, -⟩ := claim_ok (exec_claim.mp (Step.local hs)).2
  exact absurd (hn.symm.trans hk) nofun

/-- Operations that come at a fixed place of a thread follow each login start once. -/
theorem PortalRun.follow_once (h : PortalRun config tr s) (hf : FreshReferences tr)
    {P : PortalLabel → Prop} {n : ℕ} (hP : ∀ l, P l → ∃ i q o r, l = .op i q o r)
    (hn : ∀ tr₁ i q o r tr₂, tr = tr₁ ++ .op i q o r :: tr₂ → P (.op i q o r) →
      (history i tr₁).length = n) (k : String) :
    AtMostOne (fun l => P l ∧ Follows k tr l) tr := by
  refine atMostOne_of_cut fun tr₁ l tr₂ l' tr₃ e ⟨hl, hk⟩ ⟨hl', hk'⟩ => ?_
  obtain ⟨i, q, o, r, rfl⟩ := hP l hl
  obtain ⟨j, q', o', r', rfl⟩ := hP l' hl'
  obtain ⟨_, context, now, record, hi, hc⟩ := hk
  obtain ⟨_, context', now', record', hj, hc'⟩ := hk'
  cases hi
  cases hj
  obtain ⟨p, hp⟩ := mem_history.mp hc
  obtain ⟨p', hp'⟩ := mem_history.mp hc'
  have hij := (h.claim_once hf (k := k)).eq hp hp' ⟨_, _, _, _, _, rfl⟩ ⟨_, _, _, _, _, rfl⟩
  obtain rfl : i = j := (Label.op.inj hij).1
  have h₁ := hn tr₁ i q o r (tr₂ ++ .op i q' o' r' :: tr₃) (by simp [e]) hl
  have h₂ := hn (tr₁ ++ .op i q o r :: tr₂) i q' o' r' tr₃ e hl'
  rw [List.append_cons, history_append, history_append, history_op] at h₂
  simp only [List.length_append, List.length_singleton] at h₂
  omega

/-- What a thread did before its exchange. -/
theorem PortalRun.before_exchange (h : PortalRun config tr s) {i : ℕ} {q : PortalRequest}
    {authorization : String} {body : HandoffExchangeRequest} {r : Option (Int32 × UInt64)}
    (e : tr = tr₁ ++ .op i q (.exchange authorization body) r :: tr₂) :
    ∃ code state context now start, Presents q code state context ∧
      (.exchange authorization body : PortalOp) = exchangeOp config code start ∧
      history i tr₁ = Portal.claimed state context now start := by
  have hs : Next config q (history i tr₁) (.exchange authorization body) :=
    Run.sat_op h (fun q => run_sat q) e
  exact hs

/-- What a thread did before it creates a session. -/
theorem PortalRun.before_session (h : PortalRun config tr s) {i : ℕ} {q : PortalRequest}
    {u : Int32} {a : UInt64} {r : PortalReply (.createLocalSession u a)}
    (e : tr = tr₁ ++ .op i q (.createLocalSession u a) r :: tr₂) :
    ∃ code state context now start, Presents q code state context ∧
      history i tr₁ = exchanged config code state context now start (u, a) := by
  have hs : Next config q (history i tr₁) (.createLocalSession u a) :=
    Run.sat_op h (fun q => run_sat q) e
  exact hs

/-- What a thread did before it claims. -/
theorem PortalRun.before_claim (h : PortalRun config tr s) {i : ℕ} {q : PortalRequest}
    {context : String} {now : UInt64} {r : Except LocalStateError LoginStart}
    (e : tr = tr₁ ++ .op i q (.claimLoginStart k context now) r :: tr₂) :
    ∃ code, Presents q code k context ∧ history i tr₁ = timed now := by
  have hs : Next config q (history i tr₁) (.claimLoginStart k context now) :=
    Run.sat_op h (fun q => run_sat q) e
  exact hs

theorem PortalRun.exchange_once (h : PortalRun config tr s) (hf : FreshReferences tr)
    (k : String) : AtMostOne (fun l => Exchanges l ∧ Follows k tr l) tr := by
  refine h.follow_once hf (n := 2) (fun l hl => ?_) (fun tr₁ i q o r tr₂ e hl => ?_) k
  · obtain ⟨i, q, authorization, body, r, rfl⟩ := hl
    exact ⟨i, q, _, r, rfl⟩
  · obtain ⟨_, _, authorization, body, _, hl⟩ := hl
    cases hl
    obtain ⟨code, state, context, now, start, -, -, hH⟩ := h.before_exchange e
    rw [hH]
    rfl

theorem PortalRun.session_once (h : PortalRun config tr s) (hf : FreshReferences tr)
    (k : String) : AtMostOne (fun l => CreatesSession l ∧ Follows k tr l) tr := by
  refine h.follow_once hf (n := 3) (fun l hl => ?_) (fun tr₁ i q o r tr₂ e hl => ?_) k
  · obtain ⟨i, q, u, a, now, draws, v, rfl⟩ := hl
    exact ⟨i, q, _, _, rfl⟩
  · obtain ⟨_, _, u, a, _, _, _, hl⟩ := hl
    cases hl
    obtain ⟨code, state, context, now, start, -, hH⟩ := h.before_session e
    rw [hH]
    rfl

/-- Every exchange and every session follows a login start. -/
theorem PortalRun.follows (h : PortalRun config tr s) (hl : l ∈ tr)
    (hc : Exchanges l ∨ CreatesSession l) : ∃ k, Follows k tr l := by
  obtain ⟨tr₁, tr₂, e⟩ := List.append_of_mem hl
  rcases hc with ⟨i, q, authorization, body, r, rfl⟩ | ⟨i, q, u, a, now, draws, v, rfl⟩
  · obtain ⟨code, state, context, now, start, -, -, hH⟩ := h.before_exchange e
    refine ⟨state, i, context, now, start, rfl, ?_⟩
    rw [e, history_append, hH]
    exact Observed.append (List.mem_cons_of_mem _ List.mem_cons_self) _
  · obtain ⟨code, state, context, now, start, -, hH⟩ := h.before_session e
    refine ⟨state, i, context, now, start, rfl, ?_⟩
    rw [e, history_append, hH]
    exact Observed.append (List.mem_cons_of_mem _ List.mem_cons_self) _

/-- The label creates the login start. -/
def CreatesStart (k : String) (r : LoginStart) (l : PortalLabel) : Prop :=
  ∃ i q path now draws, l = .op i q (.createLoginStart path now) (draws,
    .ok ⟨k, r.browserContextReference, sha256Base64url (utf8 r.codeVerifier)⟩)

theorem createsStart_of_localEvent {r : LoginStart} {e : LocalEvent} (h : localEvent l = some e)
    (he : Starts k r e) : CreatesStart k r l := by
  obtain ⟨path, now, draws, rfl⟩ := he
  match l, h with
  | .op i q (.createLoginStart _ _) (_, _), h =>
    cases h
    exact ⟨i, q, path, now, draws, rfl⟩
  | .op i q (.claimLoginStart _ _ _) _, h => cases h
  | .op i q (.createLocalSession _ _) (some (_, _, _)), h => cases h
  | .op i q (.getLocalSession _) (some (_, _)), h => cases h
  | .op i q (.logoutLocked _ _ _) (some (_, _)), h => cases h
  | .env _, h => cases h

theorem PortalRun.start_created (h : PortalRun config tr s) {r : LoginStart}
    (hk : s.world.loginStarts.lookup k = some r) : ∃ l ∈ tr, CreatesStart k r l := by
  obtain ⟨e, he, hs⟩ := (Run.local h).created hk
  obtain ⟨l, hl, hle⟩ := List.mem_filterMap.mp he
  exact ⟨l, hl, createsStart_of_localEvent hle hs⟩

/-- **One-shot login.** Each login start is claimed successfully at most once, after its creation,
with its own context and before it expires, and is gone from then on; it leads to at most one
exchange and one session. A claim with another context leaves it in place while it has not expired;
a claim of an expired login start removes it, whatever the context. -/
theorem login_one_shot (h : PortalRun config tr s) (hf : FreshReferences tr) :
    (∀ k, AtMostOne (Claims k) tr) ∧
    (∀ tr₁ i q k context now r tr₂,
      tr = tr₁ ++ .op i q (.claimLoginStart k context now) (.ok r) :: tr₂ →
      (∃ l ∈ tr₁, CreatesStart k r l) ∧ (∃ code, Presents q code k context) ∧
      context = r.browserContextReference ∧ now < r.expiresAt ∧
      s.world.loginStarts.lookup k = none) ∧
    (∀ k, AtMostOne (fun l => Exchanges l ∧ Follows k tr l) tr) ∧
    (∀ k, AtMostOne (fun l => CreatesSession l ∧ Follows k tr l) tr) ∧
    (∀ l ∈ tr, Exchanges l ∨ CreatesSession l → ∃ k, Follows k tr l) ∧
    ∀ t i q k context now result r,
      Step portalMachine (PortalRequest.run config) s
        (.op i q (.claimLoginStart k context now) result) t →
      s.world.loginStarts.lookup k = some r →
      (context ≠ r.browserContextReference → now < r.expiresAt →
        result = .error .browserContextMismatch ∧ t.world = s.world) ∧
      (r.expiresAt ≤ now → result = .error .expired ∧ t.world.loginStarts.lookup k = none ∧
        t.world = { s.world with loginStarts := s.world.loginStarts.erase k }) := by
  refine ⟨fun k => h.claim_once hf, fun tr₁ i q k context now r tr₂ e => ?_, h.exchange_once hf,
    h.session_once hf, fun l => h.follows,
    fun t i q k context now result r hs hk => ⟨fun hc hr => ?_, fun hr => ?_⟩⟩
  · have hgone := PortalRun.claimed (e ▸ h) (e ▸ hf) ⟨_, _, _, _, _, rfl⟩
    obtain ⟨code, hp, -⟩ := h.before_claim e
    obtain ⟨t, t', h₁, hs, -⟩ := Run.split_step (e ▸ h)
    obtain ⟨hk, hx, hn, -⟩ := claim_ok (exec_claim.mp (Step.local hs)).2
    exact ⟨PortalRun.start_created h₁ hk, ⟨code, hp⟩, hx, hn, hgone⟩
  · have he := (exec_claim.mp (Step.local hs)).2
    rw [claim_mismatch hk hc hr] at he
    exact ⟨(congrArg Prod.fst he).symm, (congrArg Prod.snd he).symm⟩
  · have he := (exec_claim.mp (Step.local hs)).2
    rw [claim_expired hk hr] at he
    obtain ⟨rfl, hw⟩ := Prod.mk.inj he
    refine ⟨rfl, ?_, hw.symm⟩
    rw [← hw, lookup_erase_eq, if_pos rfl]

end Claims

/-! ## Runs of the portal -/

/-- Crates whose cookie headers hold the value of the login context. -/
@[reducible] def sampleCrates : Crates :=
  { Crates.sample with
    cookieSplitParse := fun header => [.ok (portalLoginContextCookieName, header)] }

def AppConfig.sample : AppConfig where
  serviceId := "portal"
  serviceSecret := "secret"
  authFoundationBaseUrl := ⟨"https", "", none, some "auth", none, "/", none, none⟩
  loginStartCapacity := 1
  localSessionCapacity := 1
  serviceId_valid := by decide
  serviceSecret_valid := by decide
  baseUrl_valid := by decide
  loginStartCapacity_pos := by decide
  localSessionCapacity_pos := by decide

/-- The query of a callback with a code and a state of these bytes. -/
def sampleQuery (code state : Vector UInt8 32) : String :=
  Form.appendPair (Form.appendPair "" "code" (referenceValue code)) "state" (referenceValue state)

/-- A callback in the thread `i` at time `now`, with the login context `context`. -/
def attempt (i context now : ℕ) : List (Choice PortalAnswer UInt64 PortalRequest) :=
  [.start i (.callback (sampleQuery (bytes32 9) (bytes32 1))
      (some (referenceValue (bytes32 context)))),
    .step i (.clock (some (UInt64.ofNat now))), .step i .ok]

/-- A login at time 0, and a callback. -/
def claimChoices (context now : ℕ) : List (Choice PortalAnswer UInt64 PortalRequest) :=
  [.start 0 .login, .step 0 (.clock (some 0)),
    .step 0 (.draws [bytes32 1, bytes32 2, bytes32 3])] ++ attempt 1 context now

/-- The claims of the key in a run. -/
def claimResults (k : String) (tr : List PortalLabel) : List (Except LocalStateError LoginStart) :=
  tr.filterMap fun
    | .op _ _ (.claimLoginStart state _ _) r => if state = k then some r else none
    | _ => none

/-- A claim with another context, a claim, and another claim. -/
theorem login_one_shot_sample : letI := sampleCrates
    ∃ tr s, PortalRun AppConfig.sample tr s ∧
      claimResults (referenceValue (bytes32 1)) tr = [.error .browserContextMismatch,
        .ok ⟨referenceValue (bytes32 2), referenceValue (bytes32 3), "/", 0, 600⟩,
        .error .notFound] ∧
      AtMostOne (Claims (referenceValue (bytes32 1))) tr ∧
      s.world.loginStarts.lookup (referenceValue (bytes32 1)) = none := by
  let _ := sampleCrates
  obtain ⟨tr, s, h, hf, hc, hn⟩ := exists_run_of_play portalMachine
    (PortalRequest.run AppConfig.sample) (Pool.init (.new 1 1))
    (claimChoices 4 598 ++ attempt 2 2 599 ++ attempt 3 2 599)
    (fun x => FreshReferences x.1 ∧
      claimResults (referenceValue (bytes32 1)) x.1 = [.error .browserContextMismatch,
        .ok ⟨referenceValue (bytes32 2), referenceValue (bytes32 3), "/", 0, 600⟩,
        .error .notFound] ∧
      x.2.world.loginStarts.lookup (referenceValue (bytes32 1)) = none) (by decide +kernel)
  exact ⟨tr, s, h, hc, (login_one_shot h hf).1 _, hn⟩

/-- A claim with another context removes a login start that has expired. -/
theorem other_context_removes : letI := sampleCrates
    ∃ tr s l t q record, PortalRun AppConfig.sample tr s ∧
      Step portalMachine (PortalRequest.run AppConfig.sample) s l t ∧ FreshReferences tr ∧
      l = .op 1 q (.claimLoginStart (referenceValue (bytes32 1)) (referenceValue (bytes32 4)) 600)
        (.error .expired) ∧
      s.world.loginStarts.lookup (referenceValue (bytes32 1)) = some record ∧
      record.browserContextReference ≠ referenceValue (bytes32 4) ∧
      t.world.loginStarts.lookup (referenceValue (bytes32 1)) = none := by
  let _ := sampleCrates
  obtain ⟨tr, s, l, t, h, hl, hf, he, hk, hn⟩ := exists_step_of_play portalMachine
    (PortalRequest.run AppConfig.sample) (Pool.init (.new 1 1)) ((claimChoices 4 600).take 5)
    (.step 1 .ok) (fun x y => FreshReferences x.1 ∧
      y.1 = .op 1 (.callback (sampleQuery (bytes32 9) (bytes32 1))
        (some (referenceValue (bytes32 4))))
        (.claimLoginStart (referenceValue (bytes32 1)) (referenceValue (bytes32 4)) 600)
        (.error .expired) ∧
      x.2.world.loginStarts.lookup (referenceValue (bytes32 1)) =
        some ⟨referenceValue (bytes32 2), referenceValue (bytes32 3), "/", 0, 600⟩ ∧
      y.2.world.loginStarts.lookup (referenceValue (bytes32 1)) = none) (by decide +kernel)
  exact ⟨tr, s, l, t, _, _, h, hl, hf, he, hk, by decide, hn⟩

end Portal

end AuthFoundation
