import AuthFoundation.HandlerSpec
import AuthFoundation.Journal
import AuthFoundation.Lib.Base64

set_option autoImplicit false

/-!
# Runs of the service

Any number of requests run interleaved, one operation at a time.

* `ServiceRun`: the runs; `ServiceRun.issues`, `ServiceRun.answered`: what requests do in them.
* `AtStep`: the stores around a step; `Created`: the steps that created a record.
* `FreshReferences`: drawn references have different lookups.
* `ServiceRun.externals`, …, `ServiceRun.logouts`: with fresh references, **each record is a
  one-time token**.
-/

namespace AuthFoundation

open Text Redis Token Interleave

section Service

variable [Crates]

abbrev ServiceLabel := Label Reply Move Request

abbrev ServicePool := Pool World Reply fun _ : Request => HttpResponse

/-- **Interleaved requests.** -/
abbrev ServiceRun (googleConfig : GoogleAuthorizationConfig) (w : World) :
    List ServiceLabel → ServicePool → Prop :=
  Interleave.Run machine (Request.run googleConfig) (Pool.init w)

abbrev ServiceStep (googleConfig : GoogleAuthorizationConfig) :
    ServicePool → ServiceLabel → ServicePool → Prop :=
  Interleave.Step machine (Request.run googleConfig)

variable {googleConfig : GoogleAuthorizationConfig} {w : World}
  {tr tr₁ tr₂ tr₃ : List ServiceLabel} {s t : ServicePool} {i j : ℕ} {q q' : Request}

/-! ## Requests in a run -/

theorem ServiceRun.issues (h : ServiceRun googleConfig w tr s) {o : Op} {r : Reply o}
    (e : tr = tr₁ ++ .op i q o r :: tr₂) : q.Issues (history i tr₁) o :=
  h.sat_op (Request.sat googleConfig) e

theorem ServiceRun.answered (h : ServiceRun googleConfig w tr s) {response : HttpResponse}
    (hi : s.threads i = some ⟨q, .done response⟩) :
    q.Answered googleConfig (history i tr) response :=
  h.sat_done (Request.sat googleConfig) hi

/-- A command in a run was justified. -/
theorem ServiceRun.lawful (h : ServiceRun googleConfig w tr s) {c : Command}
    {r : Reply (.redis c)} (e : tr = tr₁ ++ .op i q (.redis c) r :: tr₂) :
    ∃ x : Sent, c = x.command ∧ x.Lawful q.references (history i tr₁) :=
  (h.issues e).allowed.1

theorem ServiceRun.sent (h : ServiceRun googleConfig w tr s) {x : Sent}
    {r : Reply (.redis x.command)} (e : tr = tr₁ ++ Label.sent i q x r :: tr₂) :
    x.Lawful q.references (history i tr₁) := by
  obtain ⟨y, hy, hl⟩ := h.lawful e
  rwa [Sent.command_injective hy]

/-- The operations of a thread were performed for its request. -/
theorem ServiceRun.mem_history (h : ServiceRun googleConfig w tr s) {o : Op} {r : Reply o}
    {p : Service HttpResponse} (hi : s.threads i = some ⟨q, p⟩)
    (ho : Observed (history i tr) o r) : .op i q o r ∈ tr := by
  obtain ⟨q', hl⟩ := Interleave.mem_history.mp ho
  have hf := h.follows i
  rw [hi] at hf
  cases hf.2.2 _ hl rfl
  exact hl

/-- The stores around a step of a run. -/
def AtStep (googleConfig : GoogleAuthorizationConfig) (w : World) (tr : List ServiceLabel)
    (l : ServiceLabel) (P : State → State → Prop) : Prop :=
  ∃ tr₁ tr₂ t t', tr = tr₁ ++ l :: tr₂ ∧ ServiceRun googleConfig w tr₁ t ∧
    ServiceStep googleConfig t l t' ∧ P t.world.redis t'.world.redis

/-- Every step of a run is a step of the store. -/
theorem ServiceRun.atStep (h : ServiceRun googleConfig w tr s) {x : Sent}
    {r : Reply (.redis x.command)} (hl : Label.sent i q x r ∈ tr) :
    AtStep googleConfig w tr (Label.sent i q x r)
      fun s s' => RedisStep s (.command x.command r) s' := by
  obtain ⟨tr₁, tr₂, rfl⟩ := List.append_of_mem hl
  obtain ⟨t, t', h₁, hs, -⟩ := h.split_step
  exact ⟨tr₁, tr₂, t, t', rfl, h₁, hs, Step.redis hs⟩

theorem AtStep.mono {l : ServiceLabel} {P Q : State → State → Prop}
    (h : AtStep googleConfig w tr l P) (hPQ : ∀ s s', P s s' → Q s s') :
    AtStep googleConfig w tr l Q := by
  obtain ⟨tr₁, tr₂, t, t', e, h₁, hs, hP⟩ := h
  exact ⟨tr₁, tr₂, t, t', e, h₁, hs, hPQ _ _ hP⟩

/-! ## Created records -/

/-- The step created a record of the family. -/
def Created (f : UInt8) : ServiceLabel → Prop
  | .op _ _ (.redis c) r => (Op.redis c).creates f = true ∧ Committed (.command c r)
  | _ => False

omit [Crates] in
theorem Created.command {f : UInt8} {l : ServiceLabel} (h : Created f l) (hi : l.client = some i) :
    ∃ q c, ∃ r : Reply (.redis c), l = .op i q (.redis c) r ∧
      (Op.redis c).creates f = true ∧ Committed (.command c r) := by
  match l, h with
  | .op j q (.redis c) r, h =>
    cases hi
    exact ⟨q, c, r, rfl, h⟩

omit [Crates] in
/-- A script that created a handoff answered with code 0 only. -/
theorem accepted_of_committed {x : Sent} {r : Reply (.redis x.command)} {s s' : State}
    (hs : RedisStep s (.command x.command r) s') (hc : (Op.redis x.command).creates 104 = true)
    (hcm : Committed (.command x.command r)) : Accepted ⟨.redis x.command, r⟩ := by
  have hh := hcm.script hs
  cases x with
  | issue session handoff record =>
    obtain ⟨reply, rfl, g, y, hi⟩ := issue_committed hh hcm
    obtain rfl := hi.reply
    rfl
  | create session state handoff record =>
    obtain ⟨reply, rfl, hi⟩ := create_committed hh hcm
    obtain rfl := hi.reply
    rfl
  | writeExternal lookup state =>
    rw [creates_writeExternal] at hc
    cases hc
  | writeLogout lookup state =>
    rw [creates_writeLogout] at hc
    cases hc
  | _ => cases hc

/-- A request whose handoffs were all refused created none. -/
theorem ServiceRun.unissued (h : ServiceRun googleConfig w tr s) (hu : Unissued (history i tr)) :
    ∀ l ∈ tr, l.client = some i → ¬Created 104 l := by
  intro l hl hi hc
  obtain ⟨q, c, r, rfl, hcr, hcm⟩ := hc.command hi
  obtain ⟨tr₁, tr₂, rfl⟩ := List.append_of_mem hl
  obtain ⟨x, rfl, -⟩ := h.lawful rfl
  obtain ⟨t, t', -, hs, -⟩ := h.split_step
  exact hu _ (Interleave.mem_history.mpr ⟨q, hl⟩) hcr
    (accepted_of_committed (Step.redis hs) hcr hcm)

/-! ## Fresh references -/

/-- The lookup of the reference drawn in a step. -/
def drawnLookup : ServiceLabel → Option String
  | .op _ _ .tryFillBytes (.ok bytes) => some (referenceValueLookup (referenceValue bytes))
  | _ => none

/-- **Fresh references**: different draws have different lookups. -/
abbrev FreshReferences (tr : List ServiceLabel) : Prop := (tr.filterMap drawnLookup).Nodup

theorem FreshReferences.prefix (h : FreshReferences (tr₁ ++ tr₂)) : FreshReferences tr₁ := by
  rw [FreshReferences, List.filterMap_append] at h
  exact (List.nodup_append.mp h).1

theorem FreshReferences.eq (h : FreshReferences tr) {l l' : ServiceLabel} {lookup : String}
    (hl : l ∈ tr) (hl' : l' ∈ tr) (hd : drawnLookup l = some lookup)
    (hd' : drawnLookup l' = some lookup) : l = l' := by
  by_contra hne
  have hcut : ∀ {tr₁ tr₂ tr₃ : List ServiceLabel} {l l' : ServiceLabel},
      drawnLookup l = some lookup → drawnLookup l' = some lookup →
      ¬FreshReferences (tr₁ ++ l :: tr₂ ++ l' :: tr₃) := by
    intro tr₁ tr₂ tr₃ l l' hd hd' hn
    rw [FreshReferences, List.filterMap_append, List.filterMap_append,
      List.filterMap_cons_some hd, List.filterMap_cons_some hd'] at hn
    exact (List.disjoint_of_nodup_append hn) (List.mem_append_right _ List.mem_cons_self)
      List.mem_cons_self
  obtain ⟨tr₁, tr₂, tr₃, rfl | rfl⟩ := cut_two hl hl' hne
  · exact hcut hd hd' h
  · exact hcut hd' hd h

/-- A reference is drawn by one thread. -/
theorem FreshReferences.client (h : FreshReferences tr) {lookup : String}
    (hi : Draw (history i tr) lookup) (hj : Draw (history j tr) lookup) : i = j := by
  obtain ⟨b, hb, rfl⟩ := hi
  obtain ⟨b', hb', he⟩ := hj
  obtain ⟨q, hl⟩ := Interleave.mem_history.mp hb
  obtain ⟨q', hl'⟩ := Interleave.mem_history.mp hb'
  have := h.eq hl hl' rfl (congrArg some he.symm)
  exact (Label.op.inj this).1

theorem Draw.history {lookup : String} (h : Draw (history i tr₁) lookup) :
    Draw (Interleave.history i (tr₁ ++ tr₂)) lookup := by
  rw [history_append]
  exact h.append _

/-! ## Records are one-time tokens -/

/-- **The discipline of a family** whose keys come from drawn references. -/
theorem ServiceRun.disciplined (h : ServiceRun googleConfig w tr s) (hfresh : FreshReferences tr)
    {α : Type} {F : Family α} (f : UInt8) (key : String → Bytes) {k : Bytes}
    (hkey : Function.Injective key)
    (hcr : ∀ x a, F.creates x = some (k, a) → (Op.redis x.command).creates f = true ∧
      ∀ refs H, x.Lawful refs H → ∃ lookup, Draw H lookup ∧ k = key lookup)
    (hexp : ∀ x t, F.expires x = some (k, t) → ∀ refs H, x.Lawful refs H →
      ∃ y r a, Observed H (.redis (Sent.command y)) r ∧ F.creates y = some (k, a) ∧
        t = F.expiresAt a) : F.Disciplined k (events tr) := by
  have honce : ∀ tr₁ tr₂ tr₃ i q x r j q' x' r' a a',
      tr = tr₁ ++ Label.sent i q x r :: tr₂ ++ Label.sent j q' x' r' :: tr₃ →
      F.creates x = some (k, a) → F.creates x' = some (k, a') → False := by
    intro tr₁ tr₂ tr₃ i q x r j q' x' r' a a' e hx hx'
    have e₁ : tr = tr₁ ++ Label.sent i q x r :: (tr₂ ++ Label.sent j q' x' r' :: tr₃) := by
      rw [e, List.append_assoc, List.cons_append]
    obtain ⟨lookup, hd, hk⟩ := (hcr x a hx).2 _ _ (h.sent e₁)
    obtain ⟨lookup', hd', hk'⟩ := (hcr x' a' hx').2 _ _ (h.sent e)
    obtain rfl := hkey (hk.symm.trans hk')
    have hd : Draw (history i tr) lookup := e₁ ▸ hd.history
    have hd' : Draw (history j tr) lookup := e ▸ hd'.history
    obtain rfl := hfresh.client hd hd'
    -- the thread had already tried to create a record of the family
    have hm : (⟨.redis x.command, r⟩ : Σ o, Reply o) ∈
        history i (tr₁ ++ Label.sent i q x r :: tr₂) :=
      Interleave.mem_history.mpr ⟨q, by simp⟩
    have hf := (h.issues e).allowed.2 f (hcr x' a' hx').1 _ hm
    cases (hcr x a hx).1.symm.trans hf
  refine Family.disciplined (fun i q c r hl => ?_) honce ?_
  · obtain ⟨tr₁, tr₂, e⟩ := List.append_of_mem hl
    obtain ⟨x, hx, -⟩ := h.lawful e
    exact ⟨x, hx⟩
  · intro tr₁ tr₂ i q x r t e hx j q' x' r' a hl hx'
    obtain ⟨y, r₀, a₀, hy, hc, rfl⟩ := hexp x t hx _ _ (h.sent e)
    obtain ⟨q₀, hl₀⟩ := Interleave.mem_history.mp hy
    by_cases he : Label.sent i q₀ y r₀ = Label.sent j q' x' r'
    · obtain rfl : y = x' := Sent.command_injective (Op.redis.inj (Label.op.inj he).2.2.1)
      cases hc.symm.trans hx'
      rfl
    · obtain ⟨tr₃, tr₄, tr₅, rfl | rfl⟩ := cut_two hl₀ hl he
      · have e : tr = tr₃ ++ Label.sent i q₀ y r₀ :: tr₄ ++
            Label.sent j q' x' r' :: (tr₅ ++ Label.sent i q x r :: tr₂) := by simp [e]
        exact (honce _ _ _ _ _ _ _ _ _ _ _ _ _ e hc hx').elim
      · have e : tr = tr₃ ++ Label.sent j q' x' r' :: tr₄ ++
            Label.sent i q₀ y r₀ :: (tr₅ ++ Label.sent i q x r :: tr₂) := by simp [e]
        exact (honce _ _ _ _ _ _ _ _ _ _ _ _ _ e hx' hc).elim

variable {k : Bytes}

theorem ServiceRun.externals (h : ServiceRun googleConfig w tr s) (hfresh : FreshReferences tr) :
    AuthFoundation.externals.Disciplined k (events tr) := by
  refine h.disciplined hfresh 101 Key.external (fun _ _ => external_inj.mp)
    (fun x a hx => ?_) fun x t hx refs H hl => ?_
  · cases x with
    | writeExternal lookup state =>
      cases hx
      exact ⟨by simp, fun refs H hl => ⟨lookup, hl.1, rfl⟩⟩
    | _ => cases hx
  · cases x with
    | expireExternal lookup expiresAt =>
      cases hx
      obtain ⟨state, r, ho, rfl⟩ := hl
      exact ⟨.writeExternal lookup state, r, state, ho, rfl, rfl⟩
    | _ => cases hx

theorem ServiceRun.logouts (h : ServiceRun googleConfig w tr s) (hfresh : FreshReferences tr) :
    AuthFoundation.logouts.Disciplined k (events tr) := by
  refine h.disciplined hfresh 108 Key.logout (fun _ _ => logout_inj.mp)
    (fun x a hx => ?_) fun x t hx refs H hl => ?_
  · cases x with
    | writeLogout lookup state =>
      cases hx
      exact ⟨by simp, fun refs H hl => ⟨lookup, hl.1, rfl⟩⟩
    | _ => cases hx
  · cases x with
    | expireLogout lookup expiresAt =>
      cases hx
      obtain ⟨state, r, ho, rfl⟩ := hl
      exact ⟨.writeLogout lookup state, r, state, ho, rfl, rfl⟩
    | _ => cases hx

theorem ServiceRun.handoffs (h : ServiceRun googleConfig w tr s) (hfresh : FreshReferences tr) :
    AuthFoundation.handoffs.Disciplined k (events tr) := by
  refine h.disciplined hfresh 104 Key.handoff (fun _ _ => handoff_inj.mp)
    (fun x a hx => ?_) fun x t hx => by cases hx
  cases x with
  | issue session handoff record =>
    cases hx
    exact ⟨rfl, fun refs H hl => ⟨handoff, hl.2.1, rfl⟩⟩
  | create session state handoff record =>
    cases hx
    exact ⟨rfl, fun refs H hl => ⟨handoff, hl.2.1, rfl⟩⟩
  | _ => cases hx

theorem ServiceRun.sessions (h : ServiceRun googleConfig w tr s) (hfresh : FreshReferences tr) :
    AuthFoundation.sessions.Disciplined k (events tr) := by
  refine h.disciplined hfresh 115 Key.session (fun _ _ => session_inj.mp)
    (fun x a hx => ?_) fun x t hx => by cases hx
  cases x with
  | create session state handoff record =>
    cases hx
    exact ⟨rfl, fun refs H hl => ⟨session, hl.1, rfl⟩⟩
  | _ => cases hx

end Service

/-! ## A first login, a login with its session and an exchange -/

def sampleVerifier : String := "dBjftJeZ4CVP-mB92K27uhbUJU1p1r_wW1gFWFOEjXk"

def sampleChallenge : String := "E9Melhoa2OwvFrEMTJguCHaoeK1t8URWbuGJSstw-cM"

/-- The functions of other crates on the inputs of the run. -/
@[reducible] def Crates.service : Crates where
  sha256 value := (((utf8 sampleVerifier,
      bytes32 0x13d31e961a1ad8ec2f16b10c4c982e0876a878ad6df144566ee1894acb70f9c3) ::
    (utf8 "secret", bytes32 0x2bb80d537b1da3e38bd30361aa855686bde0eacd7162fef6a25fe97bf527a25b) ::
    sampleDigests).lookup value).getD (bytes32 0)
  base64Decode := Base64.decode
  urlParse uri := if uri = "https://portal.example/callback" then
    some ⟨"https", "", none, some "portal.example", none, "/callback", none, none⟩ else none
  urlToString url := url.scheme ++ "://" ++ url.hostStr.getD "" ++ url.path ++
    url.query.elim "" ("?" ++ ·)
  cookieSplitParse _ := []
  authorizeUrl clientId redirectUri state :=
    "https://accounts.google.com/o/oauth2/auth?response_type=code&client_id=" ++ clientId ++
      "&state=" ++ state ++ "&redirect_uri=" ++ redirectUri ++ "&scope=email+profile"

/-- One registered service. -/
def sampleServices : String → Option RegisteredService := fun serviceId =>
  if serviceId = "portal" then
    some ⟨true, "https://portal.example/callback", "https://portal.example/callback",
      (bytes32 0x2bb80d537b1da3e38bd30361aa855686bde0eacd7162fef6a25fe97bf527a25b).toList⟩
  else none

def LoginQuery.sample : LoginQuery := ⟨"portal", "state", sampleChallenge, "S256"⟩

/-- A login with these cookies. -/
def sampleLogin (cookies : List (String × String)) : Request := .login ⟨[], cookies⟩ .sample

/-- A login with the cookie of a session. -/
def sessionLogin : Request := sampleLogin [(authSessionCookieName, referenceValue (bytes32 2))]

/-- An exchange of the handoff with this reference. -/
def sampleExchange (code : String) : Request :=
  .exchangeAuthHandoff ⟨[some "Basic cG9ydGFsOnNlY3JldA=="], []⟩ ⟨code, sampleVerifier⟩

/-- A login without a cookie and its callback create a session and a handoff. -/
def firstLogin : List (Choice Answer Move Request) :=
  [.env (.tick 100), .start 0 (sampleLogin []), .step 0 .ok, .step 0 (.time 100), .step 0 .ok,
    .step 0 (.bytes (bytes32 1)), .step 0 .ok, .step 0 .ok,
    .start 1 (.googleAuthCallback ⟨"code", referenceValue (bytes32 1)⟩), .step 1 .ok, .step 1 .ok,
    .step 1 .ok, .step 1 (.token "token"),
    .step 1 (.userInfo (some ⟨"subject", none, none, none, none⟩)), .step 1 (.time 100),
    .step 1 .ok, .step 1 .ok, .step 1 .ok, .step 1 .ok, .step 1 .ok, .step 1 (.bytes (bytes32 2)),
    .step 1 (.bytes (bytes32 3)), .step 1 .ok]

/-- A login with a session, whose clock shows this second. -/
def secondLogin (seconds : Int64) : List (Choice Answer Move Request) :=
  [.start 2 sessionLogin, .step 2 .ok, .step 2 (.time seconds), .step 2 .ok, .step 2 .ok]

/-- The user of the session is read, and a handoff is issued. -/
def issueChoices : List (Choice Answer Move Request) :=
  [.step 2 .ok, .step 2 (.bytes (bytes32 4)), .step 2 .ok]

/-- The handoff is exchanged. -/
def exchangeEndpointChoices (code : String) : List (Choice Answer Move Request) :=
  [.start 3 (sampleExchange code), .step 3 .ok, .step 3 .ok, .step 3 .ok, .step 3 .ok, .step 3 .ok]

end AuthFoundation
