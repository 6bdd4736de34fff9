import AuthFoundation.ServiceRun

set_option autoImplicit false

/-!
# The way back to a service

A successful login with a session and a successful callback both redirect to the registered address.

* `Built`, `PrintsBack`: URLs built from registered addresses; printed URLs are read back.
* `ReturnsOnly`: a redirect to a registered address with a code and a state and nothing else.
* `Returned`: what a successful request read, created and answered; `login_returned`,
  `callback_returned`: the URLs that are printed.
* `redirects_agree`: **when both ways back are the same**.
-/

namespace AuthFoundation

open Text Redis Interleave

/-! ## Redirects -/

/-- `append_pair("code", …).append_pair("state", …)`. -/
def Url.withCode (url : Url) (code state : String) : Url :=
  (url.appendPair "code" code).appendPair "state" state

@[simp] theorem Url.queryPairs_withCode (url : Url) (code state : String) :
    (url.withCode code state).queryPairs =
      url.queryPairs ++ [("code", code), ("state", state)] := by
  simp [withCode]

@[simp] theorem Url.queryPairs_clearQuery (url : Url) : url.clearQuery.queryPairs = [] := rfl

/-- The pairs are appended to the same text exactly if there was none before. -/
theorem Url.withCode_clearQuery {url : Url} {code state : String} :
    url.withCode code state = url.clearQuery.withCode code state ↔ url.query.getD "" = "" := by
  constructor
  · intro h
    have hq := Option.some.inj (congrArg Url.query h)
    exact Form.appendPair_injective "code" code (Form.appendPair_injective "state" state hq)
  · intro h
    simp only [withCode, appendPair, clearQuery, h, Option.getD_none]

section Redirects

variable [Crates]

/-- URLs built from registered addresses. -/
inductive Built : Url → Prop
  | registered {uri : String} {url : Url} (h : validCallbackUrl uri = some url) : Built url
  | clearQuery {url : Url} (h : Built url) : Built url.clearQuery
  | appendPair {url : Url} (h : Built url) (name value : String) : Built (url.appendPair name value)

theorem Built.withCode {url : Url} (h : Built url) (code state : String) :
    Built (url.withCode code state) := (h.appendPair _ _).appendPair _ _

/-- **Printed URLs are read back.** -/
def PrintsBack : Prop := ∀ url, Built url → Crates.urlParse (Crates.urlToString url) = some url

/-- **The redirect goes to the registered address** and its query is the code and the state. -/
def ReturnsOnly (url : Url) (code state location : String) : Prop :=
  ∃ target, Crates.urlParse location = some target ∧ target.scheme = url.scheme ∧
    target.hostStr = url.hostStr ∧ target.port = url.port ∧ target.path = url.path ∧
    target.queryPairs = [("code", code), ("state", state)]

variable {url : Url} {code state : String}

theorem returnsOnly_withCode (hp : PrintsBack) (h : Built url) :
    ReturnsOnly url code state (Crates.urlToString (url.withCode code state)) ↔
      url.queryPairs = [] := by
  have hread := hp _ (h.withCode code state)
  constructor
  · rintro ⟨target, ht, -, -, -, -, hq⟩
    obtain rfl := Option.some.inj (hread.symm.trans ht)
    rw [Url.queryPairs_withCode] at hq
    exact List.append_left_eq_self.mp hq
  · intro hq
    refine ⟨_, hread, rfl, rfl, rfl, rfl, ?_⟩
    rw [Url.queryPairs_withCode, hq, List.nil_append]

/-- Without the existing query nothing else is returned. -/
theorem returnsOnly_clearQuery (hp : PrintsBack) (h : Built url) :
    ReturnsOnly url code state (Crates.urlToString (url.clearQuery.withCode code state)) :=
  (returnsOnly_withCode hp h.clearQuery).mpr rfl

/-- **Both redirects return only code and state and are the same** exactly if the registered
address has no query or an empty one. -/
theorem redirects_iff (hp : PrintsBack) (h : Built url) :
    ReturnsOnly url code state (Crates.urlToString (url.withCode code state)) ∧
      ReturnsOnly url code state (Crates.urlToString (url.clearQuery.withCode code state)) ∧
      Crates.urlToString (url.withCode code state) =
        Crates.urlToString (url.clearQuery.withCode code state) ↔ url.query.getD "" = "" := by
  constructor
  · rintro ⟨-, -, he⟩
    have hread := hp _ (h.withCode code state)
    rw [he, hp _ (h.clearQuery.withCode code state)] at hread
    exact Url.withCode_clearQuery.mp (Option.some.inj hread).symm
  · intro hq
    have hpairs : url.queryPairs = [] := by
      rw [Url.queryPairs, hq]
      rfl
    exact ⟨(returnsOnly_withCode hp h).mpr hpairs, returnsOnly_clearQuery hp h,
      congrArg _ (Url.withCode_clearQuery.mpr hq)⟩

end Redirects

/-! ## The addresses of a page -/

/-- The addresses of one page, with any query. -/
def sampleUrl (query : Option String) : Url :=
  ⟨"https", "", none, some "portal.example", none, "/callback", query, none⟩

/-- Reading the addresses of the page. -/
def pageParse (uri : String) : Option Url := do
  let rest ← stripPrefix uri "https://portal.example/callback"
  if rest = "" then some (sampleUrl none)
  else (stripPrefix rest "?").map fun query => sampleUrl (some query)

theorem pageParse_base (rest : String) :
    pageParse ("https://portal.example/callback" ++ rest) =
      if rest = "" then some (sampleUrl none)
      else (stripPrefix rest "?").map fun query => sampleUrl (some query) := by
  rw [pageParse, stripPrefix_append]
  rfl

theorem pageParse_eq_some {uri : String} {url : Url} (h : pageParse uri = some url) :
    ∃ query, url = sampleUrl query := by
  obtain ⟨rest, -, h⟩ := Option.bind_eq_some_iff.mp h
  split_ifs at h
  · exact ⟨none, (Option.some.inj h).symm⟩
  · obtain ⟨query, -, hq⟩ := Option.map_eq_some_iff.mp h
    exact ⟨some query, hq.symm⟩

theorem pageParse_append (query : Option String) :
    pageParse ("https://portal.example/callback" ++ query.elim "" ("?" ++ ·)) =
      some (sampleUrl query) := by
  rw [pageParse_base]
  cases query with
  | none => rfl
  | some query =>
    have hne : "?" ++ query ≠ "" := fun h => absurd (congrArg String.toList h) (by simp)
    rw [Option.elim_some, if_neg hne, stripPrefix_append, Option.map_some]

/-! ## Successful requests -/

section Service

variable [Crates] {googleConfig googleConfig' : GoogleAuthorizationConfig} {w w' : World}
  {tr tr' : List ServiceLabel} {s s' : ServicePool} {i j : ℕ} {request : HttpRequest}
  {query : LoginQuery} {callbackQuery : CallbackQuery} {response response' : HttpResponse}

/-- **A success**: thread `i` read the registered address, created a handoff for the service, and
answered with a redirect. -/
structure Returned (tr : List ServiceLabel) (i : ℕ) (response : HttpResponse)
    (serviceId uri code location : String) : Prop where
  registered : Observed (history i tr) (.sql (.selectLoginCallbackUri serviceId))
    (.ok (some (true, uri)))
  drawn : ∃ bytes, Observed (history i tr) .tryFillBytes (.ok bytes) ∧ code = referenceValue bytes
  handoff : ∃ x record, ∃ v : Reply (.redis (Sent.command x)), Observed (history i tr) _ v ∧
    AuthFoundation.handoffs.creates x = some (Key.handoff (referenceValueLookup code), record) ∧
    record.serviceId = serviceId ∧ Accepted ⟨_, v⟩
  status : response.status = 302
  location : response.location = some location

/-- The thread created a handoff. -/
def HandsOver (tr : List ServiceLabel) (i : ℕ) : Prop := ∃ l ∈ tr, l.client = some i ∧ Created 104 l

theorem HandsOver.not_unissued (h : ServiceRun googleConfig w tr s) (hc : HandsOver tr i) :
    ¬Unissued (history i tr) := by
  intro hu
  obtain ⟨l, hl, hi, hc⟩ := hc
  exact h.unissued hu l hl hi hc

/-- A login that created a handoff keeps the query of the registered address. -/
theorem login_returned (h : ServiceRun googleConfig w tr s)
    (hi : s.threads i = some ⟨.login request query, .done response⟩) (hc : HandsOver tr i) :
    ∃ uri url code, validCallbackUrl uri = some url ∧
      Returned tr i response query.serviceId uri code
        (Crates.urlToString (url.withCode code query.state)) := by
  have ha : LoginOutcome googleConfig request query (history i tr) response := h.answered hi
  cases ha with
  | rejected hs hu => exact absurd hu (hc.not_unissued h)
  | google hf hcl hu hb => exact absurd hu (hc.not_unissued h)
  | @callback reference uri url state bytes record hx huri hurl =>
    obtain ⟨v, hv, hok⟩ := hx.issued
    exact ⟨uri, url, referenceValue bytes, hurl, huri, ⟨bytes, hx.drawn, rfl⟩,
      ⟨.issue _ _ record, record, v, hv, rfl, hx.service, hok⟩, rfl, rfl⟩

/-- A callback that created a handoff drops the query of the registered address. -/
theorem callback_returned (h : ServiceRun googleConfig w tr s)
    (hi : s.threads i = some ⟨.googleAuthCallback callbackQuery, .done response⟩)
    (hc : HandsOver tr i) :
    ∃ tx uri url code, Claimed (history i tr) (referenceValueLookup callbackQuery.state) tx ∧
      validCallbackUrl uri = some url ∧ Returned tr i response tx.serviceId uri code
        (Crates.urlToString (url.clearQuery.withCode code tx.serviceState)) := by
  have ha : CallbackOutcome callbackQuery (history i tr) response := h.answered hi
  cases ha with
  | invalid hH => exact absurd (hH ▸ (fresh_nil 104).unissued) (hc.not_unissued h)
  | disconnected hd hu => exact absurd hu (hc.not_unissued h)
  | unclaimed hv he hu => exact absurd hu (hc.not_unissued h)
  | failed hs hcl hu => exact absurd hu (hc.not_unissued h)
  | @success tx uri url sessionBytes handoffBytes state record hx hurl =>
    obtain ⟨v, hv, hok⟩ := hx.created
    exact ⟨tx, uri, url, referenceValue handoffBytes, hx.claimed, hurl, hx.uri,
      ⟨handoffBytes, hx.drawnHandoff, rfl⟩,
      ⟨.create _ state _ record, record, v, hv, rfl, hx.service, hok⟩, rfl, rfl⟩

/-- **Both ways back.** Whatever login and whatever callback create a handoff, in any runs: the
callback returns only code and state, and the login does so exactly if the registered address has
no query pairs. For the same address, code and state, both return only these and redirect alike
exactly if the registered address has no query or an empty one. -/
theorem redirects_agree (hp : PrintsBack) (h : ServiceRun googleConfig w tr s)
    (hi : s.threads i = some ⟨.login request query, .done response⟩) (hc : HandsOver tr i)
    (h' : ServiceRun googleConfig' w' tr' s')
    (hj : s'.threads j = some ⟨.googleAuthCallback callbackQuery, .done response'⟩)
    (hc' : HandsOver tr' j) :
    ∃ tx uri uri' url url' code code' location location',
      validCallbackUrl uri = some url ∧ validCallbackUrl uri' = some url' ∧
      Returned tr i response query.serviceId uri code location ∧
      Returned tr' j response' tx.serviceId uri' code' location' ∧
      Claimed (history j tr') (referenceValueLookup callbackQuery.state) tx ∧
      (ReturnsOnly url code query.state location ↔ url.queryPairs = []) ∧
      ReturnsOnly url' code' tx.serviceState location' ∧
      (uri' = uri → code' = code → tx.serviceState = query.state →
        (ReturnsOnly url code query.state location ∧ ReturnsOnly url code query.state location' ∧
          location = location' ↔ url.query.getD "" = "")) := by
  obtain ⟨uri, url, code, hurl, hr⟩ := login_returned h hi hc
  obtain ⟨tx, uri', url', code', hcl, hurl', hr'⟩ := callback_returned h' hj hc'
  refine ⟨tx, uri, uri', url, url', code, code', _, _, hurl, hurl', hr, hr', hcl,
    returnsOnly_withCode hp (.registered hurl), returnsOnly_clearQuery hp (.registered hurl'), ?_⟩
  rintro rfl rfl hs
  obtain rfl := Option.some.inj (hurl.symm.trans hurl')
  rw [hs]
  exact redirects_iff hp (.registered hurl)

/-! ## Runs with two addresses -/

/-- The functions of other crates, which read and print the addresses of the page. -/
@[reducible] def Crates.page : Crates := { Crates.service with urlParse := pageParse }

omit [Crates] in
theorem Crates.page_built : letI := Crates.page
    ∀ {url : Url}, Built url → ∃ query, url = sampleUrl query := by
  let _ := Crates.page
  intro url h
  induction h with
  | @registered uri url h =>
    obtain ⟨u, hu, h⟩ := Option.bind_eq_some_iff.mp h
    split_ifs at h
    exact Option.some.inj h ▸ pageParse_eq_some hu
  | clearQuery h ih =>
    obtain ⟨query, rfl⟩ := ih
    exact ⟨none, rfl⟩
  | appendPair h name value ih =>
    obtain ⟨query, rfl⟩ := ih
    exact ⟨_, rfl⟩

omit [Crates] in
theorem Crates.page_printsBack : letI := Crates.page
    PrintsBack := by
  let _ := Crates.page
  intro url h
  obtain ⟨query, rfl⟩ := Crates.page_built h
  exact pageParse_append query

/-- One service, registered with this address. -/
def registeredAt (uri : String) : String → Option RegisteredService := fun serviceId =>
  if serviceId = "portal" then
    some ⟨true, uri, uri,
      (bytes32 0x2bb80d537b1da3e38bd30361aa855686bde0eacd7162fef6a25fe97bf527a25b).toList⟩
  else none

/-- The callback of the first login. -/
def sampleCallback : CallbackQuery := ⟨"code", referenceValue (bytes32 1)⟩

/-- The answer of that callback, with this location. -/
def sampleReturn (location : String) : HttpResponse :=
  ⟨302, some location, [⟨authSessionCookieName, referenceValue (bytes32 2), true, none⟩], .empty⟩

/-- The page, with the code of these bytes and the state of the sample. -/
def sampleLocation (query : Option String) (n : ℕ) : String :=
  "https://portal.example/callback?" ++ query.elim "" (· ++ "&") ++ "code=" ++
    referenceValue (bytes32 n) ++ "&state=state"

/-- The handoff of the sample run, issued at this time. -/
def sampleHandoff (now : UInt64) : AuthenticationHandoff :=
  ⟨"portal", 1, referenceValueLookup (referenceValue (bytes32 2)), sampleChallenge, 100, now,
    now + 120, .unused⟩

/-- The login of thread 2 issued a handoff, and the callback of thread 1 created one. -/
def SampleRun (query : Option String) (tr : List ServiceLabel) (s : ServicePool) : Prop :=
  s.result 2 sessionLogin = some (.found (sampleLocation query 4)) ∧
    s.result 1 (.googleAuthCallback sampleCallback) =
      some (sampleReturn (sampleLocation none 3)) ∧
    Label.sent 2 sessionLogin (.issue (referenceValueLookup (referenceValue (bytes32 2)))
      (referenceValueLookup (referenceValue (bytes32 4))) (sampleHandoff 150)) (.ok [.int 0]) ∈ tr ∧
    Label.sent 1 (.googleAuthCallback sampleCallback)
      (.create (referenceValueLookup (referenceValue (bytes32 2))) ⟨1, 100, 100, 28900⟩
        (referenceValueLookup (referenceValue (bytes32 3))) (sampleHandoff 100)) (.ok [.int 0]) ∈ tr

instance (query : Option String) (tr : List ServiceLabel) (s : ServicePool) :
    Decidable (SampleRun query tr s) := inferInstanceAs (Decidable (_ ∧ _ ∧ _ ∧ _))

theorem SampleRun.login {query : Option String} (hx : SampleRun query tr s) :
    s.threads 2 = some ⟨sessionLogin, .done (.found (sampleLocation query 4))⟩ ∧ HandsOver tr 2 :=
  ⟨Pool.threads_of_result hx.1, _, hx.2.2.1, rfl, rfl, trivial⟩

theorem SampleRun.callback {query : Option String} (hx : SampleRun query tr s) :
    s.threads 1 = some ⟨.googleAuthCallback sampleCallback, .done
      (sampleReturn (sampleLocation none 3))⟩ ∧ HandsOver tr 1 :=
  ⟨Pool.threads_of_result hx.2.1, _, hx.2.2.2, rfl, rfl, trivial⟩

omit [Crates] in
/-- Both ways back from an address without a query. -/
theorem redirects_agree_sample : letI := Crates.page
    ∃ tr s,
      ServiceRun ⟨"", ""⟩ (World.empty (registeredAt "https://portal.example/callback")) tr s ∧
      SampleRun none tr s ∧
      ∃ (tx : ExternalAuthTransaction) (uri' code' location' : String) (url' : Url),
        validCallbackUrl uri' = some url' ∧
        Returned tr 1 (sampleReturn (sampleLocation none 3)) tx.serviceId uri' code' location' ∧
        ReturnsOnly url' code' tx.serviceState location' := by
  let _ := Crates.page
  obtain ⟨tr, s, h, hx⟩ := exists_run_of_play machine (Request.run ⟨"", ""⟩)
    (Pool.init (World.empty (registeredAt "https://portal.example/callback")))
    (firstLogin ++ secondLogin 150 ++ issueChoices) (fun x => SampleRun none x.1 x.2)
    (by decide +kernel)
  have hl := SampleRun.login hx
  have hc := SampleRun.callback hx
  obtain ⟨tx, uri, uri', url, url', code, code', location, location', hurl, hurl', hr, hr', hcl, -,
    ho, -⟩ := redirects_agree Crates.page_printsBack h
      hl.1 hl.2 h hc.1 hc.2
  exact ⟨tr, s, h, hx, tx, uri', code', location', url', hurl', hr', ho⟩

omit [Crates] in
/-- With a query in the registered address, a login returns it besides code and state, and a
callback does not. -/
theorem login_returns_query : letI := Crates.page
    ∃ tr s url, ServiceRun ⟨"", ""⟩
        (World.empty (registeredAt "https://portal.example/callback?x=1")) tr s ∧
      SampleRun (some "x=1") tr s ∧ PrintsBack ∧
      validCallbackUrl "https://portal.example/callback?x=1" = some url ∧
      ¬ReturnsOnly url (referenceValue (bytes32 4)) "state" (sampleLocation (some "x=1") 4) ∧
      ReturnsOnly url (referenceValue (bytes32 3)) "state" (sampleLocation none 3) := by
  let _ := Crates.page
  obtain ⟨tr, s, h, hx⟩ := exists_run_of_play machine (Request.run ⟨"", ""⟩)
    (Pool.init (World.empty (registeredAt "https://portal.example/callback?x=1")))
    (firstLogin ++ secondLogin 150 ++ issueChoices) (fun x => SampleRun (some "x=1") x.1 x.2)
    (by decide +kernel)
  have hurl : validCallbackUrl "https://portal.example/callback?x=1" =
      some (sampleUrl (some "x=1")) := by decide +kernel
  have hl : sampleLocation (some "x=1") 4 = Crates.urlToString
      ((sampleUrl (some "x=1")).withCode (referenceValue (bytes32 4)) "state") := by decide +kernel
  have hc : sampleLocation none 3 = Crates.urlToString
      ((sampleUrl (some "x=1")).clearQuery.withCode (referenceValue (bytes32 3)) "state") := by
    decide +kernel
  refine ⟨tr, s, _, h, hx, Crates.page_printsBack, hurl, ?_, ?_⟩
  · rw [hl, returnsOnly_withCode Crates.page_printsBack (.registered hurl)]
    decide +kernel
  · rw [hc]
    exact returnsOnly_clearQuery Crates.page_printsBack (.registered hurl)

end Service

end AuthFoundation
