import AuthFoundation.Operations
import AuthFoundation.Vault

set_option autoImplicit false

/-!
# The commands of an exchange

* `ExchangeCalls`: the commands of one exchange with their replies and its result.
* `PreRead`: the script is run with the lookup that was read before.
* `exchangeAuthHandoff_calls`, `Request.preRead`: what the endpoint and the requests do.
-/

namespace AuthFoundation

open Text Redis Prog

section Handlers

variable [Crates]

/-! ## Before an exchange -/

/-- The operation is a command to Redis. -/
def Op.isRedis : Op → Bool
  | .redis _ => true
  | _ => false

/-- No command was sent to Redis. -/
def Unasked (H : History Reply) : Prop := ∀ e ∈ H, e.1.isRedis = false

omit [Crates] in
theorem Uses.noRedis {α : Type} {kinds : List OpKind} {p : Service α} (h : Uses kinds p)
    (hr : .record ∉ kinds) (hw : ∀ family, .write family ∉ kinds)
    (hs : ∀ script, .script script ∉ kinds) :
    p.Only fun o => o.isRedis = false := by
  refine h.mono fun o ho => ?_
  cases o with
  | redis c =>
    cases c with
    | eval script _ _ => exact absurd ho (hs script)
    | hset key _ => exact absurd ho (hw (family key))
    | expireat key _ => exact absurd ho (hw (family key))
    | _ => exact absurd ho hr
  | _ => rfl

/-! ## The commands of one exchange -/

section Calls

variable {handoff serviceId challenge : String} {H D : History Reply}

/-- `TYPE`, `HGET` and the script, each if the one before did not fail. -/
inductive ExchangeCalls (handoff serviceId challenge : String) (D : History Reply) :
    Except RedisStateError HandoffExchangeResult → Prop
  | type {r : Reply (.redis (Sent.typeHandoff handoff).command)} {e : RedisStateError}
      (hD : D = [⟨_, r⟩]) (he : typeReply r = .error e) :
    ExchangeCalls handoff serviceId challenge D (.error e)
  | lookup {r : Reply (.redis (Sent.typeHandoff handoff).command)}
      {v : Reply (.redis (Sent.readHandoffLookup handoff).command)} {e : RedisStateError}
      (hD : D = [⟨_, r⟩, ⟨_, v⟩]) (hr : typeReply r = .ok ()) (he : lookupReply v = .error e) :
    ExchangeCalls handoff serviceId challenge D (.error e)
  | script {r : Reply (.redis (Sent.typeHandoff handoff).command)}
      {v : Reply (.redis (Sent.readHandoffLookup handoff).command)} {session : String}
      {x : Reply (.redis (Sent.exchange handoff serviceId challenge session).command)}
      (hD : D = [⟨_, r⟩, ⟨_, v⟩, ⟨_, x⟩]) (hr : typeReply r = .ok ())
      (hv : lookupReply v = .ok session) :
    ExchangeCalls handoff serviceId challenge D (scriptReply exchangeReply x)

/-- **The script runs with the lookup that was read.** -/
def PreRead (H : History Reply) (o : Op) : Prop :=
  ∀ handoff serviceId challenge session,
    o = .redis (Sent.exchange handoff serviceId challenge session).command →
    ∃ v, Observed H (.redis (Sent.readHandoffLookup handoff).command) v ∧
      lookupReply v = .ok session

omit [Crates] in
theorem preRead_of_kind {o : Op} (h : o.kind ≠ .script .exchangeHandoff) : PreRead H o := by
  rintro handoff serviceId challenge session rfl
  exact absurd rfl h

omit [Crates] in
/-- Programs that do not run the script. -/
theorem Uses.preRead {α : Type} {kinds : List OpKind} {p : Service α} (h : Uses kinds p)
    (hn : .script .exchangeHandoff ∉ kinds) : p.Sat PreRead (fun _ _ => True) H :=
  (h.sat H).mono (fun _ _ ho => preRead_of_kind fun e => hn (e ▸ ho)) fun _ _ => id

omit [Crates] in
/-- A step before the exchange. -/
theorem Unasked.seq {α β : Type} {R : History Reply → β → Prop} {p : Service α}
    {f : α → Service β} (hH : Unasked H) (h : p.Only fun o => o.isRedis = false)
    (hf : ∀ a H, Unasked H → (f a).Sat PreRead R H) : (p >>= f).Sat PreRead R H := by
  have hp : p.Sat (fun H o => PreRead H o ∧ o.isRedis = false) (fun _ _ => True) H := by
    refine (h.sat H).mono (fun _ o ho => ⟨?_, ho⟩) fun _ _ => id
    rintro handoff serviceId challenge session rfl
    cases ho
  refine Sat.seq hp fun a D hD _ => hf a _ fun e he => ?_
  rcases List.mem_append.mp he with he | he
  · exact hH e he
  · exact hD e he

theorem exchangeHandoff_calls {reference : String} :
    (exchangeHandoff reference serviceId challenge).Sat PreRead (fun H' result =>
      ∃ D, H' = H ++ D ∧
        ExchangeCalls (referenceValueLookup reference) serviceId challenge D result) H := by
  refine ⟨preRead_of_kind nofun, fun r => ?_⟩
  cases r with
  | error e => exact ⟨_, rfl, .type rfl rfl⟩
  | ok keyType =>
  change Prog.Sat _ _ ((if keyType = "none" then _ else _) >>= fun _ => _) _
  split_ifs with hnone hhash
  · exact ⟨_, rfl, .type rfl (if_pos hnone)⟩
  · exact ⟨_, rfl, .type rfl ((if_neg hnone).trans (if_pos hhash))⟩
  have hr : typeReply (.ok keyType) = .ok () := (if_neg hnone).trans (if_neg hhash)
  refine ⟨preRead_of_kind nofun, fun v => ?_⟩
  dsimp only [Prog.pure_eq, Prog.bind]
  cases hl : lookupReply v with
  | error e => exact ⟨_, List.append_assoc .., .lookup rfl hr hl⟩
  | ok session =>
    have hkey : sessionKeyFromLookup session = .ok ("auth:session:" ++ session) :=
      if_neg (by rw [isLookup_of_lookupReply hl]; exact Bool.false_ne_true)
    dsimp only
    rw [hkey]
    refine ⟨fun handoff serviceId' challenge' session' he => ?_, fun x => ?_⟩
    · have hx : Sent.exchange (referenceValueLookup reference) serviceId challenge session =
          .exchange handoff serviceId' challenge' session' :=
        Sent.command_injective (Op.redis.inj he)
      cases hx
      exact ⟨v, observed_last, hl⟩
    · refine ⟨_, ?_, .script rfl hr hl⟩
      rw [List.append_assoc, List.append_assoc]
      rfl

/-! ## Requests -/

/-- What the endpoint answers to the result of an exchange. -/
def exchangeResponse : Except RedisStateError HandoffExchangeResult → HttpResponse
  | .ok result =>
    ⟨200, none, [], .handoffExchangeResponse result.internalUserId result.authenticatedAt⟩
  | .error .notFound => .empty 400
  | .error .expired => .empty 400
  | .error .alreadyUsed => .empty 400
  | .error .serviceMismatch => .empty 400
  | .error .challengeMismatch => .empty 400
  | .error _ => .empty 503

/-- How the endpoint gets to its answer: without asking Redis, or by one exchange. -/
inductive ExchangeHandled (request : HttpRequest) (body : HandoffExchangeRequest)
    (H : History Reply) : HttpResponse → Prop
  | rejected {status : ℕ} (h : status ∈ [400, 401, 403, 503]) (hH : Unasked H) :
    ExchangeHandled request body H (.empty status)
  | exchanged {serviceId secret challenge : String} {H₁ D : History Reply}
      {result : Except RedisStateError HandoffExchangeResult}
      (hs : basicCredentials request = some (serviceId, secret))
      (hc : pkceS256Challenge body.codeVerifier = .ok challenge) (hH : H = H₁ ++ D)
      (hu : Unasked H₁)
      (hD : ExchangeCalls (referenceValueLookup body.code) serviceId challenge D result) :
    ExchangeHandled request body H (exchangeResponse result)

theorem exchangeAuthHandoff_calls {request : HttpRequest} {body : HandoffExchangeRequest} :
    (exchangeAuthHandoff request body).Sat PreRead (ExchangeHandled request body) [] := by
  have h0 : Unasked [] := fun e he => nomatch he
  unfold exchangeAuthHandoff
  split_ifs
  · exact .rejected (by decide) h0
  cases hs : basicCredentials request with
  | none => exact .rejected (by decide) h0
  | some credentials =>
  obtain ⟨serviceId, secret⟩ := credentials
  dsimp only
  split_ifs
  · exact .rejected (by decide) h0
  have hauth : (authenticateService serviceId secret).Only fun o => o.isRedis = false :=
    uses_authenticateService (List.mem_singleton_self OpKind.select) |>.noRedis (by decide)
      (fun _ => by simp) fun _ => by simp
  refine h0.seq hauth fun r H h₁ => ?_
  split
  · exact .rejected (by decide) h₁
  · exact .rejected (by decide) h₁
  · exact .rejected (by decide) h₁
  · exact .rejected (by decide) h₁
  cases hc : pkceS256Challenge body.codeVerifier with
  | error e => exact .rejected (by decide) h₁
  | ok challenge =>
  refine h₁.seq (only_ask rfl) fun r H h₂ => ?_
  split
  · exact .rejected (by decide) h₂
  refine Sat.bind (exchangeHandoff_calls.mono (fun _ _ => id) ?_)
  rintro H' result ⟨D, rfl, hD⟩
  have ha : ExchangeHandled request body (H ++ D) (exchangeResponse result) :=
    .exchanged hs hc rfl h₂ hD
  unfold exchangeResponse at ha
  split at ha <;> simpa using ha

/-- **Every request runs the script with the lookup it read.** -/
theorem Request.preRead (googleConfig : GoogleAuthorizationConfig) (q : Request) :
    (q.run googleConfig).Sat PreRead (fun H response =>
      ∀ request body, q = .exchangeAuthHandoff request body →
        ExchangeHandled request body H response) [] := by
  cases q with
  | login request query =>
    exact (uses_login.preRead (by simp [Request.kinds])).mono (fun _ _ => id)
      fun _ _ _ _ _ h => by cases h
  | googleAuthCallback query =>
    exact (uses_googleAuthCallback.preRead (by simp [Request.kinds])).mono (fun _ _ => id)
      fun _ _ _ _ _ h => by cases h
  | exchangeAuthHandoff request body =>
    refine exchangeAuthHandoff_calls.mono (fun _ _ => id) fun H response h request' body' e => ?_
    cases e
    exact h
  | logoutGet request serviceId =>
    exact (uses_logoutGet.preRead (by simp [Request.kinds])).mono (fun _ _ => id)
      fun _ _ _ _ _ h => by cases h
  | logoutPost request form =>
    exact (uses_logoutPost.preRead (by simp [Request.kinds])).mono (fun _ _ => id)
      fun _ _ _ _ _ h => by cases h

end Calls

end Handlers

end AuthFoundation
