import AuthFoundation.Content
import AuthFoundation.Identity

set_option autoImplicit false

/-!
# Disabled users and services

The flags are rows of PostgreSQL; sessions and handoffs are in Redis.

* `UserDisabled`, `ServiceDisabled`: flags that are off; nothing but a `Move` switches them on.
* `Sent.user`, `Sent.service`: for whom a command creates a record, or exchanges one.
* **`disabled_user`**, **`disabled_service`**: what requests that begin later cannot do.
* `disabled_user_exchange`: what they still can.
-/

namespace AuthFoundation

open Text Redis Token Interleave

/-! ## Flags -/

namespace Database

variable {db db' : Database} {i : ℕ} {u : Int32} {serviceId : String}

/-- The user exists and is disabled. -/
def UserDisabled (db : Database) (u : Int32) : Prop := db.internalUsers u = some false

/-- The service is not registered, or disabled. -/
def ServiceDisabled (db : Database) (serviceId : String) : Prop :=
  ∀ row, db.registeredWebServices serviceId = some row → row.isEnabled = false

/-- A committed user is not inserted by an open transaction. -/
theorem Fresh.not_pending (hf : Fresh db) (h : db.UserDisabled u) : u ∉ db.pending i := by
  intro hu
  cases h.symm.trans (hf.pending i u hu).2

theorem UserDisabled.finish (h : db.UserDisabled u) (hf : Fresh db) {tx : Transaction}
    (ht : db.transactions i = some tx) : (db.finish i tx).UserDisabled u := by
  unfold Database.finish
  split_ifs
  · exact h
  · have hu : u ∉ tx.users := pending_of_some ht ▸ hf.not_pending h
    show (if u ∈ tx.users then some true else db.internalUsers u) = some false
    rw [if_neg hu]
    exact h

/-- Statements keep users disabled. -/
theorem UserDisabled.effect (h : db.UserDisabled u) (hf : Fresh db) (he : Effect db i db') :
    db'.UserDisabled u := by
  cases he with
  | finish ht => exact h.finish hf ht
  | abort =>
    unfold abortStatement
    split <;> exact h
  | _ => exact h

/-- What happens without the service is the end of a transaction, or a change of a flag or of a
row. -/
theorem move_cases {m : Move} (hm : db.move m = some db') : (∃ j, Effect db j db') ∨
    (∃ v isEnabled, m = .setUserEnabled v isEnabled ∧ db' = { db with
      internalUsers := Function.update db.internalUsers v (some isEnabled) }) ∨
    ∃ id row, m = .setService id row ∧ db' = { db with
      registeredWebServices := Function.update db.registeredWebServices id row } := by
  cases m with
  | cancel j =>
    simp only [Database.move] at hm
    split at hm
    · cases hm
      exact .inl ⟨j, .close⟩
    · cases hm
  | resolve j =>
    simp only [Database.move] at hm
    split at hm
    · rename_i tx ht
      split_ifs at hm
      cases hm
      exact .inl ⟨j, .finish ht⟩
    · cases hm
  | setUserEnabled v isEnabled =>
    simp only [Database.move] at hm
    split at hm
    · cases hm
      exact .inr (.inl ⟨v, isEnabled, rfl, rfl⟩)
    · cases hm
  | setService id row =>
    cases hm
    exact .inr (.inr ⟨id, row, rfl, rfl⟩)

/-- Only enabling a user ends it. -/
theorem UserDisabled.move (h : db.UserDisabled u) (hf : Fresh db) {m : Move}
    (hm : db.move m = some db') (hne : m ≠ .setUserEnabled u true) : db'.UserDisabled u := by
  obtain ⟨j, he⟩ | ⟨v, isEnabled, rfl, rfl⟩ | ⟨id, row, rfl, rfl⟩ := move_cases hm
  · exact h.effect hf he
  · by_cases hv : u = v
    · subst hv
      cases isEnabled with
      | true => exact absurd rfl hne
      | false => exact Function.update_self ..
    · exact (Function.update_of_ne hv ..).trans h
  · exact h

theorem ServiceDisabled.effect (h : db.ServiceDisabled serviceId) (he : Effect db i db') :
    db'.ServiceDisabled serviceId := by
  cases he with
  | finish ht =>
    unfold Database.finish
    split_ifs <;> exact h
  | abort =>
    unfold abortStatement
    split <;> exact h
  | _ => exact h

/-- Only an enabled row ends it. -/
theorem ServiceDisabled.move (h : db.ServiceDisabled serviceId) {m : Move}
    (hm : db.move m = some db')
    (hne : ∀ row, m = .setService serviceId (some row) → row.isEnabled = false) :
    db'.ServiceDisabled serviceId := by
  obtain ⟨j, he⟩ | ⟨v, isEnabled, rfl, rfl⟩ | ⟨id, row, rfl, rfl⟩ := move_cases hm
  · exact h.effect he
  · exact h
  · intro row' hr
    by_cases hs : serviceId = id
    · subst hs
      obtain rfl := (Function.update_self ..).symm.trans hr
      exact hne row' rfl
    · exact h row' ((Function.update_of_ne hs ..).symm.trans hr)

end Database

/-! ## Flags in a run -/

section Runs

open Database

variable [Crates] {Req : Type} {Res : Req → Type} {prog : ∀ q, Service (Res q)} {i : ℕ} {q : Req}
  {u : Int32} {serviceId : String} {tr : List (Label Reply Move Req)} {l : Label Reply Move Req}
  {s t : Pool World Reply Res}

/-- A step of the service as a step of the tables. -/
theorem Step.database (h : Step machine prog s l t) :
    (∃ j, Effect s.world.database j t.world.database) ∨
      ∃ m, l = .env (.database m) ∧ s.world.database.move m = some t.world.database := by
  cases h with
  | start => exact .inl ⟨0, .same⟩
  | @op j q o k a r w hi he =>
    refine .inl ⟨j, ?_⟩
    cases o with
    | sql st =>
      cases a with
      | ok =>
        obtain ⟨x, hx, e⟩ := Option.map_eq_some_iff.mp he
        cases e
        exact exec_effect hx
      | fail =>
        cases he
        exact execFail_effect st
      | _ => cases he
    | localState c =>
      cases a with
      | draws draws =>
        obtain ⟨x, -, e⟩ := Option.map_eq_some_iff.mp he
        cases e
        exact .same
      | _ => cases he
    | _ => cases a <;> cases he <;> exact .same
  | @env e w he =>
    cases e with
    | tick n =>
      cases he
      exact .inl ⟨0, .same⟩
    | expire k =>
      simp only [machine, World.move] at he
      split at he
      · split_ifs at he
        cases he
        exact .inl ⟨0, .same⟩
      · cases he
    | database m =>
      obtain ⟨x, hx, e⟩ := Option.map_eq_some_iff.mp he
      cases e
      exact .inr ⟨m, rfl, hx⟩

/-- The rows of a statement that was answered. -/
theorem Step.rows {st : Statement} {rows : st.Rows}
    (h : Step machine prog s (.op i q (.sql st) (.ok rows)) t) :
    s.world.database.exec i st = some (.ok rows, t.world.database) := by
  cases h with
  | @op _ _ _ k a _ w hi he =>
    cases a with
    | ok =>
      obtain ⟨x, hx, e⟩ := Option.map_eq_some_iff.mp he
      obtain ⟨hr, rfl⟩ := Prod.mk.inj e
      rw [hx]
      exact congrArg some (Prod.ext hr rfl)
    | fail => cases he
    | _ => cases he

theorem Run.fresh (h : Run machine prog s tr t) (hf : Database.Fresh s.world.database) :
    Database.Fresh t.world.database := by
  induction h with
  | nil => exact hf
  | snoc _ hs ih =>
    obtain ⟨j, he⟩ | ⟨m, -, hm⟩ := Step.database hs
    · exact ih.effect he
    · exact ih.move hm

/-- A disabled user stays disabled. -/
theorem Run.userDisabled (h : Run machine prog s tr t) (hf : Database.Fresh s.world.database)
    (hd : s.world.database.UserDisabled u) (hno : .env (.database (.setUserEnabled u true)) ∉ tr) :
    t.world.database.UserDisabled u := by
  induction h with
  | nil => exact hd
  | snoc hr hs ih =>
    have hd := ih fun hl => hno (List.mem_append_left _ hl)
    have hf := Run.fresh hr hf
    obtain ⟨j, he⟩ | ⟨m, rfl, hm⟩ := Step.database hs
    · exact hd.effect hf he
    · refine hd.move hf hm fun e => hno ?_
      rw [e]
      exact List.mem_append_right _ (List.mem_singleton_self _)

/-- A disabled service stays disabled. -/
theorem Run.serviceDisabled (h : Run machine prog s tr t)
    (hd : s.world.database.ServiceDisabled serviceId)
    (hno : ∀ row, .env (.database (.setService serviceId (some row))) ∈ tr →
      row.isEnabled = false) : t.world.database.ServiceDisabled serviceId := by
  induction h with
  | nil => exact hd
  | snoc hr hs ih =>
    have hd := ih fun row hl => hno row (List.mem_append_left _ hl)
    obtain ⟨j, he⟩ | ⟨m, rfl, hm⟩ := Step.database hs
    · exact hd.effect he
    · refine hd.move hm fun row e => hno row ?_
      rw [e]
      exact List.mem_append_right _ (List.mem_singleton_self _)

/-! ## What was observed -/

/-- **Nobody finds a disabled user enabled**, and no new user is a disabled one. -/
theorem not_enabledUser (h : Run machine prog s tr t) (hf : Database.Fresh s.world.database)
    (hd : s.world.database.UserDisabled u)
    (hno : .env (.database (.setUserEnabled u true)) ∉ tr) : ¬EnabledUser (history i tr) u := by
  have hrows : ∀ {st : Statement} {rows : st.Rows},
      Observed (history i tr) (.sql st) (.ok rows) → ∃ db db' : Database, db.UserDisabled u ∧
        db.exec i st = some (.ok rows, db') := by
    intro st rows ho
    obtain ⟨q, hl⟩ := Interleave.mem_history.mp ho
    obtain ⟨tr₁, tr₂, rfl⟩ := List.append_of_mem hl
    obtain ⟨t₁, t₂, hr, hs, -⟩ := h.split_step
    exact ⟨_, _, Run.userDisabled hr hf hd fun hl => hno (List.mem_append_left _ hl),
      Step.rows hs⟩
  intro he
  cases he with
  | row ho =>
    obtain ⟨db, db', hu, hx⟩ := hrows ho
    simp only [Database.exec, show db.internalUsers u = some false from hu] at hx
    cases hx
  | identity provider subject ho =>
    obtain ⟨db, db', hu, hx⟩ := hrows ho
    have hm := Except.ok.inj (Prod.mk.inj (Option.some.inj hx)).1
    obtain ⟨u', -, e⟩ := Option.map_eq_some_iff.mp hm
    obtain ⟨rfl, hu'⟩ := Prod.mk.inj e
    cases hu.symm.trans hu'
  | new ho =>
    obtain ⟨db, db', hu, hx⟩ := hrows ho
    simp only [Database.exec] at hx
    split at hx
    · split_ifs at hx with hc
      cases hx
      exact hc (.inr (.inr (by rw [show db.internalUsers u = some false from hu]; simp)))
    · cases hx

/-- **Nobody finds a disabled service enabled.** -/
theorem not_enabledService (h : Run machine prog s tr t)
    (hd : s.world.database.ServiceDisabled serviceId)
    (hno : ∀ row, .env (.database (.setService serviceId (some row))) ∈ tr →
      row.isEnabled = false) : ¬EnabledService (history i tr) serviceId := by
  have hrows : ∀ {st : Statement} {rows : st.Rows},
      Observed (history i tr) (.sql st) (.ok rows) →
        ∃ db db' : Database, db.ServiceDisabled serviceId ∧
          db.exec i st = some (.ok rows, db') := by
    intro st rows ho
    obtain ⟨q, hl⟩ := Interleave.mem_history.mp ho
    obtain ⟨tr₁, tr₂, rfl⟩ := List.append_of_mem hl
    obtain ⟨t₁, t₂, hr, hs, -⟩ := h.split_step
    exact ⟨_, _, Run.serviceDisabled hr hd fun row hl => hno row (List.mem_append_left _ hl),
      Step.rows hs⟩
  intro he
  cases he with
  | login uri ho =>
    obtain ⟨db, db', hs, hx⟩ := hrows ho
    have hm := Except.ok.inj (Prod.mk.inj (Option.some.inj hx)).1
    obtain ⟨row, hr, e⟩ := Option.map_eq_some_iff.mp hm
    cases (hs row hr).symm.trans (Prod.mk.inj e).1
  | logout uri ho =>
    obtain ⟨db, db', hs, hx⟩ := hrows ho
    have hm := Except.ok.inj (Prod.mk.inj (Option.some.inj hx)).1
    obtain ⟨row, hr, e⟩ := Option.map_eq_some_iff.mp hm
    cases (hs row hr).symm.trans (Prod.mk.inj e).1
  | secret id login logout digest ho =>
    obtain ⟨db, db', hs, hx⟩ := hrows ho
    have hm := Except.ok.inj (Prod.mk.inj (Option.some.inj hx)).1
    obtain ⟨row, hr, e⟩ := Option.map_eq_some_iff.mp hm
    cases (hs row hr).symm.trans (Prod.mk.inj (Prod.mk.inj e).2).1

end Runs

/-! ## What the service sends -/

/-- The user for whom a command creates a session or a handoff. -/
def Sent.user : Sent → Option Int32
  | issue _ _ record => some record.internalUserId
  | create _ _ _ record => some record.internalUserId
  | _ => none

/-- The service for which a command creates a record or exchanges a handoff. -/
def Sent.service : Sent → Option String
  | writeExternal _ state => some state.serviceId
  | writeLogout _ state => some state.serviceId
  | issue _ _ record => some record.serviceId
  | create _ _ _ record => some record.serviceId
  | exchange _ serviceId _ _ => some serviceId
  | _ => none

section Service

variable [Crates] {googleConfig : GoogleAuthorizationConfig}
  {services : String → Option RegisteredService} {tr₁ tr₂ : List ServiceLabel}
  {s t : ServicePool} {refs : List String} {H : History Reply} {x : Sent} {u : Int32}
  {serviceId : String}

theorem Sent.Lawful.enabledUser (h : x.Lawful refs H) (hu : x.user = some u) :
    EnabledUser H u := by
  cases x with
  | issue session handoff record =>
    cases hu
    obtain ⟨-, -, -, -, -, -, -, hu, -⟩ := h
    exact hu
  | create session state handoff record =>
    cases hu
    obtain ⟨-, -, -, -, -, -, -, -, -, -, -, -, hu, -⟩ := h
    exact hu
  | _ => cases hu

theorem Sent.Lawful.enabledService (h : x.Lawful refs H) (hs : x.service = some serviceId) :
    EnabledService H serviceId := by
  cases x with
  | writeExternal lookup state =>
    cases hs
    obtain ⟨-, -, -, -, hs⟩ := h
    exact hs
  | writeLogout lookup state =>
    cases hs
    obtain ⟨-, -, -, -, -, hs⟩ := h
    exact .logout _ hs
  | issue session handoff record =>
    cases hs
    obtain ⟨-, -, -, -, -, -, -, -, hs⟩ := h
    exact hs
  | create session state handoff record =>
    cases hs
    obtain ⟨-, -, -, -, -, -, -, -, -, -, -, -, -, hs⟩ := h
    exact hs
  | exchange handoff id challenge session =>
    cases hs
    obtain ⟨-, -, hs⟩ := h
    exact hs
  | _ => cases hs

/-- A thread that has not started has done nothing. -/
theorem history_of_not_started (h₁ : ServiceRun googleConfig (World.empty services) tr₁ t) {i : ℕ}
    (hi : t.threads i = none) : history i (tr₁ ++ tr₂) = history i tr₂ := by
  have hf := Run.follows h₁ i
  rw [hi] at hf
  rw [history_append, history_of_client_ne hf, List.nil_append]

/-- What a thread sends that starts later is lawful by what it has observed since. -/
theorem ServiceRun.sent_later (h₁ : ServiceRun googleConfig (World.empty services) tr₁ t)
    (h₂ : Interleave.Run machine (Request.run googleConfig) t tr₂ s) {i : ℕ} {q : Request}
    {x : Sent} {r : Reply (.redis x.command)} (hi : t.threads i = none)
    (hl : Label.sent i q x r ∈ tr₂) :
    ∃ tr₃ tr₄ v, tr₂ = tr₃ ++ Label.sent i q x r :: tr₄ ∧
      Interleave.Run machine (Request.run googleConfig) t tr₃ v ∧
      x.Lawful q.references (history i tr₃) := by
  obtain ⟨tr₃, tr₄, rfl⟩ := List.append_of_mem hl
  obtain ⟨v, -, h₃, -, -⟩ := Interleave.Run.split_step h₂
  have hlaw := ServiceRun.sent (h₁.append h₂) (List.append_assoc ..).symm
  rw [history_of_not_started h₁ hi] at hlaw
  exact ⟨tr₃, tr₄, v, rfl, h₃, hlaw⟩

/-- While a user stays disabled, nothing is sent for it by a thread that starts later. -/
theorem ServiceRun.unsent_user (h₁ : ServiceRun googleConfig (World.empty services) tr₁ t)
    (h₂ : Interleave.Run machine (Request.run googleConfig) t tr₂ s)
    (hd : t.world.database.UserDisabled u)
    (hno : .env (.database (.setUserEnabled u true)) ∉ tr₂) {i : ℕ} {q : Request}
    {x : Sent} {r : Reply (.redis x.command)} (hi : t.threads i = none)
    (hl : Label.sent i q x r ∈ tr₂) : x.user ≠ some u := by
  intro hu
  obtain ⟨tr₃, tr₄, v, rfl, h₃, hlaw⟩ := ServiceRun.sent_later h₁ h₂ hi hl
  exact not_enabledUser h₃ (Run.fresh h₁ (.empty services)) hd
    (fun hl => hno (List.mem_append_left _ hl)) (hlaw.enabledUser hu)

/-- **A disabled user gets nothing new**: while it stays disabled, no request that begins later even
tries to create a session or a handoff for it. -/
theorem disabled_user (h₁ : ServiceRun googleConfig (World.empty services) tr₁ t)
    (h₂ : Interleave.Run machine (Request.run googleConfig) t tr₂ s)
    (hd : t.world.database.UserDisabled u)
    (hno : .env (.database (.setUserEnabled u true)) ∉ tr₂) :
    ∀ i q x r, t.threads i = none → Label.sent i q x r ∈ tr₂ → x.user ≠ some u :=
  fun _ _ _ _ hi hl => ServiceRun.unsent_user h₁ h₂ hd hno hi hl

omit [Crates] in
theorem disabled_user_sample : letI := Crates.service
    ∃ tr₁ t tr₂ s, ServiceRun ⟨"", ""⟩ (World.empty sampleServices) tr₁ t ∧
      Interleave.Run machine (Request.run ⟨"", ""⟩) t tr₂ s ∧
      s.threads 2 = some ⟨sessionLogin, .done (.empty 403)⟩ ∧
      ∀ i q x r, t.threads i = none → Label.sent i q x r ∈ tr₂ → x.user ≠ some 1 := by
  let _ := Crates.service
  obtain ⟨tr, t, l, u, tr₂, s, h, hs, h₂, hd, hno, hi⟩ := exists_cut_of_play machine
    (Request.run ⟨"", ""⟩) (Pool.init (World.empty sampleServices)) firstLogin
    (.env (.database (.setUserEnabled 1 false))) (secondLogin 150 ++ [.step 2 .ok])
    (fun _ y z => y.2.world.database.internalUsers 1 = some false ∧
      .env (.database (.setUserEnabled 1 true)) ∉ z.1 ∧
      z.2.result 2 sessionLogin = some (.empty 403)) (by decide +kernel)
  exact ⟨_, u, tr₂, s, h.snoc hs, h₂, Pool.threads_of_result hi,
    disabled_user (h.snoc hs) h₂ hd hno⟩

omit [Crates] in
/-- Who creates a handoff creates it for its user. -/
theorem created_handoff {k : Bytes} {record : AuthenticationHandoff}
    (h : AuthFoundation.handoffs.creates x = some (k, record)) :
    x.user = some record.internalUserId ∧ (Op.redis x.command).creates 104 = true := by
  cases x with
  | issue =>
    obtain ⟨-, rfl⟩ := Prod.mk.inj (Option.some.inj h)
    exact ⟨rfl, rfl⟩
  | create =>
    obtain ⟨-, rfl⟩ := Prod.mk.inj (Option.some.inj h)
    exact ⟨rfl, rfl⟩
  | _ => cases h

/-- **An exchange that answers with a disabled user** is one of a handoff from before: the request
whose step created it had begun. -/
theorem disabled_user_exchange (h₁ : ServiceRun googleConfig (World.empty services) tr₁ t)
    (h₂ : Interleave.Run machine (Request.run googleConfig) t tr₂ s)
    (hd : t.world.database.UserDisabled u)
    (hno : .env (.database (.setUserEnabled u true)) ∉ tr₂)
    (hfresh : FreshReferences (tr₁ ++ tr₂)) {i : ℕ} {request : HttpRequest}
    {body : HandoffExchangeRequest} {a : UInt64} (hi : s.threads i = some
      ⟨.exchangeAuthHandoff request body,
        .done ⟨200, none, [], .handoffExchangeResponse u a⟩⟩) :
    ∃ j q x r record, t.threads j ≠ none ∧ Label.sent j q x r ∈ tr₁ ++ tr₂ ∧
      Created 104 (Label.sent j q x r) ∧ AuthFoundation.handoffs.creates x =
        some (Key.handoff (referenceValueLookup body.code), record) ∧
      record.internalUserId = u ∧ record.authenticatedAt = a := by
  have h := h₁.append h₂
  obtain ⟨-, -, -, record, -, -, ⟨ev, hev, hcr⟩, -, -, hu, ha⟩ :=
    ServiceRun.exchange_answered h hfresh hi
  obtain ⟨tr₃, tr₄, t', j, q, x, r, s', e, hcreation⟩ := ServiceRun.creator h hev hcr
  have hm : Label.sent j q x r ∈ tr₁ ++ tr₂ := by simp [e]
  obtain ⟨hx, hc⟩ := created_handoff hcreation.creates
  rw [hu] at hx
  refine ⟨j, q, x, r, record, fun hj => ?_, hm, ⟨hc, hcreation.committed⟩, hcreation.creates, hu,
    ha⟩
  rcases List.mem_append.mp hm with hm | hm
  · have hf := Run.follows h₁ j
    rw [hj] at hf
    exact hf _ hm rfl
  · exact ServiceRun.unsent_user h₁ h₂ hd hno hj hm hx

omit [Crates] in
theorem disabled_user_exchange_sample : letI := Crates.service
    ∃ tr₁ t tr₂ s, ServiceRun ⟨"", ""⟩ (World.empty sampleServices) tr₁ t ∧
      Interleave.Run machine (Request.run ⟨"", ""⟩) t tr₂ s ∧
      t.world.database.UserDisabled 1 ∧ t.threads 3 = none ∧
      ∃ j q x r record, t.threads j ≠ none ∧ Label.sent j q x r ∈ tr₁ ++ tr₂ ∧
        Created 104 (Label.sent j q x r) ∧ AuthFoundation.handoffs.creates x =
          some (Key.handoff (referenceValueLookup (referenceValue (bytes32 4))), record) ∧
        record.internalUserId = 1 ∧ record.authenticatedAt = 100 := by
  let _ := Crates.service
  obtain ⟨tr, t, l, u, tr₂, s, h, hs, h₂, hfresh, hd, hno, hn, hi⟩ := exists_cut_of_play machine
    (Request.run ⟨"", ""⟩) (Pool.init (World.empty sampleServices))
    (firstLogin ++ secondLogin 150 ++ issueChoices) (.env (.database (.setUserEnabled 1 false)))
    (exchangeEndpointChoices (referenceValue (bytes32 4)))
    (fun x y z => FreshReferences (x.1 ++ [y.1] ++ z.1) ∧
      y.2.world.database.internalUsers 1 = some false ∧
      .env (.database (.setUserEnabled 1 true)) ∉ z.1 ∧ (y.2.threads 3).isNone = true ∧
      z.2.result 3 (sampleExchange (referenceValue (bytes32 4))) =
        some ⟨200, none, [], .handoffExchangeResponse 1 100⟩) (by decide +kernel)
  have hdone : s.threads 3 = some ⟨.exchangeAuthHandoff ⟨[some "Basic cG9ydGFsOnNlY3JldA=="], []⟩
      ⟨referenceValue (bytes32 4), sampleVerifier⟩,
      .done ⟨200, none, [], .handoffExchangeResponse 1 100⟩⟩ := Pool.threads_of_result hi
  have hx := disabled_user_exchange (h.snoc hs) h₂ hd hno hfresh hdone
  exact ⟨_, u, tr₂, s, h.snoc hs, h₂, hd, Option.isNone_iff_eq_none.mp hn, hx⟩

/-- **A disabled service gets nothing new**: while it stays disabled or unregistered, no request
that begins later tries to create a record for it or to exchange its handoffs, and no exchange with
its credentials succeeds. -/
theorem disabled_service (h₁ : ServiceRun googleConfig (World.empty services) tr₁ t)
    (h₂ : Interleave.Run machine (Request.run googleConfig) t tr₂ s)
    (hd : t.world.database.ServiceDisabled serviceId)
    (hno : ∀ row, .env (.database (.setService serviceId (some row))) ∈ tr₂ →
      row.isEnabled = false) :
    (∀ i q x r, t.threads i = none → Label.sent i q x r ∈ tr₂ → x.service ≠ some serviceId) ∧
    ∀ i request body response secret, t.threads i = none →
      s.threads i = some ⟨.exchangeAuthHandoff request body, .done response⟩ →
      basicCredentials request = some (serviceId, secret) →
      ∃ status ∈ [400, 401, 403, 503], response = .empty status := by
  have h := h₁.append h₂
  refine ⟨fun i q x r hi hl hx => ?_, fun i request body response secret hi hdone hb => ?_⟩
  · obtain ⟨tr₃, tr₄, v, rfl, h₃, hlaw⟩ := ServiceRun.sent_later h₁ h₂ hi hl
    exact not_enabledService h₃ hd (fun row hl => hno row (List.mem_append_left _ hl))
      (hlaw.enabledService hx)
  · have hans := ServiceRun.answered h hdone
    cases hans with
    | refused hs => exact ⟨_, hs, rfl⟩
    | success hb' hc he ho hv =>
      cases hb.symm.trans hb'
      rw [history_of_not_started h₁ hi] at he
      exact absurd he (not_enabledService h₂ hd hno)

omit [Crates] in
theorem disabled_service_sample : letI := Crates.service
    ∃ tr₁ t tr₂ s, ServiceRun ⟨"", ""⟩ (World.empty sampleServices) tr₁ t ∧
      Interleave.Run machine (Request.run ⟨"", ""⟩) t tr₂ s ∧
      s.threads 3 = some ⟨sampleExchange (referenceValue (bytes32 4)), .done (.empty 401)⟩ ∧
      ∀ i q x r, t.threads i = none → Label.sent i q x r ∈ tr₂ → x.service ≠ some "portal" := by
  let _ := Crates.service
  obtain ⟨tr, t, l, u, tr₂, s, h, hs, h₂, hd, hno, hi⟩ := exists_cut_of_play machine
    (Request.run ⟨"", ""⟩) (Pool.init (World.empty sampleServices))
    (firstLogin ++ secondLogin 150 ++ issueChoices)
    (.env (.database (.setService "portal" none)))
    ((exchangeEndpointChoices (referenceValue (bytes32 4))).take 2)
    (fun _ y z => y.2.world.database.registeredWebServices "portal" = none ∧
      (∀ l ∈ z.1, l.client = some 3) ∧
      z.2.result 3 (sampleExchange (referenceValue (bytes32 4))) = some (.empty 401))
    (by decide +kernel)
  refine ⟨_, u, tr₂, s, h.snoc hs, h₂, Pool.threads_of_result hi, ?_⟩
  refine (disabled_service (h.snoc hs) h₂ (fun row hr => ?_) fun row hl => ?_).1
  · cases hd.symm.trans hr
  · cases hno _ hl

end Service

end AuthFoundation
