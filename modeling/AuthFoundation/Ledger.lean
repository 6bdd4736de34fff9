import AuthFoundation.Atomic
import AuthFoundation.Lib.Token

set_option autoImplicit false

/-!
# The life of a record

A key whose creation is attempted at most once is a one-time token, for each of the four families
of records: it is written with one record, its status changes at most once, and once it is gone it
stays away.

* `Family`: a family of records; `externals`, `sessions`, `handoffs`, `logouts`.
* `Family.Holds`: the content of a key in each phase of its token.
* `Family.Disciplined`: the commands of a run have the forms of the service and create the key
  at most once.
* `Family.Sound`, `Family.Sound.run`: each event moves the token one step, so each run moves it
  along its life.
-/

namespace AuthFoundation

open Text Redis Token

abbrev Event := Redis.Event ScriptName

abbrev RedisStep := Redis.Step ScriptName.source

abbrev RedisRun := Redis.Run ScriptName.source

/-- A family of records: how they are stored, what using one changes, when they expire, the key
and the record a command creates, the expiry a command sets, and the key a command uses. -/
structure Family (α : Type) where
  encode : α → List (String × String)
  mark : α → α
  expiresAt : α → UInt64
  creates : Sent → Option (Bytes × α)
  expires : Sent → Option (Bytes × UInt64)
  uses : Sent → Option Bytes

/-- A command that took effect: a plain write, or a script with code 0. -/
def Committed : Event → Prop
  | .command (.hset _ _) (.ok _) => True
  | .command (.eval _ _ _) (.ok (.int 0 :: _)) => True
  | _ => False

section Families

variable {α : Type} (F : Family α) (k : Bytes)

/-- The event tries to create the key. -/
def Family.Attempt (e : Event) : Prop :=
  ∃ x r a, e = .command (Sent.command x) r ∧ F.creates x = some (k, a)

/-- The event creates the key with the record `a`. -/
def Family.Creates (a : α) (e : Event) : Prop :=
  ∃ x r, e = .command (Sent.command x) r ∧ F.creates x = some (k, a) ∧ Committed e

/-- The event uses the record at the key. -/
def Family.Uses (e : Event) : Prop :=
  ∃ x r, e = .command (Sent.command x) r ∧ F.uses x = some k ∧ Committed e

/-- The content of a key in each phase. -/
def Family.Holds (s : State) : Phase α → Prop
  | .unborn => s.entries k = none
  | .live a => ∃ x, s.entries k = some ⟨.hash (recordHash (F.encode a)), x⟩ ∧
      (x = none ∨ x = some (F.expiresAt a).toNat)
  | .used a => ∃ x, s.entries k = some ⟨.hash (recordHash (F.encode (F.mark a))), x⟩ ∧
      (x = none ∨ x = some (F.expiresAt a).toNat)
  | .gone => s.entries k = none

/-- The content of a key with the event that created it. -/
def Family.Knows (E : List Event) (s : State) (p : Phase α) : Prop :=
  F.Holds k s p ∧ match p with
    | .unborn => True
    | .live a => ∃ e ∈ E, F.Creates k a e
    | .used a => ∃ e ∈ E, F.Creates k a e
    | .gone => ∃ e ∈ E, F.Attempt k e

/-- The command of an event has a form of the service. -/
def Typed (e : Event) : Prop := ∀ c r, e = .command c r → ∃ x : Sent, c = x.command

/-- An expiry that the event sets for the key is the one of the record. -/
def Family.Linked (a : α) (e : Event) : Prop :=
  ∀ x r t, e = .command (Sent.command x) r → F.expires x = some (k, t) → t = F.expiresAt a

/-- **The discipline of a run**: commands have the forms of the service, at most one of them tries
to create the key, and an expiry set for the key is the one of the record created before. -/
structure Family.Disciplined (E : List Event) : Prop where
  typed : ∀ e ∈ E, Typed e
  once : ∀ E₁ e E₂ e' E₃, E = E₁ ++ e :: E₂ ++ e' :: E₃ → F.Attempt k e → ¬F.Attempt k e'
  linked : ∀ E₁ e E₂, E = E₁ ++ e :: E₂ → ∀ e₀ ∈ E₁, ∀ a, F.Creates k a e₀ → F.Linked k a e

/-- **Soundness of a family**: each event moves the token of a key one step, and only a live
token can be used. -/
structure Family.Sound : Prop where
  step : ∀ {s s' : State} {e : Event} {p : Phase α}, RedisStep s e s' → Typed e →
    (p ≠ .unborn → ¬F.Attempt k e) → (∀ a, p = .live a ∨ p = .used a → F.Linked k a e) →
    F.Holds k s p → ∃ p', Next p p' ∧ F.Holds k s' p' ∧
      (p = .unborn → p' = .unborn ∨ ∃ a, p' = .live a ∧ F.Creates k a e)
  use : ∀ {s s' : State} {e : Event} {p : Phase α}, RedisStep s e s' → F.Uses k e →
    F.Holds k s p → ∃ a, p = .live a ∧ F.Holds k s' (.used a)

variable {F k} {E E₁ E₂ E₃ : List Event} {s s' : State} {p p' : Phase α} {e e' : Event}

theorem Family.Creates.attempt {a : α} (h : F.Creates k a e) : F.Attempt k e := by
  obtain ⟨x, r, he, hx, -⟩ := h
  exact ⟨x, r, a, he, hx⟩

theorem Family.Disciplined.prefix (h : F.Disciplined k (E₁ ++ E₂)) : F.Disciplined k E₁ where
  typed e he := h.typed e (List.mem_append_left _ he)
  once F₁ e F₂ e' F₃ hE := h.once F₁ e F₂ e' (F₃ ++ E₂) (by simp [hE])
  linked F₁ e F₂ hE := h.linked F₁ e (F₂ ++ E₂) (by simp [hE])

/-- A key that is not unborn was tried before. -/
theorem Family.Knows.attempt (h : F.Knows k E s p) (hp : p ≠ .unborn) : ∃ e ∈ E, F.Attempt k e := by
  obtain ⟨-, h⟩ := h
  cases p with
  | unborn => exact absurd rfl hp
  | live a =>
    obtain ⟨e, he, hc⟩ := h
    exact ⟨e, he, hc.attempt⟩
  | used a =>
    obtain ⟨e, he, hc⟩ := h
    exact ⟨e, he, hc.attempt⟩
  | gone => exact h

theorem Family.Knows.mono (h : F.Knows k E s p) (hn : Next p p')
    (hh : F.Holds k s' p') (hc : p = .unborn → p' = .unborn ∨ ∃ a, p' = .live a ∧ F.Creates k a e) :
    F.Knows k (E ++ [e]) s' p' := by
  refine ⟨hh, ?_⟩
  have hm : ∀ {P : Event → Prop}, (∃ e₀ ∈ E, P e₀) → ∃ e₀ ∈ E ++ [e], P e₀ :=
    fun ⟨e₀, he, hP⟩ => ⟨e₀, List.mem_append_left _ he, hP⟩
  cases hn with
  | stay =>
    obtain ⟨-, h⟩ := h
    cases p with
    | unborn => trivial
    | live a => exact hm h
    | used a => exact hm h
    | gone => exact hm h
  | create a =>
    obtain h0 | ⟨a', ha, hc⟩ := hc rfl
    · cases h0
    · cases ha
      exact ⟨e, by simp, hc⟩
  | use a => exact hm h.2
  | drop hp => exact hm (h.attempt hp)

/-- **Each event of a disciplined run** moves the token one step. -/
theorem Family.Sound.next (hF : F.Sound k) (hd : F.Disciplined k (E ++ [e]))
    (h : F.Knows k E s p) (hs : RedisStep s e s') :
    ∃ p', Next p p' ∧ F.Knows k (E ++ [e]) s' p' := by
  have hnew : p ≠ .unborn → ¬F.Attempt k e := fun hp ha => by
    obtain ⟨e₀, he₀, h₀⟩ := h.attempt hp
    obtain ⟨F₁, F₂, rfl⟩ := List.append_of_mem he₀
    exact hd.once F₁ e₀ F₂ e [] rfl h₀ ha
  have hl : ∀ a, p = .live a ∨ p = .used a → F.Linked k a e := fun a hp => by
    have : ∃ e₀ ∈ E, F.Creates k a e₀ := by
      obtain rfl | rfl := hp
      · exact h.2
      · exact h.2
    obtain ⟨e₀, he₀, hc⟩ := this
    exact hd.linked E e [] rfl e₀ he₀ a hc
  obtain ⟨p', hn, hh, hc⟩ := hF.step hs (hd.typed e (by simp)) hnew hl h.1
  exact ⟨p', hn, h.mono hn hh hc⟩

/-- **A disciplined run** moves the token along its life. -/
theorem Family.Sound.run (hF : F.Sound k) (hr : RedisRun s E₂ s')
    (hd : F.Disciplined k (E₁ ++ E₂)) (h : F.Knows k E₁ s p) :
    ∃ p', Reaches p p' ∧ F.Knows k (E₁ ++ E₂) s' p' := by
  induction hr with
  | nil => exact ⟨p, .refl, by rwa [List.append_nil]⟩
  | @snoc E t u e hr hs ih =>
    rw [← List.append_assoc] at hd ⊢
    obtain ⟨q, hpq, hq⟩ := ih hd.prefix
    obtain ⟨q', hn, hq'⟩ := hF.next hd hq hs
    exact ⟨q', hpq.tail hn, hq'⟩

/-- A run from the empty store. -/
theorem Family.Sound.run_empty (hF : F.Sound k) (hr : RedisRun .empty E s)
    (hd : F.Disciplined k E) : ∃ p, F.Knows k E s p := by
  obtain ⟨p, -, hp⟩ := hF.run (p := .unborn) hr (show F.Disciplined k ([] ++ E) from hd)
    ⟨rfl, trivial⟩
  exact ⟨p, hp⟩

/-- A record that is used was created before, and from then on it stays used or gone. -/
theorem Family.Sound.used (hF : F.Sound k) (hr : RedisRun .empty (E₁ ++ e :: E₂) s')
    (hd : F.Disciplined k (E₁ ++ e :: E₂)) (he : F.Uses k e) :
    ∃ a, (∃ e₀ ∈ E₁, F.Creates k a e₀) ∧ (F.Holds k s' (.used a) ∨ F.Holds k s' .gone) := by
  obtain ⟨t, t', h₁, hs, h₂⟩ := hr.split_step
  obtain ⟨p, hp⟩ := hF.run_empty h₁ hd.prefix
  obtain ⟨a, rfl, ha⟩ := hF.use hs he hp.1
  rw [List.append_cons] at hd
  obtain ⟨e₀, he₀, hc⟩ := hp.2
  obtain ⟨q, hq, hk⟩ := hF.run h₂ hd ⟨ha, e₀, List.mem_append_left _ he₀, hc⟩
  refine ⟨a, ⟨e₀, he₀, hc⟩, ?_⟩
  obtain rfl | rfl := reaches_used hq
  · exact .inl hk.1
  · exact .inr hk.1

/-- **A key that was tried and is absent stays absent.** -/
theorem Family.Sound.absent (hF : F.Sound k) (hr : RedisRun s E₂ s')
    (hd : F.Disciplined k (E₁ ++ E₂)) (he : e ∈ E₁) (ha : F.Attempt k e)
    (hn : s.entries k = none) : s'.entries k = none := by
  obtain ⟨p, hp, hk⟩ := hF.run (p := .gone) hr hd ⟨hn, e, he, ha⟩
  rw [reaches_gone hp] at hk
  exact hk.1

/-- **A record is used at most once.** -/
theorem Family.Sound.used_once (hF : F.Sound k) (hr : RedisRun .empty (E₁ ++ e :: E₂ ++ e' :: E₃) s)
    (hd : F.Disciplined k (E₁ ++ e :: E₂ ++ e' :: E₃)) (he : F.Uses k e) : ¬F.Uses k e' := by
  intro he'
  obtain ⟨t, t', h₁, hs, -⟩ := hr.split_step
  obtain ⟨a, -, ha | ha⟩ := hF.used h₁ hd.prefix he
  · obtain ⟨a', h, -⟩ := hF.use hs he' ha
    cases h
  · obtain ⟨a', h, -⟩ := hF.use hs he' ha
    cases h

/-! ## One command -/

theorem not_committed_error {c : Command} {err : Redis.Error} :
    ¬Committed (.command c (.error err)) := by
  cases c <;> exact id

/-- A command that took effect ran. -/
theorem Committed.script {c : Command} {r : Except Redis.Error c.Reply}
    (hc : Committed (.command c r)) (hs : RedisStep s (.command c r) s') :
    c.script ScriptName.source s = (r, s') := by
  cases hs with
  | command h => exact h
  | fail => exact absurd hc not_committed_error

/-- The keys a command may change. -/
def Sent.touched : Sent → List Bytes
  | writeExternal lookup _ => [Key.external lookup]
  | expireExternal lookup _ => [Key.external lookup]
  | writeLogout lookup _ => [Key.logout lookup]
  | expireLogout lookup _ => [Key.logout lookup]
  | readSession _ => []
  | dropSession lookup => [Key.session lookup]
  | claim lookup => [Key.external lookup]
  | issue session handoff _ => [Key.session session, Key.handoff handoff]
  | create session _ handoff _ => [Key.session session, Key.handoff handoff]
  | typeHandoff _ => []
  | readHandoffLookup _ => []
  | exchange handoff _ _ session => [Key.handoff handoff, Key.session session]
  | logout lookup session _ => [Key.logout lookup, Key.session session]

theorem Outcome.frame {keys : List Bytes} {Commit : List Value → State → Prop}
    {reply : List Value} (h : Outcome s keys Commit reply s') (hk : k ∉ keys)
    (hc : ∀ r, Commit r s' → s'.entries k = s.entries k) : s'.entries k = s.entries k := by
  cases h with
  | refused => rfl
  | expired hm => exact del_entries_of_ne s fun e => hk (e ▸ hm)
  | committed h => exact hc _ h

/-- **A command changes only the keys it names.** -/
theorem Sent.frame {x : Sent} {r : Except Redis.Error x.command.Reply}
    (h : x.command.script ScriptName.source s = (r, s')) (hk : k ∉ x.touched) :
    s'.entries k = s.entries k := by
  cases x with
  | writeExternal lookup state => exact HSET_frame h (List.ne_of_not_mem_cons hk)
  | writeLogout lookup state => exact HSET_frame h (List.ne_of_not_mem_cons hk)
  | expireExternal lookup t => exact EXPIREAT_frame h (List.ne_of_not_mem_cons hk)
  | expireLogout lookup t => exact EXPIREAT_frame h (List.ne_of_not_mem_cons hk)
  | readSession lookup =>
    obtain rfl : s' = s := (congrArg Prod.snd h).symm.trans hashAt_state
    rfl
  | typeHandoff handoff =>
    obtain rfl : s' = s := (congrArg Prod.snd h).symm.trans TYPE_state
    rfl
  | readHandoffLookup handoff =>
    obtain rfl : s' = s := (congrArg Prod.snd h).symm.trans HGET_state
    rfl
  | dropSession lookup =>
    cases h
    exact del_entries_of_ne s (List.ne_of_not_mem_cons hk)
  | claim lookup =>
    obtain ⟨reply, t, he, ho⟩ := claim_outcome s lookup
    cases he.symm.trans h
    exact ho.frame hk fun r ⟨_, _, hc⟩ =>
      hc.store ▸ set_entries_of_ne s _ (List.ne_of_not_mem_cons hk)
  | issue session handoff record =>
    obtain ⟨reply, t, he, ho⟩ := issue_outcome s session handoff record
    cases he.symm.trans h
    have hh := List.ne_of_not_mem_cons (List.not_mem_of_not_mem_cons hk)
    exact ho.frame hk fun r ⟨_, _, hc⟩ => hc.store ▸ set_entries_of_ne s _ hh
  | create session state handoff record =>
    obtain ⟨reply, t, he, ho⟩ := create_outcome s session state handoff record
    cases he.symm.trans h
    have hh := List.ne_of_not_mem_cons (List.not_mem_of_not_mem_cons hk)
    refine ho.frame hk fun r hc => ?_
    rw [hc.store, set_entries_of_ne _ _ hh, set_entries_of_ne _ _ (List.ne_of_not_mem_cons hk)]
  | exchange handoff serviceId challenge session =>
    obtain ⟨reply, t, he, ho⟩ := exchange_outcome s handoff serviceId challenge session
    cases he.symm.trans h
    exact ho.frame hk fun r ⟨_, _, _, _, hc⟩ =>
      hc.store ▸ set_entries_of_ne s _ (List.ne_of_not_mem_cons hk)
  | logout lookup session csrfLookup =>
    obtain ⟨reply, t, he, ho⟩ := logout_outcome s lookup session csrfLookup
    cases he.symm.trans h
    have hh := List.ne_of_not_mem_cons (List.not_mem_of_not_mem_cons hk)
    refine ho.frame hk fun r ⟨_, _, hc⟩ => ?_
    rw [hc.store, del_entries_of_ne _ hh, set_entries_of_ne _ _ (List.ne_of_not_mem_cons hk)]

theorem Outcome.time {keys : List Bytes} {Commit : List Value → State → Prop}
    {reply : List Value} (h : Outcome s keys Commit reply s')
    (hc : ∀ r, Commit r s' → s'.time = s.time) : s'.time = s.time := by
  cases h with
  | refused => rfl
  | expired => rfl
  | committed h => exact hc _ h

/-- A command takes no time. -/
theorem Sent.time {x : Sent} {r : Except Redis.Error x.command.Reply}
    (h : x.command.script ScriptName.source s = (r, s')) : s'.time = s.time := by
  have hset : ∀ {k l} {r : Except Redis.Error ℕ}, HSET k l s = (r, s') → s'.time = s.time := by
    intro k l r h
    obtain rfl | ⟨e, rfl⟩ := HSET_cases h
    · rfl
    · rfl
  have hexpire : ∀ {k} {t : UInt64} {r : Except Redis.Error ℕ},
      EXPIREAT k (utf8 (toString t)) s = (r, s') → s'.time = s.time := by
    intro k t r h
    obtain rfl | rfl | ⟨e, -, rfl⟩ := EXPIREAT_cases h
    · rfl
    · rfl
    · rfl
  cases x with
  | writeExternal => exact hset h
  | writeLogout => exact hset h
  | expireExternal => exact hexpire h
  | expireLogout => exact hexpire h
  | readSession lookup => exact congrArg State.time ((congrArg Prod.snd h).symm.trans hashAt_state)
  | typeHandoff handoff => exact congrArg State.time ((congrArg Prod.snd h).symm.trans TYPE_state)
  | readHandoffLookup handoff =>
    exact congrArg State.time ((congrArg Prod.snd h).symm.trans HGET_state)
  | dropSession lookup =>
    cases h
    rfl
  | claim lookup =>
    obtain ⟨reply, t, he, ho⟩ := claim_outcome s lookup
    cases he.symm.trans h
    exact ho.time fun r ⟨_, _, hc⟩ => hc.store ▸ rfl
  | issue session handoff record =>
    obtain ⟨reply, t, he, ho⟩ := issue_outcome s session handoff record
    cases he.symm.trans h
    exact ho.time fun r ⟨_, _, hc⟩ => hc.store ▸ rfl
  | create session state handoff record =>
    obtain ⟨reply, t, he, ho⟩ := create_outcome s session state handoff record
    cases he.symm.trans h
    exact ho.time fun r hc => hc.store ▸ rfl
  | exchange handoff serviceId challenge session =>
    obtain ⟨reply, t, he, ho⟩ := exchange_outcome s handoff serviceId challenge session
    cases he.symm.trans h
    exact ho.time fun r ⟨_, _, _, _, hc⟩ => hc.store ▸ rfl
  | logout lookup session csrfLookup =>
    obtain ⟨reply, t, he, ho⟩ := logout_outcome s lookup session csrfLookup
    cases he.symm.trans h
    exact ho.time fun r ⟨_, _, hc⟩ => hc.store ▸ rfl

/-- Time does not run backwards. -/
theorem time_le (h : RedisStep s e s') (ht : Typed e) : s.time ≤ s'.time := by
  cases h with
  | command h =>
    obtain ⟨x, rfl⟩ := ht _ _ rfl
    exact (Sent.time h).ge
  | fail => exact le_rfl
  | tick n => exact Nat.le_add_right ..
  | expire => exact le_rfl

/-! ## Committed scripts -/

section Committed

variable {session handoff serviceId challenge lookup csrfLookup : String}
  {record : AuthenticationHandoff} {state : CommonSession} {keys : List Bytes}
  {Commit : List Value → State → Prop} {values : List Value}

theorem Outcome.commit (h : Outcome s keys Commit (.int 0 :: values) s') :
    Commit (.int 0 :: values) s' := by
  generalize hr : Value.int 0 :: values = reply at h
  cases h with
  | refused h0 =>
    cases hr
    exact absurd rfl h0
  | expired => cases hr
  | committed h => exact h

theorem Committed.eval {script : ScriptName} {ks as : List Bytes}
    {r : Except Redis.Error (List Value)} {reply : List Value} {t : State}
    (hc : Committed (.command (.eval script ks as) r))
    (he : (Redis.Command.eval script ks as).script ScriptName.source s = (.ok reply, t))
    (h : (Redis.Command.eval script ks as).script ScriptName.source s = (r, s'))
    (ho : Outcome s keys Commit reply t) : ∃ reply, r = .ok reply ∧ Commit reply s' := by
  cases he.symm.trans h
  match reply, hc with
  | .int 0 :: values, _ => exact ⟨_, rfl, ho.commit⟩

theorem claim_committed {r : Except Redis.Error (List Value)}
    (h : (Sent.claim lookup).command.script ScriptName.source s = (r, s'))
    (hc : Committed (.command (Sent.claim lookup).command r)) : ∃ reply, r = .ok reply ∧
      ∃ g x, ClaimCommit s (Key.external lookup) g x reply s' := by
  obtain ⟨reply, t, he, ho⟩ := claim_outcome s lookup
  exact hc.eval he h ho

theorem issue_committed {r : Except Redis.Error (List Value)}
    (h : (Sent.issue session handoff record).command.script ScriptName.source s = (r, s'))
    (hc : Committed (.command (Sent.issue session handoff record).command r)) :
    ∃ reply, r = .ok reply ∧ ∃ g x, IssueCommit s session handoff record g x reply s' := by
  obtain ⟨reply, t, he, ho⟩ := issue_outcome s session handoff record
  exact hc.eval he h ho

theorem create_committed {r : Except Redis.Error (List Value)}
    (h : (Sent.create session state handoff record).command.script ScriptName.source s = (r, s'))
    (hc : Committed (.command (Sent.create session state handoff record).command r)) :
    ∃ reply, r = .ok reply ∧ CreateCommit s session state handoff record reply s' := by
  obtain ⟨reply, t, he, ho⟩ := create_outcome s session state handoff record
  exact hc.eval he h ho

theorem exchange_committed {r : Except Redis.Error (List Value)}
    (h : (Sent.exchange handoff serviceId challenge session).command.script ScriptName.source s =
      (r, s'))
    (hc : Committed (.command (Sent.exchange handoff serviceId challenge session).command r)) :
    ∃ reply, r = .ok reply ∧ ∃ g x g' y,
      ExchangeCommit s handoff serviceId challenge session g x g' y reply s' := by
  obtain ⟨reply, t, he, ho⟩ := exchange_outcome s handoff serviceId challenge session
  exact hc.eval he h ho

theorem logout_committed {r : Except Redis.Error (List Value)}
    (h : (Sent.logout lookup session csrfLookup).command.script ScriptName.source s = (r, s'))
    (hc : Committed (.command (Sent.logout lookup session csrfLookup).command r)) :
    ∃ reply, r = .ok reply ∧ ∃ g x, LogoutCommit s lookup session csrfLookup g x reply s' := by
  obtain ⟨reply, t, he, ho⟩ := logout_outcome s lookup session csrfLookup
  exact hc.eval he h ho

end Committed

/-! ## Moves of a token -/

/-- The event moves the token of the key one step. -/
def Family.Moves (F : Family α) (k : Bytes) (e : Event) (s' : State) (p : Phase α) : Prop :=
  ∃ p', Next p p' ∧ F.Holds k s' p' ∧
    (p = .unborn → p' = .unborn ∨ ∃ a, p' = .live a ∧ F.Creates k a e)

theorem Family.Holds.congr (h : F.Holds k s p) (hs : s'.entries k = s.entries k) :
    F.Holds k s' p := by
  cases p with
  | unborn => exact hs.trans h
  | live a =>
    obtain ⟨x, he, hx⟩ := h
    exact ⟨x, hs.trans he, hx⟩
  | used a =>
    obtain ⟨x, he, hx⟩ := h
    exact ⟨x, hs.trans he, hx⟩
  | gone => exact hs.trans h

/-- What is stored at a key is the record of its token. -/
theorem Family.Holds.stored (h : F.Holds k s p) {y : Entry} (hy : s.entries k = some y) :
    ∃ a, (p = .live a ∧ y.object = .hash (recordHash (F.encode a)) ∨
        p = .used a ∧ y.object = .hash (recordHash (F.encode (F.mark a)))) ∧
      (y.expireAt = none ∨ y.expireAt = some (F.expiresAt a).toNat) := by
  cases p with
  | unborn => cases hy.symm.trans h
  | live a =>
    obtain ⟨x, hx, he⟩ := h
    cases hy.symm.trans hx
    exact ⟨a, .inl ⟨rfl, rfl⟩, he⟩
  | used a =>
    obtain ⟨x, hx, he⟩ := h
    cases hy.symm.trans hx
    exact ⟨a, .inr ⟨rfl, rfl⟩, he⟩
  | gone => cases hy.symm.trans h

theorem Family.Holds.stay (h : F.Holds k s p) (hs : s'.entries k = s.entries k) :
    F.Moves k e s' p := ⟨p, .stay p, h.congr hs, .inl⟩

theorem Family.Holds.drop (h : F.Holds k s p) (hs : s'.entries k = none) : F.Moves k e s' p := by
  by_cases hp : p = .unborn
  · subst hp
    exact ⟨.unborn, .stay _, hs, .inl⟩
  · exact ⟨.gone, .drop hp, hs, fun h => absurd h hp⟩

/-- A script that does not commit moves no token, or drops one. -/
theorem Family.Holds.outcome (h : F.Holds k s p) {keys : List Bytes}
    {Commit : List Value → State → Prop} {reply : List Value} (ho : Outcome s keys Commit reply s')
    (hc : ∀ values, reply = .int 0 :: values → Commit reply s' → F.Moves k e s' p) :
    F.Moves k e s' p := by
  cases ho with
  | refused => exact h.stay rfl
  | @expired k' g x hm he hu hn =>
    by_cases hk : k = k'
    · subst hk
      exact h.drop (del_entries_self ..)
    · exact h.stay (del_entries_of_ne s hk)
  | committed ho => exact hc _ rfl ho

/-- An event that creates the key brings its token to life. -/
theorem Family.Creates.moves {a : α} {x : Option ℕ} (hc : F.Creates k a e)
    (hnew : p ≠ .unborn → ¬F.Attempt k e)
    (hs : s'.entries k = some ⟨.hash (recordHash (F.encode a)), x⟩)
    (hx : x = none ∨ x = some (F.expiresAt a).toNat) : F.Moves k e s' p := by
  obtain rfl : p = .unborn := by_contra fun hp => hnew hp hc.attempt
  exact ⟨.live a, .create a, ⟨x, hs, hx⟩, fun _ => .inr ⟨a, rfl, hc⟩⟩

/-- Only the record of a live token can be marked, and marking it uses it. -/
theorem Family.Holds.mark (h : F.Holds k s p) {g g' : Hash} {x : Option ℕ}
    (he : s.entries k = some ⟨.hash g, x⟩) (hs : s'.entries k = some ⟨.hash g', x⟩)
    (hused : ∀ a, g ≠ recordHash (F.encode (F.mark a)))
    (hlive : ∀ a, g = recordHash (F.encode a) → g' = recordHash (F.encode (F.mark a))) :
    ∃ a, p = .live a ∧ F.Holds k s' (.used a) := by
  cases p with
  | unborn => cases he.symm.trans h
  | live a =>
    obtain ⟨y, hy, hxy⟩ := h
    cases he.symm.trans hy
    exact ⟨a, rfl, x, hlive a rfl ▸ hs, hxy⟩
  | used a =>
    obtain ⟨y, hy, -⟩ := h
    cases he.symm.trans hy
    exact absurd rfl (hused a)
  | gone => cases he.symm.trans h

theorem Family.moves_of_use (h : ∃ a, p = .live a ∧ F.Holds k s' (.used a)) : F.Moves k e s' p := by
  obtain ⟨a, rfl, ha⟩ := h
  exact ⟨.used a, .use a, ha, nofun⟩

/-- A family is sound if its commands move the tokens of its keys and use live ones. -/
theorem Family.sound_of_command
    (h : ∀ {s s' : State} {x : Sent} {r : Except Redis.Error x.command.Reply} {p : Phase α},
      x.command.script ScriptName.source s = (r, s') →
      (p ≠ .unborn → ¬F.Attempt k (.command x.command r)) →
      (∀ a, p = .live a ∨ p = .used a → F.Linked k a (.command x.command r)) →
      F.Holds k s p → F.Moves k (.command x.command r) s' p)
    (huse : ∀ {s s' : State} {x : Sent} {r : Except Redis.Error x.command.Reply} {p : Phase α},
      x.command.script ScriptName.source s = (r, s') → F.uses x = some k →
      Committed (.command x.command r) → F.Holds k s p →
      ∃ a, p = .live a ∧ F.Holds k s' (.used a)) : F.Sound k where
  step hs ht hnew hl hp := by
    cases hs with
    | command hr =>
      obtain ⟨x, rfl⟩ := ht _ _ rfl
      exact h hr hnew hl hp
    | fail => exact hp.stay rfl
    | tick n => exact hp.stay rfl
    | @expire k' _ _ he =>
      by_cases hk : k = k'
      · subst hk
        exact hp.drop (del_entries_self ..)
      · exact hp.stay (del_entries_of_ne _ hk)
  use hs he hp := by
    obtain ⟨x, r, rfl, hx, hc⟩ := he
    cases hs with
    | command hr => exact huse hr hx hc hp
    | fail => exact absurd hc not_committed_error

/-- A command names no key of another family. -/
theorem Sent.untouched {x : Sent} (h : family k ∉ x.touched.map family) : k ∉ x.touched :=
  fun hk => h (List.mem_map_of_mem hk)

/-! ## Handoffs -/

def handoffs : Family AuthenticationHandoff where
  encode := encodeHandoff
  mark record := { record with status := .used }
  expiresAt := AuthenticationHandoff.expiresAt
  creates
    | .issue _ handoff record => some (Key.handoff handoff, record)
    | .create _ _ handoff record => some (Key.handoff handoff, record)
    | _ => none
  expires _ := none
  uses
    | .exchange handoff _ _ _ => some (Key.handoff handoff)
    | _ => none

theorem handoff_status (record : AuthenticationHandoff) :
    hget (recordHash (encodeHandoff record)) "status" =
      some (utf8 (usageStatusValue record.status)) :=
  lookup_recordHash (encodeHandoff_nodup record) "status"

/-- Marking the record of a handoff. -/
theorem handoff_mark (a : AuthenticationHandoff) :
    (recordHash (encodeHandoff a)).insert (utf8 "status") (utf8 "used") =
      recordHash (encodeHandoff { a with status := .used }) :=
  recordHash_insert (l := (encodeHandoff a).take 7) "status" _ "used"

theorem ExchangeCommit.holds {handoff serviceId challenge session : String} {g g' : Hash}
    {x y : Option ℕ} {reply : List Value} {p : Phase AuthenticationHandoff}
    (hc : ExchangeCommit s handoff serviceId challenge session g x g' y reply s')
    (hp : handoffs.Holds (Key.handoff handoff) s p) :
    ∃ a, p = .live a ∧ handoffs.Holds (Key.handoff handoff) s' (.used a) := by
  refine hp.mark hc.entry (hc.store ▸ set_entries_self ..) (fun a ha => ?_) fun a ha => ?_
  · subst ha
    have hs := Option.some.inj ((handoff_status _).symm.trans hc.status)
    exact absurd (utf8_injective hs) (by decide : "used" ≠ "unused")
  · rw [ha]
    exact handoff_mark a

theorem handoffs_sound (hk : family k = 104) : handoffs.Sound k := by
  refine Family.sound_of_command (fun {s s' x r p} h hnew _ hp => ?_)
    fun {s s' x r p} h hx hc hp => ?_
  · by_cases ht : k ∉ x.touched
    · exact hp.stay (Sent.frame h ht)
    cases x with
    | issue session handoff record =>
      obtain ⟨reply, t, he, ho⟩ := issue_outcome s session handoff record
      cases he.symm.trans h
      refine hp.outcome ho fun values hr ⟨g, x, hc⟩ => ?_
      subst hr
      by_cases hkk : k = Key.handoff handoff
      · have hcr : handoffs.Creates k record
            (.command (Sent.issue session handoff record).command (.ok (.int 0 :: values))) :=
          ⟨.issue session handoff record, _, rfl, by rw [hkk]; rfl, trivial⟩
        refine hcr.moves hnew (x := some record.expiresAt.toNat) ?_ (.inr rfl)
        rw [hc.store, hkk, set_entries_self]
        rfl
      · exact hp.stay (hc.store ▸ set_entries_of_ne s _ hkk)
    | create session state handoff record =>
      obtain ⟨reply, t, he, ho⟩ := create_outcome s session state handoff record
      cases he.symm.trans h
      refine hp.outcome ho fun values hr hc => ?_
      subst hr
      by_cases hkk : k = Key.handoff handoff
      · have hcr : handoffs.Creates k record (.command
            (Sent.create session state handoff record).command (.ok (.int 0 :: values))) :=
          ⟨.create session state handoff record, _, rfl, by rw [hkk]; rfl, trivial⟩
        refine hcr.moves hnew (x := some record.expiresAt.toNat) ?_ (.inr rfl)
        rw [hc.store, hkk, set_entries_self]
        rfl
      · refine hp.stay ?_
        rw [hc.store, set_entries_of_ne _ _ hkk,
          set_entries_of_ne _ _ (ne_of_family (by simp [hk]))]
    | exchange handoff serviceId challenge session =>
      obtain ⟨reply, t, he, ho⟩ := exchange_outcome s handoff serviceId challenge session
      cases he.symm.trans h
      refine hp.outcome ho fun values hr ⟨g, x, g', y, hc⟩ => ?_
      by_cases hkk : k = Key.handoff handoff
      · subst hkk
        exact Family.moves_of_use (hc.holds hp)
      · exact hp.stay (hc.store ▸ set_entries_of_ne s _ hkk)
    | _ => exact absurd (Sent.untouched (by simp [Sent.touched, hk])) ht
  · cases x with
    | exchange handoff serviceId challenge session =>
      cases hx
      obtain ⟨reply, -, g, x, g', y, hc⟩ := exchange_committed h hc
      exact hc.holds hp
    | _ => cases hx

/-! ## Sessions -/

def sessions : Family CommonSession where
  encode := encodeSession
  mark state := state
  expiresAt := CommonSession.expiresAt
  creates
    | .create session state _ _ => some (Key.session session, state)
    | _ => none
  expires _ := none
  uses _ := none

theorem sessions_sound (hk : family k = 115) : sessions.Sound k := by
  refine Family.sound_of_command (fun {s s' x r p} h hnew _ hp => ?_)
    fun {s s' x r p} h hx _ _ => nomatch hx
  by_cases ht : k ∉ x.touched
  · exact hp.stay (Sent.frame h ht)
  cases x with
  | dropSession lookup =>
    cases h
    by_cases hkk : k = Key.session lookup
    · subst hkk
      exact hp.drop (del_entries_self ..)
    · exact hp.stay (del_entries_of_ne s hkk)
  | issue session handoff record =>
    obtain ⟨reply, t, he, ho⟩ := issue_outcome s session handoff record
    cases he.symm.trans h
    refine hp.outcome ho fun values _ ⟨g, x, hc⟩ => hp.stay ?_
    rw [hc.store, set_entries_of_ne _ _ (ne_of_family (by simp [hk]))]
  | create session state handoff record =>
    obtain ⟨reply, t, he, ho⟩ := create_outcome s session state handoff record
    cases he.symm.trans h
    refine hp.outcome ho fun values hr hc => ?_
    subst hr
    have hne : k ≠ Key.handoff handoff := ne_of_family (by simp [hk])
    by_cases hkk : k = Key.session session
    · have hcr : sessions.Creates k state (.command
          (Sent.create session state handoff record).command (.ok (.int 0 :: values))) :=
        ⟨.create session state handoff record, _, rfl, by rw [hkk]; rfl, trivial⟩
      refine hcr.moves hnew (x := some state.expiresAt.toNat) ?_ (.inr rfl)
      rw [hc.store, set_entries_of_ne _ _ hne, hkk, set_entries_self]
      rfl
    · refine hp.stay ?_
      rw [hc.store, set_entries_of_ne _ _ hne, set_entries_of_ne _ _ hkk]
  | exchange handoff serviceId challenge session =>
    obtain ⟨reply, t, he, ho⟩ := exchange_outcome s handoff serviceId challenge session
    cases he.symm.trans h
    refine hp.outcome ho fun values _ ⟨g, x, g', y, hc⟩ => hp.stay ?_
    rw [hc.store, set_entries_of_ne _ _ (ne_of_family (by simp [hk]))]
  | logout lookup session csrfLookup =>
    obtain ⟨reply, t, he, ho⟩ := logout_outcome s lookup session csrfLookup
    cases he.symm.trans h
    refine hp.outcome ho fun values _ ⟨g, x, hc⟩ => ?_
    by_cases hkk : k = Key.session session
    · refine hp.drop ?_
      rw [hc.store, hkk, del_entries_self]
    · refine hp.stay ?_
      rw [hc.store, del_entries_of_ne _ hkk, set_entries_of_ne _ _ (ne_of_family (by simp [hk]))]
  | _ => exact absurd (Sent.untouched (by simp [Sent.touched, hk])) ht

/-! ## Records written in two commands -/

/-- The first write of a record that is written in two commands. -/
theorem Family.Holds.write (hp : F.Holds k s p) {key : Bytes} {a : α} {r : Except Redis.Error ℕ}
    (h : HSET key (fieldBytes (F.encode a)) s = (r, s')) (hk : k = key)
    (hne : F.encode a ≠ []) (hnew : p ≠ .unborn → ¬F.Attempt k e) (ha : F.Attempt k e)
    (hc : ∀ n, r = .ok n → F.Creates k a e) : F.Moves k e s' p := by
  obtain rfl : p = .unborn := by_contra fun hp => hnew hp ha
  subst hk
  obtain ⟨q, l, hl⟩ := List.exists_cons_of_ne_nil hne
  rw [hl] at h
  cases (HSET_new hp _ _).symm.trans h
  refine (hc _ rfl).moves hnew (x := none) ?_ (.inl rfl)
  rw [set_entries_self, recordHash, hl]
  rfl

/-- The second write sets the expiry of the record. -/
theorem Family.Holds.expire (hp : F.Holds k s p) {key : Bytes} {t : UInt64}
    {r : Except Redis.Error ℕ} (h : EXPIREAT key (utf8 (toString t)) s = (r, s'))
    (hl : ∀ a, p = .live a ∨ p = .used a → k = key → t = F.expiresAt a) :
    F.Moves k e s' p := by
  obtain rfl | rfl | ⟨y, hy, rfl⟩ := EXPIREAT_cases h
  · exact hp.stay rfl
  · by_cases hk : k = key
    · subst hk
      exact hp.drop (del_entries_self ..)
    · exact hp.stay (del_entries_of_ne s hk)
  · by_cases hk : k = key
    · subst hk
      cases p with
      | unborn => cases hy.symm.trans hp
      | live a =>
        obtain ⟨x, hx, -⟩ := hp
        cases hy.symm.trans hx
        exact ⟨.live a, .stay _, ⟨_, set_entries_self .., .inr (hl a (.inl rfl) rfl ▸ rfl)⟩, nofun⟩
      | used a =>
        obtain ⟨x, hx, -⟩ := hp
        cases hy.symm.trans hx
        exact ⟨.used a, .stay _, ⟨_, set_entries_self .., .inr (hl a (.inr rfl) rfl ▸ rfl)⟩, nofun⟩
      | gone => cases hy.symm.trans hp
    · exact hp.stay (set_entries_of_ne s _ hk)

/-! ## External transactions -/

def externals : Family ExternalAuthTransaction where
  encode := encodeExternal
  mark state := { state with status := .processing }
  expiresAt := ExternalAuthTransaction.expiresAt
  creates
    | .writeExternal lookup state => some (Key.external lookup, state)
    | _ => none
  expires
    | .expireExternal lookup expiresAt => some (Key.external lookup, expiresAt)
    | _ => none
  uses
    | .claim lookup => some (Key.external lookup)
    | _ => none

theorem external_status (state : ExternalAuthTransaction) :
    hget (recordHash (encodeExternal state)) "status" =
      some (utf8 (externalStatusValue state.status)) :=
  lookup_recordHash (encodeExternal_nodup state) "status"

theorem ClaimCommit.holds {k : Bytes} {g : Hash} {x : Option ℕ} {reply : List Value}
    {p : Phase ExternalAuthTransaction} (hc : ClaimCommit s k g x reply s')
    (hp : externals.Holds k s p) : ∃ a, p = .live a ∧ externals.Holds k s' (.used a) := by
  refine hp.mark hc.entry (hc.store ▸ set_entries_self ..) (fun a ha => ?_) fun a ha => ?_
  · subst ha
    have hs := Option.some.inj ((external_status _).symm.trans hc.status)
    exact absurd (utf8_injective hs) (by decide : "processing" ≠ "waiting")
  · rw [ha]
    exact recordHash_insert (l := (encodeExternal a).take 7) "status" _ "processing"

theorem externals_sound (hk : family k = 101) : externals.Sound k := by
  refine Family.sound_of_command (fun {s s' x r p} h hnew hl hp => ?_)
    fun {s s' x r p} h hx hc hp => ?_
  · by_cases ht : k ∉ x.touched
    · exact hp.stay (Sent.frame h ht)
    cases x with
    | writeExternal lookup state =>
      have hkk : k = Key.external lookup := by simpa [Sent.touched] using ht
      exact hp.write h hkk (List.cons_ne_nil _ _) hnew
        ⟨.writeExternal lookup state, r, _, rfl, by rw [hkk]; rfl⟩
        fun n hn => ⟨.writeExternal lookup state, r, rfl, by rw [hkk]; rfl, hn ▸ trivial⟩
    | expireExternal lookup expiresAt =>
      exact hp.expire h fun a ha hkk =>
        hl a ha (.expireExternal lookup expiresAt) r _ rfl (by rw [hkk]; rfl)
    | claim lookup =>
      obtain ⟨reply, t, he, ho⟩ := claim_outcome s lookup
      cases he.symm.trans h
      refine hp.outcome ho fun values hr ⟨g, x, hc⟩ => ?_
      obtain rfl : k = Key.external lookup := by simpa [Sent.touched] using ht
      exact Family.moves_of_use (hc.holds hp)
    | _ => exact absurd (Sent.untouched (by simp [Sent.touched, hk])) ht
  · cases x with
    | claim lookup =>
      cases hx
      obtain ⟨reply, -, g, x, hc⟩ := claim_committed h hc
      exact hc.holds hp
    | _ => cases hx

/-! ## Logout transactions -/

def logouts : Family CommonLogoutTransaction where
  encode := encodeLogout
  mark state := { state with status := .used }
  expiresAt := CommonLogoutTransaction.expiresAt
  creates
    | .writeLogout lookup state => some (Key.logout lookup, state)
    | _ => none
  expires
    | .expireLogout lookup expiresAt => some (Key.logout lookup, expiresAt)
    | _ => none
  uses
    | .logout lookup _ _ => some (Key.logout lookup)
    | _ => none

theorem logout_status (state : CommonLogoutTransaction) :
    hget (recordHash (encodeLogout state)) "status" =
      some (utf8 (usageStatusValue state.status)) :=
  lookup_recordHash (encodeLogout_nodup state) "status"

/-- Marking the record of a logout transaction. -/
theorem logout_mark (a : CommonLogoutTransaction) :
    (recordHash (encodeLogout a)).insert (utf8 "status") (utf8 "used") =
      recordHash (encodeLogout { a with status := .used }) :=
  recordHash_insert (l := (encodeLogout a).take 5) "status" _ "used"

theorem LogoutCommit.holds {lookup session csrfLookup : String} {g : Hash} {x : Option ℕ}
    {reply : List Value} {p : Phase CommonLogoutTransaction}
    (hc : LogoutCommit s lookup session csrfLookup g x reply s')
    (hp : logouts.Holds (Key.logout lookup) s p) :
    ∃ a, p = .live a ∧ logouts.Holds (Key.logout lookup) s' (.used a) := by
  have hne : Key.logout lookup ≠ Key.session session := ne_of_family (by simp)
  have hs : s'.entries (Key.logout lookup) = some ⟨.hash (g.insert "status" "used"), x⟩ := by
    rw [hc.store, del_entries_of_ne _ hne, set_entries_self]
  refine hp.mark hc.entry hs (fun a ha => ?_) fun a ha => ?_
  · subst ha
    have hs := Option.some.inj ((logout_status _).symm.trans hc.status)
    exact absurd (utf8_injective hs) (by decide : "used" ≠ "unused")
  · rw [ha]
    exact logout_mark a

theorem logouts_sound (hk : family k = 108) : logouts.Sound k := by
  refine Family.sound_of_command (fun {s s' x r p} h hnew hl hp => ?_)
    fun {s s' x r p} h hx hc hp => ?_
  · by_cases ht : k ∉ x.touched
    · exact hp.stay (Sent.frame h ht)
    cases x with
    | writeLogout lookup state =>
      have hkk : k = Key.logout lookup := by simpa [Sent.touched] using ht
      exact hp.write h hkk (List.cons_ne_nil _ _) hnew
        ⟨.writeLogout lookup state, r, _, rfl, by rw [hkk]; rfl⟩
        fun n hn => ⟨.writeLogout lookup state, r, rfl, by rw [hkk]; rfl, hn ▸ trivial⟩
    | expireLogout lookup expiresAt =>
      exact hp.expire h fun a ha hkk =>
        hl a ha (.expireLogout lookup expiresAt) r _ rfl (by rw [hkk]; rfl)
    | logout lookup session csrfLookup =>
      obtain ⟨reply, t, he, ho⟩ := logout_outcome s lookup session csrfLookup
      cases he.symm.trans h
      refine hp.outcome ho fun values hr ⟨g, x, hc⟩ => ?_
      have hne : k ≠ Key.session session := ne_of_family (by simp [hk])
      obtain rfl : k = Key.logout lookup := by
        by_contra hkk
        exact ht (by simp [Sent.touched, hkk, hne])
      exact Family.moves_of_use (hc.holds hp)
    | _ => exact absurd (Sent.untouched (by simp [Sent.touched, hk])) ht
  · cases x with
    | logout lookup session csrfLookup =>
      cases hx
      obtain ⟨reply, -, g, x, hc⟩ := logout_committed h hc
      exact hc.holds hp
    | _ => cases hx

end Families

end AuthFoundation
