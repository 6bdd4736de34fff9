import AuthFoundation.Lib.Insert
import AuthFoundation.OneShot

set_option autoImplicit false

/-!
# Cleanups in the background

Two plays of the portal, one with additional cleanups.

* `used`: the clock readings that the critical sections of a run use.
* `Fewer`: a state without some records that have expired at all readings still to be used.
* `Alike`: replies that differ in why a claim failed.
* `cleanup_unnoticed`: **additional cleanups change no response** if each is no later than the
  readings used after it.
* `cleanup_noticed`: a login that read the clock before a cleanup and claims after it.
-/

namespace AuthFoundation

namespace Portal

open Text Interleave

/-- The clock readings that critical sections use. -/
def used : PortalLabel → List UInt64
  | .op _ _ (.createLoginStart _ now) _ => [now]
  | .op _ _ (.claimLoginStart _ _ now) _ => [now]
  | .op _ _ (.createLocalSession _ _) (some (now, _)) => [now]
  | .op _ _ (.getLocalSession _) (some (now, _)) => [now]
  | .op _ _ (.logoutLocked _ _ _) (some (now, _)) => [now]
  | _ => []

/-- The record has expired at all the times. -/
def Stale {α : Type} (expiresAt : α → UInt64) (N : List UInt64) (m m' : Records α) : Prop :=
  ∀ k, m'.lookup k = m.lookup k ∨
    m'.lookup k = none ∧ ∃ r, m.lookup k = some r ∧ ∀ now ∈ N, expiresAt r ≤ now

/-- **The second state lacks some records** that have expired at all the times. -/
structure Fewer (N : List UInt64) (s s' : PortalLocalState) : Prop where
  startCapacity : s'.loginStartCapacity = s.loginStartCapacity
  sessionCapacity : s'.localSessionCapacity = s.localSessionCapacity
  starts : Stale LoginStart.expiresAt N s.loginStarts s'.loginStarts
  sessions : Stale LocalSession.expiresAt N s.localSessions s'.localSessions

section Stale

variable {α : Type} {expiresAt : α → UInt64} {N N' : List UInt64} {m m' : Records α} {k : String}
  {now : UInt64}

theorem Stale.refl (m : Records α) : Stale expiresAt N m m := fun _ => .inl rfl

theorem Stale.mono (h : Stale expiresAt N m m') (hN : ∀ now ∈ N', now ∈ N) :
    Stale expiresAt N' m m' := by
  intro k
  rcases h k with hk | ⟨hk, r, hr, hx⟩
  · exact .inl hk
  · exact .inr ⟨hk, r, hr, fun now hn => hx now (hN now hn)⟩

/-- A cleanup keeps the records that have not expired. -/
theorem Stale.retain (h : Stale expiresAt N m m') :
    Stale expiresAt N (m.retain fun r => now < expiresAt r)
      (m'.retain fun r => now < expiresAt r) := by
  intro k
  rw [lookup_retain, lookup_retain]
  rcases h k with hk | ⟨hk, r, hr, hx⟩
  · exact .inl (by rw [hk])
  · rw [hk, hr, Option.filter_none, Option.filter_some]
    split_ifs
    · exact .inr ⟨rfl, r, rfl, hx⟩
    · exact .inl rfl

/-- An additional cleanup removes records that have expired. -/
theorem Stale.insert (h : Stale expiresAt N m m') (ht : ∀ now' ∈ N, now ≤ now') :
    Stale expiresAt N m (m'.retain fun r => now < expiresAt r) := by
  intro k
  rw [lookup_retain]
  rcases h k with hk | ⟨hk, r, hr, hx⟩
  · rw [hk]
    cases hm : m.lookup k with
    | none => exact .inl rfl
    | some r =>
      rw [Option.filter_some]
      split_ifs with hn
      · exact .inl rfl
      · refine .inr ⟨rfl, r, rfl, fun now' hn' => ?_⟩
        rw [decide_eq_true_eq, UInt64.not_lt] at hn
        exact UInt64.le_trans hn (ht now' hn')
  · exact .inr ⟨by rw [hk, Option.filter_none], r, hr, hx⟩

/-- At a time of the list, both maps have the same records that have not expired. -/
theorem Stale.retain_eq (h : Stale expiresAt N m m') (hn : now ∈ N) :
    (m'.retain fun r => now < expiresAt r) = m.retain fun r => now < expiresAt r := by
  refine Finmap.ext_lookup fun k => ?_
  rw [lookup_retain, lookup_retain]
  rcases h k with hk | ⟨hk, r, hr, hx⟩
  · rw [hk]
  · have hle := UInt64.not_lt.mpr (hx now hn)
    rw [hk, hr, Option.filter_none, Option.filter_some, if_neg]
    simpa using hle

theorem Stale.erase (h : Stale expiresAt N m m') (k : String) :
    Stale expiresAt N (m.erase k) (m'.erase k) := by
  intro k'
  rw [lookup_erase_eq, lookup_erase_eq]
  split_ifs
  · exact .inl rfl
  · exact h k'

/-- Removing a record that is absent on the other side. -/
theorem Stale.erase_left (h : Stale expiresAt N m m') (hk : m'.lookup k = none) :
    Stale expiresAt N (m.erase k) m' := by
  intro k'
  rw [lookup_erase_eq]
  split_ifs with hkk
  · exact .inl (hkk ▸ hk)
  · exact h k'

end Stale

namespace Fewer

variable {N N' : List UInt64} {s s' t : PortalLocalState} {now : UInt64} {draws : Draws}

theorem refl (s : PortalLocalState) : Fewer N s s := ⟨rfl, rfl, .refl _, .refl _⟩

theorem mono (h : Fewer N s s') (hN : ∀ now ∈ N', now ∈ N) : Fewer N' s s' :=
  ⟨h.startCapacity, h.sessionCapacity, h.starts.mono hN, h.sessions.mono hN⟩

theorem cleanup (h : Fewer N s s') : Fewer N (s.cleanupExpired now) (s'.cleanupExpired now) :=
  ⟨h.startCapacity, h.sessionCapacity, h.starts.retain, h.sessions.retain⟩

theorem insert (h : Fewer N s s') (ht : ∀ now' ∈ N, now ≤ now') :
    Fewer N s (s'.cleanupExpired now) :=
  ⟨h.startCapacity, h.sessionCapacity, h.starts.insert ht, h.sessions.insert ht⟩

/-- **A cleanup at a time of the list** makes the states equal. -/
theorem cleanup_eq (h : Fewer N s s') (hn : now ∈ N) :
    s'.cleanupExpired now = s.cleanupExpired now := by
  unfold PortalLocalState.cleanupExpired
  rw [h.starts.retain_eq hn, h.sessions.retain_eq hn, h.startCapacity, h.sessionCapacity]

end Fewer

/-! ## One operation -/

/-- Replies that differ at most in why a claim failed. -/
inductive Alike : (o : PortalOp) → PortalReply o → PortalReply o → Prop
  | same (o : PortalOp) (r : PortalReply o) : Alike o r r
  | expired (state context : String) (now : UInt64) :
      Alike (.claimLoginStart state context now) (.error .expired) (.error .notFound)

section Operations

variable {N : List UInt64} {s s' t : PortalLocalState} {now : UInt64} {draws : Draws}

theorem Fewer.claim (h : Fewer N s s') (hn : now ∈ N) {k context : String}
    {r : Except LocalStateError LoginStart} (he : s.claimLoginStart k context now = (r, t)) :
    ∃ r' t', s'.claimLoginStart k context now = (r', t') ∧
      Alike (.claimLoginStart k context now) r r' ∧ Fewer N t t' := by
  unfold PortalLocalState.claimLoginStart at he ⊢
  rcases h.starts k with hk | ⟨hk, record, hr, hx⟩
  · rw [hk]
    cases hl : s.loginStarts.lookup k with
    | none =>
      rw [hl] at he
      cases he
      exact ⟨_, _, rfl, .same _ _, h⟩
    | some record =>
      rw [hl] at he
      have herase : Fewer N { s with loginStarts := s.loginStarts.erase k }
          { s' with loginStarts := s'.loginStarts.erase k } :=
        ⟨h.startCapacity, h.sessionCapacity, h.starts.erase k, h.sessions⟩
      dsimp only at he ⊢
      split_ifs at he ⊢
      · cases he
        exact ⟨_, _, rfl, .same _ _, herase⟩
      · cases he
        exact ⟨_, _, rfl, .same _ _, h⟩
      · cases he
        exact ⟨_, _, rfl, .same _ _, herase⟩
  · -- the record has expired, so the first claim drops it
    have hle := hx now hn
    simp only [hr, if_pos hle] at he
    cases he
    rw [hk]
    exact ⟨_, _, rfl, .expired k context now,
      h.startCapacity, h.sessionCapacity, h.starts.erase_left hk, h.sessions⟩

theorem Fewer.get (h : Fewer N s s') (hn : now ∈ N) {k : String} :
    (s'.getLocalSession k now).1 = (s.getLocalSession k now).1 ∧
      Fewer N (s.getLocalSession k now).2 (s'.getLocalSession k now).2 := by
  unfold PortalLocalState.getLocalSession
  rcases h.sessions k with hk | ⟨hk, record, hr, hx⟩
  · rw [hk]
    cases hl : s.localSessions.lookup k with
    | none => exact ⟨rfl, h⟩
    | some record =>
      dsimp only
      split_ifs
      · exact ⟨rfl, h.startCapacity, h.sessionCapacity, h.starts, h.sessions.erase k⟩
      · exact ⟨rfl, h⟩
  · have hle := hx now hn
    rw [hk, hr]
    simp only [if_pos hle]
    exact ⟨trivial, h.startCapacity, h.sessionCapacity, h.starts, h.sessions.erase_left hk⟩

variable [Crates]

theorem Fewer.login (h : Fewer N s s') (hn : now ∈ N) {path : String}
    {r : Except LocalStateError CreatedLoginStart}
    (he : s.createLoginStart path now draws = some (r, t)) :
    ∃ t', s'.createLoginStart path now draws = some (r, t') ∧ Fewer N t t' := by
  unfold PortalLocalState.createLoginStart at he ⊢
  rw [h.cleanup_eq hn]
  cases hv : validatePostLoginPath path with
  | error e =>
    simp only [hv] at he ⊢
    split_ifs at he ⊢
    cases he
    exact ⟨s', rfl, h⟩
  | ok _ =>
    simp only [hv] at he ⊢
    exact ⟨t, he, .refl t⟩

theorem Fewer.session (h : Fewer N s s') (hn : now ∈ N) {u : Int32} {a : UInt64}
    {r : Except LocalStateError (String × String)}
    (he : s.createLocalSession u a now draws = some (r, t)) :
    ∃ t', s'.createLocalSession u a now draws = some (r, t') ∧ Fewer N t t' := by
  unfold PortalLocalState.createLocalSession at he ⊢
  rw [h.cleanup_eq hn]
  exact ⟨t, he, .refl t⟩

theorem Fewer.logout (h : Fewer N s s') (hn : now ∈ N) {k cookie header : String} :
    (s'.logoutLocked k cookie header now).1 = (s.logoutLocked k cookie header now).1 ∧
      Fewer N (s.logoutLocked k cookie header now).2 (s'.logoutLocked k cookie header now).2 := by
  have hg := h.get hn (k := k)
  unfold PortalLocalState.logoutLocked
  cases hx : s.getLocalSession k now with
  | mk x u =>
  cases hx' : s'.getLocalSession k now with
  | mk x' u' =>
  rw [hx, hx'] at hg
  obtain ⟨rfl, hF⟩ : x' = x ∧ Fewer N u u' := hg
  cases x' with
  | none => exact ⟨rfl, hF⟩
  | some session =>
    obtain ⟨rfl, hk, -⟩ := get_some hx
    obtain ⟨rfl, hk', -⟩ := get_some hx'
    dsimp only
    split_ifs
    · exact ⟨rfl, hF⟩
    · exact ⟨rfl, hF⟩
    · refine ⟨?_, hF.startCapacity, hF.sessionCapacity, hF.starts, hF.sessions.erase k⟩
      show (u'.localSessions.lookup k).isSome = (u.localSessions.lookup k).isSome
      rw [hk, hk']

end Operations

/-! ## Plays -/

section Plays

variable [Crates] {config : AppConfig}

/-- The relation of both plays, for the labels still to come. -/
abbrev Later (tr : List PortalLabel) (s s' : PortalLocalState) : Prop :=
  Fewer (tr.flatMap used) s s'

/-- The cleanup is no later than the clock readings used after it. -/
def NoLater (tr : List PortalLabel) (t : UInt64) : Prop := ∀ now ∈ tr.flatMap used, t ≤ now

theorem unnoticed : Unnoticed portalMachine Later Alike NoLater where
  start h := h
  env h he := by
    cases he
    exact ⟨_, rfl, Fewer.cleanup h⟩
  insert h ht := ⟨_, rfl, Fewer.insert h ht⟩
  op {i q o r tr s s' a v} h he := by
    have hN : ∀ now ∈ tr.flatMap used, now ∈ (.op i q o r :: tr : List PortalLabel).flatMap used :=
      fun now hn => by
        rw [List.flatMap_cons]
        exact List.mem_append_right _ hn
    match o, a with
    | .unixEpochSeconds, .clock now =>
      cases he
      exact ⟨_, _, rfl, .same _ _, h.mono hN⟩
    | .createLoginStart path now, .draws draws =>
      obtain ⟨x, hx, hr⟩ := Option.map_eq_some_iff.mp he
      cases hr
      obtain ⟨t', ht', hF⟩ := h.login (by simp [used]) hx
      exact ⟨_, t', congrArg (Option.map _) ht', .same _ _, hF.mono hN⟩
    | .claimLoginStart k context now, .ok =>
      obtain ⟨r', t', ht', hA, hF⟩ := h.claim (by simp [used]) (Option.some.inj he)
      exact ⟨r', t', congrArg some ht', hA, hF.mono hN⟩
    | .exchange _ _, .exchanged values =>
      cases he
      exact ⟨_, _, rfl, .same _ _, h.mono hN⟩
    | .createLocalSession u b, .locked (some now) draws =>
      obtain ⟨x, hx, hr⟩ := Option.map_eq_some_iff.mp he
      cases hr
      obtain ⟨t', ht', hF⟩ := h.session (by simp [used]) hx
      exact ⟨_, t', congrArg (Option.map _) ht', .same _ _, hF.mono hN⟩
    | .getLocalSession k, .locked (some now) [] =>
      cases he
      obtain ⟨hr, hF⟩ := h.get (show now ∈ _ by simp [used]) (k := k)
      refine ⟨_, _, rfl, ?_, hF.mono hN⟩
      rw [hr]
      exact .same _ _
    | .logoutLocked k cookie header, .locked (some now) [] =>
      cases he
      obtain ⟨hr, hF⟩ := h.logout (show now ∈ _ by simp [used]) (k := k)
      refine ⟨_, _, rfl, ?_, hF.mono hN⟩
      rw [hr]
      exact .same _ _
    | .createLocalSession _ _, .locked none [] =>
      cases he
      exact ⟨_, _, rfl, .same _ _, h.mono hN⟩
    | .getLocalSession _, .locked none [] =>
      cases he
      exact ⟨_, _, rfl, .same _ _, h.mono hN⟩
    | .logoutLocked _ _ _, .locked none [] =>
      cases he
      exact ⟨_, _, rfl, .same _ _, h.mono hN⟩

omit [Crates] in
/-- A program that claims nothing is blind to `Alike`. -/
theorem blind_op {o : PortalOp} {k : PortalReply o → Handler (Option HttpResponse)}
    (hk : ∀ r, Blind Alike (k r))
    (ho : ∀ state context now, o ≠ .claimLoginStart state context now) :
    Blind Alike (.op o k) := by
  intro r
  refine ⟨hk r, fun r' hA => ?_⟩
  cases hA with
  | same => rfl
  | expired state context now => exact absurd rfl (ho state context now)

theorem blind_login : Blind Alike (login config) := by
  refine blind_op (fun now => ?_) nofun
  cases now with
  | none => trivial
  | some now =>
  refine blind_op (fun created => ?_) nofun
  obtain ⟨draws, created⟩ := created
  cases created with
  | error e => cases e <;> trivial
  | ok created =>
    dsimp only [Prog.bind]
    split <;> trivial

theorem blind_callback {rawQuery : String} {cookieHeader : Option String} :
    Blind Alike (callback config rawQuery cookieHeader) := by
  unfold callback
  split
  · trivial
  split
  · trivial
  refine blind_op (fun now => ?_) nofun
  cases now with
  | none => trivial
  | some now =>
  intro start
  refine ⟨?_, fun start' hA => ?_⟩
  · cases start with
    | error e => cases e <;> trivial
    | ok start =>
    refine blind_op (fun values => ?_) nofun
    cases values with
    | none => trivial
    | some values =>
    refine blind_op (fun session => ?_) nofun
    match session with
    | none => trivial
    | some (_, _, .error e) => cases e <;> trivial
    | some (_, _, .ok (reference, csrf)) =>
      dsimp only [Prog.bind]
      split <;> trivial
  · -- a claim fails alike for both reasons
    cases hA with
    | same => rfl
    | expired => rfl

theorem blind_getMe {headers : HeaderMap} : Blind Alike (getMe headers) := by
  unfold getMe
  split
  · trivial
  · refine blind_op (fun session => ?_) nofun
    match session with
    | none => trivial
    | some (_, none) => trivial
    | some (_, some _) => trivial

theorem blind_logout {headers : HeaderMap} : Blind Alike (logout headers) := by
  unfold logout
  split
  · trivial
  split
  · trivial
  split
  · trivial
  refine blind_op (fun removed => ?_) nofun
  match removed with
  | none => trivial
  | some (_, false) => trivial
  | some (_, true) => trivial

theorem blind_run (q : PortalRequest) : Blind Alike (q.run config) := by
  cases q with
  | login => exact blind_login
  | callback _ _ => exact blind_callback
  | getMe _ => exact blind_getMe
  | logout _ => exact blind_logout

abbrev PortalChoice := Choice PortalAnswer UInt64 PortalRequest

abbrev portalPlay (config : AppConfig) (choices : List PortalChoice) :
    Option (List PortalLabel × PortalPool) :=
  play portalMachine (PortalRequest.run config)
    (Pool.init (.new config.loginStartCapacity config.localSessionCapacity)) choices

/-- **Background cleanups are not noticed.** Cleanups added to any run, each no later than the clock
readings that critical sections use after it, leave all threads, and so all responses, the same;
replies differ at most in why a claim failed. -/
theorem cleanup_unnoticed {choices choices' : List PortalChoice} {tr : List PortalLabel}
    {s : PortalPool} (h : portalPlay config choices = some (tr, s))
    (hi : Inserted NoLater choices tr choices') : ∃ tr' s',
      portalPlay config choices' = some (tr', s') ∧ Matches Alike tr tr' ∧
      s'.threads = s.threads ∧ ∀ i q, s'.result i q = s.result i q := by
  have hb : AllBlind Alike (Pool.init
      (PortalLocalState.new config.loginStartCapacity config.localSessionCapacity) :
        PortalPool) := by
    intro i th hi
    cases hi
  obtain ⟨tr', s', h', ht, hM⟩ := unnoticed.play blind_run hi hb rfl (Fewer.refl _) h
  refine ⟨tr', s', h', hM, ht, fun i q => ?_⟩
  unfold Pool.result
  rw [ht]

/-- A login at time 0 and its callback, which reads the clock at 599 and creates a session at
600. -/
def raceChoices : List PortalChoice :=
  claimChoices 2 599 ++ [.step 1 (.exchanged (some (7, 100))),
    .step 1 (.locked (some 600) [bytes32 4, bytes32 5])]

/-- The callback of `raceChoices`. -/
def raceCallback : PortalRequest :=
  .callback (sampleQuery (bytes32 9) (bytes32 1)) (some (referenceValue (bytes32 2)))

omit [Crates] in
/-- A cleanup at 600 removes the login start of a callback that reads the clock at 601. -/
theorem cleanup_unnoticed_sample : letI := sampleCrates
    ∃ tr s tr' s', portalPlay AppConfig.sample (claimChoices 2 601) = some (tr, s) ∧
      portalPlay AppConfig.sample
        ((claimChoices 2 601).take 3 ++ .env 600 :: (claimChoices 2 601).drop 3) = some (tr', s') ∧
      claimResults (referenceValue (bytes32 1)) tr = [.error .expired] ∧
      claimResults (referenceValue (bytes32 1)) tr' = [.error .notFound] ∧
      s'.result 1 raceCallback = s.result 1 raceCallback := by
  let _ := sampleCrates
  have hp : (portalPlay AppConfig.sample (claimChoices 2 601)).any (fun x =>
      decide ((claimChoices 2 601).length = x.1.length) &&
        (((x.1.drop 3).flatMap used).all fun now => 600 ≤ now) &&
        decide (claimResults (referenceValue (bytes32 1)) x.1 = [.error .expired])) = true := by
    decide +kernel
  have hp' : (portalPlay AppConfig.sample
      ((claimChoices 2 601).take 3 ++ .env 600 :: (claimChoices 2 601).drop 3)).any (fun x => decide
        (claimResults (referenceValue (bytes32 1)) x.1 = [.error .notFound])) = true := by
    decide +kernel
  obtain ⟨⟨tr, s⟩, h, hx⟩ := (Option.any_eq_true _ _).mp hp
  simp only [Bool.and_eq_true, List.all_eq_true, decide_eq_true_eq] at hx
  obtain ⟨⟨hl, hn⟩, hc⟩ := hx
  obtain ⟨tr', s', h', -, -, hr⟩ := cleanup_unnoticed h (Inserted.one 3 hl hn)
  rw [h'] at hp'
  exact ⟨tr, s, tr', s', h, h', hc, of_decide_eq_true hp', hr 1 raceCallback⟩

/-- The clock readings of a label. -/
def readings : PortalLabel → List UInt64
  | .op _ _ .unixEpochSeconds (some now) => [now]
  | .op _ _ (.createLocalSession _ _) (some (now, _)) => [now]
  | .op _ _ (.getLocalSession _) (some (now, _)) => [now]
  | .op _ _ (.logoutLocked _ _ _) (some (now, _)) => [now]
  | _ => []

omit [Crates] in
/-- A cleanup at 600, between the reading of a callback and its claim, turns a redirect into a
rejection. -/
theorem cleanup_noticed : letI := sampleCrates
    ∃ tr s tr' s', portalPlay AppConfig.sample raceChoices = some (tr, s) ∧
      FreshReferences tr ∧ (tr.flatMap readings).Pairwise (· ≤ ·) ∧
      (∀ now ∈ (tr.take 5).flatMap readings, now ≤ 600) ∧
      (∀ now ∈ (tr.drop 5).flatMap readings, 600 ≤ now) ∧
      portalPlay AppConfig.sample ((raceChoices.take 5 ++ .env 600 :: raceChoices.drop 5).take 7) =
        some (tr', s') ∧
      (s.result 1 raceCallback).map (Option.map HttpResponse.status) = some (some 302) ∧
      (s'.result 1 raceCallback).map (Option.map HttpResponse.status) = some (some 400) := by
  let _ := sampleCrates
  have hp : (portalPlay AppConfig.sample raceChoices).any (fun x =>
      decide (FreshReferences x.1 ∧ (x.1.flatMap readings).Pairwise (· ≤ ·)) &&
      (((x.1.take 5).flatMap readings).all fun now => now ≤ 600) &&
      (((x.1.drop 5).flatMap readings).all fun now => 600 ≤ now) &&
      decide ((x.2.result 1 raceCallback).map (Option.map HttpResponse.status) =
        some (some 302))) = true := by decide +kernel
  have hp' : (portalPlay AppConfig.sample
      ((raceChoices.take 5 ++ .env 600 :: raceChoices.drop 5).take 7)).any (fun x => decide (
      (x.2.result 1 raceCallback).map (Option.map HttpResponse.status) = some (some 400))) =
      true := by decide +kernel
  obtain ⟨⟨tr, s⟩, h, hx⟩ := (Option.any_eq_true _ _).mp hp
  obtain ⟨⟨tr', s'⟩, h', hx'⟩ := (Option.any_eq_true _ _).mp hp'
  simp only [Bool.and_eq_true, List.all_eq_true, decide_eq_true_eq] at hx
  obtain ⟨⟨⟨⟨hf, hs⟩, hb⟩, ha⟩, hr⟩ := hx
  exact ⟨tr, s, tr', s', h, hf, hs, hb, ha, h', hr, of_decide_eq_true hx'⟩

end Plays

end Portal

end AuthFoundation
