import AuthFoundation.Lib.Pool

set_option autoImplicit false

/-!
# Moves that nobody notices

Two plays of a pool, one with additional moves of the environment.

* `Blind A p`: the program resumes alike on replies related by `A`.
* `Unnoticed`: a relation of worlds, for the labels still to come, that operations and moves keep
  and that additional moves keep on one side.
* `Unnoticed.play`: **the threads of both plays are the same**, and the labels are alike.
-/

namespace Interleave

variable {World Op : Type} {Reply : Op → Type} {Answer Env Req : Type} {Res : Req → Type}

/-- The program does the same on replies related by `A`. -/
def Blind (A : ∀ o, Reply o → Reply o → Prop) {α : Type} : Prog Op Reply α → Prop
  | .done _ => True
  | .op o k => ∀ r, Blind A (k r) ∧ ∀ r', A o r r' → k r' = k r

/-- Choices with additional moves of the environment, for the labels that the choices make. -/
inductive Inserted (E : List (Label Reply Env Req) → Env → Prop) :
    List (Choice Answer Env Req) → List (Label Reply Env Req) → List (Choice Answer Env Req) → Prop
  | nil : Inserted E [] [] []
  | keep {cs cs' : List (Choice Answer Env Req)} {tr : List (Label Reply Env Req)}
      (c : Choice Answer Env Req) (l : Label Reply Env Req) (h : Inserted E cs tr cs') :
      Inserted E (c :: cs) (l :: tr) (c :: cs')
  | insert {cs cs' : List (Choice Answer Env Req)} {tr : List (Label Reply Env Req)} (e : Env)
      (he : E tr e) (h : Inserted E cs tr cs') : Inserted E cs tr (.env e :: cs')

section Inserted

variable {E : List (Label Reply Env Req) → Env → Prop} {cs : List (Choice Answer Env Req)}
  {tr : List (Label Reply Env Req)}

theorem Inserted.refl : ∀ {cs : List (Choice Answer Env Req)} {tr : List (Label Reply Env Req)},
    cs.length = tr.length → Inserted E cs tr cs
  | [], [], _ => .nil
  | c :: _, l :: _, h => .keep c l (refl (Nat.succ.inj h))

/-- One move, after `n` choices. -/
theorem Inserted.one {e : Env} : ∀ (n : ℕ) {cs : List (Choice Answer Env Req)}
    {tr : List (Label Reply Env Req)}, cs.length = tr.length → E (tr.drop n) e →
    Inserted E cs tr (cs.take n ++ .env e :: cs.drop n)
  | 0, _, _, h, he => .insert e he (.refl h)
  | _ + 1, [], [], h, he => .insert e he (.refl h)
  | n + 1, c :: _, l :: _, h, he => .keep c l (one n (Nat.succ.inj h) he)

end Inserted

/-- Labels that are alike, but for additional moves. -/
inductive Matches (A : ∀ o, Reply o → Reply o → Prop) :
    List (Label Reply Env Req) → List (Label Reply Env Req) → Prop
  | nil : Matches A [] []
  | start {tr tr' : List (Label Reply Env Req)} (i : ℕ) (q : Req) (h : Matches A tr tr') :
      Matches A (.start i q :: tr) (.start i q :: tr')
  | op {tr tr' : List (Label Reply Env Req)} (i : ℕ) (q : Req) (o : Op) {r r' : Reply o}
      (hr : A o r r') (h : Matches A tr tr') : Matches A (.op i q o r :: tr) (.op i q o r' :: tr')
  | env {tr tr' : List (Label Reply Env Req)} (e : Env) (h : Matches A tr tr') :
      Matches A (.env e :: tr) (.env e :: tr')
  | insert {tr tr' : List (Label Reply Env Req)} (e : Env) (h : Matches A tr tr') :
      Matches A tr (.env e :: tr')

/-- **A relation of worlds that is kept**: by operations with replies alike, by moves, and by
additional moves of the second world. -/
structure Unnoticed (M : Machine World Op Reply Answer Env)
    (R : List (Label Reply Env Req) → World → World → Prop)
    (A : ∀ o, Reply o → Reply o → Prop)
    (E : List (Label Reply Env Req) → Env → Prop) : Prop where
  start : ∀ {i q tr w w'}, R (.start i q :: tr) w w' → R tr w w'
  op : ∀ {i q o r tr w w' a v}, R (.op i q o r :: tr) w w' → M.exec w i o a = some (r, v) →
    ∃ r' v', M.exec w' i o a = some (r', v') ∧ A o r r' ∧ R tr v v'
  env : ∀ {e tr w w' v}, R (.env e :: tr) w w' → M.env w e = some v →
    ∃ v', M.env w' e = some v' ∧ R tr v v'
  insert : ∀ {e tr w w'}, R tr w w' → E tr e → ∃ v', M.env w' e = some v' ∧ R tr w v'

variable {M : Machine World Op Reply Answer Env} {prog : ∀ q, Prog Op Reply (Res q)}
  {R : List (Label Reply Env Req) → World → World → Prop} {A : ∀ o, Reply o → Reply o → Prop}
  {E : List (Label Reply Env Req) → Env → Prop}

/-- All threads are blind. -/
def AllBlind (A : ∀ o, Reply o → Reply o → Prop) (s : Pool World Reply Res) : Prop :=
  ∀ i th, s.threads i = some th → Blind A th.prog

theorem AllBlind.update {s : Pool World Reply Res} (h : AllBlind A s) {i : ℕ}
    {t : Thread Reply Res} (hb : Blind A t.prog) (w : World) :
    AllBlind A ⟨w, Function.update s.threads i (some t)⟩ := by
  intro j th' hj
  by_cases hij : j = i
  · subst hij
    simp only [Function.update_self, Option.some.injEq] at hj
    exact hj ▸ hb
  · simp only [Function.update_of_ne hij] at hj
    exact h j th' hj

/-- One choice in both pools. -/
theorem Unnoticed.playStep (hU : Unnoticed M R A E) (hb : ∀ q, Blind A (prog q))
    {s s' t : Pool World Reply Res} {c : Choice Answer Env Req} {l : Label Reply Env Req}
    {tr : List (Label Reply Env Req)} (hs : AllBlind A s) (ht : s'.threads = s.threads)
    (hR : R (l :: tr) s.world s'.world) (h : playStep M prog s c = some (l, t)) :
    ∃ l' t', Interleave.playStep M prog s' c = some (l', t') ∧ AllBlind A t ∧
      t'.threads = t.threads ∧ R tr t.world t'.world ∧
      ∀ tr', Matches A tr tr' → Matches A (l :: tr) (l' :: tr') := by
  cases c with
  | start i q =>
    simp only [Interleave.playStep, ht] at h ⊢
    cases hi : s.threads i with
    | none =>
      rw [hi] at h
      cases h
      exact ⟨_, _, rfl, hs.update (t := ⟨q, prog q⟩) (hb q) _, rfl, hU.start hR,
        fun tr' => .start i q⟩
    | some th =>
      rw [hi] at h
      cases h
  | step i a =>
    simp only [Interleave.playStep, ht] at h ⊢
    split at h
    · rename_i q o k hi
      have hk := hs i _ hi
      split at h
      · rename_i r w he
        cases h
        obtain ⟨r', w', he', hA, hR'⟩ := hU.op hR he
        simp only [he', (hk r).2 r' hA]
        exact ⟨_, _, rfl, hs.update (t := ⟨q, k r⟩) (hk r).1 _, rfl, hR', fun tr' => .op i q o hA⟩
      · cases h
    · cases h
  | env e =>
    simp only [Interleave.playStep] at h ⊢
    split at h
    · rename_i w he
      cases h
      obtain ⟨w', he', hR'⟩ := hU.env hR he
      simp only [he']
      exact ⟨_, _, rfl, hs, ht, hR', fun tr' => .env e⟩
    · cases h

/-- **Additional moves change no thread.** -/
theorem Unnoticed.play (hU : Unnoticed M R A E) (hb : ∀ q, Blind A (prog q))
    {cs cs' : List (Choice Answer Env Req)} {tr : List (Label Reply Env Req)}
    (hi : Inserted E cs tr cs') : ∀ {s s' t : Pool World Reply Res}, AllBlind A s →
    s'.threads = s.threads → R tr s.world s'.world → play M prog s cs = some (tr, t) →
    ∃ tr' t', Interleave.play M prog s' cs' = some (tr', t') ∧ t'.threads = t.threads ∧
      Matches A tr tr' := by
  induction hi with
  | nil =>
    intro s s' t _ ht _ h
    cases h
    exact ⟨[], s', rfl, ht, .nil⟩
  | keep c l _ ih =>
    intro s s' t hs ht hR h
    simp only [Interleave.play] at h
    split at h
    · rename_i l₁ t₁ h₁
      obtain ⟨⟨tr₂, t₂⟩, h₂, e⟩ := Option.map_eq_some_iff.mp h
      cases e
      obtain ⟨l', t', h', hs', ht', hR', hM⟩ := hU.playStep hb hs ht hR h₁
      obtain ⟨tr'', t'', h'', ht'', hM'⟩ := ih hs' ht' hR' h₂
      refine ⟨l' :: tr'', t'', ?_, ht'', hM tr'' hM'⟩
      simp only [Interleave.play, h', h'', Option.map_some]
    · cases h
  | insert e he _ ih =>
    intro s s' t hs ht hR h
    obtain ⟨w, hw, hR'⟩ := hU.insert hR he
    obtain ⟨tr', t', h', ht', hM⟩ := @ih _ ⟨w, s'.threads⟩ _ hs ht hR' h
    refine ⟨.env e :: tr', t', ?_, ht', .insert e hM⟩
    simp only [Interleave.play, Interleave.playStep, hw, h', Option.map_some]

end Interleave
