import AuthFoundation.Lib.Ops
import AuthFoundation.Lib.Pool

set_option autoImplicit false

/-!
# Rely and guarantee with histories

`Holds` says what a thread does to the world, `Sat` what it has done before each of its operations.
`Obeys` says both at once: what a thread has done and how the world is at each of its operations.

* `Obeys`: the specification; `Obeys.stable`, `Obeys.bind`, `Obeys.op`: its rules.
* `Holds.obeys`: a program that holds a rely–guarantee specification, and its operations.
* `Run.obeys`, `Run.obeys_op`: **the rule for interleavings**.
-/

namespace Interleave

variable {World Op : Type} {Reply : Op → Type} {Answer Env Req : Type} {Res : Req → Type}
  {α β : Type}

section Programs

variable (M : Machine World Op Reply Answer Env) (I : World → Prop) (R G : World → World → Prop)

/-- **Rely and guarantee**: from any world the others may lead to, every operation of client `i` is
allowed by `Φ` after its history, and keeps `I` and `G`; results satisfy `Q`. -/
def Obeys (i : ℕ) (Φ : History Reply → Op → World → Prop) (Q : History Reply → α → World → Prop) :
    Prog Op Reply α → History Reply → World → Prop
  | .done a, H, w => Q H a w
  | .op o k, H, w => ∀ w₁, R w w₁ → I w₁ → Φ H o w₁ ∧ ∀ a r w₂, M.exec w₁ i o a = some (r, w₂) →
      I w₂ ∧ G w₁ w₂ ∧ Obeys i Φ Q (k r) (H ++ [⟨o, r⟩]) w₂

variable {M I R G} {i : ℕ} {Φ Φ' : History Reply → Op → World → Prop}
  {Q Q' : History Reply → α → World → Prop} {P : Op → Prop}

/-- The rule of consequence. -/
theorem Obeys.mono (hΦ : ∀ H o w, Φ H o w → Φ' H o w) (hQ : ∀ H a w, Q H a w → Q' H a w)
    {p : Prog Op Reply α} : ∀ {H : History Reply} {w : World},
    Obeys M I R G i Φ Q p H w → Obeys M I R G i Φ' Q' p H w := by
  induction p with
  | done a => exact fun h => hQ _ _ _ h
  | op o k ih =>
    intro H w h w₁ hr hI
    obtain ⟨ho, hk⟩ := h w₁ hr hI
    exact ⟨hΦ _ _ _ ho, fun a r w₂ he => (hk a r w₂ he).imp id (.imp id (ih r))⟩

/-- A specification survives moves of the others. -/
theorem Obeys.stable (hR : ∀ w w' w'', R w w' → R w' w'' → R w w'')
    (hQ : ∀ H a w w', Q H a w → R w w' → Q H a w') {p : Prog Op Reply α} {H : History Reply}
    {w w' : World} (h : Obeys M I R G i Φ Q p H w) (hw : R w w') : Obeys M I R G i Φ Q p H w' := by
  cases p with
  | done a => exact hQ H a w w' h hw
  | op o k => exact fun w₁ h₁ => h w₁ (hR _ _ _ hw h₁)

/-- Sequencing. -/
theorem Obeys.bind {Q' : History Reply → β → World → Prop} {f : α → Prog Op Reply β}
    {p : Prog Op Reply α} : ∀ {H : History Reply} {w : World},
    Obeys M I R G i Φ (fun H a w => Obeys M I R G i Φ Q' (f a) H w) p H w →
      Obeys M I R G i Φ Q' (p >>= f) H w := by
  induction p with
  | done a => exact fun h => h
  | op o k ih =>
    intro H w h w₁ hr hI
    obtain ⟨ho, hk⟩ := h w₁ hr hI
    exact ⟨ho, fun a r w₂ he => (hk a r w₂ he).imp id (.imp id (ih r))⟩

/-- A rely–guarantee specification, with a property of all operations of the program. -/
theorem Holds.obeys {Q : α → World → Prop} {p : Prog Op Reply α} (hP : p.Only P) :
    ∀ {H : History Reply} {w : World}, Holds M I R G i Q p w →
      Obeys M I R G i (fun _ o _ => P o) (fun H' a w => H <+: H' ∧ Q a w) p H w := by
  induction p with
  | done a => exact fun h => ⟨List.prefix_rfl, h⟩
  | op o k ih =>
    intro H w h w₁ hr hI
    refine ⟨hP.1, fun a r w₂ he => ?_⟩
    obtain ⟨hI₂, hG, hk⟩ := h w₁ hr hI a r w₂ he
    refine ⟨hI₂, hG, (ih r (hP.2 r) hk).mono (fun _ _ _ => id) fun H' a w ⟨hp, hq⟩ => ?_⟩
    exact ⟨(List.prefix_append _ _).trans hp, hq⟩

/-- **Sequencing** after a program whose operations are allowed by themselves. -/
theorem Holds.seq {Q : α → World → Prop} {Q' : History Reply → β → World → Prop}
    {f : α → Prog Op Reply β} {p : Prog Op Reply α} {H : History Reply} {w : World}
    (h : Holds M I R G i Q p w) (hP : p.Only P) (hΦ : ∀ H o w, P o → Φ H o w)
    (hf : ∀ a D w, Q a w → Obeys M I R G i Φ Q' (f a) (H ++ D) w) :
    Obeys M I R G i Φ Q' (p >>= f) H w := by
  refine Obeys.bind ((h.obeys hP).mono (fun H o w => hΦ H o w) ?_)
  rintro H' a w ⟨⟨D, rfl⟩, hq⟩
  exact hf a D w hq

end Programs

/-! ## Interleavings -/

section Runs

variable {M : Machine World Op Reply Answer Env} {prog : ∀ q, Prog Op Reply (Res q)}
  {I : World → Prop} {R G : ℕ → World → World → Prop}
  {Φ : Req → History Reply → Op → World → Prop}
  {Q : ∀ (_ : ℕ) (q : Req), History Reply → Res q → World → Prop}
  {s : Pool World Reply Res} {tr tr₁ tr₂ : List (Label Reply Env Req)} {w : World}

/-- **The rule for interleavings**: every thread obeys its specification, after its history. -/
theorem Run.obeys (htrans : ∀ i w w' w'', R i w w' → R i w' w'' → R i w w'')
    (hstable : ∀ i q H a w w', Q i q H a w → R i w w' → Q i q H a w')
    (hGR : ∀ i j, i ≠ j → ∀ w w', G i w w' → R j w w')
    (henv : ∀ w e w', I w → M.env w e = some w' → I w' ∧ ∀ i, R i w w')
    (hprog : ∀ i q w, I w → Obeys M I (R i) (G i) i (Φ q) (Q i q) (prog q) [] w)
    (hrefl : ∀ i w, R i w w) (hI : I w) (h : Run M prog (Pool.init w) tr s) :
    I s.world ∧ ∀ i q p, s.threads i = some ⟨q, p⟩ →
      Obeys M I (R i) (G i) i (Φ q) (Q i q) p (history i tr) s.world := by
  induction h with
  | nil => exact ⟨hI, fun i q p hp => by cases hp⟩
  | @snoc tr t u l hr hs ih =>
    obtain ⟨ihI, ih⟩ := ih
    have hother : ∀ {i : ℕ}, l.client ≠ some i → history i (tr ++ [l]) = history i tr := by
      intro i hl
      have hn : history i [l] = [] := history_of_client_ne (by simpa using hl)
      rw [history_append, hn, List.append_nil]
    cases hs with
    | @start j q hj =>
      refine ⟨ihI, fun i q' p hp => ?_⟩
      by_cases hij : i = j
      · subst hij
        simp only [Function.update_self, Option.some.injEq] at hp
        cases hp
        have hf := hr.follows i
        rw [hj] at hf
        rw [history_append, history_start, history_of_client_ne hf]
        exact hprog i q _ ihI
      · simp only [Function.update_of_ne hij] at hp
        rw [hother fun hc => hij (Option.some.inj hc).symm]
        exact ih i q' p hp
    | @op j q o k a r w' hj he =>
      obtain ⟨-, hk⟩ := ih j q _ hj _ (hrefl _ _) ihI
      obtain ⟨hI', hG, hk⟩ := hk a r w' he
      refine ⟨hI', fun i q' p hp => ?_⟩
      by_cases hij : i = j
      · subst hij
        simp only [Function.update_self, Option.some.injEq] at hp
        cases hp
        rw [history_append, history_op]
        exact hk
      · simp only [Function.update_of_ne hij] at hp
        rw [hother fun hc => hij (Option.some.inj hc).symm]
        exact (ih i q' p hp).stable (htrans i) (hstable i q') (hGR j i (Ne.symm hij) _ _ hG)
    | @env e w' he =>
      obtain ⟨hI', hR⟩ := henv _ e _ ihI he
      refine ⟨hI', fun i q p hp => ?_⟩
      rw [hother nofun]
      exact (ih i q p hp).stable (htrans i) (hstable i q) (hR i)

/-- **Every operation is allowed** in the world where it is performed. -/
theorem Run.obeys_op (htrans : ∀ i w w' w'', R i w w' → R i w' w'' → R i w w'')
    (hstable : ∀ i q H a w w', Q i q H a w → R i w w' → Q i q H a w')
    (hGR : ∀ i j, i ≠ j → ∀ w w', G i w w' → R j w w')
    (henv : ∀ w e w', I w → M.env w e = some w' → I w' ∧ ∀ i, R i w w')
    (hprog : ∀ i q w, I w → Obeys M I (R i) (G i) i (Φ q) (Q i q) (prog q) [] w)
    (hrefl : ∀ i w, R i w w) (hI : I w) (h : Run M prog (Pool.init w) tr s) {i : ℕ} {q : Req}
    {o : Op} {r : Reply o} (e : tr = tr₁ ++ .op i q o r :: tr₂) :
    ∃ t t', Run M prog (Pool.init w) tr₁ t ∧ Step M prog t (.op i q o r) t' ∧
      Run M prog t' tr₂ s ∧ Φ q (history i tr₁) o t.world := by
  subst e
  obtain ⟨t, t', h₁, hs, h₂⟩ := h.split_step
  obtain ⟨hI', hk⟩ := Run.obeys htrans hstable hGR henv hprog hrefl hI h₁
  refine ⟨t, t', h₁, hs, h₂, ?_⟩
  cases hs with
  | op hi _ => exact (hk i q _ hi _ (hrefl _ _) hI').1

end Runs

end Interleave
