import AuthFoundation.Lib.Prog

set_option autoImplicit false

/-!
# Interleaved threads over a shared world

A `Machine` says how a world answers operations and which moves it makes on its own. A `Pool` is a
world with numbered threads, each running the program of the request that started it. One step
starts a thread, lets one thread perform its next operation, or lets the environment move; a `Run`
is any sequence of steps, so it is any interleaving.

* `Step`, `Run`, `Run.split`, `history`: runs and what one thread did in them.
* `Run.trace`, `Run.sat_op`, `Run.sat_done`: a thread follows its program, so local
  specifications hold at every operation and every result of a run.
* `Holds`, `Run.holds`: rely–guarantee. A thread that keeps the invariant and its guarantee,
  while the others keep its rely, does so in every interleaving.
* `Machine.alone`: a program undisturbed by others, which is one of the runs (`run_of_alone`).
* `play`: the executable scheduler, sound for `Run` (`run_of_play`).
-/

namespace Interleave

/-- A world that answers operations: `exec w i o a` is the reply to operation `o` of client `i`
and the next world, when the environment chooses `a`; `env` are its own moves. -/
structure Machine (World Op : Type) (Reply : Op → Type) (Answer Env : Type) where
  exec : World → ℕ → (o : Op) → Answer → Option (Reply o × World)
  env : World → Env → Option World

/-- A thread: the request that started it and what is left of its program. -/
structure Thread {Op : Type} (Reply : Op → Type) {Req : Type} (Res : Req → Type) where
  req : Req
  prog : Prog Op Reply (Res req)

/-- A world shared by numbered threads. -/
structure Pool (World : Type) {Op : Type} (Reply : Op → Type) {Req : Type} (Res : Req → Type) where
  world : World
  threads : ℕ → Option (Thread Reply Res)

/-- What one step of a pool did. -/
inductive Label {Op : Type} (Reply : Op → Type) (Env Req : Type) where
  | start (i : ℕ) (q : Req)
  | op (i : ℕ) (q : Req) (o : Op) (r : Reply o)
  | env (e : Env)

variable {World Op : Type} {Reply : Op → Type} {Answer Env Req : Type} {Res : Req → Type}

instance [DecidableEq Op] [∀ o, DecidableEq (Reply o)] [DecidableEq Env] [DecidableEq Req] :
    DecidableEq (Label Reply Env Req)
  | .start i q, .start j q' => decidable_of_iff (i = j ∧ q = q') (by simp)
  | .op i q o r, .op j q' o' r' =>
    if h : o = o' then decidable_of_iff (i = j ∧ q = q' ∧ h ▸ r = r') (by subst h; simp)
    else isFalse fun e => by cases e; exact h rfl
  | .env e, .env e' => decidable_of_iff (e = e') (by simp)
  | .start _ _, .op _ _ _ _ => isFalse nofun
  | .start _ _, .env _ => isFalse nofun
  | .op _ _ _ _, .start _ _ => isFalse nofun
  | .op _ _ _ _, .env _ => isFalse nofun
  | .env _, .start _ _ => isFalse nofun
  | .env _, .op _ _ _ _ => isFalse nofun

/-- The pool without threads. -/
def Pool.init (w : World) : Pool World Reply Res := ⟨w, fun _ => none⟩

/-- The result of thread `i`, if it was started by `q` and is done. -/
def Pool.result [DecidableEq Req] (s : Pool World Reply Res) (i : ℕ) (q : Req) : Option (Res q) :=
  match s.threads i with
  | some ⟨q', .done a⟩ => if h : q' = q then some (h ▸ a) else none
  | _ => none

theorem Pool.threads_of_result [DecidableEq Req] {s : Pool World Reply Res} {i : ℕ} {q : Req}
    {a : Res q} (h : s.result i q = some a) : s.threads i = some ⟨q, .done a⟩ := by
  unfold Pool.result at h
  split at h
  · rename_i hs
    split_ifs at h with hq
    subst hq
    cases h
    exact hs
  · cases h

/-- **One step** of a pool whose requests run the programs `prog`. -/
inductive Step (M : Machine World Op Reply Answer Env) (prog : ∀ q, Prog Op Reply (Res q)) :
    Pool World Reply Res → Label Reply Env Req → Pool World Reply Res → Prop
  | start {s : Pool World Reply Res} {i : ℕ} (q : Req) (h : s.threads i = none) :
      Step M prog s (.start i q) ⟨s.world, Function.update s.threads i (some ⟨q, prog q⟩)⟩
  | op {s : Pool World Reply Res} {i : ℕ} {q : Req} {o : Op} {k : Reply o → Prog Op Reply (Res q)}
      {a : Answer} {r : Reply o} {w : World} (h : s.threads i = some ⟨q, .op o k⟩)
      (he : M.exec s.world i o a = some (r, w)) :
      Step M prog s (.op i q o r) ⟨w, Function.update s.threads i (some ⟨q, k r⟩)⟩
  | env {s : Pool World Reply Res} {e : Env} {w : World} (h : M.env s.world e = some w) :
      Step M prog s (.env e) ⟨w, s.threads⟩

/-- **Runs**: finite sequences of steps, with their labels. -/
inductive Run (M : Machine World Op Reply Answer Env) (prog : ∀ q, Prog Op Reply (Res q))
    (s : Pool World Reply Res) : List (Label Reply Env Req) → Pool World Reply Res → Prop
  | nil : Run M prog s [] s
  | snoc {tr : List (Label Reply Env Req)} {t u : Pool World Reply Res}
      {l : Label Reply Env Req} : Run M prog s tr t → Step M prog t l u → Run M prog s (tr ++ [l]) u

variable {M : Machine World Op Reply Answer Env} {prog : ∀ q, Prog Op Reply (Res q)}
  {s t u : Pool World Reply Res} {tr tr₁ tr₂ : List (Label Reply Env Req)}

theorem Run.append (h₁ : Run M prog s tr₁ t) (h₂ : Run M prog t tr₂ u) :
    Run M prog s (tr₁ ++ tr₂) u := by
  induction h₂ with
  | nil => rwa [List.append_nil]
  | snoc _ hs ih =>
    rw [← List.append_assoc]
    exact ih.snoc hs

/-- A run passes through a state at every cut of its labels. -/
theorem Run.split (h : Run M prog s tr u) : ∀ {tr₁ tr₂ : List (Label Reply Env Req)},
    tr = tr₁ ++ tr₂ → ∃ t, Run M prog s tr₁ t ∧ Run M prog t tr₂ u := by
  induction h with
  | nil =>
    intro tr₁ tr₂ e
    obtain ⟨rfl, rfl⟩ := List.append_eq_nil_iff.mp e.symm
    exact ⟨s, .nil, .nil⟩
  | @snoc tr t u l hr hs ih =>
    intro tr₁ tr₂ e
    rcases List.eq_nil_or_concat tr₂ with rfl | ⟨tr₃, l', rfl⟩
    · rw [List.append_nil] at e
      exact ⟨u, e ▸ hr.snoc hs, .nil⟩
    · rw [List.concat_eq_append, ← List.append_assoc] at e
      obtain ⟨e, hl⟩ := List.append_inj' e rfl
      obtain ⟨v, h₁, h₂⟩ := ih e
      obtain rfl : l = l' := by simpa using hl
      exact ⟨v, h₁, by rw [List.concat_eq_append]; exact h₂.snoc hs⟩

theorem Run.single {l : Label Reply Env Req} (h : Run M prog s [l] t) : Step M prog s l t := by
  generalize e : [l] = tr at h
  cases h with
  | nil => exact absurd e (by simp)
  | @snoc tr t u l' hr hs =>
    obtain ⟨rfl, hl⟩ := List.append_inj' (show [] ++ [l] = tr ++ [l'] from e) rfl
    obtain rfl : l = l' := by simpa using hl
    generalize e : ([] : List (Label Reply Env Req)) = tr at hr
    cases hr with
    | nil => exact hs
    | snoc _ _ => exact absurd e (by simp)

/-- A run passes through the two states around each of its steps. -/
theorem Run.split_step {l : Label Reply Env Req} (h : Run M prog s (tr₁ ++ l :: tr₂) u) :
    ∃ t t', Run M prog s tr₁ t ∧ Step M prog t l t' ∧ Run M prog t' tr₂ u := by
  obtain ⟨t, h₁, h₂⟩ := h.split rfl
  obtain ⟨t', h₂, h₃⟩ := h₂.split (show l :: tr₂ = [l] ++ tr₂ from rfl)
  exact ⟨t, t', h₁, h₂.single, h₃⟩

/-- Two different entries of a list come one after the other. -/
theorem cut_two {α : Type} {l : List α} {x y : α} (h : x ∈ l) (h' : y ∈ l) (hne : x ≠ y) :
    ∃ l₁ l₂ l₃, l = l₁ ++ x :: l₂ ++ y :: l₃ ∨ l = l₁ ++ y :: l₂ ++ x :: l₃ := by
  obtain ⟨a, b, rfl⟩ := List.append_of_mem h
  rcases List.mem_append.mp h' with h' | h'
  · obtain ⟨c, d, rfl⟩ := List.append_of_mem h'
    exact ⟨c, d, b, .inr (by simp)⟩
  · obtain ⟨c, d, rfl⟩ := List.append_of_mem ((List.mem_cons.mp h').resolve_left hne.symm)
    exact ⟨a, c, d, .inl (by simp)⟩

/-- Two cuts of a list are the same, or one entry is on one side of the other. -/
theorem cut_cases {α : Type} {l₁ l₂ m₁ m₂ : List α} {x y : α} (h : l₁ ++ x :: l₂ = m₁ ++ y :: m₂) :
    m₁ = l₁ ∨ y ∈ l₁ ∨ y ∈ l₂ := by
  rcases List.append_eq_append_iff.mp h with ⟨n, rfl, hn⟩ | ⟨n, rfl, hn⟩
  · cases n with
    | nil => exact .inl (List.append_nil _)
    | cons z n =>
      rw [List.cons_append] at hn
      rw [(List.cons.inj hn).2]
      exact .inr (.inr (by simp))
  · cases n with
    | nil => exact .inl (List.append_nil _).symm
    | cons z n =>
      rw [(List.cons.inj hn).1]
      exact .inr (.inl (by simp))

/-- At most one entry has the property. -/
def AtMostOne {α : Type} (P : α → Prop) (l : List α) : Prop := l.Pairwise fun x y => ¬(P x ∧ P y)

theorem atMostOne_of_cut {α : Type} {P : α → Prop} {l : List α}
    (h : ∀ l₁ x l₂ y l₃, l = l₁ ++ x :: l₂ ++ y :: l₃ → P x → ¬P y) : AtMostOne P l := by
  refine List.pairwise_iff_forall_sublist.mpr fun {x y} hxy ⟨hx, hy⟩ => ?_
  obtain ⟨l₁, l₂, rfl, hm, hs⟩ := List.cons_sublist_iff.mp hxy
  obtain ⟨a, b, rfl⟩ := List.append_of_mem hm
  obtain ⟨c, d, rfl⟩ := List.append_of_mem (List.singleton_sublist.mp hs)
  exact h a x (b ++ c) y d (by simp) hx hy

/-- Two entries with the property are the same. -/
theorem AtMostOne.eq {α : Type} {P : α → Prop} {l : List α} {x y : α} (h : AtMostOne P l)
    (hx : x ∈ l) (hy : y ∈ l) (hPx : P x) (hPy : P y) : x = y := by
  by_contra hne
  have hs : Std.Symm fun x y => ¬(P x ∧ P y) := ⟨fun _ _ hn hp => hn hp.symm⟩
  exact h.forall hx hy hne ⟨hPx, hPy⟩

/-- No two places of the list have the property. -/
theorem AtMostOne.not_cut {α : Type} {P : α → Prop} {l₁ l₂ l₃ : List α} {x y : α}
    (h : AtMostOne P (l₁ ++ x :: l₂ ++ y :: l₃)) (hx : P x) : ¬P y := fun hy =>
  (List.pairwise_append.mp h).2.2 x (by simp) y (by simp) ⟨hx, hy⟩

/-! ## What one thread did -/

/-- The thread a label is about. -/
def Label.client : Label Reply Env Req → Option ℕ
  | .start i _ => some i
  | .op i _ _ _ => some i
  | .env _ => none

/-- The request a label is about. -/
def Label.request : Label Reply Env Req → Option Req
  | .start _ q => some q
  | .op _ q _ _ => some q
  | .env _ => none

/-- The operation a label performs, with its reply. -/
def Label.event : Label Reply Env Req → Option (Σ o, Reply o)
  | .op _ _ o r => some ⟨o, r⟩
  | _ => none

/-- The operations of thread `i` among the labels. -/
def history (i : ℕ) (tr : List (Label Reply Env Req)) : History Reply :=
  tr.filterMap fun l => if l.client = some i then l.event else none

@[simp] theorem history_append (i : ℕ) (tr₁ tr₂ : List (Label Reply Env Req)) :
    history i (tr₁ ++ tr₂) = history i tr₁ ++ history i tr₂ := List.filterMap_append

@[simp] theorem history_op (i : ℕ) (q : Req) (o : Op) (r : Reply o) :
    history i [(.op i q o r : Label Reply Env Req)] = [⟨o, r⟩] := by
  simp [history, Label.client, Label.event]

theorem history_of_client_ne {i : ℕ} (h : ∀ l ∈ tr, l.client ≠ some i) : history i tr = [] :=
  List.filterMap_eq_nil_iff.mpr fun l hl => if_neg (h l hl)

@[simp] theorem history_start (i j : ℕ) (q : Req) :
    history i [(.start j q : Label Reply Env Req)] = [] := by
  simp [history, Label.event]

theorem mem_history {i : ℕ} {e : Σ o, Reply o} :
    e ∈ history i tr ↔ ∃ q, .op i q e.1 e.2 ∈ tr := by
  simp only [history, List.mem_filterMap]
  constructor
  · rintro ⟨l, hl, h⟩
    split_ifs at h with hj
    cases l with
    | op j q o r =>
      cases h
      cases hj
      exact ⟨q, hl⟩
    | start j q => cases h
    | env e => cases h
  · rintro ⟨q, hq⟩
    exact ⟨_, hq, by simp [Label.client, Label.event]⟩

/-- The step behind an operation of a thread. -/
theorem history_cut {i : ℕ} {H₁ H₂ : History Reply} {o : Op} {r : Reply o}
    (h : history i tr = H₁ ++ ⟨o, r⟩ :: H₂) :
    ∃ tr₁ q tr₂, tr = tr₁ ++ .op i q o r :: tr₂ ∧ history i tr₁ = H₁ ∧ history i tr₂ = H₂ := by
  obtain ⟨tr₁, tr₂, rfl, h₁, h₂⟩ := List.filterMap_eq_append_iff.mp h
  obtain ⟨tr₃, l, tr₄, rfl, hn, hl, h₄⟩ := List.filterMap_eq_cons_iff.mp h₂
  split_ifs at hl with hi
  cases l with
  | op j q o r =>
    cases hl
    cases hi
    refine ⟨tr₁ ++ tr₃, q, tr₄, by simp, ?_, h₄⟩
    rw [history_append, show history i tr₁ = H₁ from h₁,
      show history i tr₃ = [] from List.filterMap_eq_nil_iff.mpr hn, List.append_nil]
  | start j q => cases hl
  | env e => cases hl

/-- The requests that were started, with their threads. -/
def starts (tr : List (Label Reply Env Req)) : List (ℕ × Req) :=
  tr.filterMap fun
    | .start i q => some (i, q)
    | _ => none

theorem mem_starts {i : ℕ} {q : Req} : (i, q) ∈ starts tr ↔ .start i q ∈ tr := by
  simp only [starts, List.mem_filterMap]
  constructor
  · rintro ⟨l, hl, h⟩
    cases l with
    | start j q' =>
      cases h
      exact hl
    | _ => cases h
  · exact fun h => ⟨_, h, rfl⟩

theorem starts_mono (h : tr₁ ⊆ tr) : starts tr₁ ⊆ starts tr := fun _ hx =>
  mem_starts.mpr (h (mem_starts.mp hx))

/-- What the labels say about a thread: nothing if it was not started, and otherwise that one
request started it and that it followed the program of this request. -/
def Follows (prog : ∀ q, Prog Op Reply (Res q)) (i : ℕ) (tr : List (Label Reply Env Req)) :
    Option (Thread Reply Res) → Prop
  | none => ∀ l ∈ tr, l.client ≠ some i
  | some ⟨q, p⟩ => (prog q).Trace (history i tr) p ∧ .start i q ∈ tr ∧
      ∀ l ∈ tr, l.client = some i → l.request = some q

theorem Follows.append_other {i : ℕ} {th : Option (Thread Reply Res)} {l : Label Reply Env Req}
    (h : Follows prog i tr th) (hl : l.client ≠ some i) : Follows prog i (tr ++ [l]) th := by
  have hm : ∀ l' ∈ tr ++ [l], l'.client = some i → l' ∈ tr := fun l' hl' hc => by
    rcases List.mem_append.mp hl' with h | h
    · exact h
    · exact absurd (List.mem_singleton.mp h ▸ hc) hl
  cases th with
  | none => exact fun l' hl' hc => h l' (hm l' hl' hc) hc
  | some th =>
    obtain ⟨ht, hst, hq⟩ := h
    refine ⟨?_, List.mem_append_left _ hst, fun l' hl' hc => hq l' (hm l' hl' hc) hc⟩
    have hn : history i [l] = [] := history_of_client_ne (by simpa using hl)
    rwa [history_append, hn, List.append_nil]

/-- **Each thread follows its program**, and was started once. -/
theorem Run.follows {w : World} (h : Run M prog (Pool.init w) tr s) (i : ℕ) :
    Follows prog i tr (s.threads i) := by
  induction h with
  | nil => exact fun l hl => absurd hl List.not_mem_nil
  | snoc hr hs ih =>
    cases hs with
    | @start j q hj =>
      by_cases hji : i = j
      · subst hji
        rw [hj] at ih
        simp only [Function.update_self]
        refine ⟨?_, by simp, fun l hl hc => ?_⟩
        · rw [history_append, history_start, history_of_client_ne ih]
          exact .nil
        · rcases List.mem_append.mp hl with h | h
          · exact absurd hc (ih l h)
          · rw [List.mem_singleton.mp h]
            rfl
      · simp only [Function.update_of_ne hji]
        exact ih.append_other fun hc => hji (Option.some.inj hc).symm
    | @op j q o k a r w' hj he =>
      by_cases hji : i = j
      · subst hji
        rw [hj] at ih
        obtain ⟨ht, hst, hq⟩ := ih
        simp only [Function.update_self]
        refine ⟨?_, List.mem_append_left _ hst, fun l hl hc => ?_⟩
        · rw [history_append, history_op]
          exact ht.snoc r
        · rcases List.mem_append.mp hl with h | h
          · exact hq l h hc
          · rw [List.mem_singleton.mp h]
            rfl
      · simp only [Function.update_of_ne hji]
        exact ih.append_other fun hc => hji (Option.some.inj hc).symm
    | env he => exact ih.append_other (by simp [Label.client])

section Spec

variable {w : World} {i : ℕ} {q : Req} {Φ : Req → History Reply → Op → Prop}
  {Q : ∀ q, History Reply → Res q → Prop}

/-- A request whose thread exists satisfies its specification for what is left of its program. -/
theorem Run.sat (h : Run M prog (Pool.init w) tr s)
    (hsat : ∀ q, (prog q).Sat (Φ q) (Q q) []) {p : Prog Op Reply (Res q)}
    (hi : s.threads i = some ⟨q, p⟩) : p.Sat (Φ q) (Q q) (history i tr) := by
  have hf := h.follows i
  rw [hi] at hf
  exact (hsat q).trace hf.1

/-- **Every operation of a run was allowed** by the specification of its request. -/
theorem Run.sat_op (h : Run M prog (Pool.init w) tr s) (hsat : ∀ q, (prog q).Sat (Φ q) (Q q) [])
    {o : Op} {r : Reply o} (e : tr = tr₁ ++ .op i q o r :: tr₂) : Φ q (history i tr₁) o := by
  subst e
  obtain ⟨t, t', h₁, hs, -⟩ := h.split_step
  cases hs with
  | op hi _ => exact (h₁.sat hsat hi).1

/-- **Every result of a run is allowed** by the specification of its request. -/
theorem Run.sat_done (h : Run M prog (Pool.init w) tr s) (hsat : ∀ q, (prog q).Sat (Φ q) (Q q) [])
    {a : Res q} (hi : s.threads i = some ⟨q, .done a⟩) : Q q (history i tr) a :=
  h.sat hsat hi

end Spec

/-! ## Rely–guarantee -/

section RelyGuarantee

variable (M) {α : Type} (I : World → Prop) (R : World → World → Prop)
  (G : World → World → Prop)

/-- **Rely–guarantee**: from any world the others may lead to (`R`, keeping `I`), every operation
of the program as client `i` keeps `I` and moves within `G`; results satisfy `Q`. -/
def Holds (i : ℕ) (Q : α → World → Prop) : Prog Op Reply α → World → Prop
  | .done a, w => Q a w
  | .op o k, w => ∀ w₁, R w w₁ → I w₁ → ∀ a r w₂, M.exec w₁ i o a = some (r, w₂) →
      I w₂ ∧ G w₁ w₂ ∧ Holds i Q (k r) w₂

variable {M I R G}

/-- A rely–guarantee specification survives moves of the others. -/
theorem Holds.stable {i : ℕ} {Q : α → World → Prop} (hR : ∀ w w' w'', R w w' → R w' w'' → R w w'')
    (hQ : ∀ a w w', Q a w → R w w' → Q a w') {p : Prog Op Reply α} {w w' : World}
    (h : Holds M I R G i Q p w) (hw : R w w') : Holds M I R G i Q p w' := by
  cases p with
  | done a => exact hQ a w w' h hw
  | op o k => exact fun w₁ h₁ => h w₁ (hR _ _ _ hw h₁)

/-- Sequencing. -/
theorem Holds.bind {β : Type} {i : ℕ} {Q : β → World → Prop} {f : α → Prog Op Reply β}
    {p : Prog Op Reply α} : ∀ {w : World},
    Holds M I R G i (fun a w => Holds M I R G i Q (f a) w) p w → Holds M I R G i Q (p >>= f) w := by
  induction p with
  | done a => exact fun h => h
  | op o k ih =>
    exact fun h w₁ h₁ hi a r w₂ he => (h w₁ h₁ hi a r w₂ he).imp id (.imp id (ih r))

end RelyGuarantee

/-- **The rule for interleavings.** Every thread keeps the invariant and its guarantee, and the
guarantee of each thread and the moves of the environment are within the rely of the others. -/
theorem Run.holds {w : World} {I : World → Prop} {R G : ℕ → World → World → Prop}
    {Q : ∀ (_ : ℕ) (q : Req), Res q → World → Prop}
    (htrans : ∀ i w w' w'', R i w w' → R i w' w'' → R i w w'')
    (hstable : ∀ i q a w w', Q i q a w → R i w w' → Q i q a w')
    (hGR : ∀ i j, i ≠ j → ∀ w w', G i w w' → R j w w')
    (henv : ∀ w e w', I w → M.env w e = some w' → I w' ∧ ∀ i, R i w w')
    (hprog : ∀ i q w, I w → Holds M I (R i) (G i) i (Q i q) (prog q) w)
    (hrefl : ∀ i w, R i w w) (hI : I w) (h : Run M prog (Pool.init w) tr s) :
    I s.world ∧ ∀ i q p, s.threads i = some ⟨q, p⟩ →
      Holds M I (R i) (G i) i (Q i q) p s.world := by
  induction h with
  | nil => exact ⟨hI, fun i q p hp => by cases hp⟩
  | snoc hr hs ih =>
    obtain ⟨ihI, ih⟩ := ih
    cases hs with
    | @start j q hj =>
      refine ⟨ihI, fun i q' p hp => ?_⟩
      by_cases hij : i = j
      · subst hij
        simp only [Function.update_self, Option.some.injEq] at hp
        cases hp
        exact hprog i q _ ihI
      · simp only [Function.update_of_ne hij] at hp
        exact ih i q' p hp
    | @op j q o k a r w' hj he =>
      obtain ⟨hI', hG, hk⟩ := ih j q _ hj _ (hrefl _ _) ihI a r w' he
      refine ⟨hI', fun i q' p hp => ?_⟩
      by_cases hij : i = j
      · subst hij
        simp only [Function.update_self, Option.some.injEq] at hp
        cases hp
        exact hk
      · simp only [Function.update_of_ne hij] at hp
        exact (ih i q' p hp).stable (htrans i) (hstable i q') (hGR j i (Ne.symm hij) _ _ hG)
    | @env e w' he =>
      obtain ⟨hI', hR⟩ := henv _ e _ ihI he
      exact ⟨hI', fun i q p hp => (ih i q p hp).stable (htrans i) (hstable i q) (hR i)⟩

/-! ## Undisturbed programs -/

section Alone

variable {α β : Type}

/-- **A program undisturbed**: all its operations are those of client `i`, answered by `a`, and
nothing happens between them. -/
def Machine.alone (M : Machine World Op Reply Answer Env) (i : ℕ) (a : Answer) :
    Prog Op Reply α → World → Option (α × World)
  | .done x, w => some (x, w)
  | .op o k, w => match M.exec w i o a with
    | some (r, w') => M.alone i a (k r) w'
    | none => none

variable {i : ℕ} {a : Answer} {w w' : World}

@[simp] theorem alone_done (x : α) :
    M.alone i a (.done x : Prog Op Reply α) w = some (x, w) := rfl

theorem alone_op {o : Op} {k : Reply o → Prog Op Reply α} {r : Reply o}
    (h : M.exec w i o a = some (r, w')) : M.alone i a (.op o k) w = M.alone i a (k r) w' := by
  rw [Machine.alone, h]

/-- Sequencing. -/
theorem alone_bind {p : Prog Op Reply α} {f : α → Prog Op Reply β} {x : α} :
    ∀ {w : World}, M.alone i a p w = some (x, w') →
      M.alone i a (p >>= f) w = M.alone i a (f x) w' := by
  induction p with
  | done y =>
    intro w h
    cases h
    rfl
  | op o k ih =>
    intro w h
    rw [Machine.alone] at h
    rw [Prog.op_bind, Machine.alone]
    cases he : M.exec w i o a with
    | none =>
      rw [he] at h
      cases h
    | some rw =>
      rw [he] at h
      exact ih rw.1 h

/-- **An undisturbed thread is a run** of its pool. -/
theorem run_of_alone {q : Req} {x : Res q} : ∀ {p : Prog Op Reply (Res q)}
    {s : Pool World Reply Res}, s.threads i = some ⟨q, p⟩ → M.alone i a p s.world = some (x, w') →
      ∃ tr t, Run M prog s tr t ∧ t.world = w' ∧ t.threads i = some ⟨q, .done x⟩ ∧
        ∀ l ∈ tr, ∃ o r, l = .op i q o r := by
  intro p
  induction p with
  | done y =>
    intro s hs h
    cases h
    exact ⟨[], s, .nil, rfl, hs, nofun⟩
  | op o k ih =>
    intro s hs h
    rw [Machine.alone] at h
    cases he : M.exec s.world i o a with
    | none =>
      rw [he] at h
      cases h
    | some rw =>
      obtain ⟨r, w₁⟩ := rw
      rw [he] at h
      obtain ⟨tr, t, hr, hw, ht, hl⟩ := ih r
        (s := ⟨w₁, Function.update s.threads i (some ⟨q, k r⟩)⟩) (Function.update_self ..) h
      have hstep : Run M prog s [.op i q o r] _ := Run.nil.snoc (.op hs he)
      refine ⟨_, t, hstep.append hr, hw, ht, fun l hm => ?_⟩
      rcases List.mem_cons.mp hm with rfl | hm
      · exact ⟨o, r, rfl⟩
      · exact hl l hm

end Alone

/-! ## The scheduler -/

/-- A choice of the scheduler. -/
inductive Choice (Answer Env Req : Type) where
  | start (i : ℕ) (q : Req)
  | step (i : ℕ) (a : Answer)
  | env (e : Env)

variable (M prog) in
/-- The step a choice makes, if it can be made. -/
def playStep (s : Pool World Reply Res) :
    Choice Answer Env Req → Option (Label Reply Env Req × Pool World Reply Res)
  | .start i q => match s.threads i with
    | none => some (.start i q, ⟨s.world, Function.update s.threads i (some ⟨q, prog q⟩)⟩)
    | some _ => none
  | .step i a => match s.threads i with
    | some ⟨q, .op o k⟩ => match M.exec s.world i o a with
      | some (r, w) => some (.op i q o r, ⟨w, Function.update s.threads i (some ⟨q, k r⟩)⟩)
      | none => none
    | _ => none
  | .env e => match M.env s.world e with
    | some w => some (.env e, ⟨w, s.threads⟩)
    | none => none

variable (M prog) in
/-- **The scheduler**: the labels and the state that a list of choices leads to. -/
def play (s : Pool World Reply Res) :
    List (Choice Answer Env Req) → Option (List (Label Reply Env Req) × Pool World Reply Res)
  | [] => some ([], s)
  | c :: cs => match playStep M prog s c with
    | some (l, t) => (play t cs).map fun x => (l :: x.1, x.2)
    | none => none

theorem step_of_playStep {c : Choice Answer Env Req} {l : Label Reply Env Req}
    (h : playStep M prog s c = some (l, t)) : Step M prog s l t := by
  cases c with
  | start i q =>
    simp only [playStep] at h
    split at h
    · cases h
      exact .start q ‹_›
    · cases h
  | step i a =>
    simp only [playStep] at h
    split at h
    · split at h
      · cases h
        exact .op ‹_› ‹_›
      · cases h
    · cases h
  | env e =>
    simp only [playStep] at h
    split at h
    · cases h
      exact .env ‹_›
    · cases h

/-- What the scheduler plays is a run. -/
theorem run_of_play {cs : List (Choice Answer Env Req)} :
    ∀ {s t : Pool World Reply Res} {tr : List (Label Reply Env Req)},
    play M prog s cs = some (tr, t) → Run M prog s tr t := by
  induction cs with
  | nil =>
    intro s t tr h
    cases h
    exact .nil
  | cons c cs ih =>
    intro s t tr h
    simp only [play] at h
    split at h
    · rename_i l s' hs
      obtain ⟨⟨tr', t'⟩, ht, e⟩ := Option.map_eq_some_iff.mp h
      cases e
      have h₁ : Run M prog s [l] s' := Run.nil.snoc (step_of_playStep hs)
      exact h₁.append (ih ht)
    · cases h

variable (M prog s) in
/-- A run with a property that can be checked along the choices. -/
theorem exists_run_of_play (cs : List (Choice Answer Env Req))
    (P : List (Label Reply Env Req) × Pool World Reply Res → Prop)
    [DecidablePred P] (h : (play M prog s cs).any (fun x => decide (P x)) = true) :
    ∃ tr t, Run M prog s tr t ∧ P (tr, t) := by
  obtain ⟨⟨tr, t⟩, hx, hP⟩ := (Option.any_eq_true _ _).mp h
  exact ⟨tr, t, run_of_play hx, of_decide_eq_true hP⟩

variable (M prog s) in
/-- A run and a step after it with a property that can be checked along the choices. -/
theorem exists_step_of_play (cs : List (Choice Answer Env Req)) (c : Choice Answer Env Req)
    (P : List (Label Reply Env Req) × Pool World Reply Res →
      Label Reply Env Req × Pool World Reply Res → Prop)
    [∀ x, DecidablePred (P x)]
    (h : (play M prog s cs).any (fun x => (playStep M prog x.2 c).any fun y => decide (P x y)) =
      true) : ∃ tr t l u, Run M prog s tr t ∧ Step M prog t l u ∧ P (tr, t) (l, u) := by
  obtain ⟨⟨tr, t⟩, hx, hy⟩ := (Option.any_eq_true _ _).mp h
  obtain ⟨⟨l, u⟩, hl, hP⟩ := (Option.any_eq_true _ _).mp hy
  exact ⟨tr, t, l, u, run_of_play hx, step_of_playStep hl, of_decide_eq_true hP⟩

variable (M prog s) in
/-- A run through a step with a property that can be checked along the choices. -/
theorem exists_cut_of_play (cs : List (Choice Answer Env Req)) (c : Choice Answer Env Req)
    (cs' : List (Choice Answer Env Req))
    (P : List (Label Reply Env Req) × Pool World Reply Res →
      Label Reply Env Req × Pool World Reply Res →
      List (Label Reply Env Req) × Pool World Reply Res → Prop)
    [∀ x y, DecidablePred (P x y)]
    (h : (play M prog s cs).any (fun x => (playStep M prog x.2 c).any fun y =>
      (play M prog y.2 cs').any fun z => decide (P x y z)) = true) :
    ∃ tr t l u tr' v, Run M prog s tr t ∧ Step M prog t l u ∧ Run M prog u tr' v ∧
      P (tr, t) (l, u) (tr', v) := by
  obtain ⟨⟨tr, t⟩, hx, hy⟩ := (Option.any_eq_true _ _).mp h
  obtain ⟨⟨l, u⟩, hl, hz⟩ := (Option.any_eq_true _ _).mp hy
  obtain ⟨⟨tr', v⟩, hv, hP⟩ := (Option.any_eq_true _ _).mp hz
  exact ⟨tr, t, l, u, tr', v, run_of_play hx, step_of_playStep hl, run_of_play hv,
    of_decide_eq_true hP⟩

end Interleave
