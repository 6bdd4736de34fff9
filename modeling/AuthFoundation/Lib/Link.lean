import AuthFoundation.Lib.Pool

set_option autoImplicit false

/-!
# Two pools side by side

The steps of two pools in one run, where the second one decides which steps the first may take: this
is how answers get from one to the other.

* `LinkedRun`: the runs; `lefts`, `rights`: what each pool did.
* `LinkedRun.left_run`, `LinkedRun.right_run`: **each pool runs as if it were alone**.
* `LinkedRun.left_cut`: what the second pool had done when the first took a step.
* `LinkedRun.lefts_append`, `LinkedRun.rights_append`: runs of one of them go on.
-/

namespace Interleave

section Labels

variable {L₁ L₂ : Type} {tr : List (L₁ ⊕ L₂)} {l : L₁} {ls : List L₁}

/-- The labels of the first pool. -/
def lefts (tr : List (L₁ ⊕ L₂)) : List L₁ := tr.filterMap Sum.getLeft?

/-- The labels of the second pool. -/
def rights (tr : List (L₁ ⊕ L₂)) : List L₂ := tr.filterMap Sum.getRight?

@[simp] theorem lefts_append (tr₁ tr₂ : List (L₁ ⊕ L₂)) :
    lefts (tr₁ ++ tr₂) = lefts tr₁ ++ lefts tr₂ := List.filterMap_append

@[simp] theorem rights_append (tr₁ tr₂ : List (L₁ ⊕ L₂)) :
    rights (tr₁ ++ tr₂) = rights tr₁ ++ rights tr₂ := List.filterMap_append

@[simp] theorem lefts_inl_cons (l : L₁) (tr : List (L₁ ⊕ L₂)) :
    lefts (.inl l :: tr) = l :: lefts tr := rfl

@[simp] theorem rights_inl_cons (l : L₁) (tr : List (L₁ ⊕ L₂)) :
    rights (.inl l :: tr) = rights tr := rfl

@[simp] theorem lefts_inr_cons (l : L₂) (tr : List (L₁ ⊕ L₂)) :
    lefts (.inr l :: tr) = lefts tr := rfl

@[simp] theorem rights_inr_cons (l : L₂) (tr : List (L₁ ⊕ L₂)) :
    rights (.inr l :: tr) = l :: rights tr := rfl

@[simp] theorem lefts_nil : lefts ([] : List (L₁ ⊕ L₂)) = [] := rfl

@[simp] theorem rights_nil : rights ([] : List (L₁ ⊕ L₂)) = [] := rfl

@[simp] theorem lefts_map_inl (ls : List L₁) :
    lefts (ls.map .inl : List (L₁ ⊕ L₂)) = ls := by
  induction ls with
  | nil => rfl
  | cons l ls ih => exact congrArg (l :: ·) ih

@[simp] theorem lefts_map_inr (ls : List L₂) : lefts (ls.map .inr : List (L₁ ⊕ L₂)) = [] := by
  induction ls with
  | nil => rfl
  | cons l ls ih => exact ih

@[simp] theorem rights_map_inl (ls : List L₁) : rights (ls.map .inl : List (L₁ ⊕ L₂)) = [] := by
  induction ls with
  | nil => rfl
  | cons l ls ih => exact ih

@[simp] theorem rights_map_inr (ls : List L₂) :
    rights (ls.map .inr : List (L₁ ⊕ L₂)) = ls := by
  induction ls with
  | nil => rfl
  | cons l ls ih => exact congrArg (l :: ·) ih

/-- A step of the first pool is a step of both. -/
theorem lefts_cut {ls' : List L₁} (h : lefts tr = ls ++ l :: ls') :
    ∃ tr₁ tr₂, tr = tr₁ ++ .inl l :: tr₂ ∧ lefts tr₁ = ls ∧ lefts tr₂ = ls' := by
  induction tr generalizing ls with
  | nil => cases ls <;> cases h
  | cons x tr ih =>
    cases x with
    | inl x =>
      rw [lefts_inl_cons] at h
      cases ls with
      | nil =>
        obtain ⟨rfl, ht⟩ := List.cons.inj h
        exact ⟨[], tr, rfl, rfl, ht⟩
      | cons y ls =>
        obtain ⟨rfl, ht⟩ := List.cons.inj h
        obtain ⟨tr₁, tr₂, rfl, rfl, h₂⟩ := ih ht
        exact ⟨.inl x :: tr₁, tr₂, rfl, rfl, h₂⟩
    | inr x =>
      obtain ⟨tr₁, tr₂, rfl, rfl, h₂⟩ := ih h
      exact ⟨.inr x :: tr₁, tr₂, rfl, rfl, h₂⟩

end Labels

section Runs

variable {World₁ Op₁ : Type} {Reply₁ : Op₁ → Type} {Answer₁ Env₁ Req₁ : Type} {Res₁ : Req₁ → Type}
  {World₂ Op₂ : Type} {Reply₂ : Op₂ → Type} {Answer₂ Env₂ Req₂ : Type} {Res₂ : Req₂ → Type}
  (M₁ : Machine World₁ Op₁ Reply₁ Answer₁ Env₁) (prog₁ : ∀ q, Prog Op₁ Reply₁ (Res₁ q))
  (M₂ : Machine World₂ Op₂ Reply₂ Answer₂ Env₂) (prog₂ : ∀ q, Prog Op₂ Reply₂ (Res₂ q))
  (allowed : Pool World₂ Reply₂ Res₂ → Label Reply₁ Env₁ Req₁ → Prop)

/-- **Runs of two pools**, with the labels of both. -/
inductive LinkedRun (s : Pool World₁ Reply₁ Res₁) (t : Pool World₂ Reply₂ Res₂) :
    List (Label Reply₁ Env₁ Req₁ ⊕ Label Reply₂ Env₂ Req₂) →
      Pool World₁ Reply₁ Res₁ → Pool World₂ Reply₂ Res₂ → Prop
  | nil : LinkedRun s t [] s t
  | left {tr : List (Label Reply₁ Env₁ Req₁ ⊕ Label Reply₂ Env₂ Req₂)}
      {s' s'' : Pool World₁ Reply₁ Res₁} {t' : Pool World₂ Reply₂ Res₂}
      {l : Label Reply₁ Env₁ Req₁} (h : LinkedRun s t tr s' t') (ha : allowed t' l)
      (hs : Step M₁ prog₁ s' l s'') : LinkedRun s t (tr ++ [.inl l]) s'' t'
  | right {tr : List (Label Reply₁ Env₁ Req₁ ⊕ Label Reply₂ Env₂ Req₂)}
      {s' : Pool World₁ Reply₁ Res₁} {t' t'' : Pool World₂ Reply₂ Res₂}
      {l : Label Reply₂ Env₂ Req₂} (h : LinkedRun s t tr s' t') (hs : Step M₂ prog₂ t' l t'') :
    LinkedRun s t (tr ++ [.inr l]) s' t''

variable {M₁ prog₁ M₂ prog₂ allowed}
  {tr : List (Label Reply₁ Env₁ Req₁ ⊕ Label Reply₂ Env₂ Req₂)}
  {s s' s'' : Pool World₁ Reply₁ Res₁} {t t' t'' : Pool World₂ Reply₂ Res₂}

/-- **The first pool runs.** -/
theorem LinkedRun.left_run (h : LinkedRun M₁ prog₁ M₂ prog₂ allowed s t tr s' t') :
    Run M₁ prog₁ s (lefts tr) s' := by
  induction h with
  | nil => exact .nil
  | left _ _ hs ih =>
    rw [lefts_append]
    exact ih.snoc hs
  | right _ _ ih =>
    rw [lefts_append]
    simpa using ih

/-- **The second pool runs.** -/
theorem LinkedRun.right_run (h : LinkedRun M₁ prog₁ M₂ prog₂ allowed s t tr s' t') :
    Run M₂ prog₂ t (rights tr) t' := by
  induction h with
  | nil => exact .nil
  | left _ _ _ ih =>
    rw [rights_append]
    simpa using ih
  | right _ hs ih =>
    rw [rights_append]
    exact ih.snoc hs

/-- **The second pool allowed each step of the first** at the time it was taken. -/
theorem LinkedRun.left_cut (h : LinkedRun M₁ prog₁ M₂ prog₂ allowed s t tr s' t') :
    ∀ {tr₁ tr₂ : List (Label Reply₁ Env₁ Req₁ ⊕ Label Reply₂ Env₂ Req₂)}
      {l : Label Reply₁ Env₁ Req₁},
    tr = tr₁ ++ .inl l :: tr₂ → ∃ u v, LinkedRun M₁ prog₁ M₂ prog₂ allowed s t tr₁ u v ∧
      allowed v l := by
  induction h with
  | nil =>
    intro tr₁ tr₂ l e
    cases tr₁ <;> cases e
  | @left tr u u' v l' h ha hs ih =>
    intro tr₁ tr₂ l e
    rcases List.eq_nil_or_concat tr₂ with rfl | ⟨tr₃, x, rfl⟩
    · obtain ⟨rfl, hl⟩ := List.append_inj' e rfl
      cases hl
      exact ⟨u, v, h, ha⟩
    · rw [List.concat_eq_append, ← List.cons_append, ← List.append_assoc] at e
      exact ih (List.append_inj' e rfl).1
  | @right tr u v v' l' h hs ih =>
    intro tr₁ tr₂ l e
    rcases List.eq_nil_or_concat tr₂ with rfl | ⟨tr₃, x, rfl⟩
    · cases (List.append_inj' e rfl).2
    · rw [List.concat_eq_append, ← List.cons_append, ← List.append_assoc] at e
      exact ih (List.append_inj' e rfl).1

/-- The first pool goes on. -/
theorem LinkedRun.lefts_append {ls : List (Label Reply₁ Env₁ Req₁)}
    (h : LinkedRun M₁ prog₁ M₂ prog₂ allowed s t tr s' t') (hr : Run M₁ prog₁ s' ls s'')
    (ha : ∀ l ∈ ls, allowed t' l) :
    LinkedRun M₁ prog₁ M₂ prog₂ allowed s t (tr ++ ls.map .inl) s'' t' := by
  induction hr with
  | nil => simpa using h
  | @snoc ls u u' l _ hs ih =>
    have hu := ih fun l hl => ha l (List.mem_append_left _ hl)
    rw [List.map_append, ← List.append_assoc]
    exact hu.left (ha l (by simp)) hs

/-- The second pool goes on. -/
theorem LinkedRun.rights_append {ls : List (Label Reply₂ Env₂ Req₂)}
    (h : LinkedRun M₁ prog₁ M₂ prog₂ allowed s t tr s' t') (hr : Run M₂ prog₂ t' ls t'') :
    LinkedRun M₁ prog₁ M₂ prog₂ allowed s t (tr ++ ls.map .inr) s' t'' := by
  induction hr with
  | nil => simpa using h
  | snoc _ hs ih =>
    rw [List.map_append, ← List.append_assoc]
    exact ih.right hs

end Runs

end Interleave
