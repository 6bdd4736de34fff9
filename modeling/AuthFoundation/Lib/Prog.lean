import Mathlib

set_option autoImplicit false

/-!
# Programs over operations

A program either is done or issues one operation and resumes on its reply. Programs are run by an
environment that chooses the replies; what a program did so far is its *history*.

* `Prog`, `Prog.bind`, `Prog.ask`: programs, sequencing, one operation; `Prog.interp` replaces
  operations by programs.
* `Trace p H p'`: after the operations and replies `H`, program `p` has become `p'`.
* `Sat Φ Q p H`: with history `H` behind it, every operation `p` issues is allowed by `Φ`, and it
  only returns results allowed by `Q`, whatever the replies (`Sat.seq`, `Sat.invariant`,
  `Sat.trace`).
-/

/-- Programs that issue operations `o : Op` and resume on a reply of type `Reply o`. -/
inductive Prog (Op : Type) (Reply : Op → Type) (α : Type) : Type where
  | done (a : α)
  | op (o : Op) (k : Reply o → Prog Op Reply α)

/-- Operations with the replies they got, oldest first. -/
abbrev History {Op : Type} (Reply : Op → Type) := List (Σ o, Reply o)

/-- The operation got this reply. -/
def Observed {Op : Type} {Reply : Op → Type} (H : History Reply) (o : Op) (r : Reply o) : Prop :=
  ⟨o, r⟩ ∈ H

section Observed

variable {Op : Type} {Reply : Op → Type} {H : History Reply} {o : Op} {r : Reply o}

theorem Observed.append (h : Observed H o r) (D : History Reply) : Observed (H ++ D) o r :=
  List.mem_append_left _ h

@[simp] theorem observed_last : Observed (H ++ [⟨o, r⟩]) o r :=
  List.mem_append_right _ (List.mem_singleton_self _)

end Observed

namespace Prog

variable {Op Op' : Type} {Reply : Op → Type} {Reply' : Op' → Type} {α β γ : Type}

/-- Run `p`, then `f` on its result. -/
def bind : Prog Op Reply α → (α → Prog Op Reply β) → Prog Op Reply β
  | done a, f => f a
  | op o k, f => op o fun r => (k r).bind f

instance : Monad (Prog Op Reply) where
  pure := done
  bind := bind

/-- Issue one operation and return its reply. -/
def ask (o : Op) : Prog Op Reply (Reply o) := op o done

@[simp] theorem pure_eq (a : α) : (pure a : Prog Op Reply α) = done a := rfl

@[simp] theorem done_bind (a : α) (f : α → Prog Op Reply β) : (done a >>= f) = f a := rfl

@[simp] theorem op_bind (o : Op) (k : Reply o → Prog Op Reply α) (f : α → Prog Op Reply β) :
    (op o k >>= f) = op o fun r => k r >>= f := rfl

@[simp] theorem ask_bind (o : Op) (f : Reply o → Prog Op Reply β) : (ask o >>= f) = op o f := rfl

/-- Replace every operation by a program that computes its reply. -/
def interp (h : ∀ o, Prog Op' Reply' (Reply o)) : Prog Op Reply α → Prog Op' Reply' α
  | done a => done a
  | op o k => (h o).bind fun r => (k r).interp h

@[simp] theorem interp_done (h : ∀ o, Prog Op' Reply' (Reply o)) (a : α) :
    (done a : Prog Op Reply α).interp h = done a := rfl

@[simp] theorem interp_op (h : ∀ o, Prog Op' Reply' (Reply o)) (o : Op)
    (k : Reply o → Prog Op Reply α) : (op o k).interp h = h o >>= fun r => (k r).interp h := rfl

/-! ## Traces -/

/-- **Partial runs**: with the operations and replies `H`, program `p` becomes `p'`. -/
inductive Trace (p : Prog Op Reply α) : History Reply → Prog Op Reply α → Prop
  | nil : Trace p [] p
  | snoc {H : History Reply} {o : Op} {k : Reply o → Prog Op Reply α} (r : Reply o) :
      Trace p H (op o k) → Trace p (H ++ [⟨o, r⟩]) (k r)

/-! ## Local specifications -/

variable {Φ Φ' : History Reply → Op → Prop} {Q Q' : History Reply → α → Prop}

/-- **Local specification**: after history `H`, the program only issues operations allowed by `Φ`
and only returns results allowed by `Q`. -/
def Sat (Φ : History Reply → Op → Prop) (Q : History Reply → α → Prop) :
    Prog Op Reply α → History Reply → Prop
  | done a, H => Q H a
  | op o k, H => Φ H o ∧ ∀ r, Sat Φ Q (k r) (H ++ [⟨o, r⟩])

@[simp] theorem sat_done (a : α) (H : History Reply) :
    Sat Φ Q (done a : Prog Op Reply α) H ↔ Q H a := Iff.rfl

@[simp] theorem sat_op (o : Op) (k : Reply o → Prog Op Reply α) (H : History Reply) :
    Sat Φ Q (op o k) H ↔ Φ H o ∧ ∀ r, Sat Φ Q (k r) (H ++ [⟨o, r⟩]) := Iff.rfl

theorem sat_ask {o : Op} {H : History Reply} (h : Φ H o) :
    Sat Φ (fun H' r => Observed H' o r) (ask o) H := ⟨h, fun _ => observed_last⟩

/-- The rule of consequence. -/
theorem Sat.mono (hΦ : ∀ H o, Φ H o → Φ' H o) (hQ : ∀ H a, Q H a → Q' H a)
    {p : Prog Op Reply α} : ∀ {H : History Reply}, Sat Φ Q p H → Sat Φ' Q' p H := by
  induction p with
  | done a => exact fun h => hQ _ _ h
  | op o k ih => exact fun h => ⟨hΦ _ _ h.1, fun r => ih r (h.2 r)⟩

/-- **Sequencing**: the result of `p` is passed on with the history behind it. -/
theorem Sat.bind {R : History Reply → β → Prop} {f : α → Prog Op Reply β}
    {p : Prog Op Reply α} : ∀ {H : History Reply},
    Sat Φ (fun H' a => Sat Φ R (f a) H') p H → Sat Φ R (p >>= f) H := by
  induction p with
  | done a => exact fun h => h
  | op o k ih => exact fun h => ⟨h.1, fun r => ih r (h.2 r)⟩

/-- Two specifications hold together. -/
theorem Sat.and {p : Prog Op Reply α} : ∀ {H : History Reply}, Sat Φ Q p H → Sat Φ' Q' p H →
    Sat (fun H o => Φ H o ∧ Φ' H o) (fun H a => Q H a ∧ Q' H a) p H := by
  induction p with
  | done a => exact fun h h' => ⟨h, h'⟩
  | op o k ih => exact fun h h' => ⟨⟨h.1, h'.1⟩, fun r => ih r (h.2 r) (h'.2 r)⟩

/-- What is learned from any replies holds next to a specification. -/
theorem Sat.learn {p : Prog Op Reply α} {H : History Reply} (h : Sat Φ Q p H)
    (h' : Sat (fun _ _ => True) Q' p H) : Sat Φ (fun H a => Q H a ∧ Q' H a) p H :=
  (h.and h').mono (fun _ _ hΦ => hΦ.1) fun _ _ hQ => hQ

/-- **Invariants of the history** hold at every operation and at the end. -/
theorem Sat.invariant {I : History Reply → Prop}
    (hI : ∀ H o r, I H → Φ H o → I (H ++ [⟨o, r⟩])) {p : Prog Op Reply α} :
    ∀ {H : History Reply}, Sat Φ Q p H → I H →
      Sat (fun H o => Φ H o ∧ I H) (fun H a => Q H a ∧ I H) p H := by
  induction p with
  | done a => exact fun h hH => ⟨h, hH⟩
  | op o k ih => exact fun h hH => ⟨⟨h.1, hH⟩, fun r => ih r (h.2 r) (hI _ _ _ hH h.1)⟩

variable {P : Op → Prop}

/-- What a program adds to the history has the property of its operations. -/
theorem Sat.appends {p : Prog Op Reply α} : ∀ {H : History Reply},
    Sat (fun H o => Φ H o ∧ P o) Q p H →
    Sat Φ (fun H' a => ∃ D, H' = H ++ D ∧ (∀ e ∈ D, P e.1) ∧ Q (H ++ D) a) p H := by
  induction p with
  | done a => exact fun {H} h => ⟨[], by simp, by simp, by simpa using h⟩
  | op o k ih =>
    intro H h
    refine ⟨h.1.1, fun r => (ih r (h.2 r)).mono (fun _ _ => id) ?_⟩
    rintro H' a ⟨D, rfl, hD, hQ⟩
    refine ⟨⟨o, r⟩ :: D, by simp, ?_, by simpa using hQ⟩
    intro e he
    rcases List.mem_cons.mp he with rfl | he
    · exact h.1.2
    · exact hD e he

/-- **Sequencing** by a specification of the first program, all of whose operations have `P`. -/
theorem Sat.seq {R : History Reply → β → Prop} {p : Prog Op Reply α} {H : History Reply}
    {f : α → Prog Op Reply β} (h : Sat (fun H o => Φ H o ∧ P o) Q p H)
    (hf : ∀ a D, (∀ e ∈ D, P e.1) → Q (H ++ D) a → Sat Φ R (f a) (H ++ D)) :
    Sat Φ R (p >>= f) H := by
  refine (h.appends.mono (fun _ _ => id) ?_).bind
  rintro H' a ⟨D, rfl, hD, hQ⟩
  exact hf a D hD hQ

/-- **A specification follows the program along its traces.** -/
theorem Sat.trace {p p' : Prog Op Reply α} {H₀ H : History Reply} (h : Sat Φ Q p H₀)
    (ht : Trace p H p') : Sat Φ Q p' (H₀ ++ H) := by
  induction ht with
  | nil => rwa [List.append_nil]
  | snoc r _ ih =>
    rw [← List.append_assoc]
    exact ih.2 r

end Prog
