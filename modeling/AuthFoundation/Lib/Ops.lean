import AuthFoundation.Lib.Prog

set_option autoImplicit false

/-!
# The operations of a program

* `Prog.Only P p`: whatever the replies, all operations of `p` have the property `P`.
* `Only.bind`, `Only.ite`: programs are put together.
* `Only.sat`: the property as a local specification.
-/

namespace Prog

variable {Op : Type} {Reply : Op → Type} {α β : Type} {P : Op → Prop}

/-- **All operations of the program** have the property. -/
def Only (P : Op → Prop) : Prog Op Reply α → Prop
  | done _ => True
  | op o k => P o ∧ ∀ r, Only P (k r)

@[simp] theorem only_done (a : α) : Only P (done a : Prog Op Reply α) := trivial

@[simp] theorem only_pure (a : α) : Only P (pure a : Prog Op Reply α) := trivial

theorem only_ask {o : Op} (h : P o) : Only P (ask o : Prog Op Reply (Reply o)) :=
  ⟨h, fun _ => trivial⟩

theorem Only.mono {P' : Op → Prop} (hP : ∀ o, P o → P' o) {p : Prog Op Reply α}
    (h : Only P p) : Only P' p := by
  induction p with
  | done a => trivial
  | op o k ih => exact ⟨hP o h.1, fun r => ih r (h.2 r)⟩

theorem Only.bind {p : Prog Op Reply α} {f : α → Prog Op Reply β} (h : Only P p)
    (hf : ∀ a, Only P (f a)) : Only P (p >>= f) := by
  induction p with
  | done a => exact hf a
  | op o k ih => exact ⟨h.1, fun r => ih r (h.2 r)⟩

theorem Only.ite {c : Prop} [Decidable c] {p q : Prog Op Reply α} (hp : Only P p)
    (hq : Only P q) : Only P (if c then p else q) := by
  by_cases h : c
  · rwa [if_pos h]
  · rwa [if_neg h]

/-- The property holds of every operation, after any history. -/
theorem Only.sat {p : Prog Op Reply α} (h : Only P p) :
    ∀ H, Sat (fun _ o => P o) (fun _ _ => True) p H := by
  induction p with
  | done a => exact fun _ => trivial
  | op o k ih => exact fun H => ⟨h.1, fun r => ih r (h.2 r) _⟩

end Prog
