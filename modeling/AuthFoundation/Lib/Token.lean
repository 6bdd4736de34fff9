import Mathlib

set_option autoImplicit false

/-!
# One-time tokens

The life of a value that is created at most once and used at most once.

* `Phase`, `Next`, `Reaches`: a token is unborn, live, used or gone, and never goes back.
* `reaches_used`, `reaches_gone`, `reaches_live`: what can follow each phase.
-/

namespace Token

variable {α : Type}

/-- The phases of a token that carries `a`. -/
inductive Phase (α : Type) where
  | unborn
  | live (a : α)
  | used (a : α)
  | gone

/-- **One step** of a token: it is created once, used once, and can be dropped. -/
inductive Next : Phase α → Phase α → Prop
  | stay (p : Phase α) : Next p p
  | create (a : α) : Next .unborn (.live a)
  | use (a : α) : Next (.live a) (.used a)
  | drop {p : Phase α} (h : p ≠ .unborn) : Next p .gone

/-- Any number of steps. -/
abbrev Reaches : Phase α → Phase α → Prop := Relation.ReflTransGen Next

variable {a : α} {p : Phase α}

theorem reaches_gone (h : Reaches .gone p) : p = .gone := by
  induction h with
  | refl => rfl
  | tail _ hn ih =>
    subst ih
    cases hn <;> rfl

/-- **A used token stays used** until it is gone. -/
theorem reaches_used (h : Reaches (.used a) p) : p = .used a ∨ p = .gone := by
  induction h with
  | refl => exact .inl rfl
  | tail _ hn ih =>
    obtain rfl | rfl := ih
    · cases hn with
      | stay => exact .inl rfl
      | drop => exact .inr rfl
    · cases hn <;> exact .inr rfl

/-- A live token keeps what it carries. -/
theorem reaches_live (h : Reaches (.live a) p) : p = .live a ∨ p = .used a ∨ p = .gone := by
  induction h with
  | refl => exact .inl rfl
  | tail _ hn ih =>
    obtain rfl | rfl | rfl := ih
    · cases hn with
      | stay => exact .inl rfl
      | use => exact .inr (.inl rfl)
      | drop => exact .inr (.inr rfl)
    · cases hn with
      | stay => exact .inr (.inl rfl)
      | drop => exact .inr (.inr rfl)
    · cases hn <;> exact .inr (.inr rfl)

end Token
