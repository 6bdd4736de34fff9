import Mathlib

set_option autoImplicit false

/-!
# Regular expressions with anchors

* `Expr`, `Expr.Matches`: expressions, and what they match between the texts on both sides.
* `Expr.Found`: an expression matches somewhere in a text.
* `found_anchored`: with both anchors it matches the whole text; `matches_rep_oneOf`: repeated
  classes.
-/

namespace Regex

/-- Expressions over characters. -/
inductive Expr where
  /-- The beginning of the text. -/
  | start
  /-- The end of the text. -/
  | stop
  /-- A character in one of these ranges. -/
  | oneOf (ranges : List (Char × Char))
  | seq (r s : Expr)
  /-- From `low` to `high` times. -/
  | rep (r : Expr) (low high : ℕ)

/-- In one of the ranges, by code point. -/
def inRanges (ranges : List (Char × Char)) (c : Char) : Bool :=
  ranges.any fun p => p.1 ≤ c && c ≤ p.2

/-- Matches that follow each other. -/
def Times (P : List Char → List Char → List Char → Prop) :
    ℕ → List Char → List Char → List Char → Prop
  | 0, _, part, _ => part = []
  | n + 1, before, part, after => ∃ first rest, part = first ++ rest ∧
      P before first (rest ++ after) ∧ Times P n (before ++ first) rest after

/-- The expression matches `part` when it stands between `before` and `after`. -/
def Expr.Matches : Expr → List Char → List Char → List Char → Prop
  | .start, before, part, _ => before = [] ∧ part = []
  | .stop, _, part, after => part = [] ∧ after = []
  | .oneOf ranges, _, part, _ => ∃ c, part = [c] ∧ inRanges ranges c = true
  | .seq r s, before, part, after => ∃ first rest, part = first ++ rest ∧
      r.Matches before first (rest ++ after) ∧ s.Matches (before ++ first) rest after
  | .rep r low high, before, part, after => ∃ n, low ≤ n ∧ n ≤ high ∧
      Times r.Matches n before part after

/-- The expression matches a part of the text. -/
def Expr.Found (r : Expr) (text : List Char) : Prop :=
  ∃ before part after, text = before ++ part ++ after ∧ r.Matches before part after

section Lemmas

variable {r : Expr} {ranges : List (Char × Char)} {before part after text : List Char}

theorem found_anchored : (Expr.seq .start (.seq r .stop)).Found text ↔ r.Matches [] text [] := by
  constructor
  · rintro ⟨_, _, _, rfl, _, _, rfl, ⟨rfl, rfl⟩, part, _, rfl, hr, rfl, rfl⟩
    simpa using hr
  · intro hr
    refine ⟨[], text, [], by simp, [], text, rfl, ⟨rfl, rfl⟩, text, [], by simp, ?_, rfl, rfl⟩
    simpa using hr

theorem times_oneOf {n : ℕ} : Times (Expr.oneOf ranges).Matches n before part after ↔
    part.length = n ∧ ∀ c ∈ part, inRanges ranges c = true := by
  induction n generalizing before part with
  | zero =>
    rw [List.length_eq_zero_iff]
    constructor
    · rintro rfl
      exact ⟨rfl, by simp⟩
    · exact fun h => h.1
  | succ n ih =>
    constructor
    · rintro ⟨_, rest, rfl, ⟨c, rfl, hc⟩, hrest⟩
      obtain ⟨hl, hall⟩ := ih.mp hrest
      exact ⟨by simp [hl], by simpa using ⟨hc, hall⟩⟩
    · rintro ⟨hl, hall⟩
      cases part with
      | nil => cases hl
      | cons c rest =>
        obtain ⟨hc, hrest⟩ := List.forall_mem_cons.mp hall
        exact ⟨[c], rest, rfl, ⟨c, rfl, hc⟩, ih.mpr ⟨Nat.succ.inj hl, hrest⟩⟩

theorem matches_rep_oneOf {low high : ℕ} :
    (Expr.rep (.oneOf ranges) low high).Matches before part after ↔
      low ≤ part.length ∧ part.length ≤ high ∧ ∀ c ∈ part, inRanges ranges c = true := by
  constructor
  · rintro ⟨n, hlow, hhigh, h⟩
    obtain ⟨rfl, hall⟩ := times_oneOf.mp h
    exact ⟨hlow, hhigh, hall⟩
  · rintro ⟨hlow, hhigh, hall⟩
    exact ⟨part.length, hlow, hhigh, times_oneOf.mpr ⟨rfl, hall⟩⟩

theorem matches_oneOf_seq : (Expr.seq (.oneOf ranges) r).Matches before part after ↔
    ∃ c rest, part = c :: rest ∧ inRanges ranges c = true ∧
      r.Matches (before ++ [c]) rest after := by
  constructor
  · rintro ⟨_, rest, rfl, ⟨c, rfl, hc⟩, hr⟩
    exact ⟨c, rest, rfl, hc, hr⟩
  · rintro ⟨c, rest, rfl, hc, hr⟩
    exact ⟨[c], rest, rfl, ⟨c, rfl, hc⟩, hr⟩

end Lemmas

end Regex
