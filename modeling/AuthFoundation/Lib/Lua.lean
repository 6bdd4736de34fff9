import AuthFoundation.Lib.Redis

set_option autoImplicit false

/-!
# Numbers in scripts

Scripts compare numbers as floating-point numbers. Their strings of digits are read as the nearest
number with a 53-bit significand, which is exact below `2 ^ 53` and stays at or above it otherwise.

* `double`, `tonumber`: reading numbers; `number` stops the script on a missing one.
* `unsigned`, `signed`: the patterns for optionally signed strings of digits.
-/

namespace Lua

open Text Redis

/-- The nearest number with a significand of 53 bits, ties to even. -/
def double (n : ℕ) : ℕ :=
  if n < 2 ^ 53 then n
  else
    let e := n.log2 - 52
    let q := n / 2 ^ e
    let r := n % 2 ^ e
    if 2 * r < 2 ^ e ∨ 2 * r = 2 ^ e ∧ q % 2 = 0 then q * 2 ^ e else (q + 1) * 2 ^ e

theorem double_of_lt {n : ℕ} (h : n < 2 ^ 53) : double n = n := if_pos h

theorem le_double {n : ℕ} (h : 2 ^ 53 ≤ n) : 2 ^ 53 ≤ double n := by
  have hl : 53 ≤ n.log2 := (Nat.le_log2 (by omega)).mpr h
  have hq : 2 ^ 53 ≤ n / 2 ^ (n.log2 - 52) * 2 ^ (n.log2 - 52) := by
    have h₁ : 2 ^ 52 ≤ n / 2 ^ (n.log2 - 52) := by
      rw [Nat.le_div_iff_mul_le (by positivity), ← pow_add, Nat.add_sub_cancel' (by omega)]
      exact Nat.log2_self_le (by omega)
    calc 2 ^ 53 = 2 ^ 52 * 2 ^ 1 := by norm_num
      _ ≤ n / 2 ^ (n.log2 - 52) * 2 ^ (n.log2 - 52) :=
        Nat.mul_le_mul h₁ (Nat.pow_le_pow_right (by omega) (by omega))
  simp only [double, if_neg (not_lt.mpr h)]
  split
  · exact hq
  · exact hq.trans (Nat.mul_le_mul_right _ (Nat.le_succ _))

theorem double_lt_iff {n : ℕ} : double n < 2 ^ 53 ↔ n < 2 ^ 53 := by
  constructor
  · intro h
    by_contra hn
    exact absurd (le_double (not_lt.mp hn)) (not_le.mpr h)
  · intro h
    rwa [double_of_lt h]

/-- `"^[+]?[0-9]+$"`. -/
def unsigned : Bytes → Bool
  | 43 :: d => numeral d
  | d => numeral d

/-- `"^[+-]?[0-9]+$"`. -/
def signed : Bytes → Bool
  | 43 :: d => numeral d
  | 45 :: d => numeral d
  | d => numeral d

/-- `tonumber` of strings of digits with an optional sign. -/
def tonumber : Bytes → Option ℤ
  | 43 :: d => if numeral d then some (double (decimal d)) else none
  | 45 :: d => if numeral d then some (-double (decimal d)) else none
  | d => if numeral d then some (double (decimal d)) else none

theorem digits_ne {c : UInt8} (hc : isDigit c = false) (n : ℕ) (d : Bytes) : digits n ≠ c :: d :=
  fun e => by
    have h := numeral_digits n
    rw [e] at h
    rw [numeral_cons h] at hc
    cases hc

@[simp] theorem unsigned_digits (n : ℕ) : unsigned (digits n) = true := by
  rw [unsigned, numeral_digits]
  exact digits_ne (by decide) n

@[simp] theorem signed_digits (n : ℕ) : signed (digits n) = true := by
  rw [signed, numeral_digits]
  · exact digits_ne (by decide) n
  · exact digits_ne (by decide) n

@[simp] theorem tonumber_digits (n : ℕ) : tonumber (digits n) = some (double n : ℤ) := by
  rw [tonumber, decimal_digits, if_pos (numeral_digits n)]
  · exact digits_ne (by decide) n
  · exact digits_ne (by decide) n

/-- Strings with a sign or none that match the pattern are numbers. -/
theorem tonumber_of_signed {v : Bytes} (h : signed v = true) : ∃ z, tonumber v = some z := by
  unfold signed at h
  split at h
  · exact ⟨_, by rw [tonumber, if_pos h]⟩
  · exact ⟨_, by rw [tonumber, if_pos h]⟩
  · exact ⟨_, by rw [tonumber, if_pos h] <;> assumption⟩

theorem signed_of_unsigned {v : Bytes} (h : unsigned v = true) : signed v = true := by
  unfold unsigned at h
  split at h
  · exact h
  · rename_i h₁
    rw [signed, h]
    · exact h₁
    · rintro d rfl
      exact absurd (numeral_cons h) (by decide)

/-- A number to compute with: a missing one is an error. -/
def number : Option ℤ → Script ℤ
  | some z => pure z
  | none => Script.fail .script

@[simp] theorem number_some (z : ℤ) : number (some z) = pure z := rfl

end Lua
