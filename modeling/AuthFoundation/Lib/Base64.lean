import AuthFoundation.Lib.Text

set_option autoImplicit false

/-!
# Base64 with padding

* `encode`, `decode`: the standard alphabet with padding.
* `all_isVisible_encode`: what is encoded is visible ASCII.
* `decode_encode`: **decoding inverts encoding**.
-/

namespace Base64

open Text

/-- The standard alphabet. -/
def digit (n : ℕ) : Char :=
  if n < 26 then Char.ofNat (65 + n)
  else if n < 52 then Char.ofNat (71 + n)
  else if n < 62 then Char.ofNat (n - 4)
  else if n = 62 then '+' else '/'

/-- The number of a digit. -/
def value (c : Char) : Option ℕ :=
  let n := c.toNat
  if 65 ≤ n ∧ n ≤ 90 then some (n - 65)
  else if 97 ≤ n ∧ n ≤ 122 then some (n - 71)
  else if 48 ≤ n ∧ n ≤ 57 then some (n + 4)
  else if c = '+' then some 62
  else if c = '/' then some 63
  else none

theorem value_digit {n : ℕ} (h : n < 64) : value (digit n) = some n ∧ digit n ≠ '=' :=
  (by decide : ∀ n : Fin 64, value (digit n.val) = some n.val ∧ digit n.val ≠ '=') ⟨n, h⟩

/-- Visible ASCII. -/
def isVisible (b : UInt8) : Bool := 32 ≤ b && b < 127

theorem digit_ascii {n : ℕ} (h : n < 64) : (digit n).val ≤ 127 ∧ isVisible (byte (digit n)) :=
  (by decide : ∀ n : Fin 64, (digit n).val ≤ 127 ∧ isVisible (byte (digit n.val))) ⟨n, h⟩

def encodeChars : Bytes → List Char
  | a :: b :: c :: l => digit (a.toNat / 4) :: digit (a.toNat % 4 * 16 + b.toNat / 16) ::
      digit (b.toNat % 16 * 4 + c.toNat / 64) :: digit (c.toNat % 64) :: encodeChars l
  | [a, b] => [digit (a.toNat / 4), digit (a.toNat % 4 * 16 + b.toNat / 16),
      digit (b.toNat % 16 * 4), '=']
  | [a] => [digit (a.toNat / 4), digit (a.toNat % 4 * 16), '=', '=']
  | [] => []

def encode (l : Bytes) : String := String.ofList (encodeChars l)

theorem encodeChars_ascii (l : Bytes) :
    ∀ c ∈ encodeChars l, c.val ≤ 127 ∧ isVisible (byte c) := by
  have he : ('=' : Char).val ≤ 127 ∧ isVisible (byte '=') := by decide
  induction l using encodeChars.induct with
  | case1 a b c l ih =>
    have ha := a.toNat_lt
    have hb := b.toNat_lt
    have hc := c.toNat_lt
    simp only [encodeChars, List.forall_mem_cons]
    exact ⟨digit_ascii (by omega), digit_ascii (by omega), digit_ascii (by omega),
      digit_ascii (by omega), ih⟩
  | case2 a b =>
    have ha := a.toNat_lt
    have hb := b.toNat_lt
    simp only [encodeChars, List.forall_mem_cons]
    exact ⟨digit_ascii (by omega), digit_ascii (by omega), digit_ascii (by omega), he, by simp⟩
  | case3 a =>
    have ha := a.toNat_lt
    simp only [encodeChars, List.forall_mem_cons]
    exact ⟨digit_ascii (by omega), digit_ascii (by omega), he, he, by simp⟩
  | case4 => simp [encodeChars]

/-- What is encoded is visible ASCII. -/
theorem all_isVisible_encode (l : Bytes) : (utf8 (encode l)).all isVisible = true := by
  have hu : utf8 (encode l) = (encodeChars l).map byte :=
    utf8_ofList fun c hc => (encodeChars_ascii l c hc).1
  rw [hu, List.all_map, List.all_eq_true]
  exact fun c hc => (encodeChars_ascii l c hc).2

/-- Groups of four; the last may be padded, and the bits it drops must be zero. -/
def decodeChars : List Char → Option Bytes
  | [] => some []
  | [p, q, '=', '='] => do
    let m ← value p
    let n ← value q
    if n % 16 = 0 then some [UInt8.ofNat (m * 4 + n / 16)] else none
  | [p, q, r, '='] => do
    let k ← value p
    let m ← value q
    let n ← value r
    if n % 4 = 0 then some [UInt8.ofNat (k * 4 + m / 16), UInt8.ofNat (m % 16 * 16 + n / 4)]
    else none
  | p :: q :: r :: t :: l => do
    let k ← value p
    let m ← value q
    let n ← value r
    let o ← value t
    let rest ← decodeChars l
    some (UInt8.ofNat (k * 4 + m / 16) :: UInt8.ofNat (m % 16 * 16 + n / 4) ::
      UInt8.ofNat (n % 4 * 64 + o) :: rest)
  | _ => none

def decode (s : String) : Option Bytes := decodeChars s.toList

theorem ofNat_eq {b : UInt8} {n : ℕ} (h : n = b.toNat) : UInt8.ofNat n = b := by
  rw [h, UInt8.ofNat_toNat]

theorem decodeChars_encodeChars (l : Bytes) : decodeChars (encodeChars l) = some l := by
  induction l using encodeChars.induct with
  | case1 a b c l ih =>
    have ha := a.toNat_lt
    have hb := b.toNat_lt
    have hc := c.toNat_lt
    have h₁ := value_digit (n := a.toNat / 4) (by omega)
    have h₂ := value_digit (n := a.toNat % 4 * 16 + b.toNat / 16) (by omega)
    have h₃ := value_digit (n := b.toNat % 16 * 4 + c.toNat / 64) (by omega)
    have h₄ := value_digit (n := c.toNat % 64) (by omega)
    rw [encodeChars, decodeChars.eq_4]
    · simp only [h₁.1, h₂.1, h₃.1, h₄.1, ih, Option.bind_eq_bind, Option.bind_some]
      rw [ofNat_eq (b := a) (by omega), ofNat_eq (b := b) (by omega), ofNat_eq (b := c) (by omega)]
    · intro h
      exact absurd h h₃.2
    · intro h
      exact absurd h h₄.2
  | case2 a b =>
    have ha := a.toNat_lt
    have hb := b.toNat_lt
    have h₁ := value_digit (n := a.toNat / 4) (by omega)
    have h₂ := value_digit (n := a.toNat % 4 * 16 + b.toNat / 16) (by omega)
    have h₃ := value_digit (n := b.toNat % 16 * 4) (by omega)
    rw [encodeChars, decodeChars.eq_3]
    · simp only [h₁.1, h₂.1, h₃.1, Option.bind_eq_bind, Option.bind_some]
      rw [if_pos (by omega), ofNat_eq (b := a) (by omega), ofNat_eq (b := b) (by omega)]
    · intro h
      exact absurd h h₃.2
  | case3 a =>
    have ha := a.toNat_lt
    have h₁ := value_digit (n := a.toNat / 4) (by omega)
    have h₂ := value_digit (n := a.toNat % 4 * 16) (by omega)
    rw [encodeChars, decodeChars.eq_2]
    simp only [h₁.1, h₂.1, Option.bind_eq_bind, Option.bind_some]
    rw [if_pos (by omega), ofNat_eq (b := a) (by omega)]
  | case4 => rfl

/-- **Decoding inverts encoding.** -/
theorem decode_encode (l : Bytes) : decode (encode l) = some l := by
  rw [decode, encode, String.toList_ofList, decodeChars_encodeChars]

end Base64
