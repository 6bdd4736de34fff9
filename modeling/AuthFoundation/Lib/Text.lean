import Mathlib

set_option autoImplicit false

/-!
# Strings as bytes

* `utf8`, `text?`: the bytes of a string and back (`text?_utf8`, `text?_eq_some`).
* `numeral`, `decimal`: strings of decimal digits and their value; what `toString` prints of a
  number is a numeral with that value (`numeral_digits`, `decimal_digits`).
* `all_utf8`, `length_all_utf8`: tests of ASCII bytes as tests of characters.
* `hex`: lower-case hexadecimal (`all_isHex_hex`, `length_hex`).
* `base64url`: the URL-safe base64 alphabet without padding (`base64url_injective`).
-/

namespace Text

/-- Byte strings. -/
abbrev Bytes := List UInt8

/-! ## UTF-8 -/

/-- The bytes of a string. -/
def utf8 (s : String) : Bytes := s.toByteArray.data.toList

/-- The string with these bytes, if they are valid UTF-8. -/
def text? (b : Bytes) : Option String := String.fromUTF8? ⟨b.toArray⟩

theorem utf8_injective : Function.Injective utf8 := fun s t h => by
  rw [← String.toByteArray_inj]
  exact ByteArray.ext (Array.toList_inj.mp h)

@[simp] theorem utf8_inj {s t : String} : utf8 s = utf8 t ↔ s = t := utf8_injective.eq_iff

@[simp] theorem utf8_append (s t : String) : utf8 (s ++ t) = utf8 s ++ utf8 t := by
  simp [utf8]

theorem text?_eq_some {b : Bytes} {s : String} : text? b = some s ↔ utf8 s = b := by
  have hb : (⟨b.toArray⟩ : ByteArray).data.toList = b := rfl
  simp only [text?, String.fromUTF8?]
  split_ifs with h
  · rw [Option.some.injEq]
    constructor
    · rintro rfl
      rfl
    · rintro rfl
      exact utf8_injective rfl
  · simp only [false_iff]
    rintro rfl
    exact h s.isValidUTF8

@[simp] theorem text?_utf8 (s : String) : text? (utf8 s) = some s := text?_eq_some.mpr rfl

/-- The byte of an ASCII character. -/
def byte (c : Char) : UInt8 := c.val.toUInt8

theorem utf8_ofList {l : List Char} (h : ∀ c ∈ l, c.val ≤ 127) :
    utf8 (String.ofList l) = l.map byte := by
  induction l with
  | nil => rfl
  | cons c l ih =>
    have hc : utf8 (String.ofList [c]) = [byte c] := by
      have : String.utf8EncodeChar c = [byte c] :=
        String.utf8EncodeChar_eq_singleton (Char.utf8Size_eq_one_iff.mpr (h c List.mem_cons_self))
      simp [utf8, List.utf8Encode_singleton, this]
    rw [← List.singleton_append, String.ofList_append, utf8_append, hc, List.map_append,
      ih fun c' hc' => h c' (List.mem_cons_of_mem _ hc')]
    rfl

theorem utf8_ofUInt8 {v : Bytes} (h : ∀ b ∈ v, b < 128) :
    (∀ c ∈ v.map Char.ofUInt8, c.val ≤ 127) ∧ utf8 (String.ofList (v.map Char.ofUInt8)) = v := by
  have hc : ∀ c ∈ v.map Char.ofUInt8, c.val ≤ 127 := by
    intro c hc
    obtain ⟨b, hb, rfl⟩ := List.mem_map.mp hc
    have hlt := h b hb
    rw [UInt8.lt_iff_toNat_lt] at hlt
    rw [UInt32.le_iff_toNat_le]
    simp [Char.ofUInt8] at hlt ⊢
    omega
  refine ⟨hc, ?_⟩
  rw [utf8_ofList hc, List.map_map]
  refine List.map_id'' (fun b => ?_) v
  simp [byte, Char.ofUInt8]

theorem text?_ascii {v : Bytes} (h : ∀ b ∈ v, b < 128) : ∃ s, text? v = some s :=
  ⟨_, text?_eq_some.mpr (utf8_ofUInt8 h).2⟩

/-- A string of ASCII bytes is one of ASCII characters. -/
theorem utf8_ascii {s : String} (h : ∀ b ∈ utf8 s, b < 128) :
    (∀ c ∈ s.toList, c.val ≤ 127) ∧ utf8 s = s.toList.map byte := by
  obtain ⟨hc, hs⟩ := utf8_ofUInt8 h
  have hl : s.toList = (utf8 s).map Char.ofUInt8 := by
    rw [← utf8_injective hs, String.toList_ofList, utf8_injective hs]
  have hc' : ∀ c ∈ s.toList, c.val ≤ 127 := fun c hm => hc c (hl ▸ hm)
  refine ⟨hc', ?_⟩
  have hu := utf8_ofList hc'
  rwa [String.ofList_toList] at hu

/-- A test of ASCII bytes is one of ASCII characters. -/
theorem all_utf8 {s : String} {p : UInt8 → Bool} (hp : ∀ b, p b = true → b < 128) :
    (utf8 s).all p = true ↔ ∀ c ∈ s.toList, c.val ≤ 127 ∧ p (byte c) = true := by
  rw [List.all_eq_true]
  constructor
  · intro h
    obtain ⟨hc, hs⟩ := utf8_ascii fun b hb => hp b (h b hb)
    refine fun c hm => ⟨hc c hm, h _ ?_⟩
    rw [hs]
    exact List.mem_map_of_mem hm
  · intro h b hb
    have hs := utf8_ofList fun c hm => (h c hm).1
    rw [String.ofList_toList] at hs
    rw [hs] at hb
    obtain ⟨c, hm, rfl⟩ := List.mem_map.mp hb
    exact (h c hm).2

/-- A test of characters is one of ASCII bytes, if both agree on ASCII. -/
theorem char_iff_byte {p : Char → Bool} {q : UInt8 → Bool} (hp : ∀ c, p c = true → c.val ≤ 127)
    (h : ∀ n : Fin 128, p (Char.ofNat n.val) = q (byte (Char.ofNat n.val))) {c : Char} :
    p c = true ↔ c.val ≤ 127 ∧ q (byte c) = true := by
  have heq : c.val ≤ 127 → p c = q (byte c) := by
    intro hc
    have hlt : c.toNat < 128 := Nat.lt_succ_of_le (UInt32.le_iff_toNat_le.mp hc)
    have hn := h ⟨c.toNat, hlt⟩
    rwa [Char.ofNat_toNat] at hn
  constructor
  · intro hc
    exact ⟨hp c hc, heq (hp c hc) ▸ hc⟩
  · rintro ⟨hc, hb⟩
    rw [heq hc, hb]

/-- Strings of so many characters that all pass a test. -/
theorem length_all_utf8 {s : String} {p : Char → Bool} {q : UInt8 → Bool} {n : ℕ}
    (hq : ∀ b, q b = true → b < 128)
    (h : ∀ c, p c = true ↔ c.val ≤ 127 ∧ q (byte c) = true) :
    (utf8 s).length = n ∧ (utf8 s).all q = true ↔
      s.toList.length = n ∧ ∀ c ∈ s.toList, p c = true := by
  rw [all_utf8 hq]
  simp only [h]
  refine and_congr_left fun hc => ?_
  have hs := utf8_ofList fun c hm => (hc c hm).1
  rw [String.ofList_toList] at hs
  rw [hs, List.length_map]

/-- An ASCII character of a string is a byte of it. -/
theorem byte_mem_utf8 {s : String} {c : Char} (hc : c.val ≤ 127) (h : c ∈ s.toList) :
    byte c ∈ utf8 s := by
  obtain ⟨l, m, e⟩ := List.append_of_mem h
  have hs : s = String.ofList l ++ String.ofList [c] ++ String.ofList m := by
    rw [← String.ofList_append, ← String.ofList_append, List.append_assoc, List.singleton_append,
      ← e, String.ofList_toList]
  have hb : utf8 (String.ofList [c]) = [byte c] := utf8_ofList (by simpa using hc)
  rw [hs, utf8_append, utf8_append, hb]
  simp

/-! ## Decimal numerals -/

/-- ASCII digits. -/
def isDigit (b : UInt8) : Bool := 48 ≤ b && b ≤ 57

/-- Nonempty strings of digits. -/
def numeral (v : Bytes) : Bool := v ≠ [] && v.all isDigit

/-- The value of a string of digits. -/
def decimal (v : Bytes) : ℕ := v.foldl (fun n b => 10 * n + (b.toNat - 48)) 0

theorem isDigit_byte {c : Char} (h : c.isDigit) : isDigit (byte c) = true ∧
    (byte c).toNat - 48 = c.toNat - '0'.toNat := by
  simp only [Char.isDigit, Bool.and_eq_true, decide_eq_true_eq] at h
  have h₁ : 48 ≤ c.val.toNat := UInt32.le_iff_toNat_le.mp h.1
  have h₂ : c.val.toNat ≤ 57 := UInt32.le_iff_toNat_le.mp h.2
  have hb : (byte c).toNat = c.val.toNat := by
    rw [byte, UInt32.toNat_toUInt8]
    omega
  refine ⟨?_, by rw [hb]; rfl⟩
  simp only [isDigit, Bool.and_eq_true, decide_eq_true_eq, UInt8.le_iff_toNat_le, hb]
  exact ⟨h₁, h₂⟩

/-- The digits of a number, as bytes. -/
def digits (n : ℕ) : Bytes := utf8 (toString n)

theorem digits_eq (n : ℕ) : digits n = (Nat.toDigits 10 n).map byte := by
  rw [digits, Nat.toString_eq_ofList_toDigits, utf8_ofList]
  intro c hc
  have h := Nat.isDigit_of_mem_toDigits (by decide) (by decide) hc
  simp only [Char.isDigit, Bool.and_eq_true, decide_eq_true_eq] at h
  exact UInt32.le_trans h.2 (by decide)

@[simp] theorem numeral_digits (n : ℕ) : numeral (digits n) = true := by
  simp only [numeral, digits_eq, ne_eq, List.map_eq_nil_iff, Nat.toDigits_ne_nil,
    not_false_eq_true, decide_true, Bool.true_and, List.all_map, List.all_eq_true]
  exact fun c hc => (isDigit_byte (Nat.isDigit_of_mem_toDigits (by decide) (by decide) hc)).1

theorem decimal_map_byte {l : List Char} (h : ∀ c ∈ l, c.isDigit) (m : ℕ) :
    (l.map byte).foldl (fun n b => 10 * n + (b.toNat - 48)) m = Nat.ofDigitChars 10 l m := by
  induction l generalizing m with
  | nil => rfl
  | cons c l ih =>
    rw [List.map_cons, List.foldl_cons, ih (fun c' hc' => h c' (List.mem_cons_of_mem _ hc')),
      Nat.ofDigitChars_cons, (isDigit_byte (h c List.mem_cons_self)).2]

@[simp] theorem decimal_digits (n : ℕ) : decimal (digits n) = n := by
  rw [decimal, digits_eq, decimal_map_byte, Nat.ofDigitChars_ten_toDigits]
  exact fun c hc => Nat.isDigit_of_mem_toDigits (by decide) (by decide) hc

/-- A numeral starts with a digit, so not with a sign. -/
theorem numeral_cons {b : UInt8} {v : Bytes} (h : numeral (b :: v) = true) : isDigit b = true := by
  simp only [numeral, Bool.and_eq_true, List.all_cons] at h
  exact h.2.1

theorem toString_negSucc (n : ℕ) : toString (Int.negSucc n) = "-" ++ toString (n + 1) := rfl

/-! ## Hexadecimal -/

/-- Lower-case hexadecimal digits. -/
def isHex (b : UInt8) : Bool := isDigit b || (97 ≤ b && b ≤ 102)

/-- The two hexadecimal digits of a byte. -/
def hexDigits (b : UInt8) : List Char := [(b.toNat / 16).digitChar, (b.toNat % 16).digitChar]

/-- Lower-case hexadecimal. -/
def hex (l : Bytes) : String := String.ofList (l.flatMap hexDigits)

theorem lt_of_isHex {b : UInt8} (h : isHex b = true) : b < 128 := by
  simp only [isHex, isDigit, Bool.or_eq_true, Bool.and_eq_true, decide_eq_true_eq,
    UInt8.le_iff_toNat_le] at h
  rw [UInt8.lt_iff_toNat_lt]
  simp at h ⊢
  omega

theorem digitChar_hex {n : ℕ} (h : n < 16) : n.digitChar.val ≤ 127 ∧ isHex (byte n.digitChar) :=
  (by decide : ∀ n : Fin 16, n.val.digitChar.val ≤ 127 ∧ isHex (byte n.val.digitChar)) ⟨n, h⟩

theorem hexDigits_hex (b : UInt8) : ∀ c ∈ hexDigits b, c.val ≤ 127 ∧ isHex (byte c) := by
  have hb := b.toNat_lt
  simp only [hexDigits, List.mem_cons, List.not_mem_nil, or_false, forall_eq_or_imp, forall_eq]
  exact ⟨digitChar_hex (by omega), digitChar_hex (by omega)⟩

theorem utf8_hex (l : Bytes) : utf8 (hex l) = (l.flatMap hexDigits).map byte :=
  utf8_ofList fun c hc => by
    obtain ⟨b, -, hc⟩ := List.mem_flatMap.mp hc
    exact (hexDigits_hex b c hc).1

theorem all_isHex_hex (l : Bytes) : (utf8 (hex l)).all isHex = true := by
  rw [utf8_hex, List.all_map, List.all_eq_true]
  intro c hc
  obtain ⟨b, -, hc⟩ := List.mem_flatMap.mp hc
  exact (hexDigits_hex b c hc).2

theorem length_hex (l : Bytes) : (utf8 (hex l)).length = 2 * l.length := by
  rw [utf8_hex, List.length_map]
  induction l with
  | nil => rfl
  | cons b l ih => simp only [List.flatMap_cons, List.length_append, ih, List.length_cons,
      hexDigits, List.length_nil]; omega

/-! ## Base64 -/

/-- The URL-safe alphabet. -/
def sextet (n : ℕ) : Char :=
  if n < 26 then Char.ofNat (65 + n)
  else if n < 52 then Char.ofNat (71 + n)
  else if n < 62 then Char.ofNat (n - 4)
  else if n = 62 then '-' else '_'

theorem sextet_inj {m n : ℕ} (hm : m < 64) (hn : n < 64) (h : sextet m = sextet n) : m = n :=
  (by decide : ∀ m n : Fin 64, sextet m = sextet n → m.val = n.val) ⟨m, hm⟩ ⟨n, hn⟩ h

/-- The characters of base64url without padding. -/
def sextets : Bytes → List Char
  | a :: b :: c :: l => sextet (a.toNat / 4) :: sextet (a.toNat % 4 * 16 + b.toNat / 16) ::
      sextet (b.toNat % 16 * 4 + c.toNat / 64) :: sextet (c.toNat % 64) :: sextets l
  | [a, b] => [sextet (a.toNat / 4), sextet (a.toNat % 4 * 16 + b.toNat / 16),
      sextet (b.toNat % 16 * 4)]
  | [a] => [sextet (a.toNat / 4), sextet (a.toNat % 4 * 16)]
  | [] => []

/-- Base64url without padding. -/
def base64url (l : Bytes) : String := String.ofList (sextets l)

theorem sextets_inj {l m : Bytes} (h : sextets l = sextets m) : l = m := by
  induction l using sextets.induct generalizing m with
  | case1 a b c l ih =>
    have ha := a.toNat_lt
    have hb := b.toNat_lt
    have hc := c.toNat_lt
    match m with
    | a' :: b' :: c' :: m =>
      have ha' := a'.toNat_lt
      have hb' := b'.toNat_lt
      have hc' := c'.toNat_lt
      simp only [sextets, List.cons.injEq] at h
      obtain ⟨h₁, h₂, h₃, h₄, h⟩ := h
      have h₁ := sextet_inj (by omega) (by omega) h₁
      have h₂ := sextet_inj (by omega) (by omega) h₂
      have h₃ := sextet_inj (by omega) (by omega) h₃
      have h₄ := sextet_inj (by omega) (by omega) h₄
      rw [ih h, UInt8.toNat_inj.mp (by omega : a.toNat = a'.toNat),
        UInt8.toNat_inj.mp (by omega : b.toNat = b'.toNat),
        UInt8.toNat_inj.mp (by omega : c.toNat = c'.toNat)]
    | [_, _] => simp [sextets] at h
    | [_] => simp [sextets] at h
    | [] => simp [sextets] at h
  | case2 a b =>
    have ha := a.toNat_lt
    have hb := b.toNat_lt
    match m with
    | _ :: _ :: _ :: m => simp [sextets] at h
    | [a', b'] =>
      have ha' := a'.toNat_lt
      have hb' := b'.toNat_lt
      simp only [sextets, List.cons.injEq, and_true] at h
      obtain ⟨h₁, h₂, h₃⟩ := h
      have h₁ := sextet_inj (by omega) (by omega) h₁
      have h₂ := sextet_inj (by omega) (by omega) h₂
      have h₃ := sextet_inj (by omega) (by omega) h₃
      rw [UInt8.toNat_inj.mp (by omega : a.toNat = a'.toNat),
        UInt8.toNat_inj.mp (by omega : b.toNat = b'.toNat)]
    | [_] => simp [sextets] at h
    | [] => simp [sextets] at h
  | case3 a =>
    have ha := a.toNat_lt
    match m with
    | _ :: _ :: _ :: m => simp [sextets] at h
    | [_, _] => simp [sextets] at h
    | [a'] =>
      have ha' := a'.toNat_lt
      simp only [sextets, List.cons.injEq, and_true] at h
      have h₁ := sextet_inj (by omega) (by omega) h.1
      have h₂ := sextet_inj (by omega) (by omega) h.2
      rw [UInt8.toNat_inj.mp (by omega : a.toNat = a'.toNat)]
    | [] => simp [sextets] at h
  | case4 =>
    match m with
    | _ :: _ :: _ :: m => simp [sextets] at h
    | [_, _] => simp [sextets] at h
    | [_] => simp [sextets] at h
    | [] => rfl

/-- The bytes of the alphabet. -/
def isSextet (b : UInt8) : Bool :=
  (65 ≤ b && b ≤ 90) || (97 ≤ b && b ≤ 122) || isDigit b || b = 45 || b = 95

theorem sextet_ascii {n : ℕ} (h : n < 64) : (sextet n).val ≤ 127 ∧ isSextet (byte (sextet n)) :=
  (by decide : ∀ n : Fin 64, (sextet n).val ≤ 127 ∧ isSextet (byte (sextet n.val))) ⟨n, h⟩

theorem sextets_ascii (l : Bytes) : ∀ c ∈ sextets l, c.val ≤ 127 ∧ isSextet (byte c) := by
  induction l using sextets.induct with
  | case1 a b c l ih =>
    have ha := a.toNat_lt
    have hb := b.toNat_lt
    have hc := c.toNat_lt
    simp only [sextets, List.forall_mem_cons]
    exact ⟨sextet_ascii (by omega), sextet_ascii (by omega), sextet_ascii (by omega),
      sextet_ascii (by omega), ih⟩
  | case2 a b =>
    have ha := a.toNat_lt
    have hb := b.toNat_lt
    simp only [sextets, List.forall_mem_cons]
    exact ⟨sextet_ascii (by omega), sextet_ascii (by omega), sextet_ascii (by omega), by simp⟩
  | case3 a =>
    have ha := a.toNat_lt
    simp only [sextets, List.forall_mem_cons]
    exact ⟨sextet_ascii (by omega), sextet_ascii (by omega), by simp⟩
  | case4 => simp [sextets]

theorem length_sextets (l : Bytes) : (sextets l).length = (4 * l.length + 2) / 3 := by
  induction l using sextets.induct with
  | case1 a b c l ih =>
    simp only [sextets, List.length_cons, ih]
    omega
  | case2 a b => simp [sextets]
  | case3 a => simp [sextets]
  | case4 => simp [sextets]

theorem utf8_base64url (l : Bytes) : utf8 (base64url l) = (sextets l).map byte :=
  utf8_ofList fun c hc => (sextets_ascii l c hc).1

theorem all_isSextet_base64url (l : Bytes) : (utf8 (base64url l)).all isSextet = true := by
  rw [utf8_base64url, List.all_map, List.all_eq_true]
  exact fun c hc => (sextets_ascii l c hc).2

theorem length_base64url (l : Bytes) : (utf8 (base64url l)).length = (4 * l.length + 2) / 3 := by
  rw [utf8_base64url, List.length_map, length_sextets]

theorem base64url_injective : Function.Injective base64url := fun _ _ h =>
  sextets_inj (String.ofList_injective h)

end Text
