import AuthFoundation.Lib.Text

set_option autoImplicit false

/-!
# Form-encoded queries

`application/x-www-form-urlencoded`, as lists of pairs of strings.

* `lossy`: bytes as a string, with replacement characters (`lossy_utf8`).
* `encode`, `decode`: percent-encoding of one name or value (`decode_encode`).
* `appendPair`, `parse`: **a pair that is appended is read back after the others**
  (`parse_appendPair`).
-/

namespace Text

/-! ## Lossy decoding -/

/-- How many bytes the character that starts with `b` needs after it, and the range of the first of
them. -/
def continuation (b : UInt8) : Option (ℕ × UInt8 × UInt8) :=
  if b < 128 then some (0, 0, 0)
  else if 194 ≤ b ∧ b ≤ 223 then some (1, 128, 191)
  else if b = 224 then some (2, 160, 191)
  else if b = 237 then some (2, 128, 159)
  else if 225 ≤ b ∧ b ≤ 239 then some (2, 128, 191)
  else if b = 240 then some (3, 144, 191)
  else if 241 ≤ b ∧ b ≤ 243 then some (3, 128, 191)
  else if b = 244 then some (3, 128, 143)
  else none

/-- The length of the longest prefix that a character could continue. -/
def maximalPart : Bytes → ℕ
  | [] => 0
  | b :: l => match continuation b, l with
    | some (n + 1, low, high), c :: l =>
      if low ≤ c ∧ c ≤ high then 2 + ((l.take n).takeWhile fun d => 128 ≤ d && d ≤ 191).length
      else 1
    | _, _ => 1

/-- Characters of at most `fuel` parts; a part that is no UTF-8 becomes U+FFFD. -/
def lossyParts : ℕ → Bytes → List Char
  | 0, _ => []
  | _ + 1, [] => []
  | fuel + 1, b :: l =>
    let n := maximalPart (b :: l)
    (match text? ((b :: l).take n) with
      | some part => part.toList
      | none => ['\uFFFD']) ++ lossyParts fuel ((b :: l).drop n)

/-- `String::from_utf8_lossy`. -/
def lossy (b : Bytes) : String :=
  match text? b with
  | some s => s
  | none => String.ofList (lossyParts b.length b)

@[simp] theorem lossy_utf8 (s : String) : lossy (utf8 s) = s := by
  rw [lossy, text?_utf8]

end Text

namespace Form

open Text

/-! ## One name or value -/

/-- Bytes that stand for themselves. -/
def isUnreserved (b : UInt8) : Bool :=
  isDigit b || (65 ≤ b && b ≤ 90) || (97 ≤ b && b ≤ 122) || b = 42 || b = 45 || b = 46 || b = 95

/-- Upper-case hexadecimal digits. -/
def upperDigit (n : ℕ) : Char := if n < 10 then Char.ofNat (48 + n) else Char.ofNat (55 + n)

def encodeByte (b : UInt8) : List Char :=
  if isUnreserved b then [Char.ofNat b.toNat]
  else if b = 32 then ['+']
  else ['%', upperDigit (b.toNat / 16), upperDigit (b.toNat % 16)]

def encode (s : String) : String := String.ofList ((utf8 s).flatMap encodeByte)

/-- The value of a hexadecimal digit. -/
def hexValue (b : UInt8) : Option UInt8 :=
  if isDigit b then some (b - 48)
  else if 97 ≤ b ∧ b ≤ 102 then some (b - 87)
  else if 65 ≤ b ∧ b ≤ 70 then some (b - 55)
  else none

def percentDecode : Bytes → Bytes
  | 37 :: x :: y :: l => match hexValue x, hexValue y with
    | some m, some n => (16 * m + n) :: percentDecode l
    | _, _ => 37 :: percentDecode (x :: y :: l)
  | b :: l => b :: percentDecode l
  | [] => []

/-- A plus sign is a space. -/
def replacePlus (b : UInt8) : UInt8 := if b = 43 then 32 else b

def decode (b : Bytes) : String := lossy (percentDecode (b.map replacePlus))

/-- What the bytes of one encoded byte are. -/
inductive Encoded (b : UInt8) : Bytes → Prop
  | plain (h : b ≠ 37) : Encoded b [b]
  | escaped {x y m n : UInt8} (hx : hexValue x = some m) (hy : hexValue y = some n)
      (h : 16 * m + n = b) : Encoded b [37, x, y]

theorem hexValue_upperDigit {n : ℕ} (h : n < 16) :
    hexValue (replacePlus (byte (upperDigit n))) = some (UInt8.ofNat n) :=
  (by decide : ∀ n : Fin 16, hexValue (replacePlus (byte (upperDigit n.val))) =
    some (UInt8.ofNat n.val)) ⟨n, h⟩

/-- A byte that stands for itself is the byte of its character, and none with a meaning. -/
theorem byte_unreserved {b : UInt8} (h : isUnreserved b = true) :
    (Char.ofNat b.toNat).val ≤ 127 ∧ byte (Char.ofNat b.toNat) = b ∧
      b ≠ 37 ∧ b ≠ 38 ∧ b ≠ 43 ∧ b ≠ 61 := by
  have hascii : ∀ n : Fin 128, (Char.ofNat n.val).val ≤ 127 ∧
      byte (Char.ofNat n.val) = UInt8.ofNat n.val := by decide
  simp only [isUnreserved, isDigit, Bool.or_eq_true, Bool.and_eq_true, decide_eq_true_eq] at h
  have hlt : b < 128 := by grind
  obtain ⟨hle, hb⟩ := hascii ⟨b.toNat, UInt8.lt_iff_toNat_lt.mp hlt⟩
  rw [UInt8.ofNat_toNat] at hb
  exact ⟨hle, hb, by grind, by grind, by grind, by grind⟩

theorem encoded_encodeByte (b : UInt8) :
    Encoded b ((encodeByte b).map fun c => replacePlus (byte c)) := by
  have hb := b.toNat_lt
  unfold encodeByte
  split
  · rename_i h
    obtain ⟨-, he, hpercent, -, hplus, -⟩ := byte_unreserved h
    have hself : replacePlus (byte (Char.ofNat b.toNat)) = b := by
      rw [he]
      exact if_neg hplus
    rw [List.map_singleton, hself]
    exact .plain hpercent
  split
  · rename_i h
    subst h
    exact .plain (by decide)
  · refine .escaped (hexValue_upperDigit (by omega)) (hexValue_upperDigit (by omega)) ?_
    rw [← UInt8.toNat_inj]
    simp only [UInt8.toNat_add, UInt8.toNat_mul, UInt8.toNat_ofNat']
    simp
    omega

theorem percentDecode_cons {b : UInt8} (h : b ≠ 37) (l : Bytes) :
    percentDecode (b :: l) = b :: percentDecode l := by
  rw [percentDecode]
  intro x y l' e
  exact absurd e h

theorem Encoded.percentDecode {b : UInt8} {l : Bytes} (h : Encoded b l) (rest : Bytes) :
    percentDecode (l ++ rest) = b :: Form.percentDecode rest := by
  cases h with
  | plain hne => exact percentDecode_cons hne rest
  | escaped hx hy hb =>
    show Form.percentDecode (37 :: _ :: _ :: rest) = _
    rw [Form.percentDecode, hx, hy]
    simp only [hb]

theorem percentDecode_encodeByte (l : Bytes) :
    percentDecode ((l.flatMap encodeByte).map fun c => replacePlus (byte c)) = l := by
  induction l with
  | nil => rfl
  | cons b l ih =>
    rw [List.flatMap_cons, List.map_append, (encoded_encodeByte b).percentDecode, ih]

theorem encodeByte_ascii (b : UInt8) :
    ∀ c ∈ encodeByte b, c.val ≤ 127 ∧ byte c ≠ 38 ∧ byte c ≠ 61 := by
  have hb := b.toNat_lt
  have hdigit : ∀ n : Fin 16, (upperDigit n.val).val ≤ 127 ∧ byte (upperDigit n.val) ≠ 38 ∧
      byte (upperDigit n.val) ≠ 61 := by decide
  unfold encodeByte
  split
  · rename_i h
    obtain ⟨hle, he, -, hamp, -, heq⟩ := byte_unreserved h
    rw [List.forall_mem_singleton, he]
    exact ⟨hle, hamp, heq⟩
  split
  · rw [List.forall_mem_singleton]
    decide
  · have h₁ := hdigit ⟨b.toNat / 16, by omega⟩
    have h₂ := hdigit ⟨b.toNat % 16, by omega⟩
    simp only [List.forall_mem_cons, List.not_mem_nil, false_imp_iff, implies_true, and_true]
    exact ⟨by decide, h₁, h₂⟩

theorem utf8_encode (s : String) : utf8 (encode s) = ((utf8 s).flatMap encodeByte).map byte :=
  utf8_ofList fun c hc => by
    obtain ⟨b, -, hc⟩ := List.mem_flatMap.mp hc
    exact (encodeByte_ascii b c hc).1

/-- An encoded name or value has no separators. -/
theorem not_mem_encode (s : String) : (38 : UInt8) ∉ utf8 (encode s) ∧ 61 ∉ utf8 (encode s) := by
  rw [utf8_encode]
  constructor
  · intro h
    obtain ⟨c, hc, e⟩ := List.mem_map.mp h
    obtain ⟨b, -, hc⟩ := List.mem_flatMap.mp hc
    exact (encodeByte_ascii b c hc).2.1 e
  · intro h
    obtain ⟨c, hc, e⟩ := List.mem_map.mp h
    obtain ⟨b, -, hc⟩ := List.mem_flatMap.mp hc
    exact (encodeByte_ascii b c hc).2.2 e

/-- **Decoding inverts encoding.** -/
@[simp] theorem decode_encode (s : String) : decode (utf8 (encode s)) = s := by
  rw [decode, utf8_encode, List.map_map]
  have h := percentDecode_encodeByte (utf8 s)
  rw [show (fun c => replacePlus (byte c)) = replacePlus ∘ byte from rfl] at h
  rw [h, lossy_utf8]

/-! ## Lists of pairs -/

/-- One pair, split at the first `=`. -/
def pair (sequence : Bytes) : String × String :=
  (decode (sequence.takeWhile (· ≠ 61)), decode ((sequence.dropWhile (· ≠ 61)).drop 1))

def parseBytes (query : Bytes) : List (String × String) :=
  ((query.splitOn 38).filter fun sequence => !sequence.isEmpty).map pair

/-- `form_urlencoded::parse`. -/
def parse (query : String) : List (String × String) := parseBytes (utf8 query)

/-- `Serializer::append_pair`. -/
def appendPair (query name value : String) : String :=
  (if query = "" then "" else query ++ "&") ++ encode name ++ "=" ++ encode value

theorem appendPair_injective (name value : String) :
    Function.Injective fun query => appendPair query name value := by
  intro query query' h
  -- compared without the pair that both end with
  have hl : (if query = "" then "" else query ++ "&") =
      (if query' = "" then "" else query' ++ "&") := by
    simp only [appendPair, String.append_assoc] at h
    exact String.append_left_inj _ |>.mp h
  split_ifs at hl with hq hq' hq'
  · rw [hq, hq']
  · exact absurd (congrArg String.toList hl) (by simp)
  · exact absurd (congrArg String.toList hl) (by simp)
  · exact String.append_left_inj _ |>.mp hl

theorem parseBytes_append (a b : Bytes) :
    parseBytes (a ++ 38 :: b) = parseBytes a ++ parseBytes b := by
  rw [parseBytes, List.splitOn_append_cons_self, List.filter_append, List.map_append]
  rfl

theorem parseBytes_pair (name value : String) :
    parseBytes (utf8 (encode name) ++ 61 :: utf8 (encode value)) = [(name, value)] := by
  obtain ⟨hn, hn'⟩ := not_mem_encode name
  obtain ⟨hv, -⟩ := not_mem_encode value
  have hsep : (38 : UInt8) ∉ utf8 (encode name) ++ 61 :: utf8 (encode value) := by
    simp [hn, hv]
  have hname : ∀ b ∈ utf8 (encode name), decide (b ≠ 61) = true := by
    intro b hb
    rw [decide_eq_true_eq]
    rintro rfl
    exact hn' hb
  have ht : (utf8 (encode name) ++ 61 :: utf8 (encode value)).takeWhile (fun b => decide (b ≠ 61)) =
      utf8 (encode name) := by
    rw [List.takeWhile_append_of_pos hname]
    simp
  have hd : (utf8 (encode name) ++ 61 :: utf8 (encode value)).dropWhile (fun b => decide (b ≠ 61)) =
      61 :: utf8 (encode value) := by
    rw [List.dropWhile_append_of_pos hname]
    simp
  rw [parseBytes, List.splitOn_eq_singleton hsep]
  have hne : (utf8 (encode name) ++ 61 :: utf8 (encode value)).isEmpty = false := by simp
  simp only [List.filter_cons, hne, Bool.not_false, if_true, List.filter_nil, List.map_cons,
    List.map_nil, pair]
  rw [ht, hd, List.drop_one, List.tail_cons, decode_encode, decode_encode]

/-- **A pair that is appended is read back after the others.** -/
theorem parse_appendPair (query name value : String) :
    parse (appendPair query name value) = parse query ++ [(name, value)] := by
  have he : utf8 "=" = [61] := rfl
  have ha : utf8 "&" = [38] := rfl
  unfold parse appendPair
  split_ifs with h
  · subst h
    simp only [utf8_append, he]
    show parseBytes (utf8 (encode name) ++ [61] ++ utf8 (encode value)) = [] ++ _
    rw [List.append_assoc, List.singleton_append, parseBytes_pair, List.nil_append]
  · simp only [utf8_append, he, ha]
    rw [show utf8 query ++ [38] ++ utf8 (encode name) ++ [61] ++ utf8 (encode value) =
      utf8 query ++ 38 :: (utf8 (encode name) ++ 61 :: utf8 (encode value)) from by simp,
      parseBytes_append, parseBytes_pair]

end Form
