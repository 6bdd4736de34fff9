import AuthFoundation.Decoding

set_option autoImplicit false

/-!
# The four record formats

* `IsNumber`, `numberValue`: numbers with an optional sign, `parseUInt64_eq_some`,
  `parseInt32_eq_some`.
* `Kind`, `Format`, `InFormat`: what the fields of a map may hold.
* `Codec`: an encoder, its decoder and their format; `externalCodec`, …, `logoutCodec`.
* `codecs_exact`: **each codec inverts itself and accepts its format exactly**.
-/

namespace AuthFoundation

open Text Redis

/-! ## Numbers -/

/-- Digits, after at most one of these signs. -/
def IsNumber (signs v : Bytes) : Prop :=
  numeral v = true ∨ ∃ sign ∈ signs, ∃ digits, v = sign :: digits ∧ numeral digits = true

/-- The value of a number; 43 is a plus sign and 45 a minus sign. -/
def numberValue : Bytes → ℤ
  | 43 :: digits => decimal digits
  | 45 :: digits => -decimal digits
  | digits => decimal digits

section Numbers

variable {signs v d : Bytes}

theorem numeral_plus : numeral (43 :: d) = false := by
  rw [Bool.eq_false_iff]
  intro h
  exact absurd (numeral_cons h) (by decide)

theorem numeral_minus : numeral (45 :: d) = false := by
  rw [Bool.eq_false_iff]
  intro h
  exact absurd (numeral_cons h) (by decide)

theorem numberValue_numeral (h : numeral v = true) : numberValue v = decimal v := by
  unfold numberValue
  split
  · rw [numeral_plus] at h
    cases h
  · rw [numeral_minus] at h
    cases h
  · rfl

theorem isNumber_plus (h : 43 ∈ signs) : IsNumber signs (43 :: d) ↔ numeral d = true := by
  simp [IsNumber, numeral_plus, h]

theorem isNumber_minus (h : 45 ∈ signs) : IsNumber signs (45 :: d) ↔ numeral d = true := by
  simp [IsNumber, numeral_minus, h]

theorem isNumber_bare (h : ∀ sign ∈ signs, ∀ d, v ≠ sign :: d) :
    IsNumber signs v ↔ numeral v = true := by
  refine or_iff_left ?_
  rintro ⟨sign, hs, d, hv, -⟩
  exact h sign hs d hv

theorem parseUInt64_eq_some {n : UInt64} : parseUInt64 v = some n ↔
    IsNumber [43] v ∧ numberValue v ≤ 2 ^ 64 - 1 ∧ numberValue v = n.toNat := by
  have key : ∀ d, (if numeral d = true ∧ decimal d < 2 ^ 64 then some (UInt64.ofNat (decimal d))
      else none) = some n ↔ numeral d = true ∧ (decimal d : ℤ) ≤ 2 ^ 64 - 1 ∧
        (decimal d : ℤ) = n.toNat := by
    intro d
    have hn := n.toNat_lt
    split_ifs with h
    · rw [Option.some.injEq, ← UInt64.toNat_inj, UInt64.toNat_ofNat_of_lt' h.2]
      exact ⟨fun e => ⟨h.1, by omega, by omega⟩, fun e => by omega⟩
    · simp only [false_iff]
      rintro ⟨hd, hle, -⟩
      exact h ⟨hd, by omega⟩
  unfold parseUInt64
  split
  · rw [key, isNumber_plus List.mem_cons_self]
    rfl
  · rename_i hne
    have hb : IsNumber [43] v ↔ numeral v = true := isNumber_bare (by simpa using hne)
    rw [key, hb]
    refine and_congr_right fun h => ?_
    rw [numberValue_numeral h]

theorem parseInt32_eq_some {n : Int32} : parseInt32 v = some n ↔
    IsNumber [43, 45] v ∧ -2 ^ 31 ≤ numberValue v ∧ numberValue v ≤ 2 ^ 31 - 1 ∧
      numberValue v = n.toInt := by
  have h₁ := n.toInt_lt
  have h₂ := n.le_toInt
  have key : ∀ z : ℤ, -2 ^ 31 ≤ z → z < 2 ^ 31 → (some (Int32.ofInt z) = some n ↔ z = n.toInt) := by
    intro z hl hu
    rw [Option.some.injEq, ← Int32.toInt_inj, Int32.toInt_ofInt_of_le hl hu]
  have bare : ∀ d, (if numeral d = true ∧ decimal d < 2 ^ 31 then some (Int32.ofInt (decimal d))
      else none) = some n ↔ numeral d = true ∧ -2 ^ 31 ≤ (decimal d : ℤ) ∧
        (decimal d : ℤ) ≤ 2 ^ 31 - 1 ∧ (decimal d : ℤ) = n.toInt := by
    intro d
    split_ifs with h
    · rw [key _ (by omega) (by omega)]
      exact ⟨fun e => ⟨h.1, by omega, by omega, e⟩, fun e => e.2.2.2⟩
    · simp only [false_iff]
      rintro ⟨hd, -, hle, -⟩
      exact h ⟨hd, by omega⟩
  unfold parseInt32
  split
  · rw [bare, isNumber_plus List.mem_cons_self]
    rfl
  · rename_i d
    rw [isNumber_minus (by simp)]
    have hv : numberValue (45 :: d) = -decimal d := rfl
    rw [hv]
    split_ifs with h
    · rw [key _ (by omega) (by omega)]
      exact ⟨fun e => ⟨h.1, by omega, by omega, e⟩, fun e => e.2.2.2⟩
    · simp only [false_iff]
      rintro ⟨hd, hle, -⟩
      exact h ⟨hd, by omega⟩
  · rename_i hp hm
    have hb : IsNumber [43, 45] v ↔ numeral v = true := isNumber_bare (by
      intro sign hs d
      rcases List.mem_pair.mp hs with rfl | rfl
      · exact hp d
      · exact hm d)
    rw [bare, hb]
    refine and_congr_right fun h => ?_
    rw [numberValue_numeral h]

end Numbers

/-! ## Maps -/

namespace Fields

variable {fields fields' : Fields}

theorem get_isSome (name : String) :
    (fields.get name).isSome ↔ utf8 name ∈ fields.hash.keys := by
  constructor
  · intro h
    obtain ⟨v, hv⟩ := Option.isSome_iff_exists.mp h
    obtain ⟨b, hb, -⟩ := Option.bind_eq_some_iff.mp hv
    exact Finmap.mem_keys.mpr (Finmap.mem_of_lookup_eq_some hb)
  · exact fun h => (fields.valid _ h).2

theorem exists_name {k : Bytes} (h : k ∈ fields.hash.keys) : ∃ name, k = utf8 name := by
  obtain ⟨name, hn⟩ := Option.isSome_iff_exists.mp (fields.valid k h).1
  exact ⟨name, (text?_eq_some.mp hn).symm⟩

/-- The names of a map, counted or listed. -/
theorem names_iff {expected : List String} (hn : expected.Nodup) :
    fields.len = expected.length ∧ (∀ f ∈ expected, (fields.get f).isSome) ↔
      ∀ name, (fields.get name).isSome ↔ name ∈ expected := by
  have hc : (expected.map utf8).toFinset.card = expected.length := by
    rw [List.toFinset_card_of_nodup (hn.map utf8_injective), List.length_map]
  have hm : ∀ name, utf8 name ∈ (expected.map utf8).toFinset ↔ name ∈ expected := by
    intro name
    rw [List.mem_toFinset, List.mem_map_of_injective utf8_injective]
  simp only [get_isSome]
  constructor
  · rintro ⟨hl, hs⟩ name
    have hsub : (expected.map utf8).toFinset ⊆ fields.hash.keys := by
      intro k hk
      obtain ⟨f, hf, rfl⟩ := List.mem_map.mp (List.mem_toFinset.mp hk)
      exact hs f hf
    rw [← Finset.eq_of_subset_of_card_le hsub (by rw [hc, ← hl, len, hlen]), hm]
  · intro h
    have he : fields.hash.keys = (expected.map utf8).toFinset := by
      ext k
      constructor
      · intro hk
        obtain ⟨name, rfl⟩ := exists_name hk
        exact (hm name).mpr ((h name).mp hk)
      · intro hk
        obtain ⟨name, -, rfl⟩ := List.mem_map.mp (List.mem_toFinset.mp hk)
        exact (h name).mpr ((hm name).mp hk)
    refine ⟨?_, fun f hf => (h f).mpr hf⟩
    rw [len, hlen, he, hc]

/-- The map built from a list of fields. -/
def ofList (l : List (String × String)) : Fields :=
  l.foldl (fun fields p => fields.insert p.1 p.2) empty

theorem hash_ofList (l : List (String × String)) : (ofList l).hash = recordHash l := by
  have key : ∀ fields : Fields, (l.foldl (fun fields p => fields.insert p.1 p.2) fields).hash =
      overlay fields.hash (fieldBytes l) := by
    induction l with
    | nil => exact fun _ => rfl
    | cons p l ih => exact fun fields => ih (fields.insert p.1 p.2)
  exact key empty

theorem of_ofList {l : List (String × String)} (hl : (l.map Prod.fst).Nodup) :
    (ofList l).Of l := by
  obtain ⟨fields, hf, hlen, hget⟩ := ofHash?_recordHash hl
  rw [← hash_ofList, ofHash?_hash] at hf
  rw [Option.some.inj hf]
  exact ⟨hlen, hget⟩

end Fields

/-! ## Formats -/

/-- 64 lower-case hexadecimal characters. -/
def IsHex64 (value : String) : Prop :=
  value.toList.length = 64 ∧ ∀ c ∈ value.toList, c.isDigit = true ∨ 'a' ≤ c ∧ c ≤ 'f'

/-- What a field may hold. -/
inductive Kind where
  | text
  | number (signs : Bytes) (low high : ℤ)
  | word (values : List String)
  | lookup

namespace Kind

def u64 : Kind := .number [43] 0 (2 ^ 64 - 1)

def i32 : Kind := .number [43, 45] (-2 ^ 31) (2 ^ 31 - 1)

def Accepts : Kind → String → Prop
  | .text, _ => True
  | .number signs low high, v =>
    IsNumber signs (utf8 v) ∧ low ≤ numberValue (utf8 v) ∧ numberValue (utf8 v) ≤ high
  | .word values, v => v ∈ values
  | .lookup, v => IsHex64 v

/-- The canonical form: numbers as they are printed. -/
def canonical : Kind → String → String
  | .number _ _ _, v => toString (numberValue (utf8 v))
  | _, v => v

end Kind

/-- The fields of a record. -/
abbrev Format := List (String × Kind)

/-- The map has the fields of the format, and each holds what it may. -/
structure InFormat (format : Format) (fields : Fields) : Prop where
  names : ∀ name, (fields.get name).isSome ↔ name ∈ format.map Prod.fst
  values : ∀ name kind, (name, kind) ∈ format → ∀ v, fields.get name = some v → kind.Accepts v

/-- The canonical form of the value of a field. -/
def canonicalValue (format : Format) (name v : String) : String :=
  match format.lookup name with
  | some kind => kind.canonical v
  | none => v

/-! ## Fields that hold values -/

/-- The field holds a value of this kind, with this canonical form. -/
def Fields.Holds (fields : Fields) (name : String) (kind : Kind) (c : String) : Prop :=
  ∃ v, fields.get name = some v ∧ kind.Accepts v ∧ kind.canonical v = c

section Holds

variable {fields : Fields} {f : String}

theorem isLookup_eq_true {v : String} : isLookup v = true ↔ IsHex64 v := by
  have hascii : (utf8 v).all isHex = true → isAscii v = true := by
    intro h
    rw [isAscii, List.all_eq_true]
    exact fun b hb => decide_eq_true (lt_of_isHex (List.all_eq_true.mp h b hb))
  have hc : ∀ c : Char, (c.isDigit || ('a' ≤ c && c ≤ 'f')) = true ↔
      c.val ≤ 127 ∧ isHex (byte c) = true := by
    intro c
    refine char_iff_byte (p := fun c => c.isDigit || ('a' ≤ c && c ≤ 'f')) (fun c h => ?_)
      (by decide)
    simp only [Char.isDigit, Bool.or_eq_true, Bool.and_eq_true, decide_eq_true_eq] at h
    rcases h with h | h
    · exact UInt32.le_trans h.2 (by decide)
    · exact UInt32.le_trans h.2 (by decide)
  have hl := length_all_utf8 (s := v) (n := 64) (fun _ => lt_of_isHex) hc
  simp only [Bool.or_eq_true, Bool.and_eq_true, decide_eq_true_eq] at hl
  rw [IsHex64, ← hl, isLookup, len]
  simp only [Bool.and_eq_true, decide_eq_true_eq]
  constructor
  · rintro ⟨⟨hn, -⟩, hh⟩
    exact ⟨hn, hh⟩
  · rintro ⟨hn, hh⟩
    exact ⟨⟨hn, hascii hh⟩, hh⟩

theorem Fields.Holds.text {v : String} (h : fields.get f = some v) : fields.Holds f .text v :=
  ⟨v, h, trivial, rfl⟩

theorem Fields.Holds.u64 {n : UInt64} (h : fields.U64 f n) : fields.Holds f .u64 (toString n) := by
  obtain ⟨v, hv, hp⟩ := h
  obtain ⟨hn, hle, he⟩ := parseUInt64_eq_some.mp hp
  refine ⟨v, hv, ⟨hn, by omega, hle⟩, ?_⟩
  show toString (numberValue (utf8 v)) = toString n
  rw [he]
  rfl

theorem Fields.Holds.i32 {n : Int32} (h : fields.I32 f n) : fields.Holds f .i32 (toString n) := by
  obtain ⟨v, hv, hp⟩ := h
  obtain ⟨hn, hge, hle, he⟩ := parseInt32_eq_some.mp hp
  refine ⟨v, hv, ⟨hn, hge, hle⟩, ?_⟩
  show toString (numberValue (utf8 v)) = toString n
  rw [he]
  rfl

theorem exists_u64 {v : String} (hv : fields.get f = some v) (h : Kind.u64.Accepts v) :
    ∃ n, fields.U64 f n := by
  obtain ⟨hn, hge, hle⟩ := h
  obtain ⟨m, hm⟩ := Int.eq_ofNat_of_zero_le hge
  have hlt : m < 2 ^ 64 := by omega
  refine ⟨UInt64.ofNat m, v, hv, parseUInt64_eq_some.mpr ⟨hn, hle, ?_⟩⟩
  rw [hm, UInt64.toNat_ofNat_of_lt' hlt]

theorem exists_i32 {v : String} (hv : fields.get f = some v) (h : Kind.i32.Accepts v) :
    ∃ n, fields.I32 f n := by
  obtain ⟨hn, hge, hle⟩ := h
  refine ⟨Int32.ofInt (numberValue (utf8 v)), v, hv, parseInt32_eq_some.mpr ⟨hn, hge, hle, ?_⟩⟩
  rw [Int32.toInt_ofInt_of_le hge (by omega)]

theorem Fields.Holds.word {v : String} {values : List String} (h : fields.get f = some v)
    (hv : v ∈ values) : fields.Holds f (.word values) v := ⟨v, h, hv, rfl⟩

theorem Fields.Holds.lookup {v : String} (h : fields.get f = some v) (hv : isLookup v = true) :
    fields.Holds f .lookup v := ⟨v, h, isLookup_eq_true.mp hv, rfl⟩

end Holds

/-! ## Maps in a format -/

section InFormat

variable {format : Format} {fields : Fields} {f : String}

theorem InFormat.get (h : InFormat format fields) :
    ∀ p ∈ format, ∃ v, fields.get p.1 = some v ∧ p.2.Accepts v := by
  intro p hp
  obtain ⟨v, hv⟩ := Option.isSome_iff_exists.mp
    ((h.names p.1).mpr (List.mem_map_of_mem (f := Prod.fst) hp))
  exact ⟨v, hv, h.values p.1 p.2 hp v hv⟩

theorem InFormat.len (h : InFormat format fields) (hn : (format.map Prod.fst).Nodup) :
    fields.len = format.length := by
  rw [((Fields.names_iff hn).mpr h.names).1, List.length_map]

/-- The fields of a record as a format has them: with their names and canonical values. -/
def Canonical (format : Format) (fields : Fields) (l : List (String × String)) : Prop :=
  List.Forall₂ (fun p q => p.1 = q.1 ∧ fields.Holds p.1 p.2 q.2) format l

variable {l : List (String × String)}

theorem Canonical.names (h : Canonical format fields l) :
    l.map Prod.fst = format.map Prod.fst := by
  induction h with
  | nil => rfl
  | cons hp _ ih => rw [List.map_cons, List.map_cons, ih, hp.1]

theorem Canonical.holds (h : Canonical format fields l) {kind : Kind} (hf : (f, kind) ∈ format) :
    ∃ c, fields.Holds f kind c := by
  induction h with
  | nil => cases hf
  | cons hp _ ih =>
    rcases List.mem_cons.mp hf with rfl | hf
    · exact ⟨_, hp.2⟩
    · exact ih hf

theorem Canonical.lookup (h : Canonical format fields l) (hf : f ∈ format.map Prod.fst) :
    l.lookup f = (fields.get f).map (canonicalValue format f) := by
  induction h with
  | nil => cases hf
  | @cons p q format l hp _ ih =>
    obtain ⟨name, kind⟩ := p
    obtain ⟨name', c⟩ := q
    obtain ⟨rfl, v, hv, -, rfl⟩ := hp
    by_cases he : f = name
    · subst he
      dsimp only at hv
      rw [hv, List.lookup_cons, beq_self_eq_true]
      simp [canonicalValue]
    · have hb : (f == name) = false := beq_false_of_ne he
      have hv : canonicalValue ((name, kind) :: format) f = canonicalValue format f := by
        funext v
        simp only [canonicalValue, List.lookup_cons, hb]
      rw [List.lookup_cons, hb, hv]
      exact ih ((List.mem_cons.mp hf).resolve_left he)

/-- A map that decodes to a record has the format of the record. -/
theorem Canonical.accepted (h : Canonical format fields l) (hn : (format.map Prod.fst).Nodup)
    (hlen : fields.len = format.length) : InFormat format fields where
  names := by
    refine (Fields.names_iff hn).mp ⟨by rw [hlen, List.length_map], fun f hf => ?_⟩
    obtain ⟨⟨f, kind⟩, hm, rfl⟩ := List.mem_map.mp hf
    obtain ⟨c, v, hv, -⟩ := h.holds hm
    exact Option.isSome_of_eq_some hv
  values := by
    intro name kind hm v hv
    obtain ⟨c, w, hw, ha, -⟩ := h.holds hm
    rw [hw] at hv
    rwa [← Option.some.inj hv]

end InFormat

/-! ## Codecs -/

/-- How records of a type are written and read. -/
structure Codec (α : Type) where
  format : Format
  encode : α → List (String × String)
  decode : Fields → Except RedisStateError α
  /-- The field that must be a lookup, if there is one. -/
  lookup : α → Option String

/-- A codec inverts itself on the records with a lookup, accepts its format exactly, and writes the
canonical form of what it read. -/
structure Codec.Exact {α : Type} (c : Codec α) : Prop where
  decoded : ∀ s, (∀ v ∈ c.lookup s, IsHex64 v) → c.decode (.ofList (c.encode s)) = .ok s
  refused : ∀ s, ¬(∀ v ∈ c.lookup s, IsHex64 v) →
    c.decode (.ofList (c.encode s)) = .error .invalidStoredState
  accepted : ∀ fields, (∃ s, c.decode fields = .ok s) ↔ InFormat c.format fields
  encoded : ∀ fields s, c.decode fields = .ok s → ∀ name,
    (Fields.ofList (c.encode s)).get name =
      (fields.get name).map (canonicalValue c.format name)

/-- What makes a codec exact, one map at a time. -/
theorem Codec.exact {α : Type} {c : Codec α} (hn : (c.format.map Prod.fst).Nodup)
    (hok : ∀ s fields, fields.Of (c.encode s) → (∀ v ∈ c.lookup s, IsHex64 v) →
      c.decode fields = .ok s)
    (herr : ∀ s fields, fields.Of (c.encode s) → ¬(∀ v ∈ c.lookup s, IsHex64 v) →
      c.decode fields = .error .invalidStoredState)
    (hnames : ∀ s, (c.encode s).map Prod.fst = c.format.map Prod.fst)
    (hcan : ∀ fields s, c.decode fields = .ok s →
      fields.len = c.format.length ∧ Canonical c.format fields (c.encode s))
    (hacc : ∀ fields, InFormat c.format fields → ∃ s, c.decode fields = .ok s) : c.Exact := by
  have hof : ∀ s, (Fields.ofList (c.encode s)).Of (c.encode s) := fun s =>
    Fields.of_ofList ((hnames s).symm ▸ hn)
  refine ⟨fun s => hok s _ (hof s), fun s => herr s _ (hof s), fun fields => ⟨?_, hacc fields⟩, ?_⟩
  · rintro ⟨s, hs⟩
    obtain ⟨hlen, hc⟩ := hcan fields s hs
    exact hc.accepted hn hlen
  · intro fields s hs name
    obtain ⟨hlen, hc⟩ := hcan fields s hs
    rw [(hof s).2 name]
    by_cases hm : name ∈ c.format.map Prod.fst
    · exact hc.lookup hm
    · have hnone : fields.get name = none := by
        rw [← Option.not_isSome_iff_eq_none, (hc.accepted hn hlen).names]
        exact hm
      rw [hnone, Option.map_none, List.lookup_eq_none_iff]
      intro p hp
      rw [bne_iff_ne]
      rintro rfl
      exact hm (hc.names ▸ List.mem_map_of_mem (f := Prod.fst) hp)

def externalCodec : Codec ExternalAuthTransaction where
  format := [("service_id", .text), ("service_state", .text), ("handoff_code_challenge", .text),
    ("provider", .text), ("provider_verification_data", .text), ("created_at", .u64),
    ("expires_at", .u64), ("status", .word ["waiting", "processing"])]
  encode := encodeExternal
  decode := decodeExternal
  lookup _ := none

def sessionCodec : Codec CommonSession where
  format := [("internal_user_id", .i32), ("authenticated_at", .u64), ("created_at", .u64),
    ("expires_at", .u64)]
  encode := encodeSession
  decode := decodeSession
  lookup _ := none

def handoffCodec : Codec AuthenticationHandoff where
  format := [("service_id", .text), ("internal_user_id", .i32), ("common_session_lookup", .lookup),
    ("code_challenge", .text), ("authenticated_at", .u64), ("issued_at", .u64),
    ("expires_at", .u64), ("status", .word ["unused", "used"])]
  encode := encodeHandoff
  decode := decodeHandoff
  lookup s := s.commonSessionLookup

def logoutCodec : Codec CommonLogoutTransaction where
  format := [("service_id", .text), ("logout_return_uri", .text), ("csrf_lookup", .lookup),
    ("created_at", .u64), ("expires_at", .u64), ("status", .word ["unused", "used"])]
  encode := encodeLogout
  decode := decodeLogout
  lookup s := s.csrfLookup

section Exact

theorem externalStatusValue_mem (status : ExternalStatus) :
    externalStatusValue status ∈ ["waiting", "processing"] := by
  cases status <;> simp [externalStatusValue]

theorem usageStatusValue_mem (status : UsageStatus) :
    usageStatusValue status ∈ ["unused", "used"] := by
  cases status <;> simp [usageStatusValue]

theorem exists_externalStatus {v : String} (h : v ∈ ["waiting", "processing"]) :
    ∃ status, v = externalStatusValue status := by
  rcases List.mem_pair.mp h with rfl | rfl
  · exact ⟨.waiting, rfl⟩
  · exact ⟨.processing, rfl⟩

theorem exists_usageStatus {v : String} (h : v ∈ ["unused", "used"]) :
    ∃ status, v = usageStatusValue status := by
  rcases List.mem_pair.mp h with rfl | rfl
  · exact ⟨.unused, rfl⟩
  · exact ⟨.used, rfl⟩

theorem external_exact : externalCodec.Exact := by
  refine Codec.exact (by decide) (fun s fields h _ => decodeExternal_encode h)
    (fun s fields _ h => absurd (fun v hv => by cases hv) h) (fun _ => rfl) ?_ ?_
  · intro fields s h
    obtain ⟨hl, h₁, h₂, h₃, h₄, h₅, h₆, h₇, h₈⟩ := decodeExternal_eq_ok.mp h
    exact ⟨hl, .cons ⟨rfl, .text h₁⟩ <| .cons ⟨rfl, .text h₂⟩ <| .cons ⟨rfl, .text h₃⟩ <|
      .cons ⟨rfl, .text h₄⟩ <| .cons ⟨rfl, .text h₅⟩ <| .cons ⟨rfl, .u64 h₆⟩ <|
      .cons ⟨rfl, .u64 h₇⟩ <| .cons ⟨rfl, .word h₈ (externalStatusValue_mem _)⟩ .nil⟩
  · intro fields h
    have hlen := h.len (by decide)
    have hget := h.get
    simp only [externalCodec, List.forall_mem_cons] at hget
    obtain ⟨⟨v₁, h₁, -⟩, ⟨v₂, h₂, -⟩, ⟨v₃, h₃, -⟩, ⟨v₄, h₄, -⟩, ⟨v₅, h₅, -⟩, ⟨v₆, h₆, a₆⟩,
      ⟨v₇, h₇, a₇⟩, ⟨v₈, h₈, a₈⟩, -⟩ := hget
    obtain ⟨createdAt, h₆⟩ := exists_u64 h₆ a₆
    obtain ⟨expiresAt, h₇⟩ := exists_u64 h₇ a₇
    obtain ⟨status, rfl⟩ := exists_externalStatus a₈
    exact ⟨⟨v₁, v₂, v₃, v₄, v₅, createdAt, expiresAt, status⟩,
      decodeExternal_eq_ok.mpr ⟨hlen, h₁, h₂, h₃, h₄, h₅, h₆, h₇, h₈⟩⟩

theorem session_exact : sessionCodec.Exact := by
  refine Codec.exact (by decide) (fun s fields h _ => decodeSession_encode h)
    (fun s fields _ h => absurd (fun v hv => by cases hv) h) (fun _ => rfl) ?_ ?_
  · intro fields s h
    obtain ⟨hl, h₁, h₂, h₃, h₄⟩ := decodeSession_eq_ok.mp h
    exact ⟨hl, .cons ⟨rfl, .i32 h₁⟩ <| .cons ⟨rfl, .u64 h₂⟩ <| .cons ⟨rfl, .u64 h₃⟩ <|
      .cons ⟨rfl, .u64 h₄⟩ .nil⟩
  · intro fields h
    have hlen := h.len (by decide)
    have hget := h.get
    simp only [sessionCodec, List.forall_mem_cons] at hget
    obtain ⟨⟨v₁, h₁, a₁⟩, ⟨v₂, h₂, a₂⟩, ⟨v₃, h₃, a₃⟩, ⟨v₄, h₄, a₄⟩, -⟩ := hget
    obtain ⟨internalUserId, h₁⟩ := exists_i32 h₁ a₁
    obtain ⟨authenticatedAt, h₂⟩ := exists_u64 h₂ a₂
    obtain ⟨createdAt, h₃⟩ := exists_u64 h₃ a₃
    obtain ⟨expiresAt, h₄⟩ := exists_u64 h₄ a₄
    exact ⟨⟨internalUserId, authenticatedAt, createdAt, expiresAt⟩,
      decodeSession_eq_ok.mpr ⟨hlen, h₁, h₂, h₃, h₄⟩⟩

theorem handoff_exact : handoffCodec.Exact := by
  have hlookup : ∀ s : AuthenticationHandoff,
      (∀ v ∈ handoffCodec.lookup s, IsHex64 v) ↔ isLookup s.commonSessionLookup = true := by
    intro s
    simp [handoffCodec, isLookup_eq_true]
  refine Codec.exact (by decide) (fun s fields h hs => ?_) (fun s fields h hs => ?_) (fun _ => rfl)
    ?_ ?_
  · exact decodeHandoff_encode h ((hlookup s).mp hs)
  · rw [hlookup] at hs
    exact (decodeHandoff_of h).trans (if_neg hs)
  · intro fields s h
    obtain ⟨hl, h₁, h₂, h₃, hx, h₄, h₅, h₆, h₇, h₈⟩ := decodeHandoff_eq_ok.mp h
    exact ⟨hl, .cons ⟨rfl, .text h₁⟩ <| .cons ⟨rfl, .i32 h₂⟩ <| .cons ⟨rfl, .lookup h₃ hx⟩ <|
      .cons ⟨rfl, .text h₄⟩ <| .cons ⟨rfl, .u64 h₅⟩ <| .cons ⟨rfl, .u64 h₆⟩ <|
      .cons ⟨rfl, .u64 h₇⟩ <| .cons ⟨rfl, .word h₈ (usageStatusValue_mem _)⟩ .nil⟩
  · intro fields h
    have hlen := h.len (by decide)
    have hget := h.get
    simp only [handoffCodec, List.forall_mem_cons] at hget
    obtain ⟨⟨v₁, h₁, -⟩, ⟨v₂, h₂, a₂⟩, ⟨v₃, h₃, a₃⟩, ⟨v₄, h₄, -⟩, ⟨v₅, h₅, a₅⟩, ⟨v₆, h₆, a₆⟩,
      ⟨v₇, h₇, a₇⟩, ⟨v₈, h₈, a₈⟩, -⟩ := hget
    obtain ⟨internalUserId, h₂⟩ := exists_i32 h₂ a₂
    obtain ⟨authenticatedAt, h₅⟩ := exists_u64 h₅ a₅
    obtain ⟨issuedAt, h₆⟩ := exists_u64 h₆ a₆
    obtain ⟨expiresAt, h₇⟩ := exists_u64 h₇ a₇
    obtain ⟨status, rfl⟩ := exists_usageStatus a₈
    exact ⟨⟨v₁, internalUserId, v₃, v₄, authenticatedAt, issuedAt, expiresAt, status⟩,
      decodeHandoff_eq_ok.mpr
        ⟨hlen, h₁, h₂, h₃, isLookup_eq_true.mpr a₃, h₄, h₅, h₆, h₇, h₈⟩⟩

theorem logout_exact : logoutCodec.Exact := by
  have hlookup : ∀ s : CommonLogoutTransaction,
      (∀ v ∈ logoutCodec.lookup s, IsHex64 v) ↔ isLookup s.csrfLookup = true := by
    intro s
    simp [logoutCodec, isLookup_eq_true]
  refine Codec.exact (by decide) (fun s fields h hs => ?_) (fun s fields h hs => ?_) (fun _ => rfl)
    ?_ ?_
  · exact decodeLogout_encode h ((hlookup s).mp hs)
  · rw [hlookup] at hs
    exact (decodeLogout_of h).trans (if_neg hs)
  · intro fields s h
    obtain ⟨hl, h₁, h₂, h₃, hx, h₄, h₅, h₆⟩ := decodeLogout_eq_ok.mp h
    exact ⟨hl, .cons ⟨rfl, .text h₁⟩ <| .cons ⟨rfl, .text h₂⟩ <| .cons ⟨rfl, .lookup h₃ hx⟩ <|
      .cons ⟨rfl, .u64 h₄⟩ <| .cons ⟨rfl, .u64 h₅⟩ <|
      .cons ⟨rfl, .word h₆ (usageStatusValue_mem _)⟩ .nil⟩
  · intro fields h
    have hlen := h.len (by decide)
    have hget := h.get
    simp only [logoutCodec, List.forall_mem_cons] at hget
    obtain ⟨⟨v₁, h₁, -⟩, ⟨v₂, h₂, -⟩, ⟨v₃, h₃, a₃⟩, ⟨v₄, h₄, a₄⟩, ⟨v₅, h₅, a₅⟩, ⟨v₆, h₆, a₆⟩,
      -⟩ := hget
    obtain ⟨createdAt, h₄⟩ := exists_u64 h₄ a₄
    obtain ⟨expiresAt, h₅⟩ := exists_u64 h₅ a₅
    obtain ⟨status, rfl⟩ := exists_usageStatus a₆
    exact ⟨⟨v₁, v₂, v₃, createdAt, expiresAt, status⟩,
      decodeLogout_eq_ok.mpr ⟨hlen, h₁, h₂, h₃, isLookup_eq_true.mpr a₃, h₄, h₅, h₆⟩⟩

end Exact

/-- **Each codec inverts itself and accepts its format exactly**, writing numbers in their canonical
form. -/
theorem codecs_exact : externalCodec.Exact ∧ sessionCodec.Exact ∧ handoffCodec.Exact ∧
    logoutCodec.Exact :=
  ⟨external_exact, session_exact, handoff_exact, logout_exact⟩

end AuthFoundation
