import AuthFoundation.Decoding
import AuthFoundation.Stored

set_option autoImplicit false

/-!
# The scripts and the service agree on what a record is

The scripts check records with Lua patterns and floating-point numbers, the service with
`str::parse` and a list of field names.

* `uint_iff`, `int_iff`: which strings are numbers, and which numbers.
* `Malformed`: what the service and the bound `2 ^ 53 - 1` reject.
* `externalValid_iff`, …, `logoutValid_iff`: what the scripts accept is what is not malformed.
* `record_checks_agree`: **agreement**, for every string and every stored hash of strings.
-/

namespace AuthFoundation

open Text Redis Lua

/-! ## Numbers -/

/-- What both sides make of a string of digits, with a plus sign or none. -/
theorem unsigned_cases {v : Bytes} (h : unsigned v = true) : ∃ d, numeral d = true ∧
    tonumber v = some (double (decimal d) : ℤ) ∧
    parseUInt64 v = if decimal d < 2 ^ 64 then some (UInt64.ofNat (decimal d)) else none := by
  unfold unsigned at h
  split at h
  · rename_i d
    refine ⟨d, h, by rw [tonumber, if_pos h], ?_⟩
    rw [parseUInt64]
    simp only [h, true_and]
  · rename_i hplus
    have hminus : ∀ d : Bytes, v ≠ 45 :: d := by
      rintro d rfl
      exact absurd (numeral_cons h) (by decide)
    refine ⟨v, h, ?_, ?_⟩
    · rw [tonumber, if_pos h]
      · exact hplus
      · exact hminus
    · rw [parseUInt64]
      · simp only [h, true_and]
      · exact hplus

theorem unsigned_of_parse {v : Bytes} {n : UInt64} (h : parseUInt64 v = some n) :
    unsigned v = true := by
  unfold parseUInt64 at h
  split at h
  · split_ifs at h with hd
    exact hd.1
  · rename_i hplus
    split_ifs at h with hd
    rw [unsigned]
    · exact hd.1
    · exact hplus

/-- **`uint` accepts** what `parse::<u64>` reads as a number up to `2 ^ 53 - 1`. -/
theorem uint_iff {v : Bytes} :
    uint (some v) = true ↔ ∃ n, parseUInt64 v = some n ∧ n.toNat ≤ 2 ^ 53 - 1 := by
  constructor
  · intro h
    simp only [uint, Bool.and_eq_true] at h
    obtain ⟨d, -, ht, hp⟩ := unsigned_cases h.1
    have hb := h.2
    simp only [ht, Bool.and_eq_true, decide_eq_true_eq] at hb
    have hd : decimal d < 2 ^ 53 := double_lt_iff.mp (by omega)
    refine ⟨UInt64.ofNat (decimal d), by rw [hp, if_pos (by omega)], ?_⟩
    rw [UInt64.toNat_ofNat_of_lt' (show decimal d < 2 ^ 64 by omega)]
    omega
  · rintro ⟨n, hp, hn⟩
    have hu := unsigned_of_parse hp
    obtain ⟨d, -, ht, hp'⟩ := unsigned_cases hu
    rw [hp'] at hp
    split_ifs at hp with hd
    obtain rfl := Option.some.inj hp
    rw [UInt64.toNat_ofNat_of_lt' hd] at hn
    have hb := double_of_lt (n := decimal d) (by omega)
    simp only [uint, hu, ht, hb, Bool.true_and, Bool.and_eq_true, decide_eq_true_eq]
    omega

theorem tonumber_of_parseUInt64 {v : Bytes} {n : UInt64} (h : parseUInt64 v = some n)
    (hn : n.toNat ≤ 2 ^ 53 - 1) : tonumber v = some (n.toNat : ℤ) := by
  obtain ⟨d, -, ht, hp⟩ := unsigned_cases (unsigned_of_parse h)
  rw [hp] at h
  split_ifs at h with hd
  obtain rfl := Option.some.inj h
  rw [UInt64.toNat_ofNat_of_lt' hd] at hn ⊢
  rw [ht, double_of_lt (by omega)]

/-- What both sides make of a string of digits with a sign or none. -/
theorem signed_cases {v : Bytes} (h : signed v = true) : ∃ d, numeral d = true ∧
    ((tonumber v = some (double (decimal d) : ℤ) ∧
      parseInt32 v = if decimal d < 2 ^ 31 then some (Int32.ofInt (decimal d)) else none) ∨
    (tonumber v = some (-double (decimal d) : ℤ) ∧
      parseInt32 v = if decimal d ≤ 2 ^ 31 then some (Int32.ofInt (-decimal d)) else none)) := by
  unfold signed at h
  split at h
  · rename_i d
    refine ⟨d, h, .inl ⟨by rw [tonumber, if_pos h], ?_⟩⟩
    rw [parseInt32]
    simp only [h, true_and]
  · rename_i d
    refine ⟨d, h, .inr ⟨by rw [tonumber, if_pos h], ?_⟩⟩
    rw [parseInt32]
    simp only [h, true_and]
  · rename_i hplus hminus
    refine ⟨v, h, .inl ⟨?_, ?_⟩⟩
    · rw [tonumber, if_pos h]
      · exact hplus
      · exact hminus
    · rw [parseInt32]
      · simp only [h, true_and]
      · exact hplus
      · exact hminus

theorem signed_of_parse {v : Bytes} {n : Int32} (h : parseInt32 v = some n) : signed v = true := by
  unfold parseInt32 at h
  split at h
  · split_ifs at h with hd
    exact hd.1
  · split_ifs at h with hd
    exact hd.1
  · rename_i hplus hminus
    split_ifs at h with hd
    rw [signed]
    · exact hd.1
    · exact hplus
    · exact hminus

theorem tonumber_of_parseInt32 {v : Bytes} {n : Int32} (h : parseInt32 v = some n) :
    tonumber v = some n.toInt := by
  obtain ⟨d, -, ⟨ht, hp⟩ | ⟨ht, hp⟩⟩ := signed_cases (signed_of_parse h)
  · rw [hp] at h
    split_ifs at h with hd
    obtain rfl := Option.some.inj h
    rw [ht, double_of_lt (by omega), Int32.toInt_ofInt_of_le (by omega) (by omega)]
  · rw [hp] at h
    split_ifs at h with hd
    obtain rfl := Option.some.inj h
    rw [ht, double_of_lt (by omega), Int32.toInt_ofInt_of_le (by omega) (by omega)]

/-- **`int` accepts** what `parse::<i32>` reads. -/
theorem int_iff {v : Bytes} : int (some v) = true ↔ ∃ n, parseInt32 v = some n := by
  constructor
  · intro h
    simp only [int, Bool.and_eq_true] at h
    obtain ⟨d, -, ⟨ht, hp⟩ | ⟨ht, hp⟩⟩ := signed_cases h.1
    · have hb := h.2
      simp only [ht, Bool.and_eq_true, decide_eq_true_eq] at hb
      have hd : decimal d < 2 ^ 53 := double_lt_iff.mp (by omega)
      rw [double_of_lt hd] at hb
      exact ⟨_, by rw [hp, if_pos (by omega)]⟩
    · have hb := h.2
      simp only [ht, Bool.and_eq_true, decide_eq_true_eq] at hb
      have hd : decimal d < 2 ^ 53 := double_lt_iff.mp (by omega)
      rw [double_of_lt hd] at hb
      exact ⟨_, by rw [hp, if_pos (by omega)]⟩
  · rintro ⟨n, hp⟩
    have h₁ := n.toInt_lt
    have h₂ := n.le_toInt
    simp only [int, signed_of_parse hp, tonumber_of_parseInt32 hp, Bool.true_and,
      Bool.and_eq_true, decide_eq_true_eq]
    omega

/-! ## Fields -/

section Fields

variable {h : Hash} {fields : Fields} {f : String}

/-- The scripts and the service read the same fields. -/
theorem hget_eq (hf : Fields.ofHash? h = some fields) (f : String) :
    hget h f = (fields.get f).map utf8 := by
  obtain rfl := Fields.ofHash?_eq_some hf
  cases hv : fields.hash.lookup (utf8 f) with
  | none => simp [Fields.get, hv]
  | some v =>
    have hk : utf8 f ∈ fields.hash.keys :=
      Finmap.mem_keys.mpr (Finmap.lookup_isSome.mp (by rw [hv, Option.isSome_some]))
    have hs := (fields.valid _ hk).2
    rw [hv, Option.bind_some] at hs
    obtain ⟨t, ht⟩ := Option.isSome_iff_exists.mp hs
    simp [Fields.get, hv, ht, text?_eq_some.mp ht]

theorem hlen_eq (hf : Fields.ofHash? h = some fields) : hlen h = fields.len := by
  rw [Fields.len, Fields.ofHash?_eq_some hf]

theorem Fields.U64.unique {n m : UInt64} (h₁ : fields.U64 f n) (h₂ : fields.U64 f m) : n = m := by
  obtain ⟨v, hv, hn⟩ := h₁
  obtain ⟨w, hw, hm⟩ := h₂
  obtain rfl := Option.some.inj (hv.symm.trans hw)
  exact Option.some.inj (hn.symm.trans hm)

variable (hf : Fields.ofHash? h = some fields)

include hf

theorem hget_ne_none : hget h f ≠ none ↔ ∃ v, fields.get f = some v := by
  rw [hget_eq hf, ne_eq, Option.map_eq_none_iff, ← ne_eq, Option.ne_none_iff_exists']

theorem uint_field :
    uint (hget h f) = true ↔ ∃ n, fields.U64 f n ∧ n.toNat ≤ 2 ^ 53 - 1 := by
  rw [hget_eq hf]
  cases hv : fields.get f with
  | none => simp [uint, Fields.U64, hv]
  | some v => simp [uint_iff, Fields.U64, hv]

theorem int_field : int (hget h f) = true ↔ ∃ n, fields.I32 f n := by
  rw [hget_eq hf]
  cases hv : fields.get f with
  | none => simp [int, Fields.I32, hv]
  | some v => simp [int_iff, Fields.I32, hv]

theorem lookup_field :
    lookup (hget h f) = true ↔ ∃ v, fields.get f = some v ∧ isLookup v = true := by
  rw [hget_eq hf]
  cases hv : fields.get f with
  | none => simp [lookup]
  | some v => simp [lookup_utf8]

theorem num_U64 {n : UInt64} (hn : fields.U64 f n) (hb : n.toNat ≤ 2 ^ 53 - 1) :
    num (hget h f) = n.toNat := by
  obtain ⟨v, hv, hp⟩ := hn
  rw [hget_eq hf, hv, num, Option.map_some, Option.bind_some, tonumber_of_parseUInt64 hp hb,
    Option.getD_some]

theorem num_I32 {n : Int32} (hn : fields.I32 f n) : num (hget h f) = n.toInt := by
  obtain ⟨v, hv, hp⟩ := hn
  rw [hget_eq hf, hv, num, Option.map_some, Option.bind_some, tonumber_of_parseInt32 hp,
    Option.getD_some]

theorem hget_eq_some {v : String} : hget h f = some (utf8 v) ↔ fields.get f = some v := by
  rw [hget_eq hf]
  cases fields.get f <;> simp

end Fields

/-! ## Records -/

section Records

variable {h : Hash} {fields : Fields}

/-- A `u64` field of the record exceeds `2 ^ 53 - 1`. -/
def Exceeds (fields : Fields) (names : List String) : Prop :=
  ∃ f ∈ names, ∃ n, fields.U64 f n ∧ 2 ^ 53 - 1 < n.toNat

/-- **Malformed records**: the decoder says `InvalidStoredState`, or a number is too large. -/
def Malformed {α : Type} (decoded : Except RedisStateError α) (fields : Fields)
    (names : List String) : Prop :=
  decoded = .error .invalidStoredState ∨ Exceeds fields names

/-- The names of the `u64` fields. -/
def sessionTimes : List String := ["authenticated_at", "created_at", "expires_at"]

def handoffTimes : List String := ["authenticated_at", "issued_at", "expires_at"]

def transactionTimes : List String := ["created_at", "expires_at"]

theorem not_malformed {α : Type} {x : Except RedisStateError α} {names : List String}
    (hx : FailsWith .invalidStoredState x) : ¬Malformed x fields names ↔
      ∃ r, x = .ok r ∧ ∀ f ∈ names, ∀ n, fields.U64 f n → n.toNat ≤ 2 ^ 53 - 1 := by
  simp only [Malformed, Exceeds, not_or, not_exists, not_and, not_lt]
  constructor
  · rintro ⟨hne, hb⟩
    cases hd : x with
    | error e => exact absurd (hx e hd ▸ hd) hne
    | ok r => exact ⟨r, rfl, hb⟩
  · rintro ⟨r, rfl, hb⟩
    exact ⟨nofun, hb⟩

variable (hf : Fields.ofHash? h = some fields)

include hf

theorem externalValid_iff :
    externalValid h = true ∧ (hget h "status" = some (utf8 "processing") ∨
      hget h "status" = some (utf8 "waiting")) ↔
    ¬Malformed (decodeExternal fields) fields transactionTimes := by
  rw [not_malformed decodeExternal_failsWith]
  simp only [externalValid, decide_eq_true_eq, not_or, not_not, ← ne_eq, hget_ne_none hf,
    uint_field hf, hget_eq_some hf, hlen_eq hf]
  constructor
  · rintro ⟨⟨hl, ⟨v₁, h₁⟩, ⟨v₂, h₂⟩, ⟨v₃, h₃⟩, ⟨v₄, h₄⟩, ⟨v₅, h₅⟩, ⟨n₁, h₆, b₁⟩, ⟨n₂, h₇, b₂⟩, -⟩,
      hs⟩
    have hs : ∃ status, fields.get "status" = some (externalStatusValue status) := by
      rcases hs with hs | hs
      · exact ⟨.processing, hs⟩
      · exact ⟨.waiting, hs⟩
    obtain ⟨status, hs⟩ := hs
    refine ⟨⟨v₁, v₂, v₃, v₄, v₅, n₁, n₂, status⟩,
      decodeExternal_eq_ok.mpr ⟨hl, h₁, h₂, h₃, h₄, h₅, h₆, h₇, hs⟩, ?_⟩
    simp only [transactionTimes, List.forall_mem_cons, List.not_mem_nil, false_imp_iff,
      implies_true, and_true]
    exact ⟨fun n hn => h₆.unique hn ▸ b₁, fun n hn => h₇.unique hn ▸ b₂⟩
  · rintro ⟨r, hr, hb⟩
    obtain ⟨hl, h₁, h₂, h₃, h₄, h₅, h₆, h₇, hs⟩ := decodeExternal_eq_ok.mp hr
    refine ⟨⟨hl, ⟨_, h₁⟩, ⟨_, h₂⟩, ⟨_, h₃⟩, ⟨_, h₄⟩, ⟨_, h₅⟩, ⟨_, h₆, hb _ (by decide) _ h₆⟩,
      ⟨_, h₇, hb _ (by decide) _ h₇⟩, ⟨_, hs⟩⟩, ?_⟩
    rw [hs]
    cases r.status with
    | waiting => exact .inr rfl
    | processing => exact .inl rfl

theorem sessionValid_iff :
    sessionValid h = true ↔ ¬Malformed (decodeSession fields) fields sessionTimes := by
  rw [not_malformed decodeSession_failsWith]
  simp only [sessionValid, decide_eq_true_eq, not_or, not_not, int_field hf, uint_field hf,
    hlen_eq hf]
  constructor
  · rintro ⟨hl, ⟨u, h₁⟩, ⟨n₁, h₂, b₁⟩, ⟨n₂, h₃, b₂⟩, n₃, h₄, b₃⟩
    refine ⟨⟨u, n₁, n₂, n₃⟩, decodeSession_eq_ok.mpr ⟨hl, h₁, h₂, h₃, h₄⟩, ?_⟩
    simp only [sessionTimes, List.forall_mem_cons, List.not_mem_nil, false_imp_iff,
      implies_true, and_true]
    exact ⟨fun n hn => h₂.unique hn ▸ b₁, fun n hn => h₃.unique hn ▸ b₂,
      fun n hn => h₄.unique hn ▸ b₃⟩
  · rintro ⟨r, hr, hb⟩
    obtain ⟨hl, h₁, h₂, h₃, h₄⟩ := decodeSession_eq_ok.mp hr
    exact ⟨hl, ⟨_, h₁⟩, ⟨_, h₂, hb _ (by decide) _ h₂⟩, ⟨_, h₃, hb _ (by decide) _ h₃⟩,
      ⟨_, h₄, hb _ (by decide) _ h₄⟩⟩

omit hf in
/-- The two words for a status. -/
theorem usage_cases {o : Option String} : o = some "used" ∨ o = some "unused" ↔
    ∃ status, o = some (usageStatusValue status) := by
  constructor
  · rintro (h | h)
    · exact ⟨.used, h⟩
    · exact ⟨.unused, h⟩
  · rintro ⟨status, h⟩
    cases status with
    | unused => exact .inr h
    | used => exact .inl h

theorem handoffValid_iff :
    handoffValid h = true ∧ (hget h "status" = some (utf8 "used") ∨
      hget h "status" = some (utf8 "unused")) ↔
    ¬Malformed (decodeHandoff fields) fields handoffTimes := by
  rw [not_malformed decodeHandoff_failsWith]
  simp only [handoffValid, decide_eq_true_eq, not_or, not_not, ← ne_eq, hget_ne_none hf,
    uint_field hf, int_field hf, lookup_field hf, hget_eq_some hf, hlen_eq hf, usage_cases]
  constructor
  · rintro ⟨⟨hl, ⟨v₁, h₁⟩, ⟨u, h₂⟩, ⟨v₂, h₃, hx⟩, ⟨v₃, h₄⟩, ⟨n₁, h₅, b₁⟩, ⟨n₂, h₆, b₂⟩,
      ⟨n₃, h₇, b₃⟩, -⟩, status, hs⟩
    refine ⟨⟨v₁, u, v₂, v₃, n₁, n₂, n₃, status⟩,
      decodeHandoff_eq_ok.mpr ⟨hl, h₁, h₂, h₃, hx, h₄, h₅, h₆, h₇, hs⟩, ?_⟩
    simp only [handoffTimes, List.forall_mem_cons, List.not_mem_nil, false_imp_iff,
      implies_true, and_true]
    exact ⟨fun n hn => h₅.unique hn ▸ b₁, fun n hn => h₆.unique hn ▸ b₂,
      fun n hn => h₇.unique hn ▸ b₃⟩
  · rintro ⟨r, hr, hb⟩
    obtain ⟨hl, h₁, h₂, h₃, hx, h₄, h₅, h₆, h₇, hs⟩ := decodeHandoff_eq_ok.mp hr
    exact ⟨⟨hl, ⟨_, h₁⟩, ⟨_, h₂⟩, ⟨_, h₃, hx⟩, ⟨_, h₄⟩, ⟨_, h₅, hb _ (by decide) _ h₅⟩,
      ⟨_, h₆, hb _ (by decide) _ h₆⟩, ⟨_, h₇, hb _ (by decide) _ h₇⟩, ⟨_, hs⟩⟩, ⟨_, hs⟩⟩

theorem logoutValid_iff :
    logoutValid h = true ∧ (hget h "status" = some (utf8 "used") ∨
      hget h "status" = some (utf8 "unused")) ↔
    ¬Malformed (decodeLogout fields) fields transactionTimes := by
  rw [not_malformed decodeLogout_failsWith]
  simp only [logoutValid, decide_eq_true_eq, not_or, not_not, ← ne_eq, hget_ne_none hf,
    uint_field hf, lookup_field hf, hget_eq_some hf, hlen_eq hf, usage_cases]
  constructor
  · rintro ⟨⟨hl, ⟨v₁, h₁⟩, ⟨v₂, h₂⟩, ⟨v₃, h₃, hx⟩, ⟨n₁, h₄, b₁⟩, ⟨n₂, h₅, b₂⟩, -⟩, status, hs⟩
    refine ⟨⟨v₁, v₂, v₃, n₁, n₂, status⟩,
      decodeLogout_eq_ok.mpr ⟨hl, h₁, h₂, h₃, hx, h₄, h₅, hs⟩, ?_⟩
    simp only [transactionTimes, List.forall_mem_cons, List.not_mem_nil, false_imp_iff,
      implies_true, and_true]
    exact ⟨fun n hn => h₄.unique hn ▸ b₁, fun n hn => h₅.unique hn ▸ b₂⟩
  · rintro ⟨r, hr, hb⟩
    obtain ⟨hl, h₁, h₂, h₃, hx, h₄, h₅, hs⟩ := decodeLogout_eq_ok.mp hr
    exact ⟨⟨hl, ⟨_, h₁⟩, ⟨_, h₂⟩, ⟨_, h₃, hx⟩, ⟨_, h₄, hb _ (by decide) _ h₄⟩,
      ⟨_, h₅, hb _ (by decide) _ h₅⟩, ⟨_, hs⟩⟩, ⟨_, hs⟩⟩

end Records

/-! ## Replies -/

section Replies

variable {s : State} {h : Hash} {fields : Fields}

/-- The clock of the store is below the stored `expires_at`. -/
def Live (s : State) (fields : Fields) : Prop :=
  ∀ n, fields.U64 "expires_at" n → s.time < n.toNat

/-- The script replies `{3}`. -/
def RepliesInvalid (out : Except Error (List Value) × State) : Prop := out.1 = .ok invalid

theorem repliesInvalid_iff {out : Except Error (List Value) × State} {p : List Value × State}
    (h : out = returns p) : RepliesInvalid out ↔ p.1 = invalid := by
  rw [RepliesInvalid, h, returns, Except.ok.injEq]

theorem Live.not_expired (hl : Live s fields) (hf : Fields.ofHash? h = some fields)
    (hu : uint (hget h "expires_at") = true) : ¬num (hget h "expires_at") ≤ now s := by
  obtain ⟨n, hn, hb⟩ := (uint_field hf).mp hu
  have ht := hl n hn
  rw [num_U64 hf hn hb, now_eq (by omega)]
  omega

theorem claim_invalid {lookup : String} (ho : s.object (Key.external lookup) = some (.hash h))
    (hf : Fields.ofHash? h = some fields) (hl : Live s fields) :
    RepliesInvalid ((Sent.claim lookup).command.script ScriptName.source s) ↔
      Malformed (decodeExternal fields) fields transactionTimes := by
  have ho : s.object (args [Key.external lookup] 1) = some (.hash h) := ho
  refine (repliesInvalid_iff (callbackClaim_run (args [Key.external lookup]) (args []) s)).trans ?_
  rw [← not_iff_not, ← externalValid_iff hf]
  simp only [callbackClaimSpec, ho]
  cases hv : externalValid h with
  | false => simp
  | true =>
    have hu : uint (hget h "expires_at") = true := by
      simp only [externalValid, decide_eq_true_eq] at hv
      tauto
    have hlive := hl.not_expired hf hu
    simp only [Bool.true_eq_false, if_false, hlive, true_and]
    by_cases hp : hget h "status" = some (utf8 "processing")
    · simp [hp, invalid]
    · by_cases hw : hget h "status" = some (utf8 "waiting")
      · simp [hw, invalid]
      · simp [hp, hw]

theorem logout_invalid {lookup session csrfLookup : String}
    (ho : s.object (Key.logout lookup) = some (.hash h)) (hf : Fields.ofHash? h = some fields)
    (hl : Live s fields) :
    RepliesInvalid ((Sent.logout lookup session csrfLookup).command.script ScriptName.source s) ↔
      Malformed (decodeLogout fields) fields transactionTimes := by
  have ho : s.object (args [Key.logout lookup, Key.session session] 1) = some (.hash h) := ho
  refine (repliesInvalid_iff (completeCommonLogout_run (args [Key.logout lookup,
    Key.session session]) (args ([csrfLookup].map utf8)) s)).trans ?_
  rw [← not_iff_not, ← logoutValid_iff hf]
  simp only [completeCommonLogoutSpec, ho]
  cases hv : logoutValid h with
  | false => simp
  | true =>
    have hu : uint (hget h "expires_at") = true := by
      simp only [logoutValid, decide_eq_true_eq] at hv
      tauto
    have hlive := hl.not_expired hf hu
    simp only [Bool.true_eq_false, if_false, hlive, true_and]
    by_cases hp : hget h "status" = some (utf8 "used")
    · simp [hp, invalid]
    · by_cases hw : hget h "status" = some (utf8 "unused")
      · simp only [hw, ne_eq, not_true_eq_false, if_false]
        split_ifs <;> simp [invalid]
      · simp [hp, hw]

/-- **A handoff that fits a session**. -/
structure AuthenticationHandoff.Fits (record : AuthenticationHandoff) (session : String)
    (state : CommonSession) : Prop where
  isLookup : isLookup session = true
  lookup : record.commonSessionLookup = session
  user : record.internalUserId = state.internalUserId
  authenticated : record.authenticatedAt = state.authenticatedAt
  issued : record.issuedAt.toNat ≤ 2 ^ 53 - 1
  expires : record.expiresAt.toNat ≤ 2 ^ 53 - 1
  status : record.status = .unused

theorem uint_u64' (n : UInt64) :
    uint (some (utf8 (toString n))) = true ↔ n.toNat ≤ 2 ^ 53 - 1 := by
  rw [uint_u64]
  omega

/-- The numbers of a session that is not malformed. -/
theorem session_numbers (hf : Fields.ofHash? h = some fields) {state : CommonSession}
    (hd : decodeSession fields = .ok state)
    (hb : ∀ f ∈ sessionTimes, ∀ n, fields.U64 f n → n.toNat ≤ 2 ^ 53 - 1) :
    num (hget h "internal_user_id") = state.internalUserId.toInt ∧
      num (hget h "authenticated_at") = state.authenticatedAt.toNat ∧
      state.authenticatedAt.toNat ≤ 2 ^ 53 - 1 := by
  obtain ⟨-, hu, ha, -, -⟩ := decodeSession_eq_ok.mp hd
  have hab := hb _ (by decide) _ ha
  exact ⟨num_I32 hf hu, num_U64 hf ha hab, hab⟩

theorem tonumber_u64_eq {n m : UInt64} (hn : n.toNat ≤ 2 ^ 53 - 1) :
    tonumber (utf8 (toString n)) = some (m.toNat : ℤ) ↔ n = m := by
  rw [tonumber_u64 (by omega), Option.some.injEq, Int.ofNat_inj, UInt64.toNat_inj]

theorem tonumber_i32_eq {n m : Int32} :
    tonumber (utf8 (toString n)) = some m.toInt ↔ n = m := by
  rw [tonumber_i32, Option.some.injEq, Int32.toInt_inj]

theorem status_eq_unused {status : UsageStatus} :
    usageStatusValue status = "unused" ↔ status = .unused :=
  usageStatusValue_inj (b := .unused)

/-- The checks of the arguments of an issue. -/
theorem fits_iff {session : String} {record : AuthenticationHandoff} {state : CommonSession}
    (hb : state.authenticatedAt.toNat ≤ 2 ^ 53 - 1) : record.Fits session state ↔
      ¬(¬lookup (utf8 session) ∨ Key.session session ≠ utf8 "auth:session:" ++ utf8 session) ∧
      ¬(utf8 (usageStatusValue record.status) ≠ utf8 "unused" ∨
        ¬int (utf8 (toString record.internalUserId)) ∨
        ¬lookup (utf8 record.commonSessionLookup) ∨
        ¬uint (utf8 (toString record.authenticatedAt)) ∨
        ¬uint (utf8 (toString record.issuedAt)) ∨ ¬uint (utf8 (toString record.expiresAt))) ∧
      ¬(utf8 record.commonSessionLookup ≠ utf8 session ∨
        tonumber (utf8 (toString record.internalUserId)) ≠ some state.internalUserId.toInt ∨
        tonumber (utf8 (toString record.authenticatedAt)) ≠ some (state.authenticatedAt.toNat : ℤ))
      := by
  have hk : Key.session session = utf8 "auth:session:" ++ utf8 session := utf8_append ..
  simp only [hk, ne_eq, not_or, not_not, not_true_eq_false, not_false_eq_true, or_false, true_and,
    lookup_utf8, status_eq_unused, int_i32, uint_u64', utf8_inj, tonumber_i32_eq]
  constructor
  · rintro ⟨hx, hl, hu, ha, hi, he, hs⟩
    have hab : record.authenticatedAt.toNat ≤ 2 ^ 53 - 1 := by rw [ha]; exact hb
    exact ⟨hx, ⟨hs, by rw [hl]; exact hx, hab, hi, he⟩, hl, hu, (tonumber_u64_eq hab).mpr ha⟩
  · rintro ⟨hx, ⟨hs, -, hab, hi, he⟩, hl, hu, ha⟩
    exact ⟨hx, hl, hu, (tonumber_u64_eq hab).mp ha, hi, he, hs⟩

theorem issue_invalid {session handoff : String} {record : AuthenticationHandoff}
    (ho : s.object (Key.session session) = some (.hash h)) (hf : Fields.ofHash? h = some fields)
    (hl : Live s fields) :
    RepliesInvalid ((Sent.issue session handoff record).command.script ScriptName.source s) ↔
      Malformed (decodeSession fields) fields sessionTimes ∨
        s.entries (Key.handoff handoff) = none ∧
          ∃ state, decodeSession fields = .ok state ∧ ¬record.Fits session state := by
  refine (repliesInvalid_iff (issueSsoHandoff_run (args _) (args _) s
    (n := record.expiresAt.toNat) rfl)).trans ?_
  have ho : s.object (args [Key.session session, Key.handoff handoff] 1) = some (.hash h) := ho
  simp only [issueSsoHandoffSpec, ho]
  have hiff := sessionValid_iff hf
  cases hv : sessionValid h with
  | false =>
    rw [hv, iff_not_comm] at hiff
    simp [hiff]
  | true =>
    have hm := hiff.mp hv
    obtain ⟨state, hd, hb⟩ := (not_malformed decodeSession_failsWith).mp hm
    obtain ⟨hu, ha, hab⟩ := session_numbers hf hd hb
    have hx : uint (hget h "expires_at") = true := by
      simp only [sessionValid, decide_eq_true_eq] at hv
      tauto
    have hlive := hl.not_expired hf hx
    have he : ∀ P : CommonSession → Prop,
        (∃ state, decodeSession fields = .ok state ∧ P state) ↔ P state := by
      intro P
      simp [hd]
    simp only [Bool.true_eq_false, if_false, hlive, hm, false_or, he, hu, ha]
    have hfit := @fits_iff session record _ hab
    by_cases hp : s.entries (Key.handoff handoff) = none
    · have hp' : ¬s.entries (args [Key.session session, Key.handoff handoff] 2) ≠ none :=
        not_not.mpr hp
      rw [if_neg hp']
      split_ifs with c₁ c₂ c₃
      · exact iff_of_true rfl ⟨hp, fun hr => (hfit.mp hr).1 c₁⟩
      · exact iff_of_true rfl ⟨hp, fun hr => (hfit.mp hr).2.1 c₂⟩
      · exact iff_of_true rfl ⟨hp, fun hr => (hfit.mp hr).2.2 c₃⟩
      · exact iff_of_false (by simp [invalid]) fun hn => hn.2 (hfit.mpr ⟨c₁, c₂, c₃⟩)
      · exact iff_of_false (by simp [invalid]) fun hn => hn.2 (hfit.mpr ⟨c₁, c₂, c₃⟩)
    · have hp' : s.entries (args [Key.session session, Key.handoff handoff] 2) ≠ none := hp
      rw [if_pos hp']
      simp [hp, invalid]

/-- The numbers of a handoff that is not malformed. -/
theorem handoff_numbers (hf : Fields.ofHash? h = some fields) {record : AuthenticationHandoff}
    (hd : decodeHandoff fields = .ok record)
    (hb : ∀ f ∈ handoffTimes, ∀ n, fields.U64 f n → n.toNat ≤ 2 ^ 53 - 1) :
    num (hget h "internal_user_id") = record.internalUserId.toInt ∧
      num (hget h "authenticated_at") = record.authenticatedAt.toNat := by
  obtain ⟨-, -, hu, -, -, -, ha, -⟩ := decodeHandoff_eq_ok.mp hd
  exact ⟨num_I32 hf hu, num_U64 hf ha (hb _ (by decide) _ ha)⟩

/-- The strings of a handoff that is not malformed. -/
theorem handoff_strings (hf : Fields.ofHash? h = some fields) {record : AuthenticationHandoff}
    (hd : decodeHandoff fields = .ok record) :
    hget h "service_id" = some (utf8 record.serviceId) ∧
      hget h "code_challenge" = some (utf8 record.codeChallenge) ∧
      hget h "common_session_lookup" = some (utf8 record.commonSessionLookup) ∧
      hget h "status" = some (utf8 (usageStatusValue record.status)) ∧
      isLookup record.commonSessionLookup = true := by
  obtain ⟨-, hs, -, hl, hx, hc, -, -, -, hst⟩ := decodeHandoff_eq_ok.mp hd
  exact ⟨(hget_eq_some hf).mpr hs, (hget_eq_some hf).mpr hc, (hget_eq_some hf).mpr hl,
    (hget_eq_some hf).mpr hst, hx⟩

/-- What an exchange makes of the session of a handoff that it accepts. -/
def exchangeSession (s : State) (session : String) (record : AuthenticationHandoff) : List Value :=
  match s.object (Key.session session) with
  | none => [.int 1]
  | some (.other _) => invalid
  | some (.hash g) =>
    if sessionValid g = false then invalid
    else if num (hget g "expires_at") ≤ now s then [.int 2]
    else if record.internalUserId.toInt ≠ num (hget g "internal_user_id") ∨
      (record.authenticatedAt.toNat : ℤ) ≠ num (hget g "authenticated_at") then invalid
    else [.int 0, .int record.internalUserId.toInt, .int record.authenticatedAt.toNat]

/-- The exchange presents the service and the challenge of an unused handoff. -/
structure AuthenticationHandoff.Presented (record : AuthenticationHandoff)
    (serviceId challenge : String) : Prop where
  status : record.status = .unused
  service : record.serviceId = serviceId
  challenge : record.codeChallenge = challenge

/-- An exchange refuses its handoff, or comes to its session. -/
theorem exchange_invalid {handoff serviceId challenge session : String}
    (ho : s.object (Key.handoff handoff) = some (.hash h)) (hf : Fields.ofHash? h = some fields)
    (hl : Live s fields) : RepliesInvalid
      ((Sent.exchange handoff serviceId challenge session).command.script ScriptName.source s) ↔
      Malformed (decodeHandoff fields) fields handoffTimes ∨
        ∃ record, decodeHandoff fields = .ok record ∧ record.Presented serviceId challenge ∧
          (record.commonSessionLookup ≠ session ∨ exchangeSession s session record = invalid) := by
  refine (repliesInvalid_iff (exchangeHandoff_run (args [Key.handoff handoff, Key.session session])
    (args ([serviceId, challenge, session].map utf8)) s)).trans ?_
  have ho : s.object (args [Key.handoff handoff, Key.session session] 1) = some (.hash h) := ho
  simp only [exchangeHandoffSpec, ho]
  have hiff := handoffValid_iff hf
  by_cases hm : Malformed (decodeHandoff fields) fields handoffTimes
  · have hn : ¬(handoffValid h = true ∧ _) := fun hx => hiff.mp hx hm
    refine iff_of_true ?_ (.inl hm)
    cases hv : handoffValid h with
    | false => simp
    | true =>
      have hlive := hl.not_expired hf (h := h) (by
        simp only [handoffValid, decide_eq_true_eq] at hv
        tauto)
      have hused : ¬hget h "status" = some (utf8 "used") := fun h => hn ⟨hv, .inl h⟩
      have hunused : hget h "status" ≠ some (utf8 "unused") := fun h => hn ⟨hv, .inr h⟩
      simp only [Bool.true_eq_false, if_false, hlive, if_neg hused, if_pos hunused]
  · obtain ⟨hv, hst⟩ := hiff.mpr hm
    obtain ⟨record, hd, hb⟩ := (not_malformed decodeHandoff_failsWith).mp hm
    obtain ⟨hu, ha⟩ := handoff_numbers hf hd hb
    obtain ⟨hs, hc, hlk, hstatus, hx⟩ := handoff_strings hf hd
    have hlive := hl.not_expired hf (h := h) (by
      simp only [handoffValid, decide_eq_true_eq] at hv
      tauto)
    have he : ∀ P : AuthenticationHandoff → Prop,
        (∃ record, decodeHandoff fields = .ok record ∧ P record) ↔ P record := by
      intro P
      simp [hd]
    have hk : Key.session session = utf8 "auth:session:" ++ utf8 session := utf8_append ..
    have h₁ : args ([serviceId, challenge, session].map utf8) 1 = utf8 serviceId := rfl
    have h₂ : args ([serviceId, challenge, session].map utf8) 2 = utf8 challenge := rfl
    have h₃ : args ([serviceId, challenge, session].map utf8) 3 = utf8 session := rfl
    have h₄ : args [Key.handoff handoff, Key.session session] 2 = Key.session session := rfl
    simp only [hv, Bool.true_eq_false, if_false, hlive, hm, false_or, he, hu, ha, hs, hc, hlk,
      hstatus, h₁, h₂, h₃, h₄, Option.some.injEq, utf8_inj, ne_eq, lookup_utf8, status_eq_unused]
    by_cases c₁ : record.status = .unused
    · have c₁' : ¬usageStatusValue record.status = "used" := by
        rw [c₁]
        decide
      rw [if_neg c₁', if_neg (not_not.mpr c₁)]
      by_cases c₂ : record.serviceId = serviceId
      · rw [if_neg (not_not.mpr c₂)]
        by_cases c₃ : record.codeChallenge = challenge
        · rw [if_neg (not_not.mpr c₃)]
          have hp : record.Presented serviceId challenge := ⟨c₁, c₂, c₃⟩
          by_cases c₄ : record.commonSessionLookup = session
          · have c₅ : ¬(¬isLookup session = true ∨ ¬record.commonSessionLookup = session ∨
                ¬Key.session session = utf8 "auth:session:" ++ utf8 session) := by
              simp [← c₄ ▸ hx, c₄, hk]
            rw [if_neg c₅]
            simp only [hp, c₄, not_true_eq_false, true_and, false_or, exchangeSession]
            cases s.object (Key.session session) with
            | none => exact Iff.rfl
            | some o =>
              cases o with
              | other kind => exact Iff.rfl
              | hash g =>
                dsimp only
                split_ifs <;> exact Iff.rfl
          · rw [if_pos (.inr (.inl c₄))]
            exact iff_of_true rfl ⟨hp, .inl c₄⟩
        · rw [if_pos c₃]
          exact iff_of_false (by simp [invalid]) fun hp => c₃ hp.1.challenge
      · rw [if_pos c₂]
        exact iff_of_false (by simp [invalid]) fun hp => c₂ hp.1.service
    · have c₁' : usageStatusValue record.status = "used" := by
        cases hr : record.status with
        | unused => exact absurd hr c₁
        | used => rfl
      rw [if_pos c₁']
      exact iff_of_false (by simp [invalid]) fun hp => c₁ hp.1.status

/-- The exchange refuses a session that is malformed, or not the one the handoff was made from. -/
theorem exchangeSession_invalid {session : String} {record : AuthenticationHandoff}
    (ho : s.object (Key.session session) = some (.hash h)) (hf : Fields.ofHash? h = some fields)
    (hl : Live s fields) : exchangeSession s session record = invalid ↔
      Malformed (decodeSession fields) fields sessionTimes ∨
        ∃ state, decodeSession fields = .ok state ∧
          ¬(record.internalUserId = state.internalUserId ∧
            record.authenticatedAt = state.authenticatedAt) := by
  simp only [exchangeSession, ho]
  have hiff := sessionValid_iff hf
  cases hv : sessionValid h with
  | false =>
    rw [hv, iff_not_comm] at hiff
    simp [hiff]
  | true =>
    have hm := hiff.mp hv
    obtain ⟨state, hd, hb⟩ := (not_malformed decodeSession_failsWith).mp hm
    obtain ⟨hu, ha, -⟩ := session_numbers hf hd hb
    have hlive := hl.not_expired hf (h := h) (by
      simp only [sessionValid, decide_eq_true_eq] at hv
      tauto)
    have he : ∀ P : CommonSession → Prop,
        (∃ state, decodeSession fields = .ok state ∧ P state) ↔ P state := by
      intro P
      simp [hd]
    simp only [Bool.true_eq_false, if_false, hlive, hm, false_or, he, hu, ha, ne_eq,
      Int32.toInt_inj, Int.ofNat_inj, UInt64.toNat_inj, not_and_or]
    split_ifs with hne
    · exact iff_of_true rfl hne
    · exact iff_of_false (by simp [invalid]) hne

/-- **The scripts and the service agree**: on numbers and lookups, for every string, and on
records, for every stored hash of strings that has not expired. A script that gets as far as to
check a record replies `{3}` for malformed records, and otherwise only for what it is asked to do
with them. -/
theorem record_checks_agree (v : String) (hf : Fields.ofHash? h = some fields)
    (hl : Live s fields) :
    ((uint (some (utf8 v)) = true ↔ ∃ n, parseUInt64 (utf8 v) = some n ∧ n.toNat ≤ 2 ^ 53 - 1) ∧
      (∀ n, parseUInt64 (utf8 v) = some n → n.toNat ≤ 2 ^ 53 - 1 →
        tonumber (utf8 v) = some (n.toNat : ℤ)) ∧
      (int (some (utf8 v)) = true ↔ ∃ n, parseInt32 (utf8 v) = some n) ∧
      (∀ n, parseInt32 (utf8 v) = some n → tonumber (utf8 v) = some n.toInt) ∧
      (lookup (some (utf8 v)) = true ↔ isLookup v = true)) ∧
    (∀ lookup, s.object (Key.external lookup) = some (.hash h) →
      (RepliesInvalid ((Sent.claim lookup).command.script ScriptName.source s) ↔
        Malformed (decodeExternal fields) fields transactionTimes)) ∧
    (∀ lookup session csrfLookup, s.object (Key.logout lookup) = some (.hash h) →
      (RepliesInvalid
          ((Sent.logout lookup session csrfLookup).command.script ScriptName.source s) ↔
        Malformed (decodeLogout fields) fields transactionTimes)) ∧
    (∀ session handoff record, s.object (Key.session session) = some (.hash h) →
      (RepliesInvalid ((Sent.issue session handoff record).command.script ScriptName.source s) ↔
        Malformed (decodeSession fields) fields sessionTimes ∨
          s.entries (Key.handoff handoff) = none ∧
            ∃ state, decodeSession fields = .ok state ∧ ¬record.Fits session state)) ∧
    (∀ handoff serviceId challenge session, s.object (Key.handoff handoff) = some (.hash h) →
      s.object (Key.session session) = none →
      (RepliesInvalid ((Sent.exchange handoff serviceId challenge session).command.script
          ScriptName.source s) ↔
        Malformed (decodeHandoff fields) fields handoffTimes ∨
          ∃ record, decodeHandoff fields = .ok record ∧ record.Presented serviceId challenge ∧
            record.commonSessionLookup ≠ session)) ∧
    (∀ handoff serviceId challenge session g sessionFields,
      s.object (Key.handoff handoff) = some (.hash h) →
      s.object (Key.session session) = some (.hash g) →
      Fields.ofHash? g = some sessionFields → Live s sessionFields →
      (RepliesInvalid ((Sent.exchange handoff serviceId challenge session).command.script
          ScriptName.source s) ↔
        Malformed (decodeHandoff fields) fields handoffTimes ∨
          ∃ record, decodeHandoff fields = .ok record ∧ record.Presented serviceId challenge ∧
            (record.commonSessionLookup ≠ session ∨
              Malformed (decodeSession sessionFields) sessionFields sessionTimes ∨
              ∃ state, decodeSession sessionFields = .ok state ∧
                ¬(record.internalUserId = state.internalUserId ∧
                  record.authenticatedAt = state.authenticatedAt)))) := by
  refine ⟨⟨uint_iff, fun n => tonumber_of_parseUInt64, int_iff, fun n => tonumber_of_parseInt32,
    by rw [lookup_utf8]⟩, fun lookup ho => claim_invalid ho hf hl,
    fun lookup session csrfLookup ho => logout_invalid ho hf hl,
    fun session handoff record ho => issue_invalid ho hf hl, ?_, ?_⟩
  · intro handoff serviceId challenge session ho hs
    have hne : ∀ record, ¬exchangeSession s session record = invalid := by
      intro record
      rw [exchangeSession, hs]
      simp [invalid]
    rw [exchange_invalid ho hf hl]
    simp only [hne, or_false]
  · intro handoff serviceId challenge session g sessionFields ho hg hgf hgl
    rw [exchange_invalid ho hf hl]
    simp only [exchangeSession_invalid hg hgf hgl]

/-- A transaction that expires after more seconds than the scripts accept. -/
def ExternalAuthTransaction.sample : ExternalAuthTransaction :=
  ⟨"portal", "state", "challenge", "google", "", 7, 2 ^ 53, .waiting⟩

/-- A store that holds it. -/
def sampleStore : State :=
  State.empty.set (Key.external "l") ⟨.hash (recordHash (encodeExternal .sample)), none⟩

theorem record_checks_agree_sample : uint (some (utf8 "+007")) = true ∧
    RepliesInvalid ((Sent.claim "l").command.script ScriptName.source sampleStore) := by
  obtain ⟨fields, hf, -, hget⟩ := ofHash?_recordHash (encodeExternal_nodup .sample)
  have he : fields.U64 "expires_at" (2 ^ 53) := ⟨_, hget "expires_at", parseUInt64_toString _⟩
  have hl : Live sampleStore fields := by
    intro n hn
    rw [hn.unique he]
    decide
  have h := record_checks_agree "+007" hf hl
  refine ⟨h.1.1.mpr ⟨7, by decide, by decide⟩, (h.2.1 "l" ?_).mpr (.inr ⟨_, ?_, _, he, by decide⟩)⟩
  · rw [State.object, sampleStore, set_entries_self, Option.map_some]
  · exact List.mem_cons_of_mem _ (List.mem_singleton_self _)

end Replies

end AuthFoundation
