import AuthFoundation.Record
import AuthFoundation.Scripts

set_option autoImplicit false

/-!
# What the scripts do

Each script equals a function of the store that makes its checks and its writes explicit.

* `num`: the number in a checked field; `uint_u64`, `int_i32`: what printed numbers pass.
* `externalValid`, `sessionValid`, `handoffValid`, `logoutValid`: the checks of stored hashes.
* `callbackClaim_run`, …, `completeCommonLogout_run`: the scripts as functions.
-/

namespace AuthFoundation

open Text Redis Lua

/-! ## Checked numbers -/

/-- The number in a field. -/
def num (value : Option Bytes) : ℤ := (value.bind tonumber).getD 0

theorem tonumber_of_uint {value : Option Bytes} (h : uint value = true) :
    value.bind tonumber = some (num value) := by
  cases value with
  | none => cases h
  | some v =>
    simp only [uint, Bool.and_eq_true] at h
    obtain ⟨z, hz⟩ := tonumber_of_signed (signed_of_unsigned h.1)
    simp [num, hz]

theorem num_nonneg {value : Option Bytes} (h : uint value = true) : 0 ≤ num value := by
  cases value with
  | none => cases h
  | some v =>
    simp only [uint, Bool.and_eq_true] at h
    obtain ⟨-, h⟩ := h
    split at h
    · cases h
    · rename_i z hz
      simp only [Bool.and_eq_true, decide_eq_true_eq] at h
      simpa [num, hz] using h.1

theorem tonumber_of_int {value : Option Bytes} (h : int value = true) :
    value.bind tonumber = some (num value) := by
  cases value with
  | none => cases h
  | some v =>
    simp only [int, Bool.and_eq_true] at h
    obtain ⟨z, hz⟩ := tonumber_of_signed h.1
    simp [num, hz]

/-- `uint` accepts a printed number exactly up to `2 ^ 53 - 1`. -/
theorem uint_digits (n : ℕ) : uint (some (digits n)) = true ↔ n < 2 ^ 53 := by
  rw [← double_lt_iff]
  simp only [uint, unsigned_digits, tonumber_digits, Bool.true_and, Bool.and_eq_true,
    decide_eq_true_eq]
  omega

theorem num_digits {n : ℕ} (h : n < 2 ^ 53) : num (some (digits n)) = n := by
  simp [num, double_of_lt h]

theorem uint_u64 (n : UInt64) : uint (some (utf8 (toString n))) = true ↔ n.toNat < 2 ^ 53 :=
  uint_digits n.toNat

theorem num_u64 {n : UInt64} (h : n.toNat < 2 ^ 53) : num (some (utf8 (toString n))) = n.toNat :=
  num_digits h

theorem tonumber_i32 (n : Int32) : tonumber (utf8 (toString n)) = some n.toInt := by
  have h₁ := n.toInt_lt
  have h₂ := n.le_toInt
  obtain ⟨m, hm, e⟩ | ⟨m, hm, e⟩ := utf8_toString_i32 n
  · rw [e, tonumber_digits, double_of_lt (by omega), hm]
  · rw [e, tonumber, numeral_digits, decimal_digits, double_of_lt (by omega), hm, if_pos rfl]

theorem int_i32 (n : Int32) : int (some (utf8 (toString n))) = true := by
  have h₁ := n.toInt_lt
  have h₂ := n.le_toInt
  have hs : signed (utf8 (toString n)) = true := by
    obtain ⟨m, hm, e⟩ | ⟨m, hm, e⟩ := utf8_toString_i32 n
    · rw [e, signed_digits]
    · rw [e, signed, numeral_digits]
  simp only [int, hs, tonumber_i32, Bool.true_and, Bool.and_eq_true, decide_eq_true_eq]
  omega

theorem num_i32 (n : Int32) : num (some (utf8 (toString n))) = n.toInt := by
  simp [num, tonumber_i32]

/-- `number` of a checked field. -/
theorem number_num {value : Option Bytes} (h : value.bind tonumber = some (num value)) :
    number (value.bind tonumber) = pure (num value) := by
  rw [h, number_some]

/-- What `TIME` says. -/
def now (s : State) : ℤ := double s.time

theorem TIME_now {β : Type} (s : State) (g : ℤ → Script β) :
    (TIME >>= fun t => number (tonumber t) >>= g) s = g (now s) s := by
  rw [TIME_run, tonumber_digits]
  rfl

theorem now_eq {s : State} (h : s.time < 2 ^ 53) : now s = s.time := by
  rw [now, double_of_lt h]

/-- A second that has come has come for the scripts. -/
theorem le_now {s : State} {n : ℕ} (hn : n < 2 ^ 53) (h : n ≤ s.time) : (n : ℤ) ≤ now s := by
  by_cases ht : s.time < 2 ^ 53
  · rw [now_eq ht]
    exact_mod_cast h
  · have := le_double (not_lt.mp ht)
    rw [now]
    omega

/-! ## Checked hashes -/

def externalValid (h : Hash) : Bool :=
  hlen h = 8 ∧ ¬(hget h "service_id" = none ∨ hget h "service_state" = none ∨
    hget h "handoff_code_challenge" = none ∨ hget h "provider" = none ∨
    hget h "provider_verification_data" = none ∨ ¬uint (hget h "created_at") ∨
    ¬uint (hget h "expires_at") ∨ hget h "status" = none)

def sessionValid (h : Hash) : Bool :=
  hlen h = 4 ∧ ¬(¬int (hget h "internal_user_id") ∨ ¬uint (hget h "authenticated_at") ∨
    ¬uint (hget h "created_at") ∨ ¬uint (hget h "expires_at"))

def handoffValid (h : Hash) : Bool :=
  hlen h = 8 ∧ ¬(hget h "service_id" = none ∨ ¬int (hget h "internal_user_id") ∨
    ¬lookup (hget h "common_session_lookup") ∨ hget h "code_challenge" = none ∨
    ¬uint (hget h "authenticated_at") ∨ ¬uint (hget h "issued_at") ∨
    ¬uint (hget h "expires_at") ∨ hget h "status" = none)

def logoutValid (h : Hash) : Bool :=
  hlen h = 6 ∧ ¬(hget h "service_id" = none ∨ hget h "logout_return_uri" = none ∨
    ¬lookup (hget h "csrf_lookup") ∨ ¬uint (hget h "created_at") ∨
    ¬uint (hget h "expires_at") ∨ hget h "status" = none)

/-- The scripts check the number of fields first and the fields together. -/
theorem ite_checked {β : Type} {m n : ℕ} {C : Prop} [Decidable C] {b : Bool}
    (hb : b = decide (m = n ∧ ¬C)) (i K : β) :
    (if ¬m = n then i else if C then i else K) = if b = false then i else K := by
  subst hb
  by_cases hm : m = n
  · by_cases hC : C
    · simp [hm, hC]
    · simp [hm, hC]
  · simp [hm]

/-! ## The scripts as functions -/

section Runs

variable (KEYS ARGV : ℕ → Bytes) (s : State)

/-- A hash with one field replaced. -/
def setField (s : State) (k f v : Bytes) (h : Hash) : State :=
  s.set k ⟨.hash (h.insert f v), (s.entries k).bind Entry.expireAt⟩

def callbackClaimSpec (KEYS : ℕ → Bytes) (s : State) : List Value × State :=
  match s.object (KEYS 1) with
  | none => ([.int 1], s)
  | some (.other _) => (invalid, s)
  | some (.hash h) =>
    if externalValid h = false then (invalid, s)
    else if num (hget h "expires_at") ≤ now s then ([.int 2], s.del (KEYS 1))
    else if hget h "status" = some (utf8 "processing") then ([.int 4], s)
    else if hget h "status" ≠ some (utf8 "waiting") then (invalid, s)
    else ([.int 0, .ofField (hget h "service_id"), .ofField (hget h "service_state"),
      .ofField (hget h "handoff_code_challenge"), .ofField (hget h "provider"),
      .ofField (hget h "provider_verification_data"), .ofField (hget h "created_at"),
      .ofField (hget h "expires_at"), .bulk "processing"],
      setField s (KEYS 1) "status" "processing" h)

theorem callbackClaim_run : callbackClaimScript KEYS ARGV s =
    returns (callbackClaimSpec KEYS s) := by
  unfold callbackClaimScript callbackClaimSpec
  rw [EXISTS_run, State.object]
  match he : s.entries (KEYS 1) with
  | none => rfl
  | some ⟨.other kind, x⟩ =>
    simp only [Option.isSome_some, if_true, one_ne_zero, if_false, TYPE_run_other he, ite_run]
    cases kind <;> rfl
  | some ⟨.hash h, x⟩ =>
    simp only [Option.isSome_some, if_true, one_ne_zero, if_false, TYPE_run_hash he, ite_run,
      ne_eq, not_true_eq_false, HLEN_run he, HGET_run he, Option.map_some, TIME_now]
    rw [ite_checked (b := externalValid h) rfl]
    cases hv : externalValid h with
    | false => rfl
    | true =>
      simp only [externalValid, decide_eq_true_eq] at hv
      have hx : uint (hget h "expires_at") = true := by tauto
      simp only [Bool.true_eq_false, if_false, number_num (tonumber_of_uint hx),
        Script.pure_bind, ite_run]
      refine run_ite (fun _ => rfl) fun _ => ?_
      refine run_ite (fun _ => rfl) fun _ => ?_
      refine run_ite (fun _ => rfl) fun _ => ?_
      rw [HSET_run he, setField, he]
      rfl

def issueSsoHandoffSpec (KEYS ARGV : ℕ → Bytes) (s : State) : List Value × State :=
  match s.object (KEYS 1) with
  | none => ([.int 1], s)
  | some (.other _) => (invalid, s)
  | some (.hash h) =>
    if sessionValid h = false then (invalid, s)
    else if num (hget h "expires_at") ≤ now s then ([.int 2], s.del (KEYS 1))
    else if s.entries (KEYS 2) ≠ none then ([.int 9], s)
    else if ¬lookup (ARGV 1) ∨ KEYS 1 ≠ utf8 "auth:session:" ++ ARGV 1 then (invalid, s)
    else if ARGV 9 ≠ utf8 "unused" ∨ ¬int (ARGV 3) ∨ ¬lookup (ARGV 4) ∨ ¬uint (ARGV 6) ∨
      ¬uint (ARGV 7) ∨ ¬uint (ARGV 8) then (invalid, s)
    else if ARGV 4 ≠ ARGV 1 ∨ tonumber (ARGV 3) ≠ some (num (hget h "internal_user_id")) ∨
      tonumber (ARGV 6) ≠ some (num (hget h "authenticated_at")) then (invalid, s)
    else if num (ARGV 8) ≤ now s then ([.int 2], s)
    else ([.int 0], s.set (KEYS 2) ⟨.hash (hashOf [
      ("service_id", ARGV 2), ("internal_user_id", ARGV 3), ("common_session_lookup", ARGV 4),
      ("code_challenge", ARGV 5), ("authenticated_at", ARGV 6), ("issued_at", ARGV 7),
      ("expires_at", ARGV 8), ("status", ARGV 9)]), some (decimal (ARGV 8))⟩)

/-- Creating a record: its fields, then the expiry of its key. -/
theorem HSET_EXPIREAT_run {β : Type} {s : State} {k v : Bytes} {n : ℕ} (he : s.entries k = none)
    (hv : v = digits n) (hu : uint (some v) = true) (hn : ¬num (some v) ≤ now s)
    (p : Bytes × Bytes) (l : List (Bytes × Bytes)) (g : Script β) :
    (HSET k (p :: l) >>= fun _ => EXPIREAT k v >>= fun _ => g) s =
      g (s.set k ⟨.hash (hashOf (p :: l)), some (decimal v)⟩) := by
  subst hv
  have hb := (uint_digits n).mp hu
  have ht : s.time < n := by
    rw [num_digits hb] at hn
    by_contra h
    exact hn (le_now hb (not_lt.mp h))
  rw [HSET_run_new he, EXPIREAT_run (set_entries_self ..) ht (by omega), decimal_digits]
  simp [State.set]

theorem issueSsoHandoff_run {n : ℕ} (h8 : ARGV 8 = digits n) : issueSsoHandoffScript KEYS ARGV s =
    returns (issueSsoHandoffSpec KEYS ARGV s) := by
  unfold issueSsoHandoffScript issueSsoHandoffSpec
  rw [EXISTS_run, State.object]
  match he : s.entries (KEYS 1) with
  | none => rfl
  | some ⟨.other kind, x⟩ =>
    simp only [Option.isSome_some, if_true, one_ne_zero, if_false, TYPE_run_other he, ite_run]
    cases kind <;> rfl
  | some ⟨.hash h, x⟩ =>
    simp only [Option.isSome_some, if_true, one_ne_zero, if_false, TYPE_run_hash he, ite_run,
      ne_eq, not_true_eq_false, HLEN_run he, HGET_run he, Option.map_some, TIME_now]
    rw [ite_checked (b := sessionValid h) rfl]
    cases hv : sessionValid h with
    | false => rfl
    | true =>
      simp only [sessionValid, decide_eq_true_eq, not_or, not_not] at hv
      have hu := tonumber_of_int hv.2.1
      have ha := tonumber_of_uint hv.2.2.1
      simp only [Bool.true_eq_false, if_false, number_num (tonumber_of_uint hv.2.2.2.2),
        Script.pure_bind, ite_run, EXISTS_run, exists_eq_zero, hu, ha]
      refine run_ite (fun _ => rfl) fun _ => ?_
      refine run_ite (fun _ => rfl) fun h₂ => ?_
      refine run_ite (fun _ => rfl) fun _ => ?_
      refine run_ite (fun _ => rfl) fun hargs => ?_
      refine run_ite (fun _ => rfl) fun _ => ?_
      simp only [not_or, not_not] at h₂ hargs
      have he8 := tonumber_of_uint hargs.2.2.2.2.2
      rw [Option.bind_some] at he8
      simp only [he8, number_some, Script.pure_bind, ite_run]
      refine run_ite (fun _ => rfl) fun hn => ?_
      rw [HSET_EXPIREAT_run h₂ h8 hargs.2.2.2.2.2 hn]
      rfl

def createSessionAndHandoffSpec (KEYS ARGV : ℕ → Bytes) (s : State) : List Value × State :=
  if s.entries (KEYS 1) ≠ none ∨ s.entries (KEYS 2) ≠ none then ([.int 9], s)
  else if ¬int (ARGV 1) ∨ ¬uint (ARGV 2) ∨ ¬uint (ARGV 3) ∨ ¬uint (ARGV 4) ∨ ¬lookup (ARGV 5) ∨
    KEYS 1 ≠ utf8 "auth:session:" ++ ARGV 5 then (invalid, s)
  else if ARGV 13 ≠ utf8 "unused" ∨ ¬int (ARGV 7) ∨ ¬lookup (ARGV 8) ∨ ¬uint (ARGV 10) ∨
    ¬uint (ARGV 11) ∨ ¬uint (ARGV 12) then (invalid, s)
  else if ARGV 8 ≠ ARGV 5 ∨ tonumber (ARGV 7) ≠ tonumber (ARGV 1) ∨
    tonumber (ARGV 10) ≠ tonumber (ARGV 2) then (invalid, s)
  else if num (ARGV 4) ≤ now s ∨ num (ARGV 12) ≤ now s then ([.int 2], s)
  else ([.int 0], (s.set (KEYS 1) ⟨.hash (hashOf [
      ("internal_user_id", ARGV 1), ("authenticated_at", ARGV 2), ("created_at", ARGV 3),
      ("expires_at", ARGV 4)]), some (decimal (ARGV 4))⟩).set (KEYS 2) ⟨.hash (hashOf [
      ("service_id", ARGV 6), ("internal_user_id", ARGV 7), ("common_session_lookup", ARGV 8),
      ("code_challenge", ARGV 9), ("authenticated_at", ARGV 10), ("issued_at", ARGV 11),
      ("expires_at", ARGV 12), ("status", ARGV 13)]), some (decimal (ARGV 12))⟩)

theorem createSessionAndHandoff_run {m n : ℕ} (h4 : ARGV 4 = digits m) (h12 : ARGV 12 = digits n)
    (hk : KEYS 1 ≠ KEYS 2) : createSessionAndHandoffScript KEYS ARGV s =
    returns (createSessionAndHandoffSpec KEYS ARGV s) := by
  unfold createSessionAndHandoffScript createSessionAndHandoffSpec
  simp only [EXISTS_run, exists_eq_zero, ite_run, ne_eq, TIME_now]
  refine run_ite (fun _ => rfl) fun hnew => ?_
  refine run_ite (fun _ => rfl) fun hsession => ?_
  refine run_ite (fun _ => rfl) fun hhandoff => ?_
  refine run_ite (fun _ => rfl) fun _ => ?_
  simp only [not_or, not_not] at hnew hsession hhandoff
  have he4 := tonumber_of_uint hsession.2.2.2.1
  have he12 := tonumber_of_uint hhandoff.2.2.2.2.2
  rw [Option.bind_some] at he4 he12
  simp only [he4, he12, number_some, Script.pure_bind, ite_run]
  refine run_ite (fun _ => rfl) fun hn => ?_
  rw [not_or] at hn
  rw [HSET_EXPIREAT_run hnew.1 h4 hsession.2.2.2.1 hn.1, HSET_EXPIREAT_run (s := s.set _ _)
    _ h12 hhandoff.2.2.2.2.2 hn.2]
  · rfl
  · rw [set_entries_of_ne _ _ hk.symm, hnew.2]

def exchangeHandoffSpec (KEYS ARGV : ℕ → Bytes) (s : State) : List Value × State :=
  match s.object (KEYS 1) with
  | none => ([.int 1], s)
  | some (.other _) => (invalid, s)
  | some (.hash h) =>
    if handoffValid h = false then (invalid, s)
    else if num (hget h "expires_at") ≤ now s then ([.int 2], s.del (KEYS 1))
    else if hget h "status" = some (utf8 "used") then ([.int 5], s)
    else if hget h "status" ≠ some (utf8 "unused") then (invalid, s)
    else if hget h "service_id" ≠ some (ARGV 1) then ([.int 6], s)
    else if hget h "code_challenge" ≠ some (ARGV 2) then ([.int 7], s)
    else if ¬lookup (ARGV 3) ∨ hget h "common_session_lookup" ≠ some (ARGV 3) ∨
      KEYS 2 ≠ utf8 "auth:session:" ++ ARGV 3 then (invalid, s)
    else match s.object (KEYS 2) with
    | none => ([.int 1], s)
    | some (.other _) => (invalid, s)
    | some (.hash g) =>
      if sessionValid g = false then (invalid, s)
      else if num (hget g "expires_at") ≤ now s then ([.int 2], s.del (KEYS 2))
      else if num (hget h "internal_user_id") ≠ num (hget g "internal_user_id") ∨
        num (hget h "authenticated_at") ≠ num (hget g "authenticated_at") then (invalid, s)
      else ([.int 0, .int (num (hget h "internal_user_id")),
          .int (num (hget h "authenticated_at"))],
        setField s (KEYS 1) "status" "used" h)

theorem exchangeHandoff_run :
    exchangeHandoffScript KEYS ARGV s = returns (exchangeHandoffSpec KEYS ARGV s) := by
  unfold exchangeHandoffScript exchangeHandoffSpec
  rw [EXISTS_run, State.object]
  match he : s.entries (KEYS 1) with
  | none => rfl
  | some ⟨.other kind, x⟩ =>
    simp only [Option.isSome_some, if_true, one_ne_zero, if_false, TYPE_run_other he, ite_run]
    cases kind <;> rfl
  | some ⟨.hash h, x⟩ =>
    simp only [Option.isSome_some, if_true, one_ne_zero, if_false, TYPE_run_hash he, ite_run,
      ne_eq, not_true_eq_false, HLEN_run he, HGET_run he, Option.map_some, TIME_now]
    rw [ite_checked (b := handoffValid h) rfl]
    cases hv : handoffValid h with
    | false => rfl
    | true =>
      simp only [handoffValid, decide_eq_true_eq, not_or, not_not] at hv
      have hu := tonumber_of_int hv.2.2.1
      have ha := tonumber_of_uint hv.2.2.2.2.2.1
      have hx := tonumber_of_uint hv.2.2.2.2.2.2.2.1
      simp only [Bool.true_eq_false, if_false, hx, number_some, Script.pure_bind, ite_run]
      refine run_ite (fun _ => rfl) fun _ => ?_
      refine run_ite (fun _ => rfl) fun _ => ?_
      refine run_ite (fun _ => rfl) fun _ => ?_
      refine run_ite (fun _ => rfl) fun _ => ?_
      refine run_ite (fun _ => rfl) fun _ => ?_
      refine run_ite (fun _ => rfl) fun _ => ?_
      rw [EXISTS_run, State.object]
      match he' : s.entries (KEYS 2) with
      | none => rfl
      | some ⟨.other kind, y⟩ =>
        simp only [Option.isSome_some, if_true, one_ne_zero, if_false, TYPE_run_other he', ite_run]
        cases kind <;> rfl
      | some ⟨.hash g, y⟩ =>
        simp only [Option.isSome_some, if_true, one_ne_zero, if_false, TYPE_run_hash he', ite_run,
          not_true_eq_false, HLEN_run he', HGET_run he', Option.map_some]
        rw [ite_checked (b := sessionValid g) rfl]
        cases hw : sessionValid g with
        | false => rfl
        | true =>
          simp only [sessionValid, decide_eq_true_eq, not_or, not_not] at hw
          simp only [Bool.true_eq_false, if_false, hu, ha, tonumber_of_int hw.2.1,
            tonumber_of_uint hw.2.2.1, tonumber_of_uint hw.2.2.2.2, number_some,
            Script.pure_bind, ite_run, Option.some.injEq]
          refine run_ite (fun _ => rfl) fun _ => ?_
          refine run_ite (fun _ => rfl) fun _ => ?_
          rw [HSET_run he, setField, he]
          rfl

def completeCommonLogoutSpec (KEYS ARGV : ℕ → Bytes) (s : State) : List Value × State :=
  match s.object (KEYS 1) with
  | none => ([.int 1], s)
  | some (.other _) => (invalid, s)
  | some (.hash h) =>
    if logoutValid h = false then (invalid, s)
    else if num (hget h "expires_at") ≤ now s then ([.int 2], s.del (KEYS 1))
    else if hget h "status" = some (utf8 "used") then ([.int 5], s)
    else if hget h "status" ≠ some (utf8 "unused") then (invalid, s)
    else if ¬lookup (ARGV 1) then ([.int 8], s)
    else if hget h "csrf_lookup" ≠ some (ARGV 1) then ([.int 8], s)
    else ([.int 0, .ofField (hget h "logout_return_uri")],
      (setField s (KEYS 1) "status" "used" h).del (KEYS 2))

/-- The comparison finds every difference. -/
theorem foldl_or_eq_zero (f : ℕ → ℕ) (l : List ℕ) (d : ℕ) :
    l.foldl (fun diff i => diff ||| f i) d = 0 ↔ d = 0 ∧ ∀ i ∈ l, f i = 0 := by
  induction l generalizing d with
  | nil => simp
  | cons i l ih =>
    rw [List.foldl_cons, ih, Nat.or_eq_zero_iff, List.forall_mem_cons, and_assoc]

theorem fixedWorkEqualLookup_eq {a b : Bytes} (ha : lookup (some a) = true)
    (hb : lookup (some b) = true) : fixedWorkEqualLookup a b = true ↔ a = b := by
  have hla : a.length = 64 := by simp_all [lookup]
  have hlb : b.length = 64 := by simp_all [lookup]
  simp only [fixedWorkEqualLookup, ha, hb, Bool.not_true, Bool.or_false, Bool.false_eq_true,
    if_false, beq_iff_eq, foldl_or_eq_zero, true_and]
  constructor
  · intro h
    refine List.ext_getElem (by omega) fun i h₁ h₂ => ?_
    have hi := h (i + 1) (List.mem_range'.mpr ⟨i, by omega, by omega⟩)
    rw [stringByte, stringByte, Nat.add_sub_cancel, List.getD_eq_getElem _ _ h₁,
      List.getD_eq_getElem _ _ h₂] at hi
    exact UInt8.toNat_inj.mp (xor_eq_zero_iff.mp hi)
  · rintro rfl i -
    exact xor_eq_zero_iff.mpr rfl

theorem completeCommonLogout_run :
    completeCommonLogoutScript KEYS ARGV s = returns (completeCommonLogoutSpec KEYS ARGV s) := by
  unfold completeCommonLogoutScript completeCommonLogoutSpec
  rw [EXISTS_run, State.object]
  match he : s.entries (KEYS 1) with
  | none => rfl
  | some ⟨.other kind, x⟩ =>
    simp only [Option.isSome_some, if_true, one_ne_zero, if_false, TYPE_run_other he, ite_run]
    cases kind <;> rfl
  | some ⟨.hash h, x⟩ =>
    simp only [Option.isSome_some, if_true, one_ne_zero, if_false, TYPE_run_hash he, ite_run,
      ne_eq, not_true_eq_false, HLEN_run he, HGET_run he, Option.map_some, TIME_now]
    rw [ite_checked (b := logoutValid h) rfl]
    cases hv : logoutValid h with
    | false => rfl
    | true =>
      simp only [logoutValid, decide_eq_true_eq, not_or, not_not] at hv
      simp only [Bool.true_eq_false, if_false, tonumber_of_uint hv.2.2.2.2.2.1, number_some,
        Script.pure_bind, ite_run]
      refine run_ite (fun _ => rfl) fun _ => ?_
      refine run_ite (fun _ => rfl) fun _ => ?_
      refine run_ite (fun _ => rfl) fun _ => ?_
      refine run_ite (fun _ => rfl) fun ha => ?_
      have hcsrf : (hget h "csrf_lookup").any (fixedWorkEqualLookup · (ARGV 1)) = true ↔
          hget h "csrf_lookup" = some (ARGV 1) := by
        cases hc : hget h "csrf_lookup" with
        | none => simp
        | some c =>
          rw [hc] at hv
          rw [Option.any_some, fixedWorkEqualLookup_eq hv.2.2.2.1 (not_not.mp ha),
            Option.some.injEq]
      simp only [hcsrf]
      refine run_ite (fun _ => rfl) fun _ => ?_
      rw [HSET_run he, DEL_run, setField, he]
      rfl

end Runs

end AuthFoundation
