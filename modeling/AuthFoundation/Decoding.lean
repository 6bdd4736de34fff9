import AuthFoundation.Record

set_option autoImplicit false

/-!
# What the decoders accept

* `requiredString_eq_ok`, `parseU64_eq_ok`, …: when a field of a map is read.
* `decodeExternal_eq_ok`, …, `decodeLogout_eq_ok`: which maps decode, and to which records.
* `decodeExternal_failsWith`, …: a decoder that fails says `InvalidStoredState`.
-/

namespace AuthFoundation

open Text Redis

/-! ## Sequences of checks -/

section Sequence

variable {ε α β : Type} {x : Except ε α} {f : α → Except ε β}

theorem bind_eq_ok {b : β} : (x >>= f) = .ok b ↔ ∃ a, x = .ok a ∧ f a = .ok b := by
  cases x <;> simp [bind, Except.bind]

/-- The computation fails with this error only. -/
def FailsWith (e : ε) (x : Except ε α) : Prop := ∀ e', x = .error e' → e' = e

theorem FailsWith.ok {e : ε} (a : α) : FailsWith e (.ok a) := fun _ h => by cases h

theorem FailsWith.error (e : ε) : FailsWith e (.error e : Except ε α) := fun _ h => by
  cases h
  rfl

theorem FailsWith.bind {e : ε} (hx : FailsWith e x) (hf : ∀ a, FailsWith e (f a)) :
    FailsWith e (x >>= f) := by
  intro e' h
  cases x with
  | error e'' =>
    cases h
    exact hx e' rfl
  | ok a => exact hf a e' h

theorem FailsWith.eq_error {e : ε} (hx : FailsWith e x) (h : ∀ a, x ≠ .ok a) : x = .error e := by
  cases x with
  | ok a => exact absurd rfl (h a)
  | error e' => rw [hx e' rfl]

end Sequence

/-! ## Fields -/

section Fields

variable {fields : Fields} {f : String}

/-- The field holds this `u64`. -/
def Fields.U64 (fields : Fields) (f : String) (n : UInt64) : Prop :=
  ∃ v, fields.get f = some v ∧ parseUInt64 (utf8 v) = some n

/-- The field holds this `i32`. -/
def Fields.I32 (fields : Fields) (f : String) (n : Int32) : Prop :=
  ∃ v, fields.get f = some v ∧ parseInt32 (utf8 v) = some n

theorem Fields.U64.isSome {n : UInt64} (h : fields.U64 f n) : (fields.get f).isSome := by
  obtain ⟨v, hv, -⟩ := h
  rw [hv, Option.isSome_some]

theorem Fields.I32.isSome {n : Int32} (h : fields.I32 f n) : (fields.get f).isSome := by
  obtain ⟨v, hv, -⟩ := h
  rw [hv, Option.isSome_some]

theorem requiredString_eq_ok {v : String} :
    requiredString fields f = .ok v ↔ fields.get f = some v := by
  unfold requiredString
  cases fields.get f <;> simp

theorem parseU64_eq_ok {n : UInt64} : parseU64 fields f = .ok n ↔ fields.U64 f n := by
  rw [parseU64, bind_eq_ok]
  refine exists_congr fun v => and_congr requiredString_eq_ok ?_
  cases parseUInt64 (utf8 v) <;> simp

theorem parseI32_eq_ok {n : Int32} : parseI32 fields f = .ok n ↔ fields.I32 f n := by
  rw [parseI32, bind_eq_ok]
  refine exists_congr fun v => and_congr requiredString_eq_ok ?_
  cases parseInt32 (utf8 v) <;> simp

theorem validateFieldNames_eq_ok {expected : List String} {u : Unit} :
    validateFieldNames fields expected = .ok u ↔
      fields.len = expected.length ∧ ∀ f ∈ expected, (fields.get f).isSome := by
  unfold validateFieldNames
  split_ifs with h
  · simp only [false_iff, not_and]
    intro hl hc
    rcases h with h | h
    · exact h hl
    · obtain ⟨f, hf, hn⟩ := List.any_eq_true.mp h
      rw [Fields.containsKey, hc f hf] at hn
      cases hn
  · simp only [not_or, not_not, List.any_eq_true, not_exists, not_and, Fields.containsKey,
      Bool.not_eq_true', Bool.not_eq_false] at h
    exact iff_of_true rfl h

theorem requiredString_failsWith : FailsWith .invalidStoredState (requiredString fields f) := by
  unfold requiredString
  split
  · exact .ok _
  · exact .error _

theorem parseU64_failsWith : FailsWith .invalidStoredState (parseU64 fields f) := by
  refine requiredString_failsWith.bind fun v => ?_
  split
  · exact .ok _
  · exact .error _

theorem parseI32_failsWith : FailsWith .invalidStoredState (parseI32 fields f) := by
  refine requiredString_failsWith.bind fun v => ?_
  split
  · exact .ok _
  · exact .error _

theorem validateFieldNames_failsWith {expected : List String} :
    FailsWith .invalidStoredState (validateFieldNames fields expected) := by
  unfold validateFieldNames
  split
  · exact .error _
  · exact .ok _

theorem decodeExternalStatus_failsWith {v : String} :
    FailsWith .invalidStoredState (decodeExternalStatus v) := by
  unfold decodeExternalStatus
  split
  · exact .ok _
  · exact .ok _
  · exact .error _

theorem decodeUsageStatus_failsWith {v : String} :
    FailsWith .invalidStoredState (decodeUsageStatus v) := by
  unfold decodeUsageStatus
  split
  · exact .ok _
  · exact .ok _
  · exact .error _

theorem decodeExternalStatus_eq_ok {v : String} {status : ExternalStatus} :
    decodeExternalStatus v = .ok status ↔ v = externalStatusValue status := by
  constructor
  · intro h
    unfold decodeExternalStatus at h
    split at h
    · cases h
      rfl
    · cases h
      rfl
    · cases h
  · rintro rfl
    cases status <;> rfl

theorem decodeUsageStatus_eq_ok {v : String} {status : UsageStatus} :
    decodeUsageStatus v = .ok status ↔ v = usageStatusValue status := by
  constructor
  · intro h
    unfold decodeUsageStatus at h
    split at h
    · cases h
      rfl
    · cases h
      rfl
    · cases h
  · rintro rfl
    cases status <;> rfl

end Fields

/-! ## Records -/

section Records

variable {fields : Fields}

theorem decodeExternal_eq_ok {r : ExternalAuthTransaction} : decodeExternal fields = .ok r ↔
    fields.len = 8 ∧ fields.get "service_id" = some r.serviceId ∧
      fields.get "service_state" = some r.serviceState ∧
      fields.get "handoff_code_challenge" = some r.handoffCodeChallenge ∧
      fields.get "provider" = some r.provider ∧
      fields.get "provider_verification_data" = some r.providerVerificationData ∧
      fields.U64 "created_at" r.createdAt ∧ fields.U64 "expires_at" r.expiresAt ∧
      fields.get "status" = some (externalStatusValue r.status) := by
  simp only [decodeExternal, bind_eq_ok, validateFieldNames_eq_ok, requiredString_eq_ok,
    parseU64_eq_ok, decodeExternalStatus_eq_ok]
  constructor
  · rintro ⟨-, ⟨hl, -⟩, v₁, h₁, v₂, h₂, v₃, h₃, v₄, h₄, v₅, h₅, n₁, h₆, n₂, h₇, v₆, h₈, s, rfl, h⟩
    cases h
    exact ⟨hl, h₁, h₂, h₃, h₄, h₅, h₆, h₇, h₈⟩
  · rintro ⟨hl, h₁, h₂, h₃, h₄, h₅, h₆, h₇, h₈⟩
    refine ⟨(), ⟨hl, ?_⟩, _, h₁, _, h₂, _, h₃, _, h₄, _, h₅, _, h₆, _, h₇, _, h₈, _, rfl, rfl⟩
    simp [externalFields, h₁, h₂, h₃, h₄, h₅, h₆.isSome, h₇.isSome, h₈]

theorem decodeSession_eq_ok {r : CommonSession} : decodeSession fields = .ok r ↔
    fields.len = 4 ∧ fields.I32 "internal_user_id" r.internalUserId ∧
      fields.U64 "authenticated_at" r.authenticatedAt ∧ fields.U64 "created_at" r.createdAt ∧
      fields.U64 "expires_at" r.expiresAt := by
  simp only [decodeSession, bind_eq_ok, validateFieldNames_eq_ok, parseU64_eq_ok, parseI32_eq_ok]
  constructor
  · rintro ⟨-, ⟨hl, -⟩, u, h₁, n₁, h₂, n₂, h₃, n₃, h₄, h⟩
    cases h
    exact ⟨hl, h₁, h₂, h₃, h₄⟩
  · rintro ⟨hl, h₁, h₂, h₃, h₄⟩
    refine ⟨(), ⟨hl, ?_⟩, _, h₁, _, h₂, _, h₃, _, h₄, rfl⟩
    simp [sessionFields, h₁.isSome, h₂.isSome, h₃.isSome, h₄.isSome]

/-- A check before the rest of a decoder. -/
theorem ite_error_eq_ok {ε α : Type} {b : Bool} {e : ε} {x : Except ε α} {a : α} :
    (if !b then .error e else x) = .ok a ↔ b = true ∧ x = .ok a := by
  cases b <;> simp

theorem decodeHandoff_eq_ok {r : AuthenticationHandoff} : decodeHandoff fields = .ok r ↔
    fields.len = 8 ∧ fields.get "service_id" = some r.serviceId ∧
      fields.I32 "internal_user_id" r.internalUserId ∧
      fields.get "common_session_lookup" = some r.commonSessionLookup ∧
      isLookup r.commonSessionLookup = true ∧ fields.get "code_challenge" = some r.codeChallenge ∧
      fields.U64 "authenticated_at" r.authenticatedAt ∧ fields.U64 "issued_at" r.issuedAt ∧
      fields.U64 "expires_at" r.expiresAt ∧
      fields.get "status" = some (usageStatusValue r.status) := by
  simp only [decodeHandoff, bind_eq_ok, ite_error_eq_ok, validateFieldNames_eq_ok,
    requiredString_eq_ok, parseU64_eq_ok, parseI32_eq_ok, decodeUsageStatus_eq_ok]
  constructor
  · rintro ⟨-, ⟨hl, -⟩, v₁, h₁, hx, v₂, h₂, u, h₃, v₃, h₄, n₁, h₅, n₂, h₆, n₃, h₇, v₄, h₈, s, rfl,
      h⟩
    cases h
    exact ⟨hl, h₂, h₃, h₁, hx, h₄, h₅, h₆, h₇, h₈⟩
  · rintro ⟨hl, h₂, h₃, h₁, hx, h₄, h₅, h₆, h₇, h₈⟩
    refine ⟨(), ⟨hl, ?_⟩, _, h₁, hx, _, h₂, _, h₃, _, h₄, _, h₅, _, h₆, _, h₇, _, h₈, _, rfl, rfl⟩
    simp [handoffFields, h₁, h₂, h₃.isSome, h₄, h₅.isSome, h₆.isSome, h₇.isSome, h₈]

theorem decodeLogout_eq_ok {r : CommonLogoutTransaction} : decodeLogout fields = .ok r ↔
    fields.len = 6 ∧ fields.get "service_id" = some r.serviceId ∧
      fields.get "logout_return_uri" = some r.logoutReturnUri ∧
      fields.get "csrf_lookup" = some r.csrfLookup ∧ isLookup r.csrfLookup = true ∧
      fields.U64 "created_at" r.createdAt ∧ fields.U64 "expires_at" r.expiresAt ∧
      fields.get "status" = some (usageStatusValue r.status) := by
  simp only [decodeLogout, bind_eq_ok, ite_error_eq_ok, validateFieldNames_eq_ok,
    requiredString_eq_ok, parseU64_eq_ok, decodeUsageStatus_eq_ok]
  constructor
  · rintro ⟨-, ⟨hl, -⟩, v₁, h₁, hx, v₂, h₂, v₃, h₃, n₁, h₄, n₂, h₅, v₄, h₆, s, rfl, h⟩
    cases h
    exact ⟨hl, h₂, h₃, h₁, hx, h₄, h₅, h₆⟩
  · rintro ⟨hl, h₂, h₃, h₁, hx, h₄, h₅, h₆⟩
    refine ⟨(), ⟨hl, ?_⟩, _, h₁, hx, _, h₂, _, h₃, _, h₄, _, h₅, _, h₆, _, rfl, rfl⟩
    simp [logoutFields, h₁, h₂, h₃, h₄.isSome, h₅.isSome, h₆]

theorem decodeExternal_failsWith : FailsWith .invalidStoredState (decodeExternal fields) := by
  refine validateFieldNames_failsWith.bind fun _ => ?_
  refine requiredString_failsWith.bind fun _ => ?_
  refine requiredString_failsWith.bind fun _ => ?_
  refine requiredString_failsWith.bind fun _ => ?_
  refine requiredString_failsWith.bind fun _ => ?_
  refine requiredString_failsWith.bind fun _ => ?_
  refine parseU64_failsWith.bind fun _ => ?_
  refine parseU64_failsWith.bind fun _ => ?_
  refine requiredString_failsWith.bind fun _ => ?_
  exact decodeExternalStatus_failsWith.bind fun _ => .ok _

theorem decodeSession_failsWith : FailsWith .invalidStoredState (decodeSession fields) := by
  refine validateFieldNames_failsWith.bind fun _ => ?_
  refine parseI32_failsWith.bind fun _ => ?_
  refine parseU64_failsWith.bind fun _ => ?_
  refine parseU64_failsWith.bind fun _ => ?_
  exact parseU64_failsWith.bind fun _ => .ok _

theorem decodeHandoff_failsWith : FailsWith .invalidStoredState (decodeHandoff fields) := by
  refine validateFieldNames_failsWith.bind fun _ => ?_
  refine requiredString_failsWith.bind fun _ => ?_
  split
  · exact .error _
  refine requiredString_failsWith.bind fun _ => ?_
  refine parseI32_failsWith.bind fun _ => ?_
  refine requiredString_failsWith.bind fun _ => ?_
  refine parseU64_failsWith.bind fun _ => ?_
  refine parseU64_failsWith.bind fun _ => ?_
  refine parseU64_failsWith.bind fun _ => ?_
  refine requiredString_failsWith.bind fun _ => ?_
  exact decodeUsageStatus_failsWith.bind fun _ => .ok _

theorem decodeLogout_failsWith : FailsWith .invalidStoredState (decodeLogout fields) := by
  refine validateFieldNames_failsWith.bind fun _ => ?_
  refine requiredString_failsWith.bind fun _ => ?_
  split
  · exact .error _
  refine requiredString_failsWith.bind fun _ => ?_
  refine requiredString_failsWith.bind fun _ => ?_
  refine parseU64_failsWith.bind fun _ => ?_
  refine parseU64_failsWith.bind fun _ => ?_
  refine requiredString_failsWith.bind fun _ => ?_
  exact decodeUsageStatus_failsWith.bind fun _ => .ok _

/-! ## Encoded records -/

theorem decodeHandoff_of {r : AuthenticationHandoff} (h : fields.Of (encodeHandoff r)) :
    decodeHandoff fields =
      if isLookup r.commonSessionLookup then .ok r else .error .invalidStoredState := by
  split_ifs with hl
  · exact decodeHandoff_encode h hl
  · refine decodeHandoff_failsWith.eq_error fun a ha => hl ?_
    obtain ⟨-, -, -, hget, hx, -⟩ := decodeHandoff_eq_ok.mp ha
    have he : some r.commonSessionLookup = some a.commonSessionLookup := (h.2 _).symm.trans hget
    rw [Option.some.inj he]
    exact hx

theorem decodeLogout_of {r : CommonLogoutTransaction} (h : fields.Of (encodeLogout r)) :
    decodeLogout fields = if isLookup r.csrfLookup then .ok r else .error .invalidStoredState := by
  split_ifs with hl
  · exact decodeLogout_encode h hl
  · refine decodeLogout_failsWith.eq_error fun a ha => hl ?_
    obtain ⟨-, -, -, hget, hx, -⟩ := decodeLogout_eq_ok.mp ha
    have he : some r.csrfLookup = some a.csrfLookup := (h.2 _).symm.trans hget
    rw [Option.some.inj he]
    exact hx

end Records

end AuthFoundation
