import AuthFoundation.Lib.Regex
import AuthFoundation.Requests

set_option autoImplicit false

/-!
# The validators of both sides and of the database

* `serviceIdFormat`: the check of the service ids in the database.
* `validateServiceId_iff_found`: the service accepts the ids that pass the check.
* `validators_agree`: **the portal, the service and the database accept the same strings**.
-/

namespace AuthFoundation

open Text Regex

/-- `registered_web_services_service_id_format`: `'^[a-z0-9][a-z0-9_-]{0,63}$'`. -/
def serviceIdFormat : Expr :=
  .seq .start (.seq (.seq (.oneOf [('a', 'z'), ('0', '9')])
    (.rep (.oneOf [('a', 'z'), ('0', '9'), ('_', '_'), ('-', '-')]) 0 63)) .stop)

theorem isServiceIdRestByte_lt {b : UInt8} (h : isServiceIdRestByte b = true) : b < 128 := by
  simp only [isServiceIdRestByte, isServiceIdFirstByte, isDigit, Bool.or_eq_true, Bool.and_eq_true,
    decide_eq_true_eq] at h
  grind

theorem isServiceIdFirstByte_rest {b : UInt8} (h : isServiceIdFirstByte b = true) :
    isServiceIdRestByte b = true := by
  simp [isServiceIdRestByte, h]

/-- ASCII ranges as tests of bytes. -/
theorem inRanges_iff {ranges : List (Char × Char)} {q : UInt8 → Bool}
    (hle : ranges.all (fun p => p.2.val ≤ 127) = true)
    (h : ∀ n : Fin 128, inRanges ranges (Char.ofNat n.val) = q (byte (Char.ofNat n.val)))
    {c : Char} : inRanges ranges c = true ↔ c.val ≤ 127 ∧ q (byte c) = true := by
  refine char_iff_byte (fun c hc => ?_) h
  obtain ⟨p, hp, hc⟩ := List.any_eq_true.mp hc
  simp only [Bool.and_eq_true, decide_eq_true_eq] at hc
  exact UInt32.le_trans hc.2 (of_decide_eq_true (List.all_eq_true.mp hle p hp))

theorem inRanges_first {c : Char} : inRanges [('a', 'z'), ('0', '9')] c = true ↔
    c.val ≤ 127 ∧ isServiceIdFirstByte (byte c) = true := inRanges_iff (by decide) (by decide)

theorem inRanges_rest {c : Char} :
    inRanges [('a', 'z'), ('0', '9'), ('_', '_'), ('-', '-')] c = true ↔
      c.val ≤ 127 ∧ isServiceIdRestByte (byte c) = true := inRanges_iff (by decide) (by decide)

/-- The service accepts the ids that pass the check of the database. -/
theorem validateServiceId_iff_found {v : String} :
    AuthFoundation.validateServiceId v = .ok () ↔ serviceIdFormat.Found v.toList := by
  rw [validateServiceId_eq_ok, serviceIdFormat, found_anchored, matches_oneOf_seq]
  simp only [matches_rep_oneOf, inRanges_first, inRanges_rest, Nat.zero_le, true_and]
  constructor
  · rintro ⟨first, rest, hv, hlen, hfirst, hrest⟩
    have hlt : ∀ b ∈ utf8 v, b < 128 := by
      intro b hb
      rw [hv] at hb
      rcases List.mem_cons.mp hb with rfl | hb
      · exact isServiceIdRestByte_lt (isServiceIdFirstByte_rest hfirst)
      · exact isServiceIdRestByte_lt (List.all_eq_true.mp hrest b hb)
    obtain ⟨hc, hs⟩ := utf8_ascii hlt
    rw [hv] at hs
    obtain ⟨c, cs, hl, rfl, rfl⟩ := List.map_eq_cons_iff.mp hs.symm
    rw [hl] at hc
    rw [List.length_map] at hlen
    refine ⟨c, cs, hl, ⟨hc c List.mem_cons_self, hfirst⟩, by omega, fun d hd => ?_⟩
    exact ⟨hc d (List.mem_cons_of_mem _ hd),
      List.all_eq_true.mp hrest _ (List.mem_map_of_mem hd)⟩
  · rintro ⟨c, cs, hl, ⟨hc, hfirst⟩, hlen, hrest⟩
    have hs := utf8_ofList (l := v.toList) (by
      rw [hl]
      exact List.forall_mem_cons.mpr ⟨hc, fun d hd => (hrest d hd).1⟩)
    rw [String.ofList_toList, hl, List.map_cons] at hs
    refine ⟨byte c, cs.map byte, hs, by rw [List.length_map]; omega, hfirst, ?_⟩
    rw [List.all_map, List.all_eq_true]
    exact fun d hd => (hrest d hd).2

/-- **The portal, the service and the database accept the same strings**: the same service ids and
the same references, all base64url encodings of 32 bytes among them. -/
theorem validators_agree :
    (∀ v : String, Portal.validateServiceId v = .ok () ↔
      AuthFoundation.validateServiceId v = .ok ()) ∧
    (∀ v : String, AuthFoundation.validateServiceId v = .ok () ↔
      serviceIdFormat.Found v.toList) ∧
    (∀ v : String, Portal.isFixedReference v = true ↔ validateFixedReferenceValue v = .ok ()) ∧
    ∀ bytes : Vector UInt8 32, Portal.isFixedReference (base64url bytes.toList) = true ∧
      validateFixedReferenceValue (base64url bytes.toList) = .ok () := by
  have hbytes : ∀ bytes : Vector UInt8 32,
      validateFixedReferenceValue (base64url bytes.toList) = .ok () :=
    validateFixedReferenceValue_referenceValue
  refine ⟨fun _ => Portal.validateServiceId_iff, fun _ => validateServiceId_iff_found,
    fun _ => Portal.isFixedReference_iff, fun bytes => ⟨?_, hbytes bytes⟩⟩
  exact Portal.isFixedReference_iff.mpr (hbytes bytes)

end AuthFoundation
