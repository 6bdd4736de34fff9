import AuthFoundation.Portal

set_option autoImplicit false

/-!
# Redirects to a stored path

* `browserBytes`, `resolve`: where a browser on the portal goes for a location.
* `StaysOnOrigin`, `SafePath`: locations on the portal itself, and the paths that lead there.
* `redirect_safe`: **an accepted path redirects safely** exactly when it is a `SafePath`.
-/

namespace AuthFoundation

namespace Portal

open Text

/-! ## Browsers -/

/-- What a browser makes of a location: no tabs and line breaks, slashes for backslashes. -/
def browserBytes (location : Bytes) : Bytes :=
  (location.filter fun b => b ≠ 9 ∧ b ≠ 10 ∧ b ≠ 13).map fun b => if b = 92 then 47 else b

/-- What a location refers to, seen from the portal. -/
inductive Target where
  /-- A host, with what follows. -/
  | network (rest : Bytes)
  /-- A path on the portal. -/
  | path (rest : Bytes)
  /-- No leading slash: a relative path, or a URL with a scheme. -/
  | other (value : Bytes)
  deriving DecidableEq

def resolve (location : String) : Target :=
  match browserBytes (utf8 location) with
  | 47 :: 47 :: rest => .network rest
  | 47 :: rest => .path rest
  | value => .other value

def StaysOnOrigin (location : String) : Prop := ∃ rest, resolve location = .path rest

theorem staysOnOrigin_iff {location : String} {t : Bytes}
    (h : browserBytes (utf8 location) = 47 :: t) :
    StaysOnOrigin location ↔ t.head? ≠ some 47 := by
  unfold StaysOnOrigin resolve
  rw [h]
  split
  · rename_i rest heq
    rw [(List.cons.inj heq).2]
    simp
  · rename_i rest hne heq
    refine ⟨fun _ hh => ?_, fun _ => ⟨rest, rfl⟩⟩
    obtain ⟨u, rfl⟩ := List.head?_eq_some_iff.mp hh
    exact hne u (List.cons.inj heq).2.symm
  · rename_i hne
    exact absurd rfl (hne t)

/-- What comes first when a symbol is left out. -/
theorem head?_filter_ne {α : Type} [DecidableEq α] {a b : α} (hne : b ≠ a) (t : List α) :
    (t.filter (· ≠ a)).head? = some b ↔ ∃ n rest, t = List.replicate n a ++ b :: rest := by
  induction t with
  | nil => simp
  | cons c t ih =>
    by_cases hc : c = a
    · subst hc
      rw [List.filter_cons_of_neg (by simp), ih]
      constructor
      · rintro ⟨n, rest, rfl⟩
        exact ⟨n + 1, rest, rfl⟩
      · rintro ⟨n, rest, h⟩
        cases n with
        | zero => exact absurd (List.cons.inj h).1.symm hne
        | succ n => exact ⟨n, rest, (List.cons.inj h).2⟩
    · rw [List.filter_cons_of_pos (by simpa using hc), List.head?_cons, Option.some.injEq]
      constructor
      · rintro rfl
        exact ⟨0, t, rfl⟩
      · rintro ⟨n, rest, h⟩
        cases n with
        | zero => exact (List.cons.inj h).1
        | succ n => exact absurd (List.cons.inj h).1 hc

/-! ## Accepted paths -/

theorem validatePostLoginPath_eq_ok {p : String} : validatePostLoginPath p = .ok () ↔
    len p ≤ postLoginPathMaxBytes ∧ (∃ t, utf8 p = 47 :: t ∧ t.head? ≠ some 47) ∧
      92 ∉ utf8 p := by
  have hempty : p = "" ↔ utf8 p = [] := by
    rw [← utf8_inj (t := "")]
    rfl
  simp only [validatePostLoginPath, hempty]
  split_ifs with h
  · simp only [false_iff]
    rintro ⟨hlen, ⟨t, ht, hh⟩, hb⟩
    rw [ht] at h hb
    rcases h with h | h | h | ⟨rest, h⟩ | h
    · cases h
    · exact absurd hlen (by omega)
    · exact h ⟨t, rfl⟩
    · exact hh (by rw [← (List.cons.inj h).2]; rfl)
    · exact hb h
  · simp only [true_iff]
    push Not at h
    obtain ⟨hne, hlen, hs, hss, hb⟩ := h
    obtain ⟨t, ht⟩ := hs
    refine ⟨hlen, ⟨t, ht.symm, fun hh => hss ?_⟩, hb⟩
    obtain ⟨rest, rfl⟩ := List.head?_eq_some_iff.mp hh
    exact ⟨rest, ht⟩

/-- Paths with no control characters but tabs, and with no second slash after the first or after
tabs behind it. -/
structure SafePath (p : String) : Prop where
  visible : ∀ b ∈ utf8 p, (32 ≤ b ∧ b ≠ 127) ∨ b = 9
  single : ∀ n rest, utf8 p ≠ 47 :: (List.replicate n 9 ++ 47 :: rest)

theorem redirectResponse_isSome {location : String} : (redirectResponse location).isSome ↔
    ∀ b ∈ utf8 location, (32 ≤ b ∧ b ≠ 127) ∨ b = 9 := by
  unfold redirectResponse
  split_ifs with h
  · simpa [isHeaderByte] using h
  · simpa [isHeaderByte] using h

/-- Of what a header may hold, browsers leave out the tabs only. -/
theorem browserBytes_visible {v : Bytes} (h : ∀ b ∈ v, (32 ≤ b ∧ b ≠ 127) ∨ b = 9)
    (hb : 92 ∉ v) : browserBytes v = v.filter (· ≠ 9) := by
  have hf : v.filter (fun b => b ≠ 9 ∧ b ≠ 10 ∧ b ≠ 13) = v.filter (· ≠ 9) := by
    apply List.filter_congr
    intro b hm
    have hv := h b hm
    grind
  unfold browserBytes
  rw [hf]
  refine (List.map_congr_left fun b hm => if_neg ?_).trans (List.map_id _)
  rintro rfl
  exact hb (List.mem_of_mem_filter hm)

theorem staysOnOrigin_visible {p : String} {t : Bytes} (hp : utf8 p = 47 :: t)
    (h : ∀ b ∈ utf8 p, (32 ≤ b ∧ b ≠ 127) ∨ b = 9) (hb : 92 ∉ utf8 p) :
    StaysOnOrigin p ↔ ∀ n rest, t ≠ List.replicate n 9 ++ 47 :: rest := by
  have hr : browserBytes (utf8 p) = 47 :: t.filter (· ≠ 9) := by
    rw [browserBytes_visible h hb, hp]
    rfl
  rw [staysOnOrigin_iff hr, ne_eq, head?_filter_ne (by decide)]
  push Not
  rfl

/-- **An accepted path redirects safely** exactly when it is a `SafePath`: the redirect can be
built, and a browser that follows it stays on the portal. -/
theorem redirect_safe {p : String} (h : validatePostLoginPath p = .ok ()) :
    (redirectResponse p).isSome ∧ StaysOnOrigin p ↔ SafePath p := by
  obtain ⟨-, ⟨t, ht, -⟩, hb⟩ := validatePostLoginPath_eq_ok.mp h
  have hsingle : (∀ n rest, utf8 p ≠ 47 :: (List.replicate n 9 ++ 47 :: rest)) ↔
      ∀ n rest, t ≠ List.replicate n 9 ++ 47 :: rest := by
    simp [ht]
  rw [redirectResponse_isSome]
  constructor
  · rintro ⟨hv, hs⟩
    exact ⟨hv, hsingle.mpr ((staysOnOrigin_visible ht hv hb).mp hs)⟩
  · intro hsafe
    exact ⟨hsafe.visible, (staysOnOrigin_visible ht hsafe.visible hb).mpr
      (hsingle.mp hsafe.single)⟩

theorem redirect_safe_sample : validatePostLoginPath "/foo?bar=baz" = .ok () ∧
    ((redirectResponse "/foo?bar=baz").isSome ∧ StaysOnOrigin "/foo?bar=baz" ↔
      SafePath "/foo?bar=baz") :=
  ⟨by decide +kernel, redirect_safe (by decide +kernel)⟩

/-- A tab hides the second slash, and a line break panics. -/
theorem redirect_unsafe :
    (validatePostLoginPath "/\t/evil.example/" = .ok () ∧
      resolve "/\t/evil.example/" = .network (utf8 "evil.example/")) ∧
    validatePostLoginPath "/\n" = .ok () ∧ redirectResponse "/\n" = none := by
  decide +kernel

/-- Accepted paths of printable characters are safe. -/
theorem SafePath.of_printable {p : String} (h : validatePostLoginPath p = .ok ())
    (hp : ∀ b ∈ utf8 p, 32 ≤ b ∧ b ≠ 127) : SafePath p := by
  obtain ⟨-, ⟨t, ht, hh⟩, -⟩ := validatePostLoginPath_eq_ok.mp h
  refine ⟨fun b hm => .inl (hp b hm), fun n rest e => ?_⟩
  have htr : t = List.replicate n 9 ++ 47 :: rest := (List.cons.inj (ht.symm.trans e)).2
  cases n with
  | zero => exact hh (by rw [htr]; rfl)
  | succ n =>
    have h9 : 9 ∈ utf8 p := by simp [ht, htr, List.replicate_succ]
    exact absurd (hp 9 h9).1 (by decide)

end Portal

end AuthFoundation
