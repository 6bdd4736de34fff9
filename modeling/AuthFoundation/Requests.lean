import AuthFoundation.Messages

set_option autoImplicit false

/-!
# What the portal reads of a request

* `IsReference`: the strings that pass as references, `isFixedReference_eq_true`.
* `HeaderMap.cookies`, `OnlyCookie`: the cookies of all headers, and the only cookie of a name.
* `parseCallbackQuery_exact`: **a callback carries one code and one state**.
* `extractors_agree`: **when the callback reads the login context as the other handlers would**.
-/

namespace AuthFoundation

namespace Portal

open Text

/-! ## References -/

/-- The characters of references. -/
def isReferenceChar (c : Char) : Bool := c.isAlphanum || c = '-' || c = '_'

/-- 43 characters of the URL-safe base64 alphabet. -/
def IsReference (value : String) : Prop :=
  value.toList.length = 43 ∧ ∀ c ∈ value.toList, isReferenceChar c = true

theorem isBase64urlNoPadByte_lt {b : UInt8} (h : isBase64urlNoPadByte b = true) : b < 128 := by
  simp only [isBase64urlNoPadByte, isDigit, Bool.or_eq_true, Bool.and_eq_true,
    decide_eq_true_eq] at h
  grind

theorem isReferenceChar_iff {c : Char} :
    isReferenceChar c = true ↔ c.val ≤ 127 ∧ isBase64urlNoPadByte (byte c) = true := by
  refine char_iff_byte (fun c h => ?_) (by decide)
  simp only [isReferenceChar, Char.isAlphanum, Char.isAlpha, Char.isUpper, Char.isLower,
    Char.isDigit, Bool.or_eq_true, Bool.and_eq_true, decide_eq_true_eq] at h
  rcases h with (h | rfl) | rfl
  · grind
  · decide
  · decide

/-- **The portal accepts references.** -/
theorem isFixedReference_eq_true {value : String} :
    isFixedReference value = true ↔ IsReference value := by
  rw [isFixedReference_iff, validateFixedReferenceValue_eq_ok, len, IsReference]
  exact length_all_utf8 (fun _ => isBase64urlNoPadByte_lt) fun _ => isReferenceChar_iff

/-! ## Values that come once -/

section Once

variable {v : String} {values : List String} {before after : Option String}

/-- At most one value comes, as a reference and as the first. -/
def Once (values : List String) (before after : Option String) : Prop :=
  values = [] ∧ after = before ∨
    ∃ v, values = [v] ∧ before = none ∧ IsReference v ∧ after = some v

theorem once_nil : Once [] before after ↔ after = before := by
  constructor
  · rintro (⟨-, h⟩ | ⟨v, h, -⟩)
    · exact h
    · cases h
  · exact fun h => .inl ⟨rfl, h⟩

theorem once_none : Once values none (some v) ↔ values = [v] ∧ IsReference v := by
  constructor
  · rintro (⟨-, h⟩ | ⟨v', hv, -, href, h⟩)
    · cases h
    · cases h
      exact ⟨hv, href⟩
  · exact fun ⟨hv, href⟩ => .inr ⟨v, hv, rfl, href, rfl⟩

/-- A second value, or one that is no reference. -/
theorem not_once (h : (before.isSome || !isFixedReference v) = true) :
    ¬Once (v :: values) before after := by
  rintro (⟨hn, -⟩ | ⟨v', hv, rfl, href, -⟩)
  · cases hn
  · obtain ⟨rfl, -⟩ := List.cons.inj hv
    rw [isFixedReference_eq_true.mpr href] at h
    cases h

/-- The first value. -/
theorem once_cons (h : ¬(before.isSome || !isFixedReference v) = true) :
    Once (v :: values) before after ↔ Once values (some v) after := by
  simp only [Bool.or_eq_true, Bool.not_eq_true', not_or, Bool.not_eq_true,
    Option.isSome_eq_false_iff, Option.isNone_iff_eq_none, Bool.not_eq_false] at h
  obtain ⟨rfl, hv⟩ := h
  constructor
  · rintro (⟨hn, -⟩ | ⟨v', hv', -, -, rfl⟩)
    · cases hn
    · obtain ⟨rfl, hnil⟩ := List.cons.inj hv'
      exact .inl ⟨hnil, rfl⟩
  · rintro (⟨rfl, rfl⟩ | ⟨v', -, hn, -⟩)
    · exact .inr ⟨v, rfl, rfl, isFixedReference_eq_true.mp hv, rfl⟩
    · cases hn

end Once

/-! ## The query of a callback -/

section Query

variable {pairs : List (String × String)} {query query' : Option String × Option String}
  {name value : String}

/-- The values of a parameter. -/
def valuesOf (name : String) (pairs : List (String × String)) : List String :=
  (pairs.filter fun pair => pair.1 = name).map Prod.snd

theorem valuesOf_cons (pair : String × String) : valuesOf name (pair :: pairs) =
    if pair.1 = name then pair.2 :: valuesOf name pairs else valuesOf name pairs := by
  rw [valuesOf, List.filter_cons]
  by_cases h : pair.1 = name
  · simp [h, valuesOf]
  · simp [h, valuesOf]

theorem setParameter_eq_ok {rest : List String} {rest' : List String}
    {query'' : Option String × Option String} :
    (∃ query', setParameter query name value = .ok query' ∧
        Once rest query'.1 query''.1 ∧ Once rest' query'.2 query''.2) ↔
      (name = "code" ∨ name = "state") ∧
        Once (if name = "code" then value :: rest else rest) query.1 query''.1 ∧
        Once (if name = "state" then value :: rest' else rest') query.2 query''.2 := by
  by_cases hcode : name = "code"
  · have hstate : name ≠ "state" := by
      rw [hcode]
      decide
    rw [setParameter, if_pos hcode, if_pos hcode, if_neg hstate]
    split_ifs with hc
    · refine iff_of_false (fun ⟨_, h, _⟩ => by cases h) fun h => not_once hc h.2.1
    · rw [once_cons hc]
      constructor
      · rintro ⟨_, ⟨⟩, h⟩
        exact ⟨.inl hcode, h⟩
      · exact fun h => ⟨_, rfl, h.2⟩
  · rw [setParameter, if_neg hcode, if_neg hcode]
    by_cases hstate : name = "state"
    · rw [if_pos hstate, if_pos hstate]
      split_ifs with hc
      · refine iff_of_false (fun ⟨_, h, _⟩ => by cases h) fun h => not_once hc h.2.2
      · rw [once_cons hc]
        constructor
        · rintro ⟨_, ⟨⟩, h⟩
          exact ⟨.inr hstate, h⟩
        · exact fun h => ⟨_, rfl, h.2⟩
    · rw [if_neg hstate, if_neg hstate]
      exact iff_of_false (fun ⟨_, h, _⟩ => by cases h) fun h => h.1.elim hcode hstate

/-- **The loop over the pairs.** -/
theorem foldlM_setParameter :
    pairs.foldlM (fun query pair => setParameter query pair.1 pair.2) query = .ok query' ↔
      (∀ pair ∈ pairs, pair.1 = "code" ∨ pair.1 = "state") ∧
        Once (valuesOf "code" pairs) query.1 query'.1 ∧
        Once (valuesOf "state" pairs) query.2 query'.2 := by
  induction pairs generalizing query with
  | nil =>
    have hn : ∀ name, valuesOf name [] = [] := fun _ => rfl
    rw [List.foldlM_nil, hn, hn, once_nil, once_nil]
    constructor
    · intro h
      cases h
      exact ⟨nofun, rfl, rfl⟩
    · rintro ⟨-, h₁, h₂⟩
      exact congrArg Except.ok (Prod.ext h₁.symm h₂.symm)
  | cons pair pairs ih =>
    rw [List.foldlM_cons, bind_eq_ok, valuesOf_cons, valuesOf_cons, List.forall_mem_cons]
    have hset := @setParameter_eq_ok query pair.1 pair.2 (valuesOf "code" pairs)
      (valuesOf "state" pairs) query'
    constructor
    · rintro ⟨q, hq, h⟩
      obtain ⟨hn, h₁, h₂⟩ := ih.mp h
      obtain ⟨hp, hs⟩ := hset.mp ⟨q, hq, h₁, h₂⟩
      exact ⟨⟨hp, hn⟩, hs⟩
    · rintro ⟨⟨hp, hn⟩, hs⟩
      obtain ⟨q, hq, h⟩ := hset.mpr ⟨hp, hs⟩
      exact ⟨q, hq, ih.mpr ⟨hn, h⟩⟩

theorem length_eq (h : ∀ pair ∈ pairs, pair.1 = "code" ∨ pair.1 = "state") :
    pairs.length = (valuesOf "code" pairs).length + (valuesOf "state" pairs).length := by
  induction pairs with
  | nil => rfl
  | cons pair pairs ih =>
    obtain ⟨hp, hn⟩ := List.forall_mem_cons.mp h
    have hne : "code" ≠ "state" := by decide
    rw [valuesOf_cons, valuesOf_cons, List.length_cons, ih hn]
    obtain hp | hp := hp
    · rw [hp, if_pos rfl, if_neg hne, List.length_cons]
      omega
    · rw [hp, if_pos rfl, if_neg hne.symm, List.length_cons]
      omega

/-- One code and one state, in either order. -/
def CodeAndState (pairs : List (String × String)) (query : CallbackQuery) : Prop :=
  pairs = [("code", query.code), ("state", query.state)] ∨
    pairs = [("state", query.state), ("code", query.code)]

theorem codeAndState_iff {query : CallbackQuery} : CodeAndState pairs query ↔
    (∀ pair ∈ pairs, pair.1 = "code" ∨ pair.1 = "state") ∧
      valuesOf "code" pairs = [query.code] ∧ valuesOf "state" pairs = [query.state] := by
  constructor
  · rintro (rfl | rfl) <;> simp [valuesOf]
  · rintro ⟨hn, hcode, hstate⟩
    have hl := length_eq hn
    rw [hcode, hstate] at hl
    obtain ⟨⟨n₁, v₁⟩, ⟨n₂, v₂⟩, rfl⟩ := List.length_eq_two.mp hl
    simp only [List.forall_mem_cons] at hn
    obtain ⟨rfl | rfl, rfl | rfl, -⟩ := hn
    · simp [valuesOf] at hcode
    · simp only [valuesOf_cons] at hcode hstate
      simp [valuesOf] at hcode hstate
      exact .inl (by rw [hcode, hstate])
    · simp only [valuesOf_cons] at hcode hstate
      simp [valuesOf] at hcode hstate
      exact .inr (by rw [hcode, hstate])
    · simp [valuesOf] at hstate

theorem parseCallbackQuery_eq_ok {rawQuery : String} {query : CallbackQuery} :
    parseCallbackQuery rawQuery = .ok query ↔
      CodeAndState (Form.parse rawQuery) query ∧ IsReference query.code ∧
        IsReference query.state := by
  rw [codeAndState_iff, parseCallbackQuery, bind_eq_ok]
  constructor
  · rintro ⟨⟨c, s⟩, h, hq⟩
    obtain ⟨hn, h₁, h₂⟩ := foldlM_setParameter.mp h
    match c, s, hq with
    | some code, some state, hq =>
      cases hq
      obtain ⟨h₁, hc⟩ := once_none.mp h₁
      obtain ⟨h₂, hs⟩ := once_none.mp h₂
      exact ⟨⟨hn, h₁, h₂⟩, hc, hs⟩
  · rintro ⟨⟨hn, h₁, h₂⟩, hc, hs⟩
    refine ⟨(some query.code, some query.state), foldlM_setParameter.mpr ⟨hn, ?_, ?_⟩, rfl⟩
    · exact once_none.mpr ⟨h₁, hc⟩
    · exact once_none.mpr ⟨h₂, hs⟩

/-- An unknown, repeated, missing or malformed parameter. -/
inductive Faulty (pairs : List (String × String)) : Prop
  | unknown (pair : String × String) (hp : pair ∈ pairs) (hc : pair.1 ≠ "code")
    (hs : pair.1 ≠ "state")
  | repeated (name : String) (h : 2 ≤ (valuesOf name pairs).length)
  | missing (name : String) (hn : name = "code" ∨ name = "state") (h : valuesOf name pairs = [])
  | malformed (pair : String × String) (hp : pair ∈ pairs) (h : ¬IsReference pair.2)

theorem CodeAndState.not_faulty {query : CallbackQuery} (h : CodeAndState pairs query)
    (hc : IsReference query.code) (hs : IsReference query.state) : ¬Faulty pairs := by
  obtain ⟨hn, hcode, hstate⟩ := codeAndState_iff.mp h
  rintro (⟨pair, hp, h₁, h₂⟩ | ⟨name, hl⟩ | ⟨name, rfl | rfl, hl⟩ | ⟨pair, hp, hv⟩)
  · exact (hn pair hp).elim h₁ h₂
  · have hname : name = "code" ∨ name = "state" := by
      by_contra hne
      have hnil : valuesOf name pairs = [] := by
        rw [valuesOf, List.map_eq_nil_iff, List.filter_eq_nil_iff]
        intro pair hp he
        exact hne (of_decide_eq_true he ▸ hn pair hp)
      rw [hnil] at hl
      cases hl
    obtain rfl | rfl := hname
    · rw [hcode] at hl
      exact absurd hl (by simp)
    · rw [hstate] at hl
      exact absurd hl (by simp)
  · cases hcode.symm.trans hl
  · cases hstate.symm.trans hl
  · obtain rfl | rfl := h
    · simp only [List.mem_cons, List.not_mem_nil, or_false] at hp
      obtain rfl | rfl := hp
      · exact hv hc
      · exact hv hs
    · simp only [List.mem_cons, List.not_mem_nil, or_false] at hp
      obtain rfl | rfl := hp
      · exact hv hs
      · exact hv hc

theorem CodeAndState.perm {pairs' : List (String × String)} {query : CallbackQuery}
    (h : CodeAndState pairs query) (hp : pairs'.Perm pairs) : CodeAndState pairs' query := by
  have hvalues : ∀ name v, valuesOf name pairs = [v] → valuesOf name pairs' = [v] := by
    intro name v hv
    have hm := (hp.filter fun pair => pair.1 = name).map Prod.snd
    exact List.perm_singleton.mp (hv ▸ hm)
  obtain ⟨hn, hcode, hstate⟩ := codeAndState_iff.mp h
  refine codeAndState_iff.mpr ⟨fun pair hm => hn pair (hp.subset hm), ?_, ?_⟩
  · exact hvalues _ _ hcode
  · exact hvalues _ _ hstate

/-- **A callback carries one code and one state**, in either order and both references; anything
unknown, repeated, missing or malformed is rejected. -/
theorem parseCallbackQuery_exact (rawQuery : String) :
    (∀ query, parseCallbackQuery rawQuery = .ok query ↔
      CodeAndState (Form.parse rawQuery) query ∧ IsReference query.code ∧
        IsReference query.state) ∧
    (∀ rawQuery', (Form.parse rawQuery').Perm (Form.parse rawQuery) →
      parseCallbackQuery rawQuery' = parseCallbackQuery rawQuery) ∧
    (Faulty (Form.parse rawQuery) → parseCallbackQuery rawQuery = .error ()) := by
  refine ⟨fun query => parseCallbackQuery_eq_ok, fun rawQuery' hp => ?_, fun hf => ?_⟩
  · have hok : ∀ query, parseCallbackQuery rawQuery' = .ok query ↔
        parseCallbackQuery rawQuery = .ok query := by
      intro query
      rw [parseCallbackQuery_eq_ok, parseCallbackQuery_eq_ok]
      exact and_congr_left fun _ => ⟨fun h => h.perm hp.symm, fun h => h.perm hp⟩
    cases h : parseCallbackQuery rawQuery with
    | ok query => exact (hok query).mpr h
    | error e =>
      cases h' : parseCallbackQuery rawQuery' with
      | ok query => cases h.symm.trans ((hok query).mp h')
      | error e' => rfl
  · cases h : parseCallbackQuery rawQuery with
    | error e => rfl
    | ok query =>
      obtain ⟨hq, hc, hs⟩ := parseCallbackQuery_eq_ok.mp h
      exact absurd hf (hq.not_faulty hc hs)

/-- The state before the code. -/
theorem parseCallbackQuery_exact_sample :
    parseCallbackQuery ("state=" ++ referenceValue (bytes32 1) ++ "&code=" ++
      referenceValue (bytes32 9)) = .ok ⟨referenceValue (bytes32 9), referenceValue (bytes32 1)⟩ ∧
    parseCallbackQuery "code=a&code=b&state=c" = .error () := by
  have h₁ : (Form.parse ("state=" ++ referenceValue (bytes32 1) ++ "&code=" ++
      referenceValue (bytes32 9))).Perm (Form.parse (sampleQuery (bytes32 9) (bytes32 1))) := by
    decide +kernel
  have h₂ : parseCallbackQuery (sampleQuery (bytes32 9) (bytes32 1)) =
      .ok ⟨referenceValue (bytes32 9), referenceValue (bytes32 1)⟩ := by decide +kernel
  have h₃ : Faulty (Form.parse "code=a&code=b&state=c") := .repeated "code" (by decide +kernel)
  exact ⟨((parseCallbackQuery_exact _).2.1 _ h₁).trans h₂, (parseCallbackQuery_exact _).2.2 h₃⟩

end Query

/-! ## Cookies -/

section Cookies

variable {name v : String} {value r : Option String} {items : List (Except Unit (String × String))}

/-- The values of the cookies of a name. -/
def named (name : String) (items : List (Except Unit (String × String))) : List String :=
  items.filterMap fun
    | .ok cookie => if cookie.1 = name then some cookie.2 else none
    | .error () => none

theorem named_ok (cookie : String × String) : named name (.ok cookie :: items) =
    if cookie.1 = name then cookie.2 :: named name items else named name items := by
  rw [named, List.filterMap_cons]
  dsimp only
  split_ifs <;> rfl

/-- **The only cookie of a name**: all items are cookies, exactly one has the name, and its value
is a reference. -/
structure OnlyCookie (items : List (Except Unit (String × String))) (name value : String) :
    Prop where
  parsed : .error () ∉ items
  only : named name items = [value]
  reference : IsReference value

theorem OnlyCookie.eq {v w : String} (h : OnlyCookie items name v) (h' : OnlyCookie items name w) :
    v = w :=
  (List.cons.inj (h.only.symm.trans h'.only)).1

theorem findCookie_eq_ok : findCookie name value items = .ok r ↔
    .error () ∉ items ∧ Once (named name items) value r := by
  induction items generalizing value with
  | nil =>
    have hn : named name [] = [] := rfl
    rw [findCookie, Except.ok.injEq, hn, once_nil]
    exact ⟨fun h => ⟨List.not_mem_nil, h.symm⟩, fun h => h.2.symm⟩
  | cons item items ih =>
    match item with
    | .error () =>
      exact iff_of_false nofun fun h => h.1 List.mem_cons_self
    | .ok cookie =>
      have hm : Except.error () ∉ (.ok cookie : Except Unit (String × String)) :: items ↔
          .error () ∉ items := by simp
      rw [findCookie, hm]
      by_cases hn : cookie.1 = name
      · rw [if_pos hn, named_ok, if_pos hn]
        split_ifs with hc
        · exact iff_of_false nofun fun h => not_once hc h.2
        · rw [ih, once_cons hc]
      · rw [if_neg hn, named_ok, if_neg hn, ih]

theorem findCookie_append (items' : List (Except Unit (String × String))) :
    findCookie name value (items ++ items') =
      findCookie name value items >>= fun r => findCookie name r items' := by
  induction items generalizing value with
  | nil => rfl
  | cons item items ih =>
    match item with
    | .error () => rfl
    | .ok cookie =>
      rw [List.cons_append, findCookie, findCookie]
      split_ifs with hn hc
      · rfl
      · exact ih
      · exact ih

/-- The scan of all items. -/
theorem scan_eq_ok : (findCookie name none items >>= okOr) = .ok v ↔ OnlyCookie items name v := by
  rw [bind_eq_ok]
  constructor
  · rintro ⟨r, hr, hv⟩
    obtain ⟨hp, ho⟩ := findCookie_eq_ok.mp hr
    cases r with
    | none => cases hv
    | some v' =>
      cases hv
      obtain ⟨hn, href⟩ := once_none.mp ho
      exact ⟨hp, hn, href⟩
  · intro h
    exact ⟨some v, findCookie_eq_ok.mpr ⟨h.parsed, once_none.mpr ⟨h.only, h.reference⟩⟩, rfl⟩

variable [Crates]

/-- The items of a header; one that is not visible ASCII counts as an item that is no cookie. -/
def headerItems : Option String → List (Except Unit (String × String))
  | none => [.error ()]
  | some header => Crates.cookieSplitParse header

/-- The items of all `Cookie` headers, in order. -/
def HeaderMap.cookies (headers : HeaderMap) : List (Except Unit (String × String)) :=
  headers.cookie.flatMap headerItems

theorem foldlM_findCookie (name : String) (cookie : List (Option String)) (value : Option String) :
    (cookie.foldlM (fun value header => match header with
      | none => .error ()
      | some header => findCookie name value (Crates.cookieSplitParse header)) value) =
    findCookie name value (cookie.flatMap headerItems) := by
  induction cookie generalizing value with
  | nil => rfl
  | cons header cookie ih =>
    rw [List.foldlM_cons, List.flatMap_cons, findCookie_append]
    match header with
    | none => rfl
    | some header => exact congrArg _ (funext fun r => ih r)

/-- **The cookie of all headers.** -/
theorem fixedReferenceCookieFromHeaders_eq_ok {headers : HeaderMap} :
    fixedReferenceCookieFromHeaders headers name = .ok v ↔ OnlyCookie headers.cookies name v := by
  have h := foldlM_findCookie name headers.cookie none
  have hs : fixedReferenceCookieFromHeaders headers name =
      findCookie name none headers.cookies >>= okOr := congrArg (· >>= okOr) h
  rw [hs]
  exact scan_eq_ok

/-- **The cookie of one header.** -/
theorem loginContextFromCookieHeader_eq_ok {header : Option String} :
    loginContextFromCookieHeader header = .ok v ↔ ∃ text, header = some text ∧
      OnlyCookie (Crates.cookieSplitParse text) portalLoginContextCookieName v := by
  cases header with
  | none => exact iff_of_false nofun fun ⟨_, h, _⟩ => by cases h
  | some text =>
    refine scan_eq_ok.trans ⟨fun h => ⟨text, rfl, h⟩, ?_⟩
    rintro ⟨_, ⟨⟩, h⟩
    exact h

omit [Crates] in
theorem csrfHeaderFromHeaders_eq_ok {headers : HeaderMap} :
    csrfHeaderFromHeaders headers = .ok v ↔ headers.csrfToken = [some v] ∧ IsReference v := by
  unfold csrfHeaderFromHeaders
  split
  · rename_i value values h
    rw [h]
    split_ifs with hc
    · refine iff_of_false nofun ?_
      rintro ⟨hv, href⟩
      cases hv
      rw [isFixedReference_eq_true.mpr href] at hc
      cases hc
    · simp only [Bool.or_eq_true, Bool.not_eq_true', not_or, Bool.not_eq_false,
        List.isEmpty_iff] at hc
      rw [hc.1, Except.ok.injEq, List.cons.injEq, Option.some.injEq, and_iff_left rfl]
      refine ⟨fun h => ⟨h, h ▸ isFixedReference_eq_true.mp hc.2⟩, And.left⟩
  · rename_i hne
    exact iff_of_false nofun fun h => hne _ _ h.1

end Cookies

/-! ## Two extractors -/

section Extractors

variable {name v : String} {first later : List (Except Unit (String × String))}

theorem onlyCookie_append : OnlyCookie (first ++ later) name v ↔ .error () ∉ first ∧
    .error () ∉ later ∧ named name first ++ named name later = [v] ∧ IsReference v := by
  have hn : named name (first ++ later) = named name first ++ named name later :=
    List.filterMap_append
  constructor
  · rintro ⟨hp, ho, href⟩
    rw [List.mem_append, not_or] at hp
    exact ⟨hp.1, hp.2, hn ▸ ho, href⟩
  · rintro ⟨h₁, h₂, ho, href⟩
    exact ⟨by rw [List.mem_append, not_or]; exact ⟨h₁, h₂⟩, hn ▸ ho, href⟩

/-- The first header alone and all headers together hold different only cookies. -/
def Divided (name : String) (first later : List (Except Unit (String × String))) : Prop :=
  (∃ v, OnlyCookie first name v) ∧ (.error () ∈ later ∨ named name later ≠ []) ∨
    .error () ∉ first ∧ named name first = [] ∧ ∃ v, OnlyCookie later name v

theorem onlyCookie_agree : (∀ v, OnlyCookie first name v ↔ OnlyCookie (first ++ later) name v) ↔
    ¬Divided name first later := by
  constructor
  · rintro h (⟨⟨v, hv⟩, hl⟩ | ⟨hp, hn, v, hv⟩)
    · obtain ⟨-, hp, ho, -⟩ := onlyCookie_append.mp ((h v).mp hv)
      rw [hv.only, List.singleton_append, List.cons.injEq, and_iff_right rfl] at ho
      exact hl.elim hp fun hne => hne ho
    · have hall : OnlyCookie (first ++ later) name v :=
        onlyCookie_append.mpr ⟨hp, hv.parsed, by rw [hn, hv.only, List.nil_append], hv.reference⟩
      cases hn.symm.trans ((h v).mpr hall).only
  · intro h v
    rw [onlyCookie_append]
    constructor
    · intro hv
      have hl : ¬(.error () ∈ later ∨ named name later ≠ []) := fun hl => h (.inl ⟨⟨v, hv⟩, hl⟩)
      rw [not_or, not_not] at hl
      exact ⟨hv.parsed, hl.1, by rw [hv.only, hl.2, List.append_nil], hv.reference⟩
    · rintro ⟨h₁, h₂, ho, href⟩
      rcases List.append_eq_singleton_iff.mp ho with ⟨hf, hl⟩ | ⟨hf, -⟩
      · exact absurd (.inr ⟨h₁, hf, v, h₂, hl, href⟩) h
      · exact ⟨h₁, hf, href⟩

variable [Crates] {headers : HeaderMap}

/-- The login context that the route of callbacks obtains. -/
def callbackContext (headers : HeaderMap) : Except Unit String := do
  loginContextFromCookieHeader (← headers.optionalCookie)

/-- The items of the first `Cookie` header. -/
def HeaderMap.firstCookies (headers : HeaderMap) : List (Except Unit (String × String)) :=
  (headers.cookie.take 1).flatMap headerItems

/-- The items of the other `Cookie` headers. -/
def HeaderMap.laterCookies (headers : HeaderMap) : List (Except Unit (String × String)) :=
  (headers.cookie.drop 1).flatMap headerItems

theorem cookies_eq : headers.cookies = headers.firstCookies ++ headers.laterCookies := by
  rw [HeaderMap.firstCookies, HeaderMap.laterCookies, ← List.flatMap_append,
    List.take_append_drop]
  rfl

theorem callbackContext_eq_ok : callbackContext headers = .ok v ↔
    OnlyCookie headers.firstCookies portalLoginContextCookieName v := by
  obtain ⟨cookie, csrfToken⟩ := headers
  match cookie with
  | [] => exact iff_of_false nofun fun h => by cases h.only
  | none :: _ => exact iff_of_false nofun fun h => h.parsed List.mem_cons_self
  | some header :: rest =>
    have hitems : HeaderMap.firstCookies ⟨some header :: rest, csrfToken⟩ =
        Crates.cookieSplitParse header := List.append_nil _
    rw [hitems]
    refine loginContextFromCookieHeader_eq_ok.trans ⟨?_, fun h => ⟨header, rfl, h⟩⟩
    rintro ⟨_, ⟨⟩, h⟩
    exact h

/-- The route runs no operation. -/
def Untouched (route : Except Unit (Handler (Option HttpResponse))) : Prop :=
  ∀ handler, route = .ok handler → ∃ response, handler = .done response

theorem callbackRoute_untouched (h : ∀ v, callbackContext headers ≠ .ok v) (config : AppConfig)
    (rawQuery : String) : Untouched (callbackRoute config rawQuery headers) := by
  intro handler hr
  obtain ⟨header, hh, hc⟩ := bind_eq_ok.mp hr
  cases hc
  unfold callback
  cases parseCallbackQuery rawQuery with
  | error e => exact ⟨_, rfl⟩
  | ok query =>
    dsimp only
    cases hl : loginContextFromCookieHeader header with
    | error e => exact ⟨_, rfl⟩
    | ok v => exact absurd (bind_eq_ok.mpr ⟨header, hh, hl⟩) (h v)

/-- **The callback reads the login context as the other handlers would**, exactly if the context is
not divided between the first `Cookie` header and the others. -/
theorem extractors_agree (headers : HeaderMap) :
    ((∀ v, callbackContext headers = .ok v ↔
        fixedReferenceCookieFromHeaders headers portalLoginContextCookieName = .ok v) ∧
      (∀ config rawQuery,
        (∀ v, fixedReferenceCookieFromHeaders headers portalLoginContextCookieName ≠ .ok v) →
        Untouched (callbackRoute config rawQuery headers)) ∧
      (2 ≤ (named portalLoginContextCookieName headers.cookies).length →
        ∀ v, callbackContext headers ≠ .ok v)) ↔
    ¬Divided portalLoginContextCookieName headers.firstCookies headers.laterCookies := by
  rw [← onlyCookie_agree, ← cookies_eq]
  simp only [callbackContext_eq_ok, fixedReferenceCookieFromHeaders_eq_ok]
  refine ⟨And.left, fun h => ⟨h, fun config rawQuery hn => ?_, fun hl v hv => ?_⟩⟩
  · refine callbackRoute_untouched (fun v hv => hn v ?_) config rawQuery
    exact fixedReferenceCookieFromHeaders_eq_ok.mpr ((h v).mp (callbackContext_eq_ok.mp hv))
  · rw [((h v).mp (callbackContext_eq_ok.mp hv)).only] at hl
    exact absurd hl (by simp)

/-- `Cookie::split_parse` on plain headers. -/
def splitCookies (header : String) : List (Except Unit (String × String)) :=
  let parts := (header.toList.splitOn ';').map fun part => part.dropWhile (· = ' ')
  (parts.filter (· ≠ [])).map fun part => match splitOnce (String.ofList part) '=' with
    | some (name, value) => if name = "" then .error () else .ok (name, value)
    | none => .error ()

/-- Crates that split plain headers. -/
@[reducible] def cookieCrates : Crates := { Crates.sample with cookieSplitParse := splitCookies }

omit [Crates] in
/-- A login context that comes twice, in different headers. -/
theorem extractors_disagree : letI := cookieCrates
    ∃ headers : HeaderMap,
      headers.cookie.length = 2 ∧
      (named portalLoginContextCookieName headers.cookies).length = 2 ∧
      callbackContext headers = .ok (referenceValue (bytes32 1)) ∧
      fixedReferenceCookieFromHeaders headers portalLoginContextCookieName = .error () := by
  let _ := cookieCrates
  let header := portalLoginContextCookieName ++ "=" ++ referenceValue (bytes32 1)
  exact ⟨⟨[some header, some header], []⟩, rfl, by decide +kernel, by decide +kernel,
    by decide +kernel⟩

end Extractors

end Portal

end AuthFoundation
