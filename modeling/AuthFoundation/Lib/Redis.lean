import AuthFoundation.Lib.Text

set_option autoImplicit false

/-!
# A key-value store with hashes, expiry and scripts

The part of Redis that clients of hash records use. A store maps keys to objects with an optional
expiry; its clock counts seconds. Commands run one at a time; a script runs as one command, stops
at its first error and keeps what it wrote so far.

* `Hash`, `overlay`, `hashOf`: hashes and the effect of `HSET`.
* `State`, `Script`: the store, atomic programs over it (`HSET`, `EXPIREAT`, …).
* `Command`, `State.run`: the commands of clients and their replies.
* `Event`, `Run`: commands, ticks of the clock and physical expiry in any order.
-/

namespace Redis

open Text

instance : Coe String Bytes := ⟨utf8⟩

/-! ## Hashes -/

/-- The fields of a hash with their values. -/
abbrev Hash := Finmap (fun _ : Bytes => Bytes)

/-- `HLEN`. -/
def hlen (h : Hash) : ℕ := h.keys.card

/-- The value of a field. -/
abbrev hget (h : Hash) (f : Bytes) : Option Bytes := h.lookup f

/-- Set fields from left to right. -/
def overlay (h : Hash) (fields : List (Bytes × Bytes)) : Hash :=
  fields.foldl (fun h p => h.insert p.1 p.2) h

/-- The hash of a list of fields. -/
def hashOf (fields : List (Bytes × Bytes)) : Hash := overlay ∅ fields

@[simp] theorem overlay_nil (h : Hash) : overlay h [] = h := rfl

@[simp] theorem overlay_cons (h : Hash) (p : Bytes × Bytes) (fields : List (Bytes × Bytes)) :
    overlay h (p :: fields) = overlay (h.insert p.1 p.2) fields := rfl

theorem overlay_append (h : Hash) (l m : List (Bytes × Bytes)) :
    overlay h (l ++ m) = overlay (overlay h l) m := List.foldl_append

theorem hashOf_concat (l : List (Bytes × Bytes)) (f v : Bytes) :
    hashOf (l ++ [(f, v)]) = (hashOf l).insert f v := overlay_append ∅ l [(f, v)]

theorem lookup_overlay {l : List (Bytes × Bytes)} (hl : (l.map Prod.fst).Nodup) (h : Hash)
    (f : Bytes) : (overlay h l).lookup f = (l.lookup f).or (h.lookup f) := by
  induction l generalizing h with
  | nil => rfl
  | cons p l ih =>
    rw [List.map_cons, List.nodup_cons] at hl
    rw [overlay_cons, ih hl.2, List.lookup_cons]
    by_cases hf : f = p.1
    · subst hf
      rw [List.lookup_eq_none_iff.mpr, Finmap.lookup_insert, beq_self_eq_true]
      · rfl
      · intro q hq
        rw [bne_iff_ne]
        exact fun e => hl.1 (e ▸ List.mem_map_of_mem hq)
    · rw [Finmap.lookup_insert_of_ne _ hf, beq_false_of_ne hf]

theorem lookup_hashOf {l : List (Bytes × Bytes)} (hl : (l.map Prod.fst).Nodup) (f : Bytes) :
    (hashOf l).lookup f = l.lookup f := by
  rw [hashOf, lookup_overlay hl, Finmap.lookup_empty, Option.or_none]

theorem keys_insert (h : Hash) (f v : Bytes) : (h.insert f v).keys = insert f h.keys := by
  ext k
  rw [Finmap.mem_keys, Finmap.mem_insert, Finset.mem_insert, Finmap.mem_keys]

theorem keys_overlay (h : Hash) (l : List (Bytes × Bytes)) :
    (overlay h l).keys = h.keys ∪ (l.map Prod.fst).toFinset := by
  induction l generalizing h with
  | nil => simp
  | cons p l ih =>
    rw [overlay_cons, ih, keys_insert, List.map_cons, List.toFinset_cons, Finset.insert_union,
      Finset.union_insert]

theorem hlen_hashOf {l : List (Bytes × Bytes)} (hl : (l.map Prod.fst).Nodup) :
    hlen (hashOf l) = l.length := by
  rw [hlen, hashOf, keys_overlay, Finmap.keys_empty, Finset.empty_union,
    List.toFinset_card_of_nodup hl, List.length_map]

/-! ## The store -/

/-- The other types of values. -/
inductive Kind where
  | string | list | set | zset | stream
  deriving DecidableEq, Repr

/-- The name `TYPE` gives a type. -/
def Kind.name : Kind → String
  | string => "string"
  | list => "list"
  | set => "set"
  | zset => "zset"
  | stream => "stream"

inductive Object where
  | hash (h : Hash)
  | other (kind : Kind)
  deriving DecidableEq

/-- A value with the second it expires at, if one is set. -/
structure Entry where
  object : Object
  expireAt : Option ℕ
  deriving DecidableEq

/-- A store with its clock, in seconds. -/
structure State where
  time : ℕ
  entries : Bytes → Option Entry

def State.empty : State := ⟨0, fun _ => none⟩

def State.set (s : State) (k : Bytes) (e : Entry) : State :=
  { s with entries := Function.update s.entries k (some e) }

def State.del (s : State) (k : Bytes) : State :=
  { s with entries := Function.update s.entries k none }

section Fields

variable (s : State) (k k' : Bytes) (e : Entry)

@[simp] theorem set_time : (s.set k e).time = s.time := rfl
@[simp] theorem del_time : (s.del k).time = s.time := rfl
@[simp] theorem set_entries_self : (s.set k e).entries k = some e := Function.update_self ..
@[simp] theorem del_entries_self : (s.del k).entries k = none := Function.update_self ..
@[simp] theorem empty_entries : State.empty.entries k = none := rfl

variable {k k'}

theorem set_entries_of_ne (h : k' ≠ k) : (s.set k e).entries k' = s.entries k' :=
  Function.update_of_ne h ..

theorem del_entries_of_ne (h : k' ≠ k) : (s.del k).entries k' = s.entries k' :=
  Function.update_of_ne h ..

end Fields

/-! ## Scripts -/

inductive Error where
  | wrongType
  | wrongArity
  | notAnInteger
  | invalidExpireTime
  | script
  | unavailable
  deriving DecidableEq, Repr

/-- **Scripts**: programs over the store that stop at their first error, without rolling back. -/
def Script (α : Type) := State → Except Error α × State

namespace Script

variable {α β : Type}

def bind (x : Script α) (f : α → Script β) : Script β := fun s =>
  match x s with
  | (.ok a, s') => f a s'
  | (.error e, s') => (.error e, s')

instance : Monad Script where
  pure a := fun s => (.ok a, s)
  bind := bind

/-- Stop with an error. -/
def fail (e : Error) : Script α := fun s => (.error e, s)

@[simp] theorem pure_run (a : α) (s : State) : (pure a : Script α) s = (.ok a, s) := rfl

@[simp] theorem pure_bind (a : α) (f : α → Script β) : (pure a >>= f) = f a := rfl

theorem bind_run {x : Script α} {s s' : State} {a : α} (h : x s = (.ok a, s'))
    (f : α → Script β) : (x >>= f) s = f a s' := by
  change bind x f s = _
  rw [bind, h]

theorem bind_run_error {x : Script α} {s s' : State} {e : Error} (h : x s = (.error e, s'))
    (f : α → Script β) : (x >>= f) s = (.error e, s') := by
  change bind x f s = _
  rw [bind, h]

end Script

/-! ## Commands -/

/-- `EXISTS`. -/
def EXISTS (k : Bytes) : Script ℕ := fun s => (.ok (if (s.entries k).isSome then 1 else 0), s)

/-- `TYPE`. -/
def TYPE (k : Bytes) : Script String := fun s =>
  match s.entries k with
  | none => (.ok "none", s)
  | some ⟨.hash _, _⟩ => (.ok "hash", s)
  | some ⟨.other kind, _⟩ => (.ok kind.name, s)

/-- The hash at a key; a missing key is an empty hash. -/
def hashAt (k : Bytes) : Script Hash := fun s =>
  match s.entries k with
  | none => (.ok ∅, s)
  | some ⟨.hash h, _⟩ => (.ok h, s)
  | some ⟨.other _, _⟩ => (.error .wrongType, s)

/-- `HLEN`. -/
def HLEN (k : Bytes) : Script ℕ := do return hlen (← hashAt k)

/-- `HGET`. -/
def HGET (k f : Bytes) : Script (Option Bytes) := do return hget (← hashAt k) f

/-- `HGETALL`. -/
def HGETALL (k : Bytes) : Script Hash := hashAt k

/-- Replace the hash `h` at a key by `h'`. The expiry of the key stays. -/
def replaceHash (k : Bytes) (h h' : Hash) : Script ℕ := fun s =>
  (.ok (hlen h' - hlen h), s.set k ⟨.hash h', (s.entries k).bind Entry.expireAt⟩)

/-- `HSET`: the number of new fields. -/
def HSET (k : Bytes) (fields : List (Bytes × Bytes)) : Script ℕ := do
  if fields = [] then Script.fail .wrongArity
  else
    let h ← hashAt k
    replaceHash k h (overlay h fields)

/-- `DEL`. -/
def DEL (k : Bytes) : Script ℕ := fun s =>
  (.ok (if (s.entries k).isSome then 1 else 0), s.del k)

/-- The seconds of `TIME`. -/
def TIME : Script Bytes := fun s => (.ok (digits s.time), s)

/-- The integers that commands accept as arguments: decimal in canonical form, of 64 bits. -/
def integer? (v : Bytes) : Option ℤ :=
  match v with
  | 45 :: d =>
    if digits (decimal d) = d ∧ 0 < decimal d ∧ decimal d ≤ 2 ^ 63 then some (-decimal d) else none
  | d => if digits (decimal d) = d ∧ decimal d < 2 ^ 63 then some (decimal d) else none

/-- `EXPIREAT`: a second count must fit in 64 bits as milliseconds; a second that has come deletes
the key. -/
def EXPIREAT (k seconds : Bytes) : Script ℕ := fun s =>
  match integer? seconds with
  | none => (.error .notAnInteger, s)
  | some t =>
    if t * 1000 < -2 ^ 63 ∨ 2 ^ 63 ≤ t * 1000 then (.error .invalidExpireTime, s)
    else match s.entries k with
    | none => (.ok 0, s)
    | some e =>
      if t ≤ s.time then (.ok 1, s.del k) else (.ok 1, s.set k { e with expireAt := some t.toNat })

theorem integer?_digits (n : ℕ) :
    integer? (digits n) = if n < 2 ^ 63 then some (n : ℤ) else none := by
  have h := numeral_digits n
  have hd := decimal_digits n
  rw [integer?]
  · simp only [hd, true_and]
  · intro d e
    rw [e] at h
    exact absurd (numeral_cons h) (by decide)

/-! ## Running scripts -/

section Running

variable {β : Type} {s : State} {k : Bytes} {h : Hash} {x : Option ℕ} {kind : Kind}

/-- The object at a key. -/
def State.object (s : State) (k : Bytes) : Option Object := (s.entries k).map Entry.object

theorem ite_run {c : Prop} [Decidable c] (f g : Script β) :
    (if c then f else g) s = if c then f s else g s := by
  split <;> rfl

/-- The outcome of a script that does not fail. -/
def returns (p : β × State) : Except Error β × State := (.ok p.1, p.2)

/-- A branch of a script and the same branch of a function. -/
theorem run_ite {c : Prop} {d₁ d₂ : Decidable c} {x y : Except Error β × State} {a b : β × State}
    (h₁ : c → x = returns a) (h₂ : ¬c → y = returns b) :
    @ite _ c d₁ x y = returns (@ite _ c d₂ a b) := by
  by_cases h : c
  · rw [if_pos h, if_pos h, h₁ h]
  · rw [if_neg h, if_neg h, h₂ h]

theorem EXISTS_run (g : ℕ → Script β) :
    (EXISTS k >>= g) s = g (if (s.entries k).isSome then 1 else 0) s := rfl

theorem exists_eq_zero (e : Option Entry) : (if e.isSome then 1 else 0) = 0 ↔ e = none := by
  cases e <;> simp

theorem DEL_run (g : ℕ → Script β) :
    (DEL k >>= g) s = g (if (s.entries k).isSome then 1 else 0) (s.del k) := rfl

theorem TIME_run (g : Bytes → Script β) : (TIME >>= g) s = g (digits s.time) s := rfl

theorem TYPE_run_hash (he : s.entries k = some ⟨.hash h, x⟩) (g : String → Script β) :
    (TYPE k >>= g) s = g "hash" s := Script.bind_run (by rw [TYPE, he]) g

theorem TYPE_run_other (he : s.entries k = some ⟨.other kind, x⟩) (g : String → Script β) :
    (TYPE k >>= g) s = g kind.name s := Script.bind_run (by rw [TYPE, he]) g

theorem hashAt_run (he : s.entries k = some ⟨.hash h, x⟩) (g : Hash → Script β) :
    (hashAt k >>= g) s = g h s := Script.bind_run (by rw [hashAt, he]) g

theorem HLEN_run (he : s.entries k = some ⟨.hash h, x⟩) (g : ℕ → Script β) :
    (HLEN k >>= g) s = g (hlen h) s := Script.bind_run (hashAt_run he _) g

theorem HGET_run (he : s.entries k = some ⟨.hash h, x⟩) (f : Bytes) (g : Option Bytes → Script β) :
    (HGET k f >>= g) s = g (hget h f) s := Script.bind_run (hashAt_run he _) g

theorem HSET_hash (he : s.entries k = some ⟨.hash h, x⟩) (p : Bytes × Bytes)
    (l : List (Bytes × Bytes)) : HSET k (p :: l) s =
      (.ok (hlen (overlay h (p :: l)) - hlen h), s.set k ⟨.hash (overlay h (p :: l)), x⟩) := by
  rw [HSET, if_neg (List.cons_ne_nil _ _), hashAt_run he, replaceHash, he]
  rfl

theorem HSET_new (he : s.entries k = none) (p : Bytes × Bytes) (l : List (Bytes × Bytes)) :
    HSET k (p :: l) s =
      (.ok (hlen (hashOf (p :: l)) - hlen ∅), s.set k ⟨.hash (hashOf (p :: l)), none⟩) := by
  have : hashAt k s = (.ok ∅, s) := by rw [hashAt, he]
  rw [HSET, if_neg (List.cons_ne_nil _ _), Script.bind_run this, replaceHash, he]
  rfl

theorem HSET_run (he : s.entries k = some ⟨.hash h, x⟩) (p : Bytes × Bytes)
    (l : List (Bytes × Bytes)) (g : ℕ → Script β) : (HSET k (p :: l) >>= g) s =
      g (hlen (overlay h (p :: l)) - hlen h) (s.set k ⟨.hash (overlay h (p :: l)), x⟩) :=
  Script.bind_run (HSET_hash he p l) g

theorem HSET_run_new (he : s.entries k = none) (p : Bytes × Bytes)
    (l : List (Bytes × Bytes)) (g : ℕ → Script β) : (HSET k (p :: l) >>= g) s =
      g (hlen (hashOf (p :: l)) - hlen ∅) (s.set k ⟨.hash (hashOf (p :: l)), none⟩) :=
  Script.bind_run (HSET_new he p l) g

/-- `EXPIREAT` of a key that exists, at a second to come that fits. -/
theorem EXPIREAT_run {e : Entry} {n : ℕ} (he : s.entries k = some e) (hn : s.time < n)
    (hb : n * 1000 < 2 ^ 63) (g : ℕ → Script β) :
    (EXPIREAT k (digits n) >>= g) s = g 1 (s.set k { e with expireAt := some n }) := by
  refine Script.bind_run ?_ g
  rw [EXPIREAT, integer?_digits, if_pos (by omega)]
  simp only [he]
  rw [if_neg (by omega), if_neg (by omega), Int.toNat_natCast]

/-! ## What commands leave alone -/

variable {s' : State} {k' : Bytes}

/-- `HSET` leaves the store alone or sets the key. -/
theorem HSET_cases {l : List (Bytes × Bytes)} {r : Except Error ℕ} (hs : HSET k l s = (r, s')) :
    s' = s ∨ ∃ e, s' = s.set k e := by
  match l with
  | [] =>
    cases hs
    exact .inl rfl
  | p :: l =>
    match he : s.entries k with
    | none =>
      cases (HSET_new he p l).symm.trans hs
      exact .inr ⟨_, rfl⟩
    | some ⟨.hash h, x⟩ =>
      cases (HSET_hash he p l).symm.trans hs
      exact .inr ⟨_, rfl⟩
    | some ⟨.other kind, x⟩ =>
      have : hashAt k s = (.error .wrongType, s) := by rw [hashAt, he]
      rw [HSET, if_neg (List.cons_ne_nil _ _), Script.bind_run_error this] at hs
      cases hs
      exact .inl rfl

theorem HSET_frame {l : List (Bytes × Bytes)} {r : Except Error ℕ} (hs : HSET k l s = (r, s'))
    (hk : k' ≠ k) : s'.entries k' = s.entries k' := by
  obtain rfl | ⟨e, rfl⟩ := HSET_cases hs
  · rfl
  · exact set_entries_of_ne s _ hk

theorem hashAt_state : (hashAt k s).2 = s := by
  unfold hashAt
  split <;> rfl

theorem HGET_state {f : Bytes} : (HGET k f s).2 = s := by
  match he : s.entries k with
  | none =>
    have : hashAt k s = (.ok ∅, s) := by rw [hashAt, he]
    rw [HGET, Script.bind_run this]
    rfl
  | some ⟨.hash h, x⟩ =>
    rw [HGET, hashAt_run he]
    rfl
  | some ⟨.other kind, x⟩ =>
    have : hashAt k s = (.error .wrongType, s) := by rw [hashAt, he]
    rw [HGET, Script.bind_run_error this]

theorem TYPE_state : (TYPE k s).2 = s := by
  unfold TYPE
  split <;> rfl

/-- `EXPIREAT` leaves the store alone, deletes the key or sets its expiry. -/
theorem EXPIREAT_cases {n : ℕ} {r : Except Error ℕ} (hs : EXPIREAT k (digits n) s = (r, s')) :
    s' = s ∨ s' = s.del k ∨
      ∃ e, s.entries k = some e ∧ s' = s.set k { e with expireAt := some n } := by
  rw [EXPIREAT, integer?_digits] at hs
  split_ifs at hs with hn
  · match he : s.entries k with
    | none =>
      simp only [he] at hs
      split_ifs at hs <;> exact .inl (congrArg Prod.snd hs).symm
    | some e =>
      simp only [he, Int.toNat_natCast] at hs
      split_ifs at hs
      · exact .inl (congrArg Prod.snd hs).symm
      · exact .inr (.inl (congrArg Prod.snd hs).symm)
      · exact .inr (.inr ⟨e, rfl, (congrArg Prod.snd hs).symm⟩)
  · exact .inl (congrArg Prod.snd hs).symm

theorem EXPIREAT_frame {n : ℕ} {r : Except Error ℕ} (hs : EXPIREAT k (digits n) s = (r, s'))
    (hk : k' ≠ k) : s'.entries k' = s.entries k' := by
  obtain rfl | rfl | ⟨e, -, rfl⟩ := EXPIREAT_cases hs
  · rfl
  · exact del_entries_of_ne s hk
  · exact set_entries_of_ne s _ hk

end Running

/-! ## Clients -/

/-- The replies of scripts. -/
inductive Value where
  | nil
  | int (n : ℤ)
  | bulk (b : Bytes)
  deriving DecidableEq

/-- A result of `HGET` in a table: `false` ends as a nil reply. -/
def Value.ofField : Option Bytes → Value
  | some v => .bulk v
  | none => .nil

/-- Commands of clients; `S` names the scripts. -/
inductive Command (S : Type) where
  | hset (k : Bytes) (fields : List (Bytes × Bytes))
  | expireat (k seconds : Bytes)
  | hgetall (k : Bytes)
  | del (k : Bytes)
  | type (k : Bytes)
  | hget (k f : Bytes)
  | eval (script : S) (keys args : List Bytes)
  deriving DecidableEq

section Client

variable {S : Type}

/-- The reply of a command. -/
abbrev Command.Reply : Command S → Type
  | hset _ _ => ℕ
  | expireat _ _ => ℕ
  | hgetall _ => Hash
  | del _ => ℕ
  | type _ => String
  | hget _ _ => Option Bytes
  | eval _ _ _ => List Value

instance : ∀ c : Command S, DecidableEq c.Reply
  | .hset _ _ => inferInstanceAs (DecidableEq ℕ)
  | .expireat _ _ => inferInstanceAs (DecidableEq ℕ)
  | .hgetall _ => inferInstanceAs (DecidableEq Hash)
  | .del _ => inferInstanceAs (DecidableEq ℕ)
  | .type _ => inferInstanceAs (DecidableEq String)
  | .hget _ _ => inferInstanceAs (DecidableEq (Option Bytes))
  | .eval _ _ _ => inferInstanceAs (DecidableEq (List Value))

/-- Keys and arguments of a script, counted from 1. -/
def args (l : List Bytes) (i : ℕ) : Bytes := l.getD (i - 1) []

variable (source : S → (ℕ → Bytes) → (ℕ → Bytes) → Script (List Value))

/-- **A command** on the store, as its script. -/
def Command.script : (c : Command S) → Script c.Reply
  | hset k fields => HSET k fields
  | expireat k seconds => EXPIREAT k seconds
  | hgetall k => HGETALL k
  | del k => DEL k
  | type k => TYPE k
  | hget k f => HGET k f
  | eval script keys arguments => source script (args keys) (args arguments)

/-! ## Runs of the store -/

/-- What happens to a store: a command with its reply, a tick of its clock, or the physical expiry
of a key. -/
inductive Event (S : Type) where
  | command (c : Command S) (r : Except Error c.Reply)
  | tick (n : ℕ)
  | expire (k : Bytes)

/-- One event. A command that does not reach the store has no effect; a key can be removed from
the second it expires at. -/
inductive Step : State → Event S → State → Prop
  | command {s s' : State} {c : Command S} {r : Except Error c.Reply}
      (h : c.script source s = (r, s')) : Step s (.command c r) s'
  | fail {s : State} (c : Command S) : Step s (.command c (.error .unavailable)) s
  | tick {s : State} (n : ℕ) : Step s (.tick n) { s with time := s.time + n }
  | expire {s : State} {k : Bytes} {e : Entry} {t : ℕ} (h : s.entries k = some e)
      (ht : e.expireAt = some t) (hle : t ≤ s.time) : Step s (.expire k) (s.del k)

/-- Runs of the store, with their events. -/
inductive Run (s : State) : List (Event S) → State → Prop
  | nil : Run s [] s
  | snoc {E : List (Event S)} {t u : State} {e : Event S} (h : Run s E t)
      (hs : Step source t e u) : Run s (E ++ [e]) u

variable {source} {s t u : State} {E E₁ E₂ : List (Event S)} {e : Event S}

theorem Run.append (h₁ : Run source s E₁ t) (h₂ : Run source t E₂ u) :
    Run source s (E₁ ++ E₂) u := by
  induction h₂ with
  | nil => rwa [List.append_nil]
  | snoc _ hs ih =>
    rw [← List.append_assoc]
    exact ih.snoc hs

theorem Run.split (h : Run source s E u) : ∀ {E₁ E₂ : List (Event S)}, E = E₁ ++ E₂ →
    ∃ t, Run source s E₁ t ∧ Run source t E₂ u := by
  induction h with
  | nil =>
    intro E₁ E₂ e
    obtain ⟨rfl, rfl⟩ := List.append_eq_nil_iff.mp e.symm
    exact ⟨s, .nil, .nil⟩
  | @snoc E t u e hr hs ih =>
    intro E₁ E₂ he
    rcases List.eq_nil_or_concat E₂ with rfl | ⟨E₃, e', rfl⟩
    · rw [List.append_nil] at he
      exact ⟨u, he ▸ hr.snoc hs, .nil⟩
    · rw [List.concat_eq_append, ← List.append_assoc] at he
      obtain ⟨he, hl⟩ := List.append_inj' he rfl
      obtain ⟨v, h₁, h₂⟩ := ih he
      obtain rfl : e = e' := by simpa using hl
      exact ⟨v, h₁, by rw [List.concat_eq_append]; exact h₂.snoc hs⟩

theorem Run.single (h : Run source s [e] t) : Step source s e t := by
  generalize he : [e] = E at h
  cases h with
  | nil => exact absurd he (by simp)
  | @snoc E t u e' hr hs =>
    obtain ⟨rfl, hl⟩ := List.append_inj' (show [] ++ [e] = E ++ [e'] from he) rfl
    obtain rfl : e = e' := by simpa using hl
    generalize he : ([] : List (Event S)) = E at hr
    cases hr with
    | nil => exact hs
    | snoc _ _ => exact absurd he (by simp)

/-- A command that replied without an error ran. -/
theorem Step.ok {c : Command S} {v : c.Reply} (h : Step source s (.command c (.ok v)) t) :
    c.script source s = (.ok v, t) := by
  cases h with
  | command h => exact h

/-- A run passes through the two stores around each of its events. -/
theorem Run.split_step (h : Run source s (E₁ ++ e :: E₂) u) :
    ∃ t t', Run source s E₁ t ∧ Step source t e t' ∧ Run source t' E₂ u := by
  obtain ⟨t, h₁, h₂⟩ := h.split rfl
  obtain ⟨t', h₂, h₃⟩ := h₂.split (show e :: E₂ = [e] ++ E₂ from rfl)
  exact ⟨t, t', h₁, h₂.single, h₃⟩

end Client

end Redis
