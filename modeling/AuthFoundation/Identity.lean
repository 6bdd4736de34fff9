import AuthFoundation.Tables

set_option autoImplicit false

/-!
# One internal user per external identity

Calls of `resolveExternalIdentity` race with each other, statement by statement, and any statement
can fail.

* `Database.Consistent`: what holds of the tables while only these calls insert rows.
* `resolveExternalIdentity_holds`: each call keeps the tables consistent, and answers with the
  committed row.
* **`one_user_per_identity`**: one user for each identity, and no user without an identity.
-/

namespace AuthFoundation

open Text Interleave

namespace Database

variable {db db' : Database} {i : ℕ}

/-- The transaction of client `i` inserted one user and its identity, and holds the identity. -/
def Complete (db : Database) (i : ℕ) (tx : Transaction) (key : String × String) (u : Int32) :
    Prop :=
  tx.users = [u] ∧ tx.identities = [(key, u)] ∧ db.externalIdentities key = none ∧
    db.holder key = some i

/-- **The tables**, while only the service inserts rows: each committed user has one identity, and
a transaction that may commit inserted a user with its identity. -/
structure Consistent (db : Database) : Prop where
  fresh : Fresh db
  shape : ∀ i tx, db.transactions i = some tx → (tx.identities = [] ∧ tx.inDoubt = false) ∨
    ∃ key u, Complete db i tx key u
  held : ∀ key i, db.holder key = some i → ∃ tx u, db.transactions i = some tx ∧
    Complete db i tx key u
  identity_user : ∀ key u, db.externalIdentities key = some u → db.internalUsers u ≠ none
  user_identity : ∀ u, db.internalUsers u ≠ none → ∃ key, db.externalIdentities key = some u
  injective : ∀ key key' u, db.externalIdentities key = some u →
    db.externalIdentities key' = some u → key = key'

theorem Consistent.empty (services : String → Option RegisteredService) :
    Consistent (Database.empty services) where
  fresh := .empty services
  shape i tx h := by cases h
  held key i h := by cases h
  identity_user key u h := by cases h
  user_identity u h := absurd rfl h
  injective key key' u h := by cases h

/-- Replacing a transaction that holds no identity. -/
theorem Consistent.setTransaction (h : Consistent db) {tx : Transaction}
    (hf : Fresh (db.setTransaction i (some tx))) (hn : ∀ key, db.holder key ≠ some i)
    (ht : tx.identities = [] ∧ tx.inDoubt = false) :
    Consistent (db.setTransaction i (some tx)) where
  fresh := hf
  shape j t hj := by
    by_cases hji : j = i
    · subst hji
      rw [setTransaction_self] at hj
      cases hj
      exact .inl ht
    · rw [setTransaction_of_ne hji] at hj
      exact h.shape j t hj
  held key j hj := by
    have hji : j ≠ i := fun e => hn key (e ▸ hj)
    obtain ⟨t, u, ht', hc⟩ := h.held key j hj
    exact ⟨t, u, (setTransaction_of_ne hji _).trans ht', hc⟩
  identity_user := h.identity_user
  user_identity := h.user_identity
  injective := h.injective

/-- A client without identities in its transaction holds none. -/
theorem Consistent.holder_ne (h : Consistent db)
    (ht : ∀ tx, db.transactions i = some tx → tx.identities = []) (key : String × String) :
    db.holder key ≠ some i := by
  intro hk
  obtain ⟨tx, u, htx, -, hi, -⟩ := h.held key i hk
  rw [ht tx htx] at hi
  cases hi

theorem holder_close (key : String × String) :
    (db.close i).holder key = if db.holder key = some i then none else db.holder key := rfl

theorem holder_close_eq_some {key : String × String} {j : ℕ} :
    (db.close i).holder key = some j ↔ db.holder key = some j ∧ j ≠ i := by
  rw [holder_close]
  split_ifs with hk
  · rw [hk]
    simp [eq_comm]
  · constructor
    · intro hj
      exact ⟨hj, fun e => hk (e ▸ hj)⟩
    · exact And.left

theorem Consistent.close (h : Consistent db) (i : ℕ) : Consistent (db.close i) where
  fresh := h.fresh.close i
  shape j tx hj := by
    by_cases hji : j = i
    · subst hji
      rw [show (db.close j).transactions j = none from setTransaction_self none] at hj
      cases hj
    · have ht : (db.close i).transactions j = db.transactions j := setTransaction_of_ne hji _
      rw [ht] at hj
      refine (h.shape j tx hj).imp id ?_
      rintro ⟨key, u, hu, hi, he, hh⟩
      exact ⟨key, u, hu, hi, he, holder_close_eq_some.mpr ⟨hh, hji⟩⟩
  held key j hj := by
    obtain ⟨hj, hji⟩ := holder_close_eq_some.mp hj
    obtain ⟨tx, u, ht, hu, hi, he, hh⟩ := h.held key j hj
    exact ⟨tx, u, (setTransaction_of_ne hji _).trans ht, hu, hi, he,
      holder_close_eq_some.mpr ⟨hh, hji⟩⟩
  identity_user := h.identity_user
  user_identity := h.user_identity
  injective := h.injective

/-- What a complete transaction publishes. -/
theorem publish_complete {tx : Transaction} {key key' : String × String} {u : Int32}
    (hc : Complete db i tx key u) : (db.publish tx).externalIdentities key' =
      if key' = key then some u else db.externalIdentities key' := by
  show (tx.identities.lookup key').or _ = _
  rw [hc.2.1, List.lookup_cons]
  by_cases hk : key' = key
  · rw [if_pos hk, hk, beq_self_eq_true]
    rfl
  · rw [if_neg hk, beq_false_of_ne hk]
    rfl

/-- **Committing a complete transaction.** -/
theorem Consistent.finish (h : Consistent db) {tx : Transaction} {key : String × String} {u : Int32}
    (ht : db.transactions i = some tx) (hc : Complete db i tx key u) :
    Consistent (db.finish i tx) := by
  have hf := h.fresh.finish ht
  unfold Database.finish at hf ⊢
  split at hf
  · rw [if_pos ‹_›]
    exact h.close i
  rw [if_neg ‹_›]
  have hnew : db.internalUsers u = none :=
    (h.fresh.pending i u (by rw [pending_of_some ht, hc.1]; exact List.mem_singleton_self u)).2
  have husers : ∀ v, (db.publish tx).internalUsers v =
      if v = u then some true else db.internalUsers v := by
    intro v
    show (if v ∈ tx.users then _ else _) = _
    simp only [hc.1, List.mem_singleton]
  have hother : ∀ {k v}, db.externalIdentities k = some v → v ≠ u := by
    intro k v hk e
    exact h.identity_user k v hk (e ▸ hnew)
  -- the identities of the other transactions are not the one that is committed
  have hcomplete : ∀ {j t k v}, j ≠ i → Complete db j t k v →
      Complete ((db.publish tx).close i) j t k v := by
    intro j t k v hji hj
    have hk : k ≠ key := by
      rintro rfl
      exact hji (Option.some.inj (hj.2.2.2.symm.trans hc.2.2.2))
    refine ⟨hj.1, hj.2.1, ?_, holder_close_eq_some.mpr ⟨hj.2.2.2, hji⟩⟩
    show (db.publish tx).externalIdentities k = none
    rw [publish_complete hc, if_neg hk]
    exact hj.2.2.1
  refine ⟨hf, fun j t hj => ?_, fun k j hj => ?_, fun k v hk => ?_, fun v hv => ?_,
    fun k k' v hk hk' => ?_⟩
  · by_cases hji : j = i
    · subst hji
      have hn : ((db.publish tx).close j).transactions j = none := setTransaction_self none
      rw [hn] at hj
      cases hj
    · have hj' : db.transactions j = some t := (setTransaction_of_ne hji none).symm.trans hj
      refine (h.shape j t hj').imp id ?_
      rintro ⟨k, v, hkv⟩
      exact ⟨k, v, hcomplete hji hkv⟩
  · obtain ⟨hj, hji⟩ := holder_close_eq_some.mp hj
    obtain ⟨t, v, ht', hkv⟩ := h.held k j hj
    exact ⟨t, v, (setTransaction_of_ne hji none).trans ht', hcomplete hji hkv⟩
  · have hk' := (publish_complete hc).symm.trans hk
    show (db.publish tx).internalUsers v ≠ none
    rw [husers]
    split_ifs at hk' ⊢
    · exact Option.some_ne_none _
    · exact Option.some_ne_none _
    · cases hk'
      contradiction
    · exact h.identity_user k v hk'
  · have hv' : (db.publish tx).internalUsers v ≠ none := hv
    rw [husers] at hv'
    by_cases hvu : v = u
    · subst hvu
      exact ⟨key, (publish_complete hc).trans (if_pos rfl)⟩
    · rw [if_neg hvu] at hv'
      obtain ⟨k, hk⟩ := h.user_identity v hv'
      refine ⟨k, (publish_complete hc).trans ?_⟩
      rw [if_neg]
      · exact hk
      · rintro rfl
        cases hk.symm.trans hc.2.2.1
  · have h₁ := (publish_complete hc).symm.trans hk
    have h₂ := (publish_complete hc).symm.trans hk'
    split_ifs at h₁ h₂ with h₃ h₄ h₄
    · rw [h₃, h₄]
    · cases h₁
      exact absurd rfl (hother h₂)
    · cases h₂
      exact absurd rfl (hother h₁)
    · exact h.injective k k' v h₁ h₂

theorem Consistent.move (h : Consistent db) {m : Move} (hm : db.move m = some db') :
    Consistent db' := by
  have hf := h.fresh.move hm
  cases m with
  | cancel i =>
    simp only [Database.move] at hm
    split at hm
    · cases hm
      exact h.close i
    · cases hm
  | resolve i =>
    simp only [Database.move] at hm
    split at hm
    · rename_i tx ht
      split_ifs at hm with hd
      cases hm
      obtain ⟨-, hd'⟩ | ⟨key, u, hc⟩ := h.shape i tx ht
      · rw [hd] at hd'
        cases hd'
      · exact h.finish ht hc
    · cases hm
  | setUserEnabled u isEnabled =>
    simp only [Database.move] at hm
    split at hm
    · rename_i hu
      cases hm
      have hiff : ∀ v, Function.update db.internalUsers u (some isEnabled) v ≠ none ↔
          db.internalUsers v ≠ none := by
        intro v
        by_cases hvu : v = u
        · subst hvu
          simp [hu]
        · rw [Function.update_of_ne hvu]
      exact ⟨hf, h.shape, h.held, fun key v hk => (hiff v).mpr (h.identity_user key v hk),
        fun v hv => h.user_identity v ((hiff v).mp hv), h.injective⟩
    · cases hm
  | setService serviceId row =>
    cases hm
    exact ⟨hf, h.shape, h.held, h.identity_user, h.user_identity, h.injective⟩

/-! ## Statements -/

/-- The statement was answered by `r`, or failed with it. -/
def Answers (db : Database) (i : ℕ) (q : Statement) (r : Except SqlxError q.Rows)
    (db' : Database) : Prop :=
  db.exec i q = some (r, db') ∨ db.execFail i q = (r, db')

theorem Answers.effect {q : Statement} {r : Except SqlxError q.Rows}
    (h : Answers db i q r db') : Effect db i db' := by
  obtain h | h := h
  · exact exec_effect h
  · have he := @execFail_effect db i q
    rw [h] at he
    exact he

/-- A failing statement in a transaction without identities. -/
theorem Consistent.abortStatement (h : Consistent db)
    (ht : ∀ tx, db.transactions i = some tx → tx.identities = [] ∧ tx.inDoubt = false) :
    Consistent (db.abortStatement i) := by
  have hf : Fresh (db.abortStatement i) := h.fresh.effect .abort
  have hn := h.holder_ne fun tx htx => (ht tx htx).1
  unfold Database.abortStatement at hf ⊢
  cases htx : db.transactions i with
  | none => exact h
  | some tx =>
    rw [htx] at hf
    exact h.setTransaction hf hn (ht tx htx)

theorem Consistent.begin (h : Consistent db) {r : Except SqlxError Unit}
    (ha : Answers db i .begin r db') : Consistent db' ∧
      (r = .ok () → db'.transactions i = some ⟨[], [], false, false⟩) := by
  have hf := h.fresh.effect ha.effect
  obtain ha | ha := ha
  · simp only [exec] at ha
    split at ha
    · rename_i ht
      cases ha
      have hn := h.holder_ne (i := i) fun tx htx => by cases ht.symm.trans htx
      exact ⟨h.setTransaction hf hn ⟨rfl, rfl⟩, fun _ => setTransaction_self _⟩
    · cases ha
  · cases ha
    exact ⟨h, fun hr => by cases hr⟩

theorem Consistent.insertInternalUser (h : Consistent db) {r : Except SqlxError Int32}
    (ha : Answers db i .insertInternalUser r db')
    (ht : ∀ tx, db.transactions i = some tx → tx = ⟨[], [], false, false⟩) : Consistent db' ∧
      ∀ u, r = .ok u → db'.transactions i = some ⟨[u], [], false, false⟩ := by
  have hf := h.fresh.effect ha.effect
  obtain ha | ha := ha
  · simp only [exec] at ha
    split at ha
    · rename_i tx u htx hu
      split_ifs at ha
      cases ha
      obtain rfl := ht tx htx
      have hn := h.holder_ne (i := i) fun tx htx => by rw [ht tx htx]
      have h' : Consistent { db with sequence := db.sequence + 1 } :=
        ⟨h.fresh.mono (Nat.le_succ _) (fun _ => id) fun _ => List.Subset.refl _, h.shape, h.held,
          h.identity_user, h.user_identity, h.injective⟩
      refine ⟨h'.setTransaction hf hn ⟨rfl, rfl⟩, fun v hv => ?_⟩
      cases hv
      exact setTransaction_self _
    · cases ha
  · cases ha
    refine ⟨h.abortStatement fun tx htx => ?_, fun u hu => by cases hu⟩
    rw [ht tx htx]
    exact ⟨rfl, rfl⟩

/-- A client takes its identity, or keeps it. -/
theorem Consistent.hold (h : Consistent db) {tx : Transaction} {key : String × String} {u : Int32}
    (hf : Fresh ({ db with holder := Function.update db.holder key (some i) }.setTransaction i
      (some tx))) (hu : tx.users = [u]) (hi : tx.identities = [(key, u)])
    (he : db.externalIdentities key = none) (hk : ∀ j, db.holder key = some j → j = i)
    (hk' : ∀ k, db.holder k = some i → k = key) :
    Consistent ({ db with holder := Function.update db.holder key (some i) }.setTransaction i
      (some tx)) := by
  have hself : Complete ({ db with holder := Function.update db.holder key (some i) }.setTransaction
      i (some tx)) i tx key u := ⟨hu, hi, he, Function.update_self ..⟩
  have hother : ∀ {j t k v}, j ≠ i → Complete db j t k v →
      Complete ({ db with holder := Function.update db.holder key (some i) }.setTransaction
        i (some tx)) j t k v := by
    intro j t k v hji hc
    have hkk : k ≠ key := by
      rintro rfl
      exact hji (hk j hc.2.2.2)
    exact ⟨hc.1, hc.2.1, hc.2.2.1, (Function.update_of_ne hkk ..).trans hc.2.2.2⟩
  refine ⟨hf, fun j t hj => ?_, fun k j hj => ?_, h.identity_user, h.user_identity, h.injective⟩
  · by_cases hji : j = i
    · subst hji
      rw [setTransaction_self] at hj
      cases hj
      exact .inr ⟨key, u, hself⟩
    · rw [setTransaction_of_ne hji] at hj
      refine (h.shape j t hj).imp id ?_
      rintro ⟨k, v, hc⟩
      exact ⟨k, v, hother hji hc⟩
  · replace hj : Function.update db.holder key (some i) k = some j := hj
    by_cases hkk : k = key
    · subst hkk
      rw [Function.update_self] at hj
      cases hj
      exact ⟨tx, u, setTransaction_self _, hself⟩
    · rw [Function.update_of_ne hkk] at hj
      have hji : j ≠ i := fun e => hkk (hk' k (e ▸ hj))
      obtain ⟨t, v, ht, hc⟩ := h.held k j hj
      exact ⟨t, v, (setTransaction_of_ne hji _).trans ht, hother hji hc⟩

/-- The second inserter of an identity fails only when the first has committed. -/
theorem Consistent.insertExternalIdentity (h : Consistent db) {provider subject : String}
    {u : Int32} {r : Except SqlxError Unit}
    (ha : Answers db i (.insertExternalIdentity provider subject u) r db')
    (ht : ∀ tx, db.transactions i = some tx → tx = ⟨[u], [], false, false⟩) : Consistent db' ∧
      (r = .ok () →
        db'.transactions i = some ⟨[u], [((provider, subject), u)], false, false⟩) ∧
      ∀ e, r = .error e → isExternalIdentityUniqueViolation e = true →
        db'.externalIdentities (provider, subject) ≠ none := by
  have hf := h.fresh.effect ha.effect
  have hn := h.holder_ne (i := i) fun tx htx => by rw [ht tx htx]
  have hab : Consistent (db.abortStatement i) :=
    h.abortStatement fun tx htx => by rw [ht tx htx]; exact ⟨rfl, rfl⟩
  obtain ha | ha := ha
  · simp only [exec] at ha
    split at ha
    · rename_i tx htx
      split_ifs at ha with hc he hh
      · cases ha
        refine ⟨hab, fun hr => (by cases hr), fun e _ _ => ?_⟩
        rw [abortStatement_externalIdentities]
        exact he.resolve_right (hn _)
      · cases ha
        obtain rfl := ht tx htx
        simp only [not_or, not_not] at he hh
        refine ⟨h.hold hf rfl rfl he.1 (fun j hj => ?_) fun k hk => absurd hk (hn k),
          fun _ => setTransaction_self _, fun e he => by cases he⟩
        cases hh.symm.trans hj
    · cases ha
  · cases ha
    refine ⟨hab, fun hr => (by cases hr), fun e he hv => ?_⟩
    cases he
    cases hv

theorem Consistent.commit (h : Consistent db) {key : String × String} {u : Int32}
    {r : Except SqlxError Unit} (ha : Answers db i .commit r db')
    (ht : ∀ tx, db.transactions i = some tx → tx = ⟨[u], [(key, u)], false, false⟩) :
    Consistent db' ∧ (r = .ok () → db'.externalIdentities key = some u) := by
  have hf := h.fresh.effect ha.effect
  have hcomplete : ∀ tx, db.transactions i = some tx → Complete db i tx key u := by
    intro tx htx
    obtain ⟨hi, -⟩ | ⟨key', u', hc⟩ := h.shape i tx htx
    · rw [ht tx htx] at hi
      cases hi
    · have hi := hc.2.1
      rw [ht tx htx] at hi
      cases hi
      exact hc
  obtain ha | ha := ha
  · simp only [exec] at ha
    split at ha
    · rename_i tx htx
      split_ifs at ha
      cases ha
      refine ⟨h.finish htx (hcomplete tx htx), fun _ => ?_⟩
      have hna : ¬tx.aborted = true := by rw [ht tx htx]; exact Bool.false_ne_true
      rw [Database.finish, if_neg hna]
      exact (publish_complete (hcomplete tx htx)).trans (if_pos rfl)
    · cases ha
  · cases ha
    refine ⟨?_, fun hr => by cases hr⟩
    cases htx : db.transactions i with
    | none => exact h
    | some tx =>
      simp only [htx] at hf
      have hc := hcomplete tx htx
      have hkeep : ({ db with holder := Function.update db.holder key (some i) } : Database) =
          db := by
        rw [← hc.2.2.2, Function.update_eq_self]
      have hh := @Consistent.hold db i h { tx with inDoubt := true } key u
      rw [hkeep] at hh
      refine hh hf hc.1 hc.2.1 hc.2.2.1 (fun j hj => ?_) fun k hk => ?_
      · exact (Option.some.inj (hc.2.2.2.symm.trans hj)).symm
      · obtain ⟨t, v, ht', -, hi, -⟩ := h.held k i hk
        cases htx.symm.trans ht'
        rw [hc.2.1] at hi
        cases hi
        rfl

theorem Consistent.rollback (h : Consistent db) {r : Except SqlxError Unit}
    (ha : Answers db i .rollback r db') :
    Consistent db' ∧ db'.externalIdentities = db.externalIdentities := by
  obtain ha | ha := ha
  · simp only [exec] at ha
    split at ha
    · split_ifs at ha
      cases ha
      exact ⟨h.close i, rfl⟩
    · cases ha
  · cases ha
    exact ⟨h, rfl⟩

/-- Identities stay, whatever a client does. -/
theorem Consistent.identities_mono (h : Consistent db) (he : Effect db i db')
    {key : String × String} {u : Int32} (hu : db.externalIdentities key = some u) :
    db'.externalIdentities key = some u := by
  cases he with
  | abort => rwa [abortStatement_externalIdentities]
  | @finish tx ht =>
    unfold Database.finish
    split
    · exact hu
    obtain ⟨hi, -⟩ | ⟨key', u', hc⟩ := h.shape i tx ht
    · show (tx.identities.lookup key).or _ = _
      rw [hi]
      exact hu
    · refine (publish_complete hc).trans ?_
      rw [if_neg]
      · exact hu
      · rintro rfl
        cases hu.symm.trans hc.2.2.1
  | _ => exact hu

theorem Effect.transactions (he : Effect db i db') {j : ℕ} (hj : j ≠ i) :
    db'.transactions j = db.transactions j := by
  cases he with
  | same => rfl
  | abort =>
    unfold abortStatement
    split
    · rfl
    · exact setTransaction_of_ne hj _
  | finish =>
    unfold Database.finish
    split <;> exact setTransaction_of_ne hj none
  | _ => exact setTransaction_of_ne hj _

/-- What the others and the surroundings may do: they leave the transaction of a client alone or
end it, and identities stay. -/
def Rely (i : ℕ) (db db' : Database) : Prop :=
  (db'.transactions i = db.transactions i ∨ db'.transactions i = none) ∧
    ∀ key u, db.externalIdentities key = some u → db'.externalIdentities key = some u

/-- What a client does: it changes no other transaction, and identities stay. -/
def Guarantee (i : ℕ) (db db' : Database) : Prop :=
  (∀ j, j ≠ i → db'.transactions j = db.transactions j) ∧
    ∀ key u, db.externalIdentities key = some u → db'.externalIdentities key = some u

theorem Rely.refl : Rely i db db := ⟨.inl rfl, fun _ _ => id⟩

theorem Rely.trans {db'' : Database} (h : Rely i db db') (h' : Rely i db' db'') :
    Rely i db db'' := by
  refine ⟨?_, fun key u hu => h'.2 key u (h.2 key u hu)⟩
  rcases h'.1 with e' | e'
  · rw [e']
    exact h.1
  · exact .inr e'

theorem Rely.tx {tx : Transaction} {P : Transaction → Prop} (h : Rely i db db')
    (hP : ∀ tx, db.transactions i = some tx → P tx) (ht : db'.transactions i = some tx) : P tx := by
  rcases h.1 with e | e
  · exact hP tx (e.symm.trans ht)
  · cases e.symm.trans ht

theorem Consistent.rely_move (h : Consistent db) {m : Move} (hm : db.move m = some db') (i : ℕ) :
    Rely i db db' := by
  have hend : ∀ {j : ℕ} {db' : Database},
      db'.transactions = Function.update db.transactions j none →
      db'.transactions i = db.transactions i ∨ db'.transactions i = none := by
    intro j db' e
    rw [e]
    by_cases hij : i = j
    · subst hij
      exact .inr (Function.update_self ..)
    · exact .inl (Function.update_of_ne hij ..)
  cases m with
  | cancel j =>
    simp only [Database.move] at hm
    split at hm
    · cases hm
      exact ⟨hend rfl, fun _ _ => id⟩
    · cases hm
  | resolve j =>
    simp only [Database.move] at hm
    split at hm
    · rename_i tx ht
      split_ifs at hm
      cases hm
      refine ⟨hend (j := j) ?_, fun key u => h.identities_mono (.finish ht)⟩
      unfold Database.finish
      split <;> rfl
    · cases hm
  | setUserEnabled u isEnabled =>
    simp only [Database.move] at hm
    split at hm
    · cases hm
      exact .refl
    · cases hm
  | setService serviceId row =>
    cases hm
    exact .refl

end Database

/-! ## Calls -/

open Database

/-- A request for the user of an external identity. -/
structure Resolve where
  provider : String
  subject : String
  deriving DecidableEq

abbrev Resolve.run (q : Resolve) : Service (Except PostgresAuthError Int32) :=
  resolveExternalIdentity q.provider q.subject

/-- What a call answers: the user of the committed identity, or an error that is no
inconsistency. -/
def Resolve.Answered (q : Resolve) (result : Except PostgresAuthError Int32) (db : Database) :
    Prop :=
  match result with
  | .ok u => db.externalIdentities (q.provider, q.subject) = some u
  | .error e => e ≠ .identityInconsistent

section Calls

variable [Crates] {i : ℕ} {q : Resolve} {w : World}

/-- A program of client `i` keeps the tables consistent while the others do. -/
abbrev Keeps (i : ℕ) (q : Resolve) (p : Service (Except PostgresAuthError Int32)) (w : World) :
    Prop :=
  Holds machine (fun w => Consistent w.database) (fun w w' => Rely i w.database w'.database)
    (fun w w' => Guarantee i w.database w'.database) i (fun r w => q.Answered r w.database) p w

/-- One statement. -/
theorem keeps_fetch {s : Statement}
    {k : Except SqlxError s.Rows → Service (Except PostgresAuthError Int32)}
    (h : ∀ w' : World, Rely i w.database w'.database → Consistent w'.database → ∀ r db',
      Answers w'.database i s r db' →
        Consistent db' ∧ Keeps i q (k r) { w' with database := db' }) :
    Keeps i q (.op (.sql s) k) w := by
  intro w₁ hr hI a r w₂ he
  have ha : Answers w₁.database i s r w₂.database ∧ w₂ = { w₁ with database := w₂.database } := by
    cases a with
    | ok =>
      obtain ⟨x, hx, e⟩ := Option.map_eq_some_iff.mp he
      cases e
      exact ⟨.inl hx, rfl⟩
    | fail =>
      cases he
      exact ⟨.inr rfl, rfl⟩
    | _ => cases he
  obtain ⟨hI', hk⟩ := h w₁ hr hI r w₂.database ha.1
  rw [← ha.2] at hk
  exact ⟨hI', ⟨fun j hj => ha.1.effect.transactions hj,
    fun key u => hI.identities_mono ha.1.effect⟩, hk⟩

omit [Crates] in
/-- Reading an identity answers its row, with its user. -/
theorem Database.Consistent.selectExternalIdentity {db db' : Database} (h : Consistent db)
    {provider subject : String} {r : Except SqlxError (Option (Int32 × Option Bool))}
    (ha : Answers db i (.selectExternalIdentity provider subject) r db') : db' = db ∧
      (r = .ok none → db.externalIdentities (provider, subject) = none) ∧
      ∀ u e, r = .ok (some (u, e)) → db.externalIdentities (provider, subject) = some u ∧
        e ≠ none := by
  obtain ha | ha := ha
  · cases ha
    refine ⟨rfl, fun hr => ?_, fun u e hr => ?_⟩
    · exact Option.map_eq_none_iff.mp (Except.ok.inj hr)
    · obtain ⟨u', hu, e'⟩ := Option.map_eq_some_iff.mp (Except.ok.inj hr)
      cases e'
      exact ⟨hu, h.identity_user _ _ hu⟩
  · cases ha
    exact ⟨rfl, nofun, nofun⟩

/-- The call that lost the race reads the committed row. -/
theorem keeps_reread {db : Database}
    (hx : db.externalIdentities (q.provider, q.subject) ≠ none) :
    Keeps i q (do
      match ← readExternalIdentityWithUser q.provider q.subject with
      | .error e => return .error e
      | .ok (some (internalUserId, some true)) => return .ok internalUserId
      | .ok (some (_, some false)) => return .error .userDisabled
      | .ok (some (_, none)) => return .error .identityInconsistent
      | .ok none => return .error .identityInconsistent) { w with database := db } := by
  apply keeps_fetch
  intro w₁ hr hI r db' ha
  obtain ⟨rfl, hnone, hsome⟩ := hI.selectExternalIdentity ha
  obtain ⟨u, hu⟩ := Option.ne_none_iff_exists'.mp hx
  have hu' := hr.2 _ _ hu
  refine ⟨hI, ?_⟩
  match r with
  | .error e => exact nofun
  | .ok none => cases (hnone rfl).symm.trans hu'
  | .ok (some (u', none)) => exact absurd rfl (hsome u' none rfl).2
  | .ok (some (u', some true)) => exact (hsome u' _ rfl).1
  | .ok (some (u', some false)) => exact nofun

theorem createExternalIdentity_keeps :
    Keeps i q (createExternalIdentity q.provider q.subject) w := by
  apply keeps_fetch
  intro w₁ _ hI r db₁ ha
  obtain ⟨hI₁, ht₁⟩ := hI.begin ha
  refine ⟨hI₁, ?_⟩
  cases r with
  | error e => exact nofun
  | ok _ =>
  apply keeps_fetch
  intro w₂ hr₂ hI r db₂ ha
  obtain ⟨hI₂, ht₂⟩ := hI.insertInternalUser ha fun tx =>
    hr₂.tx fun tx htx => (Option.some.inj ((ht₁ rfl).symm.trans htx)).symm
  refine ⟨hI₂, ?_⟩
  cases r with
  | error e =>
    apply keeps_fetch
    intro w₃ _ hI r db₃ ha
    exact ⟨(hI.rollback ha).1, nofun⟩
  | ok u =>
  apply keeps_fetch
  intro w₃ hr₃ hI r db₃ ha
  obtain ⟨hI₃, ht₃, hx₃⟩ := hI.insertExternalIdentity ha fun tx =>
    hr₃.tx fun tx htx => (Option.some.inj ((ht₂ u rfl).symm.trans htx)).symm
  refine ⟨hI₃, ?_⟩
  cases r with
  | ok _ =>
    apply keeps_fetch
    intro w₄ hr₄ hI r db₄ ha
    obtain ⟨hI₄, hx₄⟩ := hI.commit ha fun tx =>
      hr₄.tx fun tx htx => (Option.some.inj ((ht₃ rfl).symm.trans htx)).symm
    refine ⟨hI₄, ?_⟩
    cases r with
    | error e => exact nofun
    | ok _ => exact hx₄ rfl
  | error e =>
    apply keeps_fetch
    intro w₄ hr₄ hI r db₄ ha
    obtain ⟨hI₄, hx₄⟩ := hI.rollback ha
    refine ⟨hI₄, ?_⟩
    cases r with
    | error e => exact nofun
    | ok _ =>
      -- only the loser of a race is told of a unique violation
      show Keeps i q (if !isExternalIdentityUniqueViolation e then _ else _) _
      split_ifs with hv
      · exact nofun
      · refine keeps_reread ?_
        rw [hx₄]
        obtain ⟨v, hu⟩ := Option.ne_none_iff_exists'.mp (hx₃ e rfl (by simpa using hv))
        exact Option.ne_none_iff_exists'.mpr ⟨v, hr₄.2 _ _ hu⟩

theorem resolveExternalIdentity_keeps : Keeps i q q.run w := by
  apply keeps_fetch
  intro w₁ _ hI r db' ha
  obtain ⟨rfl, -, hsome⟩ := hI.selectExternalIdentity ha
  refine ⟨hI, ?_⟩
  match r with
  | .error e => exact nofun
  | .ok none => exact createExternalIdentity_keeps
  | .ok (some (u', none)) => exact absurd rfl (hsome u' none rfl).2
  | .ok (some (u', some true)) => exact (hsome u' _ rfl).1
  | .ok (some (u', some false)) => exact nofun

end Calls

/-! ## Runs -/

section Runs

variable [Crates]

abbrev ResolvePool := Pool World Reply fun _ : Resolve => Except PostgresAuthError Int32

/-- **Interleaved calls** on tables without users. -/
abbrev ResolveRun (services : String → Option RegisteredService) :
    List (Label Reply Move Resolve) → ResolvePool → Prop :=
  Interleave.Run machine Resolve.run (Pool.init (World.empty services))

variable {services : String → Option RegisteredService} {tr : List (Label Reply Move Resolve)}
  {s : ResolvePool}

theorem ResolveRun.consistent (h : ResolveRun services tr s) : Consistent s.world.database ∧
    ∀ i q r, s.threads i = some ⟨q, .done r⟩ → q.Answered r s.world.database := by
  have hk := Run.holds (I := fun w : World => Consistent w.database)
    (R := fun i w w' => Rely i w.database w'.database)
    (G := fun i w w' => Guarantee i w.database w'.database)
    (Q := fun _ q r w => q.Answered r w.database) (fun _ _ _ _ => Rely.trans) ?_ ?_ ?_
    (fun i q w _ => resolveExternalIdentity_keeps) (fun _ _ => Rely.refl) (.empty services) h
  · exact ⟨hk.1, fun i q r hi => hk.2 i q _ hi⟩
  · intro i q r w w' ha hr
    cases r with
    | ok u => exact hr.2 _ _ ha
    | error e => exact ha
  · intro i j hij w w' hg
    exact ⟨.inl (hg.1 j hij.symm), hg.2⟩
  · intro w e w' hI he
    cases e with
    | tick n =>
      cases he
      exact ⟨hI, fun _ => .refl⟩
    | expire k =>
      have hw : w'.database = w.database := by
        simp only [machine, World.move] at he
        split at he
        · split_ifs at he
          cases he
          rfl
        · cases he
      exact ⟨hw ▸ hI, fun _ => hw ▸ .refl⟩
    | database m =>
      obtain ⟨db', hm, rfl⟩ := Option.map_eq_some_iff.mp he
      exact ⟨hI.move hm, hI.rely_move hm⟩

/-- **One user for each identity.** Calls for one identity that succeed answer with one user, calls
for two identities with two; a committed user has exactly one identity; and no call finds an
identity without its user. -/
theorem one_user_per_identity (h : ResolveRun services tr s) :
    (∀ i j q u u', s.threads i = some ⟨q, .done (.ok u)⟩ → s.threads j = some ⟨q, .done (.ok u')⟩ →
      u = u') ∧
    (∀ i j q q' u u', s.threads i = some ⟨q, .done (.ok u)⟩ →
      s.threads j = some ⟨q', .done (.ok u')⟩ → q ≠ q' → u ≠ u') ∧
    (∀ u, s.world.database.internalUsers u ≠ none →
      ∃! key, s.world.database.externalIdentities key = some u) ∧
    ∀ i q, s.threads i ≠ some ⟨q, .done (.error .identityInconsistent)⟩ := by
  obtain ⟨hI, hd⟩ := h.consistent
  refine ⟨fun i j q u u' hi hj => ?_, fun i j q q' u u' hi hj hne => ?_, fun u hu => ?_,
    fun i q hi => ?_⟩
  · exact Option.some.inj ((hd i q _ hi).symm.trans (hd j q _ hj))
  · rintro rfl
    have hkey := hI.injective _ _ u (hd i q _ hi) (hd j q' _ hj)
    obtain ⟨hp, hs⟩ := Prod.ext_iff.mp hkey
    exact hne (by cases q; cases q'; exact congrArg₂ Resolve.mk hp hs)
  · obtain ⟨key, hk⟩ := hI.user_identity u hu
    exact ⟨key, hk, fun key' hk' => hI.injective key' key u hk' hk⟩
  · exact hd i q _ hi rfl

/-- Two calls race for one identity, and a third asks for another. -/
def resolveChoices : List (Choice Answer Move Resolve) :=
  [.start 0 ⟨"google", "a"⟩, .start 1 ⟨"google", "a"⟩, .step 0 .ok, .step 1 .ok, .step 0 .ok,
    .step 0 .ok, .step 1 .ok, .step 1 .ok, .step 0 .ok, .start 2 ⟨"google", "b"⟩, .step 0 .ok,
    .step 1 .ok, .step 1 .ok, .step 1 .ok, .step 2 .ok, .step 2 .ok, .step 2 .ok, .step 2 .ok,
    .step 2 .ok]

omit [Crates] in
theorem one_user_per_identity_sample : letI := Crates.sample
    ∃ tr s, ResolveRun (fun _ => none) tr s ∧
    (∀ i u, s.threads i = some ⟨⟨"google", "a"⟩, .done (.ok u)⟩ → u = 1) ∧
    (∀ i u, s.threads i = some ⟨⟨"google", "b"⟩, .done (.ok u)⟩ → u = 3) ∧
    s.result 1 ⟨"google", "a"⟩ = some (.ok 1) := by
  let _ := Crates.sample
  obtain ⟨tr, s, h, h₀, h₁, h₂⟩ := exists_run_of_play machine Resolve.run
    (Pool.init (World.empty fun _ => none)) resolveChoices (fun x =>
      x.2.result 0 ⟨"google", "a"⟩ = some (.ok 1) ∧ x.2.result 1 ⟨"google", "a"⟩ = some (.ok 1) ∧
      x.2.result 2 ⟨"google", "b"⟩ = some (.ok 3)) (by decide +kernel)
  obtain ⟨hsame, -⟩ := one_user_per_identity h
  exact ⟨tr, s, h, fun i u hi => hsame i 0 _ _ _ hi (Pool.threads_of_result h₀),
    fun i u hi => hsame i 2 _ _ _ hi (Pool.threads_of_result h₂), h₁⟩

end Runs

end AuthFoundation
