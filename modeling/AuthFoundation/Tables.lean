import AuthFoundation.Postgres

set_option autoImplicit false

/-!
# What happens to the tables

* `Database.Effect`: what a statement of a client does to the database (`exec_effect`,
  `execFail_effect`).
* `Database.Fresh`: identity values are never used twice, whatever the clients do
  (`Fresh.effect`, `Fresh.move`).
-/

namespace AuthFoundation

open Text Interleave

namespace Database

variable {db db' : Database} {i : ℕ}

/-- **What a statement of client `i` does.** -/
inductive Effect (db : Database) (i : ℕ) : Database → Prop
  | same : Effect db i db
  | begin (ht : db.transactions i = none) :
      Effect db i (db.setTransaction i (some ⟨[], [], false, false⟩))
  | user {tx : Transaction} {u : Int32} (ht : db.transactions i = some tx)
      (hd : tx.inDoubt = false) (hn : db.nextIdentity = some u) (hu : db.internalUsers u = none) :
      Effect db i ({ db with sequence := db.sequence + 1 }.setTransaction i
        (some { tx with users := u :: tx.users }))
  | identity {tx : Transaction} {key : String × String} {u : Int32}
      (ht : db.transactions i = some tx) (hd : tx.inDoubt = false)
      (he : db.externalIdentities key = none) (hh : db.holder key = none) :
      Effect db i ({ db with holder := Function.update db.holder key (some i) }.setTransaction i
        (some { tx with identities := (key, u) :: tx.identities }))
  | abort : Effect db i (db.abortStatement i)
  | doubt {tx : Transaction} (ht : db.transactions i = some tx) :
      Effect db i (db.setTransaction i (some { tx with inDoubt := true }))
  | finish {tx : Transaction} (ht : db.transactions i = some tx) : Effect db i (db.finish i tx)
  | close : Effect db i (db.close i)

theorem exec_effect {q : Statement} {r : Except SqlxError q.Rows}
    (h : db.exec i q = some (r, db')) : Effect db i db' := by
  cases q with
  | begin =>
    simp only [exec] at h
    split at h
    · cases h
      exact .begin ‹_›
    · cases h
  | insertInternalUser =>
    simp only [exec] at h
    split at h
    · rename_i tx u ht hn
      split_ifs at h with hc
      cases h
      simp only [not_or, not_not, Bool.not_eq_true] at hc
      exact .user ht hc.2.1 hn hc.2.2
    · cases h
  | insertExternalIdentity provider subject u =>
    simp only [exec] at h
    split at h
    · rename_i tx ht
      split_ifs at h with hc he hh
      · cases h
        exact .abort
      · cases h
        simp only [not_or, not_not, Bool.not_eq_true] at hc he hh
        exact .identity ht hc.2.1 he.1 hh
    · cases h
  | commit =>
    simp only [exec] at h
    split at h
    · rename_i tx ht
      split_ifs at h
      cases h
      exact .finish ht
    · cases h
  | rollback =>
    simp only [exec] at h
    split at h
    · split_ifs at h
      cases h
      exact .close
    · cases h
  | _ =>
    cases h
    exact .same

theorem execFail_effect (q : Statement) : Effect db i (db.execFail i q).2 := by
  cases q with
  | commit =>
    simp only [execFail]
    split
    · exact .doubt ‹_›
    · exact .same
  | insertInternalUser => exact .abort
  | insertExternalIdentity => exact .abort
  | _ => exact .same

theorem abortStatement_externalIdentities :
    (db.abortStatement i).externalIdentities = db.externalIdentities := by
  unfold abortStatement
  split <;> rfl

/-! ## Identity values -/

/-- The users a client inserted and did not commit. -/
def pending (db : Database) (i : ℕ) : List Int32 :=
  match db.transactions i with
  | none => []
  | some tx => tx.users

/-- **Identity values are fresh**: no value beyond the sequence is in use, and none is used by two
clients. -/
structure Fresh (db : Database) : Prop where
  committed : ∀ u, db.internalUsers u ≠ none → u.toInt ≤ db.sequence
  pending : ∀ i, ∀ u ∈ db.pending i, u.toInt ≤ db.sequence ∧ db.internalUsers u = none
  distinct : ∀ i j, ∀ u ∈ db.pending i, u ∈ db.pending j → i = j

theorem Fresh.empty (services : String → Option RegisteredService) :
    Fresh (Database.empty services) where
  committed u h := absurd rfl h
  pending i u h := by cases h
  distinct i j u h := by cases h

theorem pending_of_some {tx : Transaction} (ht : db.transactions i = some tx) :
    db.pending i = tx.users := by
  rw [Database.pending, ht]

@[simp] theorem setTransaction_self (tx : Option Transaction) :
    (db.setTransaction i tx).transactions i = tx := Function.update_self ..

theorem setTransaction_of_ne {j : ℕ} (hj : j ≠ i) (tx : Option Transaction) :
    (db.setTransaction i tx).transactions j = db.transactions j := Function.update_of_ne hj ..

theorem pending_setTransaction (tx : Option Transaction) (j : ℕ) :
    (db.setTransaction i tx).pending j =
      if j = i then (match tx with | none => [] | some tx => tx.users) else db.pending j := by
  unfold Database.pending
  by_cases hj : j = i
  · subst hj
    rw [if_pos rfl, setTransaction_self]
  · rw [if_neg hj, setTransaction_of_ne hj]

theorem pending_close (j : ℕ) : (db.close i).pending j = if j = i then [] else db.pending j :=
  pending_setTransaction none j

theorem Fresh.mono (h : Fresh db) (hs : db.sequence ≤ db'.sequence)
    (hu : ∀ u, db'.internalUsers u ≠ none → db.internalUsers u ≠ none)
    (hp : ∀ j, db'.pending j ⊆ db.pending j) : Fresh db' where
  committed u hn := (h.committed u (hu u hn)).trans (Int.ofNat_le.mpr hs)
  pending j u hj := by
    obtain ⟨hle, hn⟩ := h.pending j u (hp j hj)
    exact ⟨hle.trans (Int.ofNat_le.mpr hs), by_contra fun hc => hu u hc hn⟩
  distinct j k u hj hk := h.distinct j k u (hp j hj) (hp k hk)

/-- Replacing a transaction by one without further users. -/
theorem Fresh.setTransaction (h : Fresh db) {tx : Option Transaction}
    (hu : ∀ t, tx = some t → t.users ⊆ db.pending i) : Fresh (db.setTransaction i tx) := by
  refine h.mono le_rfl (fun _ => id) fun j => ?_
  rw [pending_setTransaction]
  split
  · rename_i hj
    subst hj
    cases tx with
    | none => exact List.nil_subset _
    | some t => exact hu t rfl
  · exact List.Subset.refl _

theorem Fresh.close (h : Fresh db) (i : ℕ) : Fresh (db.close i) :=
  (@Fresh.setTransaction _ i h none nofun).mono le_rfl (fun _ => id) fun _ => List.Subset.refl _

theorem Fresh.finish (h : Fresh db) {tx : Transaction} (ht : db.transactions i = some tx) :
    Fresh (db.finish i tx) := by
  unfold Database.finish
  split
  · exact h.close i
  have hp := pending_of_some ht
  refine ⟨fun u hn => ?_, fun j u hj => ?_, fun j k u hj hk => ?_⟩
  · by_cases hu : u ∈ tx.users
    · exact (h.pending i u (hp ▸ hu)).1
    · exact h.committed u fun hc => hn ((if_neg hu).trans hc)
  · rw [pending_close] at hj
    split at hj
    · cases hj
    · rename_i hji
      obtain ⟨hle, hn⟩ := h.pending j u hj
      have hu : u ∉ tx.users := fun hu => hji (h.distinct j i u hj (hp ▸ hu))
      exact ⟨hle, (if_neg hu).trans hn⟩
  · rw [pending_close] at hj hk
    split at hj
    · cases hj
    · split at hk
      · cases hk
      · exact h.distinct j k u hj hk

theorem toInt_of_nextIdentity {u : Int32} (h : db.nextIdentity = some u) :
    u.toInt = db.sequence + 1 := by
  unfold nextIdentity at h
  split_ifs at h with hlt
  cases h
  exact Int32.toInt_ofInt_of_le (by omega) (by omega)

/-- The next identity value is in no use. -/
theorem Fresh.user (h : Fresh db) {tx : Transaction} {u : Int32}
    (ht : db.transactions i = some tx) (hn : db.nextIdentity = some u) :
    Fresh ({ db with sequence := db.sequence + 1 }.setTransaction i
      (some { tx with users := u :: tx.users })) := by
  have hu := toInt_of_nextIdentity hn
  have hnew : ∀ j, u ∉ db.pending j := fun j hj => by
    have hle := (h.pending j u hj).1
    omega
  have hp : ∀ j v, v ∈ Database.pending ({ db with sequence := db.sequence + 1 }.setTransaction i
      (some { tx with users := u :: tx.users })) j → (v = u ∧ j = i) ∨ v ∈ db.pending j := by
    intro j v hv
    rw [pending_setTransaction] at hv
    split at hv
    · rename_i hj
      subst hj
      rcases List.mem_cons.mp hv with rfl | hv
      · exact .inl ⟨rfl, rfl⟩
      · exact .inr (pending_of_some ht ▸ hv)
    · exact .inr hv
  refine ⟨fun v hv => ?_, fun j v hv => ?_, fun j k v hj hk => ?_⟩
  · have hle := h.committed v hv
    show v.toInt ≤ ((db.sequence + 1 : ℕ) : ℤ)
    omega
  · show v.toInt ≤ ((db.sequence + 1 : ℕ) : ℤ) ∧ db.internalUsers v = none
    rcases hp j v hv with ⟨rfl, rfl⟩ | hv
    · refine ⟨by omega, by_contra fun hc => ?_⟩
      have hle := h.committed v hc
      omega
    · obtain ⟨hle, hn⟩ := h.pending j v hv
      exact ⟨by omega, hn⟩
  · rcases hp j v hj with ⟨rfl, rfl⟩ | hj'
    · rcases hp k v hk with ⟨-, rfl⟩ | hk'
      · rfl
      · exact absurd hk' (hnew k)
    · rcases hp k v hk with ⟨rfl, rfl⟩ | hk'
      · exact absurd hj' (hnew j)
      · exact h.distinct j k v hj' hk'

theorem Fresh.effect (h : Fresh db) (he : Effect db i db') : Fresh db' := by
  have hkeep : ∀ {tx : Transaction} (t : Transaction), db.transactions i = some tx →
      t.users = tx.users →
      Fresh (db.setTransaction i (some t)) := by
    intro tx t ht hu
    refine h.setTransaction fun t' e => ?_
    cases e
    rw [pending_of_some ht, hu]
    exact List.Subset.refl _
  cases he with
  | same => exact h
  | begin => exact h.setTransaction fun t e => by cases e; exact List.nil_subset _
  | user ht _ hn _ => exact h.user ht hn
  | @identity tx key u ht =>
    exact (hkeep { tx with identities := (key, u) :: tx.identities } ht rfl).mono le_rfl
      (fun _ => id) fun _ => List.Subset.refl _
  | abort =>
    unfold abortStatement
    split
    · exact h
    · rename_i tx ht
      exact hkeep _ ht rfl
  | doubt ht => exact hkeep _ ht rfl
  | finish ht => exact h.finish ht
  | close => exact h.close i

theorem Fresh.move (h : Fresh db) {m : Move} (hm : db.move m = some db') : Fresh db' := by
  cases m with
  | cancel i =>
    simp only [Database.move] at hm
    split at hm
    · cases hm
      exact h.close i
    · cases hm
  | resolve i =>
    simp only [Database.move] at hm
    split at hm
    · rename_i tx ht
      split_ifs at hm
      cases hm
      exact h.finish ht
    · cases hm
  | setUserEnabled u isEnabled =>
    simp only [Database.move] at hm
    split at hm
    · rename_i hu
      cases hm
      refine h.mono le_rfl (fun v hv => ?_) fun _ => List.Subset.refl _
      by_cases hvu : v = u
      · subst hvu
        rw [hu]
        exact Option.some_ne_none _
      · simpa [Function.update_of_ne hvu] using hv
    · cases hm
  | setService serviceId row =>
    cases hm
    exact h.mono le_rfl (fun _ => id) fun _ => List.Subset.refl _

end Database

end AuthFoundation
