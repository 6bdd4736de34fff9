import AuthFoundation.VaultRun

set_option autoImplicit false

/-!
# The lifetime of records

Redis holds records of four kinds, and every request may change them.

* `RecordKind.mark`, `RecordKind.ledger`: how a record of a kind changes when it is used.
* `RecordKind.recordIn`, `recordOf_phase`: what is stored in each phase of a record.
* `ServiceRun.phases`: the phases of a key in two states of a run.
* **`record_lifetime`**: records are created once, used once, and stay until they expire.
-/

namespace AuthFoundation

open Text Redis Token Interleave

/-! ## Kinds -/

namespace RecordKind

/-- The record after its use. -/
def mark : (f : RecordKind) → f.Record → f.Record
  | external, tx => { tx with status := .processing }
  | session, state => state
  | handoff, record => { record with status := .used }
  | logout, tx => { tx with status := .used }

/-- The commands of a kind. -/
def ledger : (f : RecordKind) → Family f.Record
  | external => externals
  | session => sessions
  | handoff => handoffs
  | logout => logouts

/-- The record in a phase. -/
def recordIn (f : RecordKind) : Phase f.Record → Option f.Record
  | .live a => some a
  | .used a => some (f.mark a)
  | _ => none

variable {f : RecordKind} {a b : f.Record} {l : String} {s : State} {p : Phase f.Record}

theorem ledger_sound : f.ledger.Sound (f.key l) := by
  cases f with
  | external => exact externals_sound family_external
  | session => exact sessions_sound family_session
  | handoff => exact handoffs_sound family_handoff
  | logout => exact logouts_sound family_logout

@[simp] theorem ledger_encode : f.ledger.encode = f.encode := by cases f <;> rfl

@[simp] theorem ledger_mark : f.ledger.mark = f.mark := by cases f <;> rfl

/-- The lookup of a record is one of its fields. -/
theorem named_of_hash (h : recordHash (f.encode b) = recordHash (f.encode a))
    (ha : f.named a = true) : f.named b = true := by
  have hlookup : ∀ name, (f.encode b).lookup name = (f.encode a).lookup name := by
    intro name
    have hx := (lookup_recordHash (f.encode_nodup b) name).symm.trans
      ((congrArg (hget · name) h).trans (lookup_recordHash (f.encode_nodup a) name))
    exact Option.map_injective utf8_injective hx
  cases f with
  | external => rfl
  | session => rfl
  | handoff =>
    have hc : b.commonSessionLookup = a.commonSessionLookup :=
      Option.some.inj (hlookup "common_session_lookup")
    rw [named, hc]
    exact ha
  | logout =>
    have hc : b.csrfLookup = a.csrfLookup := Option.some.inj (hlookup "csrf_lookup")
    rw [named, hc]
    exact ha

/-- **Different records are stored differently.** -/
theorem encode_inj (h : recordHash (f.encode b) = recordHash (f.encode a))
    (ha : f.named a = true) : b = a := by
  obtain ⟨fields, hf, -⟩ := ofHash?_recordHash (f.encode_nodup a)
  have hda := decode_record (f.encode_nodup a) (fun _ => f.decode_encode ha) hf
  rw [← h] at hf
  have hdb := decode_record (f.encode_nodup b)
    (fun _ => f.decode_encode (named_of_hash h ha)) hf
  exact Except.ok.inj (hdb.symm.trans hda)

end RecordKind

section Phases

variable {f : RecordKind} {l : String} {s : State} {p p' : Phase f.Record} {a b : f.Record}

/-- **What is stored in each phase.** -/
theorem recordOf_phase (hp : f.ledger.Holds (f.key l) s p) (hs : Slot s f l) :
    recordOf s f l = f.recordIn p := by
  have hstored : ∀ {c : f.Record} {x : Option ℕ},
      s.entries (f.key l) = some ⟨.hash (recordHash (f.encode c)), x⟩ →
        recordOf s f l = some c := by
    intro c x he
    obtain ⟨hn, -⟩ | ⟨a, y, ha, hacc, hr⟩ := hs.recordOf_eq
    · cases he.symm.trans hn
    · have hobject := (Entry.mk.inj (Option.some.inj (he.symm.trans ha))).1
      rw [RecordKind.encode_inj (Object.hash.inj hobject) hacc.named]
      exact hr
  cases p with
  | unborn => exact recordOf_none hp
  | gone => exact recordOf_none hp
  | live a =>
    obtain ⟨x, he, -⟩ := hp
    rw [RecordKind.ledger_encode] at he
    exact hstored he
  | used a =>
    obtain ⟨x, he, -⟩ := hp
    rw [RecordKind.ledger_encode, RecordKind.ledger_mark] at he
    exact hstored he

/-- A stored record is the same later, or used. -/
theorem recordIn_reaches (hr : Reaches p p') (ha : f.recordIn p = some a)
    (hb : f.recordIn p' = some b) : b = a ∨ b = f.mark a := by
  cases p with
  | live c =>
    obtain rfl := Option.some.inj ha
    obtain rfl | rfl | rfl := reaches_live hr
    · exact .inl (Option.some.inj hb).symm
    · exact .inr (Option.some.inj hb).symm
    · cases hb
  | used c =>
    obtain rfl := Option.some.inj ha
    obtain rfl | rfl := reaches_used hr
    · exact .inl (Option.some.inj hb).symm
    · cases hb
  | _ => cases ha

/-- A record that is gone never comes back. -/
theorem recordIn_gone {q : Phase f.Record} (hr : Reaches p p') (hr' : Reaches p' q)
    (ha : f.recordIn p = some a) (hn : f.recordIn p' = none) : f.recordIn q = none := by
  have hgone : p' = .gone := by
    cases p with
    | live c =>
      obtain rfl | rfl | rfl := reaches_live hr
      · cases hn
      · cases hn
      · rfl
    | used c =>
      obtain rfl | rfl := reaches_used hr
      · cases hn
      · rfl
    | _ => cases ha
  subst hgone
  rw [reaches_gone hr']
  rfl

end Phases

/-! ## Runs -/

section Service

variable [Crates] {googleConfig : GoogleAuthorizationConfig} {w : World}
  {services : String → Option RegisteredService} {tr tr₁ tr₂ : List ServiceLabel}
  {s t : ServicePool} {f : RecordKind} {l : String} {a : f.Record} {p : Phase f.Record}

/-- Each key of a kind is disciplined. -/
theorem ServiceRun.ledger (h : ServiceRun googleConfig w tr s) (hfresh : FreshReferences tr)
    (f : RecordKind) (l : String) : f.ledger.Disciplined (f.key l) (events tr) := by
  cases f with
  | external => exact h.externals hfresh
  | session => exact h.sessions hfresh
  | handoff => exact h.handoffs hfresh
  | logout => exact h.logouts hfresh

/-- **The phases of a key**, now and later. -/
theorem ServiceRun.phases (h₁ : ServiceRun googleConfig (World.empty services) tr₁ t)
    (h₂ : Interleave.Run machine (Request.run googleConfig) t tr₂ s)
    (hfresh : FreshReferences (tr₁ ++ tr₂))
    (hp : f.ledger.Knows (f.key l) (events tr₁) t.world.redis p) :
    ∃ p', Reaches p p' ∧ f.ledger.Knows (f.key l) (events (tr₁ ++ tr₂)) s.world.redis p' := by
  have hd := ServiceRun.ledger (h₁.append h₂) hfresh f l
  rw [events_append] at hd ⊢
  exact RecordKind.ledger_sound.run (Run.redis h₂) hd hp

/-- External transactions and logout transactions are written once. -/
theorem ServiceRun.not_displaced (h : ServiceRun googleConfig (World.empty services) (tr₁ ++ tr₂) s)
    (hfresh : FreshReferences (tr₁ ++ tr₂)) (hf : f ≠ .session)
    (ha : ∃ e ∈ events tr₁, f.ledger.Attempt (f.key l) e) :
    ∀ e ∈ events tr₂, ¬Vault.Displaces f l e := by
  rintro e he ⟨x, r, rfl, hx⟩
  obtain ⟨e₀, he₀, hatt⟩ := ha
  have hd := h.ledger hfresh f l
  obtain ⟨E₁, E₂, hE⟩ := List.append_of_mem he₀
  obtain ⟨E₃, E₄, hE'⟩ := List.append_of_mem he
  rw [events_append, hE, hE'] at hd
  refine hd.once E₁ e₀ (E₂ ++ E₃) (.command x.command r) E₄ (by simp) hatt ?_
  generalize x.reads r = result at hx
  cases x with
  | writeExternal m tx =>
    cases result with
    | ok =>
      obtain ⟨rfl, rfl⟩ := hx
      exact ⟨.writeExternal m tx, r, tx, rfl, rfl⟩
    | error => cases hx
  | writeLogout m tx =>
    cases result with
    | ok =>
      obtain ⟨rfl, rfl⟩ := hx
      exact ⟨.writeLogout m tx, r, tx, rfl, rfl⟩
    | error => cases hx
  | _ => cases result <;> first | exact hx.elim | exact absurd hx.1 hf

/-- **The lifetime of a record.** Once stored, a record of any kind is never changed except by its
one use. It stays stored until Redis reaches its expiry; only sessions go earlier, when they are
deleted or logged out. Once gone, it never comes back. -/
theorem record_lifetime (h₁ : ServiceRun googleConfig (World.empty services) tr₁ t)
    (h₂ : Interleave.Run machine (Request.run googleConfig) t tr₂ s)
    (hfresh : FreshReferences (tr₁ ++ tr₂)) (hb : ClocksBounded (tr₁ ++ tr₂))
    (ha : recordOf t.world.redis f l = some a) :
    (∀ b, recordOf s.world.redis f l = some b → b = a ∨ b = f.mark a) ∧
    (recordOf s.world.redis f l = none → (f.expiresAt a).toNat ≤ s.world.redis.time ∨
      f = .session ∧ ∃ e ∈ events tr₂, Vault.Displaces .session l e) ∧
    ∀ tr₃ tr₄ v, tr₂ = tr₃ ++ tr₄ → Interleave.Run machine (Request.run googleConfig) t tr₃ v →
      Interleave.Run machine (Request.run googleConfig) v tr₄ s →
      recordOf v.world.redis f l = none → recordOf s.world.redis f l = none := by
  have hslot := h₁.slot hfresh.prefix hb.prefix f l
  have hslot' := ServiceRun.slot (h₁.append h₂) hfresh hb f l
  obtain ⟨p, hp⟩ := h₁.knows RecordKind.ledger_sound (h₁.ledger hfresh.prefix f l)
  have hpa := (recordOf_phase hp.1 hslot).symm.trans ha
  refine ⟨fun b hb' => ?_, fun hn => ?_, fun tr₃ tr₄ v e h₃ h₄ hn => ?_⟩
  · obtain ⟨p', hr, hp'⟩ := ServiceRun.phases h₁ h₂ hfresh hp
    exact recordIn_reaches hr hpa ((recordOf_phase hp'.1 hslot').symm.trans hb')
  · by_cases hd : ∀ e ∈ events tr₂, ¬Vault.Displaces f l e
    · have hrun := ServiceRun.vault_run h₁ h₂ hfresh hb
      obtain ⟨b, hb', -⟩ | hx := hrun.stays hd (.inl ⟨a, ha, rfl⟩)
      · cases hn.symm.trans hb'
      · exact .inl hx
    · by_cases hf : f = .session
      · subst hf
        simp only [not_forall, not_not] at hd
        obtain ⟨e, he, hx⟩ := hd
        exact .inr ⟨rfl, e, he, hx⟩
      · refine absurd (ServiceRun.not_displaced (h₁.append h₂) hfresh hf (hp.attempt ?_)) hd
        rintro rfl
        cases hpa
  · subst e
    rw [← List.append_assoc] at hfresh hb
    obtain ⟨p', hr, hp'⟩ := ServiceRun.phases h₁ h₃ hfresh.prefix hp
    obtain ⟨q, hr', hq⟩ := ServiceRun.phases (h₁.append h₃) h₄ hfresh hp'
    have hslot₃ := ServiceRun.slot (h₁.append h₃) hfresh.prefix hb.prefix f l
    rw [recordOf_phase hq.1 hslot']
    exact recordIn_gone hr hr' hpa ((recordOf_phase hp'.1 hslot₃).symm.trans hn)

omit [Crates] in
/-- A handoff before and after its exchange. -/
theorem record_lifetime_sample : letI := Crates.service
    ∃ tr₁ t tr₂ s, ServiceRun ⟨"", ""⟩ (World.empty sampleServices) tr₁ t ∧
      Interleave.Run machine (Request.run ⟨"", ""⟩) t tr₂ s ∧
      ∃ a, recordOf t.world.redis .handoff (referenceValueLookup (referenceValue (bytes32 4))) =
          some a ∧
        recordOf s.world.redis .handoff (referenceValueLookup (referenceValue (bytes32 4))) =
          some (RecordKind.handoff.mark a) := by
  let _ := Crates.service
  obtain ⟨tr, t, l, u, tr₂, s, h, hs, h₂, hfresh, hclocks, hu, hused⟩ := exists_cut_of_play machine
    (Request.run ⟨"", ""⟩) (Pool.init (World.empty sampleServices))
    (firstLogin ++ secondLogin 150 ++ issueChoices) (.env (.tick 1))
    (exchangeEndpointChoices (referenceValue (bytes32 4)))
    (fun x y z => FreshReferences (x.1 ++ [y.1] ++ z.1) ∧
      (∀ l ∈ x.1 ++ [y.1] ++ z.1, clockFits l = true) ∧
      (recordOf y.2.world.redis .handoff
        (referenceValueLookup (referenceValue (bytes32 4)))).isSome = true ∧
      (recordOf y.2.world.redis .handoff (referenceValueLookup (referenceValue (bytes32 4)))).map
        (·.status) ≠ (recordOf z.2.world.redis .handoff
          (referenceValueLookup (referenceValue (bytes32 4)))).map (·.status) ∧
      (recordOf z.2.world.redis .handoff
        (referenceValueLookup (referenceValue (bytes32 4)))).isSome = true) (by decide +kernel)
  obtain ⟨a, ha⟩ := Option.isSome_iff_exists.mp hu
  obtain ⟨hne, hsome⟩ := hused
  obtain ⟨b, hb⟩ := Option.isSome_iff_exists.mp hsome
  refine ⟨_, u, tr₂, s, h.snoc hs, h₂, a, ha, ?_⟩
  obtain rfl | rfl := (record_lifetime (h.snoc hs) h₂ hfresh (clocksBounded_of_fits hclocks)
    ha).1 b hb
  · exact absurd (by rw [ha, hb]) hne
  · exact hb

end Service

end AuthFoundation
