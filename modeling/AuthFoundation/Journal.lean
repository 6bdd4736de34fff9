import AuthFoundation.Ledger

set_option autoImplicit false

/-!
# Redis in a run of the service

Every run of interleaved requests is, for Redis alone, a run of the store.

* `redisEvent`, `events`: what a step, and a run, did to Redis.
* `Run.redis`, `events_cut`: runs of requests as runs of the store, and the steps behind events.
* `Issued`: the commands that were issued; `Family.disciplined`: when they are disciplined.
* `Created`, `Used`: issued commands that took effect.
-/

namespace AuthFoundation

open Text Redis Token Interleave

section Events

variable {Req : Type} {Res : Req → Type} {prog : ∀ q, Service (Res q)} {w : World}
  {s t : Pool World Reply Res} {tr tr₁ tr₂ : List (Label Reply Move Req)}

/-- What a step did to Redis. -/
def redisEvent : Label Reply Move Req → Option Event
  | .op _ _ (.redis c) r => some (.command c r)
  | .env (.tick n) => some (.tick n)
  | .env (.expire k) => some (.expire k)
  | _ => none

/-- What a run did to Redis. -/
def events (tr : List (Label Reply Move Req)) : List Event := tr.filterMap redisEvent

@[simp] theorem events_append (tr₁ tr₂ : List (Label Reply Move Req)) :
    events (tr₁ ++ tr₂) = events tr₁ ++ events tr₂ := List.filterMap_append

@[simp] theorem events_redis (i : ℕ) (q : Req) (c : Command) (r : Reply (.redis c))
    (tr : List (Label Reply Move Req)) :
    events (.op i q (.redis c) r :: tr) = .command c r :: events tr := rfl

theorem mem_events {i : ℕ} {q : Req} {c : Command} {r : Reply (.redis c)}
    (h : .op i q (.redis c) r ∈ tr) : .command c r ∈ events tr :=
  List.mem_filterMap.mpr ⟨_, h, rfl⟩

/-- The step behind an event. -/
theorem events_cut {E₁ E₂ : List Event} {e : Event} (h : events tr = E₁ ++ e :: E₂) :
    ∃ tr₁ l tr₂, tr = tr₁ ++ l :: tr₂ ∧ events tr₁ = E₁ ∧ redisEvent l = some e ∧
      events tr₂ = E₂ := by
  obtain ⟨tr₁, tr₂, rfl, h₁, h₂⟩ := List.filterMap_eq_append_iff.mp h
  obtain ⟨tr₃, l, tr₄, rfl, hn, hl, h₄⟩ := List.filterMap_eq_cons_iff.mp h₂
  refine ⟨tr₁ ++ tr₃, l, tr₄, by simp, ?_, hl, h₄⟩
  rw [events, List.filterMap_append, h₁, List.filterMap_eq_nil_iff.mpr hn, List.append_nil]

theorem redisEvent_command {l : Label Reply Move Req} {c : Command} {r : Except Redis.Error c.Reply}
    (h : redisEvent l = some (.command c r)) : ∃ i q, l = .op i q (.redis c) r := by
  match l, h with
  | .op i q (.redis c) r, h =>
    cases h
    exact ⟨i, q, rfl⟩
  | .env (.tick n), h => cases h
  | .env (.expire k), h => cases h

section Store

variable [Crates]

theorem exec_redis {i : ℕ} {o : Op} {a : Answer} {r : Reply o} {w w' : World}
    (h : w.exec i o a = some (r, w')) :
    (∃ c, o = .redis c) ∨ w'.redis = w.redis := by
  cases o with
  | redis c => exact .inl ⟨c, rfl⟩
  | sql q =>
    refine .inr ?_
    cases a with
    | ok =>
      obtain ⟨x, -, hx⟩ := Option.map_eq_some_iff.mp h
      cases hx
      rfl
    | fail =>
      cases h
      rfl
    | _ => cases h
  | localState c =>
    refine .inr ?_
    cases a with
    | draws draws =>
      obtain ⟨x, -, hx⟩ := Option.map_eq_some_iff.mp h
      cases hx
      rfl
    | _ => cases h
  | _ =>
    refine .inr ?_
    cases a <;> cases h <;> rfl

theorem exec_command {i : ℕ} {c : Command} {a : Answer} {r : Reply (.redis c)} {w w' : World}
    (h : w.exec i (.redis c) a = some (r, w')) :
    RedisStep w.redis (.command c r) w'.redis := by
  cases a with
  | ok =>
    cases h
    exact .command rfl
  | fail =>
    cases h
    exact .fail c
  | _ => cases h

/-- A step of the service as a step of the store. -/
theorem Step.redis {l : Label Reply Move Req} (h : Step machine prog s l t) :
    match redisEvent l with
    | some e => RedisStep s.world.redis e t.world.redis
    | none => t.world.redis = s.world.redis := by
  cases h with
  | start => rfl
  | @op i q o k a r w' hi he =>
    obtain ⟨c, rfl⟩ | hw := exec_redis he
    · exact exec_command he
    · cases o with
      | redis c => exact exec_command he
      | _ => exact hw
  | @env e w' he =>
    cases e with
    | tick n =>
      cases he
      exact .tick n
    | expire k =>
      simp only [machine, World.move] at he
      split at he
      · split_ifs at he with hle
        cases he
        exact .expire ‹_› rfl hle
      · cases he
    | database m =>
      obtain ⟨x, -, hx⟩ := Option.map_eq_some_iff.mp he
      cases hx
      rfl

/-- **A run of the service as a run of the store.** -/
theorem Run.redis (h : Run machine prog s tr t) :
    RedisRun s.world.redis (events tr) t.world.redis := by
  induction h with
  | nil => exact .nil
  | @snoc tr t u l hr hs ih =>
    have hl := Step.redis hs
    rw [events_append]
    cases he : redisEvent l with
    | none =>
      rw [he] at hl
      have hn : events [l] = [] := List.filterMap_cons_none he
      rw [hn, List.append_nil, hl]
      exact ih
    | some e =>
      rw [he] at hl
      have hn : events [l] = [e] := List.filterMap_cons_some he
      rw [hn]
      exact ih.snoc hl

end Store

/-! ## Discipline -/

/-- The command of the form `x` was issued by thread `i` with the reply `r`. -/
abbrev Label.sent (i : ℕ) (q : Req) (x : Sent) (r : Reply (.redis x.command)) :
    Label Reply Move Req := .op i q (.redis x.command) r

/-- **When a run is disciplined**, in terms of its steps. -/
theorem Family.disciplined {α : Type} {F : Family α} {k : Bytes}
    (htyped : ∀ i q c r, .op i q (.redis c) r ∈ tr → ∃ x : Sent, c = x.command)
    (honce : ∀ tr₁ tr₂ tr₃ i q x r j q' x' r' a a',
      tr = tr₁ ++ Label.sent i q x r :: tr₂ ++ Label.sent j q' x' r' :: tr₃ →
      F.creates x = some (k, a) → F.creates x' = some (k, a') → False)
    (hlinked : ∀ tr₁ tr₂ i q x r t, tr = tr₁ ++ Label.sent i q x r :: tr₂ →
      F.expires x = some (k, t) → ∀ j q' x' r' a, Label.sent j q' x' r' ∈ tr₁ →
      F.creates x' = some (k, a) → t = F.expiresAt a) : F.Disciplined k (events tr) where
  typed e he c r h := by
    subst h
    obtain ⟨l, hl, h⟩ := List.mem_filterMap.mp he
    obtain ⟨i, q, rfl⟩ := redisEvent_command h
    exact htyped i q c r hl
  once E₁ e E₂ e' E₃ h := by
    rintro ⟨x, r, a, rfl, hx⟩ ⟨x', r', a', rfl, hx'⟩
    obtain ⟨tr₀, l', tr₃, rfl, h₀, hl', -⟩ := events_cut h
    obtain ⟨tr₁, l, tr₂, rfl, -, hl, -⟩ := events_cut h₀
    obtain ⟨i, q, rfl⟩ := redisEvent_command hl
    obtain ⟨j, q', rfl⟩ := redisEvent_command hl'
    exact honce _ _ _ _ _ _ _ _ _ _ _ _ _ rfl hx hx'
  linked E₁ e E₂ h e₀ he₀ a hc x r t he hx := by
    obtain ⟨x', r', rfl, hx', -⟩ := hc
    obtain ⟨tr₁, l, tr₂, rfl, rfl, hl, -⟩ := events_cut h
    subst he
    obtain ⟨i, q, rfl⟩ := redisEvent_command hl
    obtain ⟨l', hl', h'⟩ := List.mem_filterMap.mp he₀
    obtain ⟨j, q', rfl⟩ := redisEvent_command h'
    exact hlinked _ _ _ _ _ _ _ rfl hx _ _ _ _ _ hl' hx'

/-- **Only one thread uses a record.** -/
theorem Family.Sound.one_user {α : Type} {F : Family α} {k : Bytes} (hF : F.Sound k)
    (hr : RedisRun .empty (events tr) t.world.redis) (hd : F.Disciplined k (events tr)) {i j : ℕ}
    {q q' : Req} {x x' : Sent} {r : Reply (.redis x.command)} {r' : Reply (.redis x'.command)}
    (h : Label.sent i q x r ∈ tr) (h' : Label.sent j q' x' r' ∈ tr)
    (hu : F.Uses k (.command x.command r)) (hu' : F.Uses k (.command x'.command r')) : i = j := by
  by_contra hij
  have hne : Label.sent i q x r ≠ Label.sent j q' x' r' :=
    fun e => hij (Option.some.inj (congrArg Label.client e))
  obtain ⟨tr₁, tr₂, tr₃, rfl | rfl⟩ := cut_two h h' hne
  · rw [events_append, events_append, events_redis, events_redis] at hr hd
    exact hF.used_once hr hd hu hu'
  · rw [events_append, events_append, events_redis, events_redis] at hr hd
    exact hF.used_once hr hd hu' hu

end Events

end AuthFoundation
