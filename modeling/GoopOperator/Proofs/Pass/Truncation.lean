import GoopOperator.Pass.Observed
import GoopOperator.Proofs.Pass.Alone
import GoopOperator.Proofs.Store.Blurred

/-!
# Passes that are cut off

A pass that quits at a failure (`Pass.Quits`) and is cut off has done what it would have done up to one
of its calls, and nothing more. `Interruption.limit?` is the time at which a pass is cut off, with the
reason: the earlier of the cancellation and the deadline, and the cancellation at a tie. A pass that
ends before that time does not see it (`run_within`). Any other stops after as many calls as the store
completes before that time (`run_truncated`): the call that would be answered at that time or later has
no effect.

Between two calls a pass takes no time. A cancellation that comes there, after the answer to the one
and before the other is made, is the subject of `run_cancelled_between`.
-/

namespace GoopOperator

/-! ## When a pass is cut off -/

namespace Interruption

/-- When a pass is cut off, and why, if anything cuts it off. -/
def limit? (i : Interruption) : Option (Instant × PassError) :=
  match i.cancelAt, i.deadline with
  | some c, some d => some (if c ≤ d then (c, .cancelled) else (d, .deadlineExceeded))
  | some c, .none => some (c, .cancelled)
  | .none, some d => some (d, .deadlineExceeded)
  | .none, .none => .none

variable {i : Interruption} {t : Instant} {e : PassError}

/-- A pass is cut off for a reason of its own, and not for want of an object. -/
theorem isNotFound_of_limit? (h : i.limit? = some (t, e)) : e.isNotFound = false := by
  unfold limit? at h
  split at h
  · split at h <;> (cases h; rfl)
  · cases h
    rfl
  · cases h
    rfl
  · cases h

/-- The limit is the earlier of the cancellation and the deadline. -/
theorem le_of_limit? (h : i.limit? = some (t, e)) :
    (∀ c, i.cancelAt = some c → t ≤ c) ∧ ∀ d, i.deadline = some d → t ≤ d := by
  obtain ⟨cancelAt, deadline⟩ := i
  unfold limit? at h
  cases cancelAt with
  | none =>
    cases deadline with
    | none => cases h
    | some d =>
      cases h
      exact ⟨nofun, fun d hd => Nat.le_of_eq (Option.some.inj hd)⟩
  | some c =>
    cases deadline with
    | none =>
      cases h
      exact ⟨fun c hc => Nat.le_of_eq (Option.some.inj hc), nofun⟩
    | some d =>
      simp only [Option.some.injEq] at h ⊢
      by_cases hfirst : c ≤ d
      · rw [if_pos hfirst] at h
        cases h
        exact ⟨fun c hc => Nat.le_of_eq hc, fun d hd => hd ▸ hfirst⟩
      · rw [if_neg hfirst] at h
        cases h
        exact ⟨fun c hc => hc ▸ Nat.le_of_not_le hfirst, fun d hd => Nat.le_of_eq hd⟩

/-- Before the limit a pass may make calls. -/
theorem over?_of_lt (h : i.limit? = some (t, e)) {now : Instant} (hnow : now < t) :
    i.over? now = .none := by
  obtain ⟨hcancel, hdeadline⟩ := le_of_limit? h
  have hearly {x : Option Instant} (hx : ∀ c, x = some c → t ≤ c) :
      x.any (· ≤ now) = false := by
    cases x with
    | none => rfl
    | some c => simpa using Nat.lt_of_lt_of_le hnow (hx c rfl)
  unfold over?
  rw [hearly hcancel, hearly hdeadline]
  rfl

/-- What would be answered before the limit is not cut off. -/
theorem cut?_of_lt (h : i.limit? = some (t, e)) {due : Instant} (hdue : due < t) :
    i.cut? due = .none := by
  obtain ⟨hcancel, hdeadline⟩ := le_of_limit? h
  have hearly {x : Option Instant} (hx : ∀ c, x = some c → t ≤ c) :
      x.filter (· ≤ due) = .none := by
    cases x with
    | none => rfl
    | some c => simpa using Nat.lt_of_lt_of_le hdue (hx c rfl)
  unfold cut?
  rw [hearly hcancel, hearly hdeadline]

/-- What would be answered at the limit or later is cut off there. -/
theorem cut?_of_le (h : i.limit? = some (t, e)) {due : Instant} (hdue : t ≤ due) :
    i.cut? due = some (t, e) := by
  obtain ⟨cancelAt, deadline⟩ := i
  unfold limit? at h
  unfold cut?
  cases cancelAt with
  | none =>
    cases deadline with
    | none => cases h
    | some d =>
      cases h
      simp [Option.filter, hdue]
  | some c =>
    cases deadline with
    | none =>
      cases h
      simp [Option.filter, hdue]
    | some d =>
      simp only [Option.some.injEq] at h
      by_cases hfirst : c ≤ d
      · rw [if_pos hfirst] at h
        cases h
        -- the deadline may be due as well
        by_cases hd : d ≤ due <;> simp [Option.filter, hdue, hd, hfirst]
      · rw [if_neg hfirst] at h
        cases h
        by_cases hc : c ≤ due <;> simp [Option.filter, hdue, hc, hfirst]

end Interruption

/-! ## Calls -/

namespace MemoryStore

variable {latency : Duration} {timeOfDay : Instant → Timestamp} {i : Interruption} {t now : Instant}
  {e : PassError}

/-- A call that is answered before the limit is answered as without one. -/
theorem respond_within (hlimit : i.limit? = some (t, e)) (h : now + latency < t) (c : StoreCall)
    (o : Observed MemoryStore) :
    (surroundings latency timeOfDay).respond i (.call c) (now, o) =
      (surroundings latency timeOfDay).respond .none (.call c) (now, o) := by
  have hnow : now < t := Nat.lt_of_le_of_lt (Nat.le_add_right now latency) h
  simp [Surroundings.respond, Surroundings.await, surroundings,
    Interruption.over?_of_lt hlimit hnow, Interruption.cut?_of_lt hlimit h]

/-- A call that would be answered at the limit or later fails, and has no effect. -/
theorem respond_cut (hlimit : i.limit? = some (t, e)) (hover : t ≤ now → i.over? now = some e)
    (h : t ≤ now + latency) (c : StoreCall) (o : Observed MemoryStore) :
    ∃ wake, (surroundings latency timeOfDay).respond i (.call c) (now, o) = (.error e, wake, o) := by
  by_cases hnow : now < t
  · refine ⟨t, ?_⟩
    simp [Surroundings.respond, Surroundings.await, surroundings,
      Interruption.over?_of_lt hlimit hnow, Interruption.cut?_of_le hlimit h]
  · refine ⟨now, ?_⟩
    simp [Surroundings.respond, Surroundings.await, hover (Nat.not_lt.mp hnow)]

end MemoryStore

/-! ## Passes -/

/-- From the call with the number `n` on, the pass is cut off. -/
def Bench.cutFrom (n : Nat) (cut : Cut) : Nat → Option Mishap :=
  fun i => if n ≤ i then some (.cut cut) else none

namespace Pass

section timed

open MemoryStore

variable {latency : Duration} {timeOfDay : Instant → Timestamp} {i : Interruption} {t now : Instant}
  {e : PassError} {p : Pass α} {o : Observed MemoryStore}

/-- One call less is left of the time of some. -/
theorem add_succ_mul (now n latency : Nat) :
    now + (n + 1) * latency = now + latency + n * latency := by
  rw [Nat.succ_mul, Nat.add_comm _ latency, Nat.add_assoc]

/-- A pass that ends before the limit runs as without one. -/
theorem run_within (hlimit : i.limit? = some (t, e))
    (h : now + p.callCount ((surroundings latency timeOfDay).respond .none) (now, o) * latency < t) :
    p.run ((surroundings latency timeOfDay).respond i) (now, o) =
      p.run ((surroundings latency timeOfDay).respond .none) (now, o) := by
  induction p generalizing now o with
  | done r => rfl
  | perform effect next ih =>
    cases effect with
    | clock => exact ih _ h
    | work task => exact ih _ h
    | call c =>
      let env := surroundings latency timeOfDay
      let answered := env.respond .none (.call c) (now, o)
      have hlater : now + latency +
          (next answered.1).callCount (env.respond .none) answered.2 * latency < t :=
        (add_succ_mul ..) ▸ h
      have hwithin : now + latency < t := Nat.lt_of_le_of_lt (Nat.le_add_right _ _) hlater
      have hsame : env.respond i (.call c) (now, o) = answered := respond_within hlimit hwithin c o
      show (next (env.respond i (.call c) (now, o)).1).run (env.respond i)
        (env.respond i (.call c) (now, o)).2 = _
      rw [hsame]
      exact ih _ hlater

/-- A pass that quits at a failure and is not at its end before the limit fails for the reason of the
limit, after the calls that are answered before it. -/
theorem run_truncated (hq : p.Quits) (hlimit : i.limit? = some (t, e))
    (hover : t ≤ now → i.over? now = some e)
    (hcalls : 0 < p.callCount ((surroundings latency timeOfDay).respond .none) (now, o))
    (h : t ≤ now + p.callCount ((surroundings latency timeOfDay).respond .none) (now, o) * latency) :
    ∃ k wake, k < p.callCount ((surroundings latency timeOfDay).respond .none) (now, o) ∧
      (0 < k → now + k * latency < t) ∧ t ≤ now + (k + 1) * latency ∧
      p.run ((surroundings latency timeOfDay).respond i) (now, o) =
        (.error e, wake,
          (p.stateAfter ((surroundings latency timeOfDay).respond .none) k (now, o)).2) := by
  induction p generalizing now o with
  | done r => cases hcalls
  | perform effect next ih =>
    cases effect with
    | clock => exact ih _ (hq.2 _) hover hcalls h
    | work task => exact ih _ (hq.2 _) hover hcalls h
    | call c =>
      let env := surroundings latency timeOfDay
      let answered := env.respond .none (.call c) (now, o)
      by_cases hwithin : now + latency < t
      · have hsame : env.respond i (.call c) (now, o) = answered := respond_within hlimit hwithin c o
        have hlater : t ≤ now + latency +
            (next answered.1).callCount (env.respond .none) answered.2 * latency :=
          (add_succ_mul ..) ▸ h
        -- the pass is not at its end, or it would have come there in time
        have hrest : 0 < (next answered.1).callCount (env.respond .none) answered.2 := by
          refine Nat.pos_of_ne_zero fun hzero => ?_
          rw [hzero, Nat.zero_mul] at hlater
          exact Nat.not_le.mpr hwithin hlater
        obtain ⟨k, wake, hk, hbefore, hafter, hrun⟩ := ih answered.1 (hq.2 _)
          (fun hle => absurd hle (Nat.not_le.mpr hwithin)) hrest hlater
        refine ⟨k + 1, wake, Nat.succ_lt_succ hk, fun _ => ?_, ?_, ?_⟩
        · rw [add_succ_mul]
          cases k with
          | zero => rwa [Nat.zero_mul]
          | succ k => exact hbefore (Nat.succ_pos k)
        · rwa [add_succ_mul]
        · show (next (env.respond i (.call c) (now, o)).1).run (env.respond i)
            (env.respond i (.call c) (now, o)).2 = _
          rw [hsame]
          exact hrun
      · -- the pass is cut off at this call
        obtain ⟨wake, hcut⟩ : ∃ wake, env.respond i (.call c) (now, o) = (.error e, wake, o) :=
          respond_cut hlimit hover (Nat.not_lt.mp hwithin) c o
        refine ⟨0, wake, Nat.succ_pos _, fun hpos => absurd hpos (Nat.lt_irrefl 0), ?_, ?_⟩
        · rw [Nat.zero_add, Nat.one_mul]
          exact Nat.not_lt.mp hwithin
        · show (next (env.respond i (.call c) (now, o)).1).run (env.respond i)
            (env.respond i (.call c) (now, o)).2 = _
          rw [hcut, hq.1 e (Interruption.isNotFound_of_limit? hlimit)]
          rfl

end timed

open Bench in
/-- A pass that quits at a failure and is cut off after `k` of its calls, before it has made another or
while it waits for the answer, fails for that, and leaves the store as it was after those calls. -/
theorem run_cut_between (cut : Cut) {clock : Nat → Timestamp} {p : Pass α} {b : Bench} {k n : Nat}
    (hq : p.Quits) (hn : b.calls + k = n) (hk : k < p.callCount (respond clock calm) b) :
    (p.run (respond clock (cutFrom n cut)) b).1 = .error cut.error ∧
      (p.run (respond clock (cutFrom n cut)) b).2.store =
        (p.stateAfter (respond clock calm) k b).store := by
  induction p generalizing b k with
  | done r => cases hk
  | perform effect next ih =>
    cases effect with
    | clock => exact ih _ (hq.2 _) hn hk
    | work task => exact ih _ (hq.2 _) hn hk
    | call c =>
      cases k with
      | zero =>
        have hcut : respond clock (cutFrom n cut) (.call c) b =
            (.error cut.error, ⟨b.store, b.calls + 1, b.looks⟩) := by
          simp [respond, cutFrom, ← hn, MemoryStore.struck]
        have hquit := hq.1 cut.error (by cases cut <;> rfl)
        have hrun : (perform (.call c) next).run (respond clock (cutFrom n cut)) b =
            (next (respond clock (cutFrom n cut) (.call c) b).1).run (respond clock (cutFrom n cut))
              (respond clock (cutFrom n cut) (.call c) b).2 := rfl
        rw [hrun, hcut, hquit]
        exact ⟨rfl, rfl⟩
      | succ k =>
        have hsame : respond clock (cutFrom n cut) (.call c) b = respond clock calm (.call c) b := by
          have hbefore : ¬ n ≤ b.calls := by omega
          simp [respond, cutFrom, calm, hbefore]
        have hrun : (perform (.call c) next).run (respond clock (cutFrom n cut)) b =
            (next (respond clock (cutFrom n cut) (.call c) b).1).run (respond clock (cutFrom n cut))
              (respond clock (cutFrom n cut) (.call c) b).2 := rfl
        rw [hrun, hsame]
        have hcalls : (respond clock calm (.call c) b).2.calls + k = n := by
          rw [← hn]
          exact Nat.add_right_comm b.calls 1 k
        exact ih _ (hq.2 _) hcalls (Nat.lt_of_succ_lt_succ hk)

end Pass

end GoopOperator
