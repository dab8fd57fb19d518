import GoopOperator.Proofs.Lifecycle.Alike
import GoopOperator.Proofs.Lifecycle.Discipline
import GoopOperator.Proofs.Lifecycle.Healing
import GoopOperator.Proofs.Pass.Truncation
import GoopOperator.Reconcile

/-!
# Deadlines and cancellations

A pass over a store in memory that runs out of time, or is cancelled, has done what it does with all
the time in the world, up to one of its calls: the call that is cut off has no effect, and no other is
made (`cut_passes_are_truncated`). What it leaves differs from that in nothing but the times in the
ledger of the job, since the pass may be run at another time of day.
-/

namespace GoopOperator

/-- The times in ledgers are looked past, and nothing else. -/
def Blur.ofTimes : Blur where
  versions := false
  times := true
  losses := false
  wording := false

/-- A store without the times in the ledgers of its jobs. -/
def MemoryStore.timeless (s : MemoryStore) : MemoryStore := s.blur .ofTimes

/-- The context under another bound on the time of a pass. -/
def Context.withTimeout (cx : Context) (timeout : Option Duration) : Context :=
  { cx with settings := { cx.settings with passTimeout := timeout } }

/-- A store in memory serves the calls of a pass that nothing cuts off. -/
theorem serves_surroundings (latency : Duration) (timeOfDay : Instant → Timestamp) :
    Serves ((MemoryStore.surroundings latency timeOfDay).respond .none) (fun x => x.2.store) :=
  ⟨fun _ _ => rfl, fun _ _ => rfl, fun _ => rfl⟩

/-- So does a bench. -/
theorem serves_bench (clock : Nat → Timestamp) :
    Serves (Bench.respond clock Bench.calm) Bench.store :=
  ⟨fun _ _ => rfl, fun _ _ => rfl, fun _ => rfl⟩

/-- Of calls that take `latency` each, one after the other, `k` are answered before the time `bound`
is up: none if there is no time at all. -/
structure AnsweredBefore (bound latency : Duration) (k : Nat) : Prop where
  /-- They are answered in time. -/
  inTime : 0 < bound → k * latency < bound
  /-- No more are. -/
  greatest : 0 < bound → ∀ n, n * latency < bound → n ≤ k
  /-- None is if there is no time. -/
  none : bound = 0 → k = 0

/-- There is one such number. -/
theorem AnsweredBefore.unique {bound latency : Duration} {k k' : Nat}
    (h : AnsweredBefore bound latency k) (h' : AnsweredBefore bound latency k') : k = k' := by
  rcases Nat.eq_zero_or_pos bound with hzero | hpos
  · rw [h.none hzero, h'.none hzero]
  · exact Nat.le_antisymm (h'.greatest hpos k (h.inTime hpos)) (h.greatest hpos k' (h'.inTime hpos))

namespace Lifecycle

/-! ## The bound on the time of a pass -/

section withTimeout

variable (cx : Context) (timeout : Option Duration)

/-- The stages do not look at the bound on the time of a pass. -/
theorem handle_withTimeout {st : Stage} (hst : st ∈ chain.stages) (g : Goop) :
    st.handle (cx.withTimeout timeout) g = st.handle cx g := by
  simp only [chain, List.mem_cons, List.not_mem_nil, or_false] at hst
  rcases hst with rfl | rfl | rfl | rfl | rfl
  · rfl
  · rfl
  · rfl
  · unfold create
    simp only
    split
    · rfl
    · refine bind_congr fun r => ?_
      cases r with
      | ok w => rfl
      | error e => rfl
  · unfold complete
    simp only
    split
    · rfl
    · refine bind_congr fun r => ?_
      cases r with
      | ok w => rfl
      | error e => rfl

/-- A pass does not look at the bound on its time. -/
theorem reconcile_withTimeout : reconcile chain (cx.withTimeout timeout) = reconcile chain cx := by
  have hstages (stages : List Stage) (hstages : ∀ st ∈ stages, st ∈ chain.stages) (g : Goop) :
      Chain.run ⟨stages⟩ (cx.withTimeout timeout) g = Chain.run ⟨stages⟩ cx g := by
    induction stages generalizing g with
    | nil => rfl
    | cons st rest ih =>
      have hrest (g : Goop) := ih (fun st hst => hstages st (List.mem_cons_of_mem _ hst)) g
      rw [Chain.run_cons, Chain.run_cons,
        handle_withTimeout cx timeout (hstages st (List.mem_cons_self ..))]
      simp only [hrest]
  have hrun : chain.run (cx.withTimeout timeout) = chain.run cx :=
    funext fun g => hstages _ (fun _ h => h) g
  unfold reconcile
  rw [hrun]
  rfl

end withTimeout

/-! ## Passes in time -/

section timed

variable (latency : Duration) (timeOfDay : Instant → Timestamp) (cx : Context) (start : Instant)
  (s : MemoryStore)

/-- A pass that begins at `start`, over a store that takes `latency` for each call: how it ends, and the
store that it leaves. -/
def runOver (cancelAt : Option Instant) : Except PassError Requeue × MemoryStore :=
  let (r, _, o) := reconcileFrom (MemoryStore.surroundings latency timeOfDay) chain cx cancelAt start
    (.new s)
  (r, o.store)

/-- The number of calls of the pass, if nothing cuts it off. -/
def callsOf : Nat :=
  (reconcile chain cx).callCount ((MemoryStore.surroundings latency timeOfDay).respond .none)
    (start, .new s)

/-- The store after the first `k` calls of the pass, if nothing cuts it off. -/
def storeAfter (k : Nat) : MemoryStore :=
  ((reconcile chain cx).stateAfter ((MemoryStore.surroundings latency timeOfDay).respond .none) k
    (start, .new s)).2.store

/-- A pass in time is the run of the pass, up to the bound on its time. -/
theorem runOver_eq (timeout : Option Duration) (cancelAt : Option Instant) :
    runOver latency timeOfDay (cx.withTimeout timeout) start s cancelAt =
      let run := (reconcile chain cx).run ((MemoryStore.surroundings latency timeOfDay).respond
        ⟨cancelAt, timeout.map (start + ·)⟩) (start, .new s)
      (run.1, run.2.2.store) := by
  rw [← reconcile_withTimeout cx timeout]
  rfl

/-- A pass makes at least one call. -/
theorem callsOf_pos : 0 < callsOf latency timeOfDay cx start s := Nat.succ_pos _

end timed

/-- Nothing of a pass depends on the times of day but times. -/
theorem reconcile_served {σ τ : Type} {respond : (e : Effect) → σ → e.Answer × σ}
    {respond' : (e : Effect) → τ → e.Answer × τ} {store : σ → MemoryStore} {store' : τ → MemoryStore}
    (hs : Serves respond store) (hs' : Serves respond' store') (cx : Context) (x : σ) (x' : τ)
    (h : (store x).timeless = (store' x').timeless) :
    let p := reconcile chain cx
    (p.run respond x).1 = (p.run respond' x').1 ∧
      (store (p.run respond x).2).timeless = (store' (p.run respond' x').2).timeless ∧
      p.callCount respond x = p.callCount respond' x' ∧
      ∀ k, (store (p.stateAfter respond k x)).timeless =
        (store' (p.stateAfter respond' k x')).timeless := by
  have hruns := (reconcile_alike .ofTimes cx).run (couples_of_serves rfl rfl hs hs') (h := [])
    (t := []) h
  obtain ⟨_, _, hend⟩ := hruns.final
  refine ⟨?_, hend, hruns.count, fun k => ?_⟩
  · have hresult := hruns.result
    rwa [Blur.result_eq rfl, Blur.result_eq rfl, Except.map_id] at hresult
  · obtain ⟨_, _, _, _, hstore⟩ := hruns.after k
    exact hstore

/-- What a pass has done that the limit `t` cuts off. -/
theorem runOver_truncated {latency : Duration} {timeOfDay : Instant → Timestamp} {cx : Context}
    {start t : Instant} {s : MemoryStore} {timeout : Option Duration} {cancelAt : Option Instant}
    {e : PassError}
    (hlimit : Interruption.limit? ⟨cancelAt, timeout.map (start + ·)⟩ = some (t, e))
    (hover : t ≤ start → Interruption.over? ⟨cancelAt, timeout.map (start + ·)⟩ start = some e)
    (h : t ≤ start + callsOf latency timeOfDay cx start s * latency) :
    ∃ k < callsOf latency timeOfDay cx start s, AnsweredBefore (t - start) latency k ∧
      runOver latency timeOfDay (cx.withTimeout timeout) start s cancelAt =
        (.error e, storeAfter latency timeOfDay cx start s k) := by
  obtain ⟨k, wake, hk, hbefore, hafter, hrun⟩ := Pass.run_truncated (quits_reconcile cx) hlimit hover
    (callsOf_pos latency timeOfDay cx start s) h
  refine ⟨k, hk, ⟨fun hpos => ?_, fun _ n hn => ?_, fun hzero => ?_⟩, ?_⟩
  · cases k with
    | zero => rwa [Nat.zero_mul]
    | succ k => exact Nat.lt_sub_of_add_lt (by rw [Nat.add_comm]; exact hbefore k.succ_pos)
  · -- the next call would be answered too late
    have hlate : n * latency < (k + 1) * latency :=
      Nat.lt_of_lt_of_le hn (Nat.sub_le_iff_le_add'.mpr hafter)
    exact Nat.le_of_lt_succ (Nat.lt_of_mul_lt_mul_right hlate)
  · refine Nat.eq_zero_of_not_pos fun hpos => ?_
    have hearly : start < t := Nat.lt_of_le_of_lt (Nat.le_add_right _ _) (hbefore hpos)
    exact Nat.not_le.mpr hearly (Nat.le_of_sub_eq_zero hzero)
  · rw [runOver_eq, hrun]
    rfl

/-- A pass that has the time for all its calls does not see the bound on it. -/
theorem runOver_inTime {latency : Duration} {timeOfDay : Instant → Timestamp} {cx : Context}
    {start : Instant} {s : MemoryStore} {T : Duration}
    (hT : callsOf latency timeOfDay cx start s * latency < T) :
    runOver latency timeOfDay (cx.withTimeout (some T)) start s none =
      runOver latency timeOfDay (cx.withTimeout none) start s none := by
  have hlimit : Interruption.limit? ⟨none, (some T).map (start + ·)⟩ =
      some (start + T, .deadlineExceeded) := rfl
  let env := MemoryStore.surroundings latency timeOfDay
  have hwithin : (reconcile chain cx).run (env.respond ⟨none, (some T).map (start + ·)⟩)
      (start, .new s) = (reconcile chain cx).run (env.respond .none) (start, .new s) :=
    Pass.run_within hlimit (Nat.add_lt_add_left hT start)
  rw [runOver_eq, hwithin, runOver_eq]
  rfl

/-- What a pass has done that has not the time for all its calls. -/
theorem runOver_tooLate {latency : Duration} {timeOfDay : Instant → Timestamp} {cx : Context}
    {start : Instant} {s : MemoryStore} {T : Duration}
    (hT : T ≤ callsOf latency timeOfDay cx start s * latency) :
    ∃ k < callsOf latency timeOfDay cx start s, AnsweredBefore T latency k ∧
      runOver latency timeOfDay (cx.withTimeout (some T)) start s none =
        (.error .deadlineExceeded, storeAfter latency timeOfDay cx start s k) := by
  have hlimit : Interruption.limit? ⟨none, (some T).map (start + ·)⟩ =
      some (start + T, .deadlineExceeded) := rfl
  obtain ⟨k, hk, hanswered, hrun⟩ := runOver_truncated hlimit
    (fun hle => by simp [Interruption.over?, hle]) (Nat.add_le_add_left hT start)
  rw [Nat.add_sub_cancel_left] at hanswered
  exact ⟨k, hk, hanswered, hrun⟩

/-- A pass over a store in memory, with nothing else going on, that is given the time `T`: if all its
calls are answered before that time is up, it ends and leaves the store as a pass that is given all the
time in the world. Otherwise it fails for want of time, and leaves the store as that pass does after
the calls that are answered in time; a call whose answer comes with the end of the time is not one of
them. A pass that is cancelled at a point in time before its end, and no later than at the end of its
time, fails as cancelled, and leaves the store likewise; and so it does if it is cancelled between two
calls, or while it waits for the answer to one.

Stores are compared but for the times in ledgers, and the passes may run at different times of day. -/
theorem cut_passes_are_truncated (cx : Context) (s : MemoryStore) (latency : Duration)
    (timeOfDay timeOfDay' : Instant → Timestamp) (start start' : Instant) :
    let undisturbed := runOver latency timeOfDay' (cx.withTimeout none) start' s none
    let calls := callsOf latency timeOfDay' cx start' s
    let after := storeAfter latency timeOfDay' cx start' s
    (∀ T : Duration,
      let run := runOver latency timeOfDay (cx.withTimeout (some T)) start s none
      (0 < T ∧ calls * latency < T →
        run.1 = undisturbed.1 ∧ run.2.timeless = undisturbed.2.timeless) ∧
      (¬ (0 < T ∧ calls * latency < T) → run.1 = .error .deadlineExceeded ∧
        ∃ k < calls, AnsweredBefore T latency k ∧ run.2.timeless = (after k).timeless)) ∧
    (∀ (timeout : Option Duration) (c : Instant), (∀ T, timeout = some T → c ≤ start + T) →
      c ≤ start + calls * latency →
      let run := runOver latency timeOfDay (cx.withTimeout timeout) start s (some c)
      run.1 = .error .cancelled ∧
        ∃ k < calls, AnsweredBefore (c - start) latency k ∧ run.2.timeless = (after k).timeless) ∧
    ∀ (clock : Nat → Timestamp) (k : Nat), k < calls →
      let run := (reconcile chain cx).run (Bench.respond clock (Bench.cutFrom k .cancelled)) (.new s)
      run.1 = .error .cancelled ∧ run.2.store.timeless = (after k).timeless := by
  have hserved := serves_surroundings latency timeOfDay'
  obtain ⟨hresult, hend, hcalls, hafter⟩ := reconcile_served (serves_surroundings latency timeOfDay)
    hserved cx (start, .new s) (start', .new s) rfl
  change callsOf latency timeOfDay cx start s = callsOf latency timeOfDay' cx start' s at hcalls
  refine ⟨fun T => ⟨fun hT => ?_, fun hT => ?_⟩, fun timeout c hc hlast => ?_, fun clock k hk => ?_⟩
  · rw [runOver_inTime (hcalls ▸ hT.2)]
    simp only [runOver_eq]
    exact ⟨hresult, hend⟩
  · have hlate : T ≤ callsOf latency timeOfDay cx start s * latency := by
      rw [hcalls]
      rcases Nat.eq_zero_or_pos T with rfl | hpos
      · exact Nat.zero_le _
      · exact Nat.not_lt.mp fun hlt => hT ⟨hpos, hlt⟩
    obtain ⟨k, hk, hanswered, hrun⟩ := runOver_tooLate hlate
    rw [hrun]
    exact ⟨rfl, k, hcalls ▸ hk, hanswered, hafter k⟩
  · have hlimit : Interruption.limit? ⟨some c, timeout.map (start + ·)⟩ = some (c, .cancelled) := by
      cases timeout with
      | none => rfl
      | some T => exact congrArg some (if_pos (hc T rfl))
    rw [← hcalls] at hlast
    obtain ⟨k, hk, hanswered, hrun⟩ := runOver_truncated hlimit
      (fun hle => by simp [Interruption.over?, hle]) hlast
    rw [hrun]
    exact ⟨rfl, k, hcalls ▸ hk, hanswered, hafter k⟩
  · obtain ⟨-, -, hbench, hstore⟩ := reconcile_served (serves_bench clock) hserved cx (Bench.new s)
      (start', .new s) rfl
    obtain ⟨hfailed, hcut⟩ := Pass.run_cut_between .cancelled (quits_reconcile cx) (b := Bench.new s)
      (Nat.zero_add k) (Nat.lt_of_lt_of_eq hk hbench.symm)
    refine ⟨hfailed, ?_⟩
    rw [hcut]
    exact hstore k

/-! ### A sample -/

namespace SamplePass

/-- A pass over the sample job makes eight calls: it has no image to run. -/
theorem callsOf_job : callsOf 1 (fun _ => noon) cx 0 store = 8 := rfl

end SamplePass

open SamplePass in
/-- Of calls that take one unit of time each, three are answered before four units are up: the fourth
answer would come too late. Nine units are enough for the whole pass, and a pass that is cancelled after
two calls has made only those. -/
theorem sample_truncated :
    let run (T : Duration) := runOver 1 (fun _ => noon) (cx.withTimeout (some T)) 0 store none
    let after := storeAfter 1 (fun _ => noon) cx 0 store
    (run 4).1 = .error .deadlineExceeded ∧ (run 4).2.timeless = (after 3).timeless ∧
      (run 9).1 = (runOver 1 (fun _ => noon) (cx.withTimeout none) 0 store none).1 ∧
      ((reconcile chain cx).run (Bench.respond (fun _ => noon) (Bench.cutFrom 2 .cancelled))
        (.new store)).2.store.timeless = (after 2).timeless := by
  obtain ⟨hdeadline, -, hcancelled⟩ :=
    cut_passes_are_truncated cx store 1 (fun _ => noon) (fun _ => noon) 0 0
  rw [callsOf_job] at hdeadline hcancelled
  obtain ⟨hfailed, k, -, hk, hstore⟩ := (hdeadline 4).2 (by decide)
  have hthree : k = 3 := by
    have hlast : k < 4 := by simpa using hk.inTime (by decide)
    exact Nat.le_antisymm (Nat.le_of_lt_succ hlast) (hk.greatest (by decide) 3 (by decide))
  rw [hthree] at hstore
  exact ⟨hfailed, hstore, ((hdeadline 9).1 (by decide)).1, (hcancelled _ 2 (by decide)).2⟩

end Lifecycle

end GoopOperator
