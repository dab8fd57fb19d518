import GoopOperator.Proofs.Lifecycle.Run
import GoopOperator.Proofs.Pass.Quiet

/-!
# Passes that break off heal

A pass ends at the first call that fails, other than for want of an object (`quits_reconcile`). A
pass one of whose calls meets with a mishap therefore leaves the store in a scene through which an
undisturbed pass would have come, and from there a pass comes to what the undisturbed one would
have come to (`Scene.passOver_strike`).
-/

namespace GoopOperator

namespace Lifecycle

open Pass Bench

/-- A pass over the job of `cx` that is alone with a store. -/
def passOver (clock : Nat → Timestamp) (trouble : Nat → Option Mishap) (cx : Context)
    (s : MemoryStore) : Except PassError Requeue × Bench :=
  (reconcile chain cx).run (respond clock trouble) (.new s)

/-! ## Passes end at a failure -/

section quits

variable (cx : Context) (g : Goop)

theorem quits_fetch : Quits cx.fetch := quits_call _

theorem quits_record (c : Condition) : Quits (record cx g c) := by
  unfold record
  refine quits_bind (p := Pass.clock) ⟨trivial, fun _ => trivial⟩ fun now => ?_
  cases g.ledger.set? c now.toText with
  | none => trivial
  | some l => exact quits_bind (quits_call _) fun _ => quits_fetch cx

theorem quits_start : Quits (start.handle cx g) := by
  unfold start
  simp only
  split
  · exact quits_bind (quits_record cx g _) fun _ => trivial
  · trivial

theorem quits_attachFinalizer : Quits (attachFinalizer.handle cx g) := by
  unfold attachFinalizer
  simp only
  refine quits_bind ?_ fun g' => ?_
  · unfold attachToken
    simp only
    split
    · exact quits_bind (quits_call _) fun _ => quits_fetch cx
    · trivial
  · split
    · exact quits_bind (quits_record cx g' _) fun _ => trivial
    · trivial

theorem quits_release : Quits ((release .nothing).handle cx g) := by
  unfold release
  simp only
  split
  · trivial
  split
  · trivial
  split
  · exact quits_bind (p := Cleanup.nothing cx g) trivial fun _ =>
      quits_bind (quits_call _) fun _ => trivial
  · refine quits_attempt_bind (quits_record cx g _) (fun e he => ?_) fun r => ?_
    · simp only [he, Bool.false_eq_true, if_false]
      rfl
    · cases r with
      | ok _ => trivial
      | error e =>
        simp only
        split <;> trivial

theorem quits_create : Quits (create.handle cx g) := by
  unfold create
  simp only
  split
  · trivial
  refine quits_attempt_bind (quits_call _) (fun e he => ?_) fun r => ?_
  · simp only [he, Bool.false_eq_true, if_false]
    rfl
  · cases r with
    | ok _ => exact quits_bind (quits_record cx g _) fun _ => trivial
    | error e =>
      simp only
      split
      · refine quits_bind (p := Pass.ofExcept _) trivial fun d => ?_
        refine quits_bind (quits_call _) fun _ => ?_
        exact quits_bind (quits_record cx g _) fun _ => trivial
      · trivial

theorem quits_complete : Quits (complete.handle cx g) := by
  unfold complete
  simp only
  split
  · trivial
  refine quits_attempt_bind (quits_call _) (fun e he => ?_) fun r => ?_
  · simp only [he, Bool.false_eq_true, if_false]
    rfl
  · cases r with
    | ok workload =>
      simp only
      split
      · exact quits_bind (quits_record cx g _) fun _ => trivial
      · trivial
    | error e =>
      simp only
      split
      · exact quits_bind (quits_record cx g _) fun _ => trivial
      · trivial

/-- A chain of stages that quit. -/
theorem quits_stages {stages : List Stage} (h : ∀ st ∈ stages, ∀ g, Quits (st.handle cx g)) :
    Quits (Chain.run ⟨stages⟩ cx g) := by
  induction stages generalizing g with
  | nil => trivial
  | cons st rest ih =>
    rw [Chain.run_cons]
    refine quits_bind (h st List.mem_cons_self g) fun decision => ?_
    cases decision with
    | next g' => exact ih g' fun st' hst' => h st' (List.mem_cons_of_mem _ hst')
    | stop requeue => trivial

/-- A pass ends at the first call that fails, other than for want of an object. -/
theorem quits_reconcile : Quits (reconcile chain cx) := by
  unfold reconcile
  refine quits_attempt_bind (quits_fetch cx) (fun e he => ?_) fun r => ?_
  · simp only [he, Bool.false_eq_true, if_false]
    rfl
  · cases r with
    | ok g =>
      refine quits_stages cx g fun st hst g' => ?_
      simp only [List.mem_cons, List.not_mem_nil, or_false] at hst
      rcases hst with rfl | rfl | rfl | rfl | rfl
      · exact quits_start cx g'
      · exact quits_attachFinalizer cx g'
      · exact quits_release cx g'
      · exact quits_create cx g'
      · exact quits_complete cx g'
    | error e =>
      simp only
      split <;> trivial

end quits

end Lifecycle

/-! ## Mishaps -/

/-- The mishap is not that the object of the call is not there. -/
def Mishap.IsOther : Mishap → Prop
  | .failed e => e.isNotFound = false
  | .cut _ => True

section struck

variable {s₀ s : MemoryStore} {k : ObjectKey} {o : Option Goop} {wl : Option StoredWorkload}
  {n : Nat}

/-- A failure that is arranged for an operation is delivered to the next call of it, and leaves the
scene. -/
theorem Scene.serve_fault (h : Scene s₀ k o wl n s) (op : Operation) (e : StoreError)
    (act : MemoryStore → Except StoreError α × MemoryStore) :
    ((s.queueFault op e).serve op act).1 = .error e ∧
      Scene s₀ k o wl n ((s.queueFault op e).serve op act).2 := by
  -- it is the only one that waits
  have hfaults : (s.queueFault op e).faults op = [e] := by
    simp [MemoryStore.queueFault, h.quiet]
  unfold MemoryStore.serve MemoryStore.charge
  rw [hfaults]
  refine ⟨rfl, h.job, h.workload, h.losses, fun op' => ?_, h.nodes, h.otherJobs,
    h.otherWorkloads⟩
  show (if op' = op then [] else (s.queueFault op e).faults op') = []
  split
  · rfl
  · rename_i hop
    simp [MemoryStore.queueFault, hop, h.quiet]

/-- A call for which a failure is arranged is answered by it. -/
theorem Scene.answer_fault (h : Scene s₀ k o wl n s) {c : StoreCall} (hc : c.HasKey)
    (e : StoreError) :
    ((s.queueFault c.operation e).answer c).1 = .error e ∧
      Scene s₀ k o wl n ((s.queueFault c.operation e).answer c).2 := by
  cases c with
  | get key => exact h.serve_fault .get e _
  | getWorkload key => exact h.serve_fault .getWorkload e _
  | createWorkload d => exact h.serve_fault .createWorkload e _
  | update g =>
    obtain ⟨key, hkey⟩ := hc
    rw [MemoryStore.answer_update_eq, hkey]
    exact h.serve_fault .update e _
  | updateStatus g =>
    obtain ⟨key, hkey⟩ := hc
    rw [MemoryStore.answer_updateStatus_eq, hkey]
    exact h.serve_fault .updateStatus e _

/-- A call that meets with a mishap fails, and leaves the scene. -/
theorem Scene.struck (h : Scene s₀ k o wl n s) {c : StoreCall} (hc : c.HasKey) {m : Mishap}
    (hm : m.IsOther) :
    (∃ e : PassError, (s.struck c m).1 = .error e ∧ e.isNotFound = false) ∧
      Scene s₀ k o wl n (s.struck c m).2 := by
  cases m with
  | cut cut => exact ⟨⟨cut.error, rfl, by cases cut <;> rfl⟩, h⟩
  | failed e =>
    obtain ⟨hanswer, hscene⟩ := h.answer_fault hc e
    refine ⟨⟨.store e, ?_, hm⟩, hscene⟩
    show ((s.queueFault c.operation e).answer c).1.mapError PassError.store = .error (.store e)
    rw [hanswer]
    rfl

end struck

section scene

open Lifecycle Pass Bench

variable {s₀ s : MemoryStore} {cx : Context} {o : Option Goop} {wl : Option StoredWorkload}

/-- A pass in a scene without losses comes to its outcome, and so does a pass that begins anew at
any of its calls. -/
theorem Scene.meets (h : Scene s₀ cx.key o wl 0 s) (hnodes : s₀.nodes ≠ 0)
    (hsound : ∀ g, o = some g → Sound cx.key g) (clock : Nat → Timestamp) :
    Meets (respond clock calm)
      (Visits True s₀ cx (outcome cx s₀.nodes 0 (o.map Goop.outline) wl))
      (Ends True s₀ cx (outcome cx s₀.nodes 0 (o.map Goop.outline) wl))
      (reconcile chain cx) (.new s) :=
  meets_reconcile (b := .new s) (fun _ => hnodes) h hsound fun _ => rfl

/-- What a pass in a scene without losses returns and leaves. -/
theorem Scene.passOver (h : Scene s₀ cx.key o wl 0 s) (hsound : ∀ g, o = some g → Sound cx.key g)
    (clock : Nat → Timestamp) {G : Outcome}
    (hG : outcome cx s₀.nodes 0 (o.map Goop.outline) wl = G) :
    (passOver clock calm cx s).1 = G.result ∧
      ∃ o', o'.map Goop.outline = G.job ∧
        Scene s₀ cx.key o' G.workload 0 (passOver clock calm cx s).2.store := by
  have hmeets : Meets (respond clock calm) (Visits False s₀ cx _) (Ends False s₀ cx _)
      (reconcile chain cx) (.new s) :=
    meets_reconcile (b := .new s) nofun h hsound nofun
  rw [hG] at hmeets
  obtain ⟨hresult, o', m, hend, ho', -⟩ := hmeets.run
  -- no status write is going to be lost after the pass, as none was before
  have hlosses : (Lifecycle.passOver clock calm cx s).2.store.lossesLeft ≤ s.lossesLeft :=
    lossesLeft_run (reconcile chain cx) (.new s)
  rw [h.losses] at hlosses
  obtain rfl : m = 0 := by
    rw [← hend.losses]
    exact Nat.le_zero.mp hlosses
  exact ⟨hresult, o', ho', hend⟩

/-- A pass one of whose calls meets with a mishap leaves a scene from which a pass comes to the
same as from the scene in which it has begun. -/
theorem Scene.passOver_strike (h : Scene s₀ cx.key o wl 0 s) (hnodes : s₀.nodes ≠ 0)
    (hsound : ∀ g, o = some g → Sound cx.key g) (clock : Nat → Timestamp) {m : Mishap}
    (hm : m.IsOther) {k : Nat} (hk : k < (Lifecycle.passOver clock calm cx s).2.calls) :
    ∃ o' wl', Scene s₀ cx.key o' wl' 0 (Lifecycle.passOver clock (strike k m) cx s).2.store ∧
      (∀ g, o' = some g → Sound cx.key g) ∧
      outcome cx s₀.nodes 0 (o'.map Goop.outline) wl' =
        outcome cx s₀.nodes 0 (o.map Goop.outline) wl := by
  -- the pass leaves the store as the call has found it that met with the mishap
  obtain ⟨c, b, hvisits, hstore⟩ := (h.meets hnodes hsound clock).run_struck (quits_reconcile cx)
    (m := m) (fun c b hvisits => by
      obtain ⟨hc, o', wl', hscene, -⟩ := hvisits trivial
      exact (hscene.struck hc hm).1) (Nat.zero_le k) hk
  obtain ⟨hc, o', wl', hscene, hsound', hsame⟩ := hvisits trivial
  have hstruck := (hscene.struck hc hm).2
  rw [← hstore] at hstruck
  exact ⟨o', wl', hstruck, hsound', hsame⟩

end scene

end GoopOperator
