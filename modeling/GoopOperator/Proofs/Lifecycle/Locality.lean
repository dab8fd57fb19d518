import GoopOperator.Proofs.Lifecycle.Deadline

/-!
# A pass and the other keys

A pass that is alone with a store sees nothing but the job and the workload at its key, and changes
nothing else. So passes over two stores that hold the same at that key go side by side (`Abreast`),
whatever else the stores hold, and passes over two keys may be run in either order
(`passes_commute`).

The version that a store gives to a job depends on what has been written to it before, at other keys
too. No more of a version matters than that it is the last one, and of the job in hand it is.
-/

namespace GoopOperator

/-- Versions and the times in ledgers are looked past, and nothing else. -/
def Blur.ofStamps : Blur where
  versions := true
  times := true
  losses := false
  wording := false

/-- Where versions are looked past, a job keeps its looks when it is given one. -/
@[simp] theorem Goop.blur_stamp (s : MemoryStore) (g : Goop) :
    (s.stamp g).blur .ofStamps = g.blur .ofStamps := rfl

namespace Scene

variable {s₀ s : MemoryStore} {k : ObjectKey} {g : Goop} {n : Nat}

/-- Creating the workload that a job asks for where there is one. -/
theorem create_taken {wl : StoredWorkload} (h : Scene s₀ k (some g) (some wl) n s)
    (hkey : g.key = .ok k) {settings : Settings} {d : WorkloadSpec}
    (hplan : WorkloadSpec.plan g settings = .ok d) :
    ∃ s', s.answer (.createWorkload d) = (.error (.alreadyExists .daemonSet k), s') ∧
      Scene s₀ k (some g) (some wl) n s' := by
  have hdkey := (WorkloadSpec.of_plan hplan).1
  obtain rfl : d.key = k := Except.ok.inj (hdkey.symm.trans hkey)
  refine ⟨s.counted .createWorkload, ?_, h.counted _⟩
  have htaken : (s.counted .createWorkload).workloads.contains d.key = true := by
    unfold Table.contains
    rw [(h.counted .createWorkload).workload]
    rfl
  rw [MemoryStore.answer_createWorkload_eq, h.serve_eq]
  unfold MemoryStore.create
  rw [if_pos htaken]

end Scene

namespace Lifecycle

open Pass

/-! ## Side by side -/

/-- Two passes that have been answered `h` and `h'` are alone with stores that hold the same at the key
`k`, but for what is looked past, and all else as `s₀` and `s₀'`. -/
structure Abreast (k : ObjectKey) (s₀ s₀' : MemoryStore) (h : History) (s : MemoryStore)
    (h' : History) (s' : MemoryStore) : Prop where
  /-- The job in hand of the one pass is the stored one. -/
  tied : Tied k h s
  /-- So is that of the other. -/
  tied' : Tied k h' s'
  /-- The stores hold the same at the key. -/
  scenes : ∃ o o' wl, Scene s₀ k o wl 0 s ∧ Scene s₀' k o' wl 0 s' ∧
    o.map (Goop.blur .ofStamps) = o'.map (Goop.blur .ofStamps)
  /-- The nodes are as many. -/
  nodes : s₀.nodes = s₀'.nodes

/-- Two calls are answered alike, and leave the passes side by side. -/
def GoAbreast (k : ObjectKey) (s₀ s₀' : MemoryStore) (h : History) (s : MemoryStore) (h' : History)
    (s' : MemoryStore) (c c' : StoreCall) : Prop :=
  AnswersAlike .ofStamps c c' ((s.answer c).1.mapError .store) ((s'.answer c').1.mapError .store) ∧
    Abreast k s₀ s₀' (⟨.call c, (s.answer c).1.mapError .store⟩ :: h) (s.answer c).2
      (⟨.call c', (s'.answer c').1.mapError .store⟩ :: h') (s'.answer c').2

section abreast

variable {cx : Context} {k : ObjectKey} {s₀ s₀' s s' : MemoryStore} {h h' : History} {g g' : Goop}

/-- Calls that are answered alike, and leave the same at the key. -/
theorem Abreast.answered (ha : Abreast k s₀ s₀' h s h' s') {c c' : StoreCall}
    {r : Except StoreError c.Answer} {r' : Except StoreError c'.Answer} {t t' : MemoryStore}
    {o o' : Option Goop} {wl : Option StoredWorkload} (hr : s.answer c = (r, t))
    (hr' : s'.answer c' = (r', t')) (hscene : Scene s₀ k o wl 0 t) (hscene' : Scene s₀' k o' wl 0 t')
    (ho : o.map (Goop.blur .ofStamps) = o'.map (Goop.blur .ofStamps))
    (halike : AnswersAlike .ofStamps c c' (r.mapError .store) (r'.mapError .store)) :
    GoAbreast k s₀ s₀' h s h' s' c c' := by
  refine ⟨?_, ha.tied.answered c, ha.tied'.answered c', ⟨o, o', wl, ?_, ?_, ho⟩, ha.nodes⟩
  · rwa [hr, hr']
  · rwa [hr]
  · rwa [hr']

/-- Reading the job. -/
theorem Abreast.get (ha : Abreast k s₀ s₀' h s h' s') :
    GoAbreast k s₀ s₀' h s h' s' (.get k) (.get k) := by
  obtain ⟨o, o', wl, hscene, hscene', ho⟩ := ha.scenes
  cases o with
  | none =>
    cases o' with
    | none =>
      obtain ⟨t, hr, ht⟩ := hscene.get_none
      obtain ⟨t', hr', ht'⟩ := hscene'.get_none
      exact ha.answered hr hr' ht ht' rfl rfl
    | some g' => cases ho
  | some g =>
    cases o' with
    | none => cases ho
    | some g' =>
      obtain ⟨t, hr, ht⟩ := hscene.get
      obtain ⟨t', hr', ht'⟩ := hscene'.get
      exact ha.answered hr hr' ht ht' ho (congrArg Except.ok (Option.some.inj ho))

/-- Looking at the workload. -/
theorem Abreast.getWorkload (ha : Abreast k s₀ s₀' h s h' s') :
    GoAbreast k s₀ s₀' h s h' s' (.getWorkload k) (.getWorkload k) := by
  obtain ⟨o, o', wl, hscene, hscene', ho⟩ := ha.scenes
  cases wl with
  | none =>
    obtain ⟨t, hr, ht⟩ := hscene.getWorkload_none
    obtain ⟨t', hr', ht'⟩ := hscene'.getWorkload_none
    exact ha.answered hr hr' ht ht' ho rfl
  | some wl =>
    obtain ⟨t, hr, ht⟩ := hscene.getWorkload
    obtain ⟨t', hr', ht'⟩ := hscene'.getWorkload
    exact ha.answered hr hr' ht ht' ho rfl

/-- The jobs in hand are alike, and stored. -/
theorem Abreast.inHand (ha : Abreast k s₀ s₀' h s h' s') (hg : inHand? k h = some g)
    (hg' : inHand? k h' = some g') :
    g.key = .ok k ∧ g'.key = .ok k ∧ g.blur .ofStamps = g'.blur .ofStamps ∧
      ∃ wl, Scene s₀ k (some g) wl 0 s ∧ Scene s₀' k (some g') wl 0 s' := by
  obtain ⟨o, o', wl, hscene, hscene', ho⟩ := ha.scenes
  have hstored := ha.tied.held g hg
  have hstored' := ha.tied'.held g' hg'
  obtain rfl : o = some g := hscene.job.symm.trans hstored
  obtain rfl : o' = some g' := hscene'.job.symm.trans hstored'
  exact ⟨ha.tied.keyed g hstored, ha.tied'.keyed g' hstored', Option.some.inj ho, wl, hscene, hscene'⟩

/-- Writing the status of the job in hand. -/
theorem Abreast.updateStatus (ha : Abreast k s₀ s₀' h s h' s') (hg : inHand? k h = some g)
    (hg' : inHand? k h' = some g') {l l' : Ledger}
    (halike : (g.withLedger l).blur .ofStamps = (g'.withLedger l').blur .ofStamps) :
    GoAbreast k s₀ s₀' h s h' s' (.updateStatus (g.withLedger l)) (.updateStatus (g'.withLedger l')) := by
  obtain ⟨hkey, hkey', -, wl, hscene, hscene'⟩ := ha.inHand hg hg'
  obtain ⟨x, t, hr, v, ht⟩ := hscene.updateStatus hkey l
  obtain ⟨x', t', hr', v', ht'⟩ := hscene'.updateStatus hkey' l'
  exact ha.answered hr hr' ht ht' (congrArg some halike) rfl

/-- Attaching a finalizer to the job in hand. -/
theorem Abreast.attach (ha : Abreast k s₀ s₀' h s h' s') (hg : inHand? k h = some g)
    (hg' : inHand? k h' = some g') (hd : g.isDeletionRequested = false) (token : String) :
    GoAbreast k s₀ s₀' h s h' s' (.update (g.addFinalizer token)) (.update (g'.addFinalizer token)) := by
  obtain ⟨hkey, hkey', hblur, wl, hscene, hscene'⟩ := ha.inHand hg hg'
  have hd' : g'.isDeletionRequested = false :=
    (Goop.resembles_of_blur hblur).isDeletionRequested.symm.trans hd
  obtain ⟨x, t, hr, v, ht⟩ := hscene.attach hkey hd token
  obtain ⟨x', t', hr', v', ht'⟩ := hscene'.attach hkey' hd' token
  refine ha.answered hr hr' ht ht' ?_ rfl
  simp only [Option.map_some, Goop.blur_stamp, Goop.blur_addFinalizer, hblur]

/-- Releasing a finalizer of the job in hand. -/
theorem Abreast.release (ha : Abreast k s₀ s₀' h s h' s') (hg : inHand? k h = some g)
    (hg' : inHand? k h' = some g') (hd : g.isDeletionRequested = true) (token : String) :
    GoAbreast k s₀ s₀' h s h' s' (.update (g.removeFinalizer token))
      (.update (g'.removeFinalizer token)) := by
  obtain ⟨hkey, hkey', hblur, wl, hscene, hscene'⟩ := ha.inHand hg hg'
  have hd' : g'.isDeletionRequested = true :=
    (Goop.resembles_of_blur hblur).isDeletionRequested.symm.trans hd
  have hremoved : (g.removeFinalizer token).blur .ofStamps =
      (g'.removeFinalizer token).blur .ofStamps := by
    rw [Goop.blur_removeFinalizer, Goop.blur_removeFinalizer, hblur]
  have hfinalizers : (g.removeFinalizer token).finalizers = (g'.removeFinalizer token).finalizers :=
    Goop.same_of_blur hremoved fun _ => rfl
  -- the job goes away with its last finalizer
  by_cases hrest : (g.removeFinalizer token).finalizers = []
  · obtain ⟨x, t, hr, ht⟩ := hscene.release_last hkey hd hrest
    obtain ⟨x', t', hr', ht'⟩ := hscene'.release_last hkey' hd' (hfinalizers ▸ hrest)
    exact ha.answered hr hr' ht ht' rfl rfl
  · obtain ⟨x, t, hr, v, ht⟩ := hscene.release hkey hrest
    obtain ⟨x', t', hr', v', ht'⟩ := hscene'.release hkey' (hfinalizers ▸ hrest)
    exact ha.answered hr hr' ht ht' (congrArg some hremoved) rfl

/-- Creating the workload that the job in hand asks for. -/
theorem Abreast.create (ha : Abreast k s₀ s₀' h s h' s') (hg : inHand? k h = some g)
    (hg' : inHand? k h' = some g') {settings : Settings} {d : WorkloadSpec}
    (hplan : WorkloadSpec.plan g settings = .ok d) :
    GoAbreast k s₀ s₀' h s h' s' (.createWorkload d) (.createWorkload d) := by
  obtain ⟨hkey, hkey', hblur, wl, hscene, hscene'⟩ := ha.inHand hg hg'
  have hplan' : WorkloadSpec.plan g' settings = .ok d :=
    ((Goop.resembles_of_blur hblur).plan settings).symm.trans hplan
  cases wl with
  | none =>
    obtain ⟨t, hr, ht⟩ := hscene.create hkey hplan
    obtain ⟨t', hr', ht'⟩ := hscene'.create hkey' hplan'
    rw [← ha.nodes] at ht'
    exact ha.answered hr hr' ht ht' (congrArg some hblur) rfl
  | some wl =>
    obtain ⟨t, hr, ht⟩ := hscene.create_taken hkey hplan
    obtain ⟨t', hr', ht'⟩ := hscene'.create_taken hkey' hplan'
    exact ha.answered hr hr' ht ht' (congrArg some hblur) rfl

/-- Writing the job in hand. -/
theorem Abreast.write (ha : Abreast k s₀ s₀' h s h' s') (hg : inHand? k h = some g)
    (hg' : inHand? k h' = some g') {token : String} {c c' : StoreCall} (hw : WriteOf token g c)
    (hw' : WriteOf token g' c') (halike : CallsAlike .ofStamps c c') :
    GoAbreast k s₀ s₀' h s h' s' c c' := by
  obtain ⟨-, -, hblur, -⟩ := ha.inHand hg hg'
  have hdel := (Goop.resembles_of_blur hblur).isDeletionRequested
  cases hw with
  | attach hd hf =>
    cases hw' with
    | attach hd' hf' =>
      have hadd : g.addFinalizer token = g.withFinalizers (g.finalizers ++ [token]) := by
        rw [Goop.addFinalizer, if_neg (by simp [hf])]
      have hadd' : g'.addFinalizer token = g'.withFinalizers (g'.finalizers ++ [token]) := by
        rw [Goop.addFinalizer, if_neg (by simp [hf'])]
      rw [← hadd, ← hadd']
      exact ha.attach hg hg' hd token
    | release hd' hf' => cases (hd.symm.trans hdel).trans hd'
    | record hl => cases halike
  | release hd hf =>
    cases hw' with
    | attach hd' hf' => cases (hd.symm.trans hdel).trans hd'
    | release hd' hf' => exact ha.release hg hg' hd token
    | record hl => cases halike
  | record hl =>
    cases hw' with
    | attach hd' hf' => cases halike
    | release hd' hf' => cases halike
    | record hl' =>
      cases halike with
      | updateStatus hledgers => exact ha.updateStatus hg hg' hledgers

/-- Every call of a pass. -/
theorem Abreast.call (ha : Abreast cx.key s₀ s₀' h s h' s') {c c' : StoreCall} (hc : Calls cx h c)
    (hc' : Calls cx h' c') (halike : CallsAlike .ofStamps c c') :
    GoAbreast cx.key s₀ s₀' h s h' s' c c' := by
  cases hc with
  | read =>
    cases halike
    exact ha.get
  | look hwanted =>
    cases halike
    exact ha.getWorkload
  | write hg hw =>
    cases hc' with
    | write hg' hw' => exact ha.write hg hg' hw hw' halike
    | _ =>
      -- nothing but a write is like a write
      cases halike
      cases hw
  | create hg hs hl hd =>
    cases halike
    cases hc' with
    | write hg' hw' => cases hw'
    | create hg' hs' hl' hd' => exact ha.create hg hg' hs

/-- Looks at the time of day leave the passes side by side. -/
theorem Abreast.clock (ha : Abreast k s₀ s₀' h s h' s') (t t' : Timestamp) :
    Abreast k s₀ s₀' (⟨.clock, t⟩ :: h) s (⟨.clock, t'⟩ :: h') s' :=
  ⟨⟨ha.tied.quiet, ha.tied.keyed, ha.tied.held⟩, ⟨ha.tied'.quiet, ha.tied'.keyed, ha.tied'.held⟩,
    ha.scenes, ha.nodes⟩

/-- Passes over stores that hold the same at their key go side by side. -/
theorem couples_of_abreast {σ τ : Type} {respond : (e : Effect) → σ → e.Answer × σ}
    {respond' : (e : Effect) → τ → e.Answer × τ} {store : σ → MemoryStore} {store' : τ → MemoryStore}
    (hs : Serves respond store) (hs' : Serves respond' store') :
    Couples .ofStamps respond respond'
      (fun x x' => Abreast cx.key s₀ s₀' x.history (store x.state) x'.history (store' x'.state) ∧
        Everywhere (Asks cx) x.rest x.history ∧ Everywhere (Asks cx) x'.rest x'.history)
      (CallsAlike .ofStamps) := by
  refine ⟨fun ⟨ha, hasks, hasks'⟩ => ⟨rfl, ?_, hasks.2 _, hasks'.2 _⟩,
    fun ⟨ha, hasks, hasks'⟩ halike => ⟨halike, ?_⟩⟩
  · unfold Point.answered
    rw [hs.clock, hs'.clock]
    exact ha.clock _ _
  · have hgo := ha.call hasks.1.made hasks'.1.made halike
    unfold Point.answered
    rw [hs.after, hs'.after]
    refine ⟨?_, ?_, hasks.2 _, hasks'.2 _⟩
    · rw [hs.answer, hs'.answer]
      exact hgo.1
    · rw [hs.answer, hs'.answer]
      exact hgo.2

end abreast

/-! ## At one key -/

/-- A store delivers no failure, and loses no status write. -/
structure Reliable (s : MemoryStore) : Prop where
  /-- No failure waits. -/
  quiet : ∀ op, s.faults op = []
  /-- No status write is to be lost. -/
  losses : s.lossesLeft = 0

/-- The job at a key, if there is one, belongs there. -/
def KeyedAt (k : ObjectKey) (s : MemoryStore) : Prop :=
  ∀ g, s.goops.get? k = some g → g.key = .ok k

/-- Two stores hold the same at a key, but for versions and times. -/
structure SameAt (k : ObjectKey) (s s' : MemoryStore) : Prop where
  /-- The job. -/
  job : (s.goops.get? k).map (Goop.blur .ofStamps) = (s'.goops.get? k).map (Goop.blur .ofStamps)
  /-- The workload. -/
  workload : s.workloads.get? k = s'.workloads.get? k

theorem SameAt.symm {k : ObjectKey} {s s' : MemoryStore} (h : SameAt k s s') : SameAt k s' s :=
  ⟨h.job.symm, h.workload.symm⟩

theorem SameAt.trans {k : ObjectKey} {s s' t : MemoryStore} (h : SameAt k s s')
    (h' : SameAt k s' t) : SameAt k s t :=
  ⟨h.job.trans h'.job, h.workload.trans h'.workload⟩

/-- What a pass over a key leaves of all else: the jobs and the workloads at other keys are those that
were there, the nodes are as many, and the store is as reliable. -/
structure LeavesElse (k : ObjectKey) (s s' : MemoryStore) : Prop where
  /-- The jobs. -/
  jobs : ∀ k', k' ≠ k → s'.goops.get? k' = s.goops.get? k'
  /-- The workloads. -/
  workloads : ∀ k', k' ≠ k → s'.workloads.get? k' = s.workloads.get? k'
  /-- The nodes. -/
  nodes : s'.nodes = s.nodes
  /-- No failure waits, and no status write is to be lost. -/
  reliable : Reliable s'

section single

variable {cx : Context} {k : ObjectKey} {s s' : MemoryStore}

/-- At another key both stores hold the same. -/
theorem LeavesElse.sameAt (h : LeavesElse k s s') {k' : ObjectKey} (hk : k' ≠ k) :
    SameAt k' s' s := by
  refine ⟨?_, h.workloads k' hk⟩
  rw [h.jobs k' hk]

/-- At another key the job still belongs there. -/
theorem LeavesElse.keyedAt (h : LeavesElse k s s') {k' : ObjectKey} (hk : k' ≠ k)
    (hkeyed : KeyedAt k' s) : KeyedAt k' s' :=
  fun g hg => hkeyed g ((h.jobs k' hk).symm.trans hg)

/-- Passes that begin side by side. -/
theorem Abreast.start (h : Reliable s) (h' : Reliable s') (hkey : KeyedAt k s) (hkey' : KeyedAt k s')
    (hsame : SameAt k s s') (hnodes : s.nodes = s'.nodes) : Abreast k s s' [] s [] s' := by
  have hscene := Scene.of_quiet h.quiet k
  have hscene' := Scene.of_quiet h'.quiet k
  rw [h.losses] at hscene
  rw [h'.losses, ← hsame.workload] at hscene'
  refine ⟨⟨h.quiet, hkey, fun g hg => nomatch hg⟩, ⟨h'.quiet, hkey', fun g hg => nomatch hg⟩, ?_,
    hnodes⟩
  exact ⟨s.goops.get? k, s'.goops.get? k, s.workloads.get? k, hscene, hscene', hsame.job⟩

/-- What passes that are side by side leave. -/
theorem Abreast.leaves {s₀ s₀' : MemoryStore} {h h' : History} (ha : Abreast k s₀ s₀' h s h' s') :
    LeavesElse k s₀ s ∧ SameAt k s s' := by
  obtain ⟨o, o', wl, hscene, hscene', ho⟩ := ha.scenes
  refine ⟨⟨hscene.otherJobs, hscene.otherWorkloads, hscene.nodes, hscene.quiet, hscene.losses⟩, ?_, ?_⟩
  · rw [hscene.job, hscene'.job, ho]
  · rw [hscene.workload, hscene'.workload]

/-- A pass over a store that is reliable depends on nothing but what the store holds at its key, and
leaves all else. -/
theorem reconcile_local {σ τ : Type} {respond : (e : Effect) → σ → e.Answer × σ}
    {respond' : (e : Effect) → τ → e.Answer × τ} {store : σ → MemoryStore} {store' : τ → MemoryStore}
    (hs : Serves respond store) (hs' : Serves respond' store') (x : σ) (x' : τ)
    (ha : Abreast cx.key (store x) (store' x') [] (store x) [] (store' x')) :
    let p := reconcile chain cx
    (p.run respond x).1 = (p.run respond' x').1 ∧
      (LeavesElse cx.key (store x) (store (p.run respond x).2) ∧
        SameAt cx.key (store (p.run respond x).2) (store' (p.run respond' x').2)) ∧
      p.callCount respond x = p.callCount respond' x' ∧
      ∀ k, LeavesElse cx.key (store x) (store (p.stateAfter respond k x)) ∧
        SameAt cx.key (store (p.stateAfter respond k x)) (store' (p.stateAfter respond' k x')) := by
  have hruns := (reconcile_alike .ofStamps cx).run (couples_of_abreast hs hs')
    ⟨ha, reconcile_asks cx, reconcile_asks cx⟩
  obtain ⟨_, _, hend, -⟩ := hruns.final
  refine ⟨?_, hend.leaves, hruns.count, fun k => ?_⟩
  · have hresult := hruns.result
    rwa [Blur.result_eq rfl, Blur.result_eq rfl, Except.map_id] at hresult
  · obtain ⟨_, _, _, _, hstores, -⟩ := hruns.after k
    exact hstores.leaves

/-- The same of a pass in time, whenever it is run. -/
theorem runOver_local (latency : Duration) (timeOfDay : Instant → Timestamp) (cx : Context)
    (start start' : Instant)
    (h : Reliable s) (h' : Reliable s') (hkey : KeyedAt cx.key s) (hkey' : KeyedAt cx.key s')
    (hsame : SameAt cx.key s s') (hnodes : s.nodes = s'.nodes) :
    let run := runOver latency timeOfDay cx start s none
    let run' := runOver latency timeOfDay cx start' s' none
    run.1 = run'.1 ∧ LeavesElse cx.key s run.2 ∧ SameAt cx.key run.2 run'.2 := by
  have hserves := serves_surroundings latency timeOfDay
  obtain ⟨hresult, ⟨hleaves, hend⟩, hcalls, hafter⟩ := reconcile_local hserves hserves
    (start, .new s) (start', .new s') (Abreast.start h h' hkey hkey' hsame hnodes)
  change callsOf latency timeOfDay cx start s = callsOf latency timeOfDay cx start' s' at hcalls
  have hcx : cx = cx.withTimeout cx.settings.passTimeout := rfl
  rw [hcx]
  cases cx.settings.passTimeout with
  | none =>
    simp only [runOver_eq]
    exact ⟨hresult, hleaves, hend⟩
  | some T =>
    by_cases hT : callsOf latency timeOfDay cx start s * latency < T
    · rw [runOver_inTime hT, runOver_inTime (hcalls ▸ hT)]
      simp only [runOver_eq]
      exact ⟨hresult, hleaves, hend⟩
    · -- both passes stop after the same number of calls
      have hlate := Nat.not_lt.mp hT
      obtain ⟨k, -, hk, hrun⟩ := runOver_tooLate hlate
      obtain ⟨k', -, hk', hrun'⟩ := runOver_tooLate (hcalls ▸ hlate)
      obtain rfl := hk.unique hk'
      rw [hrun, hrun']
      exact ⟨rfl, hafter k⟩

end single

/-! ## Passes over two keys -/

/-- Of a store in memory in which each job is stored under its own key, no failure waits and no status
write is to be lost, a pass leaves the jobs and the workloads at other keys exactly as they are; and
passes over two different keys may be run in either order. Each of them ends in the same way, whether
it is the first or the second, and the jobs and the workloads that both leave are the same, but for
versions and the times in ledgers. -/
theorem passes_commute (cx₁ cx₂ : Context) (hne : cx₁.key ≠ cx₂.key) (s : MemoryStore)
    (hkeyed : ∀ k g, s.goops.get? k = some g → g.key = .ok k) (hquiet : ∀ op, s.faults op = [])
    (hlosses : s.lossesLeft = 0) (latency : Duration) (timeOfDay : Instant → Timestamp)
    (t₁ t₂ u₁ u₂ : Instant) :
    let first := runOver latency timeOfDay cx₁ t₁ s none
    let second := runOver latency timeOfDay cx₂ t₂ first.2 none
    let second' := runOver latency timeOfDay cx₂ u₂ s none
    let first' := runOver latency timeOfDay cx₁ u₁ second'.2 none
    (∀ k, k ≠ cx₁.key → first.2.goops.get? k = s.goops.get? k ∧
      first.2.workloads.get? k = s.workloads.get? k) ∧
    first.1 = first'.1 ∧ second.1 = second'.1 ∧ ∀ k, SameAt k second.2 first'.2 := by
  intro first second second' first'
  have hs : Reliable s := ⟨hquiet, hlosses⟩
  have hself (k : ObjectKey) : SameAt k s s := ⟨rfl, rfl⟩
  -- each pass, run first, leaves what the other one finds at its key
  obtain ⟨-, hfirst, -⟩ := runOver_local latency timeOfDay cx₁ t₁ t₁ hs hs (hkeyed _) (hkeyed _) (hself _) rfl
  obtain ⟨-, hsecond', -⟩ := runOver_local latency timeOfDay cx₂ u₂ u₂ hs hs (hkeyed _) (hkeyed _) (hself _) rfl
  obtain ⟨hresult₂, hsecond, hsame₂⟩ := runOver_local latency timeOfDay cx₂ t₂ u₂
    hfirst.reliable hs (hfirst.keyedAt hne.symm (hkeyed _)) (hkeyed _) (hfirst.sameAt hne.symm) hfirst.nodes
  obtain ⟨hresult₁, hfirst', hsame₁⟩ := runOver_local latency timeOfDay cx₁ u₁ t₁
    hsecond'.reliable hs (hsecond'.keyedAt hne (hkeyed _)) (hkeyed _) (hsecond'.sameAt hne) hsecond'.nodes
  refine ⟨fun k hk => ⟨hfirst.jobs k hk, hfirst.workloads k hk⟩, hresult₁.symm, hresult₂, fun k => ?_⟩
  by_cases hk₁ : k = cx₁.key
  · -- the second pass leaves what the first has made of its job
    subst hk₁
    exact (hsecond.sameAt hne).trans hsame₁.symm
  · by_cases hk₂ : k = cx₂.key
    · subst hk₂
      exact hsame₂.trans (hfirst'.sameAt hne.symm).symm
    · have horder := (hsecond.sameAt hk₂).trans (hfirst.sameAt hk₁)
      exact horder.trans ((hfirst'.sameAt hk₁).trans (hsecond'.sameAt hk₂)).symm

/-! ### A sample -/

namespace SamplePass

/-- Another job, which is to be deleted and is held by the finalizer of the operator. -/
def other : Goop :=
  { job with metadata := { job.metadata with
    name := some "other"
    deletionTimestamp := some noon
    finalizers := some [cx.settings.finalizer] } }

/-- A pass over the other job. -/
def otherCx : Context := { cx with key := ⟨"default", "other"⟩ }

/-- A store in which users have created both jobs. -/
def bothStore : MemoryStore := (store.insert other "other-uid" noon).2

/-- Each of them is stored under its own key. -/
theorem bothStore_keyed (k : ObjectKey) (g : Goop) (hg : bothStore.goops.get? k = some g) :
    g.key = .ok k := by
  change (if k = otherCx.key then some _ else if k = cx.key then some _ else none) = some g at hg
  split at hg
  · rename_i hk
    obtain rfl := Option.some.inj hg
    rw [hk]
    rfl
  · split at hg
    · rename_i hk
      obtain rfl := Option.some.inj hg
      rw [hk]
      rfl
    · cases hg

end SamplePass

open SamplePass in
/-- A pass starts the one job, and another pass lets the other job go: in either order. -/
theorem sample_commutes :
    let first := runOver 0 (fun _ => noon) cx 0 bothStore none
    let second := runOver 0 (fun _ => noon) otherCx 0 first.2 none
    let second' := runOver 0 (fun _ => noon) otherCx 0 bothStore none
    let first' := runOver 0 (fun _ => noon) cx 0 second'.2 none
    first.1 = first'.1 ∧ second.1 = .ok .now ∧ (second'.2.goops.get? otherCx.key).isNone ∧
      ∀ k, SameAt k second.2 first'.2 := by
  obtain ⟨-, hfirst, hsecond, hsame⟩ := passes_commute cx otherCx (by decide) bothStore
    bothStore_keyed (fun _ => rfl) rfl 0 (fun _ => noon) 0 0 0 0
  exact ⟨hfirst, hsecond.trans rfl, rfl, hsame⟩

end Lifecycle

end GoopOperator
