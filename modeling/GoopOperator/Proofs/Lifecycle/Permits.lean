import GoopOperator.Proofs.Ledger.Lifeline
import GoopOperator.Proofs.Pass.Path
import GoopOperator.Reconcile

/-!
# What a pass may ask for

A pass decides on copies that it has read. `Permits` lists what the lifecycle asks for, each request
with what the pass knows when it makes it: a condition is recorded where it is due in the copy
(`Warrants`), a finalizer is attached to a copy that lacks it, and released from a copy after the
cleanup of that copy has returned (`CleanupReturned`). `reconcile_follows` shows this once for the
whole pass, stage by stage, whatever the pass is answered.
-/

namespace GoopOperator

/-- Whether something that a pass asks for is a write to the store. -/
def Effect.isWrite : Effect → Bool
  | .call c => c.operation.isWrite
  | _ => false

namespace Lifecycle

open Pass

/-! ## Cleanup -/

/-- The lifecycle with some work before a finalizer is released. -/
def cleaning (cleanup : Cleanup) : Chain :=
  ⟨[start, attachFinalizer, release cleanup, create, complete]⟩

/-- What is left of the lifecycle where the finalizer may be released. -/
def releasing (cleanup : Cleanup) : Chain := ⟨[release cleanup, create, complete]⟩

/-- The cleanup writes nothing to the store, whatever it is answered. -/
def Cleanup.IsReadOnly (cleanup : Cleanup) : Prop :=
  ∀ cx g, Follows (fun _ e => e.isWrite = false) (fun _ _ => True) (cleanup cx g) []

/-- No work writes nothing. -/
theorem isReadOnly_nothing : Cleanup.IsReadOnly .nothing := fun _ _ => trivial

/-- The job is one to clean up after: its deletion is requested, and the operator's finalizer holds
it. -/
structure NeedsCleanup (cx : Context) (g : Goop) : Prop where
  /-- The release has not been recorded. -/
  unfinalized : g.ledger.isComplete .finalized = false
  /-- Deletion is requested. -/
  deletion : g.isDeletionRequested = true
  /-- The finalizer is there. -/
  held : g.hasFinalizer cx.settings.finalizer = true

/-- A pass, after the history `before`, has cleaned up after the job `g` that it had read, and the
cleanup has returned `r`. -/
structure CleanupReturned (cleanup : Cleanup) (cx : Context) (before during : History) (g : Goop)
    (r : Except PassError Unit) : Prop where
  /-- The job has been read. -/
  read : HasRead cx.key before g
  /-- It is one to clean up after. -/
  needs : NeedsCleanup cx g
  /-- The pass had come to the release of its finalizer. -/
  reached : Path (reconcile (cleaning cleanup) cx) before (Chain.run (releasing cleanup) cx g)
  /-- The cleanup has returned. -/
  returned : Path (cleanup cx g) during (done r)

/-! ## What the pass knows -/

/-- A job has been read in whose ledger something is recorded. -/
def Begun (cx : Context) (h : History) : Prop :=
  ∃ g, HasRead cx.key h g ∧ g.ledger.isInitial = false

/-- The operator's finalizer has been attached to a job that had been read, and the next thing was
that `g` was read. -/
def Attached (cx : Context) (h : History) (g : Goop) : Prop :=
  ∃ during before g₀ g₁, HasRead cx.key before g₀ ∧
    h = during ++ ⟨.call (.get cx.key), Except.ok g⟩ ::
      ⟨.call (.update (g₀.addFinalizer cx.settings.finalizer)), Except.ok g₁⟩ :: before

/-- A workload has been found after `g` had been read. -/
def Found (cx : Context) (h : History) (g : Goop) : Prop :=
  ∃ during before r, HasRead cx.key before g ∧
    h = during ++ ⟨.call (.getWorkload cx.key), Except.ok r⟩ :: before

/-- The workload that is run for `g` has been created after `g` had been read. -/
def Made (cx : Context) (h : History) (g : Goop) : Prop :=
  ∃ during before d, HasRead cx.key before g ∧ WorkloadSpec.plan g cx.settings = .ok d ∧
    h = during ++ ⟨.call (.createWorkload d), Except.ok ()⟩ :: before

/-- What a pass knows that records a condition in the ledger of `g`. -/
inductive Warrants (cx : Context) (h : History) (g : Goop) : Condition → Prop where
  /-- Nothing is recorded yet. -/
  | starting (hl : g.ledger.isInitial = true) : Warrants cx h g starting
  /-- Initialization has begun, and the finalizer has been attached, unless the job is to go. -/
  | initialized (hl : g.ledger.isIncomplete .initialized = true)
    (hf : g.hasFinalizer cx.settings.finalizer = true ∨ g.isDeletionRequested = true ∨
      Attached cx h g) : Warrants cx h g initialized
  /-- The finalizer is gone from a job that is to go and had begun. -/
  | finalized (hl : g.ledger.isComplete .finalized = false) (hb : Begun cx h)
    (hd : g.isDeletionRequested = true) (hf : g.hasFinalizer cx.settings.finalizer = false) :
    Warrants cx h g (finalized g)
  /-- Initialization is complete, and there is a workload. -/
  | adopted (hl : g.ledger.isComplete .initialized = true) (hd : g.isDeletionRequested = false)
    (hw : Found cx h g) : Warrants cx h g (adopted g)
  /-- Initialization is complete, and the workload has been created. -/
  | created (hl : g.ledger.isComplete .initialized = true) (hd : g.isDeletionRequested = false)
    (hw : Made cx h g) : Warrants cx h g (created g)
  /-- The workload of a deployed job is gone. -/
  | missing (hl : g.ledger.isComplete .deployed = true) : Warrants cx h g (missing g)
  /-- The workload of a deployed job has run everywhere. -/
  | completed (hl : g.ledger.isComplete .deployed = true) : Warrants cx h g (completed g)

/-- What a pass over a job may ask for after a history. -/
inductive Permits (cleanup : Cleanup) (cx : Context) (h : History) : Effect → Prop where
  /-- Anything that writes nothing to the store. -/
  | reading {e : Effect} (he : e.isWrite = false) : Permits cleanup cx h e
  /-- Recording a condition in a copy. -/
  | record {g : Goop} {c : Condition} {now : String} {l : Ledger} (hg : HasRead cx.key h g)
    (hc : Warrants cx h g c) (hl : g.ledger.set? c now = some l) :
    Permits cleanup cx h (.call (.updateStatus (g.withLedger l)))
  /-- Attaching the finalizer to a copy. -/
  | attach {g : Goop} (hg : HasRead cx.key h g) (hl : g.ledger.isState .initialized = true)
    (hd : g.isDeletionRequested = false) :
    Permits cleanup cx h (.call (.update (g.addFinalizer cx.settings.finalizer)))
  /-- Releasing the finalizer of a copy that has just been cleaned up after. -/
  | release {before during : History} {g : Goop} (hh : h = during ++ before)
    (hc : CleanupReturned cleanup cx before during g (.ok ())) :
    Permits cleanup cx h (.call (.update (g.removeFinalizer cx.settings.finalizer)))
  /-- Creating the workload of a copy that is initialized. -/
  | create {g : Goop} {d : WorkloadSpec} (hg : HasRead cx.key h g)
    (hl : g.ledger.isComplete .initialized = true) (hd : g.isDeletionRequested = false)
    (hs : WorkloadSpec.plan g cx.settings = .ok d) :
    Permits cleanup cx h (.call (.createWorkload d))

/-- What was known stays known. -/
theorem Begun.append {cx : Context} {h : History} (hb : Begun cx h) (t : History) :
    Begun cx (t ++ h) := by
  obtain ⟨g, hg, hl⟩ := hb
  exact ⟨g, hg.append t, hl⟩

/-- What was attached stays attached. -/
theorem Attached.append {cx : Context} {h : History} {g : Goop} (ha : Attached cx h g)
    (t : History) : Attached cx (t ++ h) g := by
  obtain ⟨during, before, g₀, g₁, hg₀, rfl⟩ := ha
  exact ⟨t ++ during, before, g₀, g₁, hg₀, (List.append_assoc t during _).symm⟩

/-- What was found stays found. -/
theorem Found.append {cx : Context} {h : History} {g : Goop} (hw : Found cx h g) (t : History) :
    Found cx (t ++ h) g := by
  obtain ⟨during, before, r, hg, rfl⟩ := hw
  exact ⟨t ++ during, before, r, hg, (List.append_assoc t during _).symm⟩

/-- What was created stays created. -/
theorem Made.append {cx : Context} {h : History} {g : Goop} (hw : Made cx h g) (t : History) :
    Made cx (t ++ h) g := by
  obtain ⟨during, before, d, hg, hplan, rfl⟩ := hw
  exact ⟨t ++ during, before, d, hg, hplan, (List.append_assoc t during _).symm⟩

/-- What warranted a condition still does. -/
theorem Warrants.append {cx : Context} {h : History} {g : Goop} {c : Condition}
    (hc : Warrants cx h g c) (t : History) : Warrants cx (t ++ h) g c := by
  cases hc with
  | starting hl => exact .starting hl
  | initialized hl hf => exact .initialized hl (hf.imp_right (Or.imp_right fun h => h.append t))
  | finalized hl hb hd hf => exact .finalized hl (hb.append t) hd hf
  | adopted hl hd hw => exact .adopted hl hd (hw.append t)
  | created hl hd hw => exact .created hl hd (hw.append t)
  | missing hl => exact .missing hl
  | completed hl => exact .completed hl

/-! ## Stage by stage -/

section stages

variable {cleanup : Cleanup} {cx : Context} {h : History} {g : Goop}

/-- A pass hands on a job that it has read, and has only been answered more. -/
def HandsOn (cx : Context) (h : History) (t : History) (g : Goop) : Prop :=
  HasRead cx.key t g ∧ ∃ u, t = u ++ h

/-- The job that a pass goes on with after a read. -/
theorem follows_fetch {b : History} (hu : ∃ u, h = u ++ b) :
    Follows (Permits cleanup cx) (fun t r => ∀ g, r = .ok g → HandsOn cx b t g) cx.fetch h := by
  refine ⟨.reading rfl, fun a g ha => ?_⟩
  obtain ⟨u, rfl⟩ := hu
  refine ⟨?_, _ :: u, rfl⟩
  rw [ha]
  exact List.mem_cons_self

/-- Recording a condition that is warranted. -/
theorem follows_record {c : Condition} (hg : HasRead cx.key h g) (hc : Warrants cx h g c) :
    Follows (Permits cleanup cx) (fun t r => ∀ g', r = .ok g' → HandsOn cx h t g')
      (record cx g c) h := by
  unfold record
  rw [follows_bind, follows_clock]
  refine ⟨.reading rfl, fun now => ?_⟩
  simp only
  cases hl : g.ledger.set? c now.toText with
  | none =>
    intro g' hg'
    cases hg'
    exact ⟨hg.append [_], [_], rfl⟩
  | some l =>
    simp only
    rw [follows_bind, follows_call]
    refine ⟨.record (hg.append [_]) (hc.append [_]) hl, fun a => ?_⟩
    cases a with
    | error e => exact fun g' hg' => nomatch hg'
    | ok _ => exact follows_fetch ⟨[_, _], rfl⟩

/-- Starting a ledger. -/
theorem follows_start (hg : HasRead cx.key h g) :
    Follows (Permits cleanup cx)
      (fun t r => ∀ g', r = .ok (.next g') → HandsOn cx h t g' ∧ Begun cx t)
      (start.handle cx g) h := by
  unfold start
  simp only
  split
  · rename_i hl
    rw [follows_bind]
    refine (follows_record hg (.starting hl)).mono fun t r ht => ?_
    cases r with
    | error e => exact fun g' hg' => nomatch hg'
    | ok g' =>
      intro g'' hg''
      obtain ⟨hread, hu⟩ := ht g' rfl
      -- an empty ledger ends the pass
      split at hg''
      · cases hg''
      · rename_i hl'
        cases hg''
        exact ⟨⟨hread, hu⟩, g', hread, by simpa using hl'⟩
  · rename_i hl
    intro g' hg'
    cases hg'
    exact ⟨⟨hg, [], rfl⟩, g, hg, by simpa using hl⟩

/-- Attaching the finalizer. -/
theorem follows_attachToken (hg : HasRead cx.key h g) :
    Follows (Permits cleanup cx)
      (fun t r => ∀ g', r = .ok g' → HandsOn cx h t g' ∧
        (g'.ledger.isIncomplete .initialized = true →
          g'.hasFinalizer cx.settings.finalizer = true ∨ g'.isDeletionRequested = true ∨
            Attached cx t g'))
      (attachToken cx g) h := by
  unfold attachToken
  simp only
  split
  · rename_i hcond
    obtain ⟨hstate, htoken, hdel⟩ := hcond
    rw [follows_bind, follows_call]
    refine ⟨.attach hg hstate (by simpa using hdel), fun a => ?_⟩
    cases a with
    | error e => exact fun g' hg' => nomatch hg'
    | ok g₁ =>
      refine ⟨.reading rfl, fun a g' ha => ?_⟩
      rw [ha]
      refine ⟨⟨List.mem_cons_self, [_, _], rfl⟩, fun _ => Or.inr (Or.inr ?_)⟩
      -- the copy that is read now may lack the finalizer, but the pass has attached it
      exact ⟨[], h, g, g₁, hg, rfl⟩
  · rename_i hcond
    intro g' hg'
    cases hg'
    refine ⟨⟨hg, [], rfl⟩, fun hl => ?_⟩
    have hstate : g.ledger.isState .initialized = true := by
      rw [Ledger.isState_eq, hl, Bool.or_true]
    by_cases htoken : g.hasFinalizer cx.settings.finalizer = true
    · exact Or.inl htoken
    · right
      left
      cases hdel : g.isDeletionRequested with
      | true => rfl
      | false => exact absurd ⟨hstate, htoken, by simp [hdel]⟩ hcond

/-- Attaching the finalizer, and recording that initialization is complete. -/
theorem follows_attachFinalizer (hg : HasRead cx.key h g) :
    Follows (Permits cleanup cx) (fun t r => ∀ g', r = .ok (.next g') → HandsOn cx h t g')
      (attachFinalizer.handle cx g) h := by
  unfold attachFinalizer
  simp only
  rw [follows_bind]
  refine (follows_attachToken hg).mono fun t r ht => ?_
  cases r with
  | error e => exact fun g' hg' => nomatch hg'
  | ok g₁ =>
    obtain ⟨⟨hread, u, rfl⟩, hwarrant⟩ := ht g₁ rfl
    simp only
    split
    · rename_i hl
      rw [follows_bind]
      refine (follows_record hread (.initialized hl (hwarrant hl))).mono fun t r ht => ?_
      cases r with
      | error e => exact fun g' hg' => nomatch hg'
      | ok g₂ =>
        intro g' hg'
        cases hg'
        obtain ⟨hread', u', rfl⟩ := ht g₂ rfl
        exact ⟨hread', u' ++ u, (List.append_assoc u' u h).symm⟩
    · intro g' hg'
      cases hg'
      exact ⟨hread, u, rfl⟩

/-- The cleanup of a job. -/
theorem follows_cleanup (hclean : cleanup.IsReadOnly) (hg : HasRead cx.key h g)
    (hneeds : NeedsCleanup cx g)
    (hreached : Path (reconcile (cleaning cleanup) cx) h (Chain.run (releasing cleanup) cx g)) :
    Follows (Permits cleanup cx)
      (fun t r => ∃ u, t = u ++ h ∧ CleanupReturned cleanup cx h u g r) (cleanup cx g) h := by
  refine (hclean cx g).shift (t := []) (fun t e he => .reading he) fun u r hu => ⟨u, by simp, ?_⟩
  exact ⟨hg, hneeds, hreached, hu⟩

/-- Releasing the finalizer. -/
theorem follows_release (hclean : cleanup.IsReadOnly) (hg : HasRead cx.key h g) (hb : Begun cx h)
    (hreached : Path (reconcile (cleaning cleanup) cx) h (Chain.run (releasing cleanup) cx g)) :
    Follows (Permits cleanup cx)
      (fun t r => ∀ g', r = .ok (.next g') →
        HandsOn cx h t g' ∧ g'.isDeletionRequested = false)
      ((release cleanup).handle cx g) h := by
  unfold release
  simp only
  split
  · exact fun g' hg' => nomatch hg'
  rename_i hl
  have hl : g.ledger.isComplete .finalized = false := by simpa using hl
  split
  · rename_i hd
    intro g' hg'
    cases hg'
    exact ⟨⟨hg, [], rfl⟩, by simpa using hd⟩
  rename_i hd
  have hd : g.isDeletionRequested = true := by simpa using hd
  split
  · rename_i hf
    rw [follows_bind]
    refine (follows_cleanup hclean hg ⟨hl, hd, hf⟩ hreached).mono fun t r ht => ?_
    obtain ⟨u, rfl, hreturned⟩ := ht
    cases r with
    | error e => exact fun g' hg' => nomatch hg'
    | ok _ =>
      simp only
      rw [follows_bind, follows_call]
      refine ⟨.release rfl hreturned, fun a => ?_⟩
      cases a with
      | error e => exact fun g' hg' => nomatch hg'
      | ok _ => exact fun g' hg' => nomatch hg'
  · rename_i hf
    rw [follows_bind, follows_attempt]
    refine (follows_record hg (.finalized hl hb hd (by simpa using hf))).mono fun t r _ => ?_
    simp only
    cases r with
    | ok _ => exact fun g' hg' => nomatch hg'
    | error e =>
      simp only
      split <;> exact fun g' hg' => nomatch hg'

/-- Creating the workload. -/
theorem follows_create (hg : HasRead cx.key h g) (hd : g.isDeletionRequested = false) :
    Follows (Permits cleanup cx) (fun t r => ∀ g', r = .ok (.next g') → HandsOn cx h t g')
      (create.handle cx g) h := by
  unfold create
  simp only
  split
  · intro g' hg'
    cases hg'
    exact ⟨hg, [], rfl⟩
  rename_i hl
  have hl : g.ledger.isComplete .initialized = true := by simpa using hl
  rw [follows_bind, follows_attempt, follows_call]
  refine ⟨.reading rfl, fun a => ?_⟩
  cases a with
  | ok workload =>
    simp only
    rw [follows_bind]
    have hfound : Found cx (⟨.call (.getWorkload cx.key), Except.ok workload⟩ :: h) g :=
      ⟨[], h, workload, hg, rfl⟩
    refine (follows_record (hg.append [_]) (.adopted hl hd hfound)).mono fun t r ht => ?_
    cases r with
    | error e => exact fun g' hg' => nomatch hg'
    | ok g₁ =>
      intro g' hg'
      cases hg'
      obtain ⟨hread, u, rfl⟩ := ht g₁ rfl
      exact ⟨hread, u ++ [_], (List.append_assoc u [_] h).symm⟩
  | error e =>
    simp only
    split
    · rw [follows_bind]
      cases hs : WorkloadSpec.plan g cx.settings with
      | error e => exact fun g' hg' => nomatch hg'
      | ok d =>
        show Follows _ _ (call (.createWorkload d) >>= _) _
        rw [follows_bind, follows_call]
        -- the pass records the deployment on the copy that it has read before
        refine ⟨.create (hg.append [_]) hl hd hs, fun a => ?_⟩
        cases a with
        | error e => exact fun g' hg' => nomatch hg'
        | ok _ =>
          simp only
          rw [follows_bind]
          have hmade : Made cx (⟨.call (.createWorkload d), Except.ok ()⟩ ::
              ⟨.call (.getWorkload cx.key), .error e⟩ :: h) g :=
            ⟨[], _, d, hg.append [_], hs, rfl⟩
          refine (follows_record (hg.append [_, _]) (.created hl hd hmade)).mono fun t r _ => ?_
          cases r <;> exact fun g' hg' => nomatch hg'
    · exact fun g' hg' => nomatch hg'

/-- Looking whether the workload is complete. -/
theorem follows_complete (hg : HasRead cx.key h g) :
    Follows (Permits cleanup cx) (fun _ _ => True) (complete.handle cx g) h := by
  unfold complete
  simp only
  split
  · trivial
  rename_i hl
  have hl : g.ledger.isComplete .deployed = true := by simpa using hl
  rw [follows_bind, follows_attempt, follows_call]
  refine ⟨.reading rfl, fun a => ?_⟩
  cases a with
  | error e =>
    simp only
    split
    · rw [follows_bind]
      refine (follows_record (hg.append [_]) (.missing hl)).mono fun t r _ => ?_
      cases r <;> trivial
    · trivial
  | ok workload =>
    simp only
    split
    · rw [follows_bind]
      refine (follows_record (hg.append [_]) (.completed hl)).mono fun t r _ => ?_
      cases r <;> trivial
    · trivial

end stages

/-! ## The whole pass -/

/-- A pass asks only for what is permitted, whatever it is answered. -/
theorem reconcile_follows {cleanup : Cleanup} (hclean : cleanup.IsReadOnly) (cx : Context) :
    Follows (Permits cleanup cx) (fun _ _ => True) (reconcile (cleaning cleanup) cx) [] := by
  unfold reconcile
  rw [follows_bind, follows_attempt]
  refine (follows_fetch (b := []) ⟨[], rfl⟩).reached.mono fun t r ht => ?_
  obtain ⟨hpost, h, rfl, hpath⟩ := ht
  cases r with
  | error e =>
    simp only
    split <;> trivial
  | ok g =>
    obtain ⟨hg, -⟩ := hpost g rfl
    -- the pass has come to the chain
    have hreached : Path (reconcile (cleaning cleanup) cx) (h ++ [])
        (Chain.run (cleaning cleanup) cx g) := by
      rw [List.append_nil]
      exact hpath.attempt.bind _
    refine follows_stages (follows_start hg) fun u₁ g₁ hu₁ hpost₁ => ?_
    obtain ⟨⟨hg₁, -⟩, hb₁⟩ := hpost₁
    refine follows_stages (follows_attachFinalizer hg₁) fun u₂ g₂ hu₂ hpost₂ => ?_
    obtain ⟨hg₂, -⟩ := hpost₂
    have hreached₂ := (hreached.trans (path_next hu₁)).trans (path_next hu₂)
    refine follows_stages (follows_release hclean hg₂ (hb₁.append u₂) hreached₂)
      fun u₃ g₃ hu₃ hpost₃ => ?_
    obtain ⟨⟨hg₃, -⟩, hd₃⟩ := hpost₃
    refine follows_stages (follows_create hg₃ hd₃) fun u₄ g₄ hu₄ hpost₄ => ?_
    refine follows_stages (Q := fun _ _ => True)
      ((follows_complete hpost₄.1).mono fun _ _ _ _ _ => trivial) fun u₅ g₅ hu₅ _ => trivial

end Lifecycle

end GoopOperator
