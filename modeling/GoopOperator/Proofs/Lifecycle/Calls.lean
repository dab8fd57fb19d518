import GoopOperator.Proofs.Lifecycle.Permits

/-!
# The calls of a pass

After a read a pass has a job in hand (`inHand?`), until it writes it. `CallSite` says what is known
of a call wherever a pass makes it: it is one of a few kinds (`Calls`), a job is written from the one
in hand (`WriteOf`), a failure is taken in one of four ways (`AfterFailure`), nothing is called after
a release, and there were few calls before.

`reconcile_asks` shows this once for the whole pass, whatever the store answers. The stages are gone
through in the order of the chain. Each lemma about a stage takes what follows the stage as a
hypothesis: what is left of a pass after a failed call is only seen with all that follows.
-/

namespace GoopOperator

/-! ## The job in hand -/

/-- Whether something that a pass asks for is a call of the store. -/
def Effect.isCall : Effect → Bool
  | .call _ => true
  | _ => false

/-- Whether something that a pass asks for reads or writes a job. -/
def Effect.concernsJob : Effect → Bool
  | .call (.get _) | .call (.update _) | .call (.updateStatus _) => true
  | _ => false

/-- Whether something that a pass asks for writes a job. -/
def Effect.writesJob : Effect → Bool
  | .call (.update _) | .call (.updateStatus _) => true
  | _ => false

/-- The job at a key as a pass has read it last, unless it has written it since. -/
def inHand? (k : ObjectKey) : History → Option Goop
  | [] => none
  | ⟨.call (.get key), a⟩ :: _ => if key = k then a.toOption else none
  | ⟨.call (.update _), _⟩ :: _ => none
  | ⟨.call (.updateStatus _), _⟩ :: _ => none
  | _ :: h => inHand? k h

@[simp] theorem inHand?_get (k : ObjectKey) (g : Goop) (h : History) :
    inHand? k (⟨.call (.get k), .ok g⟩ :: h) = some g := if_pos rfl

/-- What does not concern jobs leaves the one in hand. -/
theorem inHand?_cons {e : Effect} (he : e.concernsJob = false) (k : ObjectKey) (a : e.Answer)
    (h : History) : inHand? k (⟨e, a⟩ :: h) = inHand? k h := by
  cases e with
  | clock => rfl
  | work task => rfl
  | call c =>
    cases c with
    | getWorkload key => rfl
    | createWorkload d => rfl
    | _ => cases he

/-- No job is in hand right after a write. -/
theorem inHand?_write {e : Effect} (he : e.writesJob = true) (k : ObjectKey) (a : e.Answer)
    (h : History) : inHand? k (⟨e, a⟩ :: h) = none := by
  cases e with
  | call c =>
    cases c with
    | update g => rfl
    | updateStatus g => rfl
    | _ => cases he
  | _ => cases he

/-- A job in hand was in hand before, or has just been read. -/
theorem inHand?_cons_cases {k : ObjectKey} {e : Effect} {a : e.Answer} {h : History} {g : Goop}
    (hg : inHand? k (⟨e, a⟩ :: h) = some g) :
    e.concernsJob = false ∧ inHand? k h = some g ∨
      (⟨e, a⟩ : Event) = ⟨.call (.get k), Except.ok g⟩ := by
  cases he : e.concernsJob with
  | false =>
    rw [inHand?_cons he] at hg
    exact Or.inl ⟨rfl, hg⟩
  | true =>
    cases hw : e.writesJob with
    | true => exact nomatch (inHand?_write hw k a h).symm.trans hg
    | false =>
      right
      -- only a read is left
      cases e with
      | clock => cases he
      | work task => cases he
      | call c =>
        cases c with
        | get key =>
          change (if key = k then Except.toOption a else none) = some g at hg
          split at hg
          · rename_i hk
            subst hk
            cases a with
            | error e => cases hg
            | ok g' =>
              obtain rfl := Option.some.inj hg
              rfl
          · cases hg
        | update g => cases hw
        | updateStatus g => cases hw
        | getWorkload key => cases he
        | createWorkload d => cases he

/-- Between a write and a job in hand there is the read of that job. -/
theorem hasRead_of_inHand? {k : ObjectKey} {g : Goop} {before : History}
    (hbefore : inHand? k before = none) :
    ∀ {h : History}, inHand? k (h ++ before) = some g → HasRead k h g
  | [], hg => nomatch hbefore.symm.trans hg
  | _ :: _, hg => by
    rcases inHand?_cons_cases hg with ⟨-, hg⟩ | heq
    · exact List.mem_cons_of_mem _ (hasRead_of_inHand? hbefore hg)
    · exact List.mem_cons.mpr (Or.inl heq.symm)

/-- The job in hand has been read. -/
theorem hasRead_of_inHand {k : ObjectKey} {g : Goop} {h : History} (hg : inHand? k h = some g) :
    HasRead k h g :=
  have hnone : inHand? k [] = none := rfl
  hasRead_of_inHand? hnone (by rwa [List.append_nil])

/-! ## Numbers of calls -/

/-- The number of calls in a history. -/
def callsIn (h : History) : Nat := h.countP fun x => x.effect.isCall

/-- The number of calls in a history that write to the store. -/
def writesIn (h : History) : Nat := h.countP fun x => x.effect.isWrite

@[simp] theorem callsIn_call (c : StoreCall) (a : (Effect.call c).Answer) (h : History) :
    callsIn (⟨.call c, a⟩ :: h) = callsIn h + 1 := List.countP_cons_of_pos rfl

@[simp] theorem callsIn_clock (t : Timestamp) (h : History) :
    callsIn (⟨.clock, t⟩ :: h) = callsIn h := List.countP_cons_of_neg Bool.false_ne_true

theorem writesIn_write {e : Effect} (he : e.isWrite = true) (a : e.Answer) (h : History) :
    writesIn (⟨e, a⟩ :: h) = writesIn h + 1 := List.countP_cons_of_pos he

theorem writesIn_other {e : Effect} (he : e.isWrite = false) (a : e.Answer) (h : History) :
    writesIn (⟨e, a⟩ :: h) = writesIn h := List.countP_cons_of_neg (by simp [he])

namespace Lifecycle

open Pass

/-! ## What a pass calls -/

/-- What a pass may write of a job `g` that it has in hand: the finalizer is added at the end, or
every occurrence of it is taken away, or one condition is recorded. -/
inductive WriteOf (token : String) (g : Goop) : StoreCall → Prop where
  /-- The finalizer is attached to a job that lacks it and whose deletion is not requested. -/
  | attach (hd : g.isDeletionRequested = false) (hf : g.hasFinalizer token = false) :
    WriteOf token g (.update (g.withFinalizers (g.finalizers ++ [token])))
  /-- The finalizer is released from a job that has it and whose deletion is requested. -/
  | release (hd : g.isDeletionRequested = true) (hf : g.hasFinalizer token = true) :
    WriteOf token g (.update (g.withFinalizers (g.finalizers.filter (· ≠ token))))
  /-- A condition is recorded that changes the ledger. -/
  | record {c : Condition} {now : String} {l : Ledger} (hl : g.ledger.set? c now = some l) :
    WriteOf token g (.updateStatus (g.withLedger l))

/-- A job has been read whose deletion was not requested. -/
def Wanted (cx : Context) (h : History) : Prop :=
  ∃ g, HasRead cx.key h g ∧ g.isDeletionRequested = false

/-- The calls of a pass, each with what the pass knows when it makes it. -/
inductive Calls (cx : Context) (h : History) : StoreCall → Prop where
  /-- The job is read. -/
  | read : Calls cx h (.get cx.key)
  /-- The job in hand is written. -/
  | write {g : Goop} {c : StoreCall} (hg : inHand? cx.key h = some g)
    (hw : WriteOf cx.settings.finalizer g c) : Calls cx h c
  /-- The workload of a job that is wanted is looked at. -/
  | look (hwanted : Wanted cx h) : Calls cx h (.getWorkload cx.key)
  /-- The workload of the job in hand is created. Its initialization is complete and its deletion is
  not requested. -/
  | create {g : Goop} {d : WorkloadSpec} (hg : inHand? cx.key h = some g)
    (hs : WorkloadSpec.plan g cx.settings = .ok d)
    (hl : g.ledger.isComplete .initialized = true) (hd : g.isDeletionRequested = false) :
    Calls cx h (.createWorkload d)

/-! ## What becomes of a pass after a failed call -/

/-- The call records in the job in hand that its finalizer has been released. -/
def RecordsFinalized (k : ObjectKey) (h : History) (c : StoreCall) : Prop :=
  ∃ g x now l, inHand? k h = some g ∧ x.reason = .finalized ∧ g.ledger.set? x now = some l ∧
    c = .updateStatus (g.withLedger l)

/-- The calls at which a job may well be gone. -/
inductive MayBeGone (cx : Context) : History → StoreCall → Prop where
  /-- The first read. -/
  | first : MayBeGone cx [] (.get cx.key)
  /-- The record that the finalizer has been released. -/
  | recording {h : History} {c : StoreCall} (hc : RecordsFinalized cx.key h c) : MayBeGone cx h c
  /-- The read after that. -/
  | confirming {h : History} {c : StoreCall} {a : c.Answer} (hc : RecordsFinalized cx.key h c) :
    MayBeGone cx (⟨.call c, .ok a⟩ :: h) (.get cx.key)

/-- What a pass does that finds no workload of a job whose initialization is complete. -/
def creating (cx : Context) (g : Goop) : Pass Requeue := do
  let spec ← Pass.ofExcept (WorkloadSpec.plan g cx.settings)
  let _ ← Pass.call (.createWorkload spec)
  let _ ← record cx g (created g)
  return .after cx.settings.pollInterval

/-- What a pass does that finds no workload of a job that has been deployed. -/
def reporting (cx : Context) (g : Goop) : Pass Requeue := do
  let _ ← record cx g (missing g)
  Pass.fail (.missingWorkload cx.key)

/-- What is left of a pass after a call of it has failed. -/
inductive AfterFailure (cx : Context) (h : History) (c : StoreCall) (e : PassError) :
    Pass Requeue → Prop where
  /-- The pass ends with the failure, unless that is the want of something that may be wanting. -/
  | surfaced (he : e.isNotFound = true → ¬ MayBeGone cx h c ∧ c ≠ .getWorkload cx.key) :
    AfterFailure cx h c e (.done (.error e))
  /-- The job is gone, and the pass has nothing to do. -/
  | gone (he : e.isNotFound = true) (hc : MayBeGone cx h c) :
    AfterFailure cx h c e (.done (.ok .never))
  /-- The job has no workload yet, and the pass creates it. -/
  | uncreated {g : Goop} (he : e.isNotFound = true) (hc : c = .getWorkload cx.key)
    (hg : inHand? cx.key h = some g) (hl : g.ledger.isComplete .initialized = true) :
    AfterFailure cx h c e (creating cx g)
  /-- The job has lost its workload, and the pass reports that. -/
  | lost {g : Goop} (he : e.isNotFound = true) (hc : c = .getWorkload cx.key)
    (hg : inHand? cx.key h = some g) (hl : g.ledger.isComplete .deployed = true) :
    AfterFailure cx h c e (reporting cx g)

/-- What is known of a call that a pass makes after the history `h` and goes on from with `next`. -/
structure CallSite (cx : Context) (h : History) (c : StoreCall)
    (next : (Effect.call c).Answer → Pass Requeue) : Prop where
  /-- It is one of the calls of the lifecycle. -/
  made : Calls cx h c
  /-- What becomes of the pass if the call fails. -/
  failure : ∀ e, AfterFailure cx h c e (next (.error e))
  /-- After the release of a finalizer the pass ends. -/
  last : ∀ g g', inHand? cx.key h = some g → g.isDeletionRequested = true → c = .update g' →
    ∀ a, ∃ r, next a = .done r
  /-- There were fewer than 13 calls before. -/
  calls : callsIn h < 13
  /-- Before a write there were fewer than 5 writes. -/
  writes : (Effect.call c).isWrite = true → writesIn h < 5

/-- What is known of something that a pass asks for. It does no work outside the store. -/
def Asks (cx : Context) (h : History) : (e : Effect) → (e.Answer → Pass Requeue) → Prop
  | .call c, next => CallSite cx h c next
  | .clock, _ => True
  | .work _, _ => False

/-! ## A pass on its way -/

/-- A pass goes on with the job `g` in hand, after at most `n` calls and `m` writes. -/
structure Carries (cx : Context) (n m : Nat) (h : History) (g : Goop) : Prop where
  /-- The job is in hand. -/
  inHand : inHand? cx.key h = some g
  /-- The number of calls. -/
  calls : callsIn h ≤ n
  /-- The number of writes. -/
  writes : writesIn h ≤ m

section sites

variable {cx : Context} {n m : Nat} {h : History} {g : Goop}

/-- There may have been fewer calls. -/
theorem Carries.mono (hg : Carries cx n m h g) {n' m' : Nat} (hn : n ≤ n') (hm : m ≤ m') :
    Carries cx n' m' h g :=
  ⟨hg.inHand, Nat.le_trans hg.calls hn, Nat.le_trans hg.writes hm⟩

/-- After a look at the clock. -/
theorem Carries.clock (hg : Carries cx n m h g) (t : Timestamp) :
    Carries cx n m (⟨.clock, t⟩ :: h) g := by
  refine ⟨hg.inHand, ?_, ?_⟩
  · rw [callsIn_clock]
    exact hg.calls
  · rw [writesIn_other rfl]
    exact hg.writes

/-- After a look at the workload. -/
theorem Carries.look (hg : Carries cx n m h g) (k : ObjectKey)
    (a : (Effect.call (.getWorkload k)).Answer) :
    Carries cx (n + 1) m (⟨.call (.getWorkload k), a⟩ :: h) g := by
  refine ⟨hg.inHand, ?_, ?_⟩
  · rw [callsIn_call]
    exact Nat.succ_le_succ hg.calls
  · rw [writesIn_other rfl]
    exact hg.writes

/-- After the creation of a workload. -/
theorem Carries.create (hg : Carries cx n m h g) (d : WorkloadSpec)
    (a : (Effect.call (.createWorkload d)).Answer) :
    Carries cx (n + 1) (m + 1) (⟨.call (.createWorkload d), a⟩ :: h) g := by
  refine ⟨hg.inHand, ?_, ?_⟩
  · rw [callsIn_call]
    exact Nat.succ_le_succ hg.calls
  · rw [writesIn_write rfl]
    exact Nat.succ_le_succ hg.writes

/-- What was wanted stays so. -/
theorem Wanted.mono (hw : Wanted cx h) {t : History} (ht : h <:+ t) : Wanted cx t := by
  obtain ⟨g, hg, hd⟩ := hw
  exact ⟨g, ht.subset hg, hd⟩

/-- A job in hand whose deletion is not requested is wanted. -/
theorem Carries.wanted (hg : Carries cx n m h g) (hd : g.isDeletionRequested = false) :
    Wanted cx h := ⟨g, hasRead_of_inHand hg.inHand, hd⟩

/-! ## What a call site consists of -/

/-- What a pass writes of a job is a write. -/
theorem WriteOf.isWrite {token : String} {c : StoreCall} (hw : WriteOf token g c) :
    (Effect.call c).isWrite = true := by
  cases hw <;> rfl

/-- Only the status of a job is written where its release is recorded. -/
theorem RecordsFinalized.operation_eq {k : ObjectKey} {c : StoreCall}
    (hc : RecordsFinalized k h c) : c.operation = .updateStatus := by
  obtain ⟨g, x, now, l, -, -, -, rfl⟩ := hc
  rfl

/-- A write after which the job may be gone is the record of its release. -/
theorem recordsFinalized_of_mayBeGone {c : StoreCall} (hc : (Effect.call c).isWrite = true)
    (hgone : MayBeGone cx h c) : RecordsFinalized cx.key h c := by
  cases hgone with
  | first => cases hc
  | recording hr => exact hr
  | confirming hr => cases hc

/-- A read after a write is one that may find no job only if the release was recorded. -/
theorem recordsFinalized_of_confirming {c : StoreCall} {a : (Effect.call c).Answer}
    (hgone : MayBeGone cx (⟨.call c, a⟩ :: h) (.get cx.key)) : RecordsFinalized cx.key h c := by
  cases hgone with
  | recording hr => cases hr.operation_eq
  | confirming hr => exact hr

/-- A pass that takes the want of an object in a way of its own, and any other failure for its end. -/
theorem AfterFailure.of_split {c : StoreCall} {e : PassError} {q : Pass Requeue}
    (hq : e.isNotFound = true → AfterFailure cx h c e q) :
    AfterFailure cx h c e (if e.isNotFound then q else .done (.error e)) := by
  split
  · rename_i he
    exact hq he
  · rename_i he
    exact .surfaced fun heq => absurd heq he

/-- What is known of a call that only reads. -/
theorem CallSite.of_reading {c : StoreCall} {next : (Effect.call c).Answer → Pass Requeue}
    (hread : (Effect.call c).isWrite = false) (hmade : Calls cx h c)
    (hfailure : ∀ e, AfterFailure cx h c e (next (.error e))) (hcalls : callsIn h < 13) :
    CallSite cx h c next := by
  refine ⟨hmade, hfailure, ?_, hcalls, fun hw => ?_⟩
  · rintro g g' - - rfl
    cases hread
  · rw [hread] at hw
    cases hw

/-- Recording any other condition does not record the release of the finalizer. -/
theorem not_recordsFinalized {c : Condition} {now : String} {l : Ledger}
    (hg : inHand? cx.key h = some g) (hc : c.reason ≠ .finalized)
    (hl : g.ledger.set? c now = some l) :
    ¬ RecordsFinalized cx.key h (.updateStatus (g.withLedger l)) := by
  rintro ⟨g', x, now', l', hg', hx, hl', heq⟩
  obtain rfl := Option.some.inj (hg.symm.trans hg')
  have hsame : l = l' := by
    have hledger := congrArg Goop.ledger (StoreCall.updateStatus.inj heq)
    simpa using hledger
  subst hsame
  exact hc ((reason_unique_of_set? hl hl').trans hx)

end sites

/-! ## Stage by stage -/

section stages

variable {cx : Context} {n m : Nat} {h : History} {g : Goop}

/-- A pass may always look at the clock. -/
theorem everywhere_clock {f : Timestamp → Pass Requeue}
    (hf : ∀ now, Everywhere (Asks cx) (f now) (⟨.clock, now⟩ :: h)) :
    Everywhere (Asks cx) (Pass.clock >>= f) h := ⟨trivial, hf⟩

/-- A job is written from the one in hand and read again, and the pass goes on with what it reads
then. -/
theorem everywhere_rewrite {c : StoreCall} {f : Goop → Pass Requeue} (hg : Carries cx n m h g)
    (hn : n + 2 ≤ 13) (hm : m < 5) (hw : WriteOf cx.settings.finalizer g c)
    (hrecords : ¬ RecordsFinalized cx.key h c)
    (hkeeps : ∀ g', c = .update g' → g.isDeletionRequested = false)
    (hf : ∀ t g', h <:+ t → Carries cx (n + 2) (m + 1) t g' → Everywhere (Asks cx) (f g') t) :
    Everywhere (Asks cx) (Pass.call c >>= fun _ => cx.fetch >>= f) h := by
  have hcalls := hg.calls
  have hwrites := hg.writes
  have hwrite := hw.isWrite
  -- the write, whose failure ends the pass
  have hsite : CallSite cx h c fun a => Pass.done a >>= fun _ => cx.fetch >>= f := by
    refine ⟨.write hg.inHand hw, fun e => .surfaced fun _ => ⟨?_, ?_⟩, ?_, by omega,
      fun _ => by omega⟩
    · exact fun hgone => hrecords (recordsFinalized_of_mayBeGone hwrite hgone)
    · rintro rfl
      cases hwrite
    · intro g₁ g' hg₁ hd hc
      obtain rfl := Option.some.inj (hg₁.symm.trans hg.inHand)
      rw [hkeeps g' hc] at hd
      cases hd
  refine ⟨hsite, fun a => ?_⟩
  cases a with
  | error e => trivial
  | ok b =>
    -- the read after it, whose failure ends the pass as well
    have hreread : CallSite cx (⟨.call c, .ok b⟩ :: h) (.get cx.key) fun a =>
        Pass.done a >>= f := by
      refine .of_reading rfl .read (fun e => .surfaced fun _ => ⟨?_, fun heq => nomatch heq⟩) ?_
      · exact fun hgone => hrecords (recordsFinalized_of_confirming hgone)
      · rw [callsIn_call]
        omega
    refine ⟨hreread, fun a => ?_⟩
    cases a with
    | error e => trivial
    | ok g' =>
      have hread : h <:+ ⟨.call (.get cx.key), .ok g'⟩ :: ⟨.call c, .ok b⟩ :: h :=
        (List.suffix_cons _ h).trans (List.suffix_cons _ _)
      refine hf _ g' hread ⟨inHand?_get cx.key g' _, ?_, ?_⟩
      · rw [callsIn_call, callsIn_call]
        omega
      · rw [writesIn_other rfl, writesIn_write hwrite]
        omega

/-- A condition is recorded, and the pass goes on with the job that it reads then. -/
theorem everywhere_record {c : Condition} {f : Goop → Pass Requeue} (hg : Carries cx n m h g)
    (hn : n + 2 ≤ 13) (hm : m < 5) (hc : c.reason ≠ .finalized)
    (hf : ∀ t g', h <:+ t → Carries cx (n + 2) (m + 1) t g' → Everywhere (Asks cx) (f g') t) :
    Everywhere (Asks cx) (record cx g c >>= f) h := by
  unfold record
  rw [Pass.bind_bind]
  refine everywhere_clock fun now => ?_
  have hg' := hg.clock now
  cases hl : g.ledger.set? c now.toText with
  | none => exact hf _ g (List.suffix_cons _ h) (hg'.mono (Nat.le_add_right n 2) (Nat.le_succ m))
  | some l =>
    simp only
    rw [Pass.bind_bind]
    refine everywhere_rewrite hg' hn hm (.record hl) (not_recordsFinalized hg'.inHand hc hl)
      (fun _ heq => nomatch heq) ?_
    exact fun t g' ht => hf t g' ((List.suffix_cons _ h).trans ht)

/-- Starting a ledger. -/
theorem everywhere_start {rest : List Stage} (hg : Carries cx n m h g) (hn : n + 2 ≤ 13)
    (hm : m < 5) (hf : ∀ t g', Carries cx (n + 2) (m + 1) t g' →
      Everywhere (Asks cx) (Chain.run ⟨rest⟩ cx g') t) :
    Everywhere (Asks cx) (Chain.run ⟨start :: rest⟩ cx g) h := by
  rw [Chain.run_cons]
  unfold start
  simp only
  split
  · rw [Pass.bind_bind]
    refine everywhere_record hg hn hm (by decide) fun t g' _ hg' => ?_
    -- an empty ledger ends the pass
    cases hl : g'.ledger.isInitial with
    | true => trivial
    | false => exact hf t g' hg'
  · exact hf h g (hg.mono (Nat.le_add_right n 2) (Nat.le_succ m))

/-- Attaching the finalizer. -/
theorem everywhere_attachToken {f : Goop → Pass Requeue} (hg : Carries cx n m h g)
    (hn : n + 2 ≤ 13) (hm : m < 5)
    (hf : ∀ t g', Carries cx (n + 2) (m + 1) t g' → Everywhere (Asks cx) (f g') t) :
    Everywhere (Asks cx) (attachToken cx g >>= f) h := by
  unfold attachToken
  simp only
  split
  · rename_i hcond
    obtain ⟨-, htoken, hdel⟩ := hcond
    have htoken : g.hasFinalizer cx.settings.finalizer = false := by simpa using htoken
    have hdel : g.isDeletionRequested = false := by simpa using hdel
    rw [Pass.bind_bind, Goop.addFinalizer, if_neg (by simp [htoken])]
    exact everywhere_rewrite hg hn hm (.attach hdel htoken) (fun hr => nomatch hr.operation_eq)
      (fun _ _ => hdel) fun t g' _ => hf t g'
  · exact hf h g (hg.mono (Nat.le_add_right n 2) (Nat.le_succ m))

/-- Attaching the finalizer, and recording that initialization is complete. -/
theorem everywhere_attachFinalizer {rest : List Stage} (hg : Carries cx n m h g) (hn : n + 4 ≤ 13)
    (hm : m + 1 < 5)
    (hf : ∀ t g', Carries cx (n + 4) (m + 2) t g' →
      Everywhere (Asks cx) (Chain.run ⟨rest⟩ cx g') t) :
    Everywhere (Asks cx) (Chain.run ⟨attachFinalizer :: rest⟩ cx g) h := by
  rw [Chain.run_cons]
  unfold attachFinalizer
  simp only
  rw [Pass.bind_bind]
  refine everywhere_attachToken hg (by omega) (by omega) fun t g₁ hg₁ => ?_
  cases hl : g₁.ledger.isIncomplete .initialized with
  | true =>
    simp only [if_true]
    rw [Pass.bind_bind]
    exact everywhere_record hg₁ hn hm (by decide) fun t g₂ _ hg₂ => hf t g₂ hg₂
  | false => exact hf t g₁ (hg₁.mono (Nat.le_add_right _ 2) (Nat.le_succ _))

/-- Recording that the finalizer has been released. A job that is gone by then needs nothing. -/
theorem everywhere_recordFinalized {f : Except PassError Goop → Pass Requeue}
    (hg : Carries cx n m h g) (hn : n + 2 ≤ 13) (hm : m < 5)
    (hok : ∀ g', f (.ok g') = .done (.ok .never))
    (herror : ∀ e, f (.error e) =
      if e.isNotFound then .done (.ok .never) else .done (.error e)) :
    Everywhere (Asks cx) ((record cx g (finalized g)).attempt >>= f) h := by
  have hcalls := hg.calls
  have hwrites := hg.writes
  have hgone : ∀ {t c}, MayBeGone cx t c → ∀ e, AfterFailure cx t c e (f (.error e)) := by
    intro t c hc e
    rw [herror]
    exact .of_split fun he => .gone he hc
  have hends : ∀ t r, Everywhere (Asks cx) (f r) t := by
    intro t r
    cases r with
    | ok g' =>
      rw [hok]
      trivial
    | error e =>
      rw [herror]
      split <;> trivial
  unfold record
  rw [Pass.attempt_clock_bind, Pass.bind_bind]
  refine everywhere_clock fun now => ?_
  have hg' := hg.clock now
  cases hl : g.ledger.set? (finalized g) now.toText with
  | none => exact hends _ (.ok g)
  | some l =>
    have hrecords : RecordsFinalized cx.key (⟨.clock, now⟩ :: h) (.updateStatus (g.withLedger l)) :=
      ⟨g, _, _, l, hg'.inHand, rfl, hl, rfl⟩
    refine ⟨⟨.write hg'.inHand (.record hl), hgone (.recording hrecords), fun _ _ _ _ heq =>
      (nomatch heq), ?_, fun _ => ?_⟩, fun a => ?_⟩
    · rw [callsIn_clock]
      omega
    · rw [writesIn_other rfl]
      omega
    cases a with
    | error e => exact hends _ (.error e)
    | ok b =>
      refine ⟨.of_reading rfl .read (hgone (.confirming hrecords)) ?_, fun a => ?_⟩
      · rw [callsIn_call, callsIn_clock]
        omega
      · exact hends _ a

/-- Releasing the finalizer. Only a job whose deletion is not requested is handed on. -/
theorem everywhere_release {rest : List Stage} (hg : Carries cx n m h g) (hn : n + 2 ≤ 13)
    (hm : m < 5)
    (hf : g.isDeletionRequested = false → Everywhere (Asks cx) (Chain.run ⟨rest⟩ cx g) h) :
    Everywhere (Asks cx) (Chain.run ⟨release .nothing :: rest⟩ cx g) h := by
  have hcalls := hg.calls
  have hwrites := hg.writes
  rw [Chain.run_cons]
  unfold release
  simp only
  split
  · trivial
  split
  · rename_i hd
    exact hf (by simpa using hd)
  rename_i hd
  have hd : g.isDeletionRequested = true := by simpa using hd
  split
  · rename_i htoken
    refine ⟨⟨.write hg.inHand (.release hd htoken), fun e => .surfaced fun _ => ⟨?_, nofun⟩, ?_,
      by omega, fun _ => by omega⟩, fun a => ?_⟩
    · exact fun hgone => nomatch (recordsFinalized_of_mayBeGone rfl hgone).operation_eq
    · intro _ _ _ _ _ a
      cases a with
      | error e => exact ⟨_, rfl⟩
      | ok b => exact ⟨_, rfl⟩
    · cases a with
      | error e => trivial
      | ok b => trivial
  · rw [Pass.bind_bind]
    refine everywhere_recordFinalized hg hn hm (fun _ => rfl) fun e => ?_
    simp only
    split <;> rfl

/-- Looking at the workload. What the pass goes on with where there is none is `q`. -/
theorem everywhere_look {f : Except PassError Rollout → Pass Requeue} {q : Pass Requeue}
    (hg : Carries cx n m h g) (hn : n + 1 ≤ 13) (hwanted : Wanted cx h)
    (herror : ∀ e, f (.error e) = if e.isNotFound then q else .done (.error e))
    (hafter : ∀ e, e.isNotFound = true → AfterFailure cx h (.getWorkload cx.key) e q)
    (hq : ∀ t, h <:+ t → Carries cx (n + 1) m t g → Everywhere (Asks cx) q t)
    (hok : ∀ t w, h <:+ t → Carries cx (n + 1) m t g → Everywhere (Asks cx) (f (.ok w)) t) :
    Everywhere (Asks cx) ((Pass.call (.getWorkload cx.key)).attempt >>= f) h := by
  have hcalls := hg.calls
  refine ⟨.of_reading rfl (.look hwanted) (fun e => ?_) (by omega), fun a => ?_⟩
  · show AfterFailure cx h _ e (f (.error e))
    rw [herror]
    exact .of_split (hafter e)
  · have hg' := hg.look cx.key a
    cases a with
    | ok w => exact hok _ w (List.suffix_cons _ h) hg'
    | error e =>
      show Everywhere _ (f (.error e)) _
      rw [herror]
      split
      · exact hq _ (List.suffix_cons _ h) hg'
      · trivial

/-- Creating the workload that is not there. -/
theorem everywhere_creating (hg : Carries cx n m h g) (hn : n + 3 ≤ 13) (hm : m + 1 < 5)
    (hl : g.ledger.isComplete .initialized = true) (hd : g.isDeletionRequested = false) :
    Everywhere (Asks cx) (creating cx g) h := by
  have hcalls := hg.calls
  have hwrites := hg.writes
  unfold creating
  cases hs : WorkloadSpec.plan g cx.settings with
  | error e => trivial
  | ok d =>
    refine ⟨⟨.create hg.inHand hs hl hd, fun e => .surfaced fun _ => ⟨?_, nofun⟩,
      fun _ _ _ _ heq => (nomatch heq), by omega, fun _ => by omega⟩, fun a => ?_⟩
    · exact fun hgone => nomatch (recordsFinalized_of_mayBeGone rfl hgone).operation_eq
    · cases a with
      | error e => trivial
      | ok b =>
        exact everywhere_record (hg.create d _) hn hm nofun fun _ _ _ _ => trivial

/-- Creating the workload. -/
theorem everywhere_create {rest : List Stage} (hg : Carries cx n m h g) (hn : n + 4 ≤ 13)
    (hm : m + 1 < 5) (hd : g.isDeletionRequested = false)
    (hf : ∀ t g', Wanted cx t → Carries cx (n + 3) (m + 1) t g' →
      Everywhere (Asks cx) (Chain.run ⟨rest⟩ cx g') t) :
    Everywhere (Asks cx) (Chain.run ⟨create :: rest⟩ cx g) h := by
  have hwanted := hg.wanted hd
  rw [Chain.run_cons]
  unfold create
  simp only
  split
  · exact hf h g hwanted (hg.mono (Nat.le_add_right n 3) (Nat.le_succ m))
  rename_i hl
  have hl : g.ledger.isComplete .initialized = true := by simpa using hl
  rw [Pass.bind_bind]
  refine everywhere_look (q := creating cx g) hg (by omega) hwanted (fun e => ?_) ?_ ?_ ?_
  -- the stage goes on as `creating` does, up to the order in which the steps are bound
  · unfold creating
    simp only
    split
    · simp only [Pass.bind_bind]
      rfl
    · rfl
  · exact fun e he => .uncreated he rfl hg.inHand hl
  · exact fun t _ hg' => everywhere_creating hg' hn hm hl hd
  · intro t w ht hg'
    simp only
    rw [Pass.bind_bind]
    exact everywhere_record hg' (by omega) (by omega) nofun fun t' g' ht' hg' =>
      hf t' g' (hwanted.mono (ht.trans ht')) hg'

/-- Reporting that the workload is gone. -/
theorem everywhere_reporting (hg : Carries cx n m h g) (hn : n + 2 ≤ 13) (hm : m < 5) :
    Everywhere (Asks cx) (reporting cx g) h :=
  everywhere_record hg hn hm nofun fun _ _ _ _ => trivial

/-- Looking whether the workload has run everywhere. -/
theorem everywhere_complete {rest : List Stage} (hg : Carries cx n m h g) (hn : n + 3 ≤ 13)
    (hm : m < 5) (hwanted : Wanted cx h)
    (hf : ∀ t g', Carries cx (n + 3) (m + 1) t g' →
      Everywhere (Asks cx) (Chain.run ⟨rest⟩ cx g') t) :
    Everywhere (Asks cx) (Chain.run ⟨complete :: rest⟩ cx g) h := by
  rw [Chain.run_cons]
  unfold complete
  simp only
  split
  · exact hf h g (hg.mono (Nat.le_add_right n 3) (Nat.le_succ m))
  rename_i hl
  have hl : g.ledger.isComplete .deployed = true := by simpa using hl
  rw [Pass.bind_bind]
  refine everywhere_look (q := reporting cx g) hg (by omega) hwanted (fun e => ?_) ?_ ?_ ?_
  · unfold reporting
    simp only
    split
    · simp only [Pass.bind_bind]
      rfl
    · rfl
  · exact fun e he => .lost he rfl hg.inHand hl
  · exact fun t _ hg' => everywhere_reporting hg' hn hm
  · intro t w _ hg'
    simp only
    split
    · rw [Pass.bind_bind]
      exact everywhere_record hg' hn hm nofun fun t' g' _ hg' => hf t' g' hg'
    · trivial

/-- Every call of a pass is as `CallSite` says, whatever the store answers. -/
theorem reconcile_asks (cx : Context) : Everywhere (Asks cx) (reconcile chain cx) [] := by
  refine ⟨.of_reading rfl .read (fun e => ?_) (by decide), fun a => ?_⟩
  · exact .of_split fun he => .gone he .first
  · cases a with
    | error e =>
      show Everywhere _ (if e.isNotFound then pure Requeue.never else Pass.fail e) _
      split <;> trivial
    | ok g =>
      have hg : Carries cx 1 0 [⟨.call (.get cx.key), .ok g⟩] g :=
        ⟨inHand?_get cx.key g [], Nat.le_refl 1, Nat.le_refl 0⟩
      -- the counts of calls and of writes go up from stage to stage
      refine everywhere_start hg (by decide) (by decide) fun h₁ g₁ hg₁ => ?_
      refine everywhere_attachFinalizer hg₁ (by decide) (by decide) fun h₂ g₂ hg₂ => ?_
      refine everywhere_release hg₂ (by decide) (by decide) fun hd => ?_
      refine everywhere_create hg₂ (by decide) (by decide) hd fun h₃ g₃ hw hg₃ => ?_
      exact everywhere_complete hg₃ (by decide) (by decide) hw fun _ _ _ => trivial

end stages

/-! ## Along a path -/

/-- What is known of a call where a pass is about to make it. -/
theorem callSite_of_path {cx : Context} {h : History} {c : StoreCall}
    {next : (Effect.call c).Answer → Pass Requeue}
    (hp : Path (reconcile chain cx) h (.perform (.call c) next)) : CallSite cx h c next := by
  have hall := hp.everywhere (reconcile_asks cx)
  rw [List.append_nil] at hall
  exact hall.1

/-- A pass makes few calls, and fewer writes. -/
theorem few_of_path {cx : Context} {h : History} {rest : Pass Requeue}
    (hp : Path (reconcile chain cx) h rest) : callsIn h ≤ 13 ∧ writesIn h ≤ 5 := by
  induction hp with
  | refl => exact ⟨Nat.zero_le 13, Nat.zero_le 5⟩
  | step hp a ih =>
    rename_i e next
    cases e with
    | clock =>
      rw [callsIn_clock, writesIn_other rfl]
      exact ih
    | work task => exact ((hp.everywhere (reconcile_asks cx)).1).elim
    | call c =>
      have hsite := callSite_of_path hp
      rw [callsIn_call]
      refine ⟨hsite.calls, ?_⟩
      cases hw : (Effect.call c).isWrite with
      | true =>
        rw [writesIn_write hw]
        exact hsite.writes hw
      | false =>
        rw [writesIn_other hw]
        exact ih.2

/-- A pass that finds the job runs the chain on it. -/
theorem path_read (cx : Context) (g : Goop) :
    Path (reconcile chain cx) [⟨.call (.get cx.key), .ok g⟩] (chain.run cx g) := by
  have hstart : Path (reconcile chain cx) [] (reconcile chain cx) := .refl
  exact hstart.step (Except.ok g)

/-! ### A sample -/

namespace SamplePass

/-- A time of day. -/
def noon : Timestamp := ⟨⟨2024, 1, 1, by decide⟩, 12, 0, 0, by decide⟩

/-- A job without a history. -/
def job : Goop :=
  ⟨{ ObjectMeta.empty with name := some "job", ns := some "default" }, .empty, none⟩

/-- A pass over the job, under the settings that hold without variables. -/
def cx : Context := ⟨⟨"default", "job"⟩, .default⟩

end SamplePass

end Lifecycle

end GoopOperator
