import GoopOperator.Proofs.Lifecycle.Calls
import GoopOperator.Proofs.World.LedgerGrowth

/-!
# Jobs that are to be deleted

A request for the deletion of a job stands, and nobody adds a finalizer to the job after it: the
store refuses that (`Leaving.apply`). Two things follow.

A pass over a job that is to be deleted reads only such copies of it, and these lead it to the
release of the finalizer and nowhere else. This holds whatever the ledger says, so it needs nothing
of how the store was reached (`leaving_is_only_released`).

A pass records the release of a finalizer only in a copy that is to be deleted and lacks the
finalizer. As the copy is the stored job, both hold of the job when the release is recorded, and they
stay (`finalized_stays_released`).
-/

namespace GoopOperator.World

open Lifecycle

/-! ## A request for deletion stands -/

/-- An edit that lets a request for deletion stand, and adds no finalizer to a job with one. -/
structure Orderly (f : Goop → Goop) : Prop where
  /-- The request stands. -/
  deletion : ∀ g, g.isDeletionRequested = true → (f g).isDeletionRequested = true
  /-- No finalizer is new. -/
  finalizers : ∀ g, g.isDeletionRequested = true → ∀ t ∈ (f g).finalizers, t ∈ g.finalizers

/-- No user creates a job at the key, and the job there is edited in an orderly way. Any other move
may be made. -/
def Sparing (k : ObjectKey) (_ : World) : Move → Prop
  | .insert g _ _ => g.key ≠ .ok k
  | .edit key f => key = k → Orderly f
  | _ => True

/-- The deletion of a job is requested, and its finalizers are some of those in `tokens`. -/
structure Leaving (tokens : List String) (g : Goop) : Prop where
  /-- Deletion is requested. -/
  deletion : g.isDeletionRequested = true
  /-- The finalizers are some of these. -/
  finalizers : ∀ t ∈ g.finalizers, t ∈ tokens

section deletion

variable {chain : Chain} {tokens : List String} {w : World} {m : Move} {k : ObjectKey} {g g' : Goop}

/-- A job that is to be deleted stays so, and gets no new finalizer, while it is stored. -/
theorem Leaving.apply (h : Leaving tokens g) (hg : w.job? k = some g) (hm : w.Sparing k m)
    (hg' : (w.apply chain m).job? k = some g') : Leaving tokens g' := by
  have hinsert : ∀ g₁ uid now, m = .insert g₁ uid now → g₁.key ≠ .ok k := by
    rintro g₁ uid now rfl
    exact hm
  have hfate := fate_of_stored chain hinsert hg hg'
  generalize (w.apply chain m).store = s' at hfate
  cases hfate with
  | kept => exact h
  | marked hheld => exact ⟨MemoryStore.isDeletionRequested_requested _ _, h.finalizers⟩
  | edited =>
    have horderly := hm rfl
    exact ⟨horderly.deletion g h.deletion,
      fun t ht => h.finalizers t (horderly.finalizers g h.deletion t ht)⟩
  | updated hmakes fits old hheld =>
    -- the store refuses new finalizers
    exact ⟨h.deletion, fun t ht => h.finalizers t (old h.deletion t ht)⟩
  | recorded hmakes fits => exact ⟨h.deletion, h.finalizers⟩

end deletion

/-! ## Passes over a job that is to be deleted -/

/-- The job at a key is to be deleted, if there is one, and so are all copies of it that passes have
read. -/
structure LeavingAt (k : ObjectKey) (tokens : List String) (w : World) : Prop where
  /-- The stored job. -/
  stored : ∀ g, w.job? k = some g → Leaving tokens g
  /-- The copies. -/
  read : ∀ p ∈ w.passes, p.cx.key = k → ∀ g, HasRead k p.past g → Leaving tokens g

section passes

variable {chain : Chain} {tokens : List String} {w : World} {m : Move} {k : ObjectKey} {p : PassRun}

/-- A job that is to be deleted stays so under moves that spare it, and passes read only such
copies. -/
theorem LeavingAt.apply (h : w.LeavingAt k tokens) (hm : w.Sparing k m) :
    (w.apply chain m).LeavingAt k tokens := by
  refine ⟨fun g' hg' => ?_, fun p hp hk g hg => ?_⟩
  · cases hg : w.job? k with
    | some g => exact (h.stored g hg).apply hg hm hg'
    | none =>
      -- nobody puts a job there
      obtain ⟨g₁, uid, now, rfl, hkey, -⟩ := inserted_of_apply hg hg'
      exact absurd hkey hm
  · cases progress_of_apply hp with
    | stayed hp => exact h.read p hp hk g hg
    | begun cx => cases hg
    | answered hi hq =>
      rename_i i t q e next
      rcases List.mem_cons.mp hg with heq | hg
      · injection heq with he ha
        subst he
        -- what is read now is stored
        have ha := Turn.answer_of_respond (eq_of_heq ha).symm
        exact h.stored g ((w.store.answer_get k).2 g ha)
      · exact h.read q (List.mem_of_getElem? hi) hk g hg

/-- A pass over a job that is to be deleted does not look at its workload and creates none, and all
that it writes of its metadata is the release of its finalizer. -/
theorem LeavingAt.call (h : w.LeavingAt k tokens) (hpaths : w.OnPath Lifecycle.chain)
    (hp : p ∈ w.passes) (hk : p.cx.key = k) {c : StoreCall}
    {next : (Effect.call c).Answer → Pass Requeue} (hrest : p.rest = .perform (.call c) next) :
    c.operation ≠ .getWorkload ∧ c.operation ≠ .createWorkload ∧
      ∀ g', c = .update g' → ∃ g, inHand? k p.past = some g ∧
        g' = g.withFinalizers (g.finalizers.filter (· ≠ p.cx.settings.finalizer)) := by
  subst hk
  have hpath := hpaths p hp
  rw [hrest] at hpath
  have hunwanted : ¬ Wanted p.cx p.past := by
    rintro ⟨g, hg, hd⟩
    rw [(h.read p hp rfl g hg).deletion] at hd
    cases hd
  cases (callSite_of_path hpath).made with
  | read => exact ⟨nofun, nofun, fun _ heq => nomatch heq⟩
  | look hwanted => exact absurd hwanted hunwanted
  | create hg hs hl hd => exact absurd ⟨_, hasRead_of_inHand hg, hd⟩ hunwanted
  | write hg hw =>
    cases hw with
    | attach hd hf => exact absurd ⟨_, hasRead_of_inHand hg, hd⟩ hunwanted
    | release hd hf =>
      refine ⟨nofun, nofun, fun g' heq => ⟨_, hg, ?_⟩⟩
      exact (StoreCall.update.inj heq).symm
    | record hl => exact ⟨nofun, nofun, fun _ heq => nomatch heq⟩

/-- After the metadata of a job that is to be deleted has been written, a pass asks for nothing. -/
theorem LeavingAt.ends_with_update (h : w.LeavingAt k tokens) (hpaths : w.OnPath Lifecycle.chain)
    (hp : p ∈ w.passes) (hk : p.cx.key = k) {g : Goop} {a : (Effect.call (.update g)).Answer}
    (hx : (⟨.call (.update g), a⟩ : Event) ∈ p.past) : p.IsOver := by
  subst hk
  obtain ⟨after, before, hpast⟩ := List.append_of_mem hx
  have hpath := hpaths p hp
  rw [hpast] at hpath
  obtain ⟨rest, hbefore, hafter⟩ := hpath.split
  have hsite := callSite_of_path hbefore
  cases hsite.made with
  | write hg hw =>
    rename_i g₁
    have hread : HasRead p.cx.key p.past g₁ := by
      rw [hpast]
      exact List.mem_append_right after (List.mem_cons_of_mem _ (hasRead_of_inHand hg))
    have hleaving := h.read p hp rfl g₁ hread
    obtain ⟨r, hr⟩ := hsite.last g₁ g hg hleaving.deletion rfl a
    change Pass.Path (rest a) after p.rest at hafter
    rw [hr] at hafter
    exact ⟨r, (Pass.path_done hafter).2⟩

end passes

/-- Let the deletion of a job be requested, whatever else holds of the job and of the store, and let
passes, other clients and failures follow each other in any way, but let nobody create the job again
or take the request back. A pass over the job neither looks at its workload nor creates one. It
writes metadata at most once, and then it takes every occurrence of its finalizer from the job that
it has read and leaves the others in their order, all of which the job had before. -/
theorem leaving_is_only_released {s : MemoryStore} {k : ObjectKey} {g : Goop}
    (hg : s.goops.get? k = some g) (hd : g.isDeletionRequested = true) {w : World}
    (hw : Leads chain (Sparing k) ⟨s, []⟩ w) {p : PassRun} (hp : p ∈ w.passes) (hk : p.cx.key = k)
    {c : StoreCall} {next : (Effect.call c).Answer → Pass Requeue}
    (hrest : p.rest = .perform (.call c) next) :
    c.operation ≠ .getWorkload ∧ c.operation ≠ .createWorkload ∧
      ∀ g', c = .update g' →
        (∀ g₀ a, (⟨.call (.update g₀), a⟩ : Event) ∉ p.past) ∧
        (∀ t ∈ g'.finalizers, t ∈ g.finalizers) ∧
        ∃ g₁, inHand? k p.past = some g₁ ∧
          g' = g₁.withFinalizers (g₁.finalizers.filter (· ≠ p.cx.settings.finalizer)) := by
  have hpaths : w.OnPath chain := hw.invariant (fun _ hp => nomatch hp) fun _ m h _ => h.apply m
  have hleaving : w.LeavingAt k g.finalizers := by
    refine hw.invariant (P := fun w => w.LeavingAt k g.finalizers) ?_ fun _ _ h hm => h.apply hm
    refine ⟨fun g₁ hg₁ => ?_, fun _ hp => nomatch hp⟩
    obtain rfl := Option.some.inj (hg.symm.trans hg₁)
    exact ⟨hd, fun _ ht => ht⟩
  obtain ⟨hlook, hcreate, hupdate⟩ := hleaving.call hpaths hp hk hrest
  refine ⟨hlook, hcreate, fun g' hc => ?_⟩
  obtain ⟨g₁, hg₁, rfl⟩ := hupdate g' hc
  refine ⟨fun g₀ a hx => ?_, fun t ht => ?_, g₁, hg₁, rfl⟩
  · obtain ⟨r, hr⟩ := hleaving.ends_with_update hpaths hp hk hx
    rw [hrest] at hr
    cases hr
  · have hread := hasRead_of_inHand hg₁
    exact (hleaving.read p hp hk g₁ hread).finalizers t (List.mem_filter.mp ht).1

namespace Sample

/-- The sample job while it is being deleted, with a ledger that no pass has begun. -/
def leaving : Goop :=
  { job with
    metadata := { job.metadata with
      finalizers := some ["hold", defaultFinalizer, "keep", defaultFinalizer, "hold"]
      deletionTimestamp := some noon }
    status := some ⟨⟨[missing job]⟩⟩ }

/-- A pass has read this job. -/
def leave : World :=
  (⟨(MemoryStore.empty 1).put key leaving, []⟩ : World).run chain [.begin cx, .pass 0 turn]

end Sample

open Sample in
/-- What the pass writes then is the job without its finalizer. -/
theorem sample_released : leaving.isDeletionRequested = true ∧ ∃ p ∈ leave.passes, ∃ g' next,
    p.rest = .perform (.call (.update g')) next ∧ g'.finalizers = ["hold", "keep", "hold"] ∧
      ∃ g₁, inHand? key p.past = some g₁ ∧
        g' = g₁.withFinalizers (g₁.finalizers.filter (· ≠ defaultFinalizer)) := by
  have hleads : Leads chain (Sparing key) ⟨(MemoryStore.empty 1).put key leaving, []⟩ leave :=
    leads_run ⟨trivial, trivial, trivial⟩
  refine ⟨rfl, _, List.mem_cons_self, _, _, rfl, by decide, ?_⟩
  have h := leaving_is_only_released (g := leaving) rfl rfl hleads List.mem_cons_self rfl rfl
  exact (h.2.2 _ rfl).2.2

/-! ## Finalized jobs -/

/-- Users create jobs without a history, and where there is none; other clients write no status, let
a request for deletion stand and add no finalizer after it; all passes work with the finalizer
`token`. -/
def Closing (token : String) (w : World) : Move → Prop
  | .insert g _ _ => g.ledger.isInitial = true ∧ ∀ k, g.key = .ok k → w.job? k = none
  | .edit _ f => Faithful f ∧ Orderly f
  | .client c => c.operation ≠ .updateStatus
  | .begin cx => cx.settings.finalizer = token
  | _ => True

/-- Moves that rules allow and after which there is a job at the key. -/
def Staying (chain : Chain) (rules : World → Move → Prop) (k : ObjectKey) (w : World) (m : Move) :
    Prop := rules w m ∧ (w.apply chain m).job? k ≠ none

/-- The deletion of a job is requested, and the finalizer `token` does not hold it. -/
def Released (token : String) (g : Goop) : Prop :=
  g.isDeletionRequested = true ∧ g.hasFinalizer token = false

section closing

variable {token : String} {w : World} {m : Move} {k : ObjectKey} {g g' : Goop}

/-- Such moves spare the ledgers. -/
theorem Closing.sparesLedgers (hm : w.Closing token m) : SparesLedgers m := by
  cases m with
  | edit key f => exact hm.1
  | client c => exact hm
  | _ => trivial

/-- Such moves create jobs where there is none. -/
theorem Closing.createsAnew (hm : w.Closing token m) : w.CreatesAnew m := by
  cases m with
  | insert g uid now => exact hm.2
  | _ => trivial

/-- Such moves spare a job that is there. -/
theorem Closing.sparing (hm : w.Closing token m) (hg : w.job? k = some g) : w.Sparing k m := by
  cases m with
  | insert g₁ uid now =>
    intro hk
    exact absurd (hg.symm.trans (hm.2 k hk)) (Option.some_ne_none g)
  | edit key f => exact fun _ => hm.2
  | _ => trivial

/-- A job that is released stays so while it is stored. -/
theorem Released.apply (h : Released token g) (hg : w.job? k = some g) (hm : w.Closing token m)
    (hg' : (w.apply chain m).job? k = some g') : Released token g' := by
  have hleaving : Leaving g.finalizers g := ⟨h.1, fun _ ht => ht⟩
  obtain ⟨hd, hfinalizers⟩ := hleaving.apply hg (hm.sparing hg) hg'
  refine ⟨hd, ?_⟩
  have hfree := h.2
  simp only [Goop.hasFinalizer, List.contains_eq_mem, decide_eq_false_iff_not] at hfree ⊢
  exact fun ht => hfree (hfinalizers token ht)

/-- A job whose release is recorded is released. -/
theorem Reachable.released (hw : Reachable chain (Closing token) w) :
    ∀ k g, w.job? k = some g → .finalized ∈ g.ledger.reasons → Released token g := by
  refine Reachable.of_stored
    (Q := fun _ _ g => .finalized ∈ g.ledger.reasons → Released token g)
    (fun w g uid now k hm _ hfinalized => ?_)
    (fun w m hw hm k g g' hg hg' ih hfinalized => ?_) hw
  · have hbegun : g.ledger.isInitial = false := isInitial_of_mem_reasons hfinalized
    exact absurd (hbegun.symm.trans hm.1) Bool.false_ne_true
  · refine Released.apply ?_ hg hm hg'
    obtain ⟨-, hstep⟩ :=
      hw.ledgerStep (fun _ _ h => h.sparesLedgers) hm hm.createsAnew hg hg'
    cases hstep with
    | same hl => exact ih (hl ▸ hfinalized)
    | recorded hp hrest hk hread hc hset =>
      rcases mem_reasons_set? hset hfinalized with hbefore | hreason
      · exact ih hbefore
      -- the release is recorded where the pass has found it
      have htoken := hw.begun_as (P := fun cx => cx.settings.finalizer = token)
        (fun _ _ h => h) _ hp
      cases hc with
      | finalized hl hb hd hf => exact ⟨hd, htoken ▸ hf⟩
      | starting hl => cases hreason
      | initialized hl hf => cases hreason
      | adopted hl hd => cases hreason
      | created hl hd => cases hreason
      | missing hl => cases hreason
      | completed hl => cases hreason

/-- A record of the release stays while the job is stored. -/
theorem Reachable.finalized_stays (hw : Reachable chain (Closing token) w) (hg : w.job? k = some g)
    (hfinalized : .finalized ∈ g.ledger.reasons) {w' : World}
    (h : Leads chain (Staying chain (Closing token) k) w w') :
    Reachable chain (Closing token) w' ∧ ∃ g', w'.job? k = some g' ∧
      g'.metadata.uid = g.metadata.uid ∧ .finalized ∈ g'.ledger.reasons := by
  refine h.invariant
    (P := fun w' => Reachable chain (Closing token) w' ∧ ∃ g', w'.job? k = some g' ∧
      g'.metadata.uid = g.metadata.uid ∧ .finalized ∈ g'.ledger.reasons)
    ⟨hw, g, hg, rfl, hfinalized⟩ fun w₁ m ⟨hw₁, g₁, hg₁, huid₁, hfinalized₁⟩ ⟨hm, hstays⟩ => ?_
  obtain ⟨g', hg'⟩ := Option.ne_none_iff_exists'.mp hstays
  obtain ⟨huid, hstep⟩ :=
    hw₁.ledgerStep (fun _ _ h => h.sparesLedgers) hm hm.createsAnew hg₁ hg'
  refine ⟨hw₁.apply hm, g', hg', huid.trans huid₁, ?_⟩
  cases hstep with
  | same hl => exact hl ▸ hfinalized₁
  | recorded hp hrest hk hread hc hset => exact mem_reasons_of_set? hset hfinalized₁

end closing

/-- However the passes of the operator, other clients, failures, lost status writes and
cancellations follow each other: a job in whose ledger the release of the finalizer is recorded is
one whose deletion is requested and which lacks the finalizer, and it stays so as long as it is
stored. -/
theorem finalized_stays_released {token : String} {w : World}
    (hw : Reachable chain (Closing token) w) {k : ObjectKey} {g : Goop} (hg : w.job? k = some g)
    (hfinalized : .finalized ∈ g.ledger.reasons) :
    Released token g ∧ ∀ w', Leads chain (Staying chain (Closing token) k) w w' →
      ∃ g', w'.job? k = some g' ∧ g'.metadata.uid = g.metadata.uid ∧
        .finalized ∈ g'.ledger.reasons ∧ Released token g' := by
  refine ⟨hw.released k g hg hfinalized, fun w' h => ?_⟩
  obtain ⟨hw', g', hg', huid, hfinalized'⟩ := hw.finalized_stays hg hfinalized h
  exact ⟨g', hg', huid, hfinalized', hw'.released k g' hg' hfinalized'⟩

namespace Sample

/-- A job that something else holds is created, its deletion is requested, and a pass goes over
it. -/
def farewell : World := (init 1).run chain
  (.insert (job.withFinalizers ["hold"]) "uid" noon :: .requestDeletion key noon :: .begin cx ::
    List.replicate 10 (.pass 0 turn))

/-- These moves are allowed. -/
theorem reachable_farewell : Reachable chain (Closing defaultFinalizer) farewell := by
  refine ⟨1, leads_run ⟨⟨rfl, fun k _ => rfl⟩, trivial, rfl, ?_⟩⟩
  exact allowed_replicate (fun _ => trivial) _ 10

end Sample

open Sample in
/-- The job is finalized in the end, and stays released when its deletion is requested again. -/
theorem sample_stays_released : Reachable chain (Closing defaultFinalizer) farewell ∧
    ∃ g, farewell.job? key = some g ∧ .finalized ∈ g.ledger.reasons ∧
      Released defaultFinalizer g ∧
      ∃ g', (farewell.apply chain (.requestDeletion key noon)).job? key = some g' ∧
        g'.metadata.uid = g.metadata.uid ∧ .finalized ∈ g'.ledger.reasons ∧
        Released defaultFinalizer g' := by
  have hstays : Staying chain (Closing defaultFinalizer) key farewell (.requestDeletion key noon) :=
    ⟨trivial, Option.some_ne_none _⟩
  have hfinalized : ∀ g, farewell.job? key = some g → .finalized ∈ g.ledger.reasons := by
    intro g hg
    obtain rfl := Option.some.inj hg
    decide
  obtain ⟨g, hg⟩ : ∃ g, farewell.job? key = some g := ⟨_, rfl⟩
  obtain ⟨hreleased, hlater⟩ :=
    finalized_stays_released reachable_farewell hg (hfinalized g hg)
  exact ⟨reachable_farewell, g, hg, hfinalized g hg, hreleased,
    hlater _ (.single ⟨_, hstays, rfl⟩)⟩

end GoopOperator.World
