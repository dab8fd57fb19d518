import GoopOperator.Proofs.Store.Refusals
import GoopOperator.Proofs.World.Versions

/-!
# Failures that are delivered

Failures are arranged for one operation at a time, and wait in a queue. Whatever happens to the store,
and whoever calls it, the calls of the operation are answered with them one after the other: what has
been delivered, and what still waits behind it, is what waited at first and what has been arranged since
(`delivered_append`). With what a refused call leaves of the store this is `failed_calls_change_nothing`.
-/

namespace GoopOperator

namespace MemoryStore

/-- How a call is refused, if it is. -/
def refusal? (s : MemoryStore) (c : StoreCall) : Option StoreError :=
  match (s.answer c).1 with
  | .error e => some e
  | .ok _ => none

/-- Whether a failure waits for a call: the call is one of the operation and can tell its key, and there
is a failure for the operation. -/
def awaits (s : MemoryStore) (op : Operation) (c : StoreCall) : Bool :=
  c.operation = op ∧ c.key.isOk ∧ s.faults op ≠ []

/-- A call for which a failure waits is refused with the first one, which is taken. -/
theorem refusal?_of_awaits {s : MemoryStore} {op : Operation} {c : StoreCall}
    (h : s.awaits op c = true) :
    ∃ e, s.refusal? c = some e ∧ s.faults op = e :: (s.answer c).2.faults op := by
  obtain ⟨rfl, hkey, hfaults⟩ := of_decide_eq_true h
  cases hc : c.key with
  | error e =>
    rw [hc] at hkey
    cases hkey
  | ok key =>
    obtain ⟨e, rest, hrest⟩ := List.exists_cons_of_ne_nil hfaults
    obtain ⟨hanswer, htaken⟩ := answer_of_fault hc hrest
    refine ⟨e, ?_, ?_⟩
    · unfold refusal?
      rw [hanswer]
    · rw [htaken, hrest]
      exact congrArg _ (if_pos rfl).symm

/-- Any other call takes no failure of the operation. -/
theorem faults_answer_of_not_awaits {s : MemoryStore} {op : Operation} {c : StoreCall}
    (h : s.awaits op c = false) : (s.answer c).2.faults op = s.faults op := by
  by_cases hop : c.operation = op
  · subst hop
    have hcalm : s.faults c.operation = [] ∨ ∃ e, c.key = .error e := by
      cases hc : c.key with
      | error e => exact .inr ⟨e, rfl⟩
      | ok key =>
        refine .inl (Decidable.byContradiction fun hwait => ?_)
        have hawaits : s.awaits c.operation c = true :=
          decide_eq_true ⟨rfl, by rw [hc]; rfl, hwait⟩
        exact Bool.false_ne_true (h.symm.trans hawaits)
    rw [faults_answer_of_calm hcalm]
  · cases hc : c.key with
    | error e => rw [answer_of_key_error hc]
    | ok key =>
      cases hfaults : s.faults c.operation with
      | nil => rw [faults_answer_of_calm (.inl hfaults)]
      | cons e rest =>
        rw [(answer_of_fault hc hfaults).2]
        exact if_neg (Ne.symm hop)

end MemoryStore

/-- The failure that a move arranges for an operation. -/
def Move.arranges? (op : Operation) : Move → Option StoreError
  | .queueFault o e => if op = o then some e else none
  | _ => none

namespace World

/-- The call that a move makes and the store completes, if it makes one. -/
def callMade? (w : World) : Move → Option StoreCall
  | .client c => some c
  | .pass i t =>
    match t.cut, w.passes[i]?.map PassRun.rest with
    | none, some (.perform (.call c) _) => some c
    | _, _ => none
  | _ => none

/-- How a move is refused for which a failure of the operation waits: not at all, if the inner value is
`none`. There is no value where none waits for it. -/
def struckBy (w : World) (op : Operation) (m : Move) : Option (Option StoreError) :=
  ((w.callMade? m).filter (w.store.awaits op)).map w.store.refusal?

/-- How the calls for which failures of the operation wait are refused along some moves, one after the
other. -/
def struck (chain : Chain) (op : Operation) : World → List Move → List (Option StoreError)
  | _, [] => []
  | w, m :: moves => (w.struckBy op m).toList ++ struck chain op (w.apply chain m) moves

/-- The failures that some moves arrange for an operation. -/
def arranged (op : Operation) (moves : List Move) : List StoreError :=
  moves.filterMap (Move.arranges? op)

section moves

variable {w : World} {m : Move} {op : Operation}

/-- The call that a move makes is the one that the store completes. -/
theorem makes_of_callMade? {c : StoreCall} (h : w.callMade? m = some c) : w.Makes m c := by
  unfold callMade? at h
  split at h
  · obtain rfl := Option.some.inj h
    exact .client _
  · rename_i i t
    split at h
    · rename_i c' next hcut hrest
      obtain rfl := Option.some.inj h
      obtain ⟨p, hi, hp⟩ := Option.map_eq_some_iff.mp hrest
      exact .pass hi hp hcut
    · cases h
  · cases h

/-- A move that makes a call arranges no failure. -/
theorem Makes.arranges? {c : StoreCall} (h : w.Makes m c) (op : Operation) :
    m.arranges? op = none := by
  cases h <;> rfl

/-- A move that makes no call leaves the failures that wait, and the one that it arranges waits behind
them. -/
theorem faults_of_no_call (chain : Chain) (h : w.callMade? m = none) (op : Operation) :
    (w.apply chain m).store.faults op = w.store.faults op ++ (m.arranges? op).toList := by
  have hsame : w.store.faults op = w.store.faults op ++ [] := (List.append_nil _).symm
  cases m with
  | client c => cases h
  | queueFault o e =>
    show (if op = o then w.store.faults op ++ [e] else w.store.faults op) =
      w.store.faults op ++ (if op = o then some e else none).toList
    split
    · rfl
    · exact hsame
  | insert g uid now =>
    show (w.store.insert g uid now).2.faults op = _
    unfold MemoryStore.insert
    simp only
    split <;> exact hsame
  | requestDeletion key now =>
    show (w.store.requestDeletion key now).2.faults op = _
    unfold MemoryStore.requestDeletion
    split
    · exact hsame
    · split <;> exact hsame
  | edit key f =>
    show (w.store.edit key f).2.faults op = _
    unfold MemoryStore.edit
    simp only
    split <;> exact hsame
  | adjustRollout key f =>
    show (w.store.adjustRollout key f).2.faults op = _
    unfold MemoryStore.adjustRollout
    split <;> exact hsame
  | deleteWorkload key => exact hsame
  | loseStatusWrites n => exact hsame
  | begin cx => exact hsame
  | pass i t =>
    show (w.proceed i t).store.faults op = _
    unfold proceed
    simp only [callMade?] at h
    cases hi : w.passes[i]? with
    | none => exact hsame
    | some p =>
      rw [hi] at h
      show (p.proceed t w.store).2.faults op = _
      unfold PassRun.proceed
      cases hp : p.rest with
      | done r => exact hsame
      | perform e next =>
        cases e with
        | clock => exact hsame
        | work task => exact hsame
        | call c =>
          cases ht : t.cut with
          | none =>
            rw [ht, Option.map_some, hp] at h
            exact nomatch h
          | some cut =>
            simp only [Turn.respond, ht]
            exact hsame

/-- What a move delivers, and what waits behind it, is what waited before and what the move arranges. -/
theorem faults_apply (chain : Chain) (w : World) (m : Move) (op : Operation) :
    ∃ delivered : Option StoreError, w.struckBy op m = delivered.map some ∧
      delivered.toList ++ (w.apply chain m).store.faults op =
        w.store.faults op ++ (m.arranges? op).toList := by
  unfold struckBy
  cases hcall : w.callMade? m with
  | none =>
    refine ⟨none, rfl, ?_⟩
    rw [faults_of_no_call chain hcall]
    rfl
  | some c =>
    have hmakes := makes_of_callMade? hcall
    rw [store_of_makes chain hmakes, hmakes.arranges?, Option.toList_none, List.append_nil]
    cases hawaits : w.store.awaits op c with
    | false =>
      refine ⟨none, by rw [Option.filter_some, hawaits]; rfl, ?_⟩
      rw [MemoryStore.faults_answer_of_not_awaits hawaits]
      rfl
    | true =>
      obtain ⟨e, hrefusal, htaken⟩ := MemoryStore.refusal?_of_awaits hawaits
      refine ⟨some e, ?_, htaken.symm⟩
      rw [Option.filter_some, if_pos hawaits, Option.map_some, hrefusal, Option.map_some]

/-- Along any moves, what has been delivered and what waits behind it is what waited at first and what
has been arranged since. -/
theorem delivered_append (chain : Chain) (w : World) (op : Operation) (moves : List Move) :
    ∃ delivered : List StoreError, struck chain op w moves = delivered.map some ∧
      delivered ++ (w.run chain moves).store.faults op = w.store.faults op ++ arranged op moves := by
  induction moves generalizing w with
  | nil => exact ⟨[], rfl, (List.append_nil _).symm⟩
  | cons m moves ih =>
    obtain ⟨first, hfirst, hstep⟩ := faults_apply chain w m op
    obtain ⟨rest, hrest, hrun⟩ := ih (w.apply chain m)
    have harranged : arranged op (m :: moves) = (m.arranges? op).toList ++ arranged op moves := by
      unfold arranged
      rw [List.filterMap_cons]
      cases m.arranges? op <;> rfl
    refine ⟨first.toList ++ rest, ?_, ?_⟩
    · show (w.struckBy op m).toList ++ struck chain op (w.apply chain m) moves = _
      rw [hfirst, hrest, List.map_append]
      cases first <;> rfl
    · calc first.toList ++ rest ++ (w.run chain (m :: moves)).store.faults op
          = first.toList ++ (rest ++ ((w.apply chain m).run chain moves).store.faults op) :=
            List.append_assoc ..
        _ = first.toList ++ (w.apply chain m).store.faults op ++ arranged op moves := by
            rw [hrun, List.append_assoc]
        _ = w.store.faults op ++ arranged op (m :: moves) := by
            rw [hstep, harranged, List.append_assoc]

end moves

/-- A call that is refused changes nothing in a store. No job, no workload and no status write to be lost
is touched; only the operation's own count, the first failure that waited for it and the version may
have moved. A call that can tell its key is refused with the first failure that waits for its operation,
if one does, and otherwise answered as if no failure waited at all. So whatever happens to a store and
in whatever order, the failures that wait for an operation are delivered to its calls, each once and in
their order. -/
theorem failed_calls_change_nothing :
    (∀ (s : MemoryStore) (c : StoreCall),
        (∀ e, (s.answer c).1 = .error e → s.Refused (s.answer c).2 c.operation) ∧
        (∀ key e rest, c.key = .ok key → s.faults c.operation = e :: rest →
          (s.answer c).1 = .error e ∧
            (s.answer c).2.faults = fun o => if o = c.operation then rest else s.faults o) ∧
        (s.faults c.operation = [] ∨ (∃ e, c.key = .error e) →
          (s.answer c).1 = (s.hushed.answer c).1 ∧ (s.answer c).2.faults = s.faults)) ∧
      ∀ (chain : Chain) (w : World) (op : Operation) (moves : List Move),
        ∃ delivered : List StoreError, struck chain op w moves = delivered.map some ∧
          delivered ++ (w.run chain moves).store.faults op =
            w.store.faults op ++ arranged op moves := by
  refine ⟨fun s c => ⟨fun e => MemoryStore.refused_answer,
    fun key e rest => MemoryStore.answer_of_fault, fun h => ?_⟩, delivered_append⟩
  have hfaults := MemoryStore.faults_answer_of_calm h
  rw [MemoryStore.answer_hushed hfaults]
  exact ⟨rfl, hfaults⟩

namespace Sample

/-- The sample job with a finalizer. -/
def held : Goop := job.withFinalizers ["hold"]

/-- A store in which the deletion of the job has been requested, and the finalizer holds it. -/
def dying : MemoryStore := (((MemoryStore.empty 1).insert held "uid" noon).2.requestDeletion key noon).2

/-- The job as that store has it, with one finalizer more. -/
def late : Goop :=
  (dying.stamp (MemoryStore.requested ((MemoryStore.empty 1).insert held "uid" noon).1 noon)).addFinalizer
    "late"

/-- The same store with a failure that waits for a write. -/
def failing : MemoryStore := dying.queueFault .update (.transient "first")

/-- Two failures are arranged for writes and one for reads; then there are calls of these and of other
operations, one of them for a job that has no key. -/
def unlucky : List Move :=
  [.queueFault .update (.transient "first"), .queueFault .get (.transient "other"),
    .queueFault .update (.transient "second"), .client (.getWorkload key), .client (.update late),
    .client (.update (.new "nowhere" ∅)), .client (.get key), .client (.update late),
    .client (.update late)]

end Sample

open Sample in
/-- The new finalizer is refused, behind the version. With a failure that waits, the failure is the answer
to that call, and no other call takes it. The two failures that are arranged for writes come in their
order. -/
theorem sample_refused :
    (dying.answer (.update late)).1 = .error (.api 422
        "Forbidden: no new finalizers can be added if the object is being deleted") ∧
      (dying.answer (.update late)).2.version = dying.version + 1 ∧
      (dying.answer (.update late)).2.goops = dying.goops ∧
      (failing.answer (.update late)).1 = .error (.transient "first") ∧
      (failing.answer (.get key)).2.faults .update = [.transient "first"] ∧
      struck chain .update ⟨dying, []⟩ unlucky =
        [some (.transient "first"), some (.transient "second")] := by
  obtain ⟨hcalls, hruns⟩ := failed_calls_change_nothing
  have herror : (dying.answer (.update late)).1 = .error (.api 422
      "Forbidden: no new finalizers can be added if the object is being deleted") := rfl
  have hfirst := (hcalls failing (.update late)).2.1 key (.transient "first") [] rfl rfl
  have hread := (hcalls failing (.get key)).2.2 (.inl rfl)
  refine ⟨herror, rfl, ((hcalls dying (.update late)).1 _ herror).goops, hfirst.1, ?_, ?_⟩
  · rw [hread.2]
    rfl
  · obtain ⟨delivered, hstruck, hrun⟩ := hruns chain ⟨dying, []⟩ .update unlucky
    have hnone : (run chain ⟨dying, []⟩ unlucky).store.faults .update = [] := rfl
    have hbefore : dying.faults .update = [] := rfl
    rw [hnone, List.append_nil, hbefore, List.nil_append] at hrun
    rw [hstruck, hrun]
    rfl

end World

end GoopOperator
