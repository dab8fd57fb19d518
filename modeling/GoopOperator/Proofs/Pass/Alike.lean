import GoopOperator.Proofs.Pass.Path
import GoopOperator.Proofs.Store.Blur
import Mathlib.Data.List.Forall2

/-!
# Passes that go on alike

Two passes are `Alike` under a blur if, as long as they are answered alike, they ask for the same but
for what is looked past, and end with the same result. Passes are shown to be alike part by part
(`Alike.bind`, `Alike.attempt`).

Where the surroundings of two such passes answer alike (`Couples`), so do the passes run: with the same
result, after the same calls (`Pass.callsMade`), and with coupled states after each number of calls
(`Pass.stateAfter`). This is `Alike.run`.
-/

namespace GoopOperator

/-! ## What is seen of failures, calls and answers -/

namespace Blur

/-- A failure as it is seen under a blur. -/
def error (b : Blur) : PassError → PassError
  | .store (.transient m) => .store (.transient (if b.wording then "" else m))
  | e => e

/-- A result as it is seen under a blur, where `view` is what is seen of what it gives. -/
def result (b : Blur) (view : α → β) (r : Except PassError α) : Except PassError β :=
  (r.map view).mapError b.error

/-- Whether an object was not there is seen. -/
@[simp] theorem isNotFound_error (b : Blur) (e : PassError) :
    (b.error e).isNotFound = e.isNotFound := by
  unfold error
  split <;> rfl

/-- Failures that are seen as the same lack an object both, or neither does. -/
theorem isNotFound_eq {b : Blur} {e e' : PassError} (h : b.error e = b.error e') :
    e.isNotFound = e'.isNotFound := by
  rw [← isNotFound_error b e, h, isNotFound_error]

/-- Where wordings are seen, so are failures. -/
theorem error_eq {b : Blur} (hb : b.wording = false) (e : PassError) : b.error e = e := by
  unfold error
  split
  · rw [hb]
    rfl
  · rfl

/-- Failures that are seen as the same are the same, or both are transient. -/
theorem error_cases {b : Blur} {e e' : PassError} (h : b.error e = b.error e') :
    e = e' ∨ ∃ m m', e = .store (.transient m) ∧ e' = .store (.transient m') := by
  have hseen (x : PassError) : b.error x = x ∨ ∃ m, x = .store (.transient m) := by
    unfold error
    split
    · exact .inr ⟨_, rfl⟩
    · exact .inl rfl
  rcases hseen e with he | ⟨m, rfl⟩
  · rcases hseen e' with he' | ⟨m', rfl⟩
    · exact .inl (he.symm.trans (h.trans he'))
    · exact .inr ⟨_, m', he.symm.trans h, rfl⟩
  · rcases hseen e' with he' | ⟨m', rfl⟩
    · exact .inr ⟨m, _, rfl, he'.symm.trans h.symm⟩
    · exact .inr ⟨m, m', rfl, rfl⟩

/-- Where wordings are seen, of a result all is seen but what it gives. -/
theorem result_eq {b : Blur} (hb : b.wording = false) (view : α → β) (r : Except PassError α) :
    b.result view r = r.map view := by
  cases r with
  | error e => exact congrArg Except.error (error_eq hb e)
  | ok a => rfl

/-- Results of which the same is seen are both failures, or neither is. -/
theorem result_cases {b : Blur} {view : α → β} {r r' : Except PassError α}
    (h : b.result view r = b.result view r') :
    (∃ e e', r = .error e ∧ r' = .error e' ∧ b.error e = b.error e') ∨
      ∃ a a', r = .ok a ∧ r' = .ok a' ∧ view a = view a' := by
  cases r with
  | error e =>
    cases r' with
    | error e' => exact .inl ⟨e, e', rfl, rfl, Except.error.inj h⟩
    | ok a' => cases h
  | ok a =>
    cases r' with
    | error e' => cases h
    | ok a' => exact .inr ⟨a, a', rfl, rfl, Except.ok.inj h⟩

end Blur

/-- Two calls are the same but for what is looked past. -/
inductive CallsAlike (b : Blur) : StoreCall → StoreCall → Prop where
  /-- Both read the same job. -/
  | get (key : ObjectKey) : CallsAlike b (.get key) (.get key)
  /-- Both write alike jobs. -/
  | update {g g' : Goop} (h : g.blur b = g'.blur b) : CallsAlike b (.update g) (.update g')
  /-- Both write the status of alike jobs. -/
  | updateStatus {g g' : Goop} (h : g.blur b = g'.blur b) :
    CallsAlike b (.updateStatus g) (.updateStatus g')
  /-- Both look at the same workload. -/
  | getWorkload (key : ObjectKey) : CallsAlike b (.getWorkload key) (.getWorkload key)
  /-- Both create the same workload. -/
  | createWorkload (d : WorkloadSpec) : CallsAlike b (.createWorkload d) (.createWorkload d)

/-- The answers to two calls are the same but for what is looked past. Of the answer to a write no more
is seen than whether it is refused, and why. -/
def AnswersAlike (b : Blur) : (c c' : StoreCall) →
    (Effect.call c).Answer → (Effect.call c').Answer → Prop
  | .get _, .get _, a, a' => b.result (Goop.blur b) a = b.result (Goop.blur b) a'
  | .update _, .update _, a, a' => b.result (fun _ => ()) a = b.result (fun _ => ()) a'
  | .updateStatus _, .updateStatus _, a, a' =>
    b.result (fun _ => ()) a = b.result (fun _ => ()) a'
  | .getWorkload _, .getWorkload _, a, a' => b.result id a = b.result id a'
  | .createWorkload _, .createWorkload _, a, a' => b.result id a = b.result id a'
  | _, _, _, _ => False

/-- Of three answers, of which the last two are answers to the same call. -/
theorem AnswersAlike.trans {b : Blur} {c c' : StoreCall} {a : (Effect.call c).Answer}
    {a' a'' : (Effect.call c').Answer} (h : AnswersAlike b c c' a a')
    (h' : AnswersAlike b c' c' a' a'') : AnswersAlike b c c' a a'' := by
  cases c <;> cases c' <;> first | exact Eq.trans h h' | exact h.elim

namespace Pass

/-! ## The calls of a run -/

/-- The calls that a pass makes, in their order. -/
def callsMade (respond : (e : Effect) → σ → e.Answer × σ) : Pass α → σ → List StoreCall
  | done _, _ => []
  | perform (.call c) next, s =>
    c :: callsMade respond (next (respond (.call c) s).1) (respond (.call c) s).2
  | perform .clock next, s => callsMade respond (next (respond .clock s).1) (respond .clock s).2
  | perform (.work task) next, s =>
    callsMade respond (next (respond (.work task) s).1) (respond (.work task) s).2

/-- The number of calls that a pass makes. -/
def callCount (respond : (e : Effect) → σ → e.Answer × σ) : Pass α → σ → Nat
  | done _, _ => 0
  | perform (.call c) next, s =>
    callCount respond (next (respond (.call c) s).1) (respond (.call c) s).2 + 1
  | perform .clock next, s => callCount respond (next (respond .clock s).1) (respond .clock s).2
  | perform (.work task) next, s =>
    callCount respond (next (respond (.work task) s).1) (respond (.work task) s).2

/-- The state in which a pass leaves its surroundings that gets no further than its first `k`
calls. -/
def stateAfter (respond : (e : Effect) → σ → e.Answer × σ) : Nat → Pass α → σ → σ
  | _, done _, s => s
  | 0, perform (.call _) _, s => s
  | k + 1, perform (.call c) next, s =>
    stateAfter respond k (next (respond (.call c) s).1) (respond (.call c) s).2
  | k, perform .clock next, s =>
    stateAfter respond k (next (respond .clock s).1) (respond .clock s).2
  | k, perform (.work task) next, s =>
    stateAfter respond k (next (respond (.work task) s).1) (respond (.work task) s).2

/-! ## Alike -/

/-- Answered alike, the two passes ask for the same but for what is looked past, and end with results
of which `view` shows the same. They do no work outside the store. -/
inductive Alike (b : Blur) (view : α → β) : Pass α → Pass α → Prop where
  /-- Both have ended. -/
  | done {r r' : Except PassError α} (h : b.result view r = b.result view r') :
    Alike b view (done r) (done r')
  /-- Both look at the time of day. -/
  | clock {next next' : Timestamp → Pass α}
    (h : ∀ t t' : Timestamp, b.time t.toText = b.time t'.toText → Alike b view (next t) (next' t')) :
    Alike b view (perform .clock next) (perform .clock next')
  /-- Both call the store. -/
  | call {c c' : StoreCall} {next : (Effect.call c).Answer → Pass α}
    {next' : (Effect.call c').Answer → Pass α} (hc : CallsAlike b c c')
    (h : ∀ a a', AnswersAlike b c c' a a' → Alike b view (next a) (next' a')) :
    Alike b view (perform (.call c) next) (perform (.call c') next')

variable {b : Blur} {view : α → β} {p p' : Pass α}

/-- Passes that go on in alike ways with what is seen as the same. -/
theorem Alike.bind (h : Alike b view p p') {view' : γ → δ} {f f' : α → Pass γ}
    (hf : ∀ a a', view a = view a' → Alike b view' (f a) (f' a')) :
    Alike b view' (p >>= f) (p' >>= f') := by
  induction h with
  | done h =>
    rcases Blur.result_cases h with ⟨e, e', rfl, rfl, he⟩ | ⟨a, a', rfl, rfl, ha⟩
    · exact .done (congrArg Except.error he)
    · exact hf a a' ha
  | clock h ih => exact .clock ih
  | call hc h ih => exact .call hc ih

/-- Passes whose failures are looked at. -/
theorem Alike.attempt (h : Alike b view p p') : Alike b (b.result view) p.attempt p'.attempt := by
  induction h with
  | done h => exact .done (congrArg Except.ok h)
  | clock h ih => exact .clock ih
  | call hc h ih => exact .call hc ih

/-! ## Running alike -/

/-- A pass on its way. -/
structure Point (σ α : Type) where
  /-- What it has been answered. -/
  history : History
  /-- What is left of it. -/
  rest : Pass α
  /-- The state of its surroundings. -/
  state : σ

/-- A pass when it has been answered. -/
def Point.answered {σ α : Type} (respond : (e : Effect) → σ → e.Answer × σ) (h : History)
    (e : Effect) (next : e.Answer → Pass α) (s : σ) : Point σ α :=
  ⟨⟨e, (respond e s).1⟩ :: h, next (respond e s).1, (respond e s).2⟩

/-- Two surroundings answer alike the passes that `R` couples, and the passes stay coupled. Of each two
calls that they make then, `Q` holds. -/
structure Couples {σ τ : Type} (b : Blur) (respond : (e : Effect) → σ → e.Answer × σ)
    (respond' : (e : Effect) → τ → e.Answer × τ) (R : Point σ α → Point τ α → Prop)
    (Q : StoreCall → StoreCall → Prop) : Prop where
  /-- The time of day. -/
  clock : ∀ {h next s h' next' s'}, R ⟨h, perform .clock next, s⟩ ⟨h', perform .clock next', s'⟩ →
    b.time (respond .clock s).1.toText = b.time (respond' .clock s').1.toText ∧
      R (.answered respond h .clock next s) (.answered respond' h' .clock next' s')
  /-- A call. -/
  call : ∀ {h c next s h' c' next' s'},
    R ⟨h, perform (.call c) next, s⟩ ⟨h', perform (.call c') next', s'⟩ → CallsAlike b c c' →
    Q c c' ∧ AnswersAlike b c c' (respond (.call c) s).1 (respond' (.call c') s').1 ∧
      R (.answered respond h (.call c) next s) (.answered respond' h' (.call c') next' s')

/-- What two runs have in common that are coupled by `R`. -/
structure RunAlike {σ τ : Type} (b : Blur) (view : α → β)
    (respond : (e : Effect) → σ → e.Answer × σ) (respond' : (e : Effect) → τ → e.Answer × τ)
    (R : Point σ α → Point τ α → Prop) (Q : StoreCall → StoreCall → Prop) (p p' : Pass α) (s : σ)
    (s' : τ) : Prop where
  /-- They end with the same result. -/
  result : b.result view (p.run respond s).1 = b.result view (p'.run respond' s').1
  /-- They make calls of which `Q` holds one by one. -/
  calls : List.Forall₂ Q (p.callsMade respond s) (p'.callsMade respond' s')
  /-- They make as many calls. -/
  count : p.callCount respond s = p'.callCount respond' s'
  /-- They are coupled at the end. -/
  final : ∃ t t', R ⟨t, done (p.run respond s).1, (p.run respond s).2⟩
    ⟨t', done (p'.run respond' s').1, (p'.run respond' s').2⟩
  /-- They are coupled after each number of calls. -/
  after : ∀ k, ∃ t q t' q', R ⟨t, q, p.stateAfter respond k s⟩ ⟨t', q', p'.stateAfter respond' k s'⟩

/-- Alike passes in surroundings that answer alike run alike. -/
theorem Alike.run {σ τ : Type} {respond : (e : Effect) → σ → e.Answer × σ}
    {respond' : (e : Effect) → τ → e.Answer × τ} {R : Point σ α → Point τ α → Prop}
    {Q : StoreCall → StoreCall → Prop} (hcouples : Couples b respond respond' R Q)
    (halike : Alike b view p p') {h t : History} {s : σ} {s' : τ} (hR : R ⟨h, p, s⟩ ⟨t, p', s'⟩) :
    RunAlike b view respond respond' R Q p p' s s' := by
  induction halike generalizing h t s s' with
  | done hr => exact ⟨hr, .nil, rfl, ⟨h, t, hR⟩, fun k => ⟨h, _, t, _, hR⟩⟩
  | clock hnext ih =>
    obtain ⟨htime, hR⟩ := hcouples.clock hR
    obtain ⟨hresult, hcalls, hcount, hend, hafter⟩ := ih _ _ htime hR
    exact ⟨hresult, hcalls, hcount, hend, hafter⟩
  | call hc hnext ih =>
    obtain ⟨hQ, hanswer, hR'⟩ := hcouples.call hR hc
    obtain ⟨hresult, hcalls, hcount, hend, hafter⟩ := ih _ _ hanswer hR'
    refine ⟨hresult, .cons hQ hcalls, congrArg (· + 1) hcount, hend, fun k => ?_⟩
    cases k with
    | zero => exact ⟨h, _, t, _, hR⟩
    | succ k => exact hafter k

end Pass

end GoopOperator
