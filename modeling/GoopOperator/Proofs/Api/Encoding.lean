import GoopOperator.Api.Server
import GoopOperator.Proofs.Store.Portable
import GoopOperator.Proofs.Store.Received
import GoopOperator.Proofs.Text.Utf8

/-!
# Answers of a store as responses

How a server tells a client what a store answers to a call (`Encodes`): a job as its JSON form, a
rollout as a DaemonSet whose status carries it, a failure as a status and an object that explains it.
From such a response the client gets the answer of the store, but for the wording of a transient
failure and for what a job loses when it is sent (`Encodes.alike`), also where the response says what the
store answers to the call as it is received (`Encodes.alike_received`).
-/

namespace GoopOperator.Api

/-! ## Encodings -/

/-- The body of a response is the text of a JSON value. -/
def Response.Says (r : Response) (v : Json) : Prop :=
  ∃ text, Text.Utf8.decode r.body = .ok text ∧ Json.parse? text = some v

/-- A response whose body is the text of a value says that value. -/
theorem says_compact (status : Nat) {v : Json} (h : Json.isLegible v = true) :
    Response.Says ⟨status, bytes v.compact⟩ v :=
  ⟨v.compact, Text.Utf8.decode_bytes v.compact, Json.parse?_compact h⟩

/-- A response refuses a request with a status and an object that explains it. -/
structure Response.Explains (r : Response) (code : Nat) (message reason : String) : Prop where
  /-- The status. -/
  status : r.status = code
  /-- The object. -/
  body : ∃ v, r.Says v ∧ Failure.ofJson? v = some (.refused code message reason)

/-- A response says that a store has failed a call about the object of a kind and a key. If the failure
is one about an object, it is one about this object. -/
inductive Refuses (kind : ObjectKind) (key : ObjectKey) (r : Response) : StoreError → Prop where
  /-- There is no such object. -/
  | notFound {message reason : String} (h : r.Explains 404 message reason) :
    Refuses kind key r (.notFound kind key)
  /-- The object has changed since it was read. -/
  | conflict {message : String} (h : r.Explains 409 message "Conflict") :
    Refuses kind key r (.conflict key message)
  /-- There is such an object already. -/
  | alreadyExists {message : String} (h : r.Explains 409 message "AlreadyExists") :
    Refuses kind key r (.alreadyExists kind key)
  /-- Any other refusal of the request. -/
  | api {code : Nat} {message reason : String} (hlow : 400 ≤ code) (hhigh : code ≤ 499)
    (hother : code ∉ [404, 409, 429]) (h : r.Explains code message reason) :
    Refuses kind key r (.api code message)
  /-- The server was not able to answer. If an object explains that, it does not say otherwise. -/
  | transient {message : String} (hlow : 500 ≤ r.status) (hhigh : r.status ≤ 599)
    (h : ∀ v code m reason, r.Says v → Failure.ofJson? v = some (.refused code m reason) →
      500 ≤ code ∧ code ≤ 599) :
    Refuses kind key r (.transient message)

/-- A DaemonSet reports how far a workload has got: its status carries the counts, and was published
for a generation that is not older than its own, exactly where the counts are observed. -/
structure Reports (d : ObservedDaemonSet) (st : DaemonSetStatus) (w : Rollout) : Prop where
  /-- The status of the DaemonSet. -/
  status : d.status = some st
  /-- The number of nodes that should run it. -/
  desired : st.desired = w.desired
  /-- The number of nodes where it is ready. -/
  ready : st.ready = w.ready
  /-- The number of nodes where it is available, which may be left out if it is 0. -/
  available : st.available.getD 0 = w.available
  /-- The generation that the status was published for. -/
  observed : w.observed = true ↔ ∃ seen, st.observedGeneration = some seen ∧
    ∀ current, d.metadata.generation = some current → current ≤ seen

/-- A JSON value is what a client is given for the answer to a call. -/
def Gives : (c : StoreCall) → c.Answer → Json → Prop
  | .get _, g, v => v = g.toJson
  | .update _, g, v => v = g.toJson
  | .updateStatus _, g, v => v = g.toJson
  | .getWorkload _, w, v => ∃ d st, ObservedDaemonSet.ofJson? v = some d ∧ Reports d st w
  | .createWorkload _, _, v => ∃ d, ObservedDaemonSet.ofJson? v = some d

/-- A response says what a store answers to a call about the object of a kind and a key. -/
inductive Encodes (kind : ObjectKind) (key : ObjectKey) (c : StoreCall) (r : Response) :
    Except StoreError c.Answer → Prop where
  /-- The call succeeds. -/
  | given {a : c.Answer} {v : Json} (hlow : 200 ≤ r.status) (hhigh : r.status ≤ 299)
    (hbody : r.Says v) (h : Gives c a v) : Encodes kind key c r (.ok a)
  /-- The call fails. -/
  | refused {e : StoreError} (h : Refuses kind key r e) : Encodes kind key c r (.error e)

/-! ## What a client makes of them -/

section client

variable {α : Type} {kind : ObjectKind} {key : ObjectKey} {r : Response} {b : Blur} {v : Json}
  {text : String}

/-- The text of a response. -/
theorem text_of_decode (h : Text.Utf8.decode r.body = .ok text) : r.text = .ok text := by
  unfold Response.text
  rw [h]
  rfl

/-- What is read from a response that is no refusal. -/
theorem Response.Says.object (h : r.Says v) (hstatus : r.status ≤ 299) {read? : Json → Option α}
    {x : α} (hread : read? v = some x) : r.object read? = .ok x := by
  obtain ⟨text, htext, hparse⟩ := h
  have hgiven : r.isRefusal = false := decide_eq_false fun ⟨hlow, _⟩ => by omega
  have hvalue : (Json.parse? text).bind read? = some x := by rw [hparse, Option.bind_some, hread]
  unfold Response.object
  rw [text_of_decode htext]
  simp [bind, Except.bind, hgiven, hvalue]

/-- A refusal is explained by the object in its body, if there is one. -/
theorem object_of_isRefusal (htext : Text.Utf8.decode r.body = .ok text) (h : r.isRefusal = true)
    (read? : Json → Option α) :
    r.object read? = .error ((Json.parse? text >>= Failure.ofJson?).getD
      (.refused r.status (Text.quoted text) "Failed to parse error data")) := by
  unfold Response.object
  rw [text_of_decode htext, h]
  rfl

/-- A refusal that is explained is read as it is explained. -/
theorem Response.Explains.object {code : Nat} {message reason : String}
    (h : r.Explains code message reason) (hlow : 400 ≤ code) (hhigh : code ≤ 599)
    (read? : Json → Option α) : r.object read? = .error (.refused code message reason) := by
  obtain ⟨v, ⟨text, htext, hparse⟩, hread⟩ := h.body
  have hrefusal : r.isRefusal = true := by
    rw [Response.isRefusal, h.status]
    exact decide_eq_true ⟨hlow, hhigh⟩
  rw [object_of_isRefusal htext hrefusal, hparse, Option.bind_eq_bind, Option.bind_some, hread]
  rfl

/-- A server that was not able to answer leaves a client with a transient failure. -/
theorem transient_object (hlow : 500 ≤ r.status) (hhigh : r.status ≤ 599)
    (h : ∀ v code m reason, r.Says v → Failure.ofJson? v = some (.refused code m reason) →
      500 ≤ code ∧ code ≤ 599) (kind : ObjectKind) (key : ObjectKey) (read? : Json → Option α) :
    ∃ f m, r.object read? = .error f ∧ f.storeError kind key = .transient m := by
  have hrefused {code : Nat} (hcode : 500 ≤ code ∧ code ≤ 599) (message reason : String) :
      ∃ m, (Failure.refused code message reason).storeError kind key = .transient m := by
    refine ⟨message ++ " (" ++ toString code ++ ")", ?_⟩
    have hother : code ≠ 404 ∧ code ≠ 409 := by omega
    simp [Failure.storeError, hother, hcode]
  cases htext : Text.Utf8.decode r.body with
  | error m =>
    have hbroken : r.text = .error (.broken ("UTF-8 Error: " ++ m.message)) := by
      unfold Response.text
      rw [htext]
      rfl
    refine ⟨.broken ("UTF-8 Error: " ++ m.message), _, ?_, rfl⟩
    unfold Response.object
    rw [hbroken]
    rfl
  | ok text =>
    have hrefusal : r.isRefusal = true := decide_eq_true ⟨by omega, hhigh⟩
    rw [object_of_isRefusal htext hrefusal]
    cases hbody : Json.parse? text >>= Failure.ofJson? with
    | none =>
      obtain ⟨m, hm⟩ := hrefused ⟨hlow, hhigh⟩ (Text.quoted text) "Failed to parse error data"
      exact ⟨_, m, rfl, hm⟩
    | some f =>
      obtain ⟨v, hparse, hread⟩ := Option.bind_eq_some_iff.mp hbody
      cases f with
      | broken m => exact ⟨_, m, rfl, rfl⟩
      | refused code message reason =>
        have hcode := h v code message reason ⟨text, htext, hparse⟩ hread
        obtain ⟨m, hm⟩ := hrefused hcode message reason
        exact ⟨_, m, rfl, hm⟩

/-- From a refusal a client gets the failure of the store, but for the wording of a transient one. -/
theorem Refuses.object {e : StoreError} (h : Refuses kind key r e) (hb : b.wording = true)
    (read? : Json → Option α) :
    ∃ f, r.object read? = .error f ∧
      b.error (.store e) = b.error (.store (f.storeError kind key)) := by
  cases h with
  | notFound h => exact ⟨_, h.object (by decide) (by decide) read?, rfl⟩
  | conflict h => exact ⟨_, h.object (by decide) (by decide) read?, rfl⟩
  | alreadyExists h => exact ⟨_, h.object (by decide) (by decide) read?, rfl⟩
  | @api code message reason hlow hhigh hother h =>
    refine ⟨_, h.object hlow (Nat.le_trans hhigh (by decide)) read?, ?_⟩
    have hserver : ¬ (500 ≤ code ∧ code ≤ 599) := fun ⟨hserver, _⟩ => by omega
    simp only [List.mem_cons, List.not_mem_nil, or_false, not_or] at hother
    simp [Failure.storeError, hother, hserver]
  | transient hlow hhigh h =>
    obtain ⟨f, m, hobject, herror⟩ := transient_object hlow hhigh h kind key read?
    refine ⟨f, hobject, ?_⟩
    rw [herror]
    simp [Blur.error, hb]

/-- From a DaemonSet a client gets how far its workload has got. -/
theorem Reports.workload {d : ObservedDaemonSet} {st : DaemonSetStatus} {w : Rollout}
    (h : Reports d st w) : d.workload = w := by
  obtain ⟨desired, ready, available, observed⟩ := w
  obtain ⟨hstatus, rfl, rfl, rfl, hobserved⟩ := h
  unfold ObservedDaemonSet.workload
  rw [hstatus]
  simp only [Rollout.mk.injEq, true_and]
  rw [Bool.eq_iff_iff, hobserved]
  cases st.observedGeneration with
  | none => simp
  | some seen => cases d.metadata.generation <;> simp

/-- What a client is answered to a call about the object of a kind and a key. -/
def clientAnswer (kind : ObjectKind) (key : ObjectKey) (r : Response) (c : StoreCall) :
    (Effect.call c).Answer :=
  ((r.answer c).mapError (Failure.storeError kind key)).mapError .store

/-- What the response says is answered. -/
theorem clientAnswer_ok {c : StoreCall} {a : c.Answer} (h : r.answer c = .ok a) :
    clientAnswer kind key r c = .ok a := by
  unfold clientAnswer
  rw [h]
  rfl

/-- A failure is answered as one of a store. -/
theorem clientAnswer_error {c : StoreCall} {f : Failure} (h : r.answer c = .error f) :
    clientAnswer kind key r c = .error (.store (f.storeError kind key)) := by
  unfold clientAnswer
  rw [h]
  rfl

/-- A call that fails. -/
theorem Refuses.clientAnswer {e : StoreError} (h : Refuses kind key r e) (hb : b.wording = true)
    (c : StoreCall) :
    ∃ e', clientAnswer kind key r c = .error (.store e') ∧
      b.error (.store e) = b.error (.store e') := by
  have hanswer : ∃ f, r.answer c = .error f ∧
      b.error (.store e) = b.error (.store (f.storeError kind key)) := by
    cases c with
    | getWorkload k =>
      obtain ⟨f, hobject, herror⟩ := h.object hb ObservedDaemonSet.ofJson?
      exact ⟨f, congrArg (Except.map ObservedDaemonSet.workload) hobject, herror⟩
    | createWorkload d =>
      obtain ⟨f, hobject, herror⟩ := h.object hb ObservedDaemonSet.ofJson?
      exact ⟨f, congrArg (Except.map fun _ => ()) hobject, herror⟩
    | _ => exact h.object hb Goop.ofJson?
  obtain ⟨f, hf, herror⟩ := hanswer
  exact ⟨_, clientAnswer_error hf, herror⟩

/-- A job that a client is answered. -/
theorem object_of_portable {g : Goop} (hg : g.Portable b) (hbody : r.Says g.toJson)
    (hstatus : r.status ≤ 299) : r.object Goop.ofJson? = .ok g.settled :=
  hbody.object hstatus (Goop.yields hg.proper).read

/-- From a response that encodes the answer of a store a client gets an answer that is alike, if the
jobs in the store can be sent. -/
theorem Encodes.alike {s : MemoryStore} (hs : s.Portable b) (hsees : b.SeesData)
    (hb : b.wording = true) {c : StoreCall} (h : Encodes kind key c r (s.answer c).1) :
    AnswersAlike b c c ((s.answer c).1.mapError .store) (clientAnswer kind key r c) := by
  generalize ha : (s.answer c).1 = a at h
  cases h with
  | refused h =>
    obtain ⟨e', hclient, herror⟩ := h.clientAnswer hb c
    rw [hclient]
    cases c <;> exact congrArg Except.error herror
  | @given a v hlow hhigh hbody h =>
    cases c with
    | get k =>
      have hg : a.Portable b := MemoryStore.portable_get hs ha
      have hanswer : r.answer (.get k) = .ok a.settled := object_of_portable hg (h ▸ hbody) hhigh
      rw [clientAnswer_ok hanswer]
      exact congrArg Except.ok (hg.settled hsees).symm
    | update g =>
      have hg : a.Portable b := MemoryStore.portable_update hs ha
      have hanswer : r.answer (.update g) = .ok a.settled := object_of_portable hg (h ▸ hbody) hhigh
      rw [clientAnswer_ok hanswer]
      rfl
    | updateStatus g =>
      have hg : a.Portable b := MemoryStore.portable_updateStatus hs ha
      have hanswer : r.answer (.updateStatus g) = .ok a.settled :=
        object_of_portable hg (h ▸ hbody) hhigh
      rw [clientAnswer_ok hanswer]
      rfl
    | getWorkload k =>
      obtain ⟨d, st, hread, hreports⟩ := h
      have hanswer : r.answer (.getWorkload k) = .ok d.workload :=
        congrArg (Except.map ObservedDaemonSet.workload) (hbody.object hhigh hread)
      rw [clientAnswer_ok hanswer, hreports.workload]
      rfl
    | createWorkload d =>
      obtain ⟨ds, hread⟩ := h
      have hanswer : r.answer (.createWorkload d) = .ok () :=
        congrArg (Except.map fun _ => ()) (hbody.object hhigh hread)
      rw [clientAnswer_ok hanswer]
      rfl

/-- So does a client that has made the call, if the response says what a store answers to the call as it
is received, and the stores differ in the expected numbers of runs alone. -/
theorem Encodes.alike_received {s s' : MemoryStore} (hsame : s'.uncounted = s.uncounted)
    (hs : s.Portable b) (hsees : b.SeesData) (hb : b.wording = true) {c : StoreCall}
    (h : Encodes kind key c.received r (s'.answer c.received).1) :
    AnswersAlike b c c ((s.answer c).1.mapError .store) (clientAnswer kind key r c) := by
  have hs' : s'.Portable b := fun k g hg => hs k g (MemoryStore.goops_eq_of_uncounted hsame ▸ hg)
  have halike := h.alike hs' hsees hb
  have hanswer := (MemoryStore.answer_received hsame c).1
  cases c <;>
  · rw [← eq_of_heq hanswer]
    exact halike

end client

end GoopOperator.Api
