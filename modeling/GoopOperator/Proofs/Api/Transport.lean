import GoopOperator.Proofs.Api.Encoding
import GoopOperator.Proofs.Api.Inbound
import GoopOperator.Proofs.Lifecycle.Alike
import GoopOperator.Proofs.Lifecycle.Discipline

/-!
# A server in the place of a store

A server that reads what a request asks for, and answers with an encoding of what a store in memory
answers to that, stands in for the store (`StandsIn`): the pass makes the same calls as over the store,
each of them reaches the server as a request that is read as the call, and the pass ends in the same way,
but for the wording of transient failures (`server_stands_for_store`).

The pass over the store and the pass over the server go side by side (`Linked`). The request of a call is
read as the call (`call?_ofCall`), but for what the store behind the server does not look at
(`MemoryStore.answer_received`); what the client makes of the response is alike to what the store answers
(`Encodes.alike_received`), and a store does not see how alike calls differ
(`MemoryStore.answer_of_alike`).
-/

namespace GoopOperator.Api

open Pass Lifecycle

/-! ## Side by side -/

/-- The request that a call sends. A job without a key sends none, nor does a call whose request has a
target that cannot be sent. -/
def sent? (pauseImage : String) (c : StoreCall) : Option Request :=
  match objectOf c with
  | .error _ => none
  | .ok (_, key) =>
    let request := Request.ofCall pauseImage key c
    (sendTarget request.target).toOption.map fun target => { request with target }

/-- The request of a call about an object with a valid key is sent as it is. -/
theorem sent?_eq {c : StoreCall} {kind : ObjectKind} {key : ObjectKey}
    (h : objectOf c = .ok (kind, key)) (hkey : key.isValid = true) (pauseImage : String) :
    sent? pauseImage c = some (Request.ofCall pauseImage key c) := by
  unfold sent?
  rw [h]
  simp only [sendTarget_ofCall hkey, Except.toOption, Option.map_some]

/-- What is sent goes to the target that it names. -/
theorem target_of_sent {c : StoreCall} {kind : ObjectKind} {key : ObjectKey}
    (h : objectOf c = .ok (kind, key)) {pauseImage : String}
    (hsent : sent? pauseImage c = some (Request.ofCall pauseImage key c)) :
    sendTarget (Request.ofCall pauseImage key c).target =
      .ok (Request.ofCall pauseImage key c).target := by
  unfold sent? at hsent
  rw [h] at hsent
  obtain ⟨target, htarget, hrequest⟩ := Option.map_eq_some_iff.mp hsent
  cases hsend : sendTarget (Request.ofCall pauseImage key c).target with
  | error e =>
    rw [hsend] at htarget
    cases htarget
  | ok target' =>
    rw [hsend] at htarget
    obtain rfl := Option.some.inj htarget
    exact congrArg Except.ok (congrArg Request.target hrequest)

/-- A server answers a request as a store does: with an encoding of what the store answers to the call
that the request asks for. -/
def AnswersFor {σ : Type} (serve : Server σ) (q : Request) (now : Instant) (w : σ) (s : MemoryStore) :
    Prop :=
  ∀ c kind key, q.call? = some c → objectOf c = .ok (kind, key) →
    ∃ r, (serve q now w).1.outcome = .ok r ∧ Encodes kind key c r (s.answer c).1

section beside

variable {σ : Type} (serve : Server σ) (pauseImage : String) (timeOfDay : Instant → Timestamp)
  (clock : Nat → Timestamp)

/-- The store behind a server, when a pass has asked for something: the server makes of it the call that
it reads from the request. -/
def behind (b : Bench) : Effect → Bench
  | .call c =>
    match (sent? pauseImage c).bind Request.call? with
    | some heard => (Bench.respond clock Bench.calm (.call heard) b).2
    | none => b
  | .clock => (Bench.respond clock Bench.calm .clock b).2
  | .work _ => b

/-- What is read from a request is asked of the store. -/
theorem behind_of_sent {c c' : StoreCall} {q : Request} (hsent : sent? pauseImage c = some q)
    (hread : q.call? = some c') (s : Bench) :
    behind pauseImage clock s (.call c) = (Bench.respond clock Bench.calm (.call c') s).2 := by
  simp only [behind, hsent, Option.bind_some, hread]

/-- What a pass over a server is answered, with the store behind the server. -/
def beside (e : Effect) (x : Bench × Instant × Observed σ) :
    e.Answer × Bench × Instant × Observed σ :=
  let answered := (surroundings serve pauseImage timeOfDay).respond .none e x.2
  (answered.1, behind pauseImage clock x.1 e, answered.2)

/-- A server answers what a pass asks for as the store behind it does. The time of day is the same for
both. -/
def AnswersAs : Effect → Bench × Instant × Observed σ → Prop
  | .call c, (b, now, o) => ∀ q, sent? pauseImage c = some q → AnswersFor serve q now o.store b.store
  | .clock, (b, now, _) => timeOfDay now = clock b.looks
  | .work _, _ => True

/-- A server stands in for a store throughout a pass: it answers each request of the pass as the store
does that has been asked for what the requests before it have asked for. -/
def StandsIn (p : Pass Requeue) (s : Bench) (x : Instant × Observed σ) : Prop :=
  Meets (beside serve pauseImage timeOfDay clock) (AnswersAs serve pauseImage timeOfDay clock)
    (fun _ _ => True) p (s, x)

/-- How a pass over a server is answered that nothing cuts off. -/
theorem respond_call (c : StoreCall) (x : Instant × Observed σ) :
    ((surroundings serve pauseImage timeOfDay).respond .none (.call c) x).1 =
      let taken := take serve pauseImage c x.1 x.2
      (taken.1.complete taken.2).1.mapError PassError.store := rfl

/-- A call of a job without a key is refused, and nothing is sent. -/
theorem respond_of_keyless {c : StoreCall} {e : KeyError} (h : objectOf c = .error e)
    (x : Instant × Observed σ) :
    ((surroundings serve pauseImage timeOfDay).respond .none (.call c) x).1 =
      .error (.store (.unprocessable e)) := by
  rw [respond_call]
  unfold take
  rw [h]
  rfl

/-- The server has seen the request of a call. -/
theorem store_respond {c : StoreCall} {kind : ObjectKind} {key : ObjectKey}
    (h : objectOf c = .ok (kind, key))
    (hsent : sendTarget (Request.ofCall pauseImage key c).target =
      .ok (Request.ofCall pauseImage key c).target) (x : Instant × Observed σ) :
    ((surroundings serve pauseImage timeOfDay).respond .none (.call c) x).2.2.store =
      (serve (Request.ofCall pauseImage key c) x.1 x.2.store).2 := by
  have hcompleted : ((surroundings serve pauseImage timeOfDay).respond .none (.call c) x).2.2.store =
      let taken := take serve pauseImage c x.1 x.2
      (taken.1.complete taken.2).2.store := rfl
  rw [hcompleted]
  unfold take
  rw [h]
  simp only [hsent]
  split <;> rfl

/-- A call whose request gets a response is answered as the client reads that. -/
theorem respond_of_response {c : StoreCall} {kind : ObjectKind} {key : ObjectKey}
    (h : objectOf c = .ok (kind, key))
    (hsent : sendTarget (Request.ofCall pauseImage key c).target =
      .ok (Request.ofCall pauseImage key c).target)
    {x : Instant × Observed σ} {r : Response}
    (hr : (serve (Request.ofCall pauseImage key c) x.1 x.2.store).1.outcome = .ok r) :
    ((surroundings serve pauseImage timeOfDay).respond .none (.call c) x).1 =
      clientAnswer kind key r c := by
  rw [respond_call]
  unfold take clientAnswer
  rw [h]
  simp only [hsent, Exchange.answer, hr]
  cases r.answer c <;> rfl

end beside

/-! ## The passes -/

section linked

variable {σ : Type} (serve : Server σ) (pauseImage : String) (timeOfDay : Instant → Timestamp)
  (clock : Nat → Timestamp) (b : Blur) (cx : Context)

/-- The store behind a server has come as far as a store: they differ in the expected numbers of runs
alone. -/
structure SameStore (s s' : Bench) : Prop where
  /-- What they hold. -/
  store : s'.store.uncounted = s.store.uncounted
  /-- How often the clock has been looked at. -/
  looks : s'.looks = s.looks

/-- A pass over a store and a pass over a server that stands in for it have come equally far. -/
structure Linked (x : Point Bench Requeue) (x' : Point (Instant × Observed σ) Requeue) : Prop where
  /-- The job in hand can be sent. -/
  held : ∀ g, inHand? cx.key x.history = some g → g.Portable b
  /-- So can the stored jobs. -/
  stored : x.state.store.Portable b
  /-- What the pass over the store asks for is known. -/
  asks : Everywhere (Asks cx) x.rest x.history
  /-- The server stands in for the store from here on. -/
  standsIn : ∃ s', SameStore x.state s' ∧
    StandsIn serve pauseImage timeOfDay clock x'.rest s' x'.state

/-- The call `c'` asks a server for what the call `c` asks a store for: they are the same but for what is
looked past, and from the request that `c'` sends `c` is read as it is received (`StoreCall.received`).
So a job is read as the job that `c` writes, but for what a text does not say of it, and a workload with
the key, the labels, the image, the command and the owner that it has in `c`. -/
structure Conveys (c c' : StoreCall) : Prop where
  /-- The calls are the same. -/
  alike : CallsAlike b c c'
  /-- The job that is written can be sent and read back. -/
  portable : ∀ g, writtenJob? c = some g → g.Portable b
  /-- The request that is sent is read as the call. -/
  read : ∀ kind key, objectOf c' = .ok (kind, key) →
    ∃ q, sent? pauseImage c' = some q ∧ q.call? = some c.received

variable {serve pauseImage timeOfDay clock b cx}

/-- Alike calls are about the same object. -/
theorem objectOf_of_alike {c c' : StoreCall} (h : CallsAlike b c c') : objectOf c = objectOf c' := by
  cases h with
  | get key => rfl
  | update hg =>
    exact Goop.same_of_blur (f := fun g => objectOf (.update g)) hg fun g => rfl
  | updateStatus hg =>
    exact Goop.same_of_blur (f := fun g => objectOf (.updateStatus g)) hg fun g => rfl
  | getWorkload key => rfl
  | createWorkload d => rfl

/-- Alike calls are received as the same, where versions and times are seen. -/
theorem received_of_alike (hb : b.SeesData) {c c' : StoreCall} (h : CallsAlike b c c') :
    c'.received = c.received := by
  cases h with
  | get key => rfl
  | update hg => exact congrArg StoreCall.update (Goop.settled_eq hb hg).symm
  | updateStatus hg => exact congrArg StoreCall.updateStatus (Goop.settled_eq hb hg).symm
  | getWorkload key => rfl
  | createWorkload d => rfl

/-- A call is received as one about the same object. -/
theorem objectOf_received (c : StoreCall) : objectOf c.received = objectOf c := by
  cases c <;> rfl

/-- The jobs that a pass writes can be sent, if the one in hand can. -/
theorem portable_of_calls {h : History} (hheld : ∀ g, inHand? cx.key h = some g → g.Portable b)
    {c : StoreCall} (hc : Calls cx h c) {g : Goop} (hg : writtenJob? c = some g) : g.Portable b := by
  cases hc with
  | read => cases hg
  | write hg₀ hw =>
    have hportable := hheld _ hg₀
    cases hw <;> (obtain rfl := Option.some.inj hg; exact hportable.of_same rfl rfl rfl rfl)
  | look hwanted => cases hg
  | create hg₀ hs hl hd => cases hg

/-- The keys of the objects that a pass calls about are valid, if its own key is valid and that of the
job in hand is. -/
theorem valid_of_calls (hkey : cx.key.isValid = true) {h : History}
    (hheld : ∀ g, inHand? cx.key h = some g → g.Portable b) {c : StoreCall} (hc : Calls cx h c)
    {kind : ObjectKind} {key : ObjectKey} (hobject : objectOf c = .ok (kind, key)) :
    key.isValid = true := by
  have hwritten {g : Goop} (hg : writtenJob? c = some g) : key.isValid = true := by
    have hgkey : g.key = .ok key := by
      rw [key_of_written hg, hobject]
      rfl
    exact (portable_of_calls hheld hc hg).valid _ hgkey
  cases hc with
  | read =>
    obtain ⟨-, rfl⟩ := Prod.mk.inj (Except.ok.inj hobject)
    exact hkey
  | write hg hw => cases hw <;> exact hwritten rfl
  | look hwanted =>
    obtain ⟨-, rfl⟩ := Prod.mk.inj (Except.ok.inj hobject)
    exact hkey
  | create hg hs hl hd =>
    obtain ⟨-, rfl⟩ := Prod.mk.inj (Except.ok.inj hobject)
    exact (hheld _ hg).valid _ (WorkloadSpec.of_plan hs).1

/-- The request of a call that is like one of a pass over a store is read as the call. -/
theorem read_of_calls (pauseImage : String) (hb : b.SeesData) (hkey : cx.key.isValid = true) {h : History}
    (hheld : ∀ g, inHand? cx.key h = some g → g.Portable b) {c c' : StoreCall} (hc : Calls cx h c)
    (halike : CallsAlike b c c') {kind : ObjectKind} {key : ObjectKey}
    (hobject : objectOf c' = .ok (kind, key)) :
    sent? pauseImage c' = some (Request.ofCall pauseImage key c') ∧
      (Request.ofCall pauseImage key c').call? = some c'.received := by
  have hvalid : key.isValid = true :=
    valid_of_calls hkey hheld hc ((objectOf_of_alike halike).trans hobject)
  have hproper : ∀ g, writtenJob? c' = some g → g.metadata.IsProper := by
    intro g hg
    cases halike with
    | update hsame =>
      obtain rfl := Option.some.inj hg
      exact (portable_of_calls hheld hc rfl).isProper hb hsame
    | updateStatus hsame =>
      obtain rfl := Option.some.inj hg
      exact (portable_of_calls hheld hc rfl).isProper hb hsame
    | _ => cases hg
  exact ⟨sent?_eq hobject hvalid pauseImage, call?_ofCall hobject hvalid hproper pauseImage⟩

/-- A store refuses a job without a key, and does nothing. -/
theorem answer_of_keyless {c : StoreCall} {e : KeyError} (h : objectOf c = .error e)
    (s : MemoryStore) : s.answer c = (.error (.unprocessable e), s) := by
  have hkeyless {g : Goop} (hg : writtenJob? c = some g) : g.key = .error e := by
    rw [key_of_written hg, h]
    rfl
  cases c with
  | update g => rw [MemoryStore.answer_update_eq, hkeyless rfl]
  | updateStatus g => rw [MemoryStore.answer_updateStatus_eq, hkeyless rfl]
  | _ => cases h

/-- What a server answers that stands in for a store is alike to what the store answers, and the store
behind it goes on to differ in the expected numbers of runs alone. -/
theorem alike_of_answersAs (hb : b.SeesData) (hwording : b.wording = true) {c : StoreCall}
    {s s' : Bench} (hsame : SameStore s s') (hs : s.store.Portable b) {x : Instant × Observed σ}
    (hserver : AnswersAs serve pauseImage timeOfDay clock (.call c) (s', x))
    (hread : ∀ kind key, objectOf c = .ok (kind, key) →
      sent? pauseImage c = some (Request.ofCall pauseImage key c) ∧
        (Request.ofCall pauseImage key c).call? = some c.received) :
    AnswersAlike b c c ((s.store.answer c).1.mapError .store)
        ((surroundings serve pauseImage timeOfDay).respond .none (.call c) x).1 ∧
      SameStore (Bench.respond clock Bench.calm (.call c) s).2
        (behind pauseImage clock s' (.call c)) := by
  cases hobject : objectOf c with
  | error e =>
    -- nothing is sent, so the store behind the server stays as it is, and the other store does too
    have hnone : sent? pauseImage c = none := by
      unfold sent?
      rw [hobject]
    have hbehind : behind pauseImage clock s' (.call c) = s' := by
      simp only [behind, hnone, Option.bind_none]
    have hanswer := answer_of_keyless hobject s.store
    have hkept : (s.store.answer c).2 = s.store := by rw [hanswer]
    rw [respond_of_keyless _ _ _ hobject, hbehind]
    refine ⟨?_, hsame.store.trans (congrArg MemoryStore.uncounted hkept.symm), hsame.looks⟩
    rw [hanswer]
    cases c <;> rfl
  | ok object =>
    obtain ⟨kind, key⟩ := object
    obtain ⟨hsent, hcall⟩ := hread kind key hobject
    -- the store behind the server is asked for the call as it is received
    have hbehind : behind pauseImage clock s' (.call c) =
        (Bench.respond clock Bench.calm (.call c.received) s').2 :=
      behind_of_sent pauseImage clock hsent hcall s'
    obtain ⟨r, hr, hencodes⟩ := hserver _ hsent _ kind key hcall ((objectOf_received c).trans hobject)
    rw [respond_of_response _ _ _ hobject (target_of_sent hobject hsent) hr, hbehind]
    exact ⟨hencodes.alike_received hsame.store hs hb hwording,
      (MemoryStore.answer_received hsame.store c).2, hsame.looks⟩

/-- The passes go side by side. -/
theorem couples_of_linked (hb : b.SeesData) (hwording : b.wording = true)
    (hkey : cx.key.isValid = true) :
    Couples b (Bench.respond clock Bench.calm)
      ((surroundings serve pauseImage timeOfDay).respond .none)
      (Linked serve pauseImage timeOfDay clock b cx) (Conveys pauseImage b) := by
  refine ⟨fun {h next s h' next' x} hx => ?_, fun {h c next s h' c' next' x} hx halike => ?_⟩
  · obtain ⟨s', hsame, hserver⟩ := hx.standsIn
    have htime : timeOfDay x.1 = clock s.looks := hsame.looks ▸ hserver.1
    have hnext : SameStore (Bench.respond clock Bench.calm .clock s).2
        (behind pauseImage clock s' .clock) := ⟨hsame.store, congrArg (· + 1) hsame.looks⟩
    exact ⟨congrArg (fun t : Timestamp => b.time t.toText) htime.symm, hx.held, hx.stored,
      hx.asks.2 _, _, hnext, hserver.2⟩
  · obtain ⟨s', hsame, hserver⟩ := hx.standsIn
    have hc : Calls cx h c := hx.asks.1.made
    have hread := fun kind key (hobject : objectOf c' = .ok (kind, key)) =>
      read_of_calls pauseImage hb hkey hx.held hc halike hobject
    have hstore := s.store.answer_of_alike hb halike
    obtain ⟨hclient, hnext⟩ := alike_of_answersAs hb hwording hsame hx.stored hserver.1 hread
    -- the store does for the call of the other pass what it has done for that of its own
    have hbench : (Bench.respond clock Bench.calm (.call c') s).2 =
        (Bench.respond clock Bench.calm (.call c) s).2 := by
      simp [Bench.respond, Bench.calm, hstore.2]
    rw [hbench] at hnext
    have hconveys : Conveys pauseImage b c c' := by
      refine ⟨halike, fun g => portable_of_calls hx.held hc, fun kind key hobject => ?_⟩
      obtain ⟨hsent, hcall⟩ := hread kind key hobject
      rw [received_of_alike hb halike] at hcall
      exact ⟨_, hsent, hcall⟩
    refine ⟨hconveys, hstore.1.trans hclient, fun g hg => ?_,
      MemoryStore.portable_after hx.stored c, hx.asks.2 _, _, hnext, hserver.2⟩
    rcases (inHand?_answered hg).2 with hheld | hstored
    · exact hx.held g hheld
    · exact hx.stored _ g hstored

end linked

/-! ## Standing in -/

/-- What is lost between a store and a client is looked past: the wording of a transient failure and,
where `lossy` is set, what a text does not say of a job, which is the fractions of seconds of its times
and that a field set is `null` and not absent. -/
def transported (lossy : Bool) : Blur where
  versions := false
  times := false
  losses := lossy
  wording := true

/-- Two results are the same, but for the wording of a transient failure. -/
def SameEnd (r r' : Except PassError Requeue) : Prop :=
  r = r' ∨ ∃ m m', r = .error (.store (.transient m)) ∧ r' = .error (.store (.transient m'))

/-- Results of which the same is seen. -/
theorem sameEnd_of_result {b : Blur} {r r' : Except PassError Requeue}
    (h : b.result id r = b.result id r') : SameEnd r r' := by
  rcases Blur.result_cases h with ⟨e, e', rfl, rfl, he⟩ | ⟨a, a', rfl, rfl, ha⟩
  · rcases Blur.error_cases he with rfl | ⟨m, m', rfl, rfl⟩
    · exact .inl rfl
    · exact .inr ⟨m, m', rfl, rfl⟩
  · exact .inl (congrArg Except.ok ha)

/-- Where nothing of a job is looked past, alike calls are the same. -/
theorem eq_of_callsAlike {c c' : StoreCall} (h : CallsAlike (transported false) c c') : c = c' := by
  have hseen (g : Goop) : g.blur (transported false) = g := Goop.blur_eq ⟨rfl, rfl⟩ g
  cases h with
  | get key => rfl
  | update hg =>
    rw [hseen, hseen] at hg
    exact congrArg StoreCall.update hg
  | updateStatus hg =>
    rw [hseen, hseen] at hg
    exact congrArg StoreCall.updateStatus hg
  | getWorkload key => rfl
  | createWorkload d => rfl

/-- A server may stand in for a store in memory. Take a pass over a valid key, a store whose jobs have
valid keys and JSON values as field sets, and a server that reads what each request of the pass asks for
and answers with an encoding of what the store answers to that (`StandsIn`); a failure of the store then
names the object that the call is about, if it names one. The pass over the server makes the calls that
the pass over the store makes, one by one, and each of them is read from its request (`Conveys`): a job
as the job that the other pass writes, but for the fractions of seconds, which no text says, and a
workload with its key, labels, image, command and owner. Where the times of the stored jobs are those of
whole seconds, those of their managed fields too, and no field set is `null`, the calls are the same as
they stand, and the jobs are read as they are. The passes end in the same way, but for what a transient failure says. -/
theorem server_stands_for_store {σ : Type} (serve : Server σ) (pauseImage : String)
    (timeOfDay : Instant → Timestamp) (clock : Nat → Timestamp) (cx : Context)
    (hkey : cx.key.isValid = true) (s : MemoryStore)
    (hstored : ∀ k g, s.goops.get? k = some g →
      g.metadata.IsProper ∧ ∀ key, g.key = .ok key → key.isValid = true)
    (start : Instant) (w : σ)
    (hserver : StandsIn serve pauseImage timeOfDay clock (reconcile chain cx) (.new s)
      (start, .new w)) :
    let p := reconcile chain cx
    let overStore := Bench.respond clock Bench.calm
    let overServer := (surroundings serve pauseImage timeOfDay).respond .none
    let calls := p.callsMade overStore (.new s)
    let calls' := p.callsMade overServer (start, .new w)
    List.Forall₂ (Conveys pauseImage (transported true)) calls calls' ∧
    ((∀ k g, s.goops.get? k = some g → g.metadata.HasWholeSeconds ∧
        ∀ es ∈ g.metadata.managedFields, ∀ e ∈ es, e.settled = e) →
      calls' = calls ∧ ∀ c ∈ calls, ∀ g, writtenJob? c = some g → g.settled = g) ∧
    SameEnd (p.run overStore (.new s)).1 (p.run overServer (start, .new w)).1 := by
  intro p overStore overServer calls calls'
  have hruns {lossy : Bool} (hp : s.Portable (transported lossy)) :
      RunAlike (transported lossy) id overStore overServer
        (Linked serve pauseImage timeOfDay clock (transported lossy) cx)
        (Conveys pauseImage (transported lossy)) p p (.new s) (start, .new w) := by
    have hlinked : Linked serve pauseImage timeOfDay clock (transported lossy) cx
        ⟨[], p, .new s⟩ ⟨[], p, start, .new w⟩ :=
      ⟨fun g hg => (nomatch hg), hp, reconcile_asks cx, .new s, ⟨rfl, rfl⟩, hserver⟩
    exact (reconcile_alike (transported lossy) cx).run (couples_of_linked ⟨rfl, rfl⟩ rfl hkey) hlinked
  have hportable : s.Portable (transported true) := fun k g hg =>
    ⟨(hstored k g hg).1, (hstored k g hg).2, .inl rfl⟩
  refine ⟨(hruns hportable).calls, fun hwhole => ?_, sameEnd_of_result (hruns hportable).result⟩
  -- where nothing is lost, the calls are the same as they stand
  have hexact : s.Portable (transported false) := fun k g hg =>
    ⟨(hstored k g hg).1, (hstored k g hg).2,
      .inr (ObjectMeta.settled_of_whole (hwhole k g hg).1 (hwhole k g hg).2)⟩
  have hconveys : List.Forall₂ (Conveys pauseImage (transported false)) calls calls' :=
    (hruns hexact).calls
  have hsame : calls = calls' := by
    rw [← List.forall₂_eq_eq_eq]
    exact hconveys.imp fun c c' hc => eq_of_callsAlike hc.alike
  rw [← hsame, List.forall₂_same] at hconveys
  refine ⟨hsame.symm, fun c hc g hg => ?_⟩
  rcases ((hconveys c hc).portable g hg).kept with hlossy | hmetadata
  · cases hlossy
  · unfold Goop.settled
    rw [hmetadata]

/-! ## A server that stands in -/

section rules

variable {σ : Type} {serve : Server σ} {pauseImage : String} {timeOfDay : Instant → Timestamp}
  {clock : Nat → Timestamp} {s : Bench} {x : Instant × Observed σ}

/-- A server stands in for a store from a call on, if the request is read as the call, its response
encodes what the store answers to that, and the server stands in for the store afterwards. -/
theorem standsIn_call {c : StoreCall} {kind : ObjectKind} {key : ObjectKey} {r : Response}
    {next : (Effect.call c).Answer → Pass Requeue} (hobject : objectOf c = .ok (kind, key))
    (hkey : key.isValid = true) (hproper : ∀ g, writtenJob? c = some g → g.metadata.IsProper)
    (hr : (serve (Request.ofCall pauseImage key c) x.1 x.2.store).1.outcome = .ok r)
    (hencodes : Encodes kind key c.received r (s.store.answer c.received).1)
    (hnext : ∀ x', x'.2.store = (serve (Request.ofCall pauseImage key c) x.1 x.2.store).2 →
      StandsIn serve pauseImage timeOfDay clock (next (clientAnswer kind key r c))
        (Bench.respond clock Bench.calm (.call c.received) s).2 x') :
    StandsIn serve pauseImage timeOfDay clock (.perform (.call c) next) s x := by
  have hsent := sent?_eq hobject hkey pauseImage
  have hread := call?_ofCall hobject hkey hproper pauseImage
  have htarget := sendTarget_ofCall hkey pauseImage c
  refine ⟨fun q hq heard kind' key' hheard hobject' => ?_, ?_⟩
  -- there is one request, and one call that is read from it
  · obtain rfl := Option.some.inj (hsent.symm.trans hq)
    obtain rfl := Option.some.inj (hread.symm.trans hheard)
    rw [objectOf_received, hobject] at hobject'
    obtain ⟨rfl, rfl⟩ := Prod.mk.inj (Except.ok.inj hobject')
    exact ⟨r, hr, hencodes⟩
  · have hrest := hnext _ (store_respond serve pauseImage timeOfDay hobject htarget x)
    rw [← respond_of_response serve pauseImage timeOfDay hobject htarget hr,
      ← behind_of_sent pauseImage clock hsent hread] at hrest
    exact hrest

/-- A server stands in for a store from a look at the time of day on, if that is the same for both, and
it does so afterwards. -/
theorem standsIn_clock {next : Timestamp → Pass Requeue} (htime : timeOfDay x.1 = clock s.looks)
    (hnext : StandsIn serve pauseImage timeOfDay clock (next (clock s.looks))
      (Bench.respond clock Bench.calm .clock s).2 x) :
    StandsIn serve pauseImage timeOfDay clock (.perform .clock next) s x := by
  rw [← htime] at hnext
  exact ⟨htime, hnext⟩

end rules

/-- An echo is a response with the body of the request. -/
theorem outcome_echo {q : Request} {v : Json} (h : q.body = some v) (status : Nat) :
    (Content.echo status).outcome q = .ok ⟨status, bytes v.compact⟩ := by
  unfold Content.outcome
  rw [h]
  rfl

/-! ### A sample -/

namespace SampleServer

open SamplePass

/-- The sample job as a store keeps it. -/
def kept : Goop := ((MemoryStore.empty 1).insert job "uid" noon).1

/-- Half a second past noon. -/
def past : Timestamp := ⟨noon.date, 12, 0, ⟨0, 500000000⟩, by decide⟩

/-- The job, created at a time `t`, when it is initialized and has something to run. -/
def waiting (t : Timestamp) : Goop :=
  { kept with
    metadata := { kept.metadata with creationTimestamp := some t, finalizers := some [defaultFinalizer] }
    spec := { GoopSpec.empty with image := some "job:1", jobCount := some 3 }
    status := some ⟨⟨[⟨.available, .yes, .initialized, "ready", some "before noon"⟩]⟩⟩ }

/-- The job with the record of its deployment. -/
def deployed (t : Timestamp) : Goop :=
  (waiting t).withLedger ((waiting t).ledger.push (created (waiting t)) noon.toText)

/-- What is run for it. -/
def spec : WorkloadSpec where
  key := cx.key
  labels := recommendedLabels "job" "job:1"
  image := "job:1"
  command := ["sleep", "11"]
  jobCount := some 3
  owner := some ⟨Goop.apiVersion, Goop.kind, "job", "uid", some true, none⟩

/-- A store that keeps the job, and is about to fail to write its status. -/
def failing (t : Timestamp) : MemoryStore :=
  ((MemoryStore.empty 1).insert (waiting t) "uid" t).2.queueFault .updateStatus (.transient "no leader")

/-- A DaemonSet that there is not. -/
def absent : Json :=
  .obj [("status", .str "Failure"), ("message", .str "not found"), ("reason", .str "NotFound"),
    ("code", .int 404)]

/-- The job in a response. -/
def sent (t : Timestamp) : Response := ⟨200, bytes (waiting t).toJson.compact⟩

/-- A response for want of the DaemonSet. -/
def refusal : Response := ⟨404, bytes absent.compact⟩

/-- The DaemonSet in a response, as it has been sent. -/
def echoed : Response := ⟨201, bytes (DaemonSet.ofWorkload spec defaultPauseImage).toJson.compact⟩

/-- A server that has the job but no DaemonSet, creates one, and then does not answer. -/
def replies (t : Timestamp) : Script :=
  ⟨[⟨1, .response (sent t)⟩, ⟨1, .response refusal⟩, ⟨1, .echo 201⟩, ⟨2, .response ⟨503, []⟩⟩], []⟩

variable {t : Timestamp}

/-- It is the only job in the store. -/
theorem of_failing {k : ObjectKey} {g : Goop} (hg : (failing t).goops.get? k = some g) :
    g = waiting t := by
  change (if k = cx.key then some (waiting t) else none) = some g at hg
  split at hg
  · exact (Option.some.inj hg).symm
  · cases hg

/-- It has no managed fields. -/
theorem waiting_proper : (waiting t).metadata.IsProper := fun _ h => nomatch h

/-- The first response says the job. -/
theorem says_sent : (sent t).Says (waiting t).toJson :=
  says_compact 200 (Goop.yields waiting_proper).legible

/-- The client reads the job from it, as one that was created at a whole second. -/
theorem clientAnswer_sent : clientAnswer .goop cx.key (sent t) (.get cx.key) = .ok (waiting t.whole) := by
  have hread : Goop.ofJson? (waiting t).toJson = some (waiting t.whole) :=
    (Goop.yields waiting_proper).read
  have hanswer : (sent t).answer (.get cx.key) = .ok (waiting t.whole) :=
    says_sent.object (Nat.le_add_right 200 99) hread
  exact clientAnswer_ok hanswer

/-- The second response says that there is no DaemonSet. -/
theorem explains_refusal : refusal.Explains 404 "not found" "NotFound" :=
  ⟨rfl, absent, says_compact 404 (by decide), rfl⟩

/-- So the client reads it. -/
theorem clientAnswer_refusal :
    clientAnswer .daemonSet cx.key refusal (.getWorkload cx.key) =
      .error (.store (.notFound .daemonSet cx.key)) := by
  have hanswer : refusal.answer (.getWorkload cx.key) = .error (.refused 404 "not found" "NotFound") :=
    congrArg (Except.map ObservedDaemonSet.workload)
      (explains_refusal.object (by decide) (by decide) ObservedDaemonSet.ofJson?)
  exact clientAnswer_error hanswer

/-- The third response says the DaemonSet that has been sent. -/
theorem says_echoed : echoed.Says (DaemonSet.ofWorkload spec defaultPauseImage).toJson :=
  says_compact 201 (DaemonSet.yields spec defaultPauseImage).legible

/-- The workload has been created, then. -/
theorem clientAnswer_echoed :
    clientAnswer .daemonSet spec.key echoed (.createWorkload spec) = .ok () := by
  have hanswer : echoed.answer (.createWorkload spec) = .ok () :=
    congrArg (Except.map fun _ => ()) (says_echoed.object (by decide) (DaemonSet.observed _ _))
  exact clientAnswer_ok hanswer

/-- A response without a body says no value. -/
theorem not_says_empty (status : Nat) (v : Json) : ¬ Response.Says ⟨status, []⟩ v := by
  rintro ⟨text, htext, hparse⟩
  obtain rfl := Except.ok.inj htext
  cases hparse

/-- The last response says that the server was not able to answer. -/
theorem refuses_empty (message : String) :
    Refuses .goop cx.key ⟨503, []⟩ (.transient message) :=
  .transient (by decide) (by decide) fun v _ _ _ hbody _ => (not_says_empty 503 v hbody).elim

/-- The responses encode what the store answers to the calls of the pass, and there are no others. -/
theorem standsIn_replies : StandsIn script defaultPauseImage (fun _ => noon) (fun _ => noon)
    (reconcile chain cx) (.new (failing t)) (0, .new (replies t)) := by
  refine standsIn_call (c := .get cx.key) rfl (by decide) (fun g hg => nomatch hg) rfl
    (.given (Nat.le_refl 200) (Nat.le_add_right 200 99) says_sent rfl) fun x hx => ?_
  rw [clientAnswer_sent]
  refine standsIn_call (c := .getWorkload cx.key) rfl (by decide) (fun g hg => nomatch hg)
    (by rw [hx]; rfl) (.refused (.notFound explains_refusal)) fun y hy => ?_
  rw [clientAnswer_refusal]
  refine standsIn_call (c := .createWorkload spec) rfl (by decide) (fun g hg => nomatch hg)
    (by rw [hy, hx]; exact outcome_echo rfl 201)
    (.given (by decide) (by decide) says_echoed ⟨_, DaemonSet.observed _ _⟩) fun z hz => ?_
  rw [clientAnswer_echoed]
  have hobject : objectOf (.updateStatus (deployed t.whole)) = .ok (.goop, cx.key) := rfl
  refine standsIn_clock rfl (standsIn_call hobject (by decide) (fun g hg => ?_)
    (by rw [hz, hy, hx]; rfl) (.refused (refuses_empty "no leader")) fun _ _ => ?_)
  · obtain rfl := Option.some.inj hg
    exact waiting_proper
  · obtain ⟨e, hfailed, -⟩ := (refuses_empty "no leader").clientAnswer (b := transported true) rfl _
    rw [hfailed]
    trivial

end SampleServer

open SamplePass SampleServer in
/-- A pass over the server creates the DaemonSet of a job that was created half a second past noon, and
fails to record that, as the pass over the store does. It works on the job as one created at noon. Where
the job was created then, it makes the same calls. -/
theorem sample_stands_in :
    let p := reconcile chain cx
    let overStore := Bench.respond (fun _ => noon) Bench.calm
    let overServer := (surroundings script defaultPauseImage fun _ => noon).respond .none
    p.callsMade overStore (.new (failing past)) =
        [.get cx.key, .getWorkload cx.key, .createWorkload spec, .updateStatus (deployed past)] ∧
      List.Forall₂ (Conveys defaultPauseImage (transported true))
        (p.callsMade overStore (.new (failing past))) (p.callsMade overServer (0, .new (replies past))) ∧
      p.callsMade overServer (0, .new (replies noon)) =
        [.get cx.key, .getWorkload cx.key, .createWorkload spec, .updateStatus (deployed noon)] ∧
      ∃ m, (p.run overServer (0, .new (replies past))).1 = .error (.store (.transient m)) := by
  have hvalid : cx.key.isValid = true := by decide
  have hstored (t : Timestamp) : ∀ k g, (failing t).goops.get? k = some g →
      g.metadata.IsProper ∧ ∀ key, g.key = .ok key → key.isValid = true := by
    intro k g hg
    obtain rfl := of_failing hg
    refine ⟨waiting_proper, fun key hkey => ?_⟩
    obtain rfl := Except.ok.inj hkey
    exact hvalid
  have hpass (t : Timestamp) := server_stands_for_store script defaultPauseImage (fun _ => noon)
    (fun _ => noon) cx hvalid (failing t) (hstored t) 0 (replies t) standsIn_replies
  obtain ⟨hconveys, -, hend⟩ := hpass past
  have hwhole : ∀ k g, (failing noon).goops.get? k = some g → g.metadata.HasWholeSeconds ∧
      ∀ es ∈ g.metadata.managedFields, ∀ e ∈ es, e.settled = e := by
    intro k g hg
    obtain rfl := of_failing hg
    exact ⟨⟨rfl, rfl⟩, fun _ h => nomatch h⟩
  refine ⟨rfl, hconveys, ((hpass noon).2.1 hwhole).1.trans rfl, ?_⟩
  rcases hend with hsame | ⟨-, m, -, hend⟩
  · exact ⟨"no leader", hsame.symm.trans rfl⟩
  · exact ⟨m, hend⟩

end GoopOperator.Api
